import DryRun.Proofs.Bracket.Nesting
import DryRun.Proofs.Expression.Form
import DryRun.Proofs.Text.Pieces

/-!
# Items

What the comma splitter and the bracket counter see of a text that closes whatever it opens: they
pass over it as a whole (`Sealed`). Such texts with commas between them are split into themselves
(`splitItems_join`), and in square brackets they are the contents of a list.
-/

namespace DryRun

namespace Expression

open Text

/-! ## One character -/

theorem piecesFrom_quoted (quote : Quote) (depth : Int) (c : Char) (rest : Text) :
    piecesFrom (some quote) depth (c :: rest) =
      growFirst c (piecesFrom (Quote.openAfter (some quote) c) depth rest) := rfl

theorem piecesFrom_cons {depth : Int} {c : Char} (h : (c = ',' && depth = 0) = false)
    (rest : Text) :
    piecesFrom none depth (c :: rest) =
      growFirst c (piecesFrom (Quote.openAfter none c) (depth + depthChange c) rest) := by
  rw [piecesFrom, if_neg nofun, if_neg (Bool.eq_false_iff.1 h)]

theorem piecesFrom_comma (rest : Text) :
    piecesFrom none 0 (',' :: rest) = [] :: piecesFrom none 0 rest := by
  rw [piecesFrom]
  rfl

theorem piecesFrom_ne_nil (quote : Option Quote) (depth : Int) (text : Text) :
    piecesFrom quote depth text ≠ [] := by
  cases text with
  | nil => exact List.cons_ne_nil _ _
  | cons c rest =>
    rw [piecesFrom]
    split
    · exact growFirst_ne_nil _ _
    · split
      · exact List.cons_ne_nil _ _
      · exact growFirst_ne_nil _ _

theorem depthAtEnd?_quoted (bracket : Bracket) (quote : Quote) (depth : Nat) (c : Char)
    (rest : Text) :
    depthAtEnd? bracket (some quote) depth (c :: rest) =
      depthAtEnd? bracket (Quote.openAfter (some quote) c) depth rest := by
  rw [depthAtEnd?.eq_def]
  exact if_pos rfl

theorem depthAtEnd?_other {bracket : Bracket} {c : Char} (hopener : c ≠ bracket.opener)
    (hcloser : c ≠ bracket.closer) (depth : Nat) (rest : Text) :
    depthAtEnd? bracket none depth (c :: rest) =
      depthAtEnd? bracket (Quote.openAfter none c) depth rest := by
  rw [depthAtEnd?.eq_def]
  exact (if_neg hopener).trans (if_neg hcloser)

/-! ## Sealed texts -/

/-- A text that closes the quotes and brackets that it opens, and has no comma outside of them
unless it stands as deep in brackets as is said. -/
structure Sealed (least : Nat) (text : Text) : Prop where
  piecesFrom_append : ∀ (depth : Nat) (rest : Text), least ≤ depth →
    piecesFrom none depth (text ++ rest) = text.foldr growFirst (piecesFrom none depth rest)
  depthAtEnd?_append : ∀ (depth : Nat) (rest : Text),
    depthAtEnd? .square none depth (text ++ rest) = depthAtEnd? .square none depth rest

/-- A character that is neither comma, nor quote, nor bracket. -/
structure Plain (c : Char) : Prop where
  ne_comma : c ≠ ','
  ofQuote : Quote.ofChar? c = none
  ofBracket : Bracket.ofChar? c = none

instance (c : Char) : Decidable (Plain c) :=
  decidable_of_iff (c ≠ ',' ∧ Quote.ofChar? c = none ∧ Bracket.ofChar? c = none)
    ⟨fun ⟨hcomma, hquote, hbracket⟩ => ⟨hcomma, hquote, hbracket⟩,
      fun h => ⟨h.ne_comma, h.ofQuote, h.ofBracket⟩⟩

theorem Plain.ne_char {c : Char} (h : Plain c) (side : Bracket.Side) (bracket : Bracket) :
    c ≠ side.char bracket := by
  rintro rfl
  have hbracket := h.ofBracket
  rw [Bracket.ofChar?_char] at hbracket
  cases hbracket

namespace Sealed

theorem nil (least : Nat) : Sealed least [] where
  piecesFrom_append _ _ _ := rfl
  depthAtEnd?_append _ _ := rfl

theorem mono {least least' : Nat} {text : Text} (h : Sealed least text) (hle : least ≤ least') :
    Sealed least' text where
  piecesFrom_append depth rest hdepth := h.piecesFrom_append depth rest (hle.trans hdepth)
  depthAtEnd?_append := h.depthAtEnd?_append

theorem append {least : Nat} {left right : Text} (hleft : Sealed least left)
    (hright : Sealed least right) : Sealed least (left ++ right) where
  piecesFrom_append depth rest hdepth := by
    rw [List.append_assoc, hleft.piecesFrom_append _ _ hdepth, hright.piecesFrom_append _ _ hdepth,
      List.foldr_append]
  depthAtEnd?_append depth rest := by
    rw [List.append_assoc, hleft.depthAtEnd?_append, hright.depthAtEnd?_append]

theorem plain {c : Char} (h : Plain c) : Sealed 0 [c] where
  piecesFrom_append depth rest _ := by
    have hchange : depthChange c = 0 := by rw [depthChange, h.ofBracket]
    have hopen : Quote.openAfter none c = none := h.ofQuote
    rw [List.singleton_append, piecesFrom_cons (by simp [h.ne_comma]), hopen, hchange,
      Int.add_zero]
    rfl
  depthAtEnd?_append depth rest := by
    have hopen : Quote.openAfter none c = none := h.ofQuote
    rw [List.singleton_append, depthAtEnd?_other (h.ne_char .opens .square)
      (h.ne_char .closes .square), hopen]

theorem plainText {text : Text} (h : (text.all fun c => Plain c) = true) : Sealed 0 text := by
  induction text with
  | nil => exact nil 0
  | cons c rest ih =>
    rw [List.all_cons, Bool.and_eq_true] at h
    exact (plain (of_decide_eq_true h.1)).append (ih h.2)

/-- Within brackets a comma separates nothing. -/
theorem comma : Sealed 1 [','] where
  piecesFrom_append depth rest hdepth := by
    have hinside : (',' = ',' && (depth : Int) = 0) = false := by
      simp only [Bool.and_eq_false_iff, decide_eq_false_iff_not]
      omega
    rw [List.singleton_append, piecesFrom_cons hinside]
    show growFirst ',' (piecesFrom none (depth + 0) rest) = _
    rw [Int.add_zero]
    rfl
  depthAtEnd?_append depth rest := depthAtEnd?_other (by decide) (by decide) depth rest

theorem openAfter_inside {quote : Quote} {c : Char} (h : c ≠ quote.char) :
    Quote.openAfter (some quote) c = some quote := by
  unfold Quote.openAfter
  exact if_neg h

theorem quoted {quote : Quote} {text : Text} (h : quote.char ∉ text) :
    Sealed 0 (quote.char :: (text ++ [quote.char])) where
  piecesFrom_append depth rest _ := by
    have hinside : piecesFrom (some quote) depth (text ++ quote.char :: rest) =
        text.foldr growFirst (growFirst quote.char (piecesFrom none depth rest)) := by
      induction text with
      | nil =>
        rw [List.nil_append, piecesFrom_quoted]
        simp [Quote.openAfter]
      | cons c others ih =>
        obtain ⟨hne, hothers⟩ := not_or.1 (mt List.mem_cons.2 h)
        rw [List.cons_append, piecesFrom_quoted, openAfter_inside (Ne.symm hne), ih hothers]
        rfl
    have hcomma : (quote.char = ',' && (depth : Int) = 0) = false := by
      cases quote <;> rfl
    have hchange : depthChange quote.char = 0 := by cases quote <;> decide
    have hopen : Quote.openAfter none quote.char = some quote := Quote.ofChar?_char quote
    rw [List.cons_append, List.append_assoc, List.singleton_append, piecesFrom_cons hcomma, hopen,
      hchange, Int.add_zero, hinside, List.foldr_cons, List.foldr_append]
    rfl
  depthAtEnd?_append depth rest := by
    have hinside : depthAtEnd? .square (some quote) depth (text ++ quote.char :: rest) =
        depthAtEnd? .square none depth rest := by
      induction text with
      | nil =>
        rw [List.nil_append, depthAtEnd?_quoted]
        simp [Quote.openAfter]
      | cons c others ih =>
        obtain ⟨hne, hothers⟩ := not_or.1 (mt List.mem_cons.2 h)
        rw [List.cons_append, depthAtEnd?_quoted, openAfter_inside (Ne.symm hne), ih hothers]
    have hopen : Quote.openAfter none quote.char = some quote := Quote.ofChar?_char quote
    have hopener : quote.char ≠ Bracket.square.opener := by cases quote <;> decide
    have hcloser : quote.char ≠ Bracket.square.closer := by cases quote <;> decide
    rw [List.cons_append, List.append_assoc, List.singleton_append,
      depthAtEnd?_other hopener hcloser, hopen, hinside]

/-- A bracket shields the commas between it and its partner. -/
theorem enclosed (bracket : Bracket) {inside : Text} (h : Sealed 1 inside) :
    Sealed 0 (bracket.opener :: (inside ++ [bracket.closer])) where
  piecesFrom_append depth rest _ := by
    have hclosing : piecesFrom none (depth + 1 : Nat) (bracket.closer :: rest) =
        growFirst bracket.closer (piecesFrom none depth rest) := by
      have hdepth : ((depth + 1 : Nat) : Int) + depthChange bracket.closer = depth := by
        have hchange : depthChange bracket.closer = -1 := by cases bracket <;> rfl
        omega
      have hopen : Quote.openAfter none bracket.closer = none := by cases bracket <;> rfl
      rw [piecesFrom_cons (by cases bracket <;> rfl), hdepth, hopen]
    have hchange : depthChange bracket.opener = 1 := by cases bracket <;> rfl
    have hopen : Quote.openAfter none bracket.opener = none := by cases bracket <;> rfl
    rw [List.cons_append, List.append_assoc, List.singleton_append,
      piecesFrom_cons (by cases bracket <;> rfl), hchange, hopen]
    show growFirst bracket.opener
      (piecesFrom none (depth + 1 : Nat) (inside ++ bracket.closer :: rest)) = _
    rw [h.piecesFrom_append _ _ (Nat.le_add_left 1 depth), hclosing, List.foldr_cons,
      List.foldr_append]
    rfl
  depthAtEnd?_append depth rest := by
    rw [List.cons_append, List.append_assoc, List.singleton_append]
    cases bracket with
    | square =>
      show depthAtEnd? .square none (depth + 1) (inside ++ ']' :: rest) = _
      rw [h.depthAtEnd?_append]
      rfl
    | round =>
      show depthAtEnd? .square none depth (inside ++ ')' :: rest) = _
      rw [h.depthAtEnd?_append]
      rfl
    | curly =>
      show depthAtEnd? .square none depth (inside ++ '}' :: rest) = _
      rw [h.depthAtEnd?_append]
      rfl

/-- Sealed texts with commas and spaces between them, as they stand in brackets. -/
theorem join {texts : List Text} (h : ∀ text ∈ texts, Sealed 0 text) :
    Sealed 1 (Text.join ", ".toList texts) := by
  have hseparator : Sealed 1 ", ".toList :=
    comma.append ((plain (by decide)).mono (Nat.le_succ 0))
  induction texts with
  | nil => exact nil 1
  | cons first others ih =>
    have hfirst := (h first List.mem_cons_self).mono (Nat.le_succ 0)
    have hothers := ih fun text htext => h text (List.mem_cons_of_mem _ htext)
    cases others with
    | nil =>
      show Sealed 1 (first ++ [])
      rwa [List.append_nil]
    | cons second rest => exact hfirst.append (hseparator.append hothers)

end Sealed

/-! ## Lists -/

theorem map_trim_growFirst_space {pieces : List Text} (h : pieces ≠ []) :
    (growFirst ' ' pieces).map trim = pieces.map trim := by
  obtain ⟨first, others, rfl⟩ := List.exists_cons_of_ne_nil h
  rfl

/-- Sealed texts with commas between them are the pieces of the text that joins them, but for
margins. -/
theorem map_trim_piecesFrom_join {first : Text} {others : List Text}
    (hsealed : ∀ text ∈ first :: others, Sealed 0 text) :
    (piecesFrom none 0 (Text.join ", ".toList (first :: others))).map trim =
      (first :: others).map trim := by
  have hfirst := (hsealed first List.mem_cons_self).piecesFrom_append 0
  induction others generalizing first with
  | nil =>
    show (piecesFrom none (0 : Nat) (first ++ [])).map trim = [trim first]
    rw [hfirst [] (le_refl 0)]
    show (first.foldr growFirst [[]]).map trim = [trim first]
    rw [foldr_growFirst, List.append_nil, List.map_singleton]
  | cons second rest ih =>
    rw [List.forall_mem_cons] at hsealed
    have hrest := ih hsealed.2 ((hsealed.2 second List.mem_cons_self).piecesFrom_append 0)
    show (piecesFrom none (0 : Nat)
      (first ++ (',' :: ' ' :: Text.join ", ".toList (second :: rest)))).map trim = _
    rw [hfirst _ (le_refl 0)]
    show (first.foldr growFirst (piecesFrom none 0 _)).map trim = _
    rw [piecesFrom_comma, foldr_growFirst, List.append_nil, List.map_cons, List.map_cons,
      piecesFrom_cons rfl]
    show trim first :: (growFirst ' ' (piecesFrom none 0 _)).map trim = _
    rw [map_trim_growFirst_space (piecesFrom_ne_nil _ _ _), hrest]

/-- Sealed texts that are not blank are the items of the text that has them between commas, but for
margins. -/
theorem splitItems_join_eq_map_trim {texts : List Text} (hsealed : ∀ text ∈ texts, Sealed 0 text)
    (hblank : ∀ text ∈ texts, isBlankText text = false) :
    splitItems (Text.join ", ".toList texts) = texts.map trim := by
  have hfilter : (texts.map trim).filter (!·.isEmpty) = texts.map trim := by
    rw [List.filter_eq_self, List.forall_mem_map]
    intro text htext
    rw [Bool.not_eq_true', List.isEmpty_eq_false_iff, Ne, trim_eq_nil_iff, hblank text htext]
    exact Bool.false_ne_true
  cases texts with
  | nil => rfl
  | cons first others => rw [splitItems, map_trim_piecesFrom_join hsealed, hfilter]

/-- Sealed texts without margins are the items of the text that has them between commas. -/
theorem splitItems_join {texts : List Text} (hsealed : ∀ text ∈ texts, Sealed 0 text)
    (hbare : ∀ text ∈ texts, Bare text) : splitItems (Text.join ", ".toList texts) = texts := by
  have htrim : texts.map trim = texts :=
    List.map_congr_left (fun text htext => (hbare text htext).trim_eq) |>.trans (List.map_id _)
  rw [splitItems_join_eq_map_trim hsealed, htrim]
  intro text htext
  rw [Bool.eq_false_iff, Ne, ← trim_eq_nil_iff, (hbare text htext).trim_eq]
  exact (hbare text htext).ne_nil

theorem listContents?_bracketed {inside : Text} (h : Sealed 1 inside) :
    listContents? ('[' :: (inside ++ [']'])) = some inside := by
  have hdepth : depthAtEnd? .square none 0 inside = some 0 := by
    have happend := h.depthAtEnd?_append 0 []
    rwa [List.append_nil] at happend
  have hafter : Text.after? "[" ('[' :: (inside ++ [']'])) = some (inside ++ [']']) := rfl
  have hbefore : Text.beforeLast? ']' (inside ++ [']']) = some inside := by
    rw [Text.beforeLast?, List.getLast?_concat, if_pos rfl, List.dropLast_concat]
  simp [listContents?, hafter, hbefore, hdepth]

theorem ofText_bracketed (functions : Functions) {inside : Text} (h : Sealed 1 inside) :
    Form.ofText functions ('[' :: (inside ++ [']'])) = .list inside := by
  have hcall : callOf? functions ('[' :: (inside ++ [']'])) = none := by
    apply callOf?_eq_none
    apply splitCall?_eq_none
    intro before rest hsplit
    right
    refine ⟨'[', ?_, by decide, by decide, by decide⟩
    rw [eq_takeWhile_of_splitFirst? hsplit, List.takeWhile_cons_of_pos (by decide)]
    exact List.mem_cons_self
  have hstring : stringLiteral? ('[' :: (inside ++ [']'])) = none :=
    stringLiteral?_cons_eq_none (by decide) _
  have hinteger : integerLiteral? ('[' :: (inside ++ [']'])) = none := rfl
  have hfloat : floatLiteral? ('[' :: (inside ++ [']'])) = none := rfl
  have hconstant : constant? ('[' :: (inside ++ [']'])) = none :=
    constant?_eq_none List.mem_cons_self (by decide)
  simp [Form.ofText, hstring, template?_cons_eq_none, hcall, hinteger, hfloat, hconstant,
    listContents?_bracketed h]

end Expression

end DryRun
