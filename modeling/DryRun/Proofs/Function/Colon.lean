import DryRun.Proofs.Function.Header
import DryRun.Proofs.Source.Columns

/-!
# Behind the colon

A header ends at its colon: what stands behind it in the line makes no difference to the header that
is read (`header?_headerLine_append`), nor to where a comment in front of it begins
(`stripComment_append`).

1. Patterns that read a text up to a character the same in front of anything.
2. Comments.
3. Header lines with more behind them.
-/

namespace DryRun

open Text Unicode

/-! ## Patterns -/

namespace Pattern

variable {α β : Type} {c : Char}

/-- Whether a pattern reads a text with the character in it the same in front of anything. -/
def Local (c : Char) (p : Pattern α) : Prop :=
  ∀ text rest, c ∈ text →
    p (text ++ rest) = (p text).map fun (found, left) => (found, left ++ rest)

/-- Whether a pattern leaves the character, where it is in the text. -/
def Leaves (c : Char) (p : Pattern α) : Prop :=
  ∀ text found left, c ∈ text → p text = some (found, left) → c ∈ left

theorem Local.bind {p : Pattern α} {q : α → Pattern β} (hp : Local c p) (hleaves : Leaves c p)
    (hq : ∀ found, Local c (q found)) : Local c (p >>= q) := by
  intro text rest hc
  cases hread : p text with
  | none =>
    have hlong := hp text rest hc
    rw [hread] at hlong
    rw [bind_of_none hread, bind_of_none hlong]
    rfl
  | some read =>
    obtain ⟨found, left⟩ := read
    have hlong := hp text rest hc
    rw [hread] at hlong
    rw [bind_of_some hread, bind_of_some hlong]
    exact hq found left rest (hleaves text found left hc hread)

theorem Local.bind_pure {p : Pattern α} (hp : Local c p) (f : α → β) :
    Local c (p >>= fun found => pure (f found)) := by
  intro text rest hc
  have hlong := hp text rest hc
  cases hread : p text with
  | none =>
    rw [hread] at hlong
    rw [bind_of_none hread, bind_of_none hlong]
    rfl
  | some read =>
    rw [hread] at hlong
    rw [bind_of_some hread, bind_of_some hlong]
    rfl

theorem isPrefixOf?_append {beginning text : Text} (h : c ∉ beginning.dropLast) (hc : c ∈ text)
    (rest : Text) :
    beginning.isPrefixOf? (text ++ rest) = (beginning.isPrefixOf? text).map (· ++ rest) := by
  induction beginning generalizing text with
  | nil => rfl
  | cons d beginning ih =>
    obtain ⟨e, text, rfl⟩ := List.exists_cons_of_ne_nil (List.ne_nil_of_mem hc)
    rw [List.cons_append, List.isPrefixOf?, List.isPrefixOf?]
    by_cases hde : (d == e) = true
    · rw [if_pos hde, if_pos hde]
      cases beginning with
      | nil => rfl
      | cons d' beginning =>
        rw [List.dropLast_cons_cons, List.mem_cons, not_or] at h
        have hne : c ≠ e := beq_iff_eq.1 hde ▸ h.1
        exact ih h.2 ((List.mem_cons.1 hc).resolve_left hne)
    · rw [if_neg hde, if_neg hde]
      rfl

/-- A word, but for the last of its characters, holds no part of what is behind the character. -/
theorem local_word {beginning : String} (h : c ∉ beginning.toList.dropLast) :
    Local c (word beginning) := by
  intro text rest hc
  unfold word after?
  rw [isPrefixOf?_append h hc, Option.map_map, Option.map_map]
  rfl

theorem leaves_word {beginning : String} (h : c ∉ beginning.toList) :
    Leaves c (word beginning) := by
  intro text found left hc hread
  rw [eq_append_of_word hread, List.mem_append] at hc
  exact hc.resolve_left h

theorem mem_dropWhile {inClass : Char → Bool} (hclass : inClass c = false) {text : Text}
    (hc : c ∈ text) : c ∈ text.dropWhile inClass := by
  rw [← List.takeWhile_append_dropWhile (p := inClass) (l := text), List.mem_append] at hc
  refine hc.resolve_left fun hmem => ?_
  rw [List.mem_takeWhile_imp hmem] at hclass
  cases hclass

theorem local_run {inClass : Char → Bool} (hclass : inClass c = false) : Local c (run inClass) := by
  intro text rest hc
  have hstops : text.dropWhile inClass ≠ [] := List.ne_nil_of_mem (mem_dropWhile hclass hc)
  unfold run
  rw [takeWhile_append_of_dropWhile_ne_nil hstops, dropWhile_append_of_dropWhile_ne_nil hstops]
  rfl

theorem local_blanks (hblank : isBlank c = false) : Local c blanks := by
  intro text rest hc
  have hstops : text.dropWhile isBlank ≠ [] := List.ne_nil_of_mem (mem_dropWhile hblank hc)
  unfold blanks
  rw [dropWhile_append_of_dropWhile_ne_nil hstops]
  rfl

theorem leaves_blanks (hblank : isBlank c = false) : Leaves c blanks := by
  intro text found left hc hread
  cases hread
  exact mem_dropWhile hblank hc

theorem leaves_run {inClass : Char → Bool} (hclass : inClass c = false) :
    Leaves c (run inClass) := by
  intro text found left hc hread
  cases hread
  exact mem_dropWhile hclass hc

theorem local_optional {p : Pattern α} (hp : Local c p) : Local c (optional p) := by
  intro text rest hc
  have hlong := hp text rest hc
  cases hread : p text with
  | none =>
    rw [hread] at hlong
    rw [optional_of_none hread, optional_of_none hlong]
    rfl
  | some read =>
    rw [hread] at hlong
    rw [optional_of_some hread, optional_of_some hlong]
    rfl

theorem leaves_optional {p : Pattern α} (hp : Leaves c p) : Leaves c (optional p) := by
  intro text found left hc hread
  cases hp' : p text with
  | none =>
    rw [optional_of_none hp'] at hread
    cases hread
    exact hc
  | some read =>
    rw [optional_of_some hp'] at hread
    cases hread
    exact hp text _ _ hc hp'

theorem Leaves.bind {p : Pattern α} {q : α → Pattern β} (hp : Leaves c p)
    (hq : ∀ found, Leaves c (q found)) : Leaves c (p >>= q) := by
  intro text found left hc hread
  obtain ⟨⟨first, behind⟩, hfirst, hread⟩ := Option.bind_eq_some_iff.1 hread
  exact hq first behind found left (hp text first behind hc hfirst) hread

end Pattern

/-! ## Comments -/

section Comments

variable {c : Char} (hquote : Quote.ofChar? c = none) (hcomment : c ≠ '#')

include hquote

theorem beginsPair_append_cons (quote : Quote) (text rest : Text) :
    beginsPair quote (text ++ c :: rest) = beginsPair quote (text ++ [c]) := by
  have hne : (c == quote.char) = false := by
    rw [beq_eq_false_iff_ne]
    rintro rfl
    cases quote <;> cases hquote
  match text with
  | [] => cases rest <;> simp [beginsPair, hne]
  | [d] => simp [beginsPair, hne]
  | d :: e :: others => rfl

/-- Of what is behind a character that is no quote, the scanner sees nothing in front of it. -/
theorem Stand.read_append_cons (stand : Stand) (d : Char) (text rest : Text) :
    stand.read d (text ++ c :: rest) = stand.read d (text ++ [c]) := by
  have hpair : ∀ quote, beginsPair quote (text ++ c :: rest) = beginsPair quote (text ++ [c]) :=
    fun quote => beginsPair_append_cons hquote quote text rest
  cases stand with
  | free mode => cases mode <;> simp only [Stand.read, readCode, hpair]
  | secondQuote mode | thirdQuote mode | escaped mode => rfl

include hcomment

/-- A comment begins in front of the character at one place, or behind it. -/
theorem length_scanFrom_append (stand : Stand) (text rest : Text) :
    ((scanFrom stand (text ++ [c])).1.length ≤ text.length ∧
        (scanFrom stand (text ++ c :: rest)).1.length =
          (scanFrom stand (text ++ [c])).1.length) ∨
      ((scanFrom stand (text ++ [c])).1.length = text.length + 1 ∧
        text.length + 1 ≤ (scanFrom stand (text ++ c :: rest)).1.length) := by
  induction text generalizing stand with
  | nil =>
    obtain ⟨shown, next, hread⟩ := stand.exists_read_of_ne hcomment rest
    obtain ⟨shown', next', hread'⟩ := stand.exists_read_of_ne hcomment []
    right
    rw [List.nil_append, List.nil_append, scanFrom_cons_some hread, scanFrom_cons_some hread']
    simp
  | cons d text ih =>
    have hsame := stand.read_append_cons hquote d text rest
    rw [List.cons_append, List.cons_append]
    cases hread : stand.read d (text ++ [c]) with
    | none =>
      rw [hread] at hsame
      rw [scanFrom_cons_none hread, scanFrom_cons_none hsame]
      simp
    | some read =>
      obtain ⟨shown, next⟩ := read
      rw [hread] at hsame
      rw [scanFrom_cons_some hread, scanFrom_cons_some hsame]
      simp only [List.length_cons, Nat.add_le_add_iff_right, Nat.add_right_cancel_iff]
      exact ih next

theorem stripComment_append (text rest : Text) :
    stripComment (text ++ c :: rest) = stripComment (text ++ [c]) ∨
      (stripComment (text ++ [c]) = text ++ [c] ∧
        ∃ left, stripComment (text ++ c :: rest) = text ++ c :: left) := by
  rcases length_scanFrom_append hquote hcomment (.free .code) text rest with
    ⟨hle, hsame⟩ | ⟨hshort, hlong⟩
  · left
    show (text ++ c :: rest).take (scanFrom (.free .code) (text ++ c :: rest)).1.length =
      (text ++ [c]).take (scanFrom (.free .code) (text ++ [c])).1.length
    rw [hsame, List.take_append_of_le_length hle, List.take_append_of_le_length hle]
  · right
    constructor
    · show (text ++ [c]).take (scanFrom (.free .code) (text ++ [c])).1.length = _
      exact List.take_of_length_le (by simp [hshort])
    · obtain ⟨count, hcount⟩ := Nat.exists_eq_add_of_le hlong
      refine ⟨rest.take count, ?_⟩
      show (text ++ c :: rest).take (scanFrom (.free .code) (text ++ c :: rest)).1.length = _
      rw [hcount, Nat.add_assoc, List.take_length_add_append, Nat.add_comm, List.take_succ_cons]

end Comments

namespace Function

open Pattern

theorem local_announcedType : Local ':' announcedType :=
  (local_word (by decide)).bind (leaves_word (by decide)) fun _ => local_run rfl

theorem leaves_announcedType : Leaves ':' announcedType :=
  (leaves_word (by decide)).bind fun _ => leaves_run rfl

/-! ## Header lines -/

/-- The parameters end at the first closing parenthesis, which has the colon behind it. -/
theorem exists_run_parameters (parameters : Text) :
    ∃ before behind, ∀ rest, Pattern.run (· != ')') (parameters ++ "):".toList ++ rest) =
      some (before, ')' :: (behind ++ ':' :: rest)) := by
  have hclosing : ')' ∈ parameters ++ [')'] := by simp
  have hleft : ')' ∈ (parameters ++ [')']).dropWhile (· != ')') := mem_dropWhile rfl hclosing
  have hstops := List.ne_nil_of_mem hleft
  obtain ⟨c, behind, hbehind⟩ := List.exists_cons_of_ne_nil hstops
  have hc : c = ')' := by
    have hhead := List.head?_dropWhile_not (· != ')') (parameters ++ [')'])
    rw [hbehind] at hhead
    simpa using hhead
  refine ⟨(parameters ++ [')']).takeWhile (· != ')'), behind, fun rest => ?_⟩
  have hinside : parameters ++ "):".toList ++ rest = (parameters ++ [')']) ++ ':' :: rest := by simp
  unfold Pattern.run
  rw [hinside, takeWhile_append_of_dropWhile_ne_nil hstops,
    dropWhile_append_of_dropWhile_ne_nil hstops, hbehind, hc]
  rfl

/-- What is behind the colon is what is left of the line. -/
theorem headerInside_append (name parameters rest : Text) :
    headerInside name (parameters ++ "):".toList ++ rest) =
      (headerInside name (parameters ++ "):".toList)).map fun (found, left) =>
        (found, left ++ rest) := by
  obtain ⟨before, behind, hsplit⟩ := exists_run_parameters parameters
  let headerEnd : Pattern Header := do
    Pattern.blanks
    let _ ← Pattern.optional announcedType
    Pattern.word ":"
    return { name, parameters := before }
  have hend : Local ':' headerEnd :=
    (local_blanks (by decide)).bind (leaves_blanks (by decide)) fun _ =>
      (local_optional local_announcedType).bind (leaves_optional leaves_announcedType) fun _ =>
        (local_word (by decide)).bind_pure _
  have hread : ∀ rest, headerInside name (parameters ++ "):".toList ++ rest) =
      headerEnd (behind ++ ':' :: rest) := by
    intro rest
    have hclosing : Pattern.word ")" (')' :: (behind ++ ':' :: rest)) =
        some ((), behind ++ ':' :: rest) := rfl
    unfold headerInside
    rw [Pattern.bind_of_some (hsplit rest), Pattern.bind_of_some hclosing]
  have hlong := hend (behind ++ [':']) rest (by simp)
  have hshort := hread []
  rw [← List.append_cons] at hlong
  rw [List.append_nil] at hshort
  rw [hread, hshort]
  exact hlong

theorem name_of_headerInside {name inside left : Text} {found : Header}
    (h : headerInside name inside = some (found, left)) : found.name = name := by
  obtain ⟨_, -, h⟩ := Option.bind_eq_some_iff.1 h
  obtain ⟨_, -, h⟩ := Option.bind_eq_some_iff.1 h
  obtain ⟨_, -, h⟩ := Option.bind_eq_some_iff.1 h
  cases h
  rfl

section HeaderLines

variable {name : Text} (parameters rest : Text)

theorem headerLine_append (name parameters rest : Text) :
    headerLine name parameters ++ rest =
      ("def ".toList ++ (name ++ '(' :: (parameters ++ [')']))) ++ ':' :: rest := by
  simp [headerLine]

theorem trim_headerLine_append :
    trim (headerLine name parameters ++ rest) = headerLine name parameters ++ trimEnd rest := by
  rw [headerLine_append, headerLine_append, trim_append_cons (by decide)]
  rfl

theorem header?_headerLine_append (hname : identifier name = some (name, [])) :
    header? (headerLine name parameters ++ rest) = header? (headerLine name parameters) := by
  have hread : ∀ rest, header (headerLine name parameters ++ rest) =
      headerInside name (parameters ++ "):".toList ++ rest) := by
    intro rest
    rw [← header_append hname]
    simp [headerLine]
  have hshort := hread []
  rw [List.append_nil, List.append_nil] at hshort
  unfold header?
  rw [trim_headerLine_append, (bare_headerLine name parameters).trim_eq, hread, hshort,
    headerInside_append, Option.map_map]
  rfl

/-- Nor is what stands behind the colon seen where the line has a comment. -/
theorem header?_statementOf_append (hname : identifier name = some (name, [])) :
    header? (statementOf (headerLine name parameters ++ rest)) =
      header? (statementOf (headerLine name parameters)) := by
  have hshort := headerLine_append name parameters []
  rw [List.append_nil] at hshort
  rcases stripComment_append (c := ':') (by decide) (by decide)
    ("def ".toList ++ (name ++ '(' :: (parameters ++ [')']))) rest with
    hsame | ⟨hwhole, left, hleft⟩
  · rw [headerLine_append, hshort, statementOf, hsame, statementOf]
  · rw [statementOf, headerLine_append, hleft, ← headerLine_append, statementOf, hshort, hwhole,
      ← hshort, trim_headerLine_append, header?_headerLine_append parameters _ hname,
      (bare_headerLine name parameters).trim_eq]

/-- A statement begins with what the line begins with, up to its name. -/
theorem exists_statementOf_headerLine (hname : identifier name = some (name, [])) :
    ∃ first left, isNameStart first = true ∧
      statementOf (headerLine name parameters ++ rest) = "def ".toList ++ first :: left := by
  obtain ⟨first, others, rfl, hfirst, -⟩ := exists_of_identifier hname
  have hquote : Quote.ofChar? first = none := by
    rw [Quote.ofChar?, if_neg (ne_of_isNameStart hfirst (by decide)),
      if_neg (ne_of_isNameStart hfirst (by decide))]
  have hcomment : first ≠ '#' := ne_of_isNameStart hfirst (by decide)
  have hline : headerLine (first :: others) parameters ++ rest =
      "def ".toList ++ first :: (others ++ '(' :: (parameters ++ "):".toList) ++ rest) := by
    simp [headerLine]
  have hwhole : stripComment ("def ".toList ++ [first]) = "def ".toList ++ [first] :=
    stripComment_of_not_mem (by simp [hcomment.symm])
  obtain ⟨left, hleft⟩ : ∃ left, stripComment (headerLine (first :: others) parameters ++ rest) =
      "def ".toList ++ first :: left := by
    rw [hline]
    rcases stripComment_append hquote hcomment "def ".toList
      (others ++ '(' :: (parameters ++ "):".toList) ++ rest) with hsame | ⟨-, hlonger⟩
    · exact ⟨[], hsame.trans hwhole⟩
    · exact hlonger
  refine ⟨first, trimEnd left, hfirst, ?_⟩
  rw [statementOf, hleft, trim_append_cons (isBlank_eq_false_of_isNameStart hfirst)]
  rfl

end HeaderLines

end Function

end DryRun
