import Mathlib.Data.List.Infix
import DryRun.Text.Basic

/-!
# Pieces and lines

Pieces grow at the front, and what a separator parts stays apart: the lines of two texts with a line
break between them are those of the one and those of the other. Joined texts begin with what the
first of them are joined to.
-/

namespace DryRun.Text

/-! ## Runs -/

section Runs

variable {inClass : Char → Bool} {text rest : Text}

theorem takeWhile_of_any_head? (hrest : rest.head?.any inClass = false) :
    rest.takeWhile inClass = [] := by
  cases rest with
  | nil => rfl
  | cons c rest => exact List.takeWhile_cons_of_neg (Bool.eq_false_iff.1 hrest)

theorem dropWhile_of_any_head? (hrest : rest.head?.any inClass = false) :
    rest.dropWhile inClass = rest := by
  cases rest with
  | nil => rfl
  | cons c rest => exact List.dropWhile_cons_of_neg (Bool.eq_false_iff.1 hrest)

theorem takeWhile_append_of_any_head? (htext : ∀ c ∈ text, inClass c = true)
    (hrest : rest.head?.any inClass = false) : (text ++ rest).takeWhile inClass = text := by
  rw [List.takeWhile_append_of_pos htext, takeWhile_of_any_head? hrest, List.append_nil]

theorem dropWhile_append_of_any_head? (htext : ∀ c ∈ text, inClass c = true)
    (hrest : rest.head?.any inClass = false) : (text ++ rest).dropWhile inClass = rest := by
  rw [List.dropWhile_append_of_pos htext, dropWhile_of_any_head? hrest]

/-- A run from a text on goes no further where what follows the text does not belong to it. -/
theorem takeWhile_append_stop (hrest : rest.head?.any inClass = false) :
    (text ++ rest).takeWhile inClass = text.takeWhile inClass := by
  induction text with
  | nil => exact takeWhile_of_any_head? hrest
  | cons c text ih => rw [List.cons_append, List.takeWhile_cons, List.takeWhile_cons, ih]

theorem dropWhile_append_stop (hrest : rest.head?.any inClass = false) :
    (text ++ rest).dropWhile inClass = text.dropWhile inClass ++ rest := by
  induction text with
  | nil => exact dropWhile_of_any_head? hrest
  | cons c text ih =>
    rw [List.cons_append, List.dropWhile_cons, List.dropWhile_cons, ih]
    split <;> rfl

/-- A run that stops in a text stops there in front of anything. -/
theorem takeWhile_append_of_dropWhile_ne_nil (h : text.dropWhile inClass ≠ []) (rest : Text) :
    (text ++ rest).takeWhile inClass = text.takeWhile inClass := by
  induction text with
  | nil => exact absurd rfl h
  | cons c text ih =>
    rw [List.cons_append, List.takeWhile_cons, List.takeWhile_cons]
    split
    · rename_i hc
      rw [List.dropWhile_cons_of_pos hc] at h
      rw [ih h]
    · rfl

theorem dropWhile_append_of_dropWhile_ne_nil (h : text.dropWhile inClass ≠ []) (rest : Text) :
    (text ++ rest).dropWhile inClass = text.dropWhile inClass ++ rest := by
  rw [List.dropWhile_append, if_neg (by rwa [List.isEmpty_iff])]

theorem takeWhile_append_cons {c : Char} (hc : inClass c = false) (text rest : Text) :
    (text ++ c :: rest).takeWhile inClass = text.takeWhile inClass :=
  takeWhile_append_stop hc

theorem dropWhile_append_cons {c : Char} (hc : inClass c = false) (text rest : Text) :
    (text ++ c :: rest).dropWhile inClass = text.dropWhile inClass ++ c :: rest :=
  dropWhile_append_stop hc

theorem any_head?_dropWhile (inClass : Char → Bool) (text : Text) :
    (text.dropWhile inClass).head?.any inClass = false := by
  induction text with
  | nil => rfl
  | cons c text ih =>
    rw [List.dropWhile_cons]
    split
    · exact ih
    · rename_i hc
      exact Bool.eq_false_iff.2 hc

end Runs

/-! ## Growing -/

theorem growFirst_ne_nil (c : Char) (texts : List Text) : growFirst c texts ≠ [] := by
  cases texts <;> exact List.cons_ne_nil _ _

theorem growFirst_append {c : Char} {texts others : List Text} (h : texts ≠ []) :
    growFirst c (texts ++ others) = growFirst c texts ++ others := by
  obtain ⟨first, rest, rfl⟩ := List.exists_cons_of_ne_nil h
  rfl

theorem foldr_growFirst (text first : Text) (others : List Text) :
    text.foldr growFirst (first :: others) = (text ++ first) :: others := by
  induction text with
  | nil => rfl
  | cons c rest ih =>
    rw [List.foldr_cons, ih]
    rfl

/-! ## Pieces of one text -/

theorem pieces_ne_nil (separates : Char → Bool) (text : Text) : pieces separates text ≠ [] := by
  cases text with
  | nil => exact List.cons_ne_nil _ _
  | cons c rest =>
    unfold pieces
    split
    · exact List.cons_ne_nil _ _
    · exact growFirst_ne_nil _ _

theorem pieces_of_not_separates {separates : Char → Bool} {text : Text}
    (h : ∀ c ∈ text, separates c = false) : pieces separates text = [text] := by
  induction text with
  | nil => rfl
  | cons c text ih =>
    obtain ⟨hc, htext⟩ := List.forall_mem_cons.1 h
    rw [pieces, if_neg (Bool.eq_false_iff.1 hc), ih htext]
    rfl

theorem separates_or_mem_pieces (separates : Char → Bool) {text : Text} {c : Char}
    (h : c ∈ text) : separates c = true ∨ ∃ piece ∈ pieces separates text, c ∈ piece := by
  induction text with
  | nil => cases h
  | cons d rest ih =>
    unfold pieces
    by_cases hd : separates d = true
    · rw [if_pos hd]
      rcases List.mem_cons.1 h with rfl | h
      · exact Or.inl hd
      · refine (ih h).imp_right ?_
        rintro ⟨piece, hpiece, hmem⟩
        exact ⟨piece, List.mem_cons_of_mem _ hpiece, hmem⟩
    · obtain ⟨first, others, hrest⟩ := List.exists_cons_of_ne_nil (pieces_ne_nil separates rest)
      rw [hrest] at ih
      rw [if_neg hd, hrest]
      rcases List.mem_cons.1 h with rfl | h
      · exact Or.inr ⟨c :: first, List.mem_cons_self, List.mem_cons_self⟩
      · refine (ih h).imp_right ?_
        rintro ⟨piece, hpiece, hmem⟩
        rcases List.mem_cons.1 hpiece with rfl | hpiece
        · exact ⟨d :: piece, List.mem_cons_self, List.mem_cons_of_mem _ hmem⟩
        · exact ⟨piece, List.mem_cons_of_mem _ hpiece, hmem⟩

/-! ## Lines of two texts -/

theorem pieces_append {separates : Char → Bool} {c : Char} (hc : separates c = true)
    (before behind : Text) :
    pieces separates (before ++ c :: behind) =
      pieces separates before ++ pieces separates behind := by
  induction before with
  | nil => simp [pieces, hc]
  | cons d rest ih =>
    rw [List.cons_append, pieces, pieces, ih]
    split
    · rfl
    · exact growFirst_append (pieces_ne_nil separates rest)

/-- Without a separator between two texts the last piece of the one goes on in the first of the
other. -/
theorem pieces_append_of_eq {separates : Char → Bool} {before behind first rest : Text}
    {earlier later : List Text} (hbefore : pieces separates before = earlier ++ [first])
    (hbehind : pieces separates behind = rest :: later) :
    pieces separates (before ++ behind) = earlier ++ (first ++ rest) :: later := by
  induction before generalizing earlier first with
  | nil =>
    have hnil : [] ++ [[]] = earlier ++ [first] := hbefore
    obtain ⟨rfl, hfirst⟩ := List.append_inj' hnil rfl
    obtain rfl := List.singleton_inj.1 hfirst
    simpa using hbehind
  | cons d before ih =>
    obtain ⟨inner, last, hinner⟩ : ∃ inner last, pieces separates before = inner ++ [last] :=
      ⟨_, _, (List.dropLast_concat_getLast (pieces_ne_nil separates before)).symm⟩
    have hrest := ih hinner
    rw [List.cons_append, pieces, hrest]
    rw [pieces, hinner] at hbefore
    split
    · rename_i hd
      rw [if_pos hd, ← List.cons_append] at hbefore
      obtain ⟨rfl, hfirst⟩ := List.append_inj' hbefore rfl
      rw [List.singleton_inj.1 hfirst, List.cons_append]
    · rename_i hd
      rw [if_neg hd] at hbefore
      cases inner with
      | nil =>
        change [] ++ [d :: last] = _ at hbefore
        obtain ⟨rfl, hfirst⟩ := List.append_inj' hbefore rfl
        rw [← List.singleton_inj.1 hfirst]
        rfl
      | cons piece inner =>
        change ((d :: piece) :: inner) ++ [last] = _ at hbefore
        obtain ⟨rfl, hfirst⟩ := List.append_inj' hbefore rfl
        rw [List.singleton_inj.1 hfirst]
        rfl

theorem dropReturn_append (line : Text) {behind : Text} (h : behind ≠ []) :
    dropReturn (line ++ behind) = line ++ dropReturn behind := by
  obtain ⟨inner, last, rfl⟩ : ∃ inner last, behind = inner ++ [last] :=
    ⟨_, _, (List.dropLast_concat_getLast h).symm⟩
  unfold dropReturn
  rw [← List.append_assoc, List.getLast?_concat, List.getLast?_concat]
  by_cases hlast : last = '\r'
  · simp [hlast]
  · simp [hlast]

theorem dropReturn_singleton {c : Char} (h : c ≠ '\r') : dropReturn [c] = [c] := by
  simp [dropReturn, h]

theorem lines_append (before behind : Text) :
    lines (before ++ '\n' :: behind) = lines before ++ lines behind := by
  unfold lines
  rw [pieces_append (by rfl), List.map_append]

/-! ## Joined texts -/

theorem join_singleton (separator text : Text) : join separator [text] = text :=
  List.append_nil text

theorem join_cons_cons (separator first second : Text) (others : List Text) :
    join separator (first :: second :: others) =
      first ++ (separator ++ join separator (second :: others)) := rfl

theorem mem_join {separator : Text} {texts : List Text} {c : Char}
    (h : c ∈ join separator texts) : c ∈ separator ∨ ∃ text ∈ texts, c ∈ text := by
  induction texts with
  | nil => cases h
  | cons first others ih =>
    cases others with
    | nil =>
      rw [join_singleton] at h
      exact Or.inr ⟨first, List.mem_singleton_self _, h⟩
    | cons second rest =>
      rw [join_cons_cons, List.mem_append, List.mem_append] at h
      rcases h with h | h | h
      · exact Or.inr ⟨first, List.mem_cons_self, h⟩
      · exact Or.inl h
      · exact (ih h).imp_right fun ⟨text, htext, hc⟩ => ⟨text, List.mem_cons_of_mem _ htext, hc⟩

theorem join_append {texts texts' : List Text} (h : texts ≠ []) (h' : texts' ≠ [])
    (separator : Text) :
    join separator (texts ++ texts') =
      join separator texts ++ (separator ++ join separator texts') := by
  unfold join
  induction texts with
  | nil => exact absurd rfl h
  | cons first others ih =>
    cases others with
    | nil =>
      obtain ⟨second, rest, rfl⟩ := List.exists_cons_of_ne_nil h'
      simp
    | cons second rest =>
      have hothers := ih (List.cons_ne_nil _ _)
      simp only [List.cons_append, List.intersperse_cons_cons, List.flatten_cons,
        List.append_assoc] at hothers ⊢
      rw [hothers]

theorem join_prefix (separator : Text) (texts texts' : List Text) :
    join separator texts <+: join separator (texts ++ texts') := by
  by_cases h : texts = []
  · rw [h]
    exact List.nil_prefix
  · by_cases h' : texts' = []
    · simp [h']
    · rw [join_append h h']
      exact List.prefix_append _ _

end DryRun.Text
