import DryRun.Proofs.Text.Margins
import DryRun.Proofs.Text.Patterns

/-!
# Looking for a pattern

What is found in a text, place by place: nothing where the pattern refuses, and behind a match only
what stands behind it. A pattern that has to read some character finds nothing in a text without it
(`Needs`), and what all its matches have in common is true of all that is found (`Yields`).
-/

namespace DryRun.Pattern

open Unicode

variable {α : Type}

/-! ## Places -/

section Places

variable {p : Option Char → Pattern α} {before : Option Char} {found : α} {c : Char}
  {text rest behind : Text}

theorem findFrom_cons_of_none (h : p before (c :: rest) = none) :
    findFrom p before 0 (c :: rest) = findFrom p (some c) 0 rest := by
  rw [findFrom, h]

theorem findFrom_of_length_le {skip : Nat} (h : text.length ≤ skip) :
    findFrom p before skip text = [] := by
  induction text generalizing before skip with
  | nil => cases skip <;> rfl
  | cons c rest ih =>
    obtain ⟨skip, rfl⟩ : ∃ k, skip = k + 1 := ⟨skip - 1, by
      rw [List.length_cons] at h
      omega⟩
    rw [findFrom]
    exact ih (Nat.le_of_succ_le_succ h)

/-- A match that takes all of the text is the last one. -/
theorem findFrom_of_match (hne : text ≠ []) (h : p before text = some (found, [])) :
    findFrom p before 0 text = [found] := by
  obtain ⟨c, rest, rfl⟩ := List.exists_cons_of_ne_nil hne
  rw [findFrom, h]
  exact congrArg (found :: ·) (findFrom_of_length_le (Nat.le_refl _))

/-- Where the pattern refuses the whole way, it finds nothing. -/
theorem findFrom_eq_nil (h : ∀ before part, part <:+ text → p before part = none)
    (before : Option Char) (skip : Nat) : findFrom p before skip text = [] := by
  induction text generalizing before skip with
  | nil => rfl
  | cons c rest ih =>
    have hrest := ih fun before part hpart => h before part (hpart.trans (List.suffix_cons c rest))
    cases skip with
    | zero =>
      rw [findFrom_cons_of_none (h before _ List.suffix_rfl)]
      exact hrest _ _
    | succ skip =>
      rw [findFrom]
      exact hrest _ _

theorem atWordEdge_of_none {p : Pattern α} (h : p text = none) (before : Option Char) :
    atWordEdge p before text = none := by
  rw [atWordEdge, h]
  exact ite_self none

/-- Behind a character of a word there is no edge up to the end of the word. -/
theorem findFrom_atWordEdge_eq_nil {p : Pattern α} {b : Char} (hb : isWord b = true)
    (htext : ∀ c ∈ text, isWord c = true)
    (hrest : ∀ before, findFrom (atWordEdge p) before 0 rest = []) :
    findFrom (atWordEdge p) (some b) 0 (text ++ rest) = [] := by
  induction text generalizing b with
  | nil => exact hrest _
  | cons c text ih =>
    rw [List.forall_mem_cons] at htext
    have hedge : isWordEdge (some b) (c :: (text ++ rest)) = false := by
      rw [isWordEdge, Option.any_some, List.head?_cons, Option.any_some, hb, htext.1]
      rfl
    have hrefused : atWordEdge p (some b) (c :: (text ++ rest)) = none := by
      rw [atWordEdge, hedge]
      rfl
    exact (findFrom_cons_of_none hrefused).trans (ih htext.1 htext.2)

end Places

/-! ## Characters that a pattern reads -/

theorem forall_beq_eq_false {text : Text} {c : Char} (h : c ∉ text) :
    ∀ d ∈ text, (d == c) = false :=
  fun _ hd => beq_eq_false_iff_ne.2 fun heq => h (heq ▸ hd)

/-- Whether a pattern refuses every text that has no character of the class. -/
def Needs (inClass : Char → Bool) (p : Pattern α) : Prop :=
  ∀ text, (∀ c ∈ text, inClass c = false) → p text = none

namespace Needs

variable {inClass : Char → Bool} {p : Pattern α}

theorem findAll_eq_nil (h : Needs inClass p) {text : Text} (hc : ∀ c ∈ text, inClass c = false) :
    findAll (fun _ => p) text = [] :=
  findFrom_eq_nil (fun _ part hpart => h part fun c hmem => hc c (hpart.subset hmem)) none 0

theorem findAll_atWordEdge_eq_nil (h : Needs inClass p) {text : Text}
    (hc : ∀ c ∈ text, inClass c = false) : findAll (atWordEdge p) text = [] :=
  findFrom_eq_nil (fun before part hpart =>
    atWordEdge_of_none (h part fun c hmem => hc c (hpart.subset hmem)) before) none 0

theorem word {beginning : String} (hc : beginning.toList.any inClass = true) :
    Needs inClass (word beginning) := by
  intro text hnot
  obtain ⟨c, hmem, hclass⟩ := List.any_eq_true.1 hc
  refine word_eq_none beginning fun rest heq => ?_
  have hc : inClass c = false := hnot c (heq ▸ List.mem_append_left rest hmem)
  rw [hclass] at hc
  cases hc

theorem bind {β : Type} (h : Needs inClass p) (q : α → Pattern β) : Needs inClass (p >>= q) :=
  fun text hnot => bind_of_none (h text hnot) q

theorem either {q : Pattern α} (hp : Needs inClass p) (hq : Needs inClass q) :
    Needs inClass (either p q) := by
  intro text hnot
  rw [either_of_none (hp text hnot), hq text hnot]

/-- What is needed behind a pattern is needed if the pattern leaves an end of the text. -/
theorem bind_of_suffix {β : Type} {q : α → Pattern β}
    (hp : ∀ {text found rest}, p text = some (found, rest) → rest <:+ text)
    (hq : ∀ found, Needs inClass (q found)) : Needs inClass (p >>= q) := by
  intro text hnot
  cases hread : p text with
  | none => exact bind_of_none hread q
  | some read =>
    obtain ⟨found, rest⟩ := read
    rw [bind_of_some hread]
    exact hq found rest fun c hmem => hnot c ((hp hread).subset hmem)

end Needs

theorem isSuffix_of_charOf {inClass : Char → Bool} {text rest : Text} {c : Char}
    (h : charOf inClass text = some (c, rest)) : rest <:+ text := by
  rw [Text.eq_cons_of_charOf h]
  exact List.suffix_cons c rest

/-- What begins with a character refuses a text if the rest is refused behind the first one. -/
theorem charOf_bind_eq_none {β : Type} {inClass : Char → Bool} {q : Char → Pattern β} {text : Text}
    (h : ∀ c rest, text = c :: rest → inClass c = true → q c rest = none) :
    (charOf inClass >>= q) text = none := by
  cases hread : charOf inClass text with
  | none => exact bind_of_none hread q
  | some read =>
    obtain ⟨c, rest⟩ := read
    obtain ⟨htext, hc⟩ := eq_cons_of_charOf hread
    rw [bind_of_some hread, h c rest htext hc]

theorem isSuffix_of_run {inClass : Char → Bool} {text found rest : Text}
    (h : run inClass text = some (found, rest)) : rest <:+ text := by
  cases h
  exact List.dropWhile_suffix _

theorem isSuffix_of_blanks {text rest : Text} {found : Unit}
    (h : blanks text = some (found, rest)) : rest <:+ text := by
  cases h
  exact List.dropWhile_suffix _

/-! ## What a pattern reads -/

/-- Whether all that a pattern reads has a property. -/
def Yields (P : α → Prop) (p : Pattern α) : Prop :=
  ∀ text found rest, p text = some (found, rest) → P found

namespace Yields

variable {P : α → Prop} {p : Pattern α}

theorem pure {found : α} (h : P found) : Yields P (Pure.pure found) := by
  intro text found' rest hread
  cases hread
  exact h

theorem bind {β : Type} {p : Pattern β} {q : β → Pattern α} (h : ∀ found, Yields P (q found)) :
    Yields P (p >>= q) := by
  intro text found rest hread
  obtain ⟨⟨first, behind⟩, -, hread⟩ := Option.bind_eq_some_iff.1 hread
  exact h first behind found rest hread

theorem either {q : Pattern α} (hp : Yields P p) (hq : Yields P q) : Yields P (either p q) := by
  intro text found rest hread
  unfold Pattern.either at hread
  split at hread
  · rename_i hfound
    cases hread
    exact hp text found rest hfound
  · exact hq text found rest hread

theorem atWordEdge (h : Yields P p) (before : Option Char) :
    Yields P (Pattern.atWordEdge p before) := by
  intro text found rest hread
  unfold Pattern.atWordEdge at hread
  split at hread
  · exact h text found rest hread
  · cases hread

theorem seek {p : Option Char → Pattern α} (h : ∀ before, Yields P (p before))
    (before : Option Char) : Yields P (Pattern.seek p before) := by
  intro text found rest hread
  induction text generalizing before with
  | nil => exact h before [] found rest hread
  | cons c text ih =>
    unfold Pattern.seek at hread
    split at hread
    · rename_i hfound
      cases hread
      exact h before _ found rest hfound
    · exact ih (some c) hread

end Yields

/-- What is found in a text is what the pattern reads. -/
theorem forall_findFrom {P : α → Prop} {p : Option Char → Pattern α}
    (h : ∀ before, Yields P (p before)) (before : Option Char) (skip : Nat) (text : Text) :
    ∀ found ∈ findFrom p before skip text, P found := by
  induction text generalizing before skip with
  | nil => nofun
  | cons c rest ih =>
    cases skip with
    | succ skip => exact ih (some c) skip
    | zero =>
      unfold findFrom
      dsimp only
      split
      · rename_i hfound
        exact List.forall_mem_cons.2 ⟨h before _ _ _ hfound, ih (some c) _⟩
      · exact ih (some c) 0

/-! ## Blanks -/

theorem blanks_of_append {margin rest : Text} (hmargin : Text.isBlankText margin = true)
    (hrest : rest.head?.any isBlank = false) : blanks (margin ++ rest) = some ((), rest) := by
  unfold blanks
  rw [Text.dropWhile_append_of_any_head? (Text.isBlankText_iff.1 hmargin) hrest]

theorem blanks_of_any_head? {rest : Text} (hrest : rest.head?.any isBlank = false) :
    blanks rest = some ((), rest) := by
  have hmargin : Text.isBlankText [] = true := rfl
  exact blanks_of_append hmargin hrest

end DryRun.Pattern
