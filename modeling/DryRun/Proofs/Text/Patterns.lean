import DryRun.Proofs.Text.Parts
import DryRun.Proofs.Text.Pieces

/-!
# Reading with patterns

What the combinators of patterns do where their parts read a text or refuse it, and what a pattern
reads one time after another: `Pattern.Reads` follows the text from match to match, without the
bound on their number that `Pattern.readAll` counts down.
-/

namespace DryRun.Pattern

/-! ## Combinators -/

section Combinators

variable {α β : Type} {p : Pattern α} {found : α} {text rest : Text}

theorem bind_of_some (h : p text = some (found, rest)) (q : α → Pattern β) :
    (p >>= q) text = q found rest := by
  show (p text).bind (fun read => q read.1 read.2) = _
  rw [h]
  rfl

theorem bind_of_none (h : p text = none) (q : α → Pattern β) : (p >>= q) text = none := by
  show (p text).bind (fun read => q read.1 read.2) = _
  rw [h]
  rfl

theorem either_of_some {read : α × Text} (h : p text = some read) (q : Pattern α) :
    either p q text = some read := by
  unfold either
  rw [h]

theorem either_of_none (h : p text = none) (q : Pattern α) : either p q text = q text := by
  unfold either
  rw [h]

theorem optional_of_some (h : p text = some (found, rest)) :
    optional p text = some (some found, rest) := by
  unfold optional
  rw [h]

theorem optional_of_none (h : p text = none) : optional p text = some (none, text) := by
  unfold optional
  rw [h]

theorem word_eq_none (beginning : String) (h : ∀ rest, text ≠ beginning.toList ++ rest) :
    word beginning text = none := by
  cases hword : word beginning text with
  | none => rfl
  | some read => exact absurd (Text.eq_append_of_word hword) (h _)

theorem manyUpTo_of_none (h : p text = none) (count : Nat) :
    manyUpTo p count text = some ([], text) := by
  cases count with
  | zero => rfl
  | succ count => simp only [manyUpTo, h]

theorem many_of_none (h : p text = none) : many p text = some ([], text) :=
  manyUpTo_of_none h _

theorem many_of_once (h : p text = some (found, rest)) (hne : text ≠ []) (hrest : p rest = none) :
    many p text = some ([found], rest) := by
  obtain ⟨c, text, rfl⟩ := List.exists_cons_of_ne_nil hne
  unfold many
  simp only [List.length_cons, manyUpTo, h, manyUpTo_of_none hrest, Option.map_some]

theorem seqLeft_of_some {q : Pattern β} {found' : β} {rest' : Text}
    (h : p text = some (found, rest)) (h' : q rest = some (found', rest')) :
    (p <* q) text = some (found, rest') := by
  show (p >>= fun found => q >>= fun _ => pure found) text = _
  rw [bind_of_some h, bind_of_some h']
  rfl

theorem exists_of_seqLeft {q : Pattern β} (h : (p <* q) text = some (found, rest)) :
    ∃ behind, p text = some (found, behind) := by
  obtain ⟨⟨found', behind⟩, hfound, h⟩ := Option.bind_eq_some_iff.1 h
  obtain ⟨⟨_, rest'⟩, -, h⟩ := Option.bind_eq_some_iff.1 h
  cases h
  exact ⟨behind, hfound⟩

/-- What a pattern reads character by character, up to where it refuses. -/
theorem many_append {f : Char → α} {front : Text}
    (h : ∀ c ∈ front, ∀ rest, p (c :: rest) = some (f c, rest)) (hrest : p rest = none) :
    many p (front ++ rest) = some (front.map f, rest) := by
  have hcount : ∀ count, front.length ≤ count →
      manyUpTo p count (front ++ rest) = some (front.map f, rest) := by
    induction front with
    | nil => exact fun count _ => manyUpTo_of_none hrest count
    | cons c front ih =>
      intro count hle
      obtain ⟨hc, hfront⟩ := List.forall_mem_cons.1 h
      obtain ⟨count, rfl⟩ : ∃ k, count = k + 1 := ⟨count - 1, by
        rw [List.length_cons] at hle
        omega⟩
      have hothers := ih hfront count (Nat.le_of_succ_le_succ hle)
      simp only [List.cons_append, manyUpTo, hc, hothers, List.map_cons, Option.map_some]
  exact hcount _ (by simp)

end Combinators

/-! ## Runs -/

section Runs

variable {inClass : Char → Bool} {text rest : Text}

theorem run_of_append (htext : ∀ c ∈ text, inClass c = true)
    (hrest : rest.head?.any inClass = false) : run inClass (text ++ rest) = some (text, rest) := by
  unfold run
  rw [Text.takeWhile_append_of_any_head? htext hrest,
    Text.dropWhile_append_of_any_head? htext hrest]

theorem run1_of_append (hne : text ≠ []) (htext : ∀ c ∈ text, inClass c = true)
    (hrest : rest.head?.any inClass = false) : run1 inClass (text ++ rest) = some (text, rest) := by
  unfold run1
  rw [Text.takeWhile_append_of_any_head? htext hrest,
    Text.dropWhile_append_of_any_head? htext hrest]
  obtain ⟨c, text, rfl⟩ := List.exists_cons_of_ne_nil hne
  rfl

theorem run1_of_any_head? (hrest : rest.head?.any inClass = false) : run1 inClass rest = none := by
  unfold run1
  rw [Text.takeWhile_of_any_head? hrest]

theorem eq_cons_of_charOf {c : Char} {behind : Text} (h : charOf inClass text = some (c, behind)) :
    text = c :: behind ∧ inClass c = true := by
  have htext := Text.eq_cons_of_charOf h
  rw [htext, charOf] at h
  refine ⟨htext, ?_⟩
  by_contra hnot
  rw [if_neg hnot] at h
  cases h

theorem charOf_of_any_head? (hrest : rest.head?.any inClass = false) :
    charOf inClass rest = none := by
  cases rest with
  | nil => rfl
  | cons c rest => exact if_neg (Bool.eq_false_iff.1 hrest)

/-- What is read character by character belongs to the class. -/
theorem eq_append_of_mapM_charOf {α : Type} {steps : List α} {found behind : Text}
    (h : (steps.mapM fun _ => charOf inClass : Pattern Text) text = some (found, behind)) :
    text = found ++ behind ∧ found.length = steps.length ∧ ∀ c ∈ found, inClass c = true := by
  induction steps generalizing text found behind with
  | nil =>
    cases h
    exact ⟨rfl, rfl, fun _ hc => by cases hc⟩
  | cons step steps ih =>
    rw [List.mapM_cons] at h
    obtain ⟨⟨c, rest⟩, hfirst, h⟩ := Option.bind_eq_some_iff.1 h
    obtain ⟨⟨others, rest'⟩, hothers, h⟩ := Option.bind_eq_some_iff.1 h
    cases h
    obtain ⟨hrest, hlength, hall⟩ := ih hothers
    obtain ⟨htext, hc⟩ := eq_cons_of_charOf hfirst
    refine ⟨?_, congrArg (· + 1) hlength, List.forall_mem_cons.2 ⟨hc, hall⟩⟩
    rw [htext, hrest]
    rfl

end Runs

/-! ## One match after another -/

section Reads

variable {α : Type} {p : Pattern α}

/-- Whether a text is a row of matches of a pattern, each of which reads a character. -/
inductive Reads (p : Pattern α) : Text → List α → Prop
  | nil : Reads p [] []
  | cons {text behind : Text} {found : α} {others : List α} (h : p text = some (found, behind))
      (hlt : behind.length < text.length) (hbehind : Reads p behind others) :
      Reads p text (found :: others)

theorem Reads.append {front behind : Text} {found : α} {others : List α} (hne : front ≠ [])
    (h : p (front ++ behind) = some (found, behind)) (hbehind : Reads p behind others) :
    Reads p (front ++ behind) (found :: others) := by
  refine .cons h ?_ hbehind
  rw [List.length_append]
  exact Nat.lt_add_of_pos_left (List.length_pos_of_ne_nil hne)

/-- Whether a pattern reads a text as a value, whatever follows the text. -/
def ReadsAs (p : Pattern α) (text : Text) (found : α) : Prop :=
  text ≠ [] ∧ ∀ rest, p (text ++ rest) = some (found, rest)

/-- Texts that are read whatever follows them are read one after another. -/
theorem reads_flatten {pairs : List (Text × α)} (h : ∀ pair ∈ pairs, p.ReadsAs pair.1 pair.2) :
    Reads p (pairs.map Prod.fst).flatten (pairs.map Prod.snd) := by
  induction pairs with
  | nil => exact .nil
  | cons first others ih =>
    obtain ⟨⟨hne, hfirst⟩, hothers⟩ := List.forall_mem_cons.1 h
    exact .append hne (hfirst _) (ih hothers)

theorem readAllUpTo_of_reads {text : Text} {found : List α} (h : Reads p text found) {count : Nat}
    (hcount : text.length ≤ count) : readAllUpTo p count text = some found := by
  induction h generalizing count with
  | nil =>
    unfold readAllUpTo
    rfl
  | @cons text behind found others hread hlt _ ih =>
    obtain ⟨c, text, rfl⟩ := List.exists_cons_of_length_pos (Nat.zero_lt_of_lt hlt)
    obtain ⟨count, rfl⟩ : ∃ k, count = k + 1 := ⟨count - 1, by
      rw [List.length_cons] at hcount
      omega⟩
    have hothers : readAllUpTo p count behind = some others := ih (by omega)
    unfold readAllUpTo
    rw [hread]
    show (readAllUpTo p count behind).bind (fun others => some (found :: others)) = _
    rw [hothers]
    rfl

/-- What is read to the end of a text begins with a match. -/
theorem exists_of_readAllUpTo {count : Nat} {text : Text} {found : List α} (hne : text ≠ [])
    (h : readAllUpTo p count text = some found) :
    ∃ first behind others count', p text = some (first, behind) ∧
      readAllUpTo p count' behind = some others ∧ found = first :: others := by
  obtain ⟨c, text, rfl⟩ := List.exists_cons_of_ne_nil hne
  cases count with
  | zero => cases h
  | succ count =>
    obtain ⟨⟨first, behind⟩, hfirst, h⟩ := Option.bind_eq_some_iff.1 h
    obtain ⟨others, hothers, h⟩ := Option.bind_eq_some_iff.1 h
    cases h
    exact ⟨first, behind, others, count, hfirst, hothers, rfl⟩

theorem readAll_of_reads {text : Text} {found : List α} (h : Reads p text found) :
    readAll p text = some found := readAllUpTo_of_reads h le_rfl

end Reads

end DryRun.Pattern
