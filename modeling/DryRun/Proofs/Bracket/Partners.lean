import DryRun.Proofs.Bracket.Balance

/-!
# Partners

Which closer closes an opener: the one behind which the brackets between them nest (`Closes`). The
stack of openers holds those without such a partner (`mem_stack_iff_unclosed`), whatever stands
below an opener on it stays there until the partner comes (`fate_of_opener`), and lines that open
more of a kind than they close leave an opener of their own on it
(`exists_opener_of_balance_pos`).
-/

namespace DryRun

namespace Bracket

/-! ## Openers and closers -/

/-- A closer is the partner of an opener: of its kind, and what stands between them nests. -/
def Closes (marks : List Mark) (closer : Mark) (opener : Opener) : Prop :=
  ∃ before inside behind, marks = before ++ opener.mark :: (inside ++ closer :: behind) ∧
    Nested (word inside) ∧ closer.side = .closes ∧ closer.bracket = opener.bracket

/-- An opener among the marks that has no partner. -/
def Unclosed (marks : List Mark) (opener : Opener) : Prop :=
  opener.mark ∈ marks ∧ ∀ closer, ¬ Closes marks closer opener

theorem Closes.closer_mem {marks : List Mark} {closer : Mark} {opener : Opener}
    (h : Closes marks closer opener) : closer ∈ marks := by
  obtain ⟨before, inside, behind, rfl, -⟩ := h
  simp

section Runs

variable {marks : List Mark} {top bottom stack stack' : List Opener} {opener : Opener}

/-! ## What a run does to the stack -/

theorem openAfter_append_stack (h : openAfter top marks = some stack) (bottom : List Opener) :
    openAfter (top ++ bottom) marks = some (stack ++ bottom) := by
  induction marks generalizing top with
  | nil =>
    rw [openAfter_nil] at h ⊢
    rw [Option.some.inj h]
  | cons mark rest ih =>
    obtain ⟨side, bracket, position⟩ := mark
    cases side with
    | opens =>
      rw [openAfter_opens] at h ⊢
      exact ih h
    | closes =>
      cases top with
      | nil => cases h
      | cons first top =>
        rw [openAfter_closer_cons] at h
        rw [List.cons_append, openAfter_closer_cons]
        split at h
        · rename_i heq
          rw [if_pos heq]
          exact ih h
        · cases h

/-- An opener stays on the stack with all below it, or its partner comes, and the run goes on from
what was below. -/
theorem fate_of_opener (h : openAfter (top ++ opener :: bottom) marks = some stack) :
    (∃ above, stack = above ++ opener :: bottom) ∨
      ∃ inside closer behind, marks = inside ++ closer :: behind ∧ openAfter top inside = some [] ∧
        closer.side = .closes ∧ closer.bracket = opener.bracket ∧
        openAfter bottom behind = some stack := by
  induction marks generalizing top with
  | nil =>
    rw [openAfter_nil] at h
    exact Or.inl ⟨top, (Option.some.inj h).symm⟩
  | cons mark rest ih =>
    obtain ⟨side, bracket, position⟩ := mark
    cases side with
    | opens =>
      rw [openAfter_opens, ← List.cons_append] at h
      refine (ih h).imp_right ?_
      rintro ⟨inside, closer, behind, rfl, hinside, hcloser⟩
      exact ⟨_ :: inside, closer, behind, rfl, by rwa [openAfter_opens], hcloser⟩
    | closes =>
      cases top with
      | nil =>
        rw [List.nil_append, openAfter_closer_cons] at h
        split at h
        · rename_i heq
          exact Or.inr ⟨[], _, rest, rfl, rfl, rfl, heq.symm, h⟩
        · cases h
      | cons first top =>
        rw [List.cons_append, openAfter_closer_cons] at h
        split at h
        · rename_i heq
          refine (ih h).imp_right ?_
          rintro ⟨inside, closer, behind, rfl, hinside, hcloser⟩
          refine ⟨_ :: inside, closer, behind, rfl, ?_, hcloser⟩
          rwa [openAfter_closer_cons, if_pos heq]
        · cases h

/-- A run leaves a part of the stack as it was and puts openers of its own on it. -/
theorem exists_append_of_openAfter (h : openAfter stack marks = some stack') :
    ∃ own kept, stack' = own ++ kept ∧ kept <:+ stack ∧ ∀ opener ∈ own, opener.mark ∈ marks := by
  induction marks generalizing stack with
  | nil =>
    rw [openAfter_nil] at h
    exact ⟨[], stack, (Option.some.inj h).symm, List.suffix_rfl, by simp⟩
  | cons mark rest ih =>
    obtain ⟨side, bracket, position⟩ := mark
    cases side with
    | opens =>
      rw [openAfter_opens] at h
      obtain ⟨own, kept, rfl, hkept, hown⟩ := ih h
      rcases List.suffix_cons_iff.1 hkept with rfl | hkept
      · refine ⟨own ++ [⟨bracket, position⟩], stack, by simp, List.suffix_rfl, ?_⟩
        intro opener hopener
        rcases List.mem_append.1 hopener with hopener | hopener
        · exact List.mem_cons_of_mem _ (hown opener hopener)
        · rw [List.mem_singleton.1 hopener]
          exact List.mem_cons_self
      · exact ⟨own, kept, rfl, hkept, fun opener hopener =>
          List.mem_cons_of_mem _ (hown opener hopener)⟩
    | closes =>
      cases stack with
      | nil => cases h
      | cons first stack =>
        rw [openAfter_closer_cons] at h
        split at h
        · obtain ⟨own, kept, rfl, hkept, hown⟩ := ih h
          exact ⟨own, kept, rfl, hkept.trans (List.suffix_cons first stack), fun opener hopener =>
            List.mem_cons_of_mem _ (hown opener hopener)⟩
        · cases h

theorem mark_mem_of_mem_stack (h : openAfter [] marks = some stack) (hopener : opener ∈ stack) :
    opener.mark ∈ marks := by
  obtain ⟨own, kept, rfl, hkept, hown⟩ := exists_append_of_openAfter h
  rw [List.suffix_nil.1 hkept, List.append_nil] at hopener
  exact hown opener hopener

/-! ## Heights -/

theorem height_append (bracket : Bracket) (top bottom : List Opener) :
    height bracket (top ++ bottom) = height bracket top + height bracket bottom :=
  List.countP_append

theorem height_le_of_suffix (bracket : Bracket) (h : stack <:+ stack') :
    height bracket stack ≤ height bracket stack' :=
  h.sublist.countP_le

/-- Marks that open more of a kind than they close leave one of their openers open. -/
theorem exists_opener_of_balance_pos {bracket : Bracket}
    (h : openAfter stack marks = some stack') (hpos : 0 < balance bracket marks) :
    ∃ opener ∈ stack', opener.bracket = bracket ∧ opener.mark ∈ marks := by
  obtain ⟨own, kept, rfl, hkept, hown⟩ := exists_append_of_openAfter h
  have hbalance := balance_of_openAfter bracket h
  have hle := height_le_of_suffix bracket hkept
  rw [height_append] at hbalance
  have hown' : 0 < height bracket own := by omega
  obtain ⟨opener, hopener, hbracket⟩ := List.countP_pos_iff.1 hown'
  exact ⟨opener, List.mem_append_left _ hopener, of_decide_eq_true hbracket, hown opener hopener⟩

/-- The outermost opener of a kind. -/
theorem exists_outermost {bracket : Bracket} (h : 0 < height bracket stack) :
    ∃ above opener below, stack = above ++ opener :: below ∧ opener.bracket = bracket ∧
      height bracket below = 0 := by
  induction stack with
  | nil => simp [height] at h
  | cons first rest ih =>
    by_cases hrest : 0 < height bracket rest
    · obtain ⟨above, opener, below, rfl, hopener⟩ := ih hrest
      exact ⟨first :: above, opener, below, rfl, hopener⟩
    · rw [height_cons] at h
      have hfirst : first.bracket = bracket := by
        by_contra hne
        rw [if_neg hne] at h
        omega
      exact ⟨[], first, rest, rfl, hfirst, by omega⟩

/-! ## Partners and the stack -/

/-- An opener that is left open stands among the marks, in front of those that leave open what is
above it. -/
theorem Leaves.exists_marks (h : Leaves marks (top ++ opener :: bottom)) :
    ∃ before inside, marks = before ++ opener.mark :: inside ∧ openAfter [] inside = some top := by
  induction top generalizing marks with
  | nil =>
    cases h with
    | @opener before inside _ _ _ hinside =>
      exact ⟨before, inside, rfl, openAfter_nested hinside [] inside rfl⟩
  | cons first top ih =>
    cases h with
    | @opener before inside _ _ hbefore hinside =>
      obtain ⟨outer, between, rfl, htop⟩ := ih hbefore
      refine ⟨outer, between ++ first.mark :: inside, by simp, ?_⟩
      rw [openAfter_append, htop, Option.bind_some, openAfter_opener]
      exact openAfter_nested hinside _ inside rfl

/-- With the partner of an opener the run goes on from what is below it. -/
theorem openAfter_partner {inside behind : List Mark} {closer : Mark}
    (hinside : openAfter top inside = some []) (hside : closer.side = .closes)
    (hbracket : closer.bracket = opener.bracket) :
    openAfter (top ++ opener :: bottom) (inside ++ closer :: behind) = openAfter bottom behind := by
  obtain ⟨side, bracket, position⟩ := closer
  obtain rfl : side = .closes := hside
  rw [openAfter_append, openAfter_append_stack hinside, Option.bind_some, List.nil_append,
    openAfter_closer_cons, if_pos hbracket.symm]

/-- The marks that bring the stack back to an opener end in front of its partner. -/
theorem closes_of_openAfter {inside behind : List Mark} {closer : Mark}
    (h : openAfter [] marks = some (top ++ opener :: bottom))
    (hinside : openAfter top inside = some []) (hside : closer.side = .closes)
    (hbracket : closer.bracket = opener.bracket) :
    Closes (marks ++ (inside ++ closer :: behind)) closer opener := by
  obtain ⟨before, between, rfl, hbetween⟩ := (leaves_of_openAfter h).exists_marks
  refine ⟨before, between ++ inside, behind, by simp, ?_, hside, hbracket⟩
  have hnested : openAfter [] (between ++ inside) = some [] := by
    rw [openAfter_append, hbetween, Option.bind_some, hinside]
  exact (nested_iff_of_openAfter hnested).2 rfl

/-- The stack holds the openers without a partner, where every mark has a place of its own. -/
theorem mem_stack_iff_unclosed (hnodup : marks.Nodup) (h : openAfter [] marks = some stack) :
    opener ∈ stack ↔ Unclosed marks opener := by
  constructor
  · intro hopener
    refine ⟨mark_mem_of_mem_stack h hopener, ?_⟩
    rintro ⟨side, bracket, position⟩ ⟨before, inside, behind, rfl, hinside, rfl, rfl⟩
    rw [openAfter_append] at h
    obtain ⟨outer, houter, hrest⟩ := Option.bind_eq_some_iff.1 h
    rw [openAfter_opener, openAfter_append, openAfter_nested hinside _ inside rfl,
      Option.bind_some, openAfter_closer_cons, if_pos rfl] at hrest
    -- behind the partner the opener would have to stand a second time
    obtain ⟨own, kept, rfl, hkept, hown⟩ := exists_append_of_openAfter hrest
    rw [List.nodup_append, List.nodup_cons] at hnodup
    obtain ⟨-, ⟨hbehind, -⟩, hbefore⟩ := hnodup
    rcases List.mem_append.1 hopener with hmem | hmem
    · exact hbehind (List.mem_append_right _ (List.mem_cons_of_mem _ (hown opener hmem)))
    · exact hbefore opener.mark (mark_mem_of_mem_stack houter (hkept.subset hmem)) opener.mark
        List.mem_cons_self rfl
  · rintro ⟨hmark, hpartner⟩
    obtain ⟨before, behind, rfl⟩ := List.append_of_mem hmark
    rw [openAfter_append] at h
    obtain ⟨outer, -, hbehind⟩ := Option.bind_eq_some_iff.1 h
    rw [openAfter_opener, ← List.nil_append (opener :: outer)] at hbehind
    rcases fate_of_opener hbehind with ⟨above, rfl⟩ | hclosed
    · exact List.mem_append_right _ List.mem_cons_self
    · obtain ⟨inside, closer, after, rfl, hinside, hside, hbracket, -⟩ := hclosed
      exact absurd ⟨before, inside, after, rfl, (nested_iff_of_openAfter hinside).2 rfl, hside,
        hbracket⟩ (hpartner closer)

/-- A partner among the first marks is one without those behind them. -/
theorem Closes.of_append {front behind : List Mark} {closer : Mark}
    (h : Closes (front ++ behind) closer opener) (hnodup : (front ++ behind).Nodup)
    (hcloser : closer ∈ front) : Closes front closer opener := by
  obtain ⟨before, inside, after, hmarks, hinside, hcloses⟩ := h
  obtain ⟨earlier, later, rfl⟩ := List.append_of_mem hcloser
  have hsplit : earlier ++ closer :: (later ++ behind) =
      (before ++ opener.mark :: inside) ++ closer :: after := by simpa using hmarks
  have hclosers : closer ∉ earlier ∧ closer ∉ later ++ behind := by
    rw [List.append_assoc, List.cons_append, List.nodup_append, List.nodup_cons] at hnodup
    exact ⟨fun hmem => hnodup.2.2 closer hmem closer List.mem_cons_self rfl, hnodup.2.1.1⟩
  obtain ⟨rfl, -⟩ := (List.append_cons_inj_of_notMem hclosers.1 hclosers.2).1 hsplit
  exact ⟨before, inside, later, by simp, hinside, hcloses⟩

end Runs

/-! ## Marks of a source -/

theorem Position.Before.ne {place other : Position} (h : place.Before other) : place ≠ other := by
  rintro rfl
  rcases h with h | ⟨-, h⟩ <;> exact Nat.lt_irrefl _ h

theorem nodup_marksFrom (number : Nat) (scans : List LineScan) : (marksFrom number scans).Nodup :=
  (marksFrom_in_reading_order number scans).imp fun h heq => h.ne (congrArg Mark.position heq)

theorem append_eq_append_cons {α : Type} {first second before behind : List α} {a : α}
    (h : first ++ second = before ++ a :: behind) :
    (∃ between, before = first ++ between ∧ second = between ++ a :: behind) ∨
      ∃ right, first = before ++ a :: right ∧ behind = right ++ second := by
  rcases List.append_eq_append_iff.1 h with ⟨between, hbefore, hsecond⟩ | ⟨between, hfirst, hrest⟩
  · exact Or.inl ⟨between, hbefore, hsecond⟩
  · cases between with
    | nil => exact Or.inl ⟨[], by simpa using hfirst.symm, hrest.symm⟩
    | cons b right =>
      obtain ⟨rfl, rfl⟩ := List.cons.inj hrest
      exact Or.inr ⟨right, hfirst, rfl⟩

/-- A mark of lines stands on one of them, between the marks of those before and behind. -/
theorem exists_line_of_append {number : Nat} {scans : List LineScan} {inside behind : List Mark}
    {mark : Mark} (h : marksFrom number scans = inside ++ mark :: behind) :
    ∃ earlier scan later left right, scans = earlier ++ scan :: later ∧
      inside = marksFrom number earlier ++ left ∧
      marksOfLine scan (number + earlier.length) = left ++ mark :: right ∧
      behind = right ++ marksFrom (number + earlier.length + 1) later := by
  induction scans generalizing number inside with
  | nil => simp at h
  | cons scan rest ih =>
    rw [marksFrom_cons] at h
    rcases append_eq_append_cons h with ⟨between, rfl, hrest⟩ | ⟨right, hline, hbehind⟩
    · obtain ⟨earlier, found, later, left, right, rfl, rfl, hline, hbehind⟩ := ih hrest
      have hnumber : number + (scan :: earlier).length = number + 1 + earlier.length := by
        rw [List.length_cons]
        omega
      exact ⟨scan :: earlier, found, later, left, right, rfl, by simp, by rw [hnumber, hline],
        by rw [hnumber, hbehind]⟩
    · exact ⟨[], scan, rest, inside, right, rfl, rfl, hline, hbehind⟩

end Bracket

end DryRun
