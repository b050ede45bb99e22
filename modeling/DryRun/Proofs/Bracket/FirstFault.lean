import DryRun.Proofs.Bracket.Marks

/-!
# The first fault

Which fault the check of brackets reports, said by nesting alone. `FaultAt` says when a closer does
not fit what stands before it, and `FirstFault` takes the first such closer or else the innermost
opener left. `check_eq_some_iff` identifies the reported fault, and `check_finds_first_fault` puts
it together with the places of the marks.
-/

namespace DryRun

namespace Bracket

/-! ## Closers that do not fit -/

/-- The fault of a closer behind marks: nothing is open before it, or the innermost opener is of
another kind. -/
inductive FaultAt (before : List Mark) : Mark → Fault → Prop
  | unexpected (bracket : Bracket) (position : Position) (h : Nested (word before)) :
      FaultAt before ⟨.closes, bracket, position⟩ (.unexpectedCloser bracket position)
  | mismatched (bracket : Bracket) (position : Position) {opener : Opener}
      (h : InnermostOpen before opener) (hne : opener.bracket ≠ bracket) :
      FaultAt before ⟨.closes, bracket, position⟩ (.mismatchedCloser bracket position opener)

/-- Every closer among the marks fits what stands before it. -/
def Fitting (marks : List Mark) : Prop :=
  ∀ before mark behind, marks = before ++ mark :: behind → ∀ fault, ¬ FaultAt before mark fault

/-- The first closer that does not fit, or else the innermost opener that is left. -/
inductive FirstFault (marks : List Mark) : Fault → Prop
  | closer {before behind : List Mark} {mark : Mark} {fault : Fault}
      (hmarks : marks = before ++ mark :: behind) (hbefore : Fitting before)
      (h : FaultAt before mark fault) : FirstFault marks fault
  | unclosed {opener : Opener} (hfitting : Fitting marks) (h : InnermostOpen marks opener) :
      FirstFault marks (.unclosedOpener opener)

/-! ## The stack behind fitting marks -/

theorem nested_iff_of_openAfter {marks : List Mark} {stack : List Opener}
    (h : openAfter [] marks = some stack) : Nested (word marks) ↔ stack = [] := by
  constructor
  · intro hnested
    rw [openAfter_nested hnested [] marks rfl] at h
    exact (Option.some.inj h).symm
  · rintro rfl
    cases leaves_of_openAfter h with
    | nested hnested => exact hnested

theorem innermostOpen_iff_of_openAfter {marks : List Mark} {stack : List Opener} {opener : Opener}
    (h : openAfter [] marks = some stack) :
    InnermostOpen marks opener ↔ stack.head? = some opener := by
  constructor
  · rintro ⟨before, inside, rfl, hinside⟩
    rw [openAfter_append] at h
    obtain ⟨outer, _, hrest⟩ := Option.bind_eq_some_iff.1 h
    rw [openAfter_opener, openAfter_nested hinside _ inside rfl] at hrest
    obtain rfl := Option.some.inj hrest
    rfl
  · intro hhead
    cases leaves_of_openAfter h with
    | nested => cases hhead
    | opener top _ hinside =>
      obtain rfl := Option.some.inj hhead
      exact ⟨_, _, rfl, hinside⟩

/-- Without a stack behind them, marks have a first closer that does not fit. -/
theorem exists_misfit {stack : List Opener} {marks : List Mark} (h : openAfter stack marks = none) :
    ∃ before bracket position behind stack',
      marks = before ++ ⟨.closes, bracket, position⟩ :: behind ∧
        openAfter stack before = some stack' ∧ ∀ top ∈ stack'.head?, top.bracket ≠ bracket := by
  induction marks generalizing stack with
  | nil => simp at h
  | cons mark rest ih =>
    obtain ⟨side, bracket, position⟩ := mark
    cases side with
    | opens =>
      rw [openAfter_opens] at h
      obtain ⟨before, closing, place, behind, stack', rfl, hbefore, htop⟩ := ih h
      refine ⟨⟨.opens, bracket, position⟩ :: before, closing, place, behind, stack', rfl, ?_, htop⟩
      rw [openAfter_opens]
      exact hbefore
    | closes =>
      cases stack with
      | nil => exact ⟨[], bracket, position, rest, [], rfl, rfl, by simp⟩
      | cons opener stack =>
        rw [openAfter_closer_cons] at h
        by_cases heq : opener.bracket = bracket
        · rw [if_pos heq] at h
          obtain ⟨before, closing, place, behind, stack', rfl, hbefore, htop⟩ := ih h
          refine ⟨⟨.closes, bracket, position⟩ :: before, closing, place, behind, stack', rfl, ?_,
            htop⟩
          rw [openAfter_closer_cons, if_pos heq]
          exact hbefore
        · exact ⟨[], bracket, position, rest, opener :: stack, rfl, openAfter_nil _,
            by simpa using heq⟩

/-- What the check says of a closer that does not fit the stack. -/
def faultOf (bracket : Bracket) (position : Position) : List Opener → Fault
  | [] => .unexpectedCloser bracket position
  | opener :: _ => .mismatchedCloser bracket position opener

theorem faultAt_of_misfit {before : List Mark} {bracket : Bracket} {position : Position}
    {stack : List Opener} (hbefore : openAfter [] before = some stack)
    (htop : ∀ top ∈ stack.head?, top.bracket ≠ bracket) :
    FaultAt before ⟨.closes, bracket, position⟩ (faultOf bracket position stack) := by
  cases stack with
  | nil => exact .unexpected bracket position ((nested_iff_of_openAfter hbefore).2 rfl)
  | cons opener stack =>
    exact .mismatched bracket position ((innermostOpen_iff_of_openAfter hbefore).2 rfl)
      (htop opener rfl)

/-- The fault of a closer is the one that the stack before it gives, and the closer does not fit
that stack. -/
theorem FaultAt.eq_faultOf {before : List Mark} {mark : Mark} {fault : Fault}
    {stack : List Opener} (h : FaultAt before mark fault)
    (hbefore : openAfter [] before = some stack) :
    ∃ bracket position, mark = ⟨.closes, bracket, position⟩ ∧
      fault = faultOf bracket position stack ∧ ∀ top ∈ stack.head?, top.bracket ≠ bracket := by
  cases h with
  | unexpected bracket position hnested =>
    obtain rfl := (nested_iff_of_openAfter hbefore).1 hnested
    exact ⟨bracket, position, rfl, rfl, by simp⟩
  | mismatched bracket position hopen hne =>
    have hhead := (innermostOpen_iff_of_openAfter hbefore).1 hopen
    cases stack with
    | nil => cases hhead
    | cons top rest =>
      obtain rfl := Option.some.inj hhead
      exact ⟨bracket, position, rfl, rfl, by simpa using hne⟩

theorem openAfter_misfit {stack : List Opener} {bracket : Bracket} {position : Position}
    (htop : ∀ top ∈ stack.head?, top.bracket ≠ bracket) (behind : List Mark) :
    openAfter stack (⟨.closes, bracket, position⟩ :: behind) = none := by
  cases stack with
  | nil => rfl
  | cons opener stack => rw [openAfter_closer_cons, if_neg (htop opener rfl)]

/-- Marks fit when the stack gets through them. -/
theorem fitting_iff {marks : List Mark} :
    Fitting marks ↔ ∃ stack, openAfter [] marks = some stack := by
  constructor
  · intro hfitting
    apply Option.ne_none_iff_exists'.1
    intro hnone
    obtain ⟨before, bracket, position, behind, stack, hmarks, hbefore, htop⟩ := exists_misfit hnone
    exact hfitting _ _ _ hmarks _ (faultAt_of_misfit hbefore htop)
  · rintro ⟨stack, hstack⟩ before mark behind rfl fault hfault
    rw [openAfter_append] at hstack
    obtain ⟨outer, hbefore, hrest⟩ := Option.bind_eq_some_iff.1 hstack
    obtain ⟨bracket, position, rfl, -, htop⟩ := hfault.eq_faultOf hbefore
    rw [openAfter_misfit htop] at hrest
    cases hrest

/-! ## The check -/

theorem checkFrom_of_openAfter {stack stack' : List Opener} {marks : List Mark}
    (h : openAfter stack marks = some stack') (rest : List Mark) :
    checkFrom stack (marks ++ rest) = checkFrom stack' rest := by
  induction marks generalizing stack with
  | nil =>
    rw [openAfter_nil] at h
    rw [Option.some.inj h, List.nil_append]
  | cons mark marks ih =>
    obtain ⟨side, bracket, position⟩ := mark
    cases side with
    | opens =>
      rw [openAfter_opens] at h
      rw [List.cons_append, checkFrom]
      exact ih h
    | closes =>
      cases stack with
      | nil => cases h
      | cons opener stack =>
        rw [openAfter_closer_cons] at h
        split at h
        · rename_i heq
          rw [List.cons_append, checkFrom, if_pos heq]
          exact ih h
        · cases h

theorem checkFrom_misfit {stack : List Opener} {bracket : Bracket} {position : Position}
    (htop : ∀ top ∈ stack.head?, top.bracket ≠ bracket) (behind : List Mark) :
    checkFrom stack (⟨.closes, bracket, position⟩ :: behind) =
      some (faultOf bracket position stack) := by
  cases stack with
  | nil => rfl
  | cons opener stack =>
    rw [checkFrom, if_neg (htop opener rfl)]
    rfl

theorem checkFrom_of_fitting {marks : List Mark} {stack : List Opener}
    (h : openAfter [] marks = some stack) :
    checkFrom [] marks = stack.head?.map .unclosedOpener := by
  rw [← List.append_nil marks, checkFrom_of_openAfter h]
  cases stack <;> rfl

theorem checkFrom_eq_some_iff {marks : List Mark} {fault : Fault} :
    checkFrom [] marks = some fault ↔ FirstFault marks fault := by
  constructor
  · intro h
    cases hstack : openAfter [] marks with
    | some stack =>
      rw [checkFrom_of_fitting hstack] at h
      obtain ⟨opener, hhead, rfl⟩ := Option.map_eq_some_iff.1 h
      exact .unclosed (fitting_iff.2 ⟨stack, hstack⟩)
        ((innermostOpen_iff_of_openAfter hstack).2 hhead)
    | none =>
      obtain ⟨before, bracket, position, behind, stack, rfl, hbefore, htop⟩ := exists_misfit hstack
      rw [checkFrom_of_openAfter hbefore, checkFrom_misfit htop] at h
      obtain rfl := Option.some.inj h
      exact .closer rfl (fitting_iff.2 ⟨stack, hbefore⟩) (faultAt_of_misfit hbefore htop)
  · intro h
    cases h with
    | closer hmarks hbefore hfault =>
      obtain ⟨stack, hstack⟩ := fitting_iff.1 hbefore
      obtain ⟨bracket, position, rfl, rfl, htop⟩ := hfault.eq_faultOf hstack
      rw [hmarks, checkFrom_of_openAfter hstack, checkFrom_misfit htop]
    | unclosed hfitting hopen =>
      obtain ⟨stack, hstack⟩ := fitting_iff.1 hfitting
      rw [checkFrom_of_fitting hstack, (innermostOpen_iff_of_openAfter hstack).1 hopen]
      rfl

theorem checkFrom_eq_none_iff {marks : List Mark} :
    checkFrom [] marks = none ↔ Nested (word marks) := by
  constructor
  · intro h
    cases hstack : openAfter [] marks with
    | some stack =>
      rw [checkFrom_of_fitting hstack] at h
      rw [nested_iff_of_openAfter hstack]
      exact List.head?_eq_none_iff.1 (Option.map_eq_none_iff.1 h)
    | none =>
      obtain ⟨before, bracket, position, behind, stack, rfl, hbefore, htop⟩ := exists_misfit hstack
      rw [checkFrom_of_openAfter hbefore, checkFrom_misfit htop] at h
      cases h
  · intro h
    rw [checkFrom_of_fitting (openAfter_nested h [] marks rfl)]
    rfl

theorem check_eq_none_iff {source : Source} : check source = none ↔ Nested (word (marks source)) :=
  checkFrom_eq_none_iff

theorem check_eq_some_iff {source : Source} {fault : Fault} :
    check source = some fault ↔ FirstFault (marks source) fault :=
  checkFrom_eq_some_iff

/-! ## The place of the fault -/

/-- The character of the bracket at fault. -/
def Fault.char : Fault → Char
  | unexpectedCloser bracket _ | mismatchedCloser bracket _ _ => bracket.closer
  | unclosedOpener opener => opener.bracket.opener

/-- The fault is that of a mark, in the place of the mark. -/
theorem FirstFault.exists_mark {marks : List Mark} {fault : Fault} (h : FirstFault marks fault) :
    ∃ mark ∈ marks, fault.position = mark.position ∧ fault.char = mark.char := by
  cases h with
  | closer hmarks _ hfault =>
    refine ⟨_, hmarks ▸ List.mem_append_right _ List.mem_cons_self, ?_⟩
    cases hfault with
    | unexpected => exact ⟨rfl, rfl⟩
    | mismatched => exact ⟨rfl, rfl⟩
  | @unclosed opener _ hopen =>
    obtain ⟨before, inside, rfl, -⟩ := hopen
    exact ⟨opener.mark, List.mem_append_right _ List.mem_cons_self, rfl, rfl⟩

/-- **The first fault.** The check of brackets finds nothing where the brackets of the code nest,
and otherwise the first fault, at the place where the bracket at fault stands in the source. The
marks it goes by are the brackets of the code in the order of reading, with their places. -/
theorem check_finds_first_fault (source : Source) :
    (check source = none ↔ Nested ((codeLines source).flatten.filter isBracket)) ∧
    (∀ fault, check source = some fault ↔ FirstFault (marks source) fault) ∧
    (∀ fault, check source = some fault →
      charAt? source.lines fault.position = some fault.char ∧
        charAt? (codeLines source) fault.position = some fault.char) ∧
    word (marks source) = (codeLines source).flatten.filter isBracket ∧
    (∀ mark, mark ∈ marks source ↔
      charAt? (codeLines source) mark.position = some mark.char) ∧
    (marks source).Pairwise fun a b => a.position.Before b.position := by
  refine ⟨?_, fun fault => check_eq_some_iff, ?_, word_marks source, fun mark => mem_marks_iff,
    marks_in_reading_order source⟩
  · rw [check_eq_none_iff, word_marks]
  · intro fault hfault
    obtain ⟨mark, hmem, hposition, hchar⟩ := (check_eq_some_iff.1 hfault).exists_mark
    rw [hposition, hchar]
    exact ⟨charAt?_lines_of_mem_marks hmem, mem_marks_iff.1 hmem⟩

/-- A closer of another kind than its opener on the line above, behind a bracket in a string. -/
theorem check_finds_mismatch_behind_string :
    let source := Source.ofText "f(1)[0\n  + ')') + 2]\n(".toList
    let fault := Fault.mismatchedCloser .round ⟨2, 8⟩ ⟨.square, ⟨1, 5⟩⟩
    check source = some fault ∧ charAt? source.lines ⟨2, 8⟩ = some ')' ∧
      FirstFault (marks source) fault := by
  intro source fault
  have hcheck : check source = some fault := by decide +kernel
  obtain ⟨-, hfirst, hplace, -⟩ := check_finds_first_fault source
  exact ⟨hcheck, (hplace _ hcheck).1, (hfirst _).1 hcheck⟩

end Bracket

end DryRun
