import DryRun.Proofs.Bracket.Balance
import DryRun.Proofs.Rule.Message
import DryRun.Proofs.Rule.Sites

/-!
# Continuation

Statements that go on over several lines. Where the brackets of a source nest, what the rules count
on a line agrees with the stack of openers: every line has its openers closed in time
(`closesLater_of_check`), and a line that begins or ends inside brackets is taken for part of a
longer statement (`isContinued_of_open`). So `balanced_lines_continue`.
-/

namespace DryRun

namespace Bracket

/-! ## Lines inside brackets -/

/-- An opener in front of the line of a number is not closed in front of it. -/
def OpenBefore (source : Source) (number : Nat) : Prop :=
  ∃ opener, InnermostOpen ((marks source).filter (·.position.line < number)) opener

theorem filter_line_lt_marks {source : Source} {earlier later : List LineScan}
    (hscans : source.scans = earlier ++ later) :
    (marks source).filter (·.position.line < earlier.length + 1) = marksFrom 1 earlier := by
  have hearlier : (marksFrom 1 earlier).filter (·.position.line < earlier.length + 1) =
      marksFrom 1 earlier := by
    apply List.filter_eq_self.2
    intro mark hmark
    obtain ⟨hle, scan, hget, -⟩ := mem_marksFrom.1 hmark
    obtain ⟨hlt, -⟩ := List.getElem?_eq_some_iff.1 hget
    exact decide_eq_true (by omega)
  have hlater : (marksFrom (1 + earlier.length) later).filter
      (·.position.line < earlier.length + 1) = [] := by
    apply List.filter_eq_nil_iff.2
    intro mark hmark
    obtain ⟨hle, -⟩ := mem_marksFrom.1 hmark
    rw [decide_eq_true_eq]
    omega
  rw [marks_eq_marksFrom, hscans, marksFrom_append, List.filter_append, hearlier, hlater,
    List.append_nil]

/-- A line begins inside brackets when the stack is not empty in front of it. -/
theorem openBefore_iff {source : Source} {earlier later : List LineScan} {stack : List Opener}
    (hscans : source.scans = earlier ++ later)
    (hstack : openAfter [] (marksFrom 1 earlier) = some stack) :
    OpenBefore source (earlier.length + 1) ↔ stack ≠ [] := by
  unfold OpenBefore
  rw [filter_line_lt_marks hscans]
  simp only [innermostOpen_iff_of_openAfter hstack]
  cases stack <;> simp

end Bracket

open DryRun.Bracket

/-! ## The stack at a site -/

/-- The stacks of openers at the ends of a line whose source has all its brackets closed. -/
structure StacksAt (source : Source) (site : Site) (outer inner : List Opener) : Prop where
  line_eq : openAfter outer (marksOfLine site.scan site.number) = some inner
  later_eq : openAfter inner (marksFrom (site.number + 1) site.later) = some []
  depthBefore_eq : site.depthBefore = outer.length
  openBefore_iff : OpenBefore source site.number ↔ outer ≠ []
  openBehind_iff : OpenBefore source (site.number + 1) ↔ inner ≠ []

/-- The marks of a source in front of a line, on it and behind it. -/
theorem SiteOf.marks_eq {source : Source} {before behind : List Text} {site : Site}
    (hsite : SiteOf source before behind site) :
    marks source = marksFrom 1 (scanLines none before) ++
      (marksOfLine site.scan site.number ++ marksFrom (site.number + 1) site.later) := by
  have hnumber : 1 + (scanLines none before).length = site.number := by
    rw [length_scanLines, hsite.number_eq]
    omega
  rw [marks_eq_marksFrom, hsite.scans_eq, marksFrom_append, marksFrom_cons, hnumber]

/-- The stacks at the ends of a line. -/
theorem SiteOf.exists_stacks {source : Source} {before behind : List Text} {site : Site}
    {stack : List Opener} (hsite : SiteOf source before behind site)
    (h : openAfter [] (marks source) = some stack) :
    ∃ outer inner, openAfter [] (marksFrom 1 (scanLines none before)) = some outer ∧
      openAfter outer (marksOfLine site.scan site.number) = some inner ∧
      openAfter inner (marksFrom (site.number + 1) site.later) = some stack := by
  rw [hsite.marks_eq, openAfter_append] at h
  obtain ⟨outer, houter, hrest⟩ := Option.bind_eq_some_iff.1 h
  rw [openAfter_append] at hrest
  obtain ⟨inner, hinner, hlater⟩ := Option.bind_eq_some_iff.1 hrest
  exact ⟨outer, inner, houter, hinner, hlater⟩

theorem SiteOf.exists_stacksAt {source : Source} {before behind : List Text} {site : Site}
    (hsite : SiteOf source before behind site) (h : check source = none) :
    ∃ outer inner, StacksAt source site outer inner := by
  have hnumber : site.number = (scanLines none before).length + 1 := by
    rw [length_scanLines, hsite.number_eq]
  have hline : source.scans = (scanLines none before ++ [site.scan]) ++ site.later := by
    rw [List.append_assoc]
    exact hsite.scans_eq
  have hall : openAfter [] (marks source) = some [] :=
    openAfter_nested (check_eq_none_iff.1 h) [] (marks source) rfl
  obtain ⟨outer, inner, houter, hinner, hlater⟩ := hsite.exists_stacks hall
  refine ⟨outer, inner, hinner, hlater, ?_, ?_, ?_⟩
  · rw [hsite.depthBefore_eq]
    exact depth_eq_length houter
  · rw [hnumber]
    exact Bracket.openBefore_iff hsite.scans_eq houter
  · have hbehind : openAfter [] (marksFrom 1 (scanLines none before ++ [site.scan])) =
        some inner := by
      rw [marksFrom_append, openAfter_append, houter, Nat.add_comm, ← hnumber]
      simpa using hinner
    have hlength : site.number + 1 = (scanLines none before ++ [site.scan]).length + 1 := by
      rw [List.length_append, List.length_singleton, hnumber]
    rw [hlength]
    exact Bracket.openBefore_iff hline hbehind

namespace StacksAt

variable {source : Source} {site : Site} {outer inner : List Opener}

theorem netDepth_eq (h : StacksAt source site outer inner) (bracket : Bracket) :
    bracket.netDepth site.scan = (height bracket inner : Int) - height bracket outer := by
  rw [← balance_marksOfLine bracket site.scan site.number]
  exact balance_of_openAfter bracket h.line_eq

theorem total_later_eq (h : StacksAt source site outer inner) (bracket : Bracket) :
    total bracket site.later = -(height bracket inner : Int) := by
  rw [← balance_marksFrom bracket (site.number + 1) site.later,
    balance_of_openAfter bracket h.later_eq]
  show ((0 : Nat) : Int) - _ = _
  omega

/-- What a line leaves open is closed behind the last line, if not before. -/
theorem closesLater (h : StacksAt source site outer inner) (bracket : Bracket) :
    site.closesLater bracket = true := by
  refine closesWithin_iff.2 ⟨site.later, [], (List.append_nil _).symm, ?_⟩
  rw [h.netDepth_eq, h.total_later_eq]
  omega

/-- A line that begins or ends inside brackets belongs to a longer statement. -/
theorem isContinued (h : StacksAt source site outer inner) (hopen : outer ≠ [] ∨ inner ≠ []) :
    Rule.isContinued site = true := by
  unfold Rule.isContinued
  simp only [Bool.or_eq_true, decide_eq_true_eq, List.any_eq_true, Bool.and_eq_true]
  by_cases houter : outer = []
  · -- the innermost opener stands on the line itself
    obtain ⟨opener, rest, hinner⟩ := List.exists_cons_of_ne_nil (hopen.resolve_left (· houter))
    have hnet := h.netDepth_eq opener.bracket
    rw [houter, hinner, height_cons, if_pos rfl] at hnet
    have hzero : height opener.bracket [] = 0 := rfl
    exact Or.inr ⟨opener.bracket, mem_all _, by omega, h.closesLater _⟩
  · have hpos := List.length_pos_iff.2 houter
    rw [← h.depthBefore_eq] at hpos
    exact Or.inl (Or.inl hpos)

end StacksAt

/-! ## What the rules say of balanced sources -/

namespace Rule

/-- **Continued statements.** Where the brackets of a source nest, the rules report no bracket as
never closed, and no missing colon on a line that begins or ends inside brackets. -/
theorem balanced_lines_continue {source : Source} (h : Bracket.check source = none)
    {diagnostic : Diagnostic} (hcheck : check source = some diagnostic) :
    (∀ bracket, diagnostic.message ≠ neverClosed bracket) ∧
      ∀ word, diagnostic.message = colonExpected word →
        ¬ OpenBefore source diagnostic.line ∧ ¬ OpenBefore source (diagnostic.line + 1) := by
  obtain ⟨site, hmem, -, rule, advice, hadvice, rfl⟩ := exists_advice_of_check hcheck
  obtain ⟨before, behind, hsite⟩ := Site.exists_siteOf_of_mem hmem
  obtain ⟨outer, inner, hstacks⟩ := hsite.exists_stacksAt h
  constructor
  · intro bracket hmessage
    obtain rfl := eq_unclosed_of_neverClosed hadvice hmessage
    rw [advice?, hstacks.closesLater] at hadvice
    simp at hadvice
  · intro word hmessage
    obtain rfl := eq_missingColon_of_colonExpected hadvice hmessage
    have hcontinued : ¬ (outer ≠ [] ∨ inner ≠ []) := by
      intro hopen
      rw [advice?, hstacks.isContinued hopen] at hadvice
      simp at hadvice
    constructor
    · intro hopen
      exact hcontinued (Or.inl (hstacks.openBefore_iff.1 hopen))
    · intro hopen
      exact hcontinued (Or.inr (hstacks.openBehind_iff.1 hopen))

/-- A condition that goes on over two lines is left alone, and the loop behind it is reported. -/
theorem balanced_lines_continue_behind_condition :
    let source := Source.ofText "if (x\n    > 1): y\nwhile z".toList
    Bracket.check source = none ∧ OpenBefore source 2 ∧
      ∃ diagnostic, check source = some diagnostic ∧ diagnostic.line = 3 ∧
        diagnostic.message = colonExpected "while" ∧
        ¬ OpenBefore source diagnostic.line ∧ ¬ OpenBefore source (diagnostic.line + 1) := by
  intro source
  have hbalanced : Bracket.check source = none := by decide +kernel
  have hopen : (marks source).filter (·.position.line < 2) =
      [] ++ Opener.mark ⟨.round, ⟨1, 4⟩⟩ :: [] := by decide +kernel
  have hcheck : (check source).map (fun found => (found.line, found.message)) =
      some (3, colonExpected "while") := by decide +kernel
  obtain ⟨diagnostic, hdiagnostic, hfound⟩ := Option.map_eq_some_iff.1 hcheck
  obtain ⟨hline, hmessage⟩ := Prod.mk.inj hfound
  obtain ⟨-, hcolon⟩ := balanced_lines_continue hbalanced hdiagnostic
  exact ⟨hbalanced, ⟨_, [], [], hopen, .nil⟩, diagnostic, hdiagnostic, hline, hmessage,
    hcolon _ hmessage⟩

end Rule

end DryRun
