import DryRun.Proofs.Bracket.Partners
import DryRun.Proofs.Rule.Continuation

/-!
# Openers reported as never closed

The rule for a kind of bracket counts whole lines: it reports a line when the count of openers over
closers never comes back to where it was in front of the line. So some opener of the line or of a
later one has no partner, and one of the line itself, unless a later line closes one of those and
then leaves open another of its own (`never_closed_has_unclosed`). Such a line hides its closer from
the count, and an opener that is closed is reported (`closed_opener_reported`).
-/

namespace DryRun

open DryRun.Bracket

/-! ## Sources whose closers all fit -/

namespace Bracket

theorem exists_openAfter_of_check {source : Source}
    (h : ∀ fault, check source = some fault → ∃ opener, fault = .unclosedOpener opener) :
    ∃ stack, openAfter [] (marks source) = some stack := by
  apply Option.ne_none_iff_exists'.1
  intro hnone
  obtain ⟨before, bracket, position, behind, stack, hmarks, hbefore, htop⟩ := exists_misfit hnone
  have hcheck : check source = some (faultOf bracket position stack) := by
    rw [check, hmarks, checkFrom_of_openAfter hbefore, checkFrom_misfit htop]
  obtain ⟨opener, hopener⟩ := h _ hcheck
  cases stack <;> cases hopener

/-- A later line closes an opener of a line, and then opens another of the kind that it leaves open
at its end. -/
def Reopens (marks : List Mark) (bracket : Bracket) (line later : Nat) : Prop :=
  ∃ opener closer other, opener.bracket = bracket ∧ opener.position.line = line ∧
    Closes marks closer opener ∧ closer.position.line = later ∧
    other.mark ∈ marks ∧ other.bracket = bracket ∧ other.position.line = later ∧
    closer.position.Before other.position ∧
    ∀ partner, Closes marks partner other → partner.position.line ≠ later

/-- The line that closes an opener reopens if it opens more of the kind behind its closer than it
closes. -/
theorem reopens_of_balance_pos {front left right behind : List Mark} {scan : LineScan}
    {bracket : Bracket} {line number : Nat} {closer : Mark} {opener : Opener}
    {stack atEnd : List Opener} (hkind : opener.bracket = bracket)
    (hopener : opener.position.line = line)
    (hcloses : Closes (front ++ marksOfLine scan number ++ behind) closer opener)
    (hnodup : (front ++ marksOfLine scan number ++ behind).Nodup)
    (hbehind : ∀ mark ∈ behind, number < mark.position.line)
    (hline : marksOfLine scan number = left ++ closer :: right)
    (hend : openAfter [] (front ++ marksOfLine scan number) = some atEnd)
    (hright : openAfter stack right = some atEnd) (hpos : 0 < balance bracket right) :
    Reopens (front ++ marksOfLine scan number ++ behind) bracket line number := by
  obtain ⟨other, hother, hbracket, hmem⟩ := exists_opener_of_balance_pos hright hpos
  have hcloserLine : closer ∈ marksOfLine scan number := by rw [hline]; simp
  have hotherLine : other.mark ∈ marksOfLine scan number := by rw [hline]; simp [hmem]
  have horder := marksOfLine_in_reading_order scan number
  rw [hline, List.pairwise_append, List.pairwise_cons] at horder
  refine ⟨opener, closer, other, hkind, hopener, hcloses, (mem_marksOfLine.1 hcloserLine).1,
    by simp [hotherLine], hbracket, (mem_marksOfLine.1 hotherLine).1,
    horder.2.1.1 other.mark hmem, ?_⟩
  intro partner hpartner heq
  -- a partner on the line is one among the marks up to its end, where the opener is open
  have hopen := (mem_stack_iff_unclosed (List.nodup_append.1 hnodup).1 hend).1 hother
  refine hopen.2 partner (hpartner.of_append hnodup ?_)
  rcases List.mem_append.1 hpartner.closer_mem with hfront | hlater
  · exact hfront
  · have hlt := hbehind partner hlater
    omega

end Bracket

/-! ## What a line leaves open -/

section Line

variable {source : Source} {before behind : List Text} {site : Site} {stack : List Opener}
  {bracket : Bracket} (hsite : SiteOf source before behind site)
  (hstack : openAfter [] (marks source) = some stack)
  (hnever : site.closesLater bracket = false)

include hnever in
/-- The count never comes back to where it was in front of the line. -/
theorem Site.pos_of_closesLater {earlier later : List LineScan}
    (hlater : site.later = earlier ++ later) :
    0 < bracket.netDepth site.scan + total bracket earlier := by
  by_contra hle
  have hcloses : site.closesLater bracket = true :=
    closesWithin_iff.2 ⟨earlier, later, hlater, by omega⟩
  rw [hnever] at hcloses
  cases hcloses

include hsite hstack hnever in
theorem SiteOf.exists_unclosed :
    ∃ opener, Unclosed (marks source) opener ∧ opener.bracket = bracket ∧
      site.number ≤ opener.position.line := by
  obtain ⟨outer, inner, -, hinner, hlater⟩ := hsite.exists_stacks hstack
  have hrun : openAfter outer (marksFrom site.number (site.scan :: site.later)) = some stack := by
    rw [marksFrom_cons, openAfter_append, hinner, Option.bind_some, hlater]
  have hpos : 0 < balance bracket (marksFrom site.number (site.scan :: site.later)) := by
    rw [balance_marksFrom, total_cons]
    exact Site.pos_of_closesLater hnever (List.append_nil _).symm
  obtain ⟨opener, hopener, hbracket, hmark⟩ := exists_opener_of_balance_pos hrun hpos
  exact ⟨opener, (mem_stack_iff_unclosed (nodup_marksFrom 1 _) hstack).1 hopener, hbracket,
    (mem_marksFrom.1 hmark).1⟩

include hsite hstack hnever in
/-- The outermost opener of the kind that a line leaves open of its own: below it are no more of the
kind than in front of the line. -/
theorem SiteOf.exists_outermost :
    ∃ above opener bottom, openAfter [] (marksFrom 1 (scanLines none before) ++
        marksOfLine site.scan site.number) = some (above ++ opener :: bottom) ∧
      openAfter (above ++ opener :: bottom) (marksFrom (site.number + 1) site.later) =
        some stack ∧
      opener.bracket = bracket ∧ opener.position.line = site.number ∧
      bracket.netDepth site.scan + height bracket bottom ≤
        height bracket (above ++ opener :: bottom) := by
  obtain ⟨outer, inner, houter, hinner, hlater⟩ := hsite.exists_stacks hstack
  have hline := balance_of_openAfter bracket hinner
  rw [balance_marksOfLine] at hline
  obtain ⟨own, kept, rfl, hkept, hown⟩ := exists_append_of_openAfter hinner
  have hkeptLe := height_le_of_suffix bracket hkept
  have hpos := Site.pos_of_closesLater hnever (List.nil_append _).symm
  rw [total_nil] at hpos
  rw [height_append] at hline
  have hownPos : 0 < height bracket own := by omega
  obtain ⟨above, opener, below, rfl, hbracket, hbelow⟩ := Bracket.exists_outermost hownPos
  rw [List.append_assoc, List.cons_append] at hlater hinner
  refine ⟨above, opener, below ++ kept, ?_, hlater, hbracket,
    (mem_marksOfLine.1 (hown opener (by simp))).1, ?_⟩
  · rw [openAfter_append, houter, Option.bind_some, hinner]
  · simp only [height_append, height_cons] at hline ⊢
    omega

include hsite hnever in
/-- The line that closes such an opener opens more of the kind behind its partner than it closes. -/
theorem SiteOf.exists_reopens {above bottom : List Opener} {opener : Opener}
    {inside rest : List Mark} {closer : Mark}
    (hfront : openAfter [] (marksFrom 1 (scanLines none before) ++
      marksOfLine site.scan site.number) = some (above ++ opener :: bottom))
    (hbracket : opener.bracket = bracket) (hopener : opener.position.line = site.number)
    (hheight : bracket.netDepth site.scan + height bracket bottom ≤
      height bracket (above ++ opener :: bottom))
    (hbehind : marksFrom (site.number + 1) site.later = inside ++ closer :: rest)
    (hinside : openAfter above inside = some []) (hside : closer.side = .closes)
    (hkind : closer.bracket = opener.bracket) (hrest : openAfter bottom rest = some stack) :
    ∃ later, site.number < later ∧ Reopens (marks source) bracket site.number later := by
  obtain ⟨earlier, scan, later, left, right, hsplit, rfl, hscan, rfl⟩ :=
    exists_line_of_append hbehind
  rw [openAfter_append] at hrest
  obtain ⟨atEnd, hright, -⟩ := Option.bind_eq_some_iff.1 hrest
  have hthere : marksFrom (site.number + 1) (earlier ++ [scan]) =
      marksFrom (site.number + 1) earlier ++
        marksOfLine scan (site.number + 1 + earlier.length) := by
    rw [marksFrom_append, marksFrom_cons, marksFrom_nil, List.append_nil]
  -- the stack at the end of the line of the partner
  have hend : openAfter (above ++ opener :: bottom)
      (marksFrom (site.number + 1) (earlier ++ [scan])) = some atEnd := by
    rw [hthere, hscan, ← List.append_assoc, openAfter_partner hinside hside hkind, hright]
  have hrightPos : 0 < balance bracket right := by
    have hlines : site.later = (earlier ++ [scan]) ++ later := by rw [hsplit]; simp
    have hcount := Site.pos_of_closesLater hnever hlines
    have hgain := balance_of_openAfter bracket hend
    rw [balance_marksFrom] at hgain
    rw [balance_of_openAfter bracket hright]
    omega
  have hmarks := hsite.marks_eq
  have hall : marks source = (marksFrom 1 (scanLines none before) ++
        marksOfLine site.scan site.number ++ marksFrom (site.number + 1) earlier) ++
      marksOfLine scan (site.number + 1 + earlier.length) ++
      marksFrom (site.number + 1 + earlier.length + 1) later := by
    rw [hmarks, hsplit, marksFrom_append, marksFrom_cons]
    simp only [List.append_assoc]
  have hupTo : openAfter [] ((marksFrom 1 (scanLines none before) ++
        marksOfLine site.scan site.number ++ marksFrom (site.number + 1) earlier) ++
      marksOfLine scan (site.number + 1 + earlier.length)) = some atEnd := by
    rw [List.append_assoc, ← hthere, openAfter_append, hfront, Option.bind_some, hend]
  have hcloses : Closes (marks source) closer opener := by
    rw [hmarks, hbehind, ← List.append_assoc]
    exact closes_of_openAfter hfront hinside hside hkind
  have hnodup : (marks source).Nodup := nodup_marksFrom 1 _
  refine ⟨site.number + 1 + earlier.length, by omega, ?_⟩
  rw [hall] at hcloses hnodup ⊢
  exact reopens_of_balance_pos hbracket hopener hcloses hnodup
    (fun mark hmem => (mem_marksFrom.1 hmem).1) hscan hupTo hright hrightPos

include hsite hstack hnever in
theorem SiteOf.unclosed_or_reopens :
    (∃ opener, Unclosed (marks source) opener ∧ opener.bracket = bracket ∧
      opener.position.line = site.number) ∨
    ∃ later, site.number < later ∧ Reopens (marks source) bracket site.number later := by
  obtain ⟨above, opener, bottom, hfront, hlater, hbracket, hopener, hheight⟩ :=
    hsite.exists_outermost hstack hnever
  rcases fate_of_opener hlater with ⟨higher, rfl⟩ | hclosed
  · refine Or.inl ⟨opener, ?_, hbracket, hopener⟩
    exact (mem_stack_iff_unclosed (nodup_marksFrom 1 _) hstack).1 (by simp)
  · obtain ⟨inside, closer, rest, hbehind, hinside, hside, hkind, hrest⟩ := hclosed
    exact Or.inr (hsite.exists_reopens hnever hfront hbracket hopener hheight hbehind hinside hside
      hkind hrest)

end Line

namespace Rule

/-- **Openers never closed.** A kind of bracket is reported as never closed only where an opener of
it on that line or behind is unclosed, and on that line itself unless a later line reopens. -/
theorem never_closed_has_unclosed {source : Source}
    (h : ∀ fault, Bracket.check source = some fault → ∃ opener, fault = .unclosedOpener opener)
    {diagnostic : Diagnostic} (hcheck : check source = some diagnostic) {bracket : Bracket}
    (hmessage : diagnostic.message = neverClosed bracket) :
    (∃ opener, Unclosed (marks source) opener ∧ opener.bracket = bracket ∧
      diagnostic.line ≤ opener.position.line) ∧
    ((∀ later, diagnostic.line < later →
        ¬ Reopens (marks source) bracket diagnostic.line later) →
      ∃ opener, Unclosed (marks source) opener ∧ opener.bracket = bracket ∧
        opener.position.line = diagnostic.line) := by
  obtain ⟨stack, hstack⟩ := exists_openAfter_of_check h
  obtain ⟨site, hmem, -, rule, advice, hadvice, rfl⟩ := exists_advice_of_check hcheck
  obtain ⟨before, behind, hsite⟩ := Site.exists_siteOf_of_mem hmem
  obtain rfl := eq_unclosed_of_neverClosed hadvice hmessage
  have hnever : site.closesLater bracket = false := by
    simp only [advice?, Option.ite_none_right_eq_some, Bool.and_eq_true,
      Bool.not_eq_true'] at hadvice
    exact hadvice.1.2
  refine ⟨hsite.exists_unclosed hstack hnever, ?_⟩
  intro hreopens
  refine (hsite.unclosed_or_reopens hstack hnever).resolve_right ?_
  rintro ⟨later, hlt, hlater⟩
  exact hreopens later hlt hlater

/-- Of two openers the second is closed on the next line, and the first never is. -/
theorem never_closed_has_unclosed_outermost :
    let source := Source.ofText "f(g(\n  1)".toList
    ∃ diagnostic, check source = some diagnostic ∧ diagnostic.message = neverClosed .round ∧
      ∃ opener, Unclosed (marks source) opener ∧ opener.bracket = .round ∧
        opener.position.line = diagnostic.line := by
  intro source
  have hfault : Bracket.check source = some (.unclosedOpener ⟨.round, ⟨1, 2⟩⟩) := by
    decide +kernel
  have hmarks : marks source = [⟨.opens, .round, ⟨1, 2⟩⟩, ⟨.opens, .round, ⟨1, 4⟩⟩,
      ⟨.closes, .round, ⟨2, 4⟩⟩] := by decide +kernel
  have hcheck : (check source).map (fun found => (found.line, found.message)) =
      some (1, neverClosed .round) := by decide +kernel
  obtain ⟨diagnostic, hdiagnostic, hfound⟩ := Option.map_eq_some_iff.1 hcheck
  obtain ⟨hline, hmessage⟩ := Prod.mk.inj hfound
  refine ⟨diagnostic, hdiagnostic, hmessage,
    (never_closed_has_unclosed ?_ hdiagnostic hmessage).2 ?_⟩
  · intro fault hcheck
    rw [hfault] at hcheck
    exact ⟨_, (Option.some.inj hcheck).symm⟩
  · -- no opener stands on the second line
    rintro later hlt ⟨opener, closer, other, -, -, -, -, hother, -, hlater, -⟩
    rw [hmarks] at hother
    rw [hline, ← hlater] at hlt
    have hplaces : other.position.line = 1 := by
      rcases other with ⟨kind, position⟩
      simp only [Opener.mark, List.mem_cons, Mark.mk.injEq, List.not_mem_nil, reduceCtorEq,
        false_and, true_and, or_false] at hother
      rcases hother with ⟨-, rfl⟩ | ⟨-, rfl⟩ <;> rfl
    omega

/-- The opener of the first line is closed on the second, which opens another behind it: the rule
reports the first line all the same. -/
theorem closed_opener_reported :
    let source := Source.ofText "f(\n) + g(".toList
    Bracket.check source = some (.unclosedOpener ⟨.round, ⟨2, 6⟩⟩) ∧
      Closes (marks source) ⟨.closes, .round, ⟨2, 1⟩⟩ ⟨.round, ⟨1, 2⟩⟩ ∧
      ∃ diagnostic, check source = some diagnostic ∧ diagnostic.line = 1 ∧
        diagnostic.message = neverClosed .round ∧
        ∀ opener, Unclosed (marks source) opener → opener.position.line ≠ diagnostic.line := by
  intro source
  have hfault : Bracket.check source = some (.unclosedOpener ⟨.round, ⟨2, 6⟩⟩) := by
    decide +kernel
  have hmarks : marks source = [] ++ Opener.mark ⟨.round, ⟨1, 2⟩⟩ ::
      ([] ++ ⟨.closes, .round, ⟨2, 1⟩⟩ :: [⟨.opens, .round, ⟨2, 6⟩⟩]) := by decide +kernel
  have hstack : openAfter [] (marks source) = some [⟨.round, ⟨2, 6⟩⟩] := by
    rw [hmarks]
    rfl
  have hcheck : (check source).map (fun found => (found.line, found.message)) =
      some (1, neverClosed .round) := by decide +kernel
  obtain ⟨diagnostic, hdiagnostic, hfound⟩ := Option.map_eq_some_iff.1 hcheck
  obtain ⟨hline, hmessage⟩ := Prod.mk.inj hfound
  refine ⟨hfault, ⟨_, _, _, hmarks, .nil, rfl, rfl⟩, diagnostic, hdiagnostic, hline, hmessage, ?_⟩
  intro opener hopener heq
  have hmem := (mem_stack_iff_unclosed (nodup_marksFrom 1 _) hstack).2 hopener
  rw [List.mem_singleton.1 hmem, hline] at heq
  cases heq

end Rule

end DryRun
