import DryRun.Proofs.Bracket.Balance
import DryRun.Proofs.Rule.Message
import DryRun.Proofs.Rule.Sites
import DryRun.Proofs.Source.Doubling

/-!
# Assignments in conditions

The rule finds the first bare equals sign behind the keyword of a condition (`BareEquals`): it looks
for one character after another, whether or not it skips pairs (`findBareAssign_cons`). Doubled, the
sign is bare no more, and the others stay what they were, one place further (`bareEquals_doubled`).
So what the rule finds next stood behind it all along (`assignment_doubled`).

1. Bare equals signs, and the search for the first.
2. The keyword of a condition.
3. Lines with a sign doubled.
4. What the check reports.
-/

namespace DryRun

namespace Rule

/-! ## Bare equals signs -/

/-- How many more brackets a text opens than it closes. -/
def depthOf (text : Text) : Int :=
  (text.countP (· ∈ ['(', '[', '{']) : Int) - text.countP (· ∈ [')', ']', '}'])

/-- What stands around an equals sign makes it a bare one: it is outside the brackets that are
opened from a place on, and no part of another operator. -/
structure BareBetween (start : Nat) (before behind : Text) : Prop where
  start_le : start ≤ before.length
  head_ne : behind.head? ≠ some '='
  last_not_mem : ∀ c, before.getLast? = some c →
    c ∉ ['!', '<', '>', ':', '=', '+', '-', '*', '/', '%', '&', '|', '^']
  depth_le : depthOf (before.drop start) ≤ 0

/-- A bare equals sign of a line of code, at a place from another on. -/
def BareEquals (code : Text) (start place : Nat) : Prop :=
  ∃ before behind, code = before ++ '=' :: behind ∧ before.length = place ∧
    BareBetween start before behind

/-- The first bare equals sign of a line of code from a place on. -/
def FirstBare (code : Text) (start place : Nat) : Prop :=
  BareEquals code start place ∧ ∀ other, BareEquals code start other → place ≤ other

@[simp] theorem depthOf_nil : depthOf [] = 0 := rfl

@[simp] theorem depthOf_append (u v : Text) : depthOf (u ++ v) = depthOf u + depthOf v := by
  unfold depthOf
  rw [List.countP_append, List.countP_append]
  omega

@[simp] theorem depthOf_equals_cons (text : Text) : depthOf ('=' :: text) = depthOf text := by
  simp [depthOf]

theorem depthOf_opener (bracket : Bracket) : depthOf [bracket.opener] = 1 := by
  cases bracket <;> decide

theorem depthOf_closer (bracket : Bracket) : depthOf [bracket.closer] = -1 := by
  cases bracket <;> decide

theorem depthOf_of_ofChar?_eq_none {c : Char} (h : Bracket.ofChar? c = none) :
    depthOf [c] = 0 := by
  have hopens (bracket : Bracket) : c ≠ bracket.opener := by
    rintro rfl
    cases bracket <;> cases h
  have hcloses (bracket : Bracket) : c ≠ bracket.closer := by
    rintro rfl
    cases bracket <;> cases h
  have hopener : c ∉ ['(', '[', '{'] := by
    simpa using ⟨hopens .round, hopens .square, hopens .curly⟩
  have hcloser : c ∉ [')', ']', '}'] := by
    simpa using ⟨hcloses .round, hcloses .square, hcloses .curly⟩
  unfold depthOf
  rw [List.countP_cons_of_neg (by simpa using hopener),
    List.countP_cons_of_neg (by simpa using hcloser)]
  rfl

theorem combinesWithEquals_eq_false_iff (front : Text) :
    combinesWithEquals (front.getLast?.getD ' ') = false ↔ ∀ c, front.getLast? = some c →
      c ∉ ['!', '<', '>', ':', '=', '+', '-', '*', '/', '%', '&', '|', '^'] := by
  unfold combinesWithEquals
  cases front.getLast? with
  | none => simp
  | some last => simp

/-! ## The search -/

/-- An equals sign behind another is passed by, with the one that follows it or alone. -/
theorem findBareAssign_equals (depth : Int) (index : Nat) (rest : Text) :
    findBareAssign '=' depth index ('=' :: rest) = findBareAssign '=' depth (index + 1) rest := by
  have hcombines : combinesWithEquals '=' = true := by decide
  have hbracket : Bracket.ofChar? '=' = none := rfl
  have halone (index : Nat) {rest : Text} (h : ∀ others, rest ≠ '=' :: others) :
      findBareAssign '=' depth index ('=' :: rest) = findBareAssign '=' depth (index + 1) rest := by
    rw [findBareAssign, hcombines, hbracket]
    · simp
    · intro others _ hrest
      exact h others hrest
  induction rest generalizing index with
  | nil => exact halone index (by simp)
  | cons c rest ih =>
    by_cases hc : c = '='
    · subst hc
      rw [findBareAssign, ih]
    · exact halone index fun others hothers => hc (List.cons.inj hothers).1

/-- The search looks at one character after another. -/
theorem findBareAssign_cons (before : Char) (depth : Int) (index : Nat) (c : Char) (rest : Text) :
    findBareAssign before depth index (c :: rest) =
      if c = '=' ∧ rest.head? ≠ some '=' ∧ depth ≤ 0 ∧ combinesWithEquals before = false then
        some index
      else findBareAssign c (depth + depthOf [c]) (index + 1) rest := by
  by_cases hpair : c = '=' ∧ rest.head? = some '='
  · obtain ⟨rfl, hhead⟩ := hpair
    obtain ⟨others, rfl⟩ := List.head?_eq_some_iff.1 hhead
    rw [findBareAssign, if_neg fun h => h.2.1 rfl, depthOf_equals_cons, depthOf_nil, Int.add_zero,
      findBareAssign_equals]
  · have hsingle : ∀ others, c = '=' → rest = '=' :: others → False := by
      rintro others rfl rfl
      exact hpair ⟨rfl, rfl⟩
    have hbare : (c = '=' && depth ≤ 0 && !combinesWithEquals before) = true ↔
        c = '=' ∧ rest.head? ≠ some '=' ∧ depth ≤ 0 ∧ combinesWithEquals before = false := by
      simp only [Bool.and_eq_true, decide_eq_true_eq, Bool.not_eq_true']
      tauto
    rw [findBareAssign]
    · by_cases h : c = '=' ∧ rest.head? ≠ some '=' ∧ depth ≤ 0 ∧ combinesWithEquals before = false
      · rw [if_pos h, if_pos (hbare.2 h)]
      · rw [if_neg h, if_neg fun heq => h (hbare.1 heq)]
        cases hchar : Bracket.ofChar? c with
        | none => rw [depthOf_of_ofChar?_eq_none hchar, Int.add_zero]
        | some found =>
          obtain ⟨side, bracket⟩ := found
          obtain rfl := Bracket.char_of_ofChar? hchar
          cases side with
          | opens => rw [Bracket.Side.char, depthOf_opener]
          | closes => rw [Bracket.Side.char, depthOf_closer]; rfl
    · exact hsingle

/-- What the search knows when it has read up to a place. -/
structure ReadUpTo (start : Nat) (front : Text) (before : Char) (depth : Int) (index : Nat) :
    Prop where
  start_le : start ≤ front.length
  before_eq : before = front.getLast?.getD ' '
  depth_eq : depth = depthOf (front.drop start)
  index_eq : index = front.length

namespace ReadUpTo

variable {start : Nat} {front : Text} {before : Char} {depth : Int} {index : Nat}

theorem step (h : ReadUpTo start front before depth index) (c : Char) :
    ReadUpTo start (front ++ [c]) c (depth + depthOf [c]) (index + 1) where
  start_le := by
    rw [List.length_append]
    exact Nat.le_add_right_of_le h.start_le
  before_eq := by simp
  depth_eq := by rw [List.drop_append_of_le_length h.start_le, depthOf_append, h.depth_eq]
  index_eq := by rw [List.length_append, h.index_eq]; rfl

theorem bareEquals_iff (h : ReadUpTo start front before depth index) (c : Char) (rest : Text) :
    BareEquals (front ++ c :: rest) start index ↔
      c = '=' ∧ rest.head? ≠ some '=' ∧ depth ≤ 0 ∧ combinesWithEquals before = false := by
  rw [h.before_eq, combinesWithEquals_eq_false_iff, h.depth_eq, h.index_eq]
  constructor
  · rintro ⟨earlier, later, hcode, hlength, hbare⟩
    obtain ⟨rfl, hlater⟩ := List.append_inj hcode hlength.symm
    obtain ⟨rfl, rfl⟩ := List.cons.inj hlater
    exact ⟨rfl, hbare.head_ne, hbare.depth_le, hbare.last_not_mem⟩
  · rintro ⟨rfl, hhead, hdepth, hlast⟩
    exact ⟨front, rest, rfl, rfl, h.start_le, hhead, hlast, hdepth⟩

end ReadUpTo

theorem findBareAssign_eq_some {start : Nat} {front text : Text} {before : Char} {depth : Int}
    {index place : Nat} (hread : ReadUpTo start front before depth index)
    (h : findBareAssign before depth index text = some place) :
    BareEquals (front ++ text) start place ∧
      ∀ other, index ≤ other → BareEquals (front ++ text) start other → place ≤ other := by
  induction text generalizing front before depth index with
  | nil => cases h
  | cons c rest ih =>
    rw [findBareAssign_cons] at h
    split at h
    · rename_i hbare
      obtain rfl := Option.some.inj h
      exact ⟨(hread.bareEquals_iff c rest).2 hbare, fun other hle _ => hle⟩
    · rename_i hbare
      obtain ⟨hplace, hfirst⟩ := ih (hread.step c) h
      rw [List.append_assoc, List.singleton_append] at hplace hfirst
      refine ⟨hplace, fun other hle hother => hfirst other ?_ hother⟩
      refine Nat.lt_of_le_of_ne hle ?_
      rintro rfl
      exact hbare ((hread.bareEquals_iff c rest).1 hother)

/-! ## The keyword -/

/-- The keyword of a condition that a line of code begins with, and the place behind it. -/
def KeywordEndsAt (code : Text) (start : Nat) : Prop :=
  ∃ margin keyword rest, code = margin ++ (keyword ++ rest) ∧ Text.isBlankText margin = true ∧
    keyword ∈ conditionWords.map String.toList ∧ rest.head?.any Unicode.isWord = false ∧
    margin.length + keyword.length = start

/-- The place behind the word that a line of code begins with. -/
def wordEnd (code : Text) : Nat :=
  Text.indentation code + (leadingWord (Text.trimStart code)).length

theorem exists_parts_wordEnd (code : Text) :
    ∃ margin rest, code = margin ++ (leadingWord (Text.trimStart code) ++ rest) ∧
      Text.isBlankText margin = true ∧ rest.head?.any Unicode.isWord = false ∧
      margin.length + (leadingWord (Text.trimStart code)).length = wordEnd code := by
  refine ⟨code.takeWhile Unicode.isBlank, afterWord (Text.trimStart code), ?_, ?_, ?_, rfl⟩
  · unfold leadingWord afterWord Text.trimStart
    rw [List.takeWhile_append_dropWhile, List.takeWhile_append_dropWhile]
  · exact List.all_takeWhile
  · exact Text.any_head?_dropWhile _ _

theorem wordEnd_le (code : Text) : wordEnd code ≤ code.length := by
  obtain ⟨margin, rest, hcode, -, -, hend⟩ := exists_parts_wordEnd code
  rw [← hend]
  conv_rhs => rw [hcode]
  simp only [List.length_append]
  omega

theorem firstBare_of_bareAssign? {code : Text} {place : Nat} (h : bareAssign? code = some place) :
    FirstBare code (wordEnd code) place := by
  have hlength : (code.take (wordEnd code)).length = wordEnd code :=
    List.length_take_of_le (wordEnd_le code)
  have hread : ReadUpTo (wordEnd code) (code.take (wordEnd code))
      ((code.take (wordEnd code)).getLast?.getD ' ') 0 (wordEnd code) :=
    { start_le := Nat.le_of_eq hlength.symm
      before_eq := rfl
      depth_eq := by rw [List.drop_of_length_le (Nat.le_of_eq hlength)]; rfl
      index_eq := hlength.symm }
  have hsearch : findBareAssign ((code.take (wordEnd code)).getLast?.getD ' ') 0 (wordEnd code)
      (code.drop (wordEnd code)) = some place := h
  obtain ⟨hplace, hfirst⟩ := findBareAssign_eq_some hread hsearch
  rw [List.take_append_drop] at hplace hfirst
  refine ⟨hplace, fun other hother => hfirst other ?_ hother⟩
  obtain ⟨before, behind, -, rfl, hbare⟩ := hother
  exact hbare.start_le

/-! ## Lines with a sign doubled -/

section Doubled

variable {u v : Text} {start : Nat}

theorem isBlank_equals : Unicode.isBlank '=' = false := by decide

theorem isWord_equals : Unicode.isWord '=' = false := by decide

theorem leadingWord_equals (u v : Text) : leadingWord (u ++ '=' :: v) = leadingWord u :=
  Text.takeWhile_append_cons isWord_equals u v

/-- The word ends where it does whatever stands behind an equals sign. -/
theorem wordEnd_equals (u v w : Text) : wordEnd (u ++ '=' :: v) = wordEnd (u ++ '=' :: w) := by
  unfold wordEnd Text.indentation
  rw [Text.takeWhile_append_cons isBlank_equals, Text.takeWhile_append_cons isBlank_equals,
    Text.trimStart_append_cons isBlank_equals, Text.trimStart_append_cons isBlank_equals,
    leadingWord_equals, leadingWord_equals]

theorem keywordEndsAt_wordEnd
    (h : leadingWordIn conditionWords (Text.trim (u ++ '=' :: v)) = true) :
    KeywordEndsAt (u ++ '=' :: v) (wordEnd (u ++ '=' :: v)) := by
  obtain ⟨margin, rest, hcode, hmargin, hrest, hend⟩ := exists_parts_wordEnd (u ++ '=' :: v)
  refine ⟨margin, _, rest, hcode, hmargin, ?_, hrest, hend⟩
  obtain ⟨word, hword, heq⟩ := List.any_eq_true.1 h
  rw [Text.trim_append_cons isBlank_equals, leadingWord_equals] at heq
  rw [Text.trimStart_append_cons isBlank_equals, leadingWord_equals]
  exact List.mem_map.2 ⟨word, hword, (beq_iff_eq.1 heq).symm⟩

/-- An equals sign in front does not matter to a bare one behind another. -/
theorem bareBetween_doubled (hstart : start ≤ u.length) (x y : Text) :
    BareBetween start (u ++ '=' :: '=' :: x) y ↔ BareBetween start (u ++ '=' :: x) y := by
  have hlast : (u ++ '=' :: '=' :: x).getLast? = (u ++ '=' :: x).getLast? := by
    cases x <;> simp
  have hdepth : depthOf ((u ++ '=' :: '=' :: x).drop start) =
      depthOf ((u ++ '=' :: x).drop start) := by
    rw [List.drop_append_of_le_length hstart, List.drop_append_of_le_length hstart,
      depthOf_append, depthOf_append, depthOf_equals_cons]
  have hle (z : Text) : start ≤ (u ++ z).length := by
    rw [List.length_append]
    omega
  constructor
  · rintro ⟨-, hhead, hmem, hzero⟩
    exact ⟨hle _, hhead, hlast ▸ hmem, hdepth ▸ hzero⟩
  · rintro ⟨-, hhead, hmem, hzero⟩
    exact ⟨hle _, hhead, hlast ▸ hmem, hdepth ▸ hzero⟩

/-- With the first bare equals sign doubled, the bare ones are those that stood behind it. -/
theorem bareEquals_doubled (hfirst : FirstBare (u ++ '=' :: v) start u.length) (other : Nat) :
    BareEquals (u ++ '=' :: '=' :: v) start other ↔ ∃ further, u.length < further ∧
      other = further + 1 ∧ BareEquals (u ++ '=' :: v) start further := by
  have hstart : start ≤ u.length := by
    obtain ⟨before, behind, -, hlength, hbare⟩ := hfirst.1
    exact hlength ▸ hbare.start_le
  constructor
  · rintro ⟨before, behind, hcode, rfl, hbare⟩
    rcases List.append_eq_append_iff.1 hcode with ⟨between, rfl, hrest⟩ | ⟨between, rfl, hrest⟩
    · match between, hrest with
      | [], hrest =>
        -- the first of the two is followed by the second
        obtain ⟨-, rfl⟩ := List.cons.inj hrest
        exact absurd rfl hbare.head_ne
      | [c], hrest =>
        obtain ⟨rfl, -⟩ := List.cons.inj hrest
        exact absurd (by simp) (hbare.last_not_mem '=' (by simp))
      | c :: d :: x, hrest =>
        obtain ⟨rfl, htail⟩ := List.cons.inj hrest
        obtain ⟨rfl, rfl⟩ := List.cons.inj htail
        refine ⟨(u ++ '=' :: x).length, by simp, by simp; omega, u ++ '=' :: x, behind, by simp,
          rfl, (bareBetween_doubled hstart x behind).1 hbare⟩
    · match between, hrest with
      | [], hrest =>
        obtain ⟨-, rfl⟩ := List.cons.inj hrest
        exact absurd rfl hbare.head_ne
      | c :: right, hrest =>
        -- one in front of both would have been the first
        obtain ⟨rfl, rfl⟩ := List.cons.inj hrest
        have hhead : (right ++ '=' :: v).head? = (right ++ '=' :: '=' :: v).head? := by
          cases right <;> rfl
        have hle := hfirst.2 before.length ⟨before, right ++ '=' :: v, by simp, rfl,
          { hbare with head_ne := hhead ▸ hbare.head_ne }⟩
        rw [List.length_append, List.length_cons] at hle
        omega
  · rintro ⟨further, hlt, rfl, before, behind, hcode, rfl, hbare⟩
    rcases List.append_eq_append_iff.1 hcode with ⟨between, rfl, hrest⟩ | ⟨between, rfl, hrest⟩
    · cases between with
      | nil => simp at hlt
      | cons c x =>
        obtain ⟨rfl, rfl⟩ := List.cons.inj hrest
        exact ⟨u ++ '=' :: '=' :: x, behind, by simp, by simp; omega,
          (bareBetween_doubled hstart x behind).2 hbare⟩
    · rw [List.length_append] at hlt
      omega

end Doubled

/-! ## What the check reports -/

theorem line?_set {source : Source} {number : Nat} {old : Text}
    (h : source.line? number = some old) (new : Text) :
    (Source.mk (source.lines.set (number - 1) new)).line? number = some new := by
  cases number with
  | zero => cases h
  | succ number =>
    obtain ⟨hlt, -⟩ := List.getElem?_eq_some_iff.1 h
    exact List.getElem?_set_self hlt

/-- The rule reports a line for the first bare equals sign behind its keyword, and suggests the line
without comment and margins, with that sign doubled. -/
structure ReportsAt (line : Text) (start place : Nat) (suggestion : String) : Prop where
  keyword : KeywordEndsAt (scanLine none line).code start
  first : FirstBare (scanLine none line).code start place
  suggestion_eq : ∃ before behind, before.length = place ∧
    stripComment line = before ++ '=' :: behind ∧
    Text.trim (stripComment line) = Text.trimStart before ++ '=' :: Text.trimEnd behind ∧
    suggestion = "Use '==' to compare values: " ++
      String.ofList (Text.trimStart before ++ '=' :: '=' :: Text.trimEnd behind)

theorem doubleEquals_append (before behind : Text) :
    doubleEquals (before ++ '=' :: behind) before.length = before ++ '=' :: '=' :: behind := by
  simp [doubleEquals]

/-- A report of the rule is about the first bare equals sign of a line of the source. -/
theorem exists_reportsAt_of_check {source : Source} {diagnostic : Diagnostic}
    (hcheck : check source = some diagnostic) (hmessage : diagnostic.message = assignmentFound) :
    ∃ before behind u v, source.line? diagnostic.line = some (before ++ '=' :: behind) ∧
      before.length = u.length ∧ (scanLine none (before ++ '=' :: behind)).code = u ++ '=' :: v ∧
      ReportsAt (before ++ '=' :: behind) (wordEnd (u ++ '=' :: v)) u.length
        diagnostic.suggestion := by
  obtain ⟨site, hmem, hcode, rule, advice, hadvice, rfl⟩ := exists_advice_of_check hcheck
  obtain ⟨earlier, later, hsite⟩ := Site.exists_siteOf_of_mem hmem
  obtain rfl := eq_assignmentInCondition_of_assignmentFound hadvice hmessage
  obtain ⟨hkeyword, hsearch⟩ := Option.ite_none_right_eq_some.1 hadvice
  obtain ⟨place, hplace, rfl⟩ := Option.map_eq_some_iff.1 hsearch
  have hfirst := firstBare_of_bareAssign? hplace
  obtain ⟨u, v, hsplit, rfl, -⟩ := hfirst.1
  rw [Site.code, hsite.scan_eq_of_isCode hcode] at hkeyword
  rw [hsite.scan_eq_of_isCode hcode] at hfirst hsplit
  obtain ⟨before, behind, hraw, hlength, hstrip⟩ := exists_of_code_equals hsplit
  rw [hraw] at hsplit hstrip
  have hline := hsite.line?_eq
  rw [hraw] at hkeyword hfirst hline
  have hdoubled : (assignmentAdvice site u.length).suggestion = "Use '==' to compare values: " ++
      String.ofList
        (Text.trimStart before ++ '=' :: '=' :: Text.trimEnd (behind.take v.length)) := by
    rw [assignmentAdvice]
    dsimp only
    have hend : Text.trimEnd ('=' :: behind.take v.length) =
        '=' :: Text.trimEnd (behind.take v.length) := Text.trimEnd_append_cons isBlank_equals [] _
    rw [hraw, ← hlength, doubleEquals_append, stripComment_doubled hlength.symm hsplit,
      Text.trim_append_cons isBlank_equals, hend]
  rw [hsplit] at hkeyword hfirst
  refine ⟨before, behind, u, v, hline, hlength, hsplit, ?_, ?_, before, behind.take v.length,
    hlength, hstrip, ?_, hdoubled⟩
  · rw [hsplit]
    exact keywordEndsAt_wordEnd hkeyword
  · rw [hsplit]
    exact hfirst
  · rw [hstrip, Text.trim_append_cons isBlank_equals]

/-- **Assignments in conditions.** What the rule suggests is the line without comment and margins,
with its first bare equals sign behind the keyword doubled. In the line with that sign doubled, the
bare ones are those that stood behind it, and what the rule reports next is the first of them. -/
theorem assignment_doubled {source : Source} {diagnostic : Diagnostic}
    (hcheck : check source = some diagnostic) (hmessage : diagnostic.message = assignmentFound) :
    ∃ before behind start,
      source.line? diagnostic.line = some (before ++ '=' :: behind) ∧
      ReportsAt (before ++ '=' :: behind) start before.length diagnostic.suggestion ∧
      (∀ other, BareEquals (scanLine none (before ++ '=' :: '=' :: behind)).code start other ↔
        ∃ further, before.length < further ∧ other = further + 1 ∧
          BareEquals (scanLine none (before ++ '=' :: behind)).code start further) ∧
      ∀ found,
        check ⟨source.lines.set (diagnostic.line - 1) (before ++ '=' :: '=' :: behind)⟩ =
          some found →
        found.line = diagnostic.line → found.message = assignmentFound →
        ∃ further, before.length < further ∧
          BareEquals (scanLine none (before ++ '=' :: behind)).code start further ∧
          ReportsAt (before ++ '=' :: '=' :: behind) start (further + 1) found.suggestion := by
  obtain ⟨before, behind, u, v, hline, hlength, hcode, hreports⟩ :=
    exists_reportsAt_of_check hcheck hmessage
  have hcode' : (scanLine none (before ++ '=' :: '=' :: behind)).code = u ++ '=' :: '=' :: v := by
    rw [scanLine_doubled hlength.symm hcode]
  have hbare := bareEquals_doubled (hcode ▸ hreports.first)
  rw [← hlength] at hreports hbare
  refine ⟨before, behind, wordEnd (u ++ '=' :: v), hline, hreports, ?_, ?_⟩
  · rw [hcode, hcode']
    exact hbare
  · intro found hfound hfoundLine hfoundMessage
    obtain ⟨before', behind', u', v', hline', hlength', hsplit, hreports'⟩ :=
      exists_reportsAt_of_check hfound hfoundMessage
    -- the line that is reported now is the one with the sign doubled
    have hsame : before' ++ '=' :: behind' = before ++ '=' :: '=' :: behind := by
      rw [hfoundLine, line?_set hline] at hline'
      exact (Option.some.inj hline').symm
    rw [hsame] at hsplit hreports'
    rw [hcode'] at hsplit
    rw [← hsplit, wordEnd_equals u ('=' :: v) v] at hreports'
    have hplace := hreports'.first.1
    rw [hcode'] at hplace
    obtain ⟨further, hlt, hother, hbehind⟩ := (hbare u'.length).1 hplace
    rw [hother] at hreports'
    exact ⟨further, hlt, hcode ▸ hbehind, hreports'⟩

/-- A sign in a string, one between brackets, a pair and one in a comment are passed by, behind a
margin that is no space. -/
theorem assignment_doubled_behind_pair :
    let source := Source.ofText "x = 1\n\u00a0if f(k='=') == a and b = c or d = e: # = x".toList
    ∃ diagnostic, check source = some diagnostic ∧ diagnostic.line = 2 ∧
      diagnostic.message = assignmentFound ∧
      diagnostic.suggestion =
        "Use '==' to compare values: if f(k='=') == a and b == c or d = e:" ∧
      ∃ before behind start, source.line? 2 = some (before ++ '=' :: behind) ∧
        ReportsAt (before ++ '=' :: behind) start before.length diagnostic.suggestion := by
  intro source
  have hcheck : (check source).map (fun found => (found.line, found.message, found.suggestion)) =
      some (2, assignmentFound,
        "Use '==' to compare values: if f(k='=') == a and b == c or d = e:") := by
    decide +kernel
  obtain ⟨diagnostic, hdiagnostic, hfound⟩ := Option.map_eq_some_iff.1 hcheck
  obtain ⟨hline, hrest⟩ := Prod.mk.inj hfound
  obtain ⟨hmessage, hsuggestion⟩ := Prod.mk.inj hrest
  obtain ⟨before, behind, start, hwhere, hreports, -⟩ := assignment_doubled hdiagnostic hmessage
  rw [hline] at hwhere
  exact ⟨diagnostic, hdiagnostic, hline, hmessage, hsuggestion, before, behind, start, hwhere,
    hreports⟩

/-- With the first sign doubled, the line is reported for the second. -/
example : (check (.ofText "if a == b = c:".toList)).map (·.suggestion) =
    some "Use '==' to compare values: if a == b == c:" := by decide +kernel

end Rule

end DryRun
