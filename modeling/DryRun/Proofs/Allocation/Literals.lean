import DryRun.Proofs.Allocation.Forms
import DryRun.Proofs.Unicode.Ascii

/-!
# Allocations of strings and bytes

A literal that is repeated is one of bytes if there is a `b` among the letters in front of it, and a
string otherwise. A string is reported from its limit on, and so are bytes if the `b` stands alone;
with another letter beside it neither form reads the literal (`literal_reported`).
-/

namespace DryRun

namespace Allocation

open Pattern Size Unicode

/-- A literal: letters, a quote, and what stands up to the next one. -/
structure Literal where
  letters : Text
  quote : Quote
  contents : Text

namespace Literal

/-- Whether there are ASCII letters in front, and ASCII letters and spaces between the quotes. -/
structure Regular (literal : Literal) : Prop where
  letters : ∀ c ∈ literal.letters, isAsciiLetter c = true
  contents : ∀ c ∈ literal.contents, isAsciiLetter c = true ∨ c = ' '

/-- Whether the literal is one of bytes. -/
def isBytes (literal : Literal) : Bool :=
  literal.letters.contains 'b' || literal.letters.contains 'B'

theorem isBytes_of_letters_eq {literal : Literal} {c : Char} (h : literal.letters = [c]) :
    literal.isBytes = (c == 'b' || c == 'B') := by
  rw [isBytes, h, List.contains_cons, List.contains_cons, BEq.comm, BEq.comm (a := 'B')]
  simp only [List.contains_nil, Bool.or_false]

/-- What stands behind the first quote of a literal times a numeral. -/
def behind (literal : Literal) (numeral : Text) : Text :=
  literal.contents ++ (literal.quote.char :: (" * ".toList ++ numeral))

/-- A literal times a numeral. -/
def times (literal : Literal) (numeral : Text) : Text :=
  literal.letters ++ (literal.quote.char :: literal.behind numeral)

/-- The length of a literal times a numeral. -/
def count (literal : Literal) (numeral : Text) : Nat :=
  literal.contents.length * numeralValue numeral

section Times

variable {literal : Literal} {numeral : Text} (hliteral : literal.Regular)
  (hnumeral : IsNumeral numeral)

include hliteral

theorem ofChar?_of_mem_contents {c : Char} (hc : c ∈ literal.contents) :
    Quote.ofChar? c = none := by
  rcases hliteral.contents c hc with hletter | rfl
  · exact Quote.ofChar?_eq_none_of (by decide) (by decide) hletter
  · rfl

theorem not_mem_contents (quote : Quote) : quote.char ∉ literal.contents :=
  fun hmem => Quote.ne_char_of_ofChar?_eq_none (ofChar?_of_mem_contents hliteral hmem) quote rfl

/-- Letters that do not begin a literal of bytes. -/
theorem bytesTimesSize_times_eq_none (numeral : Text) (hne : literal.letters ≠ [])
    (h : literal.letters.length = 1 → literal.isBytes = false) :
    bytesTimesSize (literal.times numeral) = none := by
  obtain ⟨c, others, hletters⟩ := List.exists_cons_of_ne_nil hne
  unfold bytesTimesSize
  refine charOf_bind_eq_none fun first rest htext hfirst => ?_
  rw [times, hletters, List.cons_append] at htext
  obtain ⟨rfl, rfl⟩ := List.cons.inj htext
  cases others with
  | nil =>
    have hbytes := h (by rw [hletters, List.length_singleton])
    rw [isBytes_of_letters_eq hletters, hfirst] at hbytes
    cases hbytes
  | cons d others =>
    -- another letter is no quote
    have hletter : isAsciiLetter d = true := by
      refine hliteral.letters d ?_
      rw [hletters]
      exact List.mem_cons_of_mem c List.mem_cons_self
    have hd : Quote.ofChar? d = none :=
      Quote.ofChar?_eq_none_of (by decide) (by decide) hletter
    rw [List.cons_append, bind_of_none (Quote.literal_cons_of_ofChar? hd _)]

include hnumeral

/-- There are letters, blanks, quotes, the sign and digits in the line, and no other characters. -/
theorem not_mem_times {c : Char} (hletter : isAsciiLetter c = false)
    (hother : c ∉ " *'\"".toList) (hdigit : inNumeral c = false) : c ∉ literal.times numeral := by
  have hquote : c ≠ literal.quote.char := by
    rintro rfl
    revert hother
    cases literal.quote <;> decide
  intro hmem
  simp only [times, behind, List.mem_append, List.mem_cons] at hmem
  rcases hmem with hmem | hmem | hmem | hmem | hmem | hmem
  · rw [hliteral.letters c hmem] at hletter
    cases hletter
  · exact hquote hmem
  · rcases hliteral.contents c hmem with hc | rfl
    · rw [hc] at hletter
      cases hletter
    · exact hother (by decide)
  · exact hquote hmem
  · have hsign : ∀ c ∈ " * ".toList, c ∈ " *'\"".toList := List.all_iff_forall_prop.1 (by decide)
    exact hother (hsign c hmem)
  · rw [hnumeral.inNumeral_of_mem hmem] at hdigit
    cases hdigit

theorem stringTimesSize_times :
    stringTimesSize (literal.times numeral) =
      some (if literal.isBytes then none
        else some (repeatedString (ofNat (literal.count numeral))), []) := by
  have hstop : (literal.quote.char :: literal.behind numeral).head?.any isAsciiLetter = false := by
    cases literal.quote <;> rfl
  have hread := Quote.literal_quoted (not_mem_contents hliteral literal.quote)
    (" * ".toList ++ numeral)
  rw [stringTimesSize, times, bind_of_some (run_of_append hliteral.letters hstop), behind,
    bind_of_some hread, bind_of_some (timesSize_numeral hnumeral), times_ofNat]
  rfl

theorem bytesTimesSize_times {c : Char} (h : literal.letters = [c]) (hc : c = 'b' ∨ c = 'B') :
    bytesTimesSize (literal.times numeral) =
      some (repeatedBytes (ofNat (literal.count numeral)), []) := by
  have hletter : charOf (fun c => c == 'b' || c == 'B')
      (c :: literal.quote.char :: literal.behind numeral) =
        some (c, literal.quote.char :: literal.behind numeral) := by
    rcases hc with rfl | rfl <;> rfl
  have hread := Quote.literal_quoted (not_mem_contents hliteral literal.quote)
    (" * ".toList ++ numeral)
  rw [bytesTimesSize, times, h, List.singleton_append, bind_of_some hletter, behind,
    bind_of_some hread, bind_of_some (timesSize_numeral hnumeral), times_ofNat]
  rfl

/-- Behind the first quote there is but one more. -/
theorem count_behind (quote : Quote) : (literal.behind numeral).count quote.char ≤ 1 := by
  have hsign : (" * ".toList ++ numeral).count quote.char = 0 := by
    rw [List.count_eq_zero, List.mem_append, not_or]
    constructor
    · cases quote <;> decide
    · intro hmem
      have hdigit := hnumeral.inNumeral_of_mem hmem
      cases quote <;> exact absurd hdigit (by decide)
  rw [behind, List.count_append, List.count_eq_zero.2 (not_mem_contents hliteral quote),
    List.count_cons, hsign]
  split <;> decide

/-- No literal of bytes begins behind the letters. -/
theorem bytesTimesSize_eq_none {part : Text}
    (hpart : part <:+ literal.quote.char :: literal.behind numeral) :
    bytesTimesSize part = none := by
  unfold bytesTimesSize
  rcases List.suffix_cons_iff.1 hpart with rfl | hbehind
  · refine bind_of_none ?_ _
    cases literal.quote <;> rfl
  · refine charOf_bind_eq_none fun c rest htext _ => ?_
    have hrest : rest <:+ literal.behind numeral :=
      (htext ▸ List.suffix_cons c rest : rest <:+ part).trans hbehind
    rw [bind_of_none (Quote.literal_eq_none fun quote =>
      (hrest.sublist.count_le quote.char).trans (count_behind hliteral hnumeral quote))]

/-- Bytes are found just if their letter stands alone. -/
theorem findAll_bytesTimesSize_eq_nil
    (h : literal.letters.length = 1 → literal.isBytes = false) :
    findAll (atWordEdge bytesTimesSize) (assigned (literal.times numeral)) = [] := by
  have hbehind : ∀ before, findFrom (atWordEdge bytesTimesSize) before 0
      (literal.quote.char :: literal.behind numeral) = [] := fun before =>
    findFrom_eq_nil (fun before part hpart =>
      atWordEdge_of_none (bytesTimesSize_eq_none hliteral hnumeral hpart) before) before 0
  rw [findAll_assigned rfl rfl rfl rfl]
  cases hletters : literal.letters with
  | nil =>
    rw [times, hletters]
    exact hbehind _
  | cons c others =>
    have hne : literal.letters ≠ [] := by
      rw [hletters]
      exact List.cons_ne_nil c others
    have hrefused := bytesTimesSize_times_eq_none hliteral numeral hne h
    have hword : ∀ d ∈ c :: others, isWord d = true := by
      intro d hd
      rw [← hletters] at hd
      exact isWord_of_isAsciiLetter (hliteral.letters d hd)
    rw [List.forall_mem_cons] at hword
    rw [times, hletters, List.cons_append] at hrefused ⊢
    rw [findFrom_cons_of_none (atWordEdge_of_none hrefused _)]
    exact findFrom_atWordEdge_eq_nil hword.1 hword.2 hbehind

theorem findAll_bytesTimesSize_times (h : literal.letters.length = 1)
    (hbytes : literal.isBytes = true) :
    findAll (atWordEdge bytesTimesSize) (assigned (literal.times numeral)) =
      [repeatedBytes (ofNat (literal.count numeral))] := by
  obtain ⟨c, hletters⟩ := List.length_eq_one_iff.1 h
  have hc : c = 'b' ∨ c = 'B' := by
    rwa [isBytes_of_letters_eq hletters, Bool.or_eq_true, beq_iff_eq, beq_iff_eq] at hbytes
  have hread := bytesTimesSize_times hliteral hnumeral hletters hc
  have hedge : atWordEdge bytesTimesSize (some ' ') (literal.times numeral) =
      bytesTimesSize (literal.times numeral) := by
    rw [times, hletters]
    rcases hc with rfl | rfl <;> rfl
  rw [findAll_assigned rfl rfl rfl rfl]
  refine findFrom_of_match ?_ (hedge.trans hread)
  rw [times, hletters]
  exact List.cons_ne_nil _ _

theorem ofLine_times :
    ofLine (assigned (literal.times numeral)) =
      (if literal.isBytes then none
        else some (repeatedString (ofNat (literal.count numeral)))).toList ++
        findAll (atWordEdge bytesTimesSize) (assigned (literal.times numeral)) := by
  have hnot : ∀ c ∈ "([".toList, c ∉ assigned (literal.times numeral) := by
    intro c hc hmem
    have hopener : ∀ c ∈ "([".toList, isAsciiLetter c = false ∧ c ∉ " *'\"".toList ∧
        inNumeral c = false ∧ c ∉ "x = ".toList := List.all_iff_forall_prop.1 (by decide)
    obtain ⟨hletter, hother, hdigit, hname⟩ := hopener c hc
    exact (mem_assigned hmem).elim hname (not_mem_times hliteral hnumeral hletter hother hdigit)
  have hne : literal.times numeral ≠ [] :=
    List.append_ne_nil_of_right_ne_nil _ (List.cons_ne_nil _ _)
  have hstring : findAll (fun _ => stringTimesSize) (assigned (literal.times numeral)) = _ :=
    (findAll_assigned rfl rfl rfl rfl).trans
      (findFrom_of_match hne (stringTimesSize_times hliteral hnumeral))
  rw [ofLine_of_literals (hnot '(' (by decide)) (hnot '[' (by decide)), hstring]
  cases literal.isBytes <;> rfl

theorem bare_times : Text.Bare (literal.times numeral) := by
  have hopened : Text.Bare (literal.letters ++ [literal.quote.char]) := by
    refine .of_any_eq_false (List.append_ne_nil_of_right_ne_nil _ (List.cons_ne_nil _ _)) ?_
    rw [List.any_append, Bool.or_eq_false_iff, List.any_eq_false]
    constructor
    · intro c hc
      exact Bool.eq_false_iff.1
        (Text.isBlank_eq_false_of_isWord (isWord_of_isAsciiLetter (hliteral.letters c hc)))
    · cases literal.quote <;> decide
  have happend := hopened.append
    (literal.contents ++ (literal.quote.char :: " * ".toList)) hnumeral.bare
  simpa only [times, behind, List.append_assoc, List.cons_append, List.nil_append] using happend

/-- **Literals.** A literal times a numeral is reported exactly from the limit on: as a string, if
no letter in front of it stands for bytes, and as bytes, if such a letter stands alone. With another
letter beside that one the literal is never reported. -/
theorem literal_reported :
    let line := assigned (literal.times numeral)
    (literal.isBytes = false →
        ReportedFrom 1000000000 (literal.count numeral) line "creating a string of "
          " characters") ∧
      (literal.isBytes = true → literal.letters.length = 1 →
        ReportedFrom 500000000 (literal.count numeral) line "creating a bytes object of "
          " bytes") ∧
      (literal.isBytes = true → literal.letters.length ≠ 1 → check (.ofText line) = none) := by
  intro line
  have hline := ofLine_times hliteral hnumeral
  have hbare := bare_times hliteral hnumeral
  have hbreak : '\n' ∉ literal.times numeral :=
    not_mem_times hliteral hnumeral (by decide) (by decide) (by decide)
  have hcomment : '#' ∉ literal.times numeral :=
    not_mem_times hliteral hnumeral (by decide) (by decide) (by decide)
  refine ⟨fun hbytes => ?string, fun hbytes halone => ?bytes, fun hbytes hothers => ?none⟩
  case string =>
    rw [hbytes, findAll_bytesTimesSize_eq_nil hliteral hnumeral fun _ => hbytes] at hline
    exact reportedFrom_of_ofLine hline rfl hbreak hcomment hbare
  case bytes =>
    rw [hbytes, findAll_bytesTimesSize_times hliteral hnumeral halone hbytes] at hline
    exact reportedFrom_of_ofLine hline rfl hbreak hcomment hbare
  case none =>
    rw [hbytes, findAll_bytesTimesSize_eq_nil hliteral hnumeral (absurd · hothers)] at hline
    exact (check_assigned hbreak hcomment hbare).trans (by rw [hline]; rfl)

end Times

/-- A string and a bytes literal, both with a prefix and a blank, and a bytes literal behind a
prefix of two letters. -/
theorem literal_reported_in_each_form :
    ReportedFrom 1000000000 1000000000 "x = u'ab c' * 250_000_000".toList "creating a string of "
        " characters" ∧
      ReportedFrom 500000000 750000000 "x = B\"a c\" * 250000000".toList
        "creating a bytes object of " " bytes" ∧
      check (.ofText "x = Rb'ab' * 250000000".toList) = none := by
  have hstring : Regular ⟨"u".toList, .single, "ab c".toList⟩ :=
    ⟨List.all_iff_forall_prop.1 (by decide), List.all_iff_forall_prop.1 (by decide)⟩
  have hbytes : Regular ⟨"B".toList, .double, "a c".toList⟩ :=
    ⟨List.all_iff_forall_prop.1 (by decide), List.all_iff_forall_prop.1 (by decide)⟩
  have hraw : Regular ⟨"Rb".toList, .single, "ab".toList⟩ :=
    ⟨List.all_iff_forall_prop.1 (by decide), List.all_iff_forall_prop.1 (by decide)⟩
  have hgrouped : IsNumeral "250_000_000".toList := by decide
  have hplain : IsNumeral "250000000".toList := by decide
  exact ⟨(literal_reported hstring hgrouped).1 rfl,
    (literal_reported hbytes hplain).2.1 rfl rfl,
    (literal_reported hraw hplain).2.2 rfl (by decide)⟩

/-- A raw bytes literal is not reported, though it comes to as many bytes as are too large. -/
theorem raw_bytes_not_reported :
    isBytes ⟨"rb".toList, .single, "x".toList⟩ = true ∧
      500000000 ≤ count ⟨"rb".toList, .single, "x".toList⟩ "500000000".toList ∧
      check (.ofText "x = rb'x' * 500000000".toList) = none := by
  decide +kernel

end Literal

end Allocation

end DryRun
