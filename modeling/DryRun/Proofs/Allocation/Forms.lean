import DryRun.Proofs.Allocation.Report
import DryRun.Proofs.Expression.Form
import DryRun.Proofs.Source.Columns

/-!
# Forms of allocations

Each form needs certain characters, so that a line without them has no allocation of the form, and
it reads an allocation that is written out with its size. What is found in a line that assigns to
`x` is found in the expression behind the sign, and such a line by itself is reported for the first
allocation of it that is too large (`check_assigned`).

1. What the forms need.
2. What they read.
3. Lines with an assignment.
-/

namespace DryRun

open Unicode

theorem Quote.literal_cons_of_ofChar? {c : Char} (h : ofChar? c = none) (rest : Text) :
    literal (c :: rest) = none := by
  unfold literal
  rw [Pattern.either_of_none (literalIn_cons_of_ne (ne_char_of_ofChar?_eq_none h .single) rest)]
  exact literalIn_cons_of_ne (ne_char_of_ofChar?_eq_none h .double) rest

theorem Quote.needs_literal : Pattern.Needs (fun c => (Quote.ofChar? c).isSome) literal := by
  intro text hnot
  cases text with
  | nil => rfl
  | cons c rest =>
    have hc : ofChar? c = none :=
      Option.isNone_iff_eq_none.1 (Option.isSome_eq_false_iff.1 (hnot c List.mem_cons_self))
    exact literal_cons_of_ofChar? hc rest

theorem Quote.literalIn_eq_none {quote : Quote} {text : Text} (h : text.count quote.char ≤ 1) :
    quote.literalIn text = none := by
  cases text with
  | nil => rfl
  | cons c rest =>
    by_cases hc : c = quote.char
    · have hrest : quote.char ∉ rest := by
        intro hmem
        have hpos : 0 < rest.count quote.char := List.count_pos_iff.2 hmem
        rw [hc, List.count_cons_self] at h
        omega
      have hdrop : rest.dropWhile (· != quote.char) = [] := by
        rw [List.dropWhile_eq_nil_iff]
        rintro d hd
        rw [bne_iff_ne]
        rintro rfl
        exact hrest hd
      rw [literalIn, if_pos hc, hdrop]
    · exact literalIn_cons_of_ne hc rest

/-- A literal needs a quote at its end. -/
theorem Quote.literal_eq_none {text : Text} (h : ∀ quote : Quote, text.count quote.char ≤ 1) :
    literal text = none := by
  unfold literal
  rw [Pattern.either_of_none (literalIn_eq_none (h .single)), literalIn_eq_none (h .double)]

namespace Allocation

open Pattern Size

/-! ## What the forms need -/

theorem needs_listTimesSize : Needs (· == '[') listTimesSize := (Needs.word (by decide)).bind _

theorem needs_listOfRange : Needs (· == '(') listOfRange := (Needs.word (by decide)).bind _

theorem needs_stringTimesSize : Needs (fun c => (Quote.ofChar? c).isSome) stringTimesSize :=
  .bind_of_suffix isSuffix_of_run fun _ => Quote.needs_literal.bind _

/-- A buffer is made with parentheses, by a name that has a `y`. -/
theorem needs_sizedBuffer {c : Char} (h : c = '(' ∨ c = 'y') : Needs (· == c) sizedBuffer := by
  have hmade : ∀ name ∈ ["bytearray", "bytes"],
      Needs (· == c) (do
        word name
        word "("
        blanks
        let bytes ← size
        closing
        return buffer name bytes : Pattern Allocation) := by
    intro name hname
    rcases h with rfl | rfl
    · refine .bind_of_suffix ?_ fun _ => (Needs.word (by decide)).bind _
      intro text found rest hword
      rw [Text.eq_append_of_word hword]
      exact List.suffix_append _ _
    · refine (Needs.word ?_).bind _
      revert name
      decide
  exact .either (hmade _ (by simp)) (hmade _ (by simp))

theorem needs_bytesTimesSize : Needs (fun c => (Quote.ofChar? c).isSome) bytesTimesSize :=
  .bind_of_suffix isSuffix_of_charOf fun _ => Quote.needs_literal.bind _

/-- Lists in lists need a bracket behind another. -/
theorem nestedComprehension_eq_none {text : Text} (h : text.count '[' ≤ 1) :
    nestedComprehension text = none := by
  cases hread : word "[" text with
  | none => exact bind_of_none hread _
  | some read =>
    obtain ⟨found, rest⟩ := read
    have htext : text = '[' :: rest := Text.eq_append_of_word hread
    have hrest : '[' ∉ rest := by
      intro hmem
      have hpos : 0 < rest.count '[' := List.count_pos_iff.2 hmem
      rw [htext, List.count_cons_self] at h
      omega
    have hneeds : Needs (· == '[') (blanks >>= fun _ => word "[" >>= fun _ =>
        seek (atWordEdge twoLoops) (some '[')) :=
      .bind_of_suffix isSuffix_of_blanks fun _ => (Needs.word (by decide)).bind _
    exact (bind_of_some hread _).trans (hneeds rest (forall_beq_eq_false hrest))

theorem findAll_nestedComprehension_eq_nil {text : Text} (h : text.count '[' ≤ 1) :
    findAll (fun _ => nestedComprehension) text = [] :=
  findFrom_eq_nil
    (fun _ _ hpart => nestedComprehension_eq_none ((hpart.sublist.count_le '[').trans h)) none 0

/-- Whether a text has no string in it. -/
def Unquoted (text : Text) : Prop := ∀ c ∈ text, (Quote.ofChar? c).isSome = false

theorem ofLine_of_lists {line : Text} (hquote : Unquoted line) (hround : '(' ∉ line)
    (hsquare : line.count '[' ≤ 1) : ofLine line = findAll (fun _ => listTimesSize) line := by
  have hround := forall_beq_eq_false hround
  rw [ofLine, needs_listOfRange.findAll_atWordEdge_eq_nil hround,
    needs_stringTimesSize.findAll_eq_nil hquote,
    (needs_sizedBuffer (.inl rfl)).findAll_atWordEdge_eq_nil hround,
    findAll_nestedComprehension_eq_nil hsquare,
    needs_bytesTimesSize.findAll_atWordEdge_eq_nil hquote]
  simp only [List.append_nil, List.filterMap_nil]

theorem ofLine_of_ranges {line : Text} (hquote : Unquoted line) (hsquare : '[' ∉ line)
    (hletter : 'y' ∉ line) : ofLine line = findAll (atWordEdge listOfRange) line := by
  have hcount : line.count '[' ≤ 1 := by
    rw [List.count_eq_zero.2 hsquare]
    exact Nat.zero_le 1
  rw [ofLine, needs_listTimesSize.findAll_eq_nil (forall_beq_eq_false hsquare),
    needs_stringTimesSize.findAll_eq_nil hquote,
    (needs_sizedBuffer (.inr rfl)).findAll_atWordEdge_eq_nil (forall_beq_eq_false hletter),
    findAll_nestedComprehension_eq_nil hcount,
    needs_bytesTimesSize.findAll_atWordEdge_eq_nil hquote]
  simp only [List.append_nil, List.nil_append, List.filterMap_nil]

theorem ofLine_of_literals {line : Text} (hround : '(' ∉ line) (hsquare : '[' ∉ line) :
    ofLine line = (findAll (fun _ => stringTimesSize) line).filterMap id ++
      findAll (atWordEdge bytesTimesSize) line := by
  have hcount : line.count '[' ≤ 1 := by
    rw [List.count_eq_zero.2 hsquare]
    exact Nat.zero_le 1
  have hround := forall_beq_eq_false hround
  rw [ofLine, needs_listTimesSize.findAll_eq_nil (forall_beq_eq_false hsquare),
    needs_listOfRange.findAll_atWordEdge_eq_nil hround,
    (needs_sizedBuffer (.inl rfl)).findAll_atWordEdge_eq_nil hround,
    findAll_nestedComprehension_eq_nil hcount]
  simp only [List.append_nil, List.nil_append]

/-- A repeated list is one that the first form reads. -/
theorem mem_findAll_of_repeatedList {line : Text} {elements : Size}
    (h : repeatedList elements ∈ ofLine line) :
    repeatedList elements ∈ findAll (fun _ => listTimesSize) line := by
  -- the other forms make other allocations
  have hrange : ∀ before, Yields (· ≠ repeatedList elements) (atWordEdge listOfRange before) := by
    refine .atWordEdge ?_
    unfold listOfRange
    iterate 7 refine .bind fun _ => ?_
    exact .pure nofun
  have hstring : Yields (· ≠ some (repeatedList elements)) stringTimesSize := by
    iterate 3 refine .bind fun _ => ?_
    refine .pure ?_
    split <;> nofun
  have hbuffer : ∀ before, Yields (· ≠ repeatedList elements) (atWordEdge sizedBuffer before) := by
    refine .atWordEdge (.either ?_ ?_)
    all_goals
      iterate 5 refine .bind fun _ => ?_
      exact .pure nofun
  have hnested : Yields (· ≠ repeatedList elements) nestedComprehension := by
    iterate 3 refine .bind fun _ => ?_
    refine .seek (.atWordEdge ?_) _
    iterate 3 refine .bind fun _ => ?_
    exact .pure nofun
  have hbytes : ∀ before,
      Yields (· ≠ repeatedList elements) (atWordEdge bytesTimesSize before) := by
    refine .atWordEdge ?_
    iterate 3 refine .bind fun _ => ?_
    exact .pure nofun
  simp only [ofLine, List.mem_append] at h
  rcases h with ((((h | h) | h) | h) | h) | h
  · exact h
  · exact absurd rfl (forall_findFrom hrange _ _ _ _ h)
  · obtain ⟨found, hfound, heq⟩ := List.mem_filterMap.1 h
    exact absurd heq (forall_findFrom (fun _ => hstring) _ _ _ _ hfound)
  · exact absurd rfl (forall_findFrom hbuffer _ _ _ _ h)
  · exact absurd rfl (forall_findFrom (fun _ => hnested) _ _ _ _ h)
  · exact absurd rfl (forall_findFrom hbytes _ _ _ _ h)

/-! ## What the forms read -/

section Written

variable {size : Written} (hsize : size.Regular)

include hsize

/-- A multiplication is read with its size. -/
theorem timesSize_text : timesSize (" * ".toList ++ size.text) = some (size.estimate, []) := by
  have hsign : blanks (" * ".toList ++ size.text) = some ((), "* ".toList ++ size.text) := rfl
  have hword : word "*" ("* ".toList ++ size.text) = some ((), [' '] ++ size.text) := rfl
  have hhead : size.text.head?.any isBlank = false := by
    have happend := hsize.bare.any_head?_append []
    rwa [List.append_nil] at happend
  have hspace : blanks ([' '] ++ size.text) = some ((), size.text) := blanks_of_append rfl hhead
  have hread : Allocation.size (size.text ++ []) = some (size.estimate, []) :=
    hsize.size_append rfl
  rw [List.append_nil] at hread
  rw [timesSize, bind_of_some hsign, bind_of_some hword, bind_of_some hspace, hread]

omit hsize in
theorem timesSize_numeral {numeral : Text} (h : IsNumeral numeral) :
    timesSize (" * ".toList ++ numeral) = some (ofNat (numeralValue numeral), []) := by
  rw [← Written.estimate_numeral]
  exact timesSize_text (.numeral h)

/-- The number of items that a list is taken to have: the pieces between its commas that are not
blank. -/
def itemCount (contents : Text) : Nat :=
  ((Text.pieces (· == ',') contents).filter (!Text.isBlankText ·)).length

theorem listTimesSize_text {contents : Text} (h : ∀ c ∈ contents, c ≠ '[' ∧ c ≠ ']') :
    listTimesSize ('[' :: (contents ++ ("] * ".toList ++ size.text))) =
      some (repeatedList (times (itemCount contents) size.estimate), []) := by
  have hopener : word "[" ('[' :: (contents ++ ("] * ".toList ++ size.text))) =
      some ((), contents ++ ("] * ".toList ++ size.text)) := rfl
  have hcontents : ∀ c ∈ contents, (c != '[' && c != ']') = true := by
    intro c hc
    rw [Bool.and_eq_true, bne_iff_ne, bne_iff_ne]
    exact h c hc
  have hcloser : word "]" ("] * ".toList ++ size.text) = some ((), " * ".toList ++ size.text) :=
    rfl
  rw [listTimesSize, bind_of_some hopener, bind_of_some (run_of_append hcontents rfl),
    bind_of_some hcloser, bind_of_some (timesSize_text hsize)]
  rfl

theorem listOfRange_text :
    listOfRange ("list(range(".toList ++ (size.text ++ "))".toList)) =
      some (rangeList size.estimate, []) := by
  have hlist : word "list(" ("list(range(".toList ++ (size.text ++ "))".toList)) =
      some ((), "range(".toList ++ (size.text ++ "))".toList)) := rfl
  have hgap : blanks ("range(".toList ++ (size.text ++ "))".toList)) =
      some ((), "range(".toList ++ (size.text ++ "))".toList)) := rfl
  have hrange : word "range(" ("range(".toList ++ (size.text ++ "))".toList)) =
      some ((), size.text ++ "))".toList) := rfl
  rw [listOfRange, bind_of_some hlist, bind_of_some hgap, bind_of_some hrange,
    bind_of_some (blanks_of_any_head? (hsize.bare.any_head?_append _)),
    bind_of_some (hsize.size_append (by decide))]
  rfl

end Written

/-! ## Lines with an assignment -/

/-- The line that assigns an expression to `x`. -/
def assigned (expression : Text) : Text := "x = ".toList ++ expression

section Assigned

variable {expression : Text}

theorem mem_assigned {c : Char} (h : c ∈ assigned expression) :
    c ∈ "x = ".toList ∨ c ∈ expression := List.mem_append.1 h

/-- A pattern that refuses the name and the sign finds in the line what it finds in the
expression. -/
theorem findAll_assigned {α : Type} {p : Option Char → Pattern α}
    (hname : p none (assigned expression) = none)
    (hgap : p (some 'x') (" = ".toList ++ expression) = none)
    (hsign : p (some ' ') ("= ".toList ++ expression) = none)
    (hgap' : p (some '=') (" ".toList ++ expression) = none) :
    findAll p (assigned expression) = findFrom p (some ' ') 0 expression :=
  (findFrom_cons_of_none hname).trans ((findFrom_cons_of_none hgap).trans
    ((findFrom_cons_of_none hsign).trans (findFrom_cons_of_none hgap')))

theorem lines_of_bare {line : Text} (hbreak : '\n' ∉ line) (hbare : Text.Bare line) :
    Text.lines line = [line] := by
  have hpieces : Text.pieces (· == '\n') line = [line] :=
    Text.pieces_of_not_separates (forall_beq_eq_false hbreak)
  obtain ⟨last, hlast, hblank⟩ := hbare.last
  have hreturn : Text.dropReturn line = line := by
    unfold Text.dropReturn
    rw [hlast]
    split
    · rename_i heq
      cases heq
      cases hblank
    · rfl
  rw [Text.lines, hpieces, List.map_singleton, hreturn]

/-- A line by itself is reported for the first allocation of it that is too large. -/
theorem check_of_bare {line : Text} (hbreak : '\n' ∉ line) (hcomment : '#' ∉ line)
    (hbare : Text.Bare line) :
    check (.ofText line) = ((ofLine line).find? isExcessive).map (Finding.mk · 1) := by
  have hexcessive : excessive? line = (ofLine line).find? isExcessive := by
    rw [excessive?, stripComment_of_not_mem hcomment, hbare.trim_eq]
  have hlines : (Source.ofText line).numbered = [(line, 1)] :=
    congrArg (List.zipIdx · 1) (lines_of_bare hbreak hbare)
  rw [check, hlines, List.findSome?_singleton]
  dsimp only
  rw [hexcessive]

theorem check_assigned (hbreak : '\n' ∉ expression) (hcomment : '#' ∉ expression)
    (hbare : Text.Bare expression) :
    check (.ofText (assigned expression)) =
      ((ofLine (assigned expression)).find? isExcessive).map (Finding.mk · 1) := by
  have hx : Text.Bare ['x'] := .of_any_eq_false (List.cons_ne_nil _ _) (by decide)
  refine check_of_bare ?_ ?_ (hx.append " = ".toList hbare)
  · exact fun hmem => (mem_assigned hmem).elim (by decide) hbreak
  · exact fun hmem => (mem_assigned hmem).elim (by decide) hcomment

/-- A line with one allocation is reported where this reaches its limit. -/
theorem reportedFrom_of_ofLine {allocation : Allocation} {n : Nat}
    (hline : ofLine (assigned expression) = [allocation]) (hcount : allocation.count = ofNat n)
    (hbreak : '\n' ∉ expression) (hcomment : '#' ∉ expression) (hbare : Text.Bare expression) :
    ReportedFrom allocation.limit n (assigned expression) allocation.made allocation.unit := by
  have hcheck := check_assigned hbreak hcomment hbare
  rw [hline] at hcheck
  constructor
  · rw [hcheck, ← isExcessive_iff hcount]
    cases h : allocation.isExcessive <;> simp [h]
  · intro finding hfinding
    rw [hcheck, Option.mem_def, Option.map_eq_some_iff] at hfinding
    obtain ⟨found, hfound, rfl⟩ := hfinding
    obtain rfl := List.mem_singleton.1 (List.mem_of_find?_eq_some hfound)
    have hquotes := quotes_message found
    rw [hcount] at hquotes
    exact ⟨rfl, hquotes⟩

end Assigned

end Allocation

end DryRun
