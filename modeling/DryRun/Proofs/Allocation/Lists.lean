import DryRun.Proofs.Allocation.Forms
import DryRun.Proofs.Evaluation.Lists

/-!
# Allocations of lists

A list of a written size is reported from the limit on, and the number that is quoted is the size
(`size_reported`). What is between the brackets of a repeated list falls apart at every comma, also
at those within an item, so that no item counts for less than one and one with a comma for more
(`items_reported`).
-/

namespace DryRun

namespace Allocation

open Pattern Size Text

/-! ## Lists of a written size -/

/-- Whether the characters of a text are given ones and those of sizes. -/
def AroundSize (given text : Text) : Prop := ∀ c ∈ text, c ∈ given ∨ inSize c = true

namespace AroundSize

variable {given text : Text} (h : AroundSize given text)

include h

theorem not_mem {c : Char} (hgiven : c ∉ given) (hsize : inSize c = false) : c ∉ text := by
  intro hmem
  rcases h c hmem with hc | hc
  · exact hgiven hc
  · rw [hsize] at hc
    cases hc

theorem unquoted (hgiven : Unquoted given) : Unquoted text := by
  intro c hc
  rcases h c hc with hc | hc
  · exact hgiven c hc
  · rw [Quote.ofChar?_eq_none_of (by decide) (by decide) hc]
    rfl

end AroundSize

/-- The line that repeats a list of one item. -/
def repeatedOnce (size : Written) : Text := assigned ("[0] * ".toList ++ size.text)

/-- The line that makes a list of a range. -/
def listedRange (size : Written) : Text :=
  assigned ("list(range(".toList ++ (size.text ++ "))".toList))

section Sizes

variable {size : Written} (hsize : size.Regular)

include hsize

theorem aroundSize_repeatedOnce : AroundSize "x = [0] * ".toList (repeatedOnce size) := by
  have hline : repeatedOnce size = "x = [0] * ".toList ++ size.text := rfl
  intro c hc
  rw [hline] at hc
  exact (List.mem_append.1 hc).imp_right hsize.inSize_of_mem

theorem aroundSize_listedRange :
    AroundSize ("x = list(range(".toList ++ "))".toList) (listedRange size) := by
  have hline : listedRange size = "x = list(range(".toList ++ (size.text ++ "))".toList) := rfl
  intro c hc
  rw [hline, List.mem_append, List.mem_append] at hc
  rcases hc with hc | hc | hc
  · exact Or.inl (List.mem_append_left _ hc)
  · exact Or.inr (hsize.inSize_of_mem hc)
  · exact Or.inl (List.mem_append_right _ hc)

theorem ofLine_repeatedOnce :
    ofLine (repeatedOnce size) = [repeatedList (times 1 size.estimate)] := by
  have haround := aroundSize_repeatedOnce hsize
  have hquote : Unquoted "x = [0] * ".toList := List.all_iff_forall_prop.1 (by decide)
  have hsquare : (repeatedOnce size).count '[' ≤ 1 := by
    rw [repeatedOnce, assigned, List.count_append, List.count_append,
      List.count_eq_zero.2 (hsize.not_mem (c := '[') (by decide))]
    decide
  have hcontents : ∀ c ∈ ['0'], c ≠ '[' ∧ c ≠ ']' := List.all_iff_forall_prop.1 (by decide)
  have hsplit : "[0] * ".toList ++ size.text =
      '[' :: (['0'] ++ ("] * ".toList ++ size.text)) := rfl
  have hread : listTimesSize ("[0] * ".toList ++ size.text) =
      some (repeatedList (times 1 size.estimate), []) := by
    rw [hsplit]
    exact listTimesSize_text hsize hcontents
  rw [ofLine_of_lists (haround.unquoted hquote) (haround.not_mem (by decide) (by decide)) hsquare,
    repeatedOnce, findAll_assigned rfl rfl rfl rfl]
  exact findFrom_of_match (List.cons_ne_nil _ _) hread

theorem ofLine_listedRange : ofLine (listedRange size) = [rangeList size.estimate] := by
  have haround := aroundSize_listedRange hsize
  have hquote : Unquoted ("x = list(range(".toList ++ "))".toList) :=
    List.all_iff_forall_prop.1 (by decide)
  rw [ofLine_of_ranges (haround.unquoted hquote) (haround.not_mem (by decide) (by decide))
    (haround.not_mem (by decide) (by decide)), listedRange, findAll_assigned rfl rfl rfl rfl]
  exact findFrom_of_match (List.cons_ne_nil _ _) (listOfRange_text hsize)

variable (hbreak : '\n' ∉ size.text)

include hbreak

theorem repeatedOnce_reported {n : Nat} (hn : size.estimate = ofNat n) :
    ReportedFrom 100000000 n (repeatedOnce size) "creating a list of " " elements" := by
  have hcount : times 1 size.estimate = ofNat n := by rw [hn, times_ofNat, Nat.one_mul]
  have hsplit : "[0]".toList ++ " * ".toList = "[0] * ".toList := by decide
  have hlist : Bare "[0]".toList := .of_any_eq_false (List.cons_ne_nil _ _) (by decide)
  have hbare := hlist.append " * ".toList hsize.bare
  rw [← List.append_assoc, hsplit] at hbare
  refine reportedFrom_of_ofLine (ofLine_repeatedOnce hsize) hcount ?_ ?_ hbare
  · exact fun hmem => (List.mem_append.1 hmem).elim (by decide) hbreak
  · exact fun hmem => (List.mem_append.1 hmem).elim (by decide) (hsize.not_mem (by decide))

theorem listedRange_reported {n : Nat} (hn : size.estimate = ofNat n) :
    ReportedFrom 100000000 n (listedRange size) "list(range(...)) with " " elements" := by
  have hbefore : Bare "list(range(".toList := .of_any_eq_false (List.cons_ne_nil _ _) (by decide)
  have hbehind : Bare "))".toList := .of_any_eq_false (List.cons_ne_nil _ _) (by decide)
  have hnot : ∀ {c}, c ∉ "list(range(".toList → c ∉ size.text → c ∉ "))".toList →
      c ∉ "list(range(".toList ++ (size.text ++ "))".toList) := by
    intro c hbefore hmiddle hbehind hmem
    simp only [List.mem_append] at hmem
    exact hmem.elim hbefore (Or.rec hmiddle hbehind)
  exact reportedFrom_of_ofLine (ofLine_listedRange hsize) hn
    (hnot (by decide) hbreak (by decide)) (hnot (by decide) (hsize.not_mem (by decide)) (by decide))
    (hbefore.append size.text hbehind)

/-- **Sizes.** Unless the size is a power of zero or one of which the exponent has no place in 32
bits, a list of so many elements is reported exactly from the limit on, repeated or of a range, and
the message quotes the size up to the cap. Those powers are at most one, and yet they are reported
as the cap. -/
theorem size_reported :
    (¬ size.Overruns →
        ReportedFrom 100000000 size.value (repeatedOnce size) "creating a list of " " elements" ∧
        ReportedFrom 100000000 size.value (listedRange size) "list(range(...)) with "
          " elements") ∧
      (size.Overruns → size.value ≤ 1 ∧
        ReportedFrom 100000000 cap (repeatedOnce size) "creating a list of " " elements" ∧
        ReportedFrom 100000000 cap (listedRange size) "list(range(...)) with " " elements") := by
  constructor
  · intro hover
    have hestimate := Written.estimate_of_not_overruns hover
    exact ⟨repeatedOnce_reported hsize hbreak hestimate,
      listedRange_reported hsize hbreak hestimate⟩
  · intro hover
    have hestimate : size.estimate = ofNat cap := by
      rw [Written.estimate_of_overruns hover, ofNat_of_le (le_refl cap)]
    exact ⟨Written.value_le_one_of_overruns hover, repeatedOnce_reported hsize hbreak hestimate,
      listedRange_reported hsize hbreak hestimate⟩

end Sizes

/-- Ten billion elements, by a power with blanks around its sign and an underscore in its
exponent. -/
theorem size_reported_ten_billion :
    (Written.power "10".toList " ".toList " ".toList "1_0".toList).Regular ∧
      ReportedFrom 100000000 10000000000 "x = [0] * 10 ** 1_0".toList "creating a list of "
        " elements" ∧
      ReportedFrom 100000000 10000000000 "x = list(range(10 ** 1_0))".toList
        "list(range(...)) with " " elements" := by
  have hregular : (Written.power "10".toList " ".toList " ".toList "1_0".toList).Regular :=
    .power (by decide) (by decide) (by decide) (by decide)
  exact ⟨hregular, (size_reported hregular (by decide)).1 (by decide)⟩

/-- A power of one counts as the largest size of all, though it is one, if its exponent has no place
in 32 bits. -/
theorem one_to_large_power_reported :
    (Written.power "1".toList [] [] "4294967296".toList).value ≤ 1 ∧
      check (.ofText "x = [0] * 1**4294967296".toList) = some ⟨repeatedList cap, 1⟩ :=
  ⟨Written.value_le_one_of_overruns (by decide), by decide +kernel⟩

/-! ## Lists of written items -/

/-- Whether a text has a character that is neither blank nor a comma. -/
def Solid (text : Text) : Prop := ∃ c ∈ text, c ≠ ',' ∧ Unicode.isBlank c = false

theorem itemCount_append (before behind : Text) :
    itemCount (before ++ ',' :: behind) = itemCount before + itemCount behind := by
  unfold itemCount
  rw [pieces_append rfl, List.filter_append, List.length_append]

theorem itemCount_space (text : Text) : itemCount (' ' :: text) = itemCount text := by
  obtain ⟨first, others, hpieces⟩ := List.exists_cons_of_ne_nil (pieces_ne_nil (· == ',') text)
  have hspace : pieces (· == ',') (' ' :: text) = (' ' :: first) :: others := by
    rw [pieces, hpieces]
    rfl
  have hblank : isBlankText (' ' :: first) = isBlankText first := rfl
  rw [itemCount, itemCount, hspace, hpieces, List.filter_cons, List.filter_cons, hblank]
  split <;> rfl

/-- The items of joined texts are those of each. -/
theorem itemCount_join (texts : List Text) :
    itemCount (Text.join ", ".toList texts) = (texts.map itemCount).sum := by
  induction texts with
  | nil => rfl
  | cons first others ih =>
    cases others with
    | nil => rw [join_singleton, List.map_singleton, List.sum_singleton]
    | cons second rest =>
      have hjoin : Text.join ", ".toList (first :: second :: rest) =
          first ++ ',' :: ' ' :: Text.join ", ".toList (second :: rest) := rfl
      rw [List.map_cons, List.sum_cons, hjoin, itemCount_append, itemCount_space, ih]

theorem Solid.itemCount_pos {text : Text} (h : Solid text) : 0 < itemCount text := by
  obtain ⟨c, hc, hcomma, hblank⟩ := h
  obtain hseparates | ⟨piece, hpiece, hmem⟩ := separates_or_mem_pieces (· == ',') hc
  · exact absurd (eq_of_beq hseparates) hcomma
  · have hnot : isBlankText piece = false := by
      rw [Bool.eq_false_iff, Ne, isBlankText_iff]
      intro hall
      rw [hall c hmem] at hblank
      cases hblank
    exact List.length_pos_of_mem (List.mem_filter.2 ⟨hpiece, by rw [hnot, Bool.not_false]⟩)

theorem itemCount_of_not_mem {text : Text} (hblank : isBlankText text = false) (h : ',' ∉ text) :
    itemCount text = 1 := by
  rw [itemCount, pieces_of_not_separates (forall_beq_eq_false h), List.filter_singleton, hblank]
  rfl

/-- Whether a text has a comma between characters that are neither blank nor commas. -/
def Parted (text : Text) : Prop :=
  ∃ before behind, text = before ++ ',' :: behind ∧ Solid before ∧ Solid behind

theorem Parted.append {rest : Text} (h : Parted rest) (front : Text) : Parted (front ++ rest) := by
  obtain ⟨before, behind, rfl, ⟨c, hc, hsolid⟩, hbehind⟩ := h
  exact ⟨front ++ before, behind, (List.append_assoc ..).symm,
    ⟨c, List.mem_append_right front hc, hsolid⟩, hbehind⟩

/-- A comma between two characters of which none is blank, or behind them. -/
theorem parted_enclosed {opener closer : Char} {inside rest : Text}
    (hopener : opener ≠ ',' ∧ Unicode.isBlank opener = false)
    (hcloser : closer ≠ ',' ∧ Unicode.isBlank closer = false)
    (hcomma : ',' ∈ opener :: (inside ++ closer :: rest)) (hrest : ',' ∈ rest → Parted rest) :
    Parted (opener :: (inside ++ closer :: rest)) := by
  simp only [List.mem_cons, List.mem_append] at hcomma
  rcases hcomma with heq | hinside | heq | hbehind
  · exact absurd heq.symm hopener.1
  · obtain ⟨before, behind, rfl⟩ := List.append_of_mem hinside
    refine ⟨opener :: before, behind ++ closer :: rest, by simp, ?_, ?_⟩
    · exact ⟨opener, List.mem_cons_self, hopener⟩
    · exact ⟨closer, List.mem_append_right behind List.mem_cons_self, hcloser⟩
  · exact absurd heq.symm hcloser.1
  · have hparted := (hrest hbehind).append (opener :: (inside ++ [closer]))
    rwa [List.cons_append, List.append_assoc] at hparted

/-- A comma in a balanced item stands in quotes or in brackets. -/
theorem parted_of_balanced {text : Text} (h : Balanced false text) (hcomma : ',' ∈ text) :
    Parted text := by
  generalize hcommas : false = commas at h
  induction h with
  | nil => cases hcomma
  | @char commas c rest hquote hbracket hfree h ih =>
    subst hcommas
    rcases List.mem_cons.1 hcomma with rfl | hrest
    · cases hfree rfl
    · exact (ih hrest rfl).append [c]
  | @quoted commas quote inside rest hinside h ih =>
    have hquote : quote.char ≠ ',' ∧ Unicode.isBlank quote.char = false := by
      cases quote <;> decide
    exact parted_enclosed hquote hquote hcomma (ih · hcommas)
  | @enclosed commas bracket inside rest hinside h ihinside ih =>
    have hopener : bracket.opener ≠ ',' ∧ Unicode.isBlank bracket.opener = false := by
      cases bracket <;> decide
    have hcloser : bracket.closer ≠ ',' ∧ Unicode.isBlank bracket.closer = false := by
      cases bracket <;> decide
    exact parted_enclosed hopener hcloser hcomma (ih · hcommas)

/-- A balanced item counts for one, or for more if it has a comma. -/
theorem itemCount_of_balanced {text : Text} (h : Balanced false text)
    (hblank : isBlankText text = false) :
    1 ≤ itemCount text ∧ (itemCount text = 1 ↔ ',' ∉ text) := by
  by_cases hcomma : ',' ∈ text
  · obtain ⟨before, behind, rfl, hbefore, hbehind⟩ := parted_of_balanced h hcomma
    have hbefore := hbefore.itemCount_pos
    have hbehind := hbehind.itemCount_pos
    rw [itemCount_append]
    exact ⟨by omega, fun hone => by omega, fun hnot => absurd hcomma hnot⟩
  · have hone := itemCount_of_not_mem hblank hcomma
    exact ⟨hone.ge, fun _ => hcomma, fun _ => hone⟩

/-- Balanced items are counted as many as they are just if none of them has a comma. -/
theorem sum_itemCount {texts : List Text}
    (h : ∀ text ∈ texts, Balanced false text ∧ isBlankText text = false) :
    texts.length ≤ (texts.map itemCount).sum ∧
      ((texts.map itemCount).sum = texts.length ↔ ∀ text ∈ texts, ',' ∉ text) := by
  induction texts with
  | nil => simp
  | cons first others ih =>
    rw [List.forall_mem_cons] at h
    obtain ⟨hle, hiff⟩ := ih h.2
    obtain ⟨hone, hfirst⟩ := itemCount_of_balanced h.1.1 h.1.2
    rw [List.map_cons, List.sum_cons, List.length_cons, List.forall_mem_cons, ← hfirst, ← hiff]
    omega

/-- A repeated list of so many elements is reported from the limit on, and no other report of the
line says that a list is created. -/
theorem reports_of_listTimesSize {expression : Text} {n : Nat}
    (hread : listTimesSize expression = some (repeatedList (ofNat n), []))
    (hbreak : '\n' ∉ expression) (hcomment : '#' ∉ expression) (hbare : Bare expression) :
    ((∃ m unit, Reports (assigned expression) "creating a list of " m unit) ↔ 100000000 ≤ n) ∧
      (100000000 ≤ n →
        Reports (assigned expression) "creating a list of " (min n cap) " elements") := by
  have hcheck := check_assigned hbreak hcomment hbare
  have hfound : findAll (fun _ => listTimesSize) (assigned expression) =
      [repeatedList (ofNat n)] :=
    (findAll_assigned rfl rfl rfl rfl).trans (findFrom_of_match hbare.ne_nil hread)
  have hlimit : (repeatedList (ofNat n)).isExcessive = true ↔ 100000000 ≤ n := isExcessive_iff rfl
  have hreports (h : 100000000 ≤ n) :
      Reports (assigned expression) "creating a list of " (min n cap) " elements" := by
    obtain ⟨others, hline⟩ :
        ∃ others, ofLine (assigned expression) = repeatedList (ofNat n) :: others := by
      rw [ofLine, hfound]
      exact ⟨_, rfl⟩
    rw [hline, List.find?_cons_of_pos (hlimit.2 h)] at hcheck
    exact ⟨_, hcheck, quotes_message (repeatedList (ofNat n))⟩
  refine ⟨⟨?_, fun h => ⟨_, _, hreports h⟩⟩, hreports⟩
  rintro ⟨m, unit, finding, hfinding, hquotes⟩
  rw [hcheck, Option.mem_def, Option.map_eq_some_iff] at hfinding
  obtain ⟨allocation, hallocation, rfl⟩ := hfinding
  obtain ⟨elements, rfl⟩ := eq_repeatedList_of_quotes hquotes
  have hmem := mem_findAll_of_repeatedList (List.mem_of_find?_eq_some hallocation)
  rw [hfound, List.mem_singleton] at hmem
  rw [← hlimit, ← hmem]
  exact List.find?_some hallocation

/-- An item of a list: a text that is not blank, balanced with no comma outside of quotes and
brackets, and without square brackets, comments and line breaks. -/
structure IsItem (text : Text) : Prop where
  balanced : Balanced false text
  isBlankText_eq_false : isBlankText text = false
  allowed : ∀ c ∈ text, c ∉ "[]#\n".toList

/-- A list of items times a numeral. -/
def itemsTimes (texts : List Text) (numeral : Text) : Text :=
  '[' :: (Text.join ", ".toList texts ++ ("] * ".toList ++ numeral))

section Items

variable {texts : List Text} {numeral : Text} (hitems : ∀ text ∈ texts, IsItem text)
  (hnumeral : IsNumeral numeral)

include hitems

theorem allowed_join : ∀ c ∈ Text.join ", ".toList texts, c ∉ "[]#\n".toList := by
  intro c hc
  rcases mem_join hc with hc | ⟨text, htext, hc⟩
  · have hseparator : ∀ c ∈ ", ".toList, c ∉ "[]#\n".toList :=
      List.all_iff_forall_prop.1 (by decide)
    exact hseparator c hc
  · exact (hitems text htext).allowed c hc

include hnumeral

theorem not_mem_itemsTimes {c : Char} (hc : c = '\n' ∨ c = '#') : c ∉ itemsTimes texts numeral := by
  have hframe : c ≠ '[' ∧ c ∈ "[]#\n".toList ∧ c ∉ "] * ".toList ∧ inNumeral c = false := by
    rcases hc with rfl | rfl <;> decide
  obtain ⟨hopener, hexcluded, hsign, hdigit⟩ := hframe
  intro hmem
  simp only [itemsTimes, List.mem_cons, List.mem_append] at hmem
  rcases hmem with hmem | hmem | hmem | hmem
  · exact hopener hmem
  · exact allowed_join hitems c hmem hexcluded
  · exact hsign hmem
  · rw [hnumeral.inNumeral_of_mem hmem] at hdigit
    cases hdigit

theorem listTimesSize_itemsTimes :
    listTimesSize (itemsTimes texts numeral) =
      some (repeatedList (ofNat ((texts.map itemCount).sum * numeralValue numeral)), []) := by
  have hsquare : ∀ c ∈ Text.join ", ".toList texts, c ≠ '[' ∧ c ≠ ']' := by
    intro c hc
    constructor <;> rintro rfl <;> exact allowed_join hitems _ hc (by decide)
  have hread := listTimesSize_text (.numeral hnumeral) hsquare
  rwa [Written.estimate_numeral, times_ofNat, itemCount_join] at hread

/-- **Items.** The elements of a repeated list are counted as its items times the numeral, where an
item counts for its pieces between commas, and such a list is reported exactly from the limit on.
No item counts for less than one, so that the count is the number of items into which an evaluated
list is split just if none of them has a comma. -/
theorem items_reported :
    let line := assigned (itemsTimes texts numeral)
    let count := (texts.map itemCount).sum
    ((∃ n unit, Reports line "creating a list of " n unit) ↔
        100000000 ≤ count * numeralValue numeral) ∧
      (100000000 ≤ count * numeralValue numeral →
        Reports line "creating a list of " (min (count * numeralValue numeral) cap) " elements") ∧
      (Expression.splitItems (Text.join ", ".toList texts)).length = texts.length ∧
      texts.length ≤ count ∧ (count = texts.length ↔ ∀ text ∈ texts, ',' ∉ text) := by
  intro line count
  have hbare : Bare (itemsTimes texts numeral) := by
    have hopener : Bare ['['] := .of_any_eq_false (List.cons_ne_nil _ _) (by decide)
    have happend := hopener.append (Text.join ", ".toList texts ++ "] * ".toList) hnumeral.bare
    rwa [List.append_assoc] at happend
  obtain ⟨hiff, hreports⟩ :=
    reports_of_listTimesSize (listTimesSize_itemsTimes hitems hnumeral)
      (not_mem_itemsTimes hitems hnumeral (.inl rfl))
      (not_mem_itemsTimes hitems hnumeral (.inr rfl)) hbare
  have hitem : ∀ text ∈ texts, Balanced false text ∧ isBlankText text = false :=
    fun text htext => ⟨(hitems text htext).balanced, (hitems text htext).isBlankText_eq_false⟩
  have hsplit := Expression.splitItems_join_eq_map_trim
    (fun text htext => (hitem text htext).1.sealed_toNat) fun text htext => (hitem text htext).2
  obtain ⟨hle, hcommas⟩ := sum_itemCount hitem
  exact ⟨hiff, hreports, by rw [hsplit, List.length_map], hle, hcommas⟩

end Items

theorem isItem_pair : IsItem "(1, 2)".toList where
  balanced := by
    have hone : Balanced true "1, 2".toList :=
      .char (by decide) (by decide) nofun (.char (by decide) (by decide) (fun _ => rfl)
        (.plain_append [' ', '2'] (by decide) (.nil true)))
    exact .enclosed .round hone (.nil false)
  isBlankText_eq_false := by decide
  allowed := List.all_iff_forall_prop.1 (by decide)

/-- A list of a number and a pair counts as one of three items. -/
theorem items_reported_pair :
    (∀ text ∈ ["0".toList, "(1, 2)".toList], IsItem text) ∧
      Reports "x = [0, (1, 2)] * 50_000_000".toList "creating a list of " 150000000
        " elements" := by
  have hzero : IsItem "0".toList :=
    { balanced := .plain_append ['0'] (by decide) (.nil false)
      isBlankText_eq_false := by decide
      allowed := List.all_iff_forall_prop.1 (by decide) }
  have hitems : ∀ text ∈ ["0".toList, "(1, 2)".toList], IsItem text := by
    rintro text (_ | ⟨_, _ | ⟨_, ⟨⟩⟩⟩)
    · exact hzero
    · exact isItem_pair
  have hnumeral : IsNumeral "50_000_000".toList := by decide
  exact ⟨hitems, (items_reported hitems hnumeral).2.1 (by decide)⟩

/-- A list of one pair is reported for twice the elements that it comes to. -/
theorem pair_counted_twice :
    IsItem "(1, 2)".toList ∧ (Expression.splitItems "(1, 2)".toList).length * 50000000 < 100000000 ∧
      check (.ofText "x = [(1, 2)] * 50000000".toList) = some ⟨repeatedList 100000000, 1⟩ :=
  ⟨isItem_pair, by decide, by decide +kernel⟩

end Allocation

end DryRun
