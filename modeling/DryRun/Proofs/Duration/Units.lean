import Mathlib.Tactic.Linarith
import DryRun.Duration.Units
import DryRun.Proofs.Number.Digits
import DryRun.Proofs.Text.Margins
import DryRun.Proofs.Text.Pieces

/-!
# Durations in units and back

A duration is read back from the units that it is written in (`ofUnits?_inUnitsText`). What is
written is a list of amounts, of which each adds its length to the sum (`finishAmount?_eq`); a sum
never exceeds the whole duration, so that every number on the way has a place in 64 bits.
-/

namespace DryRun

namespace Duration

open Unicode

/-! ## Amounts -/

/-- The nanoseconds of a unit. -/
def TimeUnit.nanoseconds (unit : TimeUnit) : Nat :=
  unit.size * if unit.isBelowSecond then 1 else perSecond

/-- A whole number of units as it is written. -/
structure Written where
  count : Nat
  name : String
  unit : TimeUnit

namespace Written

/-- The text of an amount. -/
def text (amount : Written) : Text := decimalDigits amount.count ++ amount.name.toList

/-- The nanoseconds of an amount. -/
def length (amount : Written) : Nat := amount.count * amount.unit.nanoseconds

/-- What is written for a unit: the unit goes by that name, and units below a second make less than
one. -/
structure Regular (amount : Written) : Prop where
  ofName?_eq : TimeUnit.ofName? amount.name.toList = some amount.unit
  lt_perSecond : amount.unit.isBelowSecond = true → amount.count * amount.unit.size < perSecond

end Written

theorem exists_of_ofName? {name : Text} {unit : TimeUnit} (h : TimeUnit.ofName? name = some unit) :
    ∃ s ∈ unit.names, name = s.toList := by
  have hfound := List.find?_some h
  obtain ⟨s, hs, hname⟩ := List.any_eq_true.1 hfound
  exact ⟨s, hs, eq_of_beq hname⟩

theorem ne_nil_of_ofName? {name : Text} {unit : TimeUnit} (h : TimeUnit.ofName? name = some unit) :
    name ≠ [] := by
  obtain ⟨s, hs, rfl⟩ := exists_of_ofName? h
  have hall : ∀ unit : TimeUnit, ∀ s ∈ unit.names, s.toList ≠ [] := by
    intro unit
    cases unit <;> decide
  exact hall unit s hs

theorem inName_of_ofName? {name : Text} {unit : TimeUnit} (h : TimeUnit.ofName? name = some unit) :
    ∀ c ∈ name, inName c = true := by
  obtain ⟨s, hs, rfl⟩ := exists_of_ofName? h
  have hall (unit : TimeUnit) : (unit.names.all fun s => s.toList.all inName) = true := by
    cases unit <;> decide
  exact List.all_eq_true.1 (List.all_eq_true.1 (hall unit) s hs)

theorem perSecond_pos : 0 < perSecond := by decide

theorem word?_of_le {n : Nat} (h : n ≤ wordCap) : word? n = some n := if_pos h

theorem checked_of_le {n : Nat} (h : n / perSecond ≤ wordCap) : checked ⟨n⟩ = some ⟨n⟩ := if_pos h

theorem size_pos (unit : TimeUnit) : 0 < unit.size := by
  cases unit <;> decide

theorem add?_nanoseconds {sum : Duration} {n : Nat} (hn : n < perSecond)
    (hcap : (sum.nanoseconds + n) / perSecond ≤ wordCap) :
    sum.add? n true = some ⟨sum.nanoseconds + n⟩ := by
  have hsub : sum.subseconds < perSecond := Nat.mod_lt _ perSecond_pos
  have hword : sum.subseconds + n ≤ wordCap :=
    (Nat.add_le_add hsub.le hn.le).trans (by decide)
  rw [add?, if_pos rfl, word?_of_le hword, Option.bind_eq_bind, Option.bind_some,
    checked_of_le hcap]

theorem add?_seconds {sum : Duration} {n : Nat}
    (hcap : (sum.nanoseconds + n * perSecond) / perSecond ≤ wordCap) :
    sum.add? n false = some ⟨sum.nanoseconds + n * perSecond⟩ := by
  rw [add?, if_neg Bool.false_ne_true, checked_of_le hcap]

theorem addAmount?_eq {count : Nat} {unit : TimeUnit} {sum sum' : Duration}
    (hword : count * unit.size ≤ wordCap)
    (hadd : sum.add? (count * unit.size) unit.isBelowSecond = some sum') :
    sum.addAmount? ⟨decimalDigits count, none⟩ unit = some sum' := by
  have hcount : count ≤ wordCap := (Nat.le_mul_of_pos_right count (size_pos unit)).trans hword
  unfold addAmount?
  dsimp only
  rw [digitsValue_decimalDigits]
  simp only [word?_of_le hcount, word?_of_le hword, hadd, Option.bind_eq_bind, Option.bind_some,
    Option.pure_def]

/-- An amount adds its length, as long as the seconds of the sum have a place in 64 bits. -/
theorem finishAmount?_eq {amount : Written} (h : amount.Regular) {sum : Duration}
    (hcap : (sum.nanoseconds + amount.length) / perSecond ≤ wordCap) :
    finishAmount? sum ⟨decimalDigits amount.count, none⟩ amount.name.toList =
      some ⟨sum.nanoseconds + amount.length⟩ := by
  obtain ⟨count, name, unit⟩ := amount
  obtain ⟨hname, hsmall⟩ := h
  rw [finishAmount?, hname, Option.bind_eq_bind, Option.bind_some]
  unfold Written.length TimeUnit.nanoseconds at hcap ⊢
  dsimp only at hcap ⊢
  cases hunit : unit.isBelowSecond with
  | true =>
    rw [hunit] at hcap
    rw [if_pos rfl, Nat.mul_one] at hcap ⊢
    have hlt : count * unit.size < perSecond := hsmall hunit
    exact addAmount?_eq (hlt.le.trans (by decide)) (hunit ▸ add?_nanoseconds hlt hcap)
  | false =>
    rw [hunit, if_neg Bool.false_ne_true, ← Nat.mul_assoc] at hcap
    rw [if_neg Bool.false_ne_true, ← Nat.mul_assoc]
    have hle : count * unit.size ≤ wordCap := by
      refine le_trans ?_ hcap
      rw [Nat.le_div_iff_mul_le perSecond_pos]
      exact Nat.le_add_left _ _
    exact addAmount?_eq hle (hunit ▸ add?_seconds hcap)

/-! ## Reading -/

namespace Reading

/-- Whether a reader has a sum and no amount. -/
inductive Rests : Reading → Duration → Prop
  | start : Rests .start zero
  | between (sum : Duration) : Rests (.between sum) sum

theorem foldlM_digits {state : Reading} {sum : Duration} (h : Rests state sum) (n : Nat) :
    (decimalDigits n).foldlM step state = some (.whole sum (decimalDigits n)) := by
  have hmore : ∀ {digits rest : Text}, (∀ c ∈ rest, c.isDigit = true) →
      rest.foldlM step (.whole sum digits) = some (.whole sum (digits ++ rest)) := by
    intro digits rest hrest
    induction rest generalizing digits with
    | nil => rw [List.append_nil, List.foldlM_nil]; rfl
    | cons c rest ih =>
      rw [List.forall_mem_cons] at hrest
      rw [List.foldlM_cons, step, if_pos hrest.1]
      show rest.foldlM step (.whole sum (digits ++ [c])) = _
      rw [ih hrest.2, List.append_assoc, List.singleton_append]
  obtain ⟨c, rest, hdigits⟩ := List.exists_cons_of_ne_nil (decimalDigits_ne_nil n)
  have hall : ∀ c ∈ decimalDigits n, c.isDigit = true := fun c => isDigit_of_mem_decimalDigits
  rw [hdigits, List.forall_mem_cons] at hall
  have hfirst : step state c = some (.whole sum [c]) := by
    cases h <;> rw [step, if_pos hall.1]
  rw [hdigits, List.foldlM_cons, hfirst]
  exact hmore hall.2

theorem isDigit_eq_false_of_inName {c : Char} (h : inName c = true) : c.isDigit = false := by
  rw [Bool.eq_false_iff]
  intro hdigit
  exact forall_isDigit (p := fun c => ¬ inName c = true) (by decide) hdigit h

theorem isBlank_eq_false_of_inName {c : Char} (h : inName c = true) : isBlank c = false :=
  Text.isBlank_eq_false_of (p := fun c => inName c = true) (by decide) h

theorem foldlM_name {letters : Text} (hne : letters ≠ []) (hall : ∀ c ∈ letters, inName c = true)
    (sum : Duration) (digits : Text) :
    letters.foldlM step (.whole sum digits) = some (.name sum ⟨digits, none⟩ letters) := by
  have hmore : ∀ {front rest : Text}, (∀ c ∈ rest, inName c = true) →
      rest.foldlM step (.name sum ⟨digits, none⟩ front) =
        some (.name sum ⟨digits, none⟩ (front ++ rest)) := by
    intro front rest hrest
    induction rest generalizing front with
    | nil => rw [List.append_nil, List.foldlM_nil]; rfl
    | cons c rest ih =>
      rw [List.forall_mem_cons] at hrest
      rw [List.foldlM_cons, step, if_pos hrest.1]
      show rest.foldlM step (.name sum ⟨digits, none⟩ (front ++ [c])) = _
      rw [ih hrest.2, List.append_assoc, List.singleton_append]
  obtain ⟨c, rest, rfl⟩ := List.exists_cons_of_ne_nil hne
  rw [List.forall_mem_cons] at hall
  have hfirst : step (.whole sum digits) c = some (.name sum ⟨digits, none⟩ [c]) := by
    rw [step, isDigit_eq_false_of_inName hall.1, isBlank_eq_false_of_inName hall.1, hall.1]
    rfl
  rw [List.foldlM_cons, hfirst]
  exact hmore hall.2

/-- Behind an amount the reader is within the name of its unit. -/
theorem foldlM_amount {amount : Written} (h : amount.Regular) {state : Reading}
    {sum : Duration} (hstate : Rests state sum) :
    amount.text.foldlM step state =
      some (.name sum ⟨decimalDigits amount.count, none⟩ amount.name.toList) := by
  rw [Written.text, List.foldlM_append, foldlM_digits hstate]
  exact foldlM_name (ne_nil_of_ofName? h.ofName?_eq) (inName_of_ofName? h.ofName?_eq) sum _

/-- The amounts of a text add up. -/
theorem foldlM_join {amounts : List Written} (hne : amounts ≠ [])
    (h : ∀ amount ∈ amounts, amount.Regular) {state : Reading} {sum : Duration}
    (hstate : Rests state sum)
    (hcap : (sum.nanoseconds + (amounts.map Written.length).sum) / perSecond ≤ wordCap) :
    ((Text.join [' '] (amounts.map Written.text)).foldlM step state).bind finish =
      some ⟨sum.nanoseconds + (amounts.map Written.length).sum⟩ := by
  induction amounts generalizing state sum with
  | nil => exact absurd rfl hne
  | cons amount rest ih =>
    rw [List.forall_mem_cons] at h
    have hlengths : ((amount :: rest).map Written.length).sum =
        amount.length + (rest.map Written.length).sum := by
      rw [List.map_cons, List.sum_cons]
    rw [hlengths] at hcap ⊢
    have hsum : finishAmount? sum ⟨decimalDigits amount.count, none⟩ amount.name.toList =
        some ⟨sum.nanoseconds + amount.length⟩ := by
      refine finishAmount?_eq h.1 (le_trans (Nat.div_le_div_right ?_) hcap)
      exact Nat.add_le_add_left (Nat.le_add_right _ _) _
    cases rest with
    | nil =>
      have htext : Text.join [' '] ([amount].map Written.text) = amount.text :=
        Text.join_singleton _ _
      rw [htext, foldlM_amount h.1 hstate]
      exact hsum
    | cons next rest =>
      have htext : Text.join [' '] ((amount :: next :: rest).map Written.text) =
          amount.text ++ ' ' :: Text.join [' '] ((next :: rest).map Written.text) :=
        Text.join_cons_cons _ _ _ _
      have hblank : step (.name sum ⟨decimalDigits amount.count, none⟩ amount.name.toList) ' ' =
          some (.between ⟨sum.nanoseconds + amount.length⟩) := by
        rw [step, if_neg (by decide), if_neg (by decide), if_pos (by decide), hsum]
        rfl
      rw [htext, List.foldlM_append, foldlM_amount h.1 hstate]
      show (List.foldlM step _ (' ' :: _)).bind finish = _
      rw [List.foldlM_cons, hblank, ← Nat.add_assoc]
      exact ih (List.cons_ne_nil _ _) h.2 (.between _) (by rw [Nat.add_assoc]; exact hcap)

end Reading

/-! ## Writing -/

/-- A number of units whose name has a plural. -/
def Written.plural (n : Nat) (name : String) (unit : TimeUnit) : Written :=
  ⟨n, if n = 1 then name else name ++ "s", unit⟩

theorem Written.count_plural (n : Nat) (name : String) (unit : TimeUnit) :
    (plural n name unit).count = n := rfl

theorem Written.unit_plural (n : Nat) (name : String) (unit : TimeUnit) :
    (plural n name unit).unit = unit := rfl

/-- The amounts that make up a time of day in seconds, with those that there are none of. -/
def clockAmounts (seconds : Nat) : List Written :=
  [⟨seconds / 3600, "h", .hour⟩, ⟨seconds % 3600 / 60, "m", .minute⟩, ⟨seconds % 60, "s", .second⟩]

/-- The amounts that make up a number of seconds, with those that there are none of. -/
def wholeAmounts (seconds : Nat) : List Written :=
  .plural (seconds / TimeUnit.year.size) "year" .year ::
    .plural (seconds % TimeUnit.year.size / TimeUnit.month.size) "month" .month ::
    .plural (seconds % TimeUnit.year.size % TimeUnit.month.size / TimeUnit.day.size) "day" .day ::
    clockAmounts (seconds % TimeUnit.year.size % TimeUnit.month.size % TimeUnit.day.size)

/-- The amounts that make up a number of nanoseconds, with those that there are none of. -/
def partAmounts (nanoseconds : Nat) : List Written :=
  [⟨nanoseconds / 1000000, "ms", .millisecond⟩,
    ⟨nanoseconds / 1000 % 1000, "us", .microsecond⟩,
    ⟨nanoseconds % 1000, "ns", .nanosecond⟩]

/-- The amounts that make up a duration, with those that there are none of. -/
def amounts (d : Duration) : List Written := wholeAmounts d.seconds ++ partAmounts d.subseconds

/-- The amounts that are written. -/
def shownAmounts (d : Duration) : List Written := d.amounts.filter (·.count != 0)

theorem flatten_counted (amounts : List Written) :
    (amounts.map fun amount => counted amount.count amount.name).flatten =
      (amounts.filter (·.count != 0)).map Written.text := by
  induction amounts with
  | nil => rfl
  | cons amount rest ih =>
    rw [List.map_cons, List.flatten_cons, ih]
    by_cases h : amount.count = 0
    · simp [counted, h]
    · simp [counted, h, Written.text]

theorem inUnitsText_eq (d : Duration) :
    d.inUnitsText =
      if d.shownAmounts = [] then ['0', 's']
      else Text.join [' '] (d.shownAmounts.map Written.text) := by
  have hparts := flatten_counted d.amounts
  simp only [amounts, wholeAmounts, clockAmounts, partAmounts, Written.plural, List.cons_append,
    List.nil_append, List.map_cons, List.map_nil, List.flatten_cons, List.flatten_nil,
    List.append_nil] at hparts
  unfold inUnitsText
  simp only [countedPlural, List.append_assoc, hparts, List.isEmpty_iff, List.map_eq_nil_iff]
  rfl

theorem regular_plural {name : String} {unit : TimeUnit}
    (hone : TimeUnit.ofName? name.toList = some unit)
    (hmany : TimeUnit.ofName? (name ++ "s").toList = some unit)
    (hunit : unit.isBelowSecond = false) (n : Nat) : (Written.plural n name unit).Regular where
  ofName?_eq := by
    show TimeUnit.ofName? (if n = 1 then name else name ++ "s").toList = some unit
    by_cases h : n = 1
    · rwa [if_pos h]
    · rwa [if_neg h]
  lt_perSecond h := absurd (hunit.symm.trans h) Bool.false_ne_true

theorem regular_of_not_isBelowSecond {n : Nat} {name : String} {unit : TimeUnit}
    (hname : TimeUnit.ofName? name.toList = some unit) (hunit : unit.isBelowSecond = false) :
    (Written.mk n name unit).Regular :=
  ⟨hname, fun h => absurd (hunit.symm.trans h) Bool.false_ne_true⟩

theorem regular_of_mem_wholeAmounts (seconds : Nat) :
    ∀ amount ∈ wholeAmounts seconds, amount.Regular := by
  unfold wholeAmounts clockAmounts
  simp only [List.forall_mem_cons]
  exact ⟨regular_plural (by decide) (by decide) rfl _,
    regular_plural (by decide) (by decide) rfl _, regular_plural (by decide) (by decide) rfl _,
    regular_of_not_isBelowSecond (by decide) rfl, regular_of_not_isBelowSecond (by decide) rfl,
    regular_of_not_isBelowSecond (by decide) rfl, List.forall_mem_nil _⟩

theorem regular_of_mem_partAmounts {nanoseconds : Nat} (h : nanoseconds < perSecond) :
    ∀ amount ∈ partAmounts nanoseconds, amount.Regular := by
  unfold perSecond at h
  unfold partAmounts
  simp only [List.forall_mem_cons]
  have hms : TimeUnit.ofName? "ms".toList = some .millisecond := by decide
  have hus : TimeUnit.ofName? "us".toList = some .microsecond := by decide
  have hns : TimeUnit.ofName? "ns".toList = some .nanosecond := by decide
  refine ⟨⟨hms, fun _ => ?_⟩, ⟨hus, fun _ => ?_⟩, ⟨hns, fun _ => ?_⟩, List.forall_mem_nil _⟩
  all_goals
    simp only [TimeUnit.size, perSecond]
    omega

theorem sum_length_of_not_isBelowSecond {amounts : List Written}
    (h : ∀ amount ∈ amounts, amount.unit.isBelowSecond = false) :
    (amounts.map Written.length).sum =
      (amounts.map fun amount => amount.count * amount.unit.size).sum * perSecond := by
  induction amounts with
  | nil => exact (Nat.zero_mul _).symm
  | cons amount rest ih =>
    rw [List.forall_mem_cons] at h
    rw [List.map_cons, List.sum_cons, List.map_cons, List.sum_cons, ih h.2, Nat.add_mul,
      Written.length, TimeUnit.nanoseconds, h.1, if_neg Bool.false_ne_true, Nat.mul_assoc]

theorem sum_length_of_isBelowSecond {amounts : List Written}
    (h : ∀ amount ∈ amounts, amount.unit.isBelowSecond = true) :
    (amounts.map Written.length).sum =
      (amounts.map fun amount => amount.count * amount.unit.size).sum := by
  induction amounts with
  | nil => rfl
  | cons amount rest ih =>
    rw [List.forall_mem_cons] at h
    rw [List.map_cons, List.sum_cons, List.map_cons, List.sum_cons, ih h.2, Written.length,
      TimeUnit.nanoseconds, if_pos h.1, Nat.mul_one]

theorem sum_clockAmounts (n : Nat) :
    ((clockAmounts n).map fun amount => amount.count * amount.unit.size).sum = n := by
  simp only [clockAmounts, List.map_cons, List.map_nil, List.sum_cons, List.sum_nil, TimeUnit.size]
  omega

theorem sum_wholeAmounts (n : Nat) :
    ((wholeAmounts n).map fun amount => amount.count * amount.unit.size).sum = n := by
  have hyear := Nat.div_add_mod' n TimeUnit.year.size
  have hmonth := Nat.div_add_mod' (n % TimeUnit.year.size) TimeUnit.month.size
  have hday := Nat.div_add_mod' (n % TimeUnit.year.size % TimeUnit.month.size) TimeUnit.day.size
  rw [wholeAmounts, List.map_cons, List.map_cons, List.map_cons, List.sum_cons, List.sum_cons,
    List.sum_cons, sum_clockAmounts]
  simp only [Written.count_plural, Written.unit_plural]
  rw [hday, hmonth, hyear]

theorem sum_partAmounts (n : Nat) :
    ((partAmounts n).map fun amount => amount.count * amount.unit.size).sum = n := by
  simp only [partAmounts, List.map_cons, List.map_nil, List.sum_cons, List.sum_nil, TimeUnit.size]
  omega

/-- The amounts of a duration make up the whole of it. -/
theorem sum_amounts (d : Duration) : (d.amounts.map Written.length).sum = d.nanoseconds := by
  have hwhole : ∀ amount ∈ wholeAmounts d.seconds, amount.unit.isBelowSecond = false := by
    simp [wholeAmounts, clockAmounts, Written.plural, TimeUnit.isBelowSecond]
  have hpart : ∀ amount ∈ partAmounts d.subseconds, amount.unit.isBelowSecond = true := by
    simp [partAmounts, TimeUnit.isBelowSecond]
  rw [amounts, List.map_append, List.sum_append, sum_length_of_not_isBelowSecond hwhole,
    sum_length_of_isBelowSecond hpart, sum_wholeAmounts, sum_partAmounts]
  exact Nat.div_add_mod' _ _

theorem sum_filter_count (amounts : List Written) :
    ((amounts.filter (·.count != 0)).map Written.length).sum =
      (amounts.map Written.length).sum := by
  induction amounts with
  | nil => rfl
  | cons amount rest ih =>
    by_cases h : amount.count = 0
    · simp [h, ih, Written.length]
    · simp [h, ih]

theorem sum_shownAmounts (d : Duration) :
    (d.shownAmounts.map Written.length).sum = d.nanoseconds := by
  rw [shownAmounts, sum_filter_count, sum_amounts]

theorem regular_of_mem_shownAmounts (d : Duration) : ∀ amount ∈ d.shownAmounts, amount.Regular := by
  intro amount hamount
  have hsub : d.subseconds < perSecond := Nat.mod_lt _ perSecond_pos
  rcases List.mem_append.1 (List.mem_filter.1 hamount).1 with hwhole | hpart
  · exact regular_of_mem_wholeAmounts d.seconds amount hwhole
  · exact regular_of_mem_partAmounts hsub amount hpart

theorem foldlM_inUnitsText {d : Duration} (h : d.seconds ≤ wordCap) :
    (d.inUnitsText.foldlM Reading.step .start).bind Reading.finish = some d := by
  rw [inUnitsText_eq]
  by_cases hnil : d.shownAmounts = []
  · have hzero : d.nanoseconds = 0 := by
      rw [← sum_shownAmounts, hnil]
      rfl
    have hd : d = zero := congrArg Duration.mk hzero
    rw [if_pos hnil, hd]
    decide
  · rw [if_neg hnil]
    have hsum : zero.nanoseconds + (d.shownAmounts.map Written.length).sum = d.nanoseconds := by
      rw [sum_shownAmounts]
      exact Nat.zero_add _
    rw [Reading.foldlM_join hnil (regular_of_mem_shownAmounts d) .start (hsum ▸ h), hsum]

/-- **A duration is read back from its text in units.** -/
theorem ofUnits?_inUnitsText {d : Duration} (h : d.seconds ≤ wordCap) :
    ofUnits? d.inUnitsText = some d := by
  have hfold := foldlM_inUnitsText h
  unfold ofUnits?
  by_cases hzero : d.inUnitsText = ['0']
  · rw [hzero] at hfold
    cases hfold
  · rw [if_neg hzero, hfold]

/-! ## Characters -/

/-- The characters of durations in units. -/
def InUnits (c : Char) : Prop := c.isDigit = true ∨ inName c = true ∨ c = ' '

namespace InUnits

variable {c : Char} (h : InUnits c)

include h

theorem ne_quote : c ≠ '"' := by
  rintro rfl
  exact absurd h (by unfold InUnits; decide)

theorem ne_backslash : c ≠ '\\' := by
  rintro rfl
  exact absurd h (by unfold InUnits; decide)

theorem toNat_bounds : 0x20 ≤ c.toNat ∧ c.toNat ≤ 0xB5 ∧ c.toNat ≠ 0x7F := by
  have hascii : c.isAlphanum = true → 0x20 ≤ c.toNat ∧ c.toNat ≤ 0xB5 ∧ c.toNat ≠ 0x7F := by
    intro hc
    have := toNat_bounds_of_isAlphanum hc
    omega
  rcases h with hdigit | hname | rfl
  · exact hascii (isAlphanum_of_isDigit hdigit)
  · rw [inName, Bool.or_eq_true, beq_iff_eq] at hname
    rcases hname with halpha | rfl
    · exact hascii (isAlphanum_of_isAlpha halpha)
    · decide
  · decide

end InUnits

theorem inUnits_of_mem_inUnitsText {d : Duration} {c : Char} (h : c ∈ d.inUnitsText) :
    InUnits c := by
  rw [inUnitsText_eq] at h
  split at h
  · have hzero : c = '0' ∨ c = 's' := by simpa using h
    rcases hzero with rfl | rfl
    · exact Or.inl rfl
    · exact Or.inr (Or.inl rfl)
  · rcases Text.mem_join h with hspace | ⟨text, htext, hc⟩
    · exact Or.inr (Or.inr (List.mem_singleton.1 hspace))
    · obtain ⟨amount, hamount, rfl⟩ := List.mem_map.1 htext
      have hregular := regular_of_mem_shownAmounts d amount hamount
      rcases List.mem_append.1 hc with hdigit | hname
      · exact Or.inl (isDigit_of_mem_decimalDigits hdigit)
      · exact Or.inr (Or.inl (inName_of_ofName? hregular.ofName?_eq c hname))

end Duration

end DryRun
