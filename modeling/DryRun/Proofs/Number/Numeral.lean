import DryRun.Proofs.Number.Reading
import DryRun.Proofs.Number.Shortest
import DryRun.Proofs.Text.Pieces

/-!
# Numerals

A finite float is written as a numeral that it is the nearest float to (`floatTextWithPoint_eq`,
`Decimal.names_normalized_fewest`), and it is read back from every such numeral
(`Numeral.readFloat?_of_names`).
-/

namespace DryRun

/-! ## Digits -/

theorem digitsValue_append (front back : Text) :
    digitsValue (front ++ back) = digitsValue front * 10 ^ back.length + digitsValue back := by
  have hfold : ∀ (start : Nat) (digits : Text),
      digits.foldl (fun value c => value * 10 + (c.toNat - '0'.toNat)) start =
        start * 10 ^ digits.length + digitsValue digits := by
    intro start digits
    induction digits generalizing start with
    | nil => simp [digitsValue]
    | cons c rest ih =>
      unfold digitsValue
      rw [List.foldl_cons, List.foldl_cons, ih, ih (0 * 10 + _), List.length_cons, Nat.pow_succ]
      ring
  unfold digitsValue
  rw [List.foldl_append, hfold]
  rfl

theorem digitsValue_zeros (n : Nat) : digitsValue (zeros n) = 0 := by
  induction n with
  | zero => rfl
  | succ n ih =>
    have hzeros : zeros (n + 1) = ['0'] ++ zeros n := rfl
    rw [hzeros, digitsValue_append, ih]
    simp [digitsValue]

theorem isDigit_of_mem_zeros {n : Nat} {c : Char} (h : c ∈ zeros n) : c.isDigit = true := by
  rw [List.eq_of_mem_replicate h]
  rfl

/-- A number from one on is written without a zero in front. -/
theorem head?_decimalDigits {n : Nat} (h : 0 < n) : (decimalDigits n).head? ≠ some '0' := by
  unfold decimalDigits
  induction n using Nat.strongRecOn with
  | ind n ih =>
    by_cases hlt : n < 10
    · rw [Nat.toDigits_of_lt_base hlt]
      interval_cases n <;> decide
    · have hquotient : 0 < n / 10 := by omega
      rw [Nat.toDigits_of_base_le (by omega) (by omega),
        List.head?_append_of_ne_nil _ Nat.toDigits_ne_nil]
      exact ih (n / 10) (by omega) hquotient

/-! ## Numerals -/

/-- A decimal number as it is written without its sign. -/
structure Numeral where
  whole : Text
  places : Text
  /-- The exponent behind its letter, with a sign of its own. -/
  exponent : Option (Bool × Nat)

namespace Numeral

/-- The exponent as it is written. -/
def exponentText : Option (Bool × Nat) → Text
  | none => []
  | some (negative, n) => 'e' :: (if negative then '-' else '+') :: decimalDigits n

/-- The point and the digits behind it. -/
def pointText (places : Text) : Text := if places = [] then [] else '.' :: places

/-- The numeral as it is written. -/
def text (numeral : Numeral) : Text :=
  numeral.whole ++ (pointText numeral.places ++ exponentText numeral.exponent)

/-- The number that the digits make up. -/
def digits (numeral : Numeral) : Nat := digitsValue (numeral.whole ++ numeral.places)

/-- The place of the last digit. -/
def place (numeral : Numeral) : Int :=
  (match numeral.exponent with
    | none => 0
    | some (negative, n) => if negative then -(n : Int) else n) - numeral.places.length

/-- The number that a numeral stands for. -/
def value (numeral : Numeral) : ℚ := numeral.digits * 10 ^ numeral.place

/-- Whether the parts of a numeral are digits and no useless zero stands in front. -/
structure Regular (numeral : Numeral) : Prop where
  whole_ne_nil : numeral.whole ≠ []
  isDigit_whole : ∀ c ∈ numeral.whole, c.isDigit = true
  isDigit_places : ∀ c ∈ numeral.places, c.isDigit = true
  head?_whole : numeral.whole = ['0'] ∨ numeral.whole.head? ≠ some '0'

variable {numeral : Numeral}

/-- A numeral with places and without an exponent. -/
theorem text_of_places (hplaces : numeral.places ≠ []) (hexponent : numeral.exponent = none) :
    numeral.text = numeral.whole ++ '.' :: numeral.places := by
  unfold text pointText
  rw [hexponent, if_neg hplaces]
  exact congrArg (numeral.whole ++ ·) (List.append_nil _)

theorem any_head?_exponentText (exponent : Option (Bool × Nat)) {inClass : Char → Bool}
    {rest : Text} (hletter : inClass 'e' = false) (hrest : rest.head?.any inClass = false) :
    (exponentText exponent ++ rest).head?.any inClass = false := by
  cases exponent with
  | none => exact hrest
  | some exponent => exact hletter

theorem any_head?_pointText (places : Text) {inClass : Char → Bool} {rest : Text}
    (hpoint : inClass '.' = false) (hrest : rest.head?.any inClass = false) :
    (pointText places ++ rest).head?.any inClass = false := by
  unfold pointText
  split
  · exact hrest
  · exact hpoint

theorem readExponent?_exponentText (exponent : Option (Bool × Nat)) :
    readExponent? (exponentText exponent) = some (match exponent with
      | none => 0
      | some (negative, n) => if negative then -(n : Int) else n) := by
  cases exponent with
  | none => rfl
  | some exponent =>
    obtain ⟨negative, n⟩ := exponent
    rw [exponentText, readExponent?, if_pos (Or.inl rfl)]
    cases negative <;> simp [splitSign]

/-- A numeral is read with all its digits. -/
theorem readDecimal?_text (h : numeral.Regular) (negative : Bool) :
    readDecimal? negative numeral.text =
      some (floatOfDecimal negative numeral.digits numeral.place) := by
  obtain ⟨whole, places, exponent⟩ := numeral
  obtain ⟨hne, hwhole, hplaces, -⟩ := h
  have hexponent : (exponentText exponent).head?.any Char.isDigit = false := by
    rw [← List.append_nil (exponentText exponent)]
    exact any_head?_exponentText exponent rfl rfl
  have hbehind := any_head?_pointText places (rfl : Char.isDigit '.' = false) hexponent
  have hnone : whole.isEmpty = false := List.isEmpty_eq_false_iff.2 hne
  unfold readDecimal? text digits place
  dsimp only at hne hwhole hplaces ⊢
  rw [Text.takeWhile_append_of_any_head? hwhole hbehind,
    Text.dropWhile_append_of_any_head? hwhole hbehind]
  have hread := readExponent?_exponentText exponent
  cases places with
  | nil =>
    rw [pointText, if_pos rfl, List.nil_append]
    cases exponent with
    | none =>
      rw [hnone]
      rfl
    | some exponent =>
      obtain ⟨negative', n⟩ := exponent
      show (if (whole.isEmpty && true) = true then none
        else Option.map
          (fun e => floatOfDecimal negative (digitsValue (whole ++ [])) (e - (0 : Nat)))
          (readExponent? (exponentText (some (negative', n))))) = _
      rw [hread, hnone]
      rfl
  | cons c places =>
    have htake := Text.takeWhile_append_of_any_head? hplaces hexponent
    have hdrop := Text.dropWhile_append_of_any_head? hplaces hexponent
    show (if (whole.isEmpty && _) = true then none
      else Option.map (fun e => floatOfDecimal negative
          (digitsValue (whole ++ (c :: places ++ exponentText exponent).takeWhile Char.isDigit))
          (e - ((c :: places ++ exponentText exponent).takeWhile Char.isDigit).length))
        (readExponent? ((c :: places ++ exponentText exponent).dropWhile Char.isDigit))) = _
    rw [htake, hdrop, hread, hnone]
    rfl

theorem head_isDigit (h : numeral.Regular) :
    ∃ c rest, numeral.text = c :: rest ∧ c.isDigit = true := by
  obtain ⟨whole, places, exponent⟩ := numeral
  obtain ⟨c, rest, rfl⟩ := List.exists_cons_of_ne_nil h.whole_ne_nil
  exact ⟨c, rest ++ _, rfl, h.isDigit_whole c List.mem_cons_self⟩

theorem splitSign_text (h : numeral.Regular) (negative : Bool) :
    splitSign (signText negative ++ numeral.text) = (negative, numeral.text) := by
  obtain ⟨c, rest, htext, hc⟩ := head_isDigit h
  cases negative with
  | true => rfl
  | false =>
    rw [htext]
    show splitSign (c :: rest) = _
    unfold splitSign
    split
    · rename_i heq
      cases heq
      cases hc
    · rename_i heq
      cases heq
      cases hc
    · rfl

/-- **A numeral is read behind its sign.** -/
theorem readFloat?_text (h : numeral.Regular) (negative : Bool) :
    readFloat? (signText negative ++ numeral.text) =
      some (floatOfDecimal negative numeral.digits numeral.place) := by
  obtain ⟨c, rest, htext, hc⟩ := head_isDigit h
  have hword : ∀ word : String, (word.toList.head?.any fun c => !c.isDigit) = true →
      String.ofList (numeral.text.map Char.toLower) ≠ word := by
    rintro word hword rfl
    have hlower : c.toLower.isDigit = true :=
      forall_isDigit (p := fun c => c.toLower.isDigit = true) (by decide) hc
    rw [htext, String.toList_ofList, List.map_cons, List.head?_cons, Option.any_some,
      hlower] at hword
    cases hword
  unfold readFloat?
  rw [splitSign_text h]
  dsimp only
  rw [if_neg (not_or.2 ⟨hword _ (by decide), hword _ (by decide)⟩), if_neg (hword _ (by decide))]
  exact readDecimal?_text h negative

theorem inDecimal_of_mem (h : numeral.Regular) {negative : Bool} {c : Char}
    (hc : c ∈ signText negative ++ numeral.text) : InDecimal c := by
  rcases List.mem_append.1 hc with hsign | hc
  · cases negative with
    | false => cases hsign
    | true =>
      rw [List.mem_singleton.1 hsign]
      exact Or.inr (by decide)
  · exact inDecimal_of_readDecimal? (readDecimal?_text h false) hc

/-- The numeral of a natural number. -/
def ofNat (n : Nat) : Numeral := ⟨decimalDigits n, [], none⟩

theorem text_ofNat (n : Nat) : (ofNat n).text = decimalDigits n := List.append_nil _

theorem regular_ofNat (n : Nat) : (ofNat n).Regular where
  whole_ne_nil := decimalDigits_ne_nil n
  isDigit_whole _ hc := isDigit_of_mem_decimalDigits hc
  isDigit_places _ hc := by cases hc
  head?_whole := by
    rcases Nat.eq_zero_or_pos n with rfl | hpos
    · exact Or.inl (by decide)
    · exact Or.inr (head?_decimalDigits hpos)

theorem readFloat?_decimalDigits (n : Nat) :
    readFloat? (decimalDigits n) = some (floatOfDecimal false n 0) := by
  have hread := readFloat?_text (regular_ofNat n) false
  have hdigits : (ofNat n).digits = n := by
    show digitsValue (decimalDigits n ++ []) = n
    rw [List.append_nil, digitsValue_decimalDigits]
  rw [hdigits, text_ofNat] at hread
  exact hread

end Numeral

/-! ## Numerals of decimals -/

namespace Decimal

/-- The numeral with all digits in their places and a point. -/
def pointed (d : Decimal) : Numeral :=
  let digits := decimalDigits d.digits
  let places := (-d.exponent).toNat
  if 0 ≤ d.exponent then ⟨digits ++ zeros d.exponent.toNat, ['0'], none⟩
  else if places < digits.length then
    ⟨digits.take (digits.length - places), digits.drop (digits.length - places), none⟩
  else ⟨['0'], zeros (places - digits.length) ++ digits, none⟩

/-- The numeral with one digit before the point and an exponent. -/
def normalized (d : Decimal) : Numeral :=
  ⟨(decimalDigits d.digits).take 1, (decimalDigits d.digits).drop 1,
    some (d.leadingExponent < 0, d.leadingExponent.natAbs)⟩

variable {d : Decimal}

theorem exponent_pointed (d : Decimal) : d.pointed.exponent = none := by
  unfold pointed
  dsimp only
  split
  · rfl
  · split <;> rfl

theorem places_pointed_ne_nil (d : Decimal) : d.pointed.places ≠ [] := by
  unfold pointed
  dsimp only
  split
  · exact List.cons_ne_nil _ _
  · rename_i hexponent
    split
    · show (decimalDigits d.digits).drop _ ≠ []
      rw [Ne, List.drop_eq_nil_iff]
      omega
    · exact List.append_ne_nil_of_right_ne_nil _ (decimalDigits_ne_nil _)

theorem text_pointed (d : Decimal) :
    d.pointed.text = d.positional ++ (if 0 ≤ d.exponent then ['.', '0'] else []) := by
  rw [Numeral.text_of_places (places_pointed_ne_nil d) (exponent_pointed d)]
  unfold pointed positional
  dsimp only
  by_cases hexponent : 0 ≤ d.exponent
  · rw [if_pos hexponent, if_pos hexponent, if_pos hexponent]
  · rw [if_neg hexponent, if_neg hexponent, if_neg hexponent, List.append_nil]
    split <;> rfl

theorem text_normalized (d : Decimal) : d.normalized.text = d.scientific := by
  have hpoint : Numeral.pointText ((decimalDigits d.digits).drop 1) =
      if (decimalDigits d.digits).length ≤ 1 then [] else
        '.' :: (decimalDigits d.digits).drop 1 := by
    unfold Numeral.pointText
    simp only [List.drop_eq_nil_iff]
  have hsign : (if decide (d.leadingExponent < 0) = true then '-' else '+') =
      if d.leadingExponent < 0 then '-' else '+' := by
    simp only [decide_eq_true_eq]
  unfold normalized scientific Numeral.text
  simp only [hpoint, hsign, Numeral.exponentText, List.append_assoc]

theorem value_pointed (d : Decimal) : d.pointed.value = d.value := by
  have hten : (10 : ℚ) ≠ 0 := by norm_num
  unfold pointed Numeral.value Numeral.digits Numeral.place
  dsimp only
  by_cases hexponent : 0 ≤ d.exponent
  · have hdigits : digitsValue ((decimalDigits d.digits ++ zeros d.exponent.toNat) ++ ['0']) =
        d.digits * 10 ^ d.exponent.toNat * 10 := by
      rw [digitsValue_append, digitsValue_append, digitsValue_decimalDigits, digitsValue_zeros,
        zeros, List.length_replicate]
      rfl
    have hplace : (10 : ℚ) ^ ((0 : Int) - (['0'].length : Nat)) = 10⁻¹ := zpow_neg_one 10
    rw [if_pos hexponent, hdigits, value_of_nonneg hexponent, hplace]
    push_cast
    rw [mul_assoc, mul_inv_cancel₀ hten, mul_one]
  · rw [if_neg hexponent]
    split
    · rename_i hplaces
      rw [List.take_append_drop, digitsValue_decimalDigits, List.length_drop, value]
      congr 2
      dsimp only
      omega
    · rename_i hplaces
      have hdigits : digitsValue (['0'] ++ (zeros ((-d.exponent).toNat -
          (decimalDigits d.digits).length) ++ decimalDigits d.digits)) = d.digits := by
        rw [digitsValue_append, digitsValue_append, digitsValue_decimalDigits, digitsValue_zeros]
        simp [digitsValue]
      rw [hdigits, List.length_append, zeros, List.length_replicate, value]
      congr 2
      dsimp only
      omega

theorem value_normalized (d : Decimal) : d.normalized.value = d.value := by
  have hlength : 0 < (decimalDigits d.digits).length := Nat.length_toDigits_pos
  unfold normalized Numeral.value Numeral.digits Numeral.place value
  dsimp only
  rw [List.take_append_drop, digitsValue_decimalDigits, List.length_drop]
  congr 2
  simp only [decide_eq_true_eq]
  have hleading : d.leadingExponent = d.exponent + (decimalDigits d.digits).length - 1 := rfl
  split <;> omega

theorem isDigit_of_mem_take {n k : Nat} {c : Char} (h : c ∈ (decimalDigits n).take k) :
    c.isDigit = true :=
  isDigit_of_mem_decimalDigits (List.mem_of_mem_take h)

theorem isDigit_of_mem_drop {n k : Nat} {c : Char} (h : c ∈ (decimalDigits n).drop k) :
    c.isDigit = true :=
  isDigit_of_mem_decimalDigits (List.mem_of_mem_drop h)

theorem regular_pointed (h : 0 < d.digits ∨ d.exponent = 0) : d.pointed.Regular := by
  have hlength : 0 < (decimalDigits d.digits).length := Nat.length_toDigits_pos
  unfold pointed
  dsimp only
  by_cases hexponent : 0 ≤ d.exponent
  · rw [if_pos hexponent]
    refine ⟨List.append_ne_nil_of_left_ne_nil (decimalDigits_ne_nil _) _, ?_,
      List.forall_mem_singleton.2 rfl, ?_⟩
    · intro c hc
      rcases List.mem_append.1 hc with hc | hc
      · exact isDigit_of_mem_decimalDigits hc
      · exact isDigit_of_mem_zeros hc
    · rcases Nat.eq_zero_or_pos d.digits with hzero | hpos
      · have hnone : d.exponent = 0 := h.resolve_left (by omega)
        rw [hzero, hnone]
        exact Or.inl rfl
      · right
        rw [List.head?_append_of_ne_nil _ (decimalDigits_ne_nil _)]
        exact head?_decimalDigits hpos
  · have hpos : 0 < d.digits := h.resolve_right (by omega)
    rw [if_neg hexponent]
    split
    · rename_i hplaces
      refine ⟨?_, fun c hc => isDigit_of_mem_take hc, fun c hc => isDigit_of_mem_drop hc, ?_⟩
      · rw [Ne, List.take_eq_nil_iff]
        exact not_or.2 ⟨by omega, decimalDigits_ne_nil _⟩
      · right
        rw [List.head?_take, if_neg (by omega)]
        exact head?_decimalDigits hpos
    · refine ⟨List.cons_ne_nil _ _, List.forall_mem_singleton.2 rfl, ?_, Or.inl rfl⟩
      intro c hc
      rcases List.mem_append.1 hc with hc | hc
      · exact isDigit_of_mem_zeros hc
      · exact isDigit_of_mem_decimalDigits hc

theorem regular_normalized (h : 0 < d.digits) : d.normalized.Regular where
  whole_ne_nil := by
    show (decimalDigits d.digits).take 1 ≠ []
    rw [Ne, List.take_eq_nil_iff]
    exact not_or.2 ⟨one_ne_zero, decimalDigits_ne_nil _⟩
  isDigit_whole _ hc := isDigit_of_mem_take hc
  isDigit_places _ hc := isDigit_of_mem_drop hc
  head?_whole := by
    right
    show ((decimalDigits d.digits).take 1).head? ≠ some '0'
    rw [List.head?_take, if_neg one_ne_zero]
    exact head?_decimalDigits h

end Decimal

/-! ## Floats -/

namespace Numeral

open Binary

variable {numeral : Numeral} {x : Float} {negative : Bool} {mantissa : Nat} {exponent : Int}

/-- Whether the float of the given parts is the nearest one to the numeral. -/
structure Names (numeral : Numeral) (mantissa : Nat) (exponent : Int) : Prop where
  regular : numeral.Regular
  digits_eq_zero : mantissa = 0 → numeral.digits = 0
  nearest : 0 < mantissa → Nearest mantissa exponent numeral.value

/-- **A float is read back from every numeral to which it is the nearest float.** -/
theorem readFloat?_of_names (hx : ofFloat x = finite negative mantissa exponent)
    (h : numeral.Names mantissa exponent) :
    readFloat? (signText negative ++ numeral.text) = some x := by
  have hcanonical := canonical_of_ofFloat hx
  rw [readFloat?_text h.regular]
  refine congrArg some (eq_of_ofFloat_eq ?_ hx)
  rcases Nat.eq_zero_or_pos mantissa with hzero | hpos
  · have hleast : exponent = -1074 := hcanonical.full.resolve_left (by omega)
    rw [h.digits_eq_zero hzero, hzero, hleast]
    exact ofFloat_floatOfDecimal_zero negative _
  · exact ofFloat_floatOfDecimal hcanonical hpos (h.nearest hpos) negative

end Numeral

/-! ## Written floats -/

namespace Decimal

open Binary

variable {mantissa : Nat} {exponent : Int}

/-- The decimal with the fewest digits, also for zero. -/
def fewest (tie : Tie) (mantissa : Nat) (exponent : Int) : Decimal :=
  if mantissa = 0 then ⟨0, 0⟩ else shortest tie mantissa exponent

theorem names_pointed_fewest (tie : Tie) (hcanonical : Canonical mantissa exponent) :
    (fewest tie mantissa exponent).pointed.Names mantissa exponent := by
  unfold fewest
  split
  · rename_i hzero
    exact ⟨regular_pointed (Or.inr rfl), fun _ => rfl, fun hpos => absurd hzero hpos.ne'⟩
  · rename_i hne
    have hpos := Nat.pos_of_ne_zero hne
    have hnearest := nearest_shortest tie hcanonical hpos
    refine ⟨regular_pointed (Or.inl (hnearest.digits_pos hcanonical hpos)),
      fun hzero => absurd hzero hne, fun _ => ?_⟩
    rwa [value_pointed]

theorem names_normalized_fewest (tie : Tie) (hcanonical : Canonical mantissa exponent)
    (hpos : 0 < mantissa) : (fewest tie mantissa exponent).normalized.Names mantissa exponent := by
  have hnearest := nearest_shortest tie hcanonical hpos
  unfold fewest
  rw [if_neg hpos.ne']
  refine ⟨regular_normalized (hnearest.digits_pos hcanonical hpos),
    fun hzero => absurd hzero hpos.ne', fun _ => ?_⟩
  rwa [value_normalized]

end Decimal

namespace Binary

variable {x : Float} {negative : Bool} {mantissa : Nat} {exponent : Int}

/-- A finite float with its point is written as a numeral that it is the nearest float to. -/
theorem floatTextWithPoint_eq (hx : ofFloat x = finite negative mantissa exponent) :
    floatTextWithPoint x =
      signText negative ++ (Decimal.fewest .up mantissa exponent).pointed.text := by
  have hcanonical := canonical_of_ofFloat hx
  unfold floatTextWithPoint floatText isIntegral Decimal.fewest
  rw [hx, Decimal.text_pointed]
  dsimp only
  rw [List.append_assoc]
  congr 1
  by_cases hzero : mantissa = 0
  · rw [if_pos hzero, if_pos hzero, hzero]
    simp [Decimal.positional, zeros]
    decide
  · have hwhole := Decimal.shortest_exponent_nonneg_iff .up hcanonical (Nat.pos_of_ne_zero hzero)
    rw [if_neg hzero, if_neg hzero]
    simp only [Nat.pow_eq, ← hwhole, decide_eq_true_eq]

end Binary

end DryRun
