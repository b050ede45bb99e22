import Mathlib.Tactic.Ring
import DryRun.Number.Binary

/-!
# Bits of floats

A float is unpacked to the mantissa and exponent that its bits say (`unpack_of_ofFloat`), and packed
back into the bits that say them (`ofFloat_pack`); a finite float has no second number or sign
(`eq_of_ofFloat_eq`).
-/

namespace DryRun

namespace Binary

open Float.Model Float.Model.UnpackedFloat

/-- What the parts of a finite float obey: the mantissa has full length unless the exponent is the
least one. -/
structure Canonical (mantissa : Nat) (exponent : Int) : Prop where
  lt_two_pow : mantissa < 2 ^ 53
  le_exponent : -1074 ≤ exponent
  exponent_le : exponent ≤ 971
  full : 2 ^ 52 ≤ mantissa ∨ exponent = -1074

/-- A sign as floats have it. -/
def signOf (negative : Bool) : Sign := if negative then .negative else .positive

/-! ## From floats -/

theorem toNat_unpackMantissa (b : BitVec 64) :
    (@unpackMantissa Format.binary64 b).toNat = b.toNat % 2 ^ 52 := by
  simp [unpackMantissa]

theorem toNat_unpackExponent (b : BitVec 64) :
    (@unpackExponent Format.binary64 b).toNat = b.toNat / 2 ^ 52 % 2 ^ 11 := by
  simp [unpackExponent, Nat.shiftRight_eq_div_pow]

theorem toNat_unpackSign (b : BitVec 64) :
    (@unpackSign Format.binary64 b).toNat = b.toNat / 2 ^ 63 % 2 := by
  show (b.extractLsb 63 63).toNat = _
  rw [BitVec.extractLsb_toNat, Nat.shiftRight_eq_div_pow]

theorem toNat_append {m n : Nat} (front : BitVec m) (back : BitVec n) :
    (front ++ back).toNat = front.toNat * 2 ^ n + back.toNat := by
  rw [BitVec.toNat_append, ← Nat.shiftLeft_add_eq_or_of_lt back.isLt, Nat.shiftLeft_eq]

theorem ofBits_cases (bits : Nat) :
    ofBits bits =
      if bits / 2 ^ 52 % 2 ^ 11 = 2047 then
        (if bits % 2 ^ 52 = 0 then infinite (bits / 2 ^ 63 % 2 = 1) else nan)
      else if bits / 2 ^ 52 % 2 ^ 11 = 0 then
        finite (bits / 2 ^ 63 % 2 = 1) (bits % 2 ^ 52) (-1074)
      else finite (bits / 2 ^ 63 % 2 = 1) (bits % 2 ^ 52 + 2 ^ 52)
        (-1074 + (bits / 2 ^ 52 % 2 ^ 11 : Nat) - 1) := rfl

theorem canonical_of_ofBits {bits mantissa : Nat} {negative : Bool} {exponent : Int}
    (h : ofBits bits = finite negative mantissa exponent) : Canonical mantissa exponent := by
  have hfraction : bits % 2 ^ 52 < 2 ^ 52 := Nat.mod_lt _ (by decide)
  have hexponent : bits / 2 ^ 52 % 2 ^ 11 < 2 ^ 11 := Nat.mod_lt _ (by decide)
  rw [ofBits_cases] at h
  generalize bits % 2 ^ 52 = fraction at *
  generalize bits / 2 ^ 52 % 2 ^ 11 = e at *
  split at h
  · split at h <;> cases h
  · split at h
    · injection h with _ hm he
      exact ⟨by omega, by omega, by omega, Or.inr he.symm⟩
    · injection h with _ hm he
      exact ⟨by omega, by omega, by omega, Or.inl (by omega)⟩

theorem ofBitVec_eq (b : BitVec 1) : Sign.ofBitVec b = signOf (b.toNat = 1) := by
  have hcases : b = 0#1 ∨ b = 1#1 := by
    have := b.isLt
    rcases Nat.lt_or_ge b.toNat 1 with h | h
    · exact Or.inl (BitVec.eq_of_toNat_eq (by simp; omega))
    · exact Or.inr (BitVec.eq_of_toNat_eq (by simp; omega))
  rcases hcases with rfl | rfl <;> rfl

theorem unpacked_congr {sign : Sign} {mantissa mantissa' : Nat} {exponent exponent' : Int}
    (hm : mantissa = mantissa') (he : exponent = exponent') (h : 0 < mantissa)
    (h' : 0 < mantissa') :
    UnpackedFloat.finite sign mantissa exponent h =
      UnpackedFloat.finite sign mantissa' exponent' h' := by
  subst hm he
  rfl

/-- A float is taken apart as its bits say. -/
theorem unpack_of_ofFloat {x : Float} {negative : Bool} {mantissa : Nat} {exponent : Int}
    (h : ofFloat x = finite negative mantissa exponent) :
    x.toModel.unpack =
      if hm : mantissa = 0 then .zero (signOf negative)
      else .finite (signOf negative) mantissa exponent (Nat.pos_of_ne_zero hm) := by
  unfold ofFloat Float.toBits at h
  rw [ofBits_cases] at h
  unfold Float.Model.unpack UnpackedFloat.unpack
  have hbits : x.toModel.toBits.toNat = x.toModel.toBits.toBitVec.toNat := rfl
  rw [hbits] at h
  generalize x.toModel.toBits.toBitVec = b at *
  have hmantissa := toNat_unpackMantissa b
  have hexponent := toNat_unpackExponent b
  have hsign := toNat_unpackSign b
  rw [← hmantissa, ← hexponent, ← hsign] at h
  have hmost : (@unpackExponent Format.binary64 b).toNat ≠ 2047 := by
    intro hmost
    rw [if_pos hmost] at h
    split at h <;> cases h
  rw [if_neg hmost] at h
  dsimp only
  rw [ofBitVec_eq, if_neg fun h => hmost (congrArg BitVec.toNat h)]
  by_cases hzero : (@unpackExponent Format.binary64 b).toNat = 0
  · rw [if_pos hzero] at h
    injection h with hs hm he
    rw [if_pos (BitVec.eq_of_toNat_eq hzero), hs]
    by_cases hnone : mantissa = 0
    · rw [dif_pos hnone, dif_pos (BitVec.eq_of_toNat_eq (y := 0#52) (hm.trans hnone))]
    · rw [dif_neg hnone, dif_neg fun h => hnone (hm.symm.trans (congrArg BitVec.toNat h))]
      refine unpacked_congr hm ?_ _ _
      rw [hzero, ← he]
      rfl
  · rw [if_neg hzero] at h
    injection h with hs hm he
    have hsome : mantissa ≠ 0 := by omega
    rw [if_neg fun h => hzero (congrArg BitVec.toNat h), hs, dif_neg hsome]
    refine unpacked_congr (((toNat_append _ _).trans (Nat.add_comm _ _)).trans hm) ?_ _ _
    rw [← he]
    show _ - ((1023 : Int) + 52) = _
    omega

theorem unpack_cases_of_ofFloat {x : Float} {negative : Bool} {mantissa : Nat} {exponent : Int}
    (h : ofFloat x = finite negative mantissa exponent) :
    x.toModel.unpack = .zero (signOf negative) ∨
      ∃ hpos, x.toModel.unpack = .finite (signOf negative) mantissa exponent hpos := by
  rw [unpack_of_ofFloat h]
  by_cases hzero : mantissa = 0
  · rw [dif_pos hzero]
    exact Or.inl rfl
  · rw [dif_neg hzero]
    exact Or.inr ⟨_, rfl⟩

theorem eq_parts (bits : Nat) (h : bits < 2 ^ 64) :
    bits = bits / 2 ^ 63 % 2 * 2 ^ 63 + bits / 2 ^ 52 % 2 ^ 11 * 2 ^ 52 + bits % 2 ^ 52 := by
  omega

theorem parts_of_ofBits {bits mantissa : Nat} {negative : Bool} {exponent : Int}
    (h : ofBits bits = finite negative mantissa exponent) :
    bits / 2 ^ 63 % 2 = (if negative then 1 else 0) ∧
      bits / 2 ^ 52 % 2 ^ 11 = (if mantissa < 2 ^ 52 then 0 else (exponent + 1075).toNat) ∧
      bits % 2 ^ 52 = (if mantissa < 2 ^ 52 then mantissa else mantissa - 2 ^ 52) := by
  have hfraction : bits % 2 ^ 52 < 2 ^ 52 := Nat.mod_lt _ (by decide)
  have hsign : ∀ {b : Bool}, decide (bits / 2 ^ 63 % 2 = 1) = b →
      bits / 2 ^ 63 % 2 = if b then 1 else 0 := by
    rintro b rfl
    rcases Nat.mod_two_eq_zero_or_one (bits / 2 ^ 63) with hbit | hbit
    · rw [hbit]
      rfl
    · rw [hbit]
      rfl
  rw [ofBits_cases] at h
  generalize bits % 2 ^ 52 = fraction at *
  generalize bits / 2 ^ 52 % 2 ^ 11 = e at *
  split at h
  · split at h <;> cases h
  · split at h
    · rename_i hzero
      injection h with hs hm he
      have hlt : mantissa < 2 ^ 52 := hm ▸ hfraction
      exact ⟨hsign hs, by rw [if_pos hlt, hzero], by rw [if_pos hlt, hm]⟩
    · injection h with hs hm he
      have hle : ¬ mantissa < 2 ^ 52 := by omega
      exact ⟨hsign hs, by rw [if_neg hle]; omega, by rw [if_neg hle]; omega⟩

/-- A finite float is the only one that stands for its number and sign. -/
theorem eq_of_ofFloat_eq {x y : Float} {negative : Bool} {mantissa : Nat} {exponent : Int}
    (hx : ofFloat x = finite negative mantissa exponent)
    (hy : ofFloat y = finite negative mantissa exponent) : x = y := by
  have hbits : x.toBits.toNat = y.toBits.toNat := by
    rw [eq_parts _ x.toBits.toNat_lt, eq_parts _ y.toBits.toNat_lt]
    obtain ⟨hxs, hxe, hxf⟩ := parts_of_ofBits hx
    obtain ⟨hys, hye, hyf⟩ := parts_of_ofBits hy
    rw [hxs, hxe, hxf, hys, hye, hyf]
  obtain ⟨⟨x, hvalid⟩⟩ := x
  obtain ⟨⟨y, hvalid'⟩⟩ := y
  have hxy : x = y := UInt64.toNat_inj.1 hbits
  subst hxy
  rfl

/-! ## To floats -/

theorem toNat_packComponents (sign : Sign) (exponent : BitVec 11) (mantissa : BitVec 52) :
    (packComponents Format.binary64 sign exponent mantissa).toNat =
      sign.toBitVec.toNat * 2 ^ 63 + exponent.toNat * 2 ^ 52 + mantissa.toNat := by
  unfold packComponents
  rw [toNat_append, toNat_append, Nat.add_mul, Nat.mul_assoc]
  rfl

theorem ofFloat_pack_zero (negative : Bool) :
    ofFloat (.ofModel (.pack (.zero (signOf negative)))) = finite negative 0 (-1074) := by
  cases negative <;> decide

theorem toNat_signOf (negative : Bool) :
    (signOf negative).toBitVec.toNat = if negative then 1 else 0 := by
  cases negative <;> rfl

theorem ofBits_of_parts (negative : Bool) {exponent fraction : Nat} (he : exponent < 2047)
    (hf : fraction < 2 ^ 52) :
    ofBits ((if negative then 1 else 0) * 2 ^ 63 + exponent * 2 ^ 52 + fraction) =
      if exponent = 0 then finite negative fraction (-1074)
      else finite negative (fraction + 2 ^ 52) (-1074 + exponent - 1) := by
  have hbit : (if negative then 1 else 0) < 2 := by cases negative <;> decide
  have hsign : decide ((if negative then 1 else 0) = 1) = negative := by cases negative <;> decide
  rw [ofBits_cases]
  generalize (if negative then 1 else 0) = sign at *
  have hfraction : (sign * 2 ^ 63 + exponent * 2 ^ 52 + fraction) % 2 ^ 52 = fraction := by omega
  have hexponent :
      (sign * 2 ^ 63 + exponent * 2 ^ 52 + fraction) / 2 ^ 52 % 2 ^ 11 = exponent := by omega
  have hsignBit : (sign * 2 ^ 63 + exponent * 2 ^ 52 + fraction) / 2 ^ 63 % 2 = sign := by omega
  rw [hfraction, hexponent, hsignBit, hsign, if_neg he.ne]

/-- What is put together as a float stands for what it is made of. -/
theorem ofFloat_pack {mantissa : Nat} {exponent : Int} (h : Canonical mantissa exponent)
    (hpos : 0 < mantissa) (negative : Bool) :
    ofFloat (.ofModel (.pack (.finite (signOf negative) mantissa exponent hpos))) =
      finite negative mantissa exponent := by
  obtain ⟨hlt, hleast, hmost, hfull⟩ := h
  have hbias : (exponent + (Format.exponentBias Format.binary64 : Nat) + (52 : Nat)).toNat =
      (exponent + 1075).toNat := by
    have hvalue : ((Format.exponentBias Format.binary64 : Nat) : Int) = 1023 := rfl
    rw [hvalue]
    omega
  have hfits : (exponent + 1075).toNat < 2047 := by omega
  show ofBits (UnpackedFloat.pack Format.binary64 _).toNat = _
  unfold UnpackedFloat.pack
  dsimp only
  rw [hbias, if_neg (by omega)]
  have hlog : mantissa.log2 + 1 = Format.mantissaBits Format.binary64 ↔ 2 ^ 52 ≤ mantissa := by
    show mantissa.log2 + 1 = 1 + 52 ↔ _
    rw [← Nat.le_log2 hpos.ne']
    have := (Nat.log2_lt hpos.ne').2 hlt
    omega
  by_cases hnormal : 2 ^ 52 ≤ mantissa
  · rw [if_pos (hlog.2 hnormal), toNat_packComponents, toNat_signOf, BitVec.toNat_ofNat,
      BitVec.toNat_ofNat, Nat.mod_eq_of_lt (by omega), ofBits_of_parts negative hfits (by omega),
      if_neg (by omega)]
    congr 1
    · omega
    · omega
  · rw [if_neg (mt hlog.1 hnormal), toNat_packComponents, toNat_signOf, BitVec.toNat_ofNat,
      BitVec.toNat_ofNat, Nat.mod_eq_of_lt (by omega),
      ofBits_of_parts negative (by omega) (by omega), if_pos (by omega)]
    congr 1
    · omega
    · omega

/-! ## Finite floats -/

theorem canonical_of_ofFloat {x : Float} {negative : Bool} {mantissa : Nat} {exponent : Int}
    (h : ofFloat x = finite negative mantissa exponent) : Canonical mantissa exponent :=
  canonical_of_ofBits h

/-- What holds of all zeros and finite numbers holds of a float that stands for a number. -/
theorem kind_of_ofFloat {x : Float} {negative : Bool} {mantissa : Nat} {exponent : Int}
    (h : ofFloat x = finite negative mantissa exponent)
    {p : UnpackedFloat → Prop} (hzero : ∀ sign, p (.zero sign))
    (hfinite : ∀ sign mantissa exponent hpos, p (.finite sign mantissa exponent hpos)) :
    p x.toModel.unpack := by
  rcases unpack_cases_of_ofFloat h with hunpack | ⟨hpos, hunpack⟩
  · rw [hunpack]
    exact hzero _
  · rw [hunpack]
    exact hfinite _ _ _ _

section Kinds

variable {x : Float} {negative : Bool} {mantissa : Nat} {exponent : Int}
  (h : ofFloat x = finite negative mantissa exponent)

include h

theorem isFinite_of_ofFloat : x.isFinite = true :=
  kind_of_ofFloat (p := fun unpacked => unpacked.isFinite = true) h (fun _ => rfl)
    fun _ _ _ _ => rfl

theorem isInf_of_ofFloat : x.isInf = false :=
  kind_of_ofFloat (p := fun unpacked => unpacked.isInf = false) h (fun _ => rfl)
    fun _ _ _ _ => rfl

theorem isNaN_of_ofFloat : x.isNaN = false :=
  kind_of_ofFloat (p := fun unpacked => unpacked.isNaN = false) h (fun _ => rfl)
    fun _ _ _ _ => rfl

end Kinds

theorem isFinite_of_exponent {x : Float} (h : x.toBits.toNat / 2 ^ 52 % 2 ^ 11 = 2047) :
    x.isFinite = false := by
  show x.toModel.unpack.isFinite = false
  unfold Float.toBits at h
  unfold Float.Model.unpack UnpackedFloat.unpack
  have hbits : x.toModel.toBits.toNat = x.toModel.toBits.toBitVec.toNat := rfl
  rw [hbits] at h
  generalize x.toModel.toBits.toBitVec = b at *
  rw [← toNat_unpackExponent b] at h
  dsimp only
  rw [if_pos (BitVec.eq_of_toNat_eq h)]
  split <;> rfl

theorem exists_ofFloat_of_isFinite {x : Float} (h : x.isFinite = true) :
    ∃ negative mantissa exponent, ofFloat x = finite negative mantissa exponent := by
  unfold ofFloat
  rw [ofBits_cases]
  split
  · rename_i hexponent
    rw [isFinite_of_exponent hexponent] at h
    cases h
  · split <;> exact ⟨_, _, _, rfl⟩

theorem neg_signOf (negative : Bool) : -signOf negative = signOf !negative := by
  cases negative <;> rfl

theorem ofFloat_neg {x : Float} {negative : Bool} {mantissa : Nat} {exponent : Int}
    (h : ofFloat x = finite negative mantissa exponent) :
    ofFloat (-x) = finite (!negative) mantissa exponent := by
  have hcanonical := canonical_of_ofFloat h
  show ofFloat (.ofModel (.pack x.toModel.unpack.neg)) = _
  rw [unpack_of_ofFloat h]
  by_cases hzero : mantissa = 0
  · have hleast : exponent = -1074 := by
      rcases hcanonical.full with hfull | hleast
      · omega
      · exact hleast
    rw [dif_pos hzero]
    show ofFloat (.ofModel (.pack (.zero (-signOf negative)))) = _
    rw [neg_signOf, ofFloat_pack_zero, hzero, hleast]
  · rw [dif_neg hzero]
    show ofFloat (.ofModel (.pack (.finite (-signOf negative) mantissa exponent _))) = _
    rw [neg_signOf, ofFloat_pack hcanonical]

end Binary

end DryRun
