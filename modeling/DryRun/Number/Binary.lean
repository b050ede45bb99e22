/-!
# Floats as binary numbers

What a float stands for: a sign and a natural number times a power of two, or one of the values
that are no number.
-/

namespace DryRun

/-- What a float stands for. -/
inductive Binary where
  | nan
  | infinite (negative : Bool)
  /-- The mantissa times two to the exponent, with its sign. -/
  | finite (negative : Bool) (mantissa : Nat) (exponent : Int)
  deriving DecidableEq, Repr

namespace Binary

/-- The exponent of the smallest positive float, and of its neighbours. -/
def leastExponent : Int := -1074

/-- The least mantissa of the floats whose mantissa has full length. -/
def leastFullMantissa : Nat := Nat.pow 2 52

/-- What the bits of a float stand for: a sign bit, eleven bits of exponent, and 52 bits of
mantissa, to which all but the smallest exponent add a leading one. -/
def ofBits (bits : Nat) : Binary :=
  let negative := bits / Nat.pow 2 63 % 2 = 1
  let exponent : Nat := bits / Nat.pow 2 52 % Nat.pow 2 11
  let fraction : Nat := bits % Nat.pow 2 52
  if exponent = 2047 then (if fraction = 0 then infinite negative else nan)
  else if exponent = 0 then finite negative fraction leastExponent
  else finite negative (fraction + leastFullMantissa) (leastExponent + exponent - 1)

/-- What a float stands for. -/
def ofFloat (x : Float) : Binary := ofBits x.toBits.toNat

end Binary

/-- Numerator and denominator of a power of two times a power of ten. -/
def powerRatio (twos tens : Int) : Nat × Nat :=
  (Nat.pow 2 twos.toNat * Nat.pow 10 tens.toNat,
    Nat.pow 2 (-twos).toNat * Nat.pow 10 (-tens).toNat)

/-- Where a number halfway between two others is rounded to. -/
inductive Tie where
  | up
  | even
  deriving DecidableEq, Repr

/-- The natural number nearest to a ratio. -/
def roundRatio (tie : Tie) (numerator denominator : Nat) : Nat :=
  let below := numerator / denominator
  let left := 2 * (numerator % denominator)
  if left < denominator then below
  else if denominator < left then below + 1
  else
    match tie with
    | .up => below + 1
    | .even => below + below % 2

end DryRun
