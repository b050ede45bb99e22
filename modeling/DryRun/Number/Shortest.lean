import DryRun.Number.Binary

/-!
# The fewest digits of a float

The decimal with the fewest digits among those that are nearer to a positive float than to any
other; of several, the nearest. For each number of digits the two neighbours of the float on that
decimal grid are tried, in exact arithmetic.
-/

namespace DryRun

/-- A decimal number: digits times a power of ten. -/
structure Decimal where
  digits : Nat
  exponent : Int
  deriving DecidableEq, Repr

namespace Decimal

/-- The number of decimal digits of a natural number; one for zero. -/
def digitCount (n : Nat) : Nat := (Nat.toDigits 10 n).length

/-- The exponent of the first digit of `mantissa * 2 ^ exponent`. -/
def leadingPlace (mantissa : Nat) (exponent : Int) : Int :=
  let (p, q) := powerRatio exponent 0
  let numerator := mantissa * p
  if q ≤ numerator then digitCount (numerator / q) - 1
  else -(digitCount ((q - 1) / numerator) : Int)

/-- The nearer of the two multiples of ten to `place` beside a float that read back as it. -/
def onGrid? (tie : Tie) (mantissa : Nat) (exponent place : Int) : Option Decimal :=
  let (p, q) := powerRatio (exponent - 2) (-place)
  let value := 4 * mantissa * p
  let narrow := mantissa = Binary.leastFullMantissa && exponent > Binary.leastExponent
  let low := (4 * mantissa - (if narrow then 1 else 2)) * p
  let high := (4 * mantissa + 2) * p
  let inside (n : Nat) : Bool :=
    if mantissa % 2 = 0 then low ≤ n * q && n * q ≤ high else low < n * q && n * q < high
  let below := value / q
  let nearest := roundRatio tie value q
  let chosen :=
    if inside nearest then some nearest
    else if inside below then some below
    else if inside (below + 1) then some (below + 1)
    else none
  chosen.map (⟨·, place⟩)

/-- The decimal without the zeros that its digits end in, up to a number of them. -/
def withoutZeros : Nat → Decimal → Decimal
  | 0, d => d
  | fuel + 1, d =>
    if d.digits ≠ 0 ∧ d.digits % 10 = 0 then withoutZeros fuel ⟨d.digits / 10, d.exponent + 1⟩
    else d

/-- The most digits that a float needs. -/
def mostDigits : Nat := 17

/-- The decimal with the fewest digits that reads back as `mantissa * 2 ^ exponent`. -/
def shortest (tie : Tie) (mantissa : Nat) (exponent : Int) : Decimal :=
  let place := leadingPlace mantissa exponent
  let found := (List.range mostDigits).findSome? fun (n : Nat) =>
    onGrid? tie mantissa exponent (place - n)
  withoutZeros mostDigits (found.getD ⟨0, 0⟩)

end Decimal

end DryRun
