import DryRun.Number.Notation
import DryRun.Number.Reading

/-!
# Durations

Lengths of time in whole nanoseconds, their number of seconds as a float, and the short form in
which messages show them.
-/

namespace DryRun

/-- A length of time. -/
structure Duration where
  nanoseconds : Nat
  deriving DecidableEq, Repr

namespace Duration

/-- The nanoseconds of a second. -/
def perSecond : Nat := 1000000000

/-- No time at all. -/
def zero : Duration := ⟨0⟩

/-- The duration of a number of milliseconds. -/
def ofMilliseconds (n : Nat) : Duration := ⟨n * 1000000⟩

/-- The shorter of two durations. -/
def min (a b : Duration) : Duration := ⟨Nat.min a.nanoseconds b.nanoseconds⟩

/-- The whole seconds. -/
def seconds (d : Duration) : Nat := d.nanoseconds / perSecond

/-- The nanoseconds beyond the whole seconds. -/
def subseconds (d : Duration) : Nat := d.nanoseconds % perSecond

/-- The whole milliseconds, as far as 64 bits hold them. -/
def milliseconds (d : Duration) : Nat := Nat.min (d.nanoseconds / 1000000) wordCap

/-- The duration, if its seconds have a place in 64 bits. -/
def checked (d : Duration) : Option Duration := if d.seconds ≤ wordCap then some d else none

/-! ## Seconds as floats -/

/-- The number of seconds: the whole ones and the rest are taken to floats one by one. -/
def toSeconds (d : Duration) : Float :=
  Float.ofNat d.seconds + Float.ofNat d.subseconds / Float.ofNat perSecond

/-- The duration of a number of seconds, rounded to nanoseconds, a half to the even side; negative
numbers and those that are too large have none. -/
def ofSeconds? (x : Float) : Option Duration :=
  match Binary.ofFloat x with
  | .finite negative mantissa exponent =>
    if negative && mantissa != 0 then none
    else
      let (p, q) := powerRatio exponent 0
      checked ⟨roundRatio .even (mantissa * perSecond * p) q⟩
  | _ => none

/-! ## Short form -/

/-- The text without the zeros that it ends in. -/
def withoutZeros (text : Text) : Text := (text.reverse.dropWhile (· == '0')).reverse

/-- A number of units with as many places as it needs; `part` counts the fractions of a unit, of
which ten to the power of `places` make one. -/
def inUnits (whole part places : Nat) (unit : String) : String :=
  let digits := decimalDigits part
  let shown := withoutZeros (zeros (places - digits.length) ++ digits)
  String.ofList (decimalDigits whole ++ (if shown.isEmpty then [] else '.' :: shown)) ++ unit

/-- The duration in the largest unit that it has a whole one of. -/
def short (d : Duration) : String :=
  if 0 < d.seconds then inUnits d.seconds d.subseconds 9 "s"
  else if 1000000 ≤ d.nanoseconds then
    inUnits (d.nanoseconds / 1000000) (d.nanoseconds % 1000000) 6 "ms"
  else if 1000 ≤ d.nanoseconds then
    inUnits (d.nanoseconds / 1000) (d.nanoseconds % 1000) 3 "µs"
  else inUnits d.nanoseconds 0 0 "ns"

end Duration

end DryRun
