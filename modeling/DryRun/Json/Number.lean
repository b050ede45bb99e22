import DryRun.Json.Basic
import DryRun.Number.Reading

/-!
# Numbers of JSON

The numbers that lexemes of strict JSON stand for. Integers are exact. Floats are formed in steps,
each rounded: the digits as far as 64 bits hold them, and then a scaling by powers of ten.
-/

namespace DryRun

namespace Json

/-! ## Integers -/

/-- The natural number of an integer lexeme, up to 64 bits. -/
def word? : Json → Option Nat
  | number lexeme => (readNatural? lexeme).filter (· ≤ wordCap)
  | _ => none

/-! ## Floats -/

/-- A number of 64 bits with as many further digits as still fit, and how many those are. -/
def absorb (value : Nat) : Text → Nat × Nat
  | [] => (value, 0)
  | c :: rest =>
    let next := value * 10 + (c.toNat - '0'.toNat)
    if next ≤ wordCap then
      let (value, count) := absorb next rest
      (value, count + 1)
    else (value, 0)

/-- The largest exponent of a power of ten that is a float. -/
def tableCap : Nat := 308

/-- A power of ten as a float. -/
def tenTo (exponent : Nat) : Float := Float.ofScientific 1 false exponent

/-- A float divided by a power of ten, in steps of at most `tableCap` places. -/
def scaleDown (x : Float) (places : Nat) : Float :=
  if places ≤ tableCap then x / tenTo places
  else if x == 0 then x
  else scaleDown (x / tenTo tableCap) (places - tableCap)
  termination_by places
  decreasing_by simp_all [tableCap]; omega

/-- A float multiplied by a power of ten, unless that leads beyond all floats. -/
def scaleUp? (x : Float) (places : Nat) : Option Float :=
  if places ≤ tableCap then
    let scaled := x * tenTo places
    if scaled.isInf then none else some scaled
  else if x == 0 then some x
  else none

/-- The largest exponent that counts. -/
def exponentCap : Nat := Nat.pow 2 31 - 1

/-- The float of digits and an exponent. -/
def scale? (digits : Nat) (exponent : Int) : Option Float :=
  let x := Float.ofNat digits
  if 0 ≤ exponent then scaleUp? x exponent.toNat else some (scaleDown x exponent.natAbs)

/-- The size of a lexeme without sign, given the digits of its exponent if it has one. -/
def size? (whole places : Text) (exponent : Option (Bool × Text)) : Option Float :=
  let (value, count) := absorb 0 whole
  let (value, countBehind) := absorb value places
  let place : Int := (whole.length - count : Nat) - countBehind
  match exponent with
  | none => scale? value place
  | some (negative, digits) =>
    let size := digitsValue digits
    if exponentCap < size then (if value = 0 ∨ negative then some 0 else none)
    else
      let shifted := if negative then place - size else place + size
      scale? value (max (-exponentCap - 1) (min shifted exponentCap))

/-- The float of a lexeme without sign. -/
def unsigned? (lexeme : Text) : Option Float :=
  let whole := lexeme.takeWhile Char.isDigit
  let behind := lexeme.dropWhile Char.isDigit
  let (places, behind) :=
    match behind with
    | '.' :: rest => (rest.takeWhile Char.isDigit, rest.dropWhile Char.isDigit)
    | _ => ([], behind)
  match behind with
  | _ :: exponent => size? whole places (some (splitSign exponent))
  | [] => size? whole places none

/-- The float of a number; one beyond all floats has none. -/
def float? : Json → Option Float
  | number ('-' :: lexeme) => (unsigned? lexeme).map (-·)
  | number lexeme => unsigned? lexeme
  | _ => none

end Json

end DryRun
