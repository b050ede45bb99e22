import DryRun.Number.Shortest
import DryRun.Text.Basic

/-!
# Numbers as text

Floats in positional notation, with the fewest digits or with a fixed number of places, and in
scientific notation.
-/

namespace DryRun

/-- Zeros in a row. -/
def zeros (n : Nat) : Text := List.replicate n '0'

/-- The digits of a natural number. -/
def decimalDigits (n : Nat) : Text := Nat.toDigits 10 n

namespace Decimal

/-- The exponent of the first digit. -/
def leadingExponent (d : Decimal) : Int := d.exponent + digitCount d.digits - 1

/-- The decimal with all its digits in their places, and no more. -/
def positional (d : Decimal) : Text :=
  let digits := decimalDigits d.digits
  if 0 ≤ d.exponent then digits ++ zeros d.exponent.toNat
  else
    let places := (-d.exponent).toNat
    if places < digits.length then
      digits.take (digits.length - places) ++ '.' :: digits.drop (digits.length - places)
    else '0' :: '.' :: zeros (places - digits.length) ++ digits

/-- The decimal with one digit before the point and an exponent with its sign. -/
def scientific (d : Decimal) : Text :=
  let digits := decimalDigits d.digits
  let exponent := decimalDigits d.leadingExponent.natAbs
  let sign := if d.leadingExponent < 0 then '-' else '+'
  digits.take 1 ++ (if digits.length ≤ 1 then [] else '.' :: digits.drop 1) ++
    'e' :: sign :: exponent

end Decimal

/-- A minus sign if there is to be one. -/
def signText (negative : Bool) : Text := if negative then ['-'] else []

/-- A natural number of tenths, hundredths and so on, as its number of places says. -/
def withPlaces (n places : Nat) : Text :=
  let digits := decimalDigits n
  let padded := zeros (places + 1 - digits.length) ++ digits
  if places = 0 then padded
  else padded.take (padded.length - places) ++ '.' :: padded.drop (padded.length - places)

/-- An integer in decimal. -/
def integerText (n : Int) : Text := signText (n < 0) ++ decimalDigits n.natAbs

/-- A float in positional notation with the fewest digits. -/
def floatText (x : Float) : Text :=
  match Binary.ofFloat x with
  | .nan => "NaN".toList
  | .infinite negative => signText negative ++ "inf".toList
  | .finite negative mantissa exponent =>
    signText negative ++
      (if mantissa = 0 then ['0'] else (Decimal.shortest .up mantissa exponent).positional)

/-- Whether a float is an integer. -/
def isIntegral (x : Float) : Bool :=
  match Binary.ofFloat x with
  | .finite _ mantissa exponent => mantissa % Nat.pow 2 (-exponent).toNat = 0
  | _ => false

/-- A float in positional notation that shows a point for every finite one. -/
def floatTextWithPoint (x : Float) : Text :=
  floatText x ++ (if isIntegral x then ['.', '0'] else [])

/-- A float with a fixed number of places; its exact value is rounded, a half to the even side. -/
def floatPlaces (places : Nat) (x : Float) : Text :=
  match Binary.ofFloat x with
  | .nan => "NaN".toList
  | .infinite negative => signText negative ++ "inf".toList
  | .finite negative mantissa exponent =>
    let (p, q) := powerRatio exponent places
    signText negative ++ withPlaces (roundRatio .even (mantissa * p) q) places

end DryRun
