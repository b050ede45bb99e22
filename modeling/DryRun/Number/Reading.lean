import DryRun.Number.Notation

/-!
# Reading numbers

The numbers that texts stand for: natural numbers up to a limit, and floats in decimal notation.
-/

namespace DryRun

/-- The value of decimal digits. -/
def digitsValue (digits : Text) : Nat :=
  digits.foldl (fun value c => value * 10 + (c.toNat - '0'.toNat)) 0

/-- The value of a digit in a base up to sixteen. -/
def digitIn? (base : Nat) (c : Char) : Option Nat :=
  let value? :=
    if c.isDigit then some (c.toNat - '0'.toNat)
    else if 'a' ≤ c ∧ c ≤ 'f' then some (c.toNat - 'a'.toNat + 10)
    else if 'A' ≤ c ∧ c ≤ 'F' then some (c.toNat - 'A'.toNat + 10)
    else none
  value?.filter (· < base)

/-- The value of digits in a base. -/
def digitsIn? (base : Nat) (digits : Text) : Option Nat :=
  if digits.isEmpty then none
  else digits.foldlM (fun value c => (digitIn? base c).map (value * base + ·)) 0

/-- The character of a number. -/
def charOf? (n : Nat) : Option Char := if n.isValidChar then some (Char.ofNat n) else none

/-- The natural number that digits stand for; nothing for a text of anything else. -/
def readNatural? (digits : Text) : Option Nat :=
  if !digits.isEmpty && digits.all Char.isDigit then some (digitsValue digits) else none

/-- The largest number of 64 bits. -/
def wordCap : Nat := Nat.pow 2 64 - 1

/-- The number of 64 bits that digits stand for, behind a plus sign or not. -/
def readWord? (text : Text) : Option Nat :=
  (readNatural? (match text with | '+' :: digits => digits | _ => text)).filter (· ≤ wordCap)

/-- The number of 64 bits that a float is cut to: the fraction goes, and what is too small or too
large becomes the least or the largest one. -/
def wordOfFloat (x : Float) : Nat :=
  match Binary.ofFloat x with
  | .infinite false => wordCap
  | .finite false mantissa exponent =>
    let (p, q) := powerRatio exponent 0
    Nat.min (mantissa * p / q) wordCap
  | _ => 0

/-- Whether an integer has a place in 64 bits with a sign. -/
def inWord (n : Int) : Bool := -(Nat.pow 2 63 : Nat) ≤ n && n < (Nat.pow 2 63 : Nat)

/-- The float nearest to digits times a power of ten, infinite if there is none. -/
def floatOfDecimal (negative : Bool) (digits : Nat) (exponent : Int) : Float :=
  let place := exponent + Decimal.digitCount digits
  let size :=
    if digits = 0 ∨ place < -400 then 0
    else if 400 < place then 1 / 0
    else Float.ofScientific digits (exponent < 0) exponent.natAbs
  if negative then -size else size

/-- A sign and what follows it. -/
def splitSign : Text → Bool × Text
  | '-' :: rest => (true, rest)
  | '+' :: rest => (false, rest)
  | rest => (false, rest)

/-- The exponent behind digits: none at the end of the text, otherwise `e`, a sign or not, and
digits. -/
def readExponent? : Text → Option Int
  | [] => some 0
  | c :: rest =>
    if c = 'e' ∨ c = 'E' then
      let (negative, digits) := splitSign rest
      (readNatural? digits).map fun (n : Nat) => if negative then -(n : Int) else n
    else none

/-- The float of digits with a point and an exponent or without. -/
def readDecimal? (negative : Bool) (text : Text) : Option Float :=
  let whole := text.takeWhile Char.isDigit
  let behind := text.dropWhile Char.isDigit
  let (places, rest) :=
    match behind with
    | '.' :: rest => (rest.takeWhile Char.isDigit, rest.dropWhile Char.isDigit)
    | _ => ([], behind)
  if whole.isEmpty && places.isEmpty then none
  else
    (readExponent? rest).map fun exponent =>
      floatOfDecimal negative (digitsValue (whole ++ places)) (exponent - places.length)

/-- The float that a text stands for: a decimal number, an infinity, or no number. -/
def readFloat? (text : Text) : Option Float :=
  let (negative, rest) := splitSign text
  let word := String.ofList (rest.map Char.toLower)
  if word = "inf" ∨ word = "infinity" then some (if negative then -(1 / 0) else 1 / 0)
  else if word = "nan" then some (0 / 0)
  else readDecimal? negative rest

end DryRun
