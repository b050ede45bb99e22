import DryRun.Json.Basic
import DryRun.Number.Notation

/-!
# Writing JSON

JSON with one item or member on a line, indented by two spaces for each array or object around it.
-/

namespace DryRun

namespace Json

/-! ## Scalars -/

/-- A character of 16 bits as an escape. -/
def unicodeEscape (c : Char) : Text :=
  let digits := Nat.toDigits 16 c.toNat
  '\\' :: 'u' :: zeros (4 - digits.length) ++ digits

/-- A character as it stands in a string. -/
def escapeChar (c : Char) : Text :=
  match c with
  | '"' => ['\\', '"']
  | '\\' => ['\\', '\\']
  | '\x08' => ['\\', 'b']
  | '\x0c' => ['\\', 'f']
  | '\n' => ['\\', 'n']
  | '\r' => ['\\', 'r']
  | '\t' => ['\\', 't']
  | _ => if c.toNat < 0x20 then unicodeEscape c else [c]

/-- A text between quotes. -/
def quote (text : Text) : Text := '"' :: text.flatMap escapeChar ++ ['"']

/-- The number of a natural number. -/
def ofNat (n : Nat) : Json := number (decimalDigits n)

/-- The exponents of the first digit with which floats are written positionally. -/
def isPositional (exponent : Int) : Bool := -5 ≤ exponent && exponent ≤ 15

/-- The number of a float, with a point or an exponent; null if it has no digits. -/
def ofFloat (x : Float) : Json :=
  match Binary.ofFloat x with
  | .finite negative mantissa exponent =>
    let shortest :=
      if mantissa = 0 then ⟨0, 0⟩ else Decimal.shortest .even mantissa exponent
    let size :=
      if isPositional shortest.leadingExponent then
        shortest.positional ++ (if 0 ≤ shortest.exponent then ['.', '0'] else [])
      else shortest.scientific
    number (signText negative ++ size)
  | _ => null

/-- A text, or null. -/
def ofOption (encode : α → Json) : Option α → Json
  | some value => encode value
  | none => null

/-- The object of members with the given keys. -/
def record (members : List (String × Json)) : Json :=
  object (members.map fun (key, value) => (some key.toList, value))

/-! ## Layout -/

/-- The indentation of a depth. -/
def margin (depth : Nat) : Text := List.replicate (2 * depth) ' '

/-- Parts between brackets, each on a line of its own. -/
def block (depth : Nat) (opener closer : Char) (parts : List Text) : Text :=
  if parts.isEmpty then [opener, closer]
  else
    opener :: '\n' ::
      Text.join [',', '\n'] (parts.map (margin (depth + 1) ++ ·)) ++
      '\n' :: margin depth ++ [closer]

/-- A value inside the given number of arrays and objects. -/
def layout (depth : Nat) : Json → Text
  | null => "null".toList
  | bool true => "true".toList
  | bool false => "false".toList
  | number lexeme => lexeme
  | string text => quote (text.getD [])
  | array items => block depth '[' ']' (items.map fun item => layout (depth + 1) item)
  | object members =>
    block depth '{' '}' (members.map fun member =>
      quote (member.1.getD []) ++ ':' :: ' ' :: layout (depth + 1) member.2)
  termination_by json => sizeOf json
  decreasing_by
    · rename_i h
      have := List.sizeOf_lt_of_mem h
      simp only [array.sizeOf_spec]
      omega
    · rename_i h
      have := List.sizeOf_lt_of_mem h
      have : sizeOf member.2 < sizeOf member := by
        cases member
        simp only [Prod.mk.sizeOf_spec]
        omega
      simp only [object.sizeOf_spec]
      omega

/-- A value on lines of its own. -/
def pretty (json : Json) : Text := json.layout 0

end Json

end DryRun
