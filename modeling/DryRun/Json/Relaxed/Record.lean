import DryRun.Json.Record
import DryRun.Json.Relaxed.Reader

/-!
# Records in relaxed JSON

The numbers that lexemes of relaxed JSON stand for, and records. Where an integer is asked for, any
number is cut to one. A value that no field takes must still be one: its numbers and strings have
values.
-/

namespace DryRun

namespace Json

/-! ## Numbers -/

/-- The digits of a hexadecimal lexeme. -/
def hexDigits? : Text → Option Text
  | '0' :: 'x' :: digits | '0' :: 'X' :: digits => some digits
  | _ => none

/-- The number of a hexadecimal lexeme's digits, up to 32 bits. -/
def halfWord? (digits : Text) : Option Nat := (digitsIn? 16 digits).filter (· < Nat.pow 2 32)

/-- Whether a lexeme names an infinity or what is no number. -/
def isNamed (lexeme : Text) : Bool :=
  ["Infinity", "-Infinity", "NaN", "-NaN"].any (lexeme == ·.toList)

/-- The float of a lexeme; names count, but no decimal number is beyond all floats. -/
def relaxedFloatOf? (lexeme : Text) : Option Float :=
  if isNamed lexeme then readFloat? lexeme
  else
    match hexDigits? lexeme with
    | some digits => (halfWord? digits).map Float.ofNat
    | none => (readFloat? lexeme).filter Float.isFinite

/-- The float of a number. -/
def relaxedFloat? : Json → Option Float
  | number lexeme => relaxedFloatOf? lexeme
  | _ => none

/-- The number of 64 bits that a number is cut to. -/
def relaxedWord? (json : Json) : Option Nat := json.relaxedFloat?.map wordOfFloat

/-- The integer of a decimal lexeme. -/
def integerOf? (lexeme : Text) : Option Int :=
  let (negative, digits) := splitSign lexeme
  (readNatural? digits).map fun (n : Nat) => if negative then -(n : Int) else n

/-- Whether a lexeme has a value: integers have one within 64 bits only. -/
def hasNumber (lexeme : Text) : Bool :=
  let isFloat := lexeme.any (fun c => c == '.' || c == 'e' || c == 'E') || isNamed lexeme
  if isFloat || (hexDigits? lexeme).isSome then (relaxedFloatOf? lexeme).isSome
  else ((integerOf? lexeme).filter inWord).isSome

/-! ## Records -/

/-- Whether every number and every string within a value has a value itself. -/
def isSound : Json → Bool
  | null | bool _ => true
  | number lexeme => hasNumber lexeme
  | string text => text.isSome
  | array items => (items.map fun item => isSound item).all id
  | object members =>
    (members.map fun member => member.1.isSome && isSound member.2).all id
  termination_by json => sizeOf json
  decreasing_by
    · rename_i h
      have := List.sizeOf_lt_of_mem h
      simp only [array.sizeOf_spec]
      omega
    · rename_i h
      have := List.sizeOf_lt_of_mem h
      have : sizeOf member.2 < sizeOf member := by
        cases member
        simp only [Prod.mk.sizeOf_spec]
        omega
      simp only [object.sizeOf_spec]
      omega

/-- Whether what an object holds beyond the named fields is sound. -/
def hasSoundRest (names : List String) : Json → Bool
  | object members => members.all fun (key, value) =>
    key.any (fun key => names.any (key == ·.toList)) || isSound value
  | _ => true

/-- The values of the fields of a record; an array may have more items. -/
def relaxedFields? (names : List String) (json : Json) : Option (List (Option Json)) :=
  if json.hasSoundRest names then (json.fields? true (names.map ([·]))).map (·.values) else none

end Json

end DryRun
