import DryRun.Number.Notation
import DryRun.Number.Reading

/-!
# Values

The values that expressions have, and how they are written: as `print` shows them, and as they are
spelled inside a list.
-/

namespace DryRun

/-- The value of an expression. -/
inductive Value where
  | str (text : Text)
  | int (n : Int)
  | float (x : Float)
  | bool (b : Bool)
  | none
  | list (items : List Value)

namespace Value

/-- The name of the type of a value. -/
def typeName : Value → String
  | str _ => "str"
  | int _ => "int"
  | float _ => "float"
  | bool _ => "bool"
  | none => "NoneType"
  | list _ => "list"

/-- The number of characters or items; none where a value has no length. -/
def length : Value → Nat
  | str text => text.length
  | list items => items.length
  | _ => 0

/-- The number that a value is, as a float. -/
def toFloat? : Value → Option Float
  | int n => some (Float.ofInt n)
  | float x => some x
  | _ => Option.none

/-- The least size from which on floats are written without a point. -/
def pointlessFrom : Float := 1e16

/-- A float as it is shown: with a point, unless it is an integer of many digits or no number. -/
def floatShown (x : Float) : Text :=
  if x.isNaN then "nan".toList
  else if isIntegral x && x.abs < pointlessFrom then floatPlaces 1 x
  else floatText x

/-- A text with a backslash before each single quote. -/
def escapeSingle (text : Text) : Text := text.flatMap fun c => if c = '\'' then ['\\', c] else [c]

/-- A text between quotes: double ones if it holds single ones only, otherwise single ones. -/
def quotedText (text : Text) : Text :=
  if text.contains '\'' && !text.contains '"' then '"' :: text ++ ['"']
  else '\'' :: escapeSingle text ++ ['\'']

/-- The value as it is spelled in an expression. -/
def spelled : Value → Text
  | str text => quotedText text
  | int n => integerText n
  | float x => floatShown x
  | bool true => "True".toList
  | bool false => "False".toList
  | none => "None".toList
  | list items => '[' :: Text.join ", ".toList (items.map spelled) ++ [']']

/-- The value as it is shown: a text as it stands, everything else as it is spelled. -/
def shown : Value → Text
  | str text => text
  | value => value.spelled

end Value

/-! ## Environments -/

/-- Variables and their values, the latest binding of a name first. -/
abbrev Environment := List (Text × Value)

namespace Environment

/-- The value of a variable. -/
def find? (env : Environment) (name : Text) : Option Value := env.lookup name

/-- The environment with one more binding. -/
def bind (env : Environment) (name : Text) (value : Value) : Environment := (name, value) :: env

end Environment

end DryRun
