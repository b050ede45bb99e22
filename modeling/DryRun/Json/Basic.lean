import DryRun.Text.Basic

/-!
# JSON

Values of JSON as they are written: numbers by their digits, members of objects in order and as
often as they occur. A string whose escapes name half of a character pair has no text.
-/

namespace DryRun

/-- A value of JSON. -/
inductive Json where
  | null
  | bool (b : Bool)
  | number (lexeme : Text)
  | string (text : Option Text)
  | array (items : List Json)
  | object (members : List (Option Text × Json))

namespace Json

/-- The string of a text. -/
def ofString (s : String) : Json := string (some s.toList)

/-- The text of a string. -/
def text? : Json → Option Text
  | string text => text
  | _ => none

/-- The text of a string. -/
def string? (json : Json) : Option String := json.text?.map String.ofList

/-- The truth value. -/
def bool? : Json → Option Bool
  | bool b => some b
  | _ => none

/-- The items of an array. -/
def array? : Json → Option (List Json)
  | array items => some items
  | _ => none

end Json

end DryRun
