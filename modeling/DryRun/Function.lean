import DryRun.Source.Basic
import DryRun.Text.Pattern

/-!
# Functions

The functions that a source defines: the header `def name(parameters):` and the lines below it that
are blank or indented deeper. Of several definitions of a name the last holds.
-/

namespace DryRun

open Unicode

/-- A parameter of a function, with the text of its default if it has one. -/
structure Parameter where
  name : Text
  default : Option Text
  deriving DecidableEq, Repr

/-- A function: its parameters and the lines of its body. -/
structure Function where
  name : Text
  parameters : List Parameter
  body : List Text
  deriving DecidableEq, Repr

/-- Functions, the latest definition of a name first. -/
abbrev Functions := List Function

namespace Functions

/-- The function of a name. -/
def find? (functions : Functions) (name : Text) : Option Function :=
  List.find? (fun function => function.name == name) functions

end Functions

/-! ## Headers -/

/-- The name of a variable or function. -/
def identifier : Pattern Text := do
  let first ← Pattern.charOf isNameStart
  let others ← Pattern.run isWord
  return first :: others

namespace Function

/-- The header of a definition. -/
structure Header where
  name : Text
  /-- What stands between the parentheses. -/
  parameters : Text
  deriving DecidableEq, Repr

/-- The type that a header may announce, up to its colon. -/
def announcedType : Pattern Text := do
  Pattern.word "->"
  Pattern.run (· != ':')

/-- The header that a text begins with. -/
def header : Pattern Header := do
  Pattern.word "def"
  Pattern.blanks1
  let name ← identifier
  Pattern.blanks
  Pattern.word "("
  let parameters ← Pattern.run (· != ')')
  Pattern.word ")"
  Pattern.blanks
  let _ ← Pattern.optional announcedType
  Pattern.word ":"
  return { name, parameters }

/-- The header in a line, at its margin or not. -/
def header? (line : Text) : Option Header := (header (Text.trim line)).map (·.1)

/-- A parameter: a name, an annotation behind a colon, and a default behind an equals sign. -/
def parameter? (text : Text) : Option Parameter :=
  let (declared, default) :=
    match Text.splitFirst? (· == '=') text with
    | some (declared, default) => (declared, some (Text.trim default))
    | none => (text, none)
  let name := Text.trim (declared.takeWhile (· != ':'))
  if name.isEmpty then none else some { name, default }

/-- The parameters between the parentheses of a header. -/
def parametersOf (text : Text) : List Parameter :=
  (Text.pieces (· == ',') text).filterMap parameter?

/-! ## Definitions -/

/-- Whether a line belongs to the body of a definition of the given indentation. -/
def inBody (indent : Nat) (line : Text) : Bool :=
  Text.isBlankText line || indent < Text.indentation line

/-- The function that a line defines, given the lines behind it. -/
def ofLines? (line : Text) (later : List Text) : Option Function :=
  (header? line).map fun header =>
    { name := header.name
      parameters := parametersOf header.parameters
      body := later.takeWhile (inBody (Text.indentation line)) }

/-- The functions that consecutive lines define, behind those given before them. -/
def collect (earlier : Functions) : List Text → Functions
  | [] => earlier
  | line :: later => collect ((ofLines? line later).toList ++ earlier) later

/-- The functions that a source defines. -/
def ofSource (source : Source) : Functions := collect [] source.lines

end Function

end DryRun
