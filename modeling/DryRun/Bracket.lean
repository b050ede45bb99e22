import DryRun.Diagnostic
import DryRun.Source.Scan

/-!
# Brackets

The brackets that stand in the code of a source, and whether they nest. `Bracket.check` reads them
in order with the stack of openers still open: the first closer that does not fit is a fault, and
else the innermost opener left at the end.
-/

namespace DryRun

/-- The kinds of brackets. -/
inductive Bracket where
  | round
  | square
  | curly
  deriving DecidableEq, Repr

namespace Bracket

/-- The kinds in the order in which they are counted. -/
def all : List Bracket := [round, square, curly]

/-- The opening bracket of a kind. -/
def opener : Bracket → Char
  | round => '('
  | square => '['
  | curly => '{'

/-- The closing bracket of a kind. -/
def closer : Bracket → Char
  | round => ')'
  | square => ']'
  | curly => '}'

/-- What a bracket of the kind is called. -/
def name : Bracket → String
  | round => "parenthesis"
  | square => "bracket"
  | curly => "brace"

/-- What several brackets of the kind are called. -/
def pluralName : Bracket → String
  | round => "parentheses"
  | square => "brackets"
  | curly => "braces"

/-- How many more openers than closers of the kind the code of a line has. -/
def netDepth (bracket : Bracket) (scan : LineScan) : Int :=
  scan.netDepth bracket.opener bracket.closer

/-! ## Marks -/

/-- Whether a bracket opens or closes. -/
inductive Side where
  | opens
  | closes
  deriving DecidableEq, Repr

/-- The bracket that a character stands for, and its side. -/
def ofChar? (c : Char) : Option (Side × Bracket) :=
  match all.find? (·.opener == c), all.find? (·.closer == c) with
  | some bracket, _ => some (.opens, bracket)
  | none, some bracket => some (.closes, bracket)
  | none, none => none

/-- A place in a source, by line and column from one. -/
structure Position where
  line : Nat
  column : Nat
  deriving DecidableEq, Repr

/-- A bracket in the code of a source. -/
structure Mark where
  side : Side
  bracket : Bracket
  position : Position
  deriving DecidableEq, Repr

/-- The brackets in the code of one line. -/
def marksOfLine (scan : LineScan) (line : Nat) : List Mark :=
  (scan.code.zipIdx 1).filterMap fun (c, column) =>
    (ofChar? c).map fun (side, bracket) => ⟨side, bracket, ⟨line, column⟩⟩

/-- The brackets in the code of a source, in reading order. -/
def marks (source : Source) : List Mark :=
  (source.scans.zipIdx 1).flatMap fun (scan, line) => marksOfLine scan line

/-! ## Faults -/

/-- An opener that waits for its closer. -/
structure Opener where
  bracket : Bracket
  position : Position
  deriving DecidableEq, Repr

/-- Why the brackets of a source do not nest. -/
inductive Fault where
  /-- A closer where nothing is open. -/
  | unexpectedCloser (bracket : Bracket) (position : Position)
  /-- A closer of another kind than the innermost opener. -/
  | mismatchedCloser (bracket : Bracket) (position : Position) (opener : Opener)
  /-- An opener that nothing closes. -/
  | unclosedOpener (opener : Opener)
  deriving DecidableEq, Repr

namespace Fault

/-- The place of the bracket at fault. -/
def position : Fault → Position
  | unexpectedCloser _ position | mismatchedCloser _ position _ => position
  | unclosedOpener opener => opener.position

/-- A character between single quotes. -/
def quoted (c : Char) : String := "'" ++ String.ofList [c] ++ "'"

/-- What the fault is. -/
def message : Fault → String
  | unexpectedCloser bracket _ => "unmatched " ++ quoted bracket.closer
  | mismatchedCloser bracket position opener =>
    "closing " ++ bracket.name ++ " " ++ quoted bracket.closer ++ " does not match opening " ++
      opener.bracket.name ++ " " ++ quoted opener.bracket.opener ++
      (if opener.position.line = position.line then ""
      else " on line " ++ toString opener.position.line)
  | unclosedOpener opener => quoted opener.bracket.opener ++ " was never closed"

/-- How to mend the fault. -/
def suggestion : Fault → String
  | unexpectedCloser .. =>
    "Remove the extra closing bracket or add the matching opening bracket before it"
  | mismatchedCloser .. => "Make sure every opening bracket is closed by the same kind of bracket"
  | unclosedOpener .. => "Add the missing closing bracket"

/-- The fault as a diagnostic of its line, with the column of the bracket. -/
def toDiagnostic (source : Source) (fault : Fault) : Diagnostic :=
  { Diagnostic.ofLine source .syntaxError fault.position.line fault.message fault.suggestion with
    column := some fault.position.column }

end Fault

/-! ## The check -/

/-- The first fault of brackets read with a stack of openers, innermost first. -/
def checkFrom : List Opener → List Mark → Option Fault
  | [], [] => none
  | opener :: _, [] => some (.unclosedOpener opener)
  | stack, ⟨.opens, bracket, position⟩ :: rest => checkFrom (⟨bracket, position⟩ :: stack) rest
  | [], ⟨.closes, bracket, position⟩ :: _ => some (.unexpectedCloser bracket position)
  | opener :: stack, ⟨.closes, bracket, position⟩ :: rest =>
    if opener.bracket = bracket then checkFrom stack rest
    else some (.mismatchedCloser bracket position opener)

/-- The first fault of the brackets of a source. -/
def check (source : Source) : Option Fault := checkFrom [] (marks source)

end Bracket

end DryRun
