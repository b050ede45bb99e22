import DryRun.Source.Basic

/-!
# Diagnostics

A diagnostic says what is wrong with one line of a source and how to mend it, and shows the line
between its neighbours.
-/

namespace DryRun

/-- The class of exception that a diagnostic announces. -/
inductive Diagnostic.Kind where
  | syntaxError
  | indentationError
  deriving DecidableEq, Repr

namespace Diagnostic.Kind

/-- The name of the exception. -/
def name : Kind → String
  | syntaxError => "SyntaxError"
  | indentationError => "IndentationError"

/-- The kind of a name. -/
def ofName? (name : String) : Option Kind :=
  if name = "SyntaxError" then some syntaxError
  else if name = "IndentationError" then some indentationError
  else none

end Diagnostic.Kind

/-- A line shown beside a diagnostic. -/
structure SnippetLine where
  number : Nat
  text : String
  isErrorLine : Bool
  deriving DecidableEq, Repr

/-- A number in a column of the given width, at its right end. -/
def inColumn (width n : Nat) : String :=
  let digits := toString n
  String.ofList (List.replicate (width - digits.length) ' ') ++ digits

/-- The line behind its mark and number. -/
def SnippetLine.render (line : SnippetLine) : String :=
  (if line.isErrorLine then ">" else " ") ++ " " ++ inColumn 4 line.number ++ " | " ++ line.text

/-- What is wrong with a line of a source. -/
structure Diagnostic where
  kind : Diagnostic.Kind
  line : Nat
  /-- The column, where the problem is a single character. -/
  column : Option Nat
  message : String
  suggestion : String
  snippet : List SnippetLine
  deriving DecidableEq, Repr

namespace Diagnostic

/-- The line of a number and its two neighbours, as far as the source has them. -/
def snippetOf (source : Source) (line : Nat) : List SnippetLine :=
  (source.numbered.filter fun (_, number) => line ≤ number + 1 && number ≤ line + 1).map
    fun (text, number) => ⟨number, String.ofList text, number == line⟩

/-- The diagnostic of a line of a source. -/
def ofLine (source : Source) (kind : Kind) (line : Nat) (message suggestion : String) :
    Diagnostic :=
  { kind, line, column := none, message, suggestion, snippet := snippetOf source line }

/-! ## Report -/

/-- The diagnostic as a block of lines: the snippet, the message, and the suggestion if any. -/
def render (diagnostic : Diagnostic) : String :=
  String.join (diagnostic.snippet.map fun line => line.render ++ "\n") ++
    diagnostic.kind.name ++ ": " ++ diagnostic.message ++
    " (line " ++ toString diagnostic.line ++ ")\n" ++
    (if diagnostic.suggestion.isEmpty then "" else "Suggestion: " ++ diagnostic.suggestion)

end Diagnostic

end DryRun
