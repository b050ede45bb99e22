import DryRun.Source.Scan
import DryRun.Text.Pattern

/-!
# Loops without end

A loop whose header is always true ends only by a `break` in its body. The body of a header with
nothing behind its colon is the lines indented deeper, up to the first that is not; blank lines and
comments belong to it wherever they stand.
-/

namespace DryRun

open Unicode

namespace Loop

/-! ## Headers -/

/-- A condition that is always true, in parentheses or not. -/
def trueCondition : Pattern Unit :=
  let bare := Pattern.either (Pattern.word "True") (Pattern.word "1")
  Pattern.either bare do
    Pattern.word "("
    Pattern.blanks
    bare
    Pattern.blanks
    Pattern.word ")"

/-- A colon behind blanks, and what follows it. -/
def colonAndBody : Pattern Text := do
  Pattern.blanks
  Pattern.word ":"
  Pattern.remainder

/-- The header of a `while` loop that is always true, and what follows its colon. -/
def whileHeader : Pattern Text := do
  Pattern.word "while"
  Pattern.blanks
  trueCondition
  colonAndBody

/-- The beginning of a `for` loop over an endless cycle. -/
def cycleStart : Pattern Unit := do
  Pattern.word "for"
  Pattern.blanks1
  let _ ← Pattern.run1 isWord
  Pattern.blanks1
  Pattern.word "in"
  Pattern.blanks1
  let _ ← Pattern.optional (Pattern.word "itertools.")
  Pattern.word "cycle("

/-- What follows the colon behind the last closing parenthesis that has one. -/
def lastColon? : Text → Option Text
  | [] => none
  | c :: rest =>
    match lastColon? rest with
    | some body => some body
    | none => if c = ')' then (colonAndBody rest).map (·.1) else none

/-- The header of a `for` loop over an endless cycle, and what follows its colon. -/
def cycleHeader : Pattern Text := do
  cycleStart
  let rest ← Pattern.remainder
  (lastColon? rest : Option Text)

/-- What follows the colon of a header that is always true. -/
def inlineBody? (header : Text) : Option Text :=
  Pattern.whole? (Pattern.either whileHeader cycleHeader) header

/-! ## Bodies -/

/-- Whether a line has a `break` in its code. -/
def hasBreak (line : Text) : Bool :=
  (Text.pieces (!isWord ·) (scanLine none line).code).contains "break".toList

/-- Whether the lines behind a header of the given indentation hold a `break` in its body. -/
def bodyBreaks (indent : Nat) : List Text → Bool
  | [] => false
  | line :: rest =>
    let shown := Text.trim line
    if shown.isEmpty || shown.head? = some '#' then bodyBreaks indent rest
    else if Text.indentation line ≤ indent then false
    else hasBreak line || bodyBreaks indent rest

/-! ## The scan -/

/-- A loop without end: its header and the line of it. -/
structure Finding where
  header : Text
  line : Nat
  deriving DecidableEq, Repr

/-- What is said about the loop. -/
def Finding.message (finding : Finding) : String :=
  "TimeoutError: infinite loop detected on line " ++ toString finding.line ++ ": '" ++
    String.ofList finding.header ++ "' never ends because its body has no 'break' statement"

/-- The header of a loop without end in a line, given the lines behind it. -/
def endless? (line : Text) (later : List Text) : Option Text :=
  let header := Text.trim (stripComment line)
  match inlineBody? header with
  | none => none
  | some body =>
    let inline := Text.trim body
    let exits :=
      if inline.isEmpty then bodyBreaks (Text.indentation line) later else hasBreak inline
    if exits then none else some header

/-- The first loop without end in consecutive lines, numbered from the given number on. -/
def checkFrom (number : Nat) : List Text → Option Finding
  | [] => none
  | line :: rest =>
    match endless? line rest with
    | some header => some ⟨header, number⟩
    | none => checkFrom (number + 1) rest

/-- The first loop without end in a source. -/
def check (source : Source) : Option Finding := checkFrom 1 source.lines

end Loop

end DryRun
