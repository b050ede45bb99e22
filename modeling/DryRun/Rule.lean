import DryRun.Bracket
import DryRun.Text.Pattern

/-!
# Rules for lines

The catalog of rules that catch common slips line by line. A rule looks at a line in its
surroundings (`Site`) and gives its advice or declines; the first line with advice is reported, by
the first rule in the order of `Rule.catalog` that has any.

1. Sites: the lines of a source with what precedes and follows them.
2. What the rules look for in the text of a line.
3. The rules and the check of a source.
-/

namespace DryRun

open Unicode

/-! ## Sites -/

/-- A line of a source in its surroundings. -/
structure Site where
  source : Source
  number : Nat
  raw : Text
  scan : LineScan
  /-- The scans of the lines that follow. -/
  later : List LineScan
  /-- How many brackets are open before the line. -/
  depthBefore : Nat

namespace Site

/-- The number of open brackets behind a line, never less than none. -/
def depthAfter (depth : Nat) (scan : LineScan) : Nat :=
  ((depth : Int) + Bracket.round.netDepth scan + Bracket.square.netDepth scan +
    Bracket.curly.netDepth scan).toNat

/-- The sites of consecutive lines with their scans. -/
def listFrom (source : Source) (number depth : Nat) : List Text → List LineScan → List Site
  | raw :: lines, scan :: scans =>
    { source, number, raw, scan, later := scans, depthBefore := depth } ::
      listFrom source (number + 1) (depthAfter depth scan) lines scans
  | _, _ => []

/-- The sites of a source, one for each line. -/
def list (source : Source) : List Site := listFrom source 1 0 source.lines source.scans

/-- The code of the line, without margins. -/
def code (site : Site) : Text := Text.trim site.scan.code

/-- The line without its comment and margins. -/
def text (site : Site) : Text := Text.trim (stripComment site.raw)

/-- The lines before. -/
def earlier (site : Site) : List Text := site.source.lines.take (site.number - 1)

/-- Whether the line is neither blank, nor a comment, nor begun inside a string. -/
def isCode (site : Site) : Bool :=
  let shown := Text.trim site.raw
  !site.scan.continuesString && !shown.isEmpty && shown.head? != some '#'

/-- Whether following lines bring a depth back to none. -/
def closesWithin (bracket : Bracket) (depth : Int) : List LineScan → Bool
  | [] => depth ≤ 0
  | scan :: rest => depth ≤ 0 || closesWithin bracket (depth + bracket.netDepth scan) rest

/-- Whether what the line leaves open of a kind is closed by the lines that follow. -/
def closesLater (site : Site) (bracket : Bracket) : Bool :=
  closesWithin bracket (bracket.netDepth site.scan) site.later

end Site

/-! ## What the rules look for -/

namespace Rule

/-- The word that a text begins with. -/
def leadingWord (text : Text) : Text := text.takeWhile isWord

/-- Whether a text begins with one of some words, and the word ends there. -/
def leadingWordIn (words : List String) (text : Text) : Bool :=
  words.any (leadingWord text == ·.toList)

/-- What follows the word that a text begins with. -/
def afterWord (text : Text) : Text := text.dropWhile isWord

/-- Whether a text begins with a single equals sign, behind blanks or not. -/
def assigns (text : Text) : Bool :=
  match Text.trimStart text with
  | '=' :: rest => rest.head? != some '='
  | _ => false

/-- The words that open a block. -/
def blockWords : List String := ["if", "elif", "else", "while", "for", "def", "class"]

/-- The words that open a condition. -/
def conditionWords : List String := ["if", "elif", "while"]

/-- The words that may stand between two operands without a comma. -/
def joiningWords : List String :=
  ["for", "in", "if", "else", "not", "and", "or", "is", "lambda", "async", "await"]

/-- The constants, which nothing can be assigned to. -/
def constantWords : List String := ["True", "False", "None"]

/-- The reserved words. -/
def reservedWords : List String :=
  ["False", "None", "True", "and", "as", "assert", "async", "await", "break", "class", "continue",
   "def", "del", "elif", "else", "except", "finally", "for", "from", "global", "if", "import",
   "in", "is", "lambda", "nonlocal", "not", "or", "pass", "raise", "return", "try", "while",
   "with", "yield"]

/-! ### Quotes -/

/-- The text without three quotes in a row, taken from the left. -/
def dropTriples (quote : Quote) : Text → Text
  | a :: b :: c :: rest =>
    if a = quote.char && b = quote.char && c = quote.char then dropTriples quote rest
    else a :: dropTriples quote (b :: c :: rest)
  | rest => rest
  termination_by text => text.length

/-- The number of quotes without a backslash before them. -/
def countUnescaped (quote : Quote) : Text → Nat
  | '\\' :: _ :: rest => countUnescaped quote rest
  | c :: rest => (if c = quote.char then 1 else 0) + countUnescaped quote rest
  | [] => 0

/-- Whether the quotes of one kind fail to pair up; quotes of the other kind do not shield them. -/
def hasOddQuotes (quote : Quote) (text : Text) : Bool :=
  countUnescaped quote (dropTriples quote text) % 2 == 1

/-! ### Assignments in conditions -/

/-- The characters that make another operator with an equals sign behind them. -/
def combinesWithEquals (c : Char) : Bool := "!<>:=+-*/%&|^".toList.contains c

/-- The place of the first single equals sign outside brackets; `before` is the character in front
of the text and `index` the place of its first character. -/
def findBareAssign (before : Char) (depth : Int) (index : Nat) : Text → Option Nat
  | '=' :: '=' :: rest => findBareAssign '=' depth (index + 2) rest
  | c :: rest =>
    if c = '=' && depth ≤ 0 && !combinesWithEquals before then some index
    else
      match Bracket.ofChar? c with
      | some (.opens, _) => findBareAssign c (depth + 1) (index + 1) rest
      | some (.closes, _) => findBareAssign c (depth - 1) (index + 1) rest
      | none => findBareAssign c depth (index + 1) rest
  | [] => none

/-- The place of a single equals sign in the condition that a line of code opens. -/
def bareAssign? (code : Text) : Option Nat :=
  let start := Text.indentation code + (leadingWord (Text.trimStart code)).length
  findBareAssign ((code.take start).getLast?.getD ' ') 0 start (code.drop start)

/-- The text with the equals sign at a place doubled. -/
def doubleEquals (text : Text) (place : Nat) : Text :=
  text.take place ++ (if place < text.length then ['=', '='] else []) ++ text.drop (place + 1)

/-! ### Missing commas -/

/-- The contents of brackets that hold no further brackets of their kind. -/
def container (bracket : Bracket) : Pattern Text := do
  let _ ← Pattern.charOf (· == bracket.opener)
  let contents ← Pattern.run fun c => c != bracket.opener && c != bracket.closer
  let _ ← Pattern.charOf (· == bracket.closer)
  return contents

/-- The contents of the square and curly brackets of a text. -/
def containers (text : Text) : List Text :=
  Pattern.findAll (fun _ => Pattern.either (container .square) (container .curly)) text

/-- Whether a character belongs to an operand, given the brackets that do. -/
def inOperand (brackets : List Char) (c : Char) : Bool :=
  isAlphanumeric c || c == '_' || c == '\'' || c == '"' || brackets.contains c

/-- Whether a word may end an operand. -/
def endsOperand (word : Text) : Bool :=
  !joiningWords.any (word == ·.toList) && word.getLast?.any (inOperand [')', ']'])

/-- Whether a word may begin an operand. -/
def beginsOperand (word : Text) : Bool :=
  !joiningWords.any (word == ·.toList) && word.head?.any (inOperand ['(', '['])

/-- The first two neighbouring words of which one ends and the next begins an operand. -/
def touchingOperands? : List Text → Option (Text × Text)
  | left :: right :: rest =>
    if endsOperand left && beginsOperand right then some (left, right)
    else touchingOperands? (right :: rest)
  | _ => none

/-- The first two operands within brackets that no comma separates. -/
def missingComma? (text : Text) : Option (Text × Text) :=
  (containers text).findSome? fun contents => touchingOperands? (Text.words contents)

/-! ### Definitions and names -/

/-- The name that a line of code defines. -/
def definedName : Pattern Text := do
  Pattern.word "def"
  Pattern.blanks1
  Pattern.run1 isWord

/-- The name that a line of code defines without a parameter list. -/
def bareDefinition? (code : Text) : Option Text :=
  match definedName code with
  | some (name, rest) => if (Text.trimStart rest).head? = some '(' then none else some name
  | none => none

/-- Whether a line begins a definition. -/
def isDefinitionLine (line : Text) : Bool :=
  Pattern.begins (Pattern.word "def" *> Pattern.blanks1) (Text.trimStart line)

/-- Whether a line begins a loop. -/
def isLoopLine (line : Text) : Bool := leadingWordIn ["for", "while"] (Text.trimStart line)

/-- Whether a line of code is a call of `print` without parentheses. -/
def isBarePrint (code : Text) : Bool :=
  Pattern.begins (do
    Pattern.word "print"
    Pattern.blanks1
    Pattern.charOf fun c => !isBlank c && c != '(' && c != '=') code

/-- Whether a word is digits and then a name. -/
def isDigitName (word : Text) : Bool :=
  match word.takeWhile isDigit, word.dropWhile isDigit with
  | _ :: _, c :: _ => isNameStart c
  | _, _ => false

end Rule

/-! ## The rules -/

/-- A rule for lines. -/
inductive Rule where
  | missingColon
  | unclosed (bracket : Bracket)
  | unterminated (quote : Quote)
  | assignmentInCondition
  | barePrint
  | missingComma
  | bareDefinition
  | mixedIndentation
  | returnOutsideFunction
  | jumpOutsideLoop
  | digitName
  | keywordAssignment
  deriving DecidableEq, Repr

/-- What a rule has to say about a line. -/
structure Advice where
  message : String
  suggestion : String
  deriving DecidableEq, Repr

namespace Rule

/-- The rules in the order in which they are tried on a line. -/
def catalog : List Rule :=
  [missingColon, unclosed .round, unterminated .single, unterminated .double, unclosed .square,
   unclosed .curly, assignmentInCondition, barePrint, missingComma, bareDefinition,
   mixedIndentation, returnOutsideFunction, jumpOutsideLoop, digitName, keywordAssignment]

/-- The kind of problem that a rule reports. -/
def kind : Rule → Diagnostic.Kind
  | mixedIndentation => .indentationError
  | _ => .syntaxError

/-- Whether a line of code opens a block without a colon. -/
def lacksColon (code : Text) : Bool :=
  leadingWordIn blockWords code && !assigns (afterWord code) && !code.contains ':'

/-- Whether a statement goes on in the lines around: inside brackets, or behind a backslash. -/
def isContinued (site : Site) : Bool :=
  site.depthBefore > 0 || site.code.getLast? == some '\\' ||
    Bracket.all.any fun bracket => bracket.netDepth site.scan > 0 && site.closesLater bracket

/-- The advice for a line that opens a block without a colon. -/
def missingColonAdvice (site : Site) : Advice where
  message :=
    "expected ':' at the end of the '" ++ String.ofList (leadingWord site.code) ++ "' statement"
  suggestion := "Add a colon at the end of the line: " ++ String.ofList site.text ++ ":"

/-- The advice for a line that leaves brackets open. -/
def unclosedAdvice (bracket : Bracket) (site : Site) : Advice :=
  let missing := bracket.netDepth site.scan
  { message := Bracket.Fault.quoted bracket.opener ++ " was never closed"
    suggestion :=
      "Add " ++ toString missing ++ " closing " ++
        (if missing = 1 then bracket.name else bracket.pluralName) ++ " " ++
        Bracket.Fault.quoted bracket.closer }

/-- The advice for a line with a quote too few. -/
def unterminatedAdvice (quote : Quote) (site : Site) : Advice where
  message := "unterminated string literal (detected at line " ++ toString site.number ++ ")"
  suggestion :=
    "Add a closing " ++ String.ofList [quote.char] ++ " to end the string on the same line"

/-- The advice for a condition with a single equals sign at a place of the line. -/
def assignmentAdvice (site : Site) (place : Nat) : Advice where
  message := "invalid syntax. Maybe you meant '==' or ':=' instead of '='?"
  suggestion :=
    "Use '==' to compare values: " ++
      String.ofList (Text.trim (stripComment (doubleEquals site.raw place)))

/-- The advice for a call of `print` with the given arguments and no parentheses. -/
def barePrintAdvice (arguments : Text) : Advice where
  message := "Missing parentheses in call to 'print'. Did you mean print(...)?"
  suggestion := "In Python 3 print is a function: print(" ++ String.ofList arguments ++ ")"

/-- The advice for two operands without a comma. -/
def missingCommaAdvice (left right : Text) : Advice where
  message := "invalid syntax. Perhaps you forgot a comma?"
  suggestion :=
    "Separate the elements with a comma: " ++ String.ofList left ++ ", " ++ String.ofList right

/-- The advice for a definition without parameter list. -/
def bareDefinitionAdvice (name : Text) : Advice where
  message := "invalid syntax: function definition is missing parentheses"
  suggestion :=
    "Put the parameter list in parentheses, even when empty: def " ++ String.ofList name ++ "():"

/-- The advice for an indentation of both tabs and spaces. -/
def mixedIndentationAdvice : Advice where
  message := "inconsistent use of tabs and spaces in indentation"
  suggestion := "Indent with spaces only (4 per level) and do not mix in tab characters"

/-- The advice for a `return` without a function. -/
def returnAdvice : Advice where
  message := "'return' outside function"
  suggestion := "'return' can only be used inside a function defined with 'def'"

/-- The advice for a jump without a loop. -/
def jumpAdvice (jump : String) : Advice where
  message :=
    if jump = "break" then "'break' outside loop" else "'continue' not properly in loop"
  suggestion := "'" ++ jump ++ "' can only be used inside a 'for' or 'while' loop"

/-- The advice for a name that begins with a digit. -/
def digitNameAdvice (name : Text) : Advice where
  message := "invalid decimal literal"
  suggestion :=
    "Variable names cannot start with a digit. Rename '" ++ String.ofList name ++
      "' to something like '_" ++ String.ofList name ++ "'"

/-- The advice for an assignment to a reserved word. -/
def keywordAdvice (keyword : Text) : Advice where
  message :=
    if constantWords.any (keyword == ·.toList) then "cannot assign to " ++ String.ofList keyword
    else
      "invalid syntax: '" ++ String.ofList keyword ++
        "' is a reserved keyword and cannot be used as a variable name"
  suggestion :=
    "Choose a different variable name, for example '" ++
      String.ofList (keyword.map Char.toLower) ++ "_value'"

/-- The advice of a rule for a line, if it has any. -/
def advice? (site : Site) : Rule → Option Advice
  | missingColon =>
    if lacksColon site.code && !isContinued site then some (missingColonAdvice site) else none
  | unclosed bracket =>
    if bracket.netDepth site.scan > 0 && !site.closesLater bracket then
      some (unclosedAdvice bracket site)
    else none
  | unterminated quote =>
    if hasOddQuotes quote site.text then some (unterminatedAdvice quote site) else none
  | assignmentInCondition =>
    if leadingWordIn conditionWords site.code then
      (bareAssign? site.scan.code).map (assignmentAdvice site)
    else none
  | barePrint =>
    if isBarePrint site.code then
      (Text.after? "print" site.text).map fun arguments => barePrintAdvice (Text.trim arguments)
    else none
  | missingComma =>
    (missingComma? site.text).map fun (left, right) => missingCommaAdvice left right
  | bareDefinition => (bareDefinition? site.code).map bareDefinitionAdvice
  | mixedIndentation =>
    let margin := site.raw.takeWhile isBlank
    if margin.contains ' ' && margin.contains '\t' then some mixedIndentationAdvice else none
  | returnOutsideFunction =>
    if leadingWordIn ["return"] site.raw && !site.earlier.any isDefinitionLine then
      some returnAdvice
    else none
  | jumpOutsideLoop =>
    if (site.code == "break".toList || site.code == "continue".toList) &&
        !site.earlier.any isLoopLine then
      some (jumpAdvice (String.ofList site.code))
    else none
  | digitName =>
    let word := leadingWord site.code
    if isDigitName word && assigns (afterWord site.code) then some (digitNameAdvice word) else none
  | keywordAssignment =>
    if leadingWordIn reservedWords site.code && assigns (afterWord site.code) then
      some (keywordAdvice (leadingWord site.code))
    else none

/-- The diagnostic of a rule for a line, if it has advice. -/
def diagnose (site : Site) (rule : Rule) : Option Diagnostic :=
  (rule.advice? site).map fun advice =>
    Diagnostic.ofLine site.source rule.kind site.number advice.message advice.suggestion

/-- The diagnostic of the first rule that has advice for a line of code. -/
def diagnoseLine (site : Site) : Option Diagnostic :=
  if site.isCode then catalog.findSome? (diagnose site) else none

/-- The diagnostic of the first line that a rule has advice for. -/
def check (source : Source) : Option Diagnostic := (Site.list source).findSome? diagnoseLine

end Rule

end DryRun
