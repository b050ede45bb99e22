import DryRun.Json.Reader
import DryRun.Unicode.Identifier

/-!
# Reading relaxed JSON

JSON as people write it in configuration files: with comments, keys without quotes, strings between
single quotes, a comma behind the last item, and more ways to write numbers.
-/

namespace DryRun

namespace Json

/-! ## Blanks and comments -/

/-- Whether a character ends a line. -/
def endsLine (c : Char) : Bool := c == '\n' || c == '\r' || c == '\u2028' || c == '\u2029'

/-- The blanks between tokens; the byte order mark is one, and U+0085 is none. -/
def isGap (c : Char) : Bool := (Unicode.isBlank c && c != '\u0085') || c == '\uFEFF'

/-- A comment up to the end of its line. -/
def lineComment : Pattern Unit := do
  Pattern.word "//"
  let _ ← Pattern.run (!endsLine ·)

/-- A comment between marks. -/
def blockComment : Pattern Unit := do
  Pattern.word "/*"
  Pattern.seek (fun _ => Pattern.word "*/") none

/-- Blanks and comments. -/
def gap : Pattern Unit := do
  let _ ← Pattern.many (Pattern.either (do let _ ← Pattern.run1 isGap)
    (Pattern.either lineComment blockComment))

/-! ## Strings and words -/

/-- What a character behind a backslash stands for. -/
def relaxedEscape (c : Char) : Escape :=
  match c with
  | 'b' => .char '\x08'
  | 'f' => .char '\x0c'
  | 'n' => .char '\n'
  | 'r' => .char '\r'
  | 't' => .char '\t'
  | 'v' => .char '\x0b'
  | '0' => .char '\x00'
  | 'x' => .digits 1
  | 'u' => .digits 3
  | _ => if c.isDigit then .refused else if endsLine c then .nothing else .char c

/-- Strings end with the quote that they begin with, and do not hold the end of a line. -/
def relaxedQuoting (quote : Char) : Quoting where
  closer := quote
  forbids := endsLine
  escape := relaxedEscape

/-- The number of four hexadecimal digits behind `\u`. -/
def unicodeUnit : Pattern Piece := do
  Pattern.word "\\u"
  let digits ← (List.range 4).mapM fun _ => Pattern.charOf fun c => (digitIn? 16 c).isSome
  return .unit (← (digitsIn? 16 digits : Option Nat))

/-- A character of a word, or an escape in place of one. -/
def wordPiece (inClass : Char → Bool) : Pattern Piece :=
  Pattern.either (do return .char (← Pattern.charOf inClass)) unicodeUnit

/-- A word: an identifier, in which escapes may stand for any characters. -/
def bareWord : Pattern Token := fun text => do
  let pieces : Pattern (List Piece) := do
    let first ← wordPiece Unicode.beginsIdentifier
    let others ← Pattern.many (wordPiece Unicode.continuesIdentifier)
    return first :: others
  let (found, behind) ← pieces text
  return (.word (text.take (text.length - behind.length)) (textOfPieces? found), behind)

/-! ## Numbers -/

/-- A number in hexadecimal. -/
def hexadecimal : Pattern Text := do
  Pattern.word "0"
  let mark ← Pattern.charOf fun c => c == 'x' || c == 'X'
  return '0' :: mark :: (← Pattern.run1 fun c => (digitIn? 16 c).isSome)

/-- A point and the digits behind it, of which there need not be any. -/
def pointAndSomeDigits : Pattern Text := do
  Pattern.word "."
  return '.' :: (← Pattern.run Char.isDigit)

/-- The digits of a decimal number; it may begin or end with its point. -/
def decimalDigitsAndPoint : Pattern Text :=
  Pattern.either
    (do
      let whole ← wholeDigits
      return whole ++ ((← Pattern.optional pointAndSomeDigits).getD []))
    pointAndDigits

/-- A decimal number. -/
def decimal : Pattern Text := do
  let digits ← decimalDigitsAndPoint
  return digits ++ ((← Pattern.optional exponentPart).getD [])

/-- The names of what is no decimal number. -/
def namedNumber : Pattern Text := fun text =>
  ["Infinity", "NaN"].findSome? fun name =>
    (Text.after? name text).map fun behind => (name.toList, behind)

/-- A number as it is written. Names without a sign are words. -/
def relaxedLexeme : Pattern Text := do
  let sign ← signOf ['+', '-']
  let digits := Pattern.either hexadecimal decimal
  return sign ++ (← if sign.isEmpty then digits else Pattern.either digits namedNumber)

/-! ## Values -/

/-- A token. -/
def relaxedToken : Pattern Token
  | [] => none
  | c :: rest =>
    if c = '"' ∨ c = '\'' then
      (quoted? (relaxedQuoting c) rest).map fun (value, behind) => (.scalar value, behind)
    else
      match punctuation? c with
      | some token => some (token, rest)
      | none =>
        Pattern.either (do return .scalar (.number (← relaxedLexeme))) bareWord (c :: rest)

/-- The value that a word stands for. -/
def relaxedConstant? (lexeme : Text) : Option Json :=
  if lexeme = "Infinity".toList ∨ lexeme = "NaN".toList then some (.number lexeme)
  else constant? lexeme

/-- A comma may end a list, and words may be values. -/
def relaxedDialect : Dialect where
  trailingComma := true
  constant? := relaxedConstant?

/-- A text in which a line feed takes the place of a carriage return and a line feed. -/
def joinBreaks : Text → Text
  | [] => []
  | '\r' :: '\n' :: rest => '\n' :: joinBreaks rest
  | c :: rest => c :: joinBreaks rest

/-- The value of a text of relaxed JSON. -/
def readRelaxed? (text : Text) : Option Json := do
  let (_, rest) ← gap (joinBreaks text)
  assemble relaxedDialect (← Pattern.readAll (relaxedToken <* gap) rest)

end Json

end DryRun
