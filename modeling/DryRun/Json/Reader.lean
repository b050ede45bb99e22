import DryRun.Json.Assembly
import DryRun.Json.Quoted
import DryRun.Text.Pattern

/-!
# Reading JSON

The tokens of strict JSON, and the value of a text that is one value and nothing else but blanks.
-/

namespace DryRun

namespace Json

/-! ## Strings -/

/-- What a character behind a backslash stands for. -/
def strictEscape : Char → Escape
  | '"' => .char '"'
  | '\\' => .char '\\'
  | '/' => .char '/'
  | 'b' => .char '\x08'
  | 'f' => .char '\x0c'
  | 'n' => .char '\n'
  | 'r' => .char '\r'
  | 't' => .char '\t'
  | 'u' => .digits 3
  | _ => .refused

/-- Strings stand between double quotes and hold no control characters. -/
def strictQuoting : Quoting where
  closer := '"'
  forbids c := c.toNat < 0x20
  escape := strictEscape

/-! ## Numbers -/

/-- A sign or nothing, of the given signs. -/
def signOf (signs : List Char) : Pattern Text := do
  return (← Pattern.optional (Pattern.charOf signs.contains)).toList

/-- The digits before the point: one zero, or digits that begin with another one. -/
def wholeDigits : Pattern Text :=
  Pattern.either (do return [← Pattern.charOf (· == '0')]) (Pattern.run1 Char.isDigit)

/-- A point and the digits behind it. -/
def pointAndDigits : Pattern Text := do
  Pattern.word "."
  return '.' :: (← Pattern.run1 Char.isDigit)

/-- An exponent with its letter. -/
def exponentPart : Pattern Text := do
  let letter ← Pattern.charOf fun c => c == 'e' || c == 'E'
  let sign ← signOf ['+', '-']
  return letter :: sign ++ (← Pattern.run1 Char.isDigit)

/-- A number as it is written. -/
def numberLexeme : Pattern Text := do
  let sign ← signOf ['-']
  let whole ← wholeDigits
  let point ← Pattern.optional pointAndDigits
  let exponent ← Pattern.optional exponentPart
  return sign ++ whole ++ point.getD [] ++ exponent.getD []

/-! ## Tokens -/

/-- The blanks of JSON. -/
def isSpace (c : Char) : Bool := c == ' ' || c == '\t' || c == '\n' || c == '\r'

/-- The token that a character is. -/
def punctuation? : Char → Option Token
  | '[' => some .openArray
  | ']' => some .closeArray
  | '{' => some .openObject
  | '}' => some .closeObject
  | ',' => some .comma
  | ':' => some .colon
  | _ => none

/-- The value of a word. -/
def constant? (name : Text) : Option Json :=
  if name = "null".toList then some .null
  else if name = "true".toList then some (.bool true)
  else if name = "false".toList then some (.bool false)
  else none

/-- A token, and the rest behind it and the blanks that follow. -/
def readToken : Pattern Token
  | [] => none
  | c :: rest =>
    if c = '"' then
      (quoted? strictQuoting rest).map fun (value, behind) => (.scalar value, behind)
    else
      match punctuation? c with
      | some token => some (token, rest)
      | none =>
        if c.isAlpha then
          (constant? ((c :: rest).takeWhile Char.isAlpha)).map fun value =>
            (.scalar value, (c :: rest).dropWhile Char.isAlpha)
        else
          (numberLexeme (c :: rest)).map fun (lexeme, behind) => (.scalar (.number lexeme), behind)

/-- The value of a text of strict JSON. -/
def read? (text : Text) : Option Json :=
  let spaces : Pattern Unit := fun text => some ((), text.dropWhile isSpace)
  (Pattern.readAll (readToken <* spaces) (text.dropWhile isSpace)).bind
    (assemble { trailingComma := false, constant? := fun _ => none })

end Json

end DryRun
