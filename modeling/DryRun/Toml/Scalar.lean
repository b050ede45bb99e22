import DryRun.Number.Reading
import DryRun.Toml.Basic
import DryRun.Text.Pattern

/-!
# Scalars of TOML

Strings of all four styles, integers in four bases, floats, truth values, dates and times.
-/

namespace DryRun

namespace Toml

/-! ## Strings -/

/-- A style of strings. -/
structure Style where
  quote : Char
  /-- Whether a backslash escapes. -/
  escapes : Bool
  /-- Whether the string stands between three quotes and may hold line breaks. -/
  spansLines : Bool

/-- Where a reader stands in a string. -/
inductive Place where
  | plain
  /-- Behind some quotes in a row, in a string between three. -/
  | quotes (count : Nat)
  /-- Behind a carriage return, which a line break has to follow; it belongs to the string unless
  a backslash takes it away. -/
  | carriage (takenAway : Bool)
  /-- Behind a backslash. -/
  | escape
  /-- Within the digits of an escape, with one more to come than `left` and the value so far. -/
  | digits (left value : Nat)
  /-- Behind a backslash and blanks, which the line has to end with. -/
  | gap
  /-- Among the blanks and line breaks that such a backslash takes away. -/
  | skip
  deriving DecidableEq, Repr

/-- What a character means in a string. -/
inductive Step where
  /-- It closes the string. -/
  | close
  /-- It shows some text and leads to a place. -/
  | go (shown : Text) (place : Place)
  | refuse

/-- Whether a character may stand in strings and comments. -/
def isAllowed (c : Char) : Bool := c == '\t' || (0x20 ≤ c.toNat && c.toNat != 0x7F)

/-- What a character means where nothing is pending. -/
def stepPlain (style : Style) (c : Char) : Step :=
  if c = style.quote then (if style.spansLines then .go [] (.quotes 1) else .close)
  else if c = '\\' && style.escapes then .go [] .escape
  else if c = '\n' && style.spansLines then .go ['\n'] .plain
  else if c = '\r' && style.spansLines then .go [] (.carriage false)
  else if isAllowed c then .go [c] .plain
  else .refuse

/-- What a character means behind a backslash. -/
def stepEscape (style : Style) (c : Char) : Step :=
  match c with
  | '"' | '\\' => .go [c] .plain
  | 'b' => .go ['\x08'] .plain
  | 'f' => .go ['\x0c'] .plain
  | 'n' => .go ['\n'] .plain
  | 'r' => .go ['\r'] .plain
  | 't' => .go ['\t'] .plain
  | 'u' => .go [] (.digits 3 0)
  | 'U' => .go [] (.digits 7 0)
  | '\n' => if style.spansLines then .go [] .skip else .refuse
  | '\r' => if style.spansLines then .go [] (.carriage true) else .refuse
  | ' ' | '\t' => if style.spansLines then .go [] .gap else .refuse
  | _ => .refuse

/-- What a character means among the digits of an escape. -/
def stepDigit (left value : Nat) (c : Char) : Step :=
  match digitIn? 16 c, left with
  | none, _ => .refuse
  | some d, left + 1 => .go [] (.digits left (value * 16 + d))
  | some d, 0 =>
    match charOf? (value * 16 + d) with
    | some c => .go [c] .plain
    | none => .refuse

/-- What a character means behind a backslash and blanks. -/
def stepGap (c : Char) : Step :=
  match c with
  | ' ' | '\t' => .go [] .gap
  | '\n' => .go [] .skip
  | '\r' => .go [] (.carriage true)
  | _ => .refuse

/-- What a character means where a backslash takes blanks and line breaks away. -/
def stepSkip (style : Style) (c : Char) : Step :=
  match c with
  | ' ' | '\t' | '\n' => .go [] .skip
  | '\r' => .go [] (.carriage true)
  | _ => stepPlain style c

/-- What a character means at a place in a string. -/
def stepAt (style : Style) (c : Char) : Place → Step
  | .plain | .quotes _ => stepPlain style c
  | .carriage takenAway =>
    if c ≠ '\n' then .refuse else if takenAway then .go [] .skip else .go ['\n'] .plain
  | .escape => stepEscape style c
  | .digits left value => stepDigit left value c
  | .gap => stepGap c
  | .skip => stepSkip style c

/-- Text in front of what has been read. -/
def andText (shown : Text) (found : Option (Text × Text)) : Option (Text × Text) :=
  found.map fun (text, behind) => (shown ++ text, behind)

/-- The text of a string from a place on, and what follows it. Of more than three quotes in a row
that close a string the first ones, up to two, belong to it. -/
def stringFrom (style : Style) (place : Place) : Text → Option (Text × Text)
  | [] =>
    match place with
    | .quotes (extra + 3) => some (List.replicate extra style.quote, [])
    | _ => none
  | c :: rest =>
    match place with
    | .quotes count =>
      if c = style.quote then
        if count < 4 then stringFrom style (.quotes (count + 1)) rest
        else some ([style.quote, style.quote], rest)
      else if 3 ≤ count then some (List.replicate (count - 3) style.quote, c :: rest)
      else
        match stepAt style c place with
        | .close => some ([], rest)
        | .go shown next =>
          andText (List.replicate count style.quote ++ shown) (stringFrom style next rest)
        | .refuse => none
    | _ =>
      match stepAt style c place with
      | .close => some ([], rest)
      | .go shown next => andText shown (stringFrom style next rest)
      | .refuse => none

/-- A text without the line break that it may begin with. -/
def dropBreak : Text → Text
  | '\n' :: rest | '\r' :: '\n' :: rest => rest
  | rest => rest

/-- A string on one line. -/
def shortString : Pattern Text
  | c :: rest =>
    if c = '"' then stringFrom ⟨c, true, false⟩ .plain rest
    else if c = '\'' then stringFrom ⟨c, false, false⟩ .plain rest
    else none
  | [] => none

/-- A string. -/
def anyString : Pattern Text
  | '"' :: '"' :: '"' :: rest => stringFrom ⟨'"', true, true⟩ .plain (dropBreak rest)
  | '\'' :: '\'' :: '\'' :: rest => stringFrom ⟨'\'', false, true⟩ .plain (dropBreak rest)
  | rest => shortString rest

/-! ## Numbers -/

/-- The digits of a number whose groups are divided by single underscores. -/
def ungrouped? (isDigit : Char → Bool) (text : Text) : Option Text :=
  let groups := Text.pieces (· == '_') text
  if groups.all fun group => !group.isEmpty && group.all isDigit then some groups.flatten else none

/-- The digits of a decimal number that begins with no useless zero. -/
def wholeDigits? (text : Text) : Option Text :=
  (ungrouped? Char.isDigit text).filter fun digits => digits.length = 1 || digits.head? != some '0'

/-- The value of digits in a base, in groups or not. -/
def valueIn? (base : Nat) (text : Text) : Option Int := do
  let digits ← ungrouped? (fun c => (digitIn? base c).isSome) text
  return ← digitsIn? base digits

/-- The integer of a lexeme. -/
def integerOf? (lexeme : Text) : Option Int :=
  let value? : Option Int :=
    match lexeme with
    | '0' :: 'x' :: digits => valueIn? 16 digits
    | '0' :: 'o' :: digits => valueIn? 8 digits
    | '0' :: 'b' :: digits => valueIn? 2 digits
    | _ =>
      let (negative, digits) := splitSign lexeme
      (wholeDigits? digits).map fun digits =>
        if negative then -(digitsValue digits : Int) else digitsValue digits
  value?.filter inWord

/-- Whether a text is a fraction behind its point, an exponent behind its letter, or both. -/
def isFraction (mark : Char) (text : Text) : Bool :=
  let (places, exponent?) :=
    match Text.splitFirst? (fun c => c == 'e' || c == 'E') text with
    | some (places, exponent) => (places, some exponent)
    | none => (text, none)
  let isPart (digits : Text) : Bool := (ungrouped? Char.isDigit digits).isSome
  (if mark = '.' then isPart places else places.isEmpty && exponent?.isSome) &&
    exponent?.all fun exponent => isPart (splitSign exponent).2

/-- The float of a lexeme; positive numbers beyond all floats have none. -/
def floatOf? (lexeme : Text) : Option Float :=
  let (negative, size) := splitSign lexeme
  if size = "inf".toList ∨ size = "nan".toList then readFloat? lexeme
  else
    let whole := size.takeWhile fun c => c != '.' && c != 'e' && c != 'E'
    let fraction := size.drop whole.length
    let rest := if fraction.head? = some '.' then fraction.drop 1 else fraction
    if (wholeDigits? whole).isSome && fraction.head?.any fun c => isFraction c rest then
      (readFloat? (lexeme.filter (· != '_'))).filter fun x => negative || !x.isInf
    else none

/-! ## Dates and times -/

/-- A number of the given count of digits, within bounds. -/
def fixedNumber (count low high : Nat) : Pattern Nat := do
  let digits ← (List.range count).mapM fun _ => Pattern.charOf Char.isDigit
  let n := digitsValue digits
  Pattern.require (low ≤ n && n ≤ high)
  return n

/-- The number of days of a month. -/
def daysOf (year month : Nat) : Nat :=
  if month = 2 then
    if year % 4 = 0 ∧ (year % 100 ≠ 0 ∨ year % 400 = 0) then 29 else 28
  else if month = 4 ∨ month = 6 ∨ month = 9 ∨ month = 11 then 30
  else 31

/-- A date. -/
def date : Pattern Unit := do
  let year ← fixedNumber 4 0 9999
  Pattern.word "-"
  let month ← fixedNumber 2 1 12
  Pattern.word "-"
  let _ ← fixedNumber 2 1 (daysOf year month)

/-- A time of day. -/
def time : Pattern Unit := do
  let _ ← fixedNumber 2 0 23
  Pattern.word ":"
  let _ ← fixedNumber 2 0 59
  Pattern.word ":"
  let _ ← fixedNumber 2 0 60
  let _ ← Pattern.optional do
    Pattern.word "."
    Pattern.run1 Char.isDigit

/-- An offset from universal time. -/
def offset : Pattern Unit :=
  Pattern.either (do let _ ← Pattern.charOf fun c => c == 'Z' || c == 'z') do
    let _ ← Pattern.charOf fun c => c == '+' || c == '-'
    let _ ← fixedNumber 2 0 23
    Pattern.word ":"
    let _ ← fixedNumber 2 0 59

/-- A date, a time, or both. -/
def momentPattern : Pattern Unit :=
  Pattern.either
    (do
      date
      let _ ← Pattern.optional do
        let _ ← Pattern.charOf fun c => c == 'T' || c == 't' || c == ' '
        time
        Pattern.optional offset)
    time

/-! ## Lexemes -/

/-- Whether a character may stand in a scalar without quotes. -/
def inLexeme (c : Char) : Bool :=
  c.isAlphanum || c == '_' || c == '+' || c == '-' || c == '.' || c == ':'

/-- The value of a scalar without quotes. -/
def ofLexeme? (lexeme : Text) : Option Toml :=
  if lexeme = "true".toList then some (.boolean true)
  else if lexeme = "false".toList then some (.boolean false)
  else ((integerOf? lexeme).map .integer).or ((floatOf? lexeme).map .float)

/-- A scalar without quotes. -/
def bareScalar : Pattern Toml := fun text =>
  match momentPattern text with
  | some (_, behind) => if behind.head?.any inLexeme then none else some (.moment, behind)
  | none => (ofLexeme? (text.takeWhile inLexeme)).map (·, text.dropWhile inLexeme)

end Toml

end DryRun
