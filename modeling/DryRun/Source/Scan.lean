import DryRun.Source.Basic
import DryRun.Text.Quote

/-!
# Code, strings and comments

Which characters of a line are code, and which stand in a string or a comment. The scanner goes
from character to character and shows each one at its own column: code and quotes as they are, the
contents of strings as spaces, and nothing from the sign of a comment on. A string in triple quotes
may stay open at the end of a line, and the next line then begins inside it.
-/

namespace DryRun

/-! ## The scanner -/

/-- What the next character belongs to. -/
inductive Mode where
  /-- Code, outside strings. -/
  | code
  /-- A string that ends at its quote. -/
  | short (quote : Quote)
  /-- A string that ends at three quotes. -/
  | triple (quote : Quote)
  deriving DecidableEq, Repr

/-- Where the scanner stands between two characters. -/
inductive Stand where
  /-- Nothing is settled about the next character. -/
  | free (mode : Mode)
  /-- The next two characters complete three quotes, after which the mode holds. -/
  | secondQuote (mode : Mode)
  /-- The next character completes three quotes, after which the mode holds. -/
  | thirdQuote (mode : Mode)
  /-- The next character is escaped, in a string of the mode. -/
  | escaped (mode : Mode)
  deriving DecidableEq, Repr

namespace Stand

/-- The mode that holds if the line ends here. -/
def mode : Stand → Mode
  | free mode | secondQuote mode | thirdQuote mode | escaped mode => mode

end Stand

/-- Whether a text begins with two quotes of one kind. -/
def beginsPair (quote : Quote) : Text → Bool
  | c :: d :: _ => c == quote.char && d == quote.char
  | _ => false

/-- What the scanner shows for a character of code and where it then stands; nothing at the sign of
a comment. -/
def readCode (c : Char) (rest : Text) : Option (Char × Stand) :=
  if c = '#' then none
  else
    match Quote.ofChar? c with
    | none => some (c, .free .code)
    | some quote =>
      if beginsPair quote rest then some (c, .secondQuote (.triple quote))
      else some (c, .free (.short quote))

/-- What the scanner shows for a character of a string and where it then stands; `closes` says
whether the string ends here, and `after` where the scanner stands if it does. -/
def readString (mode : Mode) (closes : Bool) (after : Stand) (c : Char) : Char × Stand :=
  if c = '\\' then (' ', .escaped mode)
  else if closes then (c, after)
  else (' ', .free mode)

/-- What the scanner shows for a character and where it then stands; nothing at the sign of a
comment. -/
def Stand.read (c : Char) (rest : Text) : Stand → Option (Char × Stand)
  | free .code => readCode c rest
  | free (.short quote) => some (readString (.short quote) (c == quote.char) (.free .code) c)
  | free (.triple quote) =>
    some (readString (.triple quote) (c == quote.char && beginsPair quote rest)
      (.secondQuote .code) c)
  | secondQuote mode => some (c, .thirdQuote mode)
  | thirdQuote mode => some (c, .free mode)
  | escaped mode => some (' ', .free mode)

/-- What a line shows from a stand on, and the mode at its end. -/
def scanFrom (stand : Stand) : Text → Text × Mode
  | [] => ([], stand.mode)
  | c :: rest =>
    match stand.read c rest with
    | none => ([], .code)
    | some (shown, next) =>
      let (code, mode) := scanFrom next rest
      (shown :: code, mode)

/-! ## Lines -/

/-- The code of one line. -/
structure LineScan where
  /-- The line up to its comment, with spaces for the contents of strings. -/
  code : Text
  /-- The quote of a string in triple quotes that is open at the end of the line. -/
  openTriple : Option Quote
  /-- Whether the line begins inside a string from an earlier line. -/
  continuesString : Bool
  deriving DecidableEq, Repr

namespace LineScan

/-- How many more characters of one kind than of another the code has. -/
def netDepth (scan : LineScan) (opener closer : Char) : Int :=
  (scan.code.count opener : Int) - scan.code.count closer

end LineScan

/-- The mode in which a line begins, given the quote of a string left open before it. -/
def Mode.ofOpen : Option Quote → Mode
  | none => .code
  | some quote => .triple quote

/-- The quote of a string in triple quotes that a mode is inside of. -/
def Mode.triple? : Mode → Option Quote
  | .triple quote => some quote
  | _ => none

/-- The scan of a line that begins inside the given string, if any. -/
def scanLine (carried : Option Quote) (line : Text) : LineScan :=
  let (code, mode) := scanFrom (.free (.ofOpen carried)) line
  { code, openTriple := mode.triple?, continuesString := carried.isSome }

/-- The scans of consecutive lines, each beginning where the one before ended. -/
def scanLines (carried : Option Quote) : List Text → List LineScan
  | [] => []
  | line :: rest =>
    let scan := scanLine carried line
    scan :: scanLines scan.openTriple rest

/-- The scans of the lines of a source. -/
def Source.scans (source : Source) : List LineScan := scanLines none source.lines

/-- The line without its trailing comment, read from outside strings. -/
def stripComment (line : Text) : Text := line.take (scanLine none line).code.length

end DryRun
