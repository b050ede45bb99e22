import DryRun.Unicode.Attached
import DryRun.Unicode.Class
import DryRun.Unicode.VowelSign

/-!
# Identifiers

The characters of identifiers: letters begin one, and digits and what attaches to letters may
follow. They go by version 15 of Unicode.
-/

namespace DryRun.Unicode

/-- Letters and letter numbers: alphabetic characters without vowel signs. -/
def isLetter (c : Char) : Bool := isAlphabetic c && !vowelSignRanges.covers c && isBefore16 c

/-- Nonspacing marks, diacritics, connectors and joiners; of ASCII the circumflex, the underscore
and the grave accent. -/
def isAttached (c : Char) : Bool :=
  if c.toNat < 0x80 then c == '^' || c == '_' || c == '\x60' else attachedRanges.covers c

/-- What may begin an identifier: a letter, a dollar or an underscore. -/
def beginsIdentifier (c : Char) : Bool := isLetter c || c == '$' || c == '_'

/-- What may follow in an identifier. -/
def continuesIdentifier (c : Char) : Bool :=
  beginsIdentifier c || (isDigit c && isBefore16 c) || isAttached c

end DryRun.Unicode
