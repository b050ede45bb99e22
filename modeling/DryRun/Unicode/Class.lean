import DryRun.Unicode.Alphabetic
import DryRun.Unicode.Mark
import DryRun.Unicode.Number
import DryRun.Unicode.Version

/-!
# Classes of characters

The classes by which program text is read. Each agrees with the Unicode property of its name; on
ASCII it is decided without a table. Letters and numbers go by version 17 of Unicode, but words and
digits, of which patterns are made, by version 16.
-/

namespace DryRun.Unicode

/-- White space: the property `White_Space`, so neither U+200B nor U+FEFF. -/
def isBlank (c : Char) : Bool :=
  let n := c.toNat
  (9 ≤ n && n ≤ 13) || n == 0x20 || n == 0x85 || n == 0xA0 || n == 0x1680 ||
    (0x2000 ≤ n && n ≤ 0x200A) || n == 0x2028 || n == 0x2029 || n == 0x202F || n == 0x205F ||
    n == 0x3000

/-- Letters and what counts as one: the property `Alphabetic`. -/
def isAlphabetic (c : Char) : Bool :=
  if c.toNat < 0x80 then c.isAlpha else alphabeticRanges.covers c

/-- Decimal digits of every script: the category `Nd`. -/
def isDigit (c : Char) : Bool :=
  if c.toNat < 0x80 then c.isDigit else decimalRanges.covers c && isBefore17 c

/-- Alphabetic characters and numbers of every kind. -/
def isAlphanumeric (c : Char) : Bool :=
  if c.toNat < 0x80 then c.isAlphanum
  else alphabeticRanges.covers c || decimalRanges.covers c || otherNumberRanges.covers c

/-- Characters of a word: alphabetic ones, digits, marks, connectors and joiners. -/
def isWord (c : Char) : Bool :=
  if c.toNat < 0x80 then c.isAlphanum || c == '_'
  else
    (alphabeticRanges.covers c || decimalRanges.covers c || wordMarkRanges.covers c) &&
      isBefore17 c

theorem isAlphanumeric_of_isAlphabetic {c : Char} (h : isAlphabetic c = true) :
    isAlphanumeric c = true := by
  unfold isAlphabetic at h
  unfold isAlphanumeric
  split at h <;> simp_all [Char.isAlphanum]

/-- Letters of the ASCII alphabet. -/
def isAsciiLetter (c : Char) : Bool := c.isAlpha

/-- What may start the name of a variable or function: an ASCII letter or an underscore. -/
def isNameStart (c : Char) : Bool := c.isAlpha || c == '_'

end DryRun.Unicode
