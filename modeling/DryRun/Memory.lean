import DryRun.Source.Scan
import DryRun.Text.Pattern

/-!
# Oversized allocations

Constructions whose size is spelled out in a line, such as `[0] * 10**9`, with an estimate of what
they would take. Sizes are natural numbers up to a cap, which stands for everything beyond it.

1. Sizes and how they are written.
2. Allocations, their estimates and the limits that they exceed.
3. The patterns, and the scan of a source.
-/

namespace DryRun

open Unicode

/-! ## Sizes -/

/-- A number of elements or bytes, at most `Size.cap`. -/
abbrev Size := Nat

namespace Size

/-- The largest size; greater ones are taken for it. -/
def cap : Size := Nat.pow 2 128 - 1

/-- The largest exponent of a power. -/
def exponentCap : Nat := Nat.pow 2 32 - 1

/-- The size of a natural number. -/
def ofNat (n : Nat) : Size := min n cap

/-- The product of two sizes. -/
def times (a b : Size) : Size := ofNat (a * b)

/-- The power of a size. -/
def power (base exponent : Size) : Size :=
  if exponentCap < exponent then cap
  else if 2 ≤ base ∧ 128 ≤ exponent then cap
  else ofNat (Nat.pow base exponent)

/-- The value of decimal digits; digits of other scripts have none. -/
def digitsValue? (digits : Text) : Option Nat :=
  digits.foldlM (fun value c => if c.isDigit then some (value * 10 + (c.toNat - 48)) else none) 0

/-- The size of a numeral, with underscores between its digits or not; one that cannot be read has
the greatest size. -/
def ofNumeral (numeral : Text) : Size :=
  match digitsValue? (numeral.filter (· != '_')) with
  | some value => ofNat value
  | none => cap

/-- A size in decimal, with commas between groups of three digits. -/
def grouped (n : Nat) : String :=
  let digits := (toString n).toList
  String.ofList ((digits.zipIdx.map fun (c, index) =>
    if index > 0 && (digits.length - index) % 3 == 0 then [',', c] else [c]).flatten)

end Size

/-! ## Allocations -/

/-- A construction whose size is spelled out. -/
inductive Allocation where
  /-- A list repeated to a number of elements. -/
  | repeatedList (elements : Size)
  /-- A list of a range. -/
  | rangeList (elements : Size)
  /-- A string repeated to a number of characters. -/
  | repeatedString (characters : Size)
  /-- A buffer of bytes, made by the type of the given name. -/
  | buffer (name : String) (bytes : Size)
  /-- Lists of ranges in a list of a range. -/
  | nestedLists (outer inner : Size)
  /-- Bytes repeated to a number of bytes. -/
  | repeatedBytes (bytes : Size)
  deriving DecidableEq, Repr

namespace Allocation

/-- The limit that messages quote, in megabytes. -/
def memoryLimit : Nat := 256

/-- The number of elements from which on a list is too large. -/
def listLimit : Size := 100000000

/-- The number of bytes from which on a buffer is too large. -/
def bufferLimit : Size := 500000000

/-- The number of characters from which on a string is too large. -/
def stringLimit : Size := 1000000000

/-- The bytes that a list takes for one element. -/
def slotBytes : Size := 8

/-- The number of things allocated. -/
def count : Allocation → Size
  | repeatedList n | rangeList n | repeatedString n | buffer _ n | repeatedBytes n => n
  | nestedLists outer inner => inner.times outer

/-- The count from which on an allocation of the form is too large. -/
def limit : Allocation → Size
  | repeatedList _ | rangeList _ | nestedLists .. => listLimit
  | repeatedString _ => stringLimit
  | buffer .. | repeatedBytes _ => bufferLimit

/-- Whether the allocation is too large. -/
def isExcessive (allocation : Allocation) : Bool := allocation.limit ≤ allocation.count

/-- The bytes that the allocation would take. -/
def bytes (allocation : Allocation) : Size :=
  match allocation with
  | repeatedList _ | rangeList _ | nestedLists .. => allocation.count.times slotBytes
  | _ => allocation.count

/-- What is allocated, in words. -/
def description (allocation : Allocation) : String :=
  let count := Size.grouped allocation.count
  match allocation with
  | repeatedList _ => "creating a list of " ++ count ++ " elements"
  | rangeList _ => "list(range(...)) with " ++ count ++ " elements"
  | repeatedString _ => "creating a string of " ++ count ++ " characters"
  | buffer name _ => "allocating a " ++ name ++ " of " ++ count ++ " bytes"
  | nestedLists outer inner =>
    "a nested list comprehension of " ++ Size.grouped outer ++ " x " ++ Size.grouped inner ++
      " = " ++ count ++ " elements"
  | repeatedBytes _ => "creating a bytes object of " ++ count ++ " bytes"

/-- What the allocation would take, and the limit that this exceeds. -/
def message (allocation : Allocation) : String :=
  "MemoryError: " ++ allocation.description ++ " would need about " ++
    Size.grouped (allocation.bytes / (1024 * 1024)) ++ " MB, which exceeds the " ++
    toString memoryLimit ++ " MB memory limit"

/-! ## Patterns -/

/-- A numeral: a digit, and digits and underscores. -/
def numeral : Pattern Text := do
  let first ← Pattern.charOf isDigit
  let others ← Pattern.run fun c => isDigit c || c == '_'
  return first :: others

/-- The exponent of a power. -/
def exponent : Pattern Text := do
  Pattern.blanks
  Pattern.word "**"
  Pattern.blanks
  numeral

/-- A size: a numeral, or a power of two numerals. -/
def size : Pattern Size := do
  let base ← numeral
  match ← Pattern.optional exponent with
  | some exponent => return Size.power (Size.ofNumeral base) (Size.ofNumeral exponent)
  | none => return Size.ofNumeral base

/-- A multiplication by a size. -/
def timesSize : Pattern Size := do
  Pattern.blanks
  Pattern.word "*"
  Pattern.blanks
  size

/-- A closing parenthesis behind blanks. -/
def closing : Pattern Unit := do
  Pattern.blanks
  Pattern.word ")"

/-- A list of some items, times a size. -/
def listTimesSize : Pattern Allocation := do
  Pattern.word "["
  let contents ← Pattern.run fun c => c != '[' && c != ']'
  Pattern.word "]"
  let times ← timesSize
  let items := (Text.pieces (· == ',') contents).filter (!Text.isBlankText ·)
  return repeatedList (Size.times items.length times)

/-- A list of a range. -/
def listOfRange : Pattern Allocation := do
  Pattern.word "list("
  Pattern.blanks
  Pattern.word "range("
  Pattern.blanks
  let elements ← size
  closing
  closing
  return rangeList elements

/-- A string literal times a size; one of bytes is no string. -/
def stringTimesSize : Pattern (Option Allocation) := do
  let letters ← Pattern.run isAsciiLetter
  let contents ← Quote.literal
  let times ← timesSize
  return if letters.contains 'b' || letters.contains 'B' then none
    else some (repeatedString (Size.times contents.length times))

/-- A buffer made with a size. -/
def sizedBuffer : Pattern Allocation :=
  let made (name : String) : Pattern Allocation := do
    Pattern.word name
    Pattern.word "("
    Pattern.blanks
    let bytes ← size
    closing
    return buffer name bytes
  Pattern.either (made "bytearray") (made "bytes")

/-- A loop over a range, as a comprehension holds it. -/
def forRange : Pattern Size := do
  Pattern.word "for"
  Pattern.blanks1
  let _ ← Pattern.run1 isWord
  Pattern.blanks1
  Pattern.word "in"
  Pattern.blanks1
  Pattern.word "range("
  Pattern.blanks
  let elements ← size
  closing
  Pattern.blanks
  Pattern.word "]"
  return elements

/-- The two loops of a comprehension in a comprehension, from the inner one on. -/
def twoLoops : Pattern Allocation := do
  let inner ← forRange
  Pattern.blanks
  let outer ← forRange
  return nestedLists outer inner

/-- A comprehension in a comprehension, both over ranges. -/
def nestedComprehension : Pattern Allocation := do
  Pattern.word "["
  Pattern.blanks
  Pattern.word "["
  Pattern.seek (Pattern.atWordEdge twoLoops) (some '[')

/-- A literal of bytes times a size. -/
def bytesTimesSize : Pattern Allocation := do
  let _ ← Pattern.charOf fun c => c == 'b' || c == 'B'
  let contents ← Quote.literal
  let times ← timesSize
  return repeatedBytes (Size.times contents.length times)

/-! ## The scan -/

/-- The allocations of a line, form by form in the order in which the forms are tried. -/
def ofLine (line : Text) : List Allocation :=
  Pattern.findAll (fun _ => listTimesSize) line ++
  Pattern.findAll (Pattern.atWordEdge listOfRange) line ++
  (Pattern.findAll (fun _ => stringTimesSize) line).filterMap id ++
  Pattern.findAll (Pattern.atWordEdge sizedBuffer) line ++
  Pattern.findAll (fun _ => nestedComprehension) line ++
  Pattern.findAll (Pattern.atWordEdge bytesTimesSize) line

/-- The first allocation of a line that is too large. -/
def excessive? (line : Text) : Option Allocation :=
  (ofLine (Text.trim (stripComment line))).find? isExcessive

/-- An allocation that is too large, and the line that spells it out. -/
structure Finding where
  allocation : Allocation
  line : Nat
  deriving DecidableEq, Repr

/-- What is said about the finding. -/
def Finding.message (finding : Finding) : String := finding.allocation.message

/-- The first allocation of a source that is too large. -/
def check (source : Source) : Option Finding :=
  source.numbered.findSome? fun (line, number) =>
    (excessive? line).map fun allocation => ⟨allocation, number⟩

end Allocation

end DryRun
