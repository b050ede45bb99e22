import DryRun.Toml.Scalar

/-!
# Reading TOML

A document is read line by line into statements, of which its table is then built. Only arrays and
strings between three quotes span lines.
-/

namespace DryRun

namespace Toml

/-! ## Blanks and comments -/

/-- Blanks within a line. -/
def spaces : Pattern Unit := do
  let _ ← Pattern.run fun c => c == ' ' || c == '\t'

/-- A comment. -/
def comment : Pattern Unit := do
  Pattern.word "#"
  let _ ← Pattern.run isAllowed

/-- A line break. -/
def lineBreak : Pattern Unit := Pattern.either (Pattern.word "\n") (Pattern.word "\r\n")

/-- Blanks, comments and line breaks. -/
def spacing : Pattern Unit := do
  let _ ← Pattern.many (Pattern.either (do let _ ← Pattern.charOf fun c => c == ' ' || c == '\t')
    (Pattern.either lineBreak comment))

/-! ## Keys -/

/-- A key without dots. -/
def simpleKey : Pattern Text :=
  Pattern.either shortString (Pattern.run1 fun c => c.isAlphanum || c == '_' || c == '-')

/-- How deep arrays and tables in braces may nest, and how many dots a key may have. -/
def depthCap : Nat := 79

/-- A key with the keys before its dots. -/
def dottedKey : Pattern (List Text × Text) := do
  let first ← simpleKey
  let others ← Pattern.many do
    spaces
    Pattern.word "."
    spaces
    simpleKey
  Pattern.require (others.length < depthCap)
  return ((first :: others).dropLast, others.getLast?.getD first)

/-! ## Values -/

/-- Items with a comma between each two. -/
def separated (space : Pattern Unit) (item : Pattern α) : Pattern (List α) := do
  match ← Pattern.optional item with
  | none => return []
  | some first =>
    let others ← Pattern.many do
      space
      Pattern.word ","
      space
      item
    return first :: others

/-- An array of items. -/
def arrayOf (item : Pattern Toml) : Pattern Toml := do
  Pattern.word "["
  spacing
  let items ← separated spacing item
  spacing
  if !items.isEmpty then
    let _ ← Pattern.optional (Pattern.word ",")
  spacing
  Pattern.word "]"
  return .array items

/-- A key with its value. -/
def pairOf (item : Pattern Toml) : Pattern (List Text × Text × Toml) := do
  let (path, key) ← dottedKey
  spaces
  Pattern.word "="
  spaces
  return (path, key, ← item)

/-- A table between braces. -/
def bracesOf (item : Pattern Toml) : Pattern Toml := do
  Pattern.word "\x7b"
  spaces
  let pairs ← separated spaces (pairOf item)
  spaces
  Pattern.word "\x7d"
  (ofBraces? pairs : Option Toml)

/-- A value that is neither array nor table. -/
def scalar : Pattern Toml :=
  Pattern.either (do return .string (← anyString)) bareScalar

/-- A value that nests at most to the given depth. -/
def value : Nat → Pattern Toml
  | 0 => scalar
  | depth + 1 =>
    Pattern.either scalar (Pattern.either (arrayOf (value depth)) (bracesOf (value depth)))

/-! ## Lines -/

/-- A header of several tables or of one. -/
def header : Pattern Statement :=
  Pattern.either
    (do
      Pattern.word "[["
      spaces
      let (path, key) ← dottedKey
      spaces
      Pattern.word "]]"
      return .arrayHeader path key)
    (do
      Pattern.word "["
      spaces
      let (path, key) ← dottedKey
      spaces
      Pattern.word "]"
      return .header path key)

/-- A statement. -/
def statement : Pattern Statement :=
  Pattern.either header do
    let (path, key, value) ← pairOf (value depthCap)
    return .assign path key value

/-- A line with its break, and the statement on it if there is one. -/
def line : Pattern (Option Statement) := do
  spaces
  let found ← Pattern.optional statement
  spaces
  let _ ← Pattern.optional comment
  Pattern.either Pattern.atEnd lineBreak
  return found

/-- The table of a document. -/
def read? (text : Text) : Option Toml :=
  let content := if text.head? = some '\uFEFF' then text.drop 1 else text
  (Pattern.readAll line content).bind fun lines => ofStatements? (lines.filterMap id)

end Toml

end DryRun
