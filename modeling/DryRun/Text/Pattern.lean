import DryRun.Text.Basic

/-!
# Patterns

A pattern reads a value from the beginning of a text and leaves the rest, or refuses. Patterns
are read one after another in `do` blocks, and `findAll` looks for one anywhere in a text.
-/

namespace DryRun

/-- A reader of a value at the beginning of a text. -/
abbrev Pattern := StateT Text Option

namespace Pattern

open Unicode

/-! ## Single patterns -/

/-- One character of a class. -/
def charOf (inClass : Char → Bool) : Pattern Char
  | c :: rest => if inClass c then some (c, rest) else none
  | [] => none

/-- A fixed word. -/
def word (beginning : String) : Pattern Unit := fun text => (Text.after? beginning text).map ((), ·)

/-- The longest run of characters of a class, perhaps empty. -/
def run (inClass : Char → Bool) : Pattern Text := fun text =>
  some (text.takeWhile inClass, text.dropWhile inClass)

/-- The longest run of characters of a class, at least one. -/
def run1 (inClass : Char → Bool) : Pattern Text := fun text =>
  match text.takeWhile inClass with
  | [] => none
  | found => some (found, text.dropWhile inClass)

/-- Any number of blanks. -/
def blanks : Pattern Unit := fun text => some ((), text.dropWhile isBlank)

/-- At least one blank. -/
def blanks1 : Pattern Unit := do
  let _ ← charOf isBlank
  blanks

/-- Everything that is left. -/
def remainder : Pattern Text := fun text => some (text, [])

/-- The end of the text. -/
def atEnd : Pattern Unit := fun text => if text.isEmpty then some ((), text) else none

/-- A condition, which reads nothing. -/
def require (condition : Bool) : Pattern Unit := fun text =>
  if condition then some ((), text) else none

/-- A pattern if it is there. -/
def optional (p : Pattern α) : Pattern (Option α) := fun text =>
  match p text with
  | some (found, rest) => some (some found, rest)
  | none => some (none, text)

/-- The first of two patterns, or else the second. -/
def either (p q : Pattern α) : Pattern α := fun text =>
  match p text with
  | some found => some found
  | none => q text

/-- The pattern's value for a text that it reads to the end. -/
def whole? (p : Pattern α) (text : Text) : Option α :=
  match p text with
  | some (found, []) => some found
  | _ => none

/-- Whether the text begins with the pattern. -/
def begins (p : Pattern α) (text : Text) : Bool := (p text).isSome

/-! ## Patterns within a text -/

/-- Whether a word may begin between two characters: exactly one of them belongs to a word. -/
def isWordEdge (before : Option Char) (text : Text) : Bool :=
  before.any isWord != text.head?.any isWord

/-- The pattern where a word begins or ends. -/
def atWordEdge (p : Pattern α) (before : Option Char) : Pattern α := fun text =>
  if isWordEdge before text then p text else none

/-- All matches from left to right, each beginning after the one before; `before` is the
character in front of the text, and `skip` counts the characters of a match still to pass. -/
def findFrom (p : Option Char → Pattern α) (before : Option Char) (skip : Nat) : Text → List α
  | [] => []
  | c :: rest =>
    match skip with
    | skip + 1 => findFrom p (some c) skip rest
    | 0 =>
      match p before (c :: rest) with
      | some (found, left) => found :: findFrom p (some c) (rest.length - left.length) rest
      | none => findFrom p (some c) 0 rest

/-- All matches of a pattern in a text, leftmost first and without overlap. -/
def findAll (p : Option Char → Pattern α) (text : Text) : List α := findFrom p none 0 text

/-- The value at the first place where the pattern matches, and the rest behind it. -/
def seek (p : Option Char → Pattern α) (before : Option Char) : Pattern α
  | [] => p before []
  | c :: rest =>
    match p before (c :: rest) with
    | some found => some found
    | none => seek p (some c) rest

/-- What a pattern reads one time after another, at most so many times. -/
def manyUpTo (p : Pattern α) : Nat → Pattern (List α)
  | 0 => fun text => some ([], text)
  | count + 1 => fun text =>
    match p text with
    | none => some ([], text)
    | some (found, behind) =>
      (manyUpTo p count behind).map fun (others, rest) => (found :: others, rest)

/-- What a pattern that reads at least a character reads one time after another. -/
def many (p : Pattern α) : Pattern (List α) := fun text => manyUpTo p text.length text

/-- What a pattern reads one time after another, at most so many times, to the end of the text. -/
def readAllUpTo (p : Pattern α) : Nat → Text → Option (List α)
  | _, [] => some []
  | 0, _ => none
  | count + 1, text => do
    let (found, behind) ← p text
    return found :: (← readAllUpTo p count behind)

/-- What a pattern that reads at least a character reads one time after another, to the end of the
text. -/
def readAll (p : Pattern α) (text : Text) : Option (List α) := readAllUpTo p text.length text

end Pattern

end DryRun
