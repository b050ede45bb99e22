import DryRun.Unicode.Class

/-!
# Text

Program text is a list of characters. This module cuts it: into pieces, lines and words, at the
first or last character of a class, and at its blank margins.
-/

namespace DryRun

/-- Program text, character by character. -/
abbrev Text := List Char

namespace Text

open Unicode

/-! ## Margins -/

/-- The text without its leading blanks. -/
def trimStart (text : Text) : Text := text.dropWhile isBlank

/-- The text without its trailing blanks. -/
def trimEnd (text : Text) : Text := (text.reverse.dropWhile isBlank).reverse

/-- The text without the blanks at either end. -/
def trim (text : Text) : Text := trimEnd (trimStart text)

/-- Whether the text holds blanks only. -/
def isBlankText (text : Text) : Bool := text.all isBlank

/-- The number of blanks before the first other character. -/
def indentation (text : Text) : Nat := (text.takeWhile isBlank).length

theorem length_dropWhile_le (inClass : Char → Bool) (text : Text) :
    (text.dropWhile inClass).length ≤ text.length :=
  (List.dropWhile_sublist inClass).length_le

/-! ## Pieces -/

/-- Pieces with a character more at the front of the first. -/
def growFirst (c : Char) : List Text → List Text
  | [] => [[c]]
  | first :: others => (c :: first) :: others

/-- The pieces between the characters of a class; one more than there are such characters. -/
def pieces (separates : Char → Bool) : Text → List Text
  | [] => [[]]
  | c :: rest =>
    if separates c then [] :: pieces separates rest else growFirst c (pieces separates rest)

/-- A line without the carriage return that may end it. -/
def dropReturn (line : Text) : Text :=
  match line.getLast? with
  | some '\r' => line.dropLast
  | _ => line

/-- The lines of the text: there is always one, and a final line break opens an empty one. -/
def lines (text : Text) : List Text := (pieces (· == '\n') text).map dropReturn

/-- The words of the text: its longest runs without a blank. -/
def words (text : Text) : List Text := (pieces isBlank text).filter (!·.isEmpty)

/-- What stands before and after the first character of a class. -/
def splitFirst? (separates : Char → Bool) (text : Text) : Option (Text × Text) :=
  match text.dropWhile (!separates ·) with
  | [] => none
  | _ :: rest => some (text.takeWhile (!separates ·), rest)

/-- What stands before and after the last character of a class. -/
def splitLast? (separates : Char → Bool) (text : Text) : Option (Text × Text) :=
  (splitFirst? separates text.reverse).map fun (after, before) => (before.reverse, after.reverse)

/-! ## Fixed words -/

/-- What follows a fixed beginning. -/
def after? (beginning : String) (text : Text) : Option Text := beginning.toList.isPrefixOf? text

/-- What precedes a fixed last character. -/
def beforeLast? (last : Char) (text : Text) : Option Text :=
  if text.getLast? = some last then some text.dropLast else none

/-- Texts one after another with a separator between them. -/
def join (separator : Text) (texts : List Text) : Text := (texts.intersperse separator).flatten

/-- The number of bytes that the text takes in UTF-8. -/
def byteSize (text : Text) : Nat := text.foldl (fun n c => n + c.utf8Size) 0

end Text

end DryRun
