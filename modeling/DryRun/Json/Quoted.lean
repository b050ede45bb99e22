import DryRun.Json.Basic
import DryRun.Number.Reading

/-!
# Strings of JSON

A string is read into pieces: characters as they stand, and the numbers of 16 bits that escapes
give. Two numbers may be the halves of one character; the text of a string joins them.
-/

namespace DryRun

namespace Json

/-! ## Pieces -/

/-- What a string is made of: characters, and the numbers that escapes give in 16 bits. -/
inductive Piece where
  | char (c : Char)
  | unit (n : Nat)
  deriving DecidableEq, Repr

/-- Whether a number is the first half of a pair. -/
def isHighHalf (n : Nat) : Bool := 0xD800 ≤ n && n < 0xDC00

/-- Whether a number is the second half of a pair. -/
def isLowHalf (n : Nat) : Bool := 0xDC00 ≤ n && n < 0xE000

/-- The character of a pair of halves. -/
def ofHalves (high low : Nat) : Char :=
  Char.ofNat (0x10000 + (high - 0xD800) * 0x400 + (low - 0xDC00))

/-- The text of pieces; none if half of a pair stands alone. -/
def textOfPieces? : List Piece → Option Text
  | [] => some []
  | .char c :: rest => (textOfPieces? rest).map (c :: ·)
  | .unit n :: rest =>
    if isLowHalf n then none
    else if isHighHalf n then
      match rest with
      | .unit low :: rest =>
        if isLowHalf low then (textOfPieces? rest).map (ofHalves n low :: ·) else none
      | _ => none
    else (textOfPieces? rest).map (Char.ofNat n :: ·)

/-! ## Quotes and escapes -/

/-- What a character behind a backslash stands for. -/
inductive Escape where
  | char (c : Char)
  /-- The number of the digits that follow, one more than `left`. -/
  | digits (left : Nat)
  /-- Nothing: the string goes on behind it. -/
  | nothing
  | refused

/-- How strings are written. -/
structure Quoting where
  /-- The quote that ends a string. -/
  closer : Char
  /-- Whether a character must not stand in a string as it is. -/
  forbids : Char → Bool
  escape : Char → Escape

/-- Where a reader stands in a string. -/
inductive Place where
  | plain
  /-- Behind a backslash. -/
  | escape
  /-- Within the digits of an escape, with one more to come than `left` and the value so far. -/
  | digits (left value : Nat)
  deriving DecidableEq, Repr

/-- A piece in front of pieces. -/
def andPiece (piece : Piece) (found : Option (List Piece × Text)) : Option (List Piece × Text) :=
  found.map fun (pieces, behind) => (piece :: pieces, behind)

/-- The pieces of a string up to its closing quote, and what follows. -/
def pieces? (quoting : Quoting) (place : Place) : Text → Option (List Piece × Text)
  | [] => none
  | c :: rest =>
    match place with
    | .plain =>
      if c = quoting.closer then some ([], rest)
      else if c = '\\' then pieces? quoting .escape rest
      else if quoting.forbids c then none
      else andPiece (.char c) (pieces? quoting .plain rest)
    | .escape =>
      match quoting.escape c with
      | .char d => andPiece (.char d) (pieces? quoting .plain rest)
      | .digits left => pieces? quoting (.digits left 0) rest
      | .nothing => pieces? quoting .plain rest
      | .refused => none
    | .digits left value =>
      match digitIn? 16 c, left with
      | some d, 0 => andPiece (.unit (value * 16 + d)) (pieces? quoting .plain rest)
      | some d, left + 1 => pieces? quoting (.digits left (value * 16 + d)) rest
      | none, _ => none

/-- The string behind its opening quote, and what follows it. -/
def quoted? (quoting : Quoting) (text : Text) : Option (Json × Text) :=
  (pieces? quoting .plain text).map fun (pieces, behind) => (string (textOfPieces? pieces), behind)

end Json

end DryRun
