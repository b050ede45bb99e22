import DryRun.Value

/-!
# Templates

Texts with expressions in braces between their characters. A brace that no pair of braces around
some text belongs to stands for itself. An expression may be followed by a colon and the number of
places that a number is to be shown with.
-/

namespace DryRun

open Unicode

namespace Template

/-- A part of a template. -/
inductive Part where
  | char (c : Char)
  /-- What stands between braces. -/
  | placeholder (text : Text)
  deriving DecidableEq, Repr

/-- Characters that stand for themselves. -/
def plain (text : Text) : List Part := text.map .char

/-- The parts of a text, read from a place that the given text separates from an open brace, the
last character first, if there is one. -/
def partsFrom (held : Option Text) : Text → List Part
  | [] =>
    match held with
    | none => []
    | some inside => plain ('{' :: inside.reverse)
  | c :: rest =>
    match held with
    | none => if c = '{' then partsFrom (some []) rest else .char c :: partsFrom none rest
    | some inside =>
      if c = '{' then plain ('{' :: inside.reverse) ++ partsFrom (some []) rest
      else if c = '}' then
        if inside.isEmpty then plain ['{', '}'] ++ partsFrom none rest
        else .placeholder inside.reverse :: partsFrom none rest
      else partsFrom (some (c :: inside)) rest

/-- The parts of a template. -/
def parts (template : Text) : List Part := partsFrom none template

/-! ## Placeholders -/

/-- The most places that a number is shown with. -/
def placesCap : Nat := 100

/-- The digits of a number of places, between a point and the letter `f`. -/
def placesDigits? (format : Text) : Option Text := do
  let digits ← Text.beforeLast? 'f' (← Text.after? "." (Text.trim format))
  if !digits.isEmpty && digits.all isDigit then some digits else none

/-- The expression of a placeholder, and the number of places if it has one. -/
def splitPlaceholder (text : Text) : Text × Option Nat :=
  match Text.splitLast? (· == ':') text with
  | some (expression, format) =>
    match placesDigits? format with
    | some digits => (expression, (readWord? digits).map (min · placesCap))
    | none => (text, none)
  | none => (text, none)

/-- A value in a template: a number with its places, everything else as it is shown. -/
def fill (places : Option Nat) (value : Value) : Text :=
  match places, value.toFloat? with
  | some places, some x => floatPlaces places x
  | _, _ => value.shown

end Template

end DryRun
