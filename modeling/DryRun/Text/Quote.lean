import DryRun.Text.Pattern

/-!
# Quotes

The two quotes that delimit strings, and which of them is open between two characters of an
expression, where nothing escapes a quote.
-/

namespace DryRun

/-- The quotes that delimit strings. -/
inductive Quote where
  | single
  | double
  deriving DecidableEq, Repr

namespace Quote

/-- The character of a quote. -/
def char : Quote → Char
  | single => '\''
  | double => '"'

/-- The quote that a character stands for. -/
def ofChar? (c : Char) : Option Quote :=
  if c = '\'' then some single else if c = '"' then some double else none

/-- Which quote is open behind a character, given which is open before it. -/
def openAfter (carried : Option Quote) (c : Char) : Option Quote :=
  match carried with
  | some quote => if c = quote.char then none else some quote
  | none => ofChar? c

/-- The contents of a literal between quotes of one kind. -/
def literalIn (quote : Quote) : Pattern Text
  | [] => none
  | c :: rest =>
    if c = quote.char then
      match rest.dropWhile (· != quote.char) with
      | [] => none
      | _ :: behind => some (rest.takeWhile (· != quote.char), behind)
    else none

theorem length_literalIn {quote : Quote} {text contents behind : Text}
    (h : quote.literalIn text = some (contents, behind)) : behind.length < text.length := by
  cases text with
  | nil => simp [literalIn] at h
  | cons c rest =>
    have hle := Text.length_dropWhile_le (· != quote.char) rest
    rw [literalIn] at h
    split at h
    · split at h
      · simp at h
      · rename_i heq
        cases h
        simp only [heq, List.length_cons] at hle ⊢
        omega
    · simp at h

/-- The contents of a literal between quotes of either kind. -/
def literal : Pattern Text := Pattern.either (literalIn single) (literalIn double)

end Quote

end DryRun
