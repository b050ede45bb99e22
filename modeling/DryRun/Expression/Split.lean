import DryRun.Bracket
import DryRun.Text.Quote

/-!
# Taking expressions apart

Commas that separate arguments and items, and the brackets that enclose a whole expression. Quotes
shield what stands between them; a quote ends at the next one of its kind.
-/

namespace DryRun

open Unicode

namespace Expression

/-! ## Arguments -/

/-- How much deeper inside brackets one is behind a character. -/
def depthChange (c : Char) : Int :=
  match Bracket.ofChar? c with
  | some (.opens, _) => 1
  | some (.closes, _) => -1
  | none => 0

/-- The pieces between the commas outside quotes and brackets, read from a place within the given
quote and at the given depth. -/
def piecesFrom (quote : Option Quote) (depth : Int) : Text → List Text
  | [] => [[]]
  | c :: rest =>
    if quote.isSome then Text.growFirst c (piecesFrom (Quote.openAfter quote c) depth rest)
    else if c = ',' && depth = 0 then [] :: piecesFrom none depth rest
    else
      Text.growFirst c (piecesFrom (Quote.openAfter none c) (depth + depthChange c) rest)

/-- The arguments or items in a text, without margins; empty ones do not count. -/
def splitItems (text : Text) : List Text :=
  ((piecesFrom none 0 text).map Text.trim).filter (!·.isEmpty)

/-! ## Enclosed expressions -/

/-- How many brackets of a kind are open at the end of a text that never closes one too many, read
from a place within the given quote and at the given depth. -/
def depthAtEnd? (bracket : Bracket) (quote : Option Quote) (depth : Nat) : Text → Option Nat
  | [] => some depth
  | c :: rest =>
    if quote.isSome then depthAtEnd? bracket (Quote.openAfter quote c) depth rest
    else if c = bracket.opener then depthAtEnd? bracket none (depth + 1) rest
    else if c = bracket.closer then
      match depth with
      | 0 => none
      | depth + 1 => depthAtEnd? bracket none depth rest
    else depthAtEnd? bracket (Quote.openAfter none c) depth rest

/-- Whether a text may name what is called. -/
def isCallable (name : Text) : Bool :=
  !name.isEmpty && name.all (fun c => isAlphanumeric c || c == '_') && !name.head?.any Char.isDigit

/-- The name and the arguments of a call that the whole text is. -/
def splitCall? (text : Text) : Option (Text × Text) := do
  let (before, rest) ← Text.splitFirst? (· == '(') text
  let name := Text.trimEnd before
  let arguments ← Text.beforeLast? ')' rest
  if isCallable name && depthAtEnd? .round none 0 arguments = some 0 then some (name, arguments)
  else none

/-- The contents of a list that the whole text is. -/
def listContents? (text : Text) : Option Text := do
  let contents ← Text.beforeLast? ']' (← Text.after? "[" text)
  if (depthAtEnd? .square none 0 contents).isSome then some contents else none

end Expression

end DryRun
