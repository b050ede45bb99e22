import DryRun.Arithmetic.Operator
import DryRun.Expression.Split
import DryRun.Function
import DryRun.Value

/-!
# Forms of expressions

What kind of expression a text is. The forms are tried in a fixed order, from literals to names, so
that every text has exactly one.
-/

namespace DryRun

open Unicode

namespace Expression

/-! ## Literals -/

/-- The contents of a string literal that the whole text is. -/
def stringLiteral? (text : Text) : Option Text := Pattern.whole? Quote.literal text

/-- A text between two quotes of a kind, quotes of that kind in it or not, on one line. -/
def enclosed? (quote : Quote) (text : Text) : Option Text := do
  let (_, rest) ← Pattern.charOf (· == quote.char) text
  let contents ← Text.beforeLast? quote.char rest
  if contents.contains '\n' then none else some contents

/-- The template of a formatted string literal. -/
def template? : Text → Option Text
  | c :: rest =>
    if c = 'f' || c = 'F' then (enclosed? .double rest).or (enclosed? .single rest) else none
  | [] => none

/-- The value of an integer literal, with underscores between its digits or not. -/
def integerLiteral? (text : Text) : Option Value :=
  let (negative, numeral) :=
    match text with
    | '-' :: rest => (true, rest)
    | _ => (false, text)
  if numeral.head?.any isDigit && numeral.all (fun c => isDigit c || c == '_') then
    some <|
      match readNatural? (numeral.filter (· != '_')) with
      | some (size : Nat) =>
        let n : Int := if negative then -size else size
        if inWord n then .int n else .float (floatOfDecimal negative size 0)
      | none => .float (1 / 0)
  else none

/-- Whether a text is digits with a point among them or at either end. -/
def isPointed (text : Text) : Bool :=
  let whole := text.takeWhile isDigit
  match text.dropWhile isDigit with
  | '.' :: places => places.all isDigit && !(whole.isEmpty && places.isEmpty)
  | _ => false

/-- The value of a literal with a point. -/
def floatLiteral? (text : Text) : Option Value :=
  let numeral :=
    match text with
    | '-' :: rest => rest
    | _ => text
  if isPointed numeral then (readFloat? text).map .float else none

/-- The value of a constant. -/
def constant? (text : Text) : Option Value :=
  if text = "True".toList then some (.bool true)
  else if text = "False".toList then some (.bool false)
  else if text = "None".toList then some .none
  else none

/-! ## Forms -/

/-- The kind of an expression, with what it is made of. -/
inductive Form where
  /-- A literal or constant, with its value. -/
  | literal (value : Value)
  /-- A formatted string literal. -/
  | template (template : Text)
  /-- The name of the type of a value. -/
  | typeOf (argument : Text)
  /-- The length of a value. -/
  | lengthOf (argument : Text)
  /-- A call of a function that is defined. -/
  | call (function : Function) (arguments : Text)
  /-- A list of items. -/
  | list (contents : Text)
  /-- An expression with operators. -/
  | arithmetic
  /-- A variable, or a text that stands for itself. -/
  | name

/-- The form of a call, if there is something to call. -/
def callForm? (functions : Functions) (name arguments : Text) : Option Form :=
  if name = "type".toList then some (.typeOf arguments)
  else if name = "len".toList then some (.lengthOf arguments)
  else (functions.find? name).map (.call · arguments)

/-- The form of a text that is a call. -/
def callOf? (functions : Functions) (text : Text) : Option Form := do
  let (name, arguments) ← splitCall? text
  callForm? functions name arguments

/-- Whether a character makes a text arithmetic. -/
def isOperatorSign (c : Char) : Bool := (Operator.ofChar? c).isSome

/-- The form of a text without margins. -/
def Form.ofText (functions : Functions) (text : Text) : Form :=
  if text.isEmpty then .literal (.str [])
  else if let some contents := stringLiteral? text then .literal (.str contents)
  else if let some contents := template? text then .template contents
  else if let some form := callOf? functions text then form
  else if let some value := integerLiteral? text then .literal value
  else if let some value := floatLiteral? text then .literal value
  else if let some value := constant? text then .literal value
  else if let some contents := listContents? text then .list contents
  else if text.any isOperatorSign then .arithmetic
  else .name

end Expression

end DryRun
