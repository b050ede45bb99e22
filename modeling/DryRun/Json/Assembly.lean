import DryRun.Json.Basic

/-!
# Values of JSON from tokens

Tokens are put together by a machine with a stack of the arrays and objects that are still open.
Two dialects differ in what it accepts: whether a comma may end a list, and which bare words are
values.
-/

namespace DryRun

namespace Json

/-- A token of JSON. -/
inductive Token where
  | openArray
  | closeArray
  | openObject
  | closeObject
  | comma
  | colon
  /-- A value that is neither array nor object. -/
  | scalar (value : Json)
  /-- A word without quotes: as it is written, and the text that it stands for. -/
  | word (lexeme : Text) (text : Option Text)

/-- What a dialect accepts. -/
structure Dialect where
  /-- Whether a comma may stand before a closing bracket. -/
  trailingComma : Bool
  /-- The value that a word stands for where no key is expected. -/
  constant? : Text → Option Json

/-- The members of an object, the last first. -/
abbrev Members := List (Option Text × Json)

/-- A container that waits for a value. -/
inductive Frame where
  | array (items : List Json)
  | object (members : Members) (key : Option Text)

/-- Where the machine stands between two tokens. -/
inductive State where
  /-- A value has to follow, or the end of the innermost array if it may be closed. -/
  | value (closable : Bool) (stack : List Frame)
  /-- A key has to follow, or the end of the object if it may be closed. -/
  | key (closable : Bool) (members : Members) (stack : List Frame)
  /-- A colon has to follow. -/
  | colon (members : Members) (key : Option Text) (stack : List Frame)
  /-- An item of an array is complete. -/
  | item (items : List Json) (stack : List Frame)
  /-- A member of an object is complete. -/
  | member (members : Members) (stack : List Frame)
  /-- The whole value is complete. -/
  | done (value : Json)

/-- The state behind a value. -/
def complete (value : Json) : List Frame → State
  | [] => .done value
  | .array items :: stack => .item (value :: items) stack
  | .object members key :: stack => .member ((key, value) :: members) stack

/-- The state behind a closing bracket of the array on top of the stack. -/
def closeArray : List Frame → Option State
  | .array items :: stack => some (complete (.array items.reverse) stack)
  | _ => none

/-- The state behind a closing bracket of an object. -/
def closeObject (members : Members) (stack : List Frame) : State :=
  complete (.object members.reverse) stack

/-- The state behind a token. -/
def step (dialect : Dialect) : State → Token → Option State
  | .value _ stack, .scalar value => some (complete value stack)
  | .value _ stack, .word lexeme _ => (dialect.constant? lexeme).map (complete · stack)
  | .value _ stack, .openArray => some (.value true (.array [] :: stack))
  | .value _ stack, .openObject => some (.key true [] stack)
  | .value true stack, .closeArray => closeArray stack
  | .key _ members stack, .scalar (.string key) => some (.colon members key stack)
  | .key _ members stack, .word _ key => some (.colon members key stack)
  | .key true members stack, .closeObject => some (closeObject members stack)
  | .colon members key stack, .colon => some (.value false (.object members key :: stack))
  | .item items stack, .comma => some (.value dialect.trailingComma (.array items :: stack))
  | .item items stack, .closeArray => closeArray (.array items :: stack)
  | .member members stack, .comma => some (.key dialect.trailingComma members stack)
  | .member members stack, .closeObject => some (closeObject members stack)
  | _, _ => none

/-- The value at the end of the tokens. -/
def finish : State → Option Json
  | .done value => some value
  | _ => none

/-- The value of tokens. -/
def assemble (dialect : Dialect) (tokens : List Token) : Option Json :=
  (tokens.foldlM (step dialect) (.value false [])).bind finish

end Json

end DryRun
