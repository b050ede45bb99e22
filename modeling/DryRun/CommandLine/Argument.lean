import DryRun.Text.Basic

/-!
# Arguments

A command line is a list of arguments. Options begin with a hyphen and may carry a value, attached
or in the next argument; behind two hyphens everything is text.
-/

namespace DryRun

namespace CommandLine

/-- What an argument is. -/
inductive Argument where
  | text (content : Text)
  /-- Two hyphens and a name, with a value if an equals sign follows. -/
  | long (name : Text) (value : Option Text)
  /-- A hyphen and a letter, with what is attached to it. -/
  | short (letter : Char) (attached : Text)
  /-- Two hyphens alone. -/
  | terminator
  deriving DecidableEq, Repr

/-- What an argument is; a hyphen alone is text. -/
def Argument.ofText : Text → Argument
  | ['-', '-'] => terminator
  | '-' :: '-' :: rest =>
    match Text.splitFirst? (· == '=') rest with
    | some (name, value) => long name (some value)
    | none => long rest none
  | '-' :: letter :: attached => short letter attached
  | content => text content

/-- What help can be asked for. -/
inductive Topic where
  /-- The program as a whole. -/
  | program
  | run
  | check
  | config
  /-- Help itself. -/
  | help
  deriving DecidableEq, Repr

/-- Why there is no command. -/
inductive Stop where
  /-- The arguments ask for help. -/
  | help (topic : Topic)
  /-- The arguments ask for the version. -/
  | version
  /-- The arguments are malformed. -/
  | usage
  deriving DecidableEq, Repr

/-! ## Options -/

/-- An option of a command. -/
structure Switch where
  name : String
  letter : Option Char
  /-- What the option does. -/
  about : String
  /-- The values that the option takes; none for an option without a value. -/
  admits? : Option (Text → Bool)

/-- What the arguments of a command give. -/
structure Given where
  /-- The options by name, with their values; an option without one has an empty value. -/
  values : List (String × Text)
  /-- The text that is no option. -/
  text : Option Text
  deriving DecidableEq, Repr

namespace Given

/-- Nothing given. -/
def nothing : Given := ⟨[], none⟩

/-- Whether an option is given. -/
def has (given : Given) (name : String) : Bool := (given.values.lookup name).isSome

/-- What is given with an option more; an option is given once at most. -/
def addValue (given : Given) (switch : Switch) (value : Text) : Except Stop Given :=
  if given.has switch.name || !switch.admits?.all (· value) then .error .usage
  else .ok { given with values := (switch.name, value) :: given.values }

/-- What is given with a text more; there is one at most. -/
def addText (given : Given) (content : Text) : Except Stop Given :=
  match given.text with
  | none => .ok { given with text := some content }
  | some _ => .error .usage

end Given

/-- The value that is attached to a letter; an equals sign may come before it. -/
def attachedValue? : Text → Option Text
  | [] => none
  | '=' :: value => some value
  | value => some value

/-- The option that an argument names, and its attached value. -/
def switchOf? (switches : List Switch) : Argument → Option (Switch × Option Text)
  | .long name value =>
    (switches.find? fun switch => switch.name.toList = name).map (·, value)
  | .short letter attached =>
    (switches.find? fun switch => switch.letter = some letter).map (·, attachedValue? attached)
  | _ => none

/-- Whether an argument asks for help. -/
def Argument.asksForHelp : Argument → Bool
  | long name none => name = "help".toList
  | short letter _ => letter = 'h'
  | _ => false

/-- Whether an argument can be the value of an option before it. -/
def isValue (argument : Text) : Bool :=
  match Argument.ofText argument with
  | .text _ => true
  | _ => false

/-- What the arguments of a command give, beyond what they have given before. -/
def readArguments (topic : Topic) (switches : List Switch) (given : Given) :
    List Text → Except Stop Given
  | [] => .ok given
  | argument :: rest =>
    match Argument.ofText argument with
    | .terminator => rest.foldlM Given.addText given
    | .text content => do readArguments topic switches (← given.addText content) rest
    | named =>
      if named.asksForHelp then .error (.help topic)
      else
        match switchOf? switches named with
        | none => .error .usage
        | some (switch, attached) =>
          match switch.admits?, attached, rest with
          | none, none, rest => do readArguments topic switches (← given.addValue switch []) rest
          | none, some _, _ => .error .usage
          | some _, some value, rest => do
            readArguments topic switches (← given.addValue switch value) rest
          | some _, none, value :: rest => do
            if isValue value then readArguments topic switches (← given.addValue switch value) rest
            else .error .usage
          | some _, none, [] => .error .usage

end CommandLine

end DryRun
