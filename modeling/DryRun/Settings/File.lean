import DryRun.Files
import DryRun.Settings.Basic
import DryRun.Settings.Line
import DryRun.Text.Pattern

/-!
# Settings files

Settings in a file, one on a line: a name, an equals sign and a value, with quotes, escapes and the
values of other settings behind a dollar. What is set already stays as it is. The first malformed
line ends the file.
-/

namespace DryRun

namespace Settings

open Unicode

/-! ## Values -/

/-- Where a reader stands in a value. -/
inductive ValueState where
  /-- In plain text, or between double quotes. -/
  | shown (quoted : Bool)
  /-- Between single quotes. -/
  | literal
  /-- Behind a backslash. -/
  | escape (quoted : Bool)
  /-- Within a name behind a dollar. -/
  | name (quoted : Bool) (letters : Text)
  /-- Within a name between braces. -/
  | braced (quoted : Bool) (letters : Text)
  /-- Behind a value, among blanks. -/
  | ended
  /-- In a comment behind a value. -/
  | comment
  deriving DecidableEq, Repr

namespace ValueState

/-- What a character in plain text or between double quotes shows, and where it leads. -/
def stepShown (quoted : Bool) (c : Char) : Text × ValueState :=
  if c = '$' then ([], name quoted [])
  else if c = '\\' then ([], escape quoted)
  else if c = '"' then ([], shown !quoted)
  else if c = '\'' && !quoted then ([], literal)
  else if (c = ' ' || c = '\t') && !quoted then ([], ended)
  else ([c], shown quoted)

/-- The character that a character behind a backslash stands for. -/
def escaped? (c : Char) : Option Char :=
  match c with
  | '\\' | '\'' | '"' | '$' | ' ' => some c
  | 'n' => some '\n'
  | _ => none

/-- What a character behind a name shows, and where it leads: it ends the name, and is shown unless
it begins another one. -/
def stepName (value : Text → Text) (quoted : Bool) (letters : Text) (c : Char) :
    Text × ValueState :=
  if isAlphanumeric c then ([], name quoted (letters ++ [c]))
  else if c = '{' && letters.isEmpty then ([], braced quoted [])
  else if c = '$' then (value letters, name quoted [])
  else (value letters ++ [c], shown quoted)

/-- What a character shows, and where it leads; none for one that must not stand there. -/
def step (value : Text → Text) (state : ValueState) (c : Char) : Option (Text × ValueState) :=
  match state with
  | shown quoted => some (stepShown quoted c)
  | literal => some (if c = '\'' then ([], shown false) else ([c], literal))
  | escape quoted => (escaped? c).map fun d => ([d], shown quoted)
  | name quoted letters => some (stepName value quoted letters c)
  | braced quoted letters =>
    if c = '}' then some (value letters, shown quoted)
    else some ([], braced quoted (letters ++ [c]))
  | ended =>
    if c = ' ' || c = '\t' then some ([], ended)
    else if c = '#' then some ([], comment)
    else none
  | comment => some ([], comment)

/-- What the end of a value shows; none if quotes or braces are open. -/
def finish (value : Text → Text) : ValueState → Option Text
  | shown false | escape false | ended | comment => some []
  | name false letters => some (value letters)
  | _ => none

/-- What a text shows from a state on. -/
def read (value : Text → Text) (state : ValueState) : Text → Option Text
  | [] => state.finish value
  | c :: rest => do
    let (text, next) ← state.step value c
    return text ++ (← read value next rest)

end ValueState

/-- The value that a text shows, with the values of settings for their names. -/
def valueOf? (settings : Settings) (text : Text) : Option Text :=
  ValueState.read (fun name => (settings.lookup name).getD []) (.shown false) text

/-! ## Lines -/

/-- The name of a setting. -/
def settingName : Pattern Text := do
  let first ← Pattern.charOf isNameStart
  return first :: (← Pattern.run fun c => c.isAlphanum || c == '_' || c == '.')

/-- The name of a setting with its equals sign; the word `export` may come before it, and is a name
itself if the sign follows. -/
def nameAndSign : Pattern Text := do
  let first ← settingName
  Pattern.blanks
  let plain : Pattern Text := do
    Pattern.word "="
    return first
  let exported : Pattern Text := do
    Pattern.require (first = "export".toList)
    let name ← settingName
    Pattern.blanks
    Pattern.word "="
    return name
  Pattern.either plain exported

/-- Whether nothing but a comment may follow. -/
def isOver (text : Text) : Bool := text.isEmpty || text.head? = some '#'

/-- The setting on a line that is neither empty nor a comment. -/
def entry? (settings : Settings) (line : Text) : Option (Text × Text) := do
  let (name, rest) ← nameAndSign line
  let shown := Text.trimStart rest
  return (name, ← if isOver shown then some [] else valueOf? settings shown)

/-- The settings with those on lines, up to the first malformed line. -/
def addLines (settings : Settings) : List Text → Settings
  | [] => settings
  | line :: rest =>
    if isOver (Text.trim line) then addLines settings rest
    else
      match entry? settings (Text.trim line) with
      | some entry => addLines (settings.orElse [entry]) rest
      | none => settings

/-- The settings with those of a file, if it holds text; a byte order mark at its beginning does
not count. -/
def withFile (settings : Settings) (file : FileState) : Settings :=
  match file with
  | .text ('\uFEFF' :: content) | .text content => settings.addLines (lines content)
  | _ => settings

end Settings

end DryRun
