import DryRun.Config.Basic
import DryRun.Duration.Units
import DryRun.Error
import DryRun.Files
import DryRun.Json.Relaxed.Record
import DryRun.Path
import DryRun.Toml.Reader
import DryRun.Toml.Record

/-!
# Reading the configuration

A configuration in relaxed JSON or in TOML. What a file leaves out has its default, and fields of
other names do not count; which numbers a field takes depends on the format.
-/

namespace DryRun

namespace Config

/-! ## Fields -/

/-- How a format gives the fields of a record and the values of fields. -/
structure Format (α : Type) where
  /-- The values of the fields of the given names, none for a field that is left out. -/
  fields? : List String → α → Option (List (Option α))
  float? : α → Option Float
  word? : α → Option Nat
  text? : α → Option Text

variable {α : Type}

/-- The value of a field, or its default if it is left out. -/
def orDefault (decode : α → Option β) (default : β) (value : Option α) : Option β :=
  value.elim (some default) decode

/-- The duration of a field. -/
def Format.duration? (format : Format α) (value : α) : Option Duration :=
  (format.text? value).bind Duration.ofUnits?

/-- The limits of execution that a record gives. -/
def executorOf? (format : Format α) (record : α) : Option ExecutorConfig := do
  let [timeout, memoryCap, loopCap, output] ← format.fields?
    ["default_timeout_secs", "memory_delay_cap", "loop_delay_cap", "max_output_bytes"] record
    | none
  return {
    defaultTimeout := ← orDefault format.float? defaultExecutor.defaultTimeout timeout
    memoryDelayCap := ← orDefault format.duration? defaultExecutor.memoryDelayCap memoryCap
    loopDelayCap := ← orDefault format.duration? defaultExecutor.loopDelayCap loopCap
    maxOutputBytes := ← orDefault format.word? defaultExecutor.maxOutputBytes output }

/-- The limits of evaluation that a record gives. -/
def interpreterOf? (format : Format α) (record : α) : Option Evaluation.Limits := do
  let [calls, nesting] ← format.fields? ["max_call_depth", "max_nesting"] record | none
  return {
    calls := ← orDefault format.word? defaultInterpreter.calls calls
    nesting := ← orDefault format.word? defaultInterpreter.nesting nesting }

/-- The configuration that a record gives. -/
def ofRecord? (format : Format α) (record : α) : Option Config := do
  let [executor, interpreter] ← format.fields? ["executor", "interpreter"] record | none
  return {
    executor := ← orDefault (executorOf? format) defaultExecutor executor
    interpreter := ← orDefault (interpreterOf? format) defaultInterpreter interpreter }

/-! ## Formats -/

/-- Relaxed JSON: numbers are cut to integers where a field asks for one. -/
def relaxedJson : Format Json where
  fields? := Json.relaxedFields?
  float? := Json.relaxedFloat?
  word? := Json.relaxedWord?
  text? := Json.text?

/-- TOML: integers are floats too, but a float is never an integer. -/
def toml : Format Toml where
  fields? := Toml.fields?
  float? := Toml.float?
  word? := Toml.word?
  text? := Toml.text?

/-- The configuration in a text of relaxed JSON. -/
def readJson? (text : Text) : Option Config :=
  (Json.readRelaxed? text).bind (ofRecord? relaxedJson)

/-- The configuration in a text of TOML. -/
def readToml? (text : Text) : Option Config := (Toml.read? text).bind (ofRecord? toml)

/-! ## Files -/

/-- The configuration in the text of a file, by the extension of its path; without one of the two
known extensions it may be in either format. -/
def ofText (path text : Text) : Except Error Config :=
  let orError (message : String) : Option Config → Except Error Config
    | some config => .ok config
    | none => .error (.config message)
  if Path.extension? path = some "json".toList then
    orError "Invalid JSON config" (readJson? text)
  else if Path.extension? path = some "toml".toList then
    orError "Invalid TOML config" (readToml? text)
  else orError "Failed to parse config" ((readJson? text).or (readToml? text))

/-- The configuration in a file. -/
def ofFile (path : Text) : FileState → Except Error Config
  | .text content => ofText path content
  | _ => .error (.config "Failed to read config file")

end Config

end DryRun
