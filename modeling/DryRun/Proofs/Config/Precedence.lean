import DryRun.Config.Loading

/-!
# Precedence

Where the value of a field comes from: a setting of the process goes before one in the settings
file, and that before the configuration file, which goes before the default. A setting that is there
but has no value of its kind leaves the field to the configuration file, whatever the settings file
says (`load_by_precedence`).
-/

namespace DryRun

deriving instance DecidableEq for ExecutorConfig

deriving instance DecidableEq for Config

/-! ## Settings in a file -/

namespace Settings

/-- The settings that lines give, up to the first malformed one; the values behind a dollar are
those of the lines before and of the settings around them. -/
def givenOn (settings : Settings) : List Text → Settings
  | [] => []
  | line :: rest =>
    if isOver (Text.trim line) then givenOn settings rest
    else
      match entry? settings (Text.trim line) with
      | some entry => entry :: givenOn (settings.orElse [entry]) rest
      | none => []

/-- The settings that a file gives. -/
def givenIn (settings : Settings) : FileState → Settings
  | .text ('\uFEFF' :: content) | .text content => settings.givenOn (lines content)
  | _ => []

theorem addLines_eq (settings : Settings) (lines : List Text) :
    settings.addLines lines = settings.orElse (settings.givenOn lines) := by
  induction lines generalizing settings with
  | nil => exact (List.append_nil settings).symm
  | cons line rest ih =>
    unfold addLines givenOn
    split
    · exact ih settings
    · cases settings.entry? (Text.trim line) with
      | some entry => exact (ih _).trans (List.append_assoc settings [entry] _)
      | none => exact (List.append_nil settings).symm

theorem withFile_eq (settings : Settings) (file : FileState) :
    settings.withFile file = settings.orElse (settings.givenIn file) := by
  cases file with
  | text content =>
    by_cases hmark : ∃ rest, content = '\uFEFF' :: rest
    · obtain ⟨rest, rfl⟩ := hmark
      exact addLines_eq settings (lines rest)
    · have hgiven : settings.givenIn (.text content) = settings.givenOn (lines content) := by
        unfold givenIn
        split <;> simp_all
      rw [hgiven, ← addLines_eq]
      unfold withFile
      split <;> simp_all
  | _ => exact (List.append_nil settings).symm

theorem value?_orElse (settings others : Settings) (name : String) :
    (settings.orElse others).value? name = (settings.value? name).or (others.value? name) :=
  List.lookup_append

end Settings

namespace Config

/-! ## Values in a file -/

/-- What a file gives for the limits of execution; none for a field that it leaves out. -/
structure ExecutorValues where
  defaultTimeout : Option Float
  memoryDelayCap : Option Duration
  loopDelayCap : Option Duration
  maxOutputBytes : Option Nat
  deriving DecidableEq

/-- The limits of execution, with defaults for the fields that are left out. -/
def ExecutorValues.orDefaults (values : ExecutorValues) : ExecutorConfig where
  defaultTimeout := values.defaultTimeout.getD defaultExecutor.defaultTimeout
  memoryDelayCap := values.memoryDelayCap.getD defaultExecutor.memoryDelayCap
  loopDelayCap := values.loopDelayCap.getD defaultExecutor.loopDelayCap
  maxOutputBytes := values.maxOutputBytes.getD defaultExecutor.maxOutputBytes

/-- What a file gives for the limits of evaluation; none for a field that it leaves out. -/
structure InterpreterValues where
  calls : Option Nat
  nesting : Option Nat
  deriving DecidableEq

/-- The limits of evaluation, with defaults for the fields that are left out. -/
def InterpreterValues.orDefaults (values : InterpreterValues) : Evaluation.Limits where
  calls := values.calls.getD defaultInterpreter.calls
  nesting := values.nesting.getD defaultInterpreter.nesting

/-- What a configuration file gives. -/
structure FileValues where
  executor : ExecutorValues
  interpreter : InterpreterValues
  deriving DecidableEq

namespace FileValues

/-- No value for any field. -/
def nothing : FileValues := ⟨⟨none, none, none, none⟩, ⟨none, none⟩⟩

/-- The configuration, with defaults for the fields that are left out. -/
def orDefaults (values : FileValues) : Config where
  executor := values.executor.orDefaults
  interpreter := values.interpreter.orDefaults

end FileValues

section Records

variable {α β : Type} (format : Format α)

/-- The value of a field that may be left out. -/
def given? (decode : α → Option β) : Option α → Option (Option β)
  | none => some none
  | some value => (decode value).map some

/-- What a section gives for the limits of execution. -/
def executorValues? : Option α → Option ExecutorValues
  | none => some FileValues.nothing.executor
  | some record => do
    let [timeout, memoryCap, loopCap, output] ← format.fields?
      ["default_timeout_secs", "memory_delay_cap", "loop_delay_cap", "max_output_bytes"] record
      | none
    return {
      defaultTimeout := ← given? format.float? timeout
      memoryDelayCap := ← given? format.duration? memoryCap
      loopDelayCap := ← given? format.duration? loopCap
      maxOutputBytes := ← given? format.word? output }

/-- What a section gives for the limits of evaluation. -/
def interpreterValues? : Option α → Option InterpreterValues
  | none => some FileValues.nothing.interpreter
  | some record => do
    let [calls, nesting] ← format.fields? ["max_call_depth", "max_nesting"] record | none
    return { calls := ← given? format.word? calls, nesting := ← given? format.word? nesting }

/-- What a record gives. -/
def fileValues? (record : α) : Option FileValues := do
  let [executor, interpreter] ← format.fields? ["executor", "interpreter"] record | none
  return {
    executor := ← executorValues? format executor
    interpreter := ← interpreterValues? format interpreter }

theorem orDefault_eq (decode : α → Option β) (default : β) (value : Option α) :
    orDefault decode default value = (given? decode value).map (·.getD default) := by
  cases value with
  | none => rfl
  | some value =>
    change decode value = ((decode value).map some).map (·.getD default)
    cases decode value <;> rfl

theorem executorOf?_eq (record : α) :
    executorOf? format record = (executorValues? format (some record)).map (·.orDefaults) := by
  simp only [executorOf?, executorValues?]
  rcases format.fields? _ record with _ | ⟨_ | ⟨timeout, _ | ⟨memoryCap, _ | ⟨loopCap, _ |
    ⟨output, _ | ⟨_, _⟩⟩⟩⟩⟩⟩ <;> try rfl
  simp only [Option.bind_eq_bind, Option.bind_some, orDefault_eq]
  cases given? format.float? timeout with
  | none => rfl
  | some timeout =>
    cases given? format.duration? memoryCap with
    | none => rfl
    | some memoryCap =>
      cases given? format.duration? loopCap with
      | none => rfl
      | some loopCap => cases given? format.word? output <;> rfl

theorem interpreterOf?_eq (record : α) :
    interpreterOf? format record =
      (interpreterValues? format (some record)).map (·.orDefaults) := by
  simp only [interpreterOf?, interpreterValues?]
  rcases format.fields? _ record with _ | ⟨_ | ⟨calls, _ | ⟨nesting, _ | ⟨_, _⟩⟩⟩⟩ <;> try rfl
  simp only [Option.bind_eq_bind, Option.bind_some, orDefault_eq]
  cases given? format.word? calls with
  | none => rfl
  | some calls => cases given? format.word? nesting <;> rfl

/-- A record has the configuration of what it gives. -/
theorem ofRecord?_eq (record : α) :
    ofRecord? format record = (fileValues? format record).map (·.orDefaults) := by
  unfold ofRecord? fileValues?
  rcases format.fields? _ record with _ | ⟨_ | ⟨executor, _ | ⟨interpreter, _ | ⟨_, _⟩⟩⟩⟩ <;>
    try rfl
  have hexecutor : orDefault (executorOf? format) defaultExecutor executor =
      (executorValues? format executor).map (·.orDefaults) := by
    cases executor with
    | none => rfl
    | some record => exact executorOf?_eq format record
  have hinterpreter : orDefault (interpreterOf? format) defaultInterpreter interpreter =
      (interpreterValues? format interpreter).map (·.orDefaults) := by
    cases interpreter with
    | none => rfl
    | some record => exact interpreterOf?_eq format record
  simp only [Option.bind_eq_bind, Option.bind_some, hexecutor, hinterpreter]
  cases executorValues? format executor with
  | none => rfl
  | some executor => cases interpreterValues? format interpreter <;> rfl

end Records

/-- What a text gives, by the extension of its path. -/
def valuesOfText? (path text : Text) : Option FileValues :=
  let json := (Json.readRelaxed? text).bind (fileValues? relaxedJson)
  let toml := (Toml.read? text).bind (fileValues? toml)
  if Path.extension? path = some "json".toList then json
  else if Path.extension? path = some "toml".toList then toml
  else json.or toml

/-- What stands at a path gives: nothing if there is no file; none if what is there is malformed or
cannot be read. -/
def valuesAt? (path : Text) : FileState → Option FileValues
  | .missing => some .nothing
  | .unreadable => none
  | .text content => valuesOfText? path content

theorem ofText_of_valuesOfText? {path text : Text} {values : FileValues}
    (h : valuesOfText? path text = some values) : ofText path text = .ok values.orDefaults := by
  have hjson : readJson? text =
      ((Json.readRelaxed? text).bind (fileValues? relaxedJson)).map (·.orDefaults) := by
    unfold readJson?
    rw [Option.map_bind]
    exact congrArg _ (funext (ofRecord?_eq relaxedJson))
  have htoml : readToml? text = ((Toml.read? text).bind (fileValues? toml)).map (·.orDefaults) := by
    unfold readToml?
    rw [Option.map_bind]
    exact congrArg _ (funext (ofRecord?_eq toml))
  unfold valuesOfText? at h
  unfold ofText
  dsimp only at h
  split at h
  · rename_i hextension
    rw [if_pos hextension, hjson, h]
    rfl
  · rename_i hjsonExtension
    rw [if_neg hjsonExtension]
    split at h
    · rename_i hextension
      rw [if_pos hextension, htoml, h]
      rfl
    · rename_i hextension
      rw [if_neg hextension, hjson, htoml, ← Option.map_or, h]
      rfl

/-! ## Fields -/

/-- The value of a field that a configuration file gives, or its default, behind a setting of the
process or else one in the settings file; one of another kind does not count. -/
def ranked (settings fileSettings : Settings) (name : String) (read? : Text → Option α)
    (value : α) : α :=
  match settings.value? name with
  | some text => (read? (Text.trim text)).getD value
  | none =>
    match fileSettings.value? name with
    | some text => (read? (Text.trim text)).getD value
    | none => value

theorem valueOr_withFile (settings : Settings) (file : FileState) (name : String)
    (read? : Text → Option α) (value : α) :
    valueOr (settings.withFile file) name read? value =
      ranked settings (settings.givenIn file) name read? value := by
  unfold valueOr ranked
  rw [Settings.withFile_eq, Settings.value?_orElse]
  cases settings.value? name with
  | some text => rfl
  | none => cases (settings.givenIn file).value? name <;> rfl

/-- **Precedence.** Where the configuration file gives values, or there is none, the configuration
is loaded, and each of its fields is decided by the one setting of its name. -/
theorem load_by_precedence {settings : Settings} {files : Files} {home : Option Text}
    {values : FileValues}
    (h : valuesAt? (location settings home) (files (location settings home)) = some values) :
    let fileSettings := settings.givenIn (files settingsFile)
    load settings files home = .ok
      { executor :=
          { defaultTimeout := ranked settings fileSettings "FALLBACK_RUNNER_TIMEOUT" readFloat?
              (values.executor.defaultTimeout.getD 30)
            memoryDelayCap := ranked settings fileSettings "FALLBACK_RUNNER_MEMORY_DELAY_CAP"
              Duration.ofUnits? (values.executor.memoryDelayCap.getD (.ofMilliseconds 1000))
            loopDelayCap := ranked settings fileSettings "FALLBACK_RUNNER_LOOP_DELAY_CAP"
              Duration.ofUnits? (values.executor.loopDelayCap.getD (.ofMilliseconds 3000))
            maxOutputBytes := ranked settings fileSettings "FALLBACK_RUNNER_MAX_OUTPUT"
              readWord? (values.executor.maxOutputBytes.getD (1024 * 1024)) }
        interpreter :=
          { calls := ranked settings fileSettings "FALLBACK_RUNNER_MAX_CALL_DEPTH" readWord?
              (values.interpreter.calls.getD 64)
            nesting := ranked settings fileSettings "FALLBACK_RUNNER_MAX_NESTING" readWord?
              (values.interpreter.nesting.getD 200) } } := by
  intro fileSettings
  have hloaded : load settings files home =
      .ok (values.orDefaults.override (allSettings settings files)) := by
    unfold load
    dsimp only
    cases hstate : files (location settings home) with
    | missing =>
      rw [hstate] at h
      cases h
      rfl
    | unreadable =>
      rw [hstate] at h
      cases h
    | text content =>
      rw [hstate] at h
      have hfound : ofFile (location settings home) (.text content) = .ok values.orDefaults :=
        ofText_of_valuesOfText? h
      rw [if_neg FileState.noConfusion, hfound]
      rfl
  rw [hloaded]
  unfold Config.override overrideExecutor overrideInterpreter allSettings
  simp only [valueOr_withFile]
  rfl

/-- A timeout of the process that is none leaves the field to the configuration file, whose path the
settings file cannot change; of the other fields each layer decides one. -/
theorem load_by_precedence_in_all_layers :
    let settings : Settings :=
      [("FALLBACK_RUNNER_CONFIG".toList, "a.toml".toList),
        ("FALLBACK_RUNNER_TIMEOUT".toList, "soon".toList),
        ("FALLBACK_RUNNER_MAX_OUTPUT".toList, " +9 ".toList)]
    let files : Files := fun path =>
      if path = ".env".toList then
        .text ("FALLBACK_RUNNER_TIMEOUT=5\nFALLBACK_RUNNER_CONFIG=b.toml\n" ++
          "FALLBACK_RUNNER_MAX_NESTING='5'0\nFALLBACK_RUNNER_MAX_OUTPUT=8").toList
      else if path = "a.toml".toList then
        .text ("[executor]\ndefault_timeout_secs = 7\nloop_delay_cap = '250ms'\n" ++
          "[interpreter]\nmax_nesting = 3\n").toList
      else .missing
    let values : FileValues := ⟨⟨some 7, none, some (.ofMilliseconds 250), none⟩, ⟨none, some 3⟩⟩
    valuesAt? (location settings) (files (location settings)) = some values ∧
      load settings files =
        .ok ⟨⟨7, .ofMilliseconds 1000, .ofMilliseconds 250, 9⟩, ⟨64, 50⟩⟩ := by
  intro settings files values
  have hvalues : valuesAt? (location settings) (files (location settings)) = some values := by
    decide +kernel
  refine ⟨hvalues, (load_by_precedence hvalues).trans (congrArg Except.ok ?_)⟩
  decide +kernel

end Config

end DryRun
