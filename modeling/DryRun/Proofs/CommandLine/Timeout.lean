import DryRun.CommandLine.Outcome
import DryRun.Proofs.Config.Saved

/-!
# Budgets of time

The setting for the budget of time is read twice: with the arguments of a command that runs code,
where it must be a number as it stands, and with the configuration, where it is trimmed and does not
count if it is no number. Wherever the first reading succeeds the two agree, so code that is run
without a budget of its own has the one that the configuration shows
(`run_within_configured_timeout`).
-/

namespace DryRun

namespace CommandLine

/-! ## Commands under settings -/

/-- A command under settings: they give code a budget if the command has none. -/
def Command.under (settings : Settings) : Command → Except Stop Command
  | .run origin language none asJson =>
    (timeoutOf settings .nothing).map fun timeout => .run origin language timeout asJson
  | command => .ok command

theorem timeoutOf_eq (settings : Settings) (given : Given) :
    timeoutOf settings given = (timeoutOf [] given).bind fun timeout =>
      timeout.elim (timeoutOf settings .nothing) (.ok ∘ some) := by
  unfold timeoutOf
  cases given.values.lookup timeoutSwitch.name with
  | none => rfl
  | some text =>
    dsimp only [Option.or]
    cases readFloat? text <;> rfl

theorem runOf_eq (settings : Settings) (arguments : List Text) :
    runOf settings arguments = (runOf [] arguments).bind (Command.under settings) := by
  unfold runOf
  dsimp only
  cases readArguments _ _ _ arguments with
  | error stop => rfl
  | ok given =>
    simp only [bind, Except.bind]
    cases codeOrigin given with
    | error stop => rfl
    | ok origin =>
      dsimp only
      rw [timeoutOf_eq settings]
      cases timeoutOf [] given with
      | error stop => rfl
      | ok timeout => cases timeout <;> rfl

theorem checkOf_eq (settings : Settings) (arguments : List Text) :
    checkOf arguments = (checkOf arguments).bind (Command.under settings) := by
  unfold checkOf
  cases readArguments _ _ _ arguments with
  | error stop => rfl
  | ok given =>
    simp only [bind, Except.bind]
    cases codeOrigin given <;> rfl

theorem configOf_eq (settings : Settings) (arguments : List Text) :
    configOf arguments = (configOf arguments).bind (Command.under settings) := by
  unfold configOf
  cases readArguments _ _ _ arguments with
  | error stop => rfl
  | ok given =>
    simp only [bind, Except.bind]
    split <;> rfl

theorem commandOf_eq (settings : Settings) (name : Text) (arguments : List Text) :
    commandOf settings name arguments =
      (commandOf [] name arguments).bind (Command.under settings) := by
  unfold commandOf
  split
  · exact runOf_eq settings arguments
  · split
    · exact checkOf_eq settings arguments
    · split
      · exact configOf_eq settings arguments
      · rfl

theorem commandFrom_eq (settings : Settings) (logged : Bool) (arguments : List Text) :
    commandFrom settings logged arguments =
      (commandFrom [] logged arguments).bind (Command.under settings) := by
  induction arguments generalizing logged with
  | nil => rfl
  | cons argument rest ih =>
    unfold commandFrom
    split
    · exact commandOf_eq settings _ rest
    · rfl
    · split
      · rfl
      · split
        · rfl
        · split
          · exact ih true
          · rfl

/-- Settings change a command line in nothing but the budget of code that has none. -/
theorem ofArguments_eq (settings : Settings) (arguments : List Text) :
    Command.ofArguments settings arguments =
      (Command.ofArguments [] arguments).bind (Command.under settings) :=
  commandFrom_eq settings false arguments

/-! ## The budget that is set -/

/-- Whether the setting for the budget of time is a number as it stands, if there is one. -/
def setsBudget (settings : Settings) : Bool :=
  (settings.value? timeoutSetting).all fun text => (readFloat? text).isSome

theorem timeoutOf_of_not_setsBudget {settings : Settings} (h : ¬ setsBudget settings) :
    timeoutOf settings .nothing = .error .usage := by
  unfold setsBudget at h
  unfold timeoutOf
  dsimp only [Given.nothing, List.lookup, Option.or]
  cases hset : settings.value? timeoutSetting with
  | none => exact absurd (hset ▸ rfl) h
  | some text =>
    rw [hset, Option.all_some, Option.isSome_iff_ne_none, not_not] at h
    dsimp only
    rw [h]

theorem defaultTimeout_of_configIn {surroundings : Surroundings} {config : Config}
    (h : configIn surroundings = .ok config) :
    ∃ fallback, config.executor.defaultTimeout =
      Config.ranked surroundings.settings
        (surroundings.settings.givenIn (surroundings.files Config.settingsFile)) timeoutSetting
        readFloat? fallback := by
  unfold configIn Config.load at h
  dsimp only at h
  split at h
  · cases h
    exact ⟨_, Config.valueOr_withFile _ _ _ _ _⟩
  · cases hfile : Config.ofFile (Config.location surroundings.settings surroundings.home)
      (surroundings.files (Config.location surroundings.settings surroundings.home)) with
    | error error =>
      rw [hfile] at h
      cases h
    | ok base =>
      rw [hfile] at h
      cases h
      exact ⟨_, Config.valueOr_withFile _ _ _ _ _⟩

/-- Where both readings of the setting give a number they give the same one. -/
theorem timeoutOf_of_setsBudget {surroundings : Surroundings} {config : Config}
    (hconfig : configIn surroundings = .ok config) (h : setsBudget surroundings.settings) :
    ∃ timeout, timeoutOf surroundings.settings .nothing = .ok timeout ∧
      timeout.getD config.executor.defaultTimeout = config.executor.defaultTimeout := by
  obtain ⟨fallback, htimeout⟩ := defaultTimeout_of_configIn hconfig
  unfold setsBudget at h
  unfold timeoutOf
  dsimp only [Given.nothing, List.lookup, Option.or]
  unfold Config.ranked at htimeout
  cases hset : surroundings.settings.value? timeoutSetting with
  | none => exact ⟨none, rfl, rfl⟩
  | some text =>
    rw [hset, Option.all_some] at h
    obtain ⟨seconds, hseconds⟩ := Option.isSome_iff_exists.1 h
    rw [hset] at htimeout
    dsimp only at htimeout ⊢
    rw [trim_of_readFloat? hseconds, hseconds] at htimeout
    rw [hseconds]
    exact ⟨some seconds, rfl, htimeout.symm⟩

/-! ## Outcomes -/

/-- What is printed of a result, in JSON or for a reader. -/
def resultText (asJson : Bool) (result : RunResult) : Text :=
  if asJson then line result.write else resultLines result

theorem runCode_eq {surroundings : Surroundings} {origin : CodeOrigin} {code : Text}
    {config : Config} (hcode : readCode surroundings origin = .ok code)
    (hconfig : configIn surroundings = .ok config) (language : Text) (timeout : Option Float)
    (asJson : Bool) :
    runCode surroundings origin language timeout asJson =
      .ok (resultText asJson
        (execute config.executor (.ofProgram config.interpreter) surroundings.spent
          ⟨String.ofList code, String.ofList language,
            timeout.getD config.executor.defaultTimeout⟩)) := by
  unfold runCode
  rw [hcode, hconfig]
  rfl

/-- The line of the budget below its title. -/
def budgetLines (executor : ExecutorConfig) : Text :=
  "[executor]\n".toList ++
    Config.keyLine "default_timeout_secs" (Config.tomlFloat executor.defaultTimeout)

theorem budgetLines_prefix_executorLines {executor : ExecutorConfig} {text : Text}
    (h : Config.executorLines? executor = some text) : budgetLines executor <+: text := by
  unfold Config.executorLines? at h
  rw [Option.bind_eq_bind, Option.bind_eq_some_iff] at h
  obtain ⟨limit, -, h⟩ := h
  rw [Option.pure_def, Option.some.injEq] at h
  rw [← h, List.append_assoc, List.append_assoc]
  exact List.prefix_append _ _

theorem budgetLines_prefix_writeToml {config : Config} {text : Text}
    (h : config.writeToml = .ok text) : budgetLines config.executor <+: text := by
  obtain ⟨executor, interpreter, hexecutor, -, rfl⟩ := Config.exists_lines_of_writeToml h
  exact (budgetLines_prefix_executorLines hexecutor).trans (List.prefix_append _ _)

/-- **Budgets.** Code that is run without a budget of its own has exactly the budget that the
configuration shows; only a setting that is no number as it stands is rejected. -/
theorem run_within_configured_timeout {arguments : List Text} {surroundings : Surroundings}
    {origin : CodeOrigin} {language code : Text} {asJson : Bool} {config : Config}
    (hcommand : Command.ofArguments [] arguments = .ok (.run origin language none asJson))
    (hcode : readCode surroundings origin = .ok code)
    (hconfig : configIn surroundings = .ok config) :
    (outcome arguments surroundings =
      if setsBudget surroundings.settings then
        .done (resultText asJson
          (execute config.executor (.ofProgram config.interpreter) surroundings.spent
            ⟨String.ofList code, String.ofList language, config.executor.defaultTimeout⟩))
      else .stopped surroundings.settings .usage) ∧
    ∀ text, config.writeToml = .ok text →
      (∃ path, outcome ["config".toList] surroundings =
        .done (line ("# ".toList ++ path) ++ line text)) ∧
      budgetLines config.executor <+: text := by
  refine ⟨?_, fun text htext => ⟨?_, budgetLines_prefix_writeToml htext⟩⟩
  · have hread : Command.ofArguments surroundings.settings arguments =
        (timeoutOf surroundings.settings .nothing).map fun timeout =>
          Command.run origin language timeout asJson := by
      rw [ofArguments_eq, hcommand]
      rfl
    unfold outcome
    rw [hread]
    by_cases hset : setsBudget surroundings.settings
    · obtain ⟨timeout, htimeout, hsame⟩ := timeoutOf_of_setsBudget hconfig hset
      rw [if_pos hset, htimeout]
      show Outcome.ofExcept (runCode surroundings origin language timeout asJson) = _
      rw [runCode_eq hcode hconfig, hsame]
      rfl
    · rw [if_neg hset, timeoutOf_of_not_setsBudget hset]
      rfl
  · refine ⟨Config.location (Config.allSettings surroundings.settings surroundings.files)
      surroundings.home, ?_⟩
    have hcommand : Command.ofArguments surroundings.settings ["config".toList] =
        .ok (.config false) := rfl
    unfold outcome
    rw [hcommand]
    dsimp only [Command.outcome]
    rw [hconfig]
    dsimp only [showConfig]
    rw [htext]
    rfl

/-- A loop without end is reported after the quarter of a second that the settings file allows. -/
theorem run_within_configured_timeout_of_settings_file :
    let files : Files := fun path =>
      if path = ".env".toList then .text "FALLBACK_RUNNER_TIMEOUT=' .25 '".toList else .missing
    let surroundings : Surroundings := ⟨[], files, .missing, .zero, none⟩
    let executor := { Config.defaultExecutor with defaultTimeout := 0.25 }
    (outcome ["run".toList, "while True:\n    x = 1".toList] surroundings).output =
        ("✗ Timeout TimeoutError: infinite loop detected on line 1: 'while True:' never ends " ++
          "because its body has no 'break' statement\nTime: 250 ms\n").toList ∧
      budgetLines executor = "[executor]\ndefault_timeout_secs = 0.25\n".toList := by
  intro files surroundings executor
  have hcommand : Command.ofArguments [] ["run".toList, "while True:\n    x = 1".toList] =
      .ok (.run (.argument "while True:\n    x = 1".toList) "python".toList none false) := rfl
  have hconfig : configIn surroundings = .ok { Config.default with executor := executor } :=
    congrArg Except.ok (by decide +kernel)
  have hbudget := (run_within_configured_timeout hcommand rfl hconfig).1
  rw [if_pos (by decide +kernel)] at hbudget
  rw [hbudget]
  constructor
  · decide +kernel
  · decide +kernel

/-- A budget between blanks is rejected with the command, though the configuration has it: the
setting is read as it stands for the one and trimmed for the other. -/
theorem run_rejected_for_padded_timeout :
    let settings : Settings := [("FALLBACK_RUNNER_TIMEOUT".toList, " 5 ".toList)]
    let surroundings : Surroundings := ⟨settings, fun _ => .missing, .missing, .zero, none⟩
    outcome ["run".toList, "print(1)".toList] surroundings = ⟨[], 2, none⟩ ∧
      ∃ config, configIn surroundings = .ok config ∧ config.executor.defaultTimeout = 5 := by
  intro settings surroundings
  exact ⟨by decide +kernel, Config.default.override settings, rfl, by decide +kernel⟩

end CommandLine

end DryRun
