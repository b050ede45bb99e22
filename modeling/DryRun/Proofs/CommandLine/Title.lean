import DryRun.CommandLine.Outcome
import DryRun.Proofs.Config.Precedence
import DryRun.Proofs.Evaluation.Room

/-!
# The title of the configuration

The command that shows the configuration names a file above it. By then the settings file has been
read, so the title is found with its settings, while the configuration has been found without them:
the two files are the same if the setting that decides where the configuration is comes from the
process (`config_title_names_file`).
-/

namespace DryRun

namespace Config

/-! ## Settings for the location -/

/-- The file of the configuration in a directory. -/
def fileIn (directory : Text) : Text := Path.join directory "config.toml".toList

/-- The file of the configuration among those of a user. -/
def userFileIn (directory : Text) : Text := fileIn (Path.join directory "fallback-runner".toList)

/-- The file that a directory for configuration files leads to; its path has to be absolute. -/
def ofUserDirectory? (directory : Text) : Option Text :=
  if Path.isAbsolute directory then some (userFileIn directory) else none

/-- The file that a home directory leads to; its path must not be empty. -/
def ofHome? (home : Text) : Option Text :=
  if home.isEmpty then none else some (userFileIn (Path.join home ".config".toList))

/-- The settings that can decide where the configuration is, each before those that count only
without it, and the file that a value leads to if it counts. -/
def locationRanking : List (String × (Text → Option Text)) :=
  [("FALLBACK_RUNNER_CONFIG", some),
    ("FALLBACK_RUNNER_CONFIG_DIR", fun directory => some (fileIn directory)),
    ("XDG_CONFIG_HOME", ofUserDirectory?), ("HOME", ofHome?)]

/-- The file that a setting of the ranking leads to, with the name of the setting. -/
def leads? (settings : Settings) (rank : String × (Text → Option Text)) : Option (String × Text) :=
  ((settings.value? rank.1).bind rank.2).map (rank.1, ·)

/-- The setting that decides where the configuration is, and the file that it leads to. -/
def deciding? (settings : Settings) : Option (String × Text) :=
  locationRanking.findSome? (leads? settings)

theorem map_userFileIn_home (home : Option Text) :
    ((home.filter (!·.isEmpty)).map (Path.join · ".config".toList)).map userFileIn =
      home.bind ofHome? := by
  cases home with
  | none => rfl
  | some home => cases home <;> rfl

theorem map_userDirectory? (settings : Settings) (home : Option Text) :
    (userDirectory? settings home).map userFileIn =
      ((settings.value? "XDG_CONFIG_HOME").bind ofUserDirectory?).or
        (((settings.value? "HOME").bind ofHome?).or (home.bind ofHome?)) := by
  unfold userDirectory? homeDirectory?
  rw [Option.map_or, Option.map_or, Option.map_or, map_userFileIn_home, map_userFileIn_home]
  cases settings.value? "XDG_CONFIG_HOME" with
  | none => rfl
  | some directory =>
    by_cases habsolute : Path.isAbsolute directory = true
    · simp [ofUserDirectory?, habsolute, Option.filter_some_pos]
    · simp [ofUserDirectory?, habsolute, Option.filter_some_neg]

theorem location_eq (settings : Settings) (home : Option Text) :
    location settings home =
      (((deciding? settings).map (·.2)).or (home.bind ofHome?)).getD
        (fileIn ".fallback-runner".toList) := by
  unfold location directory deciding? locationRanking
  simp only [List.findSome?_cons, List.findSome?_nil, leads?]
  cases settings.value? "FALLBACK_RUNNER_CONFIG" with
  | some path => rfl
  | none =>
    cases settings.value? "FALLBACK_RUNNER_CONFIG_DIR" with
    | some directory => rfl
    | none =>
      refine Eq.trans (b := ((userDirectory? settings home).map userFileIn).getD
        (fileIn ".fallback-runner".toList)) ?_ ?_
      · cases userDirectory? settings home <;> rfl
      · rw [map_userDirectory?]
        cases (settings.value? "XDG_CONFIG_HOME").bind ofUserDirectory? with
        | some path => rfl
        | none => cases (settings.value? "HOME").bind ofHome? <;> rfl

/-- The settings of a file change nothing for what a setting of the process decides. -/
theorem deciding?_eq {settings given : Settings}
    (h : ∀ name path, deciding? (settings.orElse given) = some (name, path) →
      (settings.value? name).isSome) :
    deciding? (settings.orElse given) = deciding? settings := by
  unfold deciding? at h ⊢
  generalize locationRanking = ranking at h ⊢
  induction ranking with
  | nil => rfl
  | cons rank ranking ih =>
    have hvalue := Settings.value?_orElse settings given rank.1
    rw [List.findSome?_cons] at h ⊢
    rw [List.findSome?_cons]
    cases hset : settings.value? rank.1 with
    | some value =>
      have hsame : leads? (settings.orElse given) rank = leads? settings rank := by
        unfold leads?
        rw [hvalue, hset]
        rfl
      rw [hsame] at h ⊢
      cases hleads : leads? settings rank with
      | some found => rfl
      | none =>
        rw [hleads] at h
        exact ih h
    | none =>
      -- Only the settings file can give this one, so by `h` it does not decide.
      have hnone : leads? settings rank = none := by
        unfold leads?
        rw [hset]
        rfl
      rw [hnone]
      cases hleads : leads? (settings.orElse given) rank with
      | some found =>
        rw [hleads] at h
        obtain ⟨path, -, rfl⟩ := Option.map_eq_some_iff.1 hleads
        have hsome := h rank.1 path rfl
        rw [hset] at hsome
        cases hsome
      | none =>
        rw [hleads] at h
        exact ih h

/-! ## Reading the file -/

/-- The configuration that a file gives; the default one if the file is missing. -/
def readAt (files : Files) (path : Text) : Except Error Config :=
  if files path = .missing then .ok default else ofFile path (files path)

theorem load_eq (settings : Settings) (files : Files) (home : Option Text) :
    load settings files home =
      (readAt files (location settings home)).map (·.override (allSettings settings files)) := by
  unfold load readAt
  dsimp only
  split
  · rfl
  · cases ofFile (location settings home) (files (location settings home)) <;> rfl

theorem location_allSettings {settings : Settings} {files : Files} (home : Option Text)
    (h : ∀ name path, deciding? (allSettings settings files) = some (name, path) →
      (settings.value? name).isSome) :
    location (allSettings settings files) home = location settings home := by
  unfold allSettings at h ⊢
  rw [Settings.withFile_eq] at h ⊢
  rw [location_eq, location_eq, deciding?_eq h]

end Config

namespace CommandLine

/-! ## The output -/

/-- What is printed of a configuration below the title, nothing if it cannot be written. -/
def shown (config : Config) : Text :=
  match config.writeToml with
  | .ok text => line text
  | .error _ => []

theorem output_showConfig (path : Text) (config : Config) :
    (showConfig path config).output = line ("# ".toList ++ path) ++ shown config := by
  unfold showConfig shown
  cases config.writeToml with
  | ok text => rfl
  | error error => exact (List.append_nil _).symm

/-- **Titles.** The title is the file that all settings lead to, and the settings below it come from
the file that those of the process lead to; the two are the same unless the settings file gives the
setting that decides. -/
theorem config_title_names_file {arguments : List Text} {surroundings : Surroundings}
    {config : Config}
    (hcommand : Command.ofArguments surroundings.settings arguments = .ok (.config false))
    (hconfig : configIn surroundings = .ok config) :
    let { settings, files, home, .. } := surroundings
    let title := Config.location (Config.allSettings settings files) home
    (outcome arguments surroundings).output = line ("# ".toList ++ title) ++ shown config ∧
      (∃ base, Config.readAt files (Config.location settings home) = .ok base ∧
        config = base.override (Config.allSettings settings files)) ∧
      ((∀ name path, Config.deciding? (Config.allSettings settings files) = some (name, path) →
        (settings.value? name).isSome) → title = Config.location settings home) := by
  obtain ⟨settings, files, input, spent, home⟩ := surroundings
  dsimp only at hcommand ⊢
  refine ⟨?_, ?_, Config.location_allSettings home⟩
  · unfold outcome
    rw [hcommand]
    dsimp only [Command.outcome]
    rw [hconfig]
    exact output_showConfig _ config
  · have hload : Config.load settings files home = .ok config := hconfig
    rw [Config.load_eq] at hload
    cases hbase : Config.readAt files (Config.location settings home) with
    | error error =>
      rw [hbase] at hload
      cases hload
    | ok base =>
      rw [hbase] at hload
      exact ⟨base, rfl, (Except.ok.inj hload).symm⟩

/-- A settings file that names another directory does not count for the title if the process names a
file. -/
theorem config_title_names_file_of_process :
    let files : Files := fun path =>
      if path = ".env".toList then
        .text "FALLBACK_RUNNER_CONFIG_DIR=b\nFALLBACK_RUNNER_TIMEOUT=2".toList
      else if path = "a.toml".toList then .text "[interpreter]\nmax_nesting = 3\n".toList
      else .missing
    let surroundings : Surroundings :=
      ⟨[("FALLBACK_RUNNER_CONFIG".toList, "a.toml".toList)], files, .missing, .zero, none⟩
    (outcome ["config".toList] surroundings).output =
      ("# a.toml\n[executor]\ndefault_timeout_secs = 2.0\nmemory_delay_cap = \"1s\"\n" ++
        "loop_delay_cap = \"3s\"\nmax_output_bytes = 1048576\n\n" ++
        "[interpreter]\nmax_call_depth = 64\nmax_nesting = 3\n\n").toList := by
  intro files surroundings
  have hconfig : configIn surroundings =
      .ok ⟨{ Config.defaultExecutor with defaultTimeout := 2 }, ⟨64, 3⟩⟩ := by
    decide +kernel
  have hcommand : Command.ofArguments surroundings.settings ["config".toList] =
      .ok (.config false) := rfl
  have hdeciding : Config.deciding? (Config.allSettings surroundings.settings files) =
      some ("FALLBACK_RUNNER_CONFIG", "a.toml".toList) := by decide +kernel
  obtain ⟨houtput, -, htitle⟩ := config_title_names_file hcommand hconfig
  have hprocess := htitle fun name path hfound => by
    cases hdeciding.symm.trans hfound
    rfl
  rw [houtput, hprocess]
  decide +kernel

/-- The title names a file of the settings file, though the settings below it come from another. -/
theorem config_title_names_unread_file :
    let files : Files := fun path =>
      if path = ".env".toList then .text "FALLBACK_RUNNER_CONFIG=b.toml".toList
      else if path = "a/config.toml".toList then
        .text "[executor]\ndefault_timeout_secs = 7\n".toList
      else if path = "b.toml".toList then
        .text "[executor]\ndefault_timeout_secs = 8\n".toList
      else .missing
    let settings : Settings := [("FALLBACK_RUNNER_CONFIG_DIR".toList, "a".toList)]
    Config.location settings = "a/config.toml".toList ∧
      "# b.toml\n[executor]\ndefault_timeout_secs = 7.0\n".toList <+:
        (outcome ["config".toList] ⟨settings, files, .missing, .zero, none⟩).output := by
  intro files settings
  exact ⟨by decide +kernel, by decide +kernel⟩

end CommandLine

end DryRun
