import DryRun.CommandLine.Command

/-!
# Help

The pages that are shown on request: what the program or one of its commands does, how it is
called, and what its arguments and options are.
-/

namespace DryRun

namespace CommandLine

/-- An entry of a page: how something is written, and what it does. -/
structure Entry where
  form : Text
  about : Text

/-- A page of help. -/
structure Page where
  about : String
  /-- How the program is called. -/
  usage : String
  /-- Entries under their titles. -/
  sections : List (String × List Entry)

/-! ## Entries -/

/-- The entry of an option. -/
def Switch.entry (switch : Switch) : Entry where
  form :=
    switch.letter.elim (List.replicate 4 ' ') (fun letter => ['-', letter, ',', ' ']) ++
      "--".toList ++ switch.name.toList ++
      if switch.admits?.isSome then " <".toList ++ switch.name.toUpper.toList ++ ['>'] else []
  about := switch.about.toList

/-- An entry with a remark on it. -/
def Entry.remark (entry : Entry) (remark : Text) : Entry :=
  { entry with about := entry.about ++ " [".toList ++ remark ++ [']'] }

/-- The entry of the option that shows help. -/
def helpEntry : Entry := ⟨"-h, --help".toList, "Print help".toList⟩

/-- The entry of the option that shows the version. -/
def versionEntry : Entry := ⟨"-V, --version".toList, "Print version".toList⟩

/-- The entry of the text that a command takes for code. -/
def codeEntry (verb : String) : Entry :=
  ⟨"[CODE]".toList, ("Code to " ++ verb ++ " (reads --file or stdin when omitted)").toList⟩

/-! ## Pages -/

/-- What the program does. -/
def aboutProgram : String := "Fallback Runner - analyze and simulate short Python submissions"

/-- What the command to run code does. -/
def aboutRun : String := "Run a submission through the full pipeline"

/-- What the command to check code does. -/
def aboutCheck : String := "Run the static analysis stages only and print the report"

/-- What the command to show the configuration does. -/
def aboutConfig : String := "Show the effective configuration"

/-- What the command to show help does. -/
def aboutHelp : String := "Print this message or the help of the given subcommand(s)"

/-- The page on the program. -/
def programPage : Page where
  about := aboutProgram
  usage := "fallback-runner [OPTIONS] <COMMAND>"
  sections :=
    [("Commands",
      [⟨"run".toList, aboutRun.toList⟩, ⟨"check".toList, aboutCheck.toList⟩,
        ⟨"config".toList, aboutConfig.toList⟩, ⟨"help".toList, aboutHelp.toList⟩]),
     ("Options", [jsonLogs.entry, helpEntry, versionEntry])]

/-- The page on running code; it shows the budget that is set. -/
def runPage (settings : Settings) : Page where
  about := aboutRun
  usage := "fallback-runner run [OPTIONS] [CODE]"
  sections :=
    let set := (settings.value? timeoutSetting).getD []
    [("Arguments", [codeEntry "execute"]),
     ("Options",
      [fileSwitch.entry, jsonLogs.entry,
        languageSwitch.entry.remark ("default: ".toList ++ defaultLanguage.toList),
        timeoutSwitch.entry.remark ("env: ".toList ++ timeoutSetting.toList ++ '=' :: set),
        jsonSwitch.entry, helpEntry])]

/-- The page on checking code. -/
def checkPage : Page where
  about := aboutCheck
  usage := "fallback-runner check [OPTIONS] [CODE]"
  sections :=
    [("Arguments", [codeEntry "check"]),
     ("Options", [fileSwitch.entry, jsonLogs.entry, helpEntry])]

/-- The page on showing the configuration. -/
def configPage : Page where
  about := aboutConfig
  usage := "fallback-runner config [OPTIONS]"
  sections := [("Options", [jsonLogs.entry, validateSwitch.entry, helpEntry])]

/-- The page on help. -/
def helpPage : Page where
  about := aboutHelp
  usage := "fallback-runner help [COMMAND]..."
  sections :=
    [("Arguments", [⟨"[COMMAND]...".toList, "Print help for the subcommand(s)".toList⟩])]

/-- The page on a topic. -/
def pageOn (settings : Settings) : Topic → Page
  | .program => programPage
  | .run => runPage settings
  | .check => checkPage
  | .config => configPage
  | .help => helpPage

/-! ## Layout -/

/-- A line with an entry, in a column of the given width for its form. -/
def Entry.line (width : Nat) (entry : Entry) : Text :=
  "  ".toList ++ entry.form ++ List.replicate (width - entry.form.length) ' ' ++ "  ".toList ++
    entry.about ++ ['\n']

/-- Entries under their title. -/
def sectionText (title : String) (entries : List Entry) : Text :=
  let width := entries.foldl (fun width entry => max width entry.form.length) 0
  title.toList ++ ":\n".toList ++ entries.flatMap (Entry.line width)

/-- The text of a page. -/
def Page.text (page : Page) : Text :=
  page.about.toList ++ "\n\nUsage: ".toList ++ page.usage.toList ++ ['\n'] ++
    page.sections.flatMap fun (title, entries) => '\n' :: sectionText title entries

end CommandLine

end DryRun
