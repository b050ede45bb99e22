import DryRun.Execution.Executor
import DryRun.Proofs.Bracket.Marks
import DryRun.Proofs.Rule.Sites
import DryRun.Proofs.Text.Margins

/-!
# Stages

The stages of an execution in their order: the language, the checks of the source, the interpreter.
The first with something to report decides the result (`first_report_decides`), and what a result
says in one field agrees with what it says in the others (`RunResult.Coherent`).

1. Results and their fields.
2. Blank sources, which no check finds anything in; so the verdict is the first finding of the
   report (`verdict_of_report`).
3. The race of an interpreter with the budget.
4. The stages.
-/

namespace DryRun

/-! ## Results -/

/-- A result that names at most one failure, names it in its flag and in its message alike, and
gives neither error nor output beside a failure, nor output beside an error. -/
structure RunResult.Coherent (result : RunResult) : Prop where
  failureCount_le_one : result.failureCount ≤ 1
  syntaxError_iff : result.syntaxError = true ↔ result.syntaxErrorInfo.isSome = true
  memoryExceeded_iff : result.memoryExceeded = true ↔ result.memoryErrorMessage.isSome = true
  timeout_iff : result.timeout = true ↔ result.timeoutMessage.isSome = true
  nothing_beside_failure :
    result.syntaxError = true ∨ result.memoryExceeded = true ∨ result.timeout = true →
      result.error = none ∧ result.output = ""
  nothing_beside_error : result.error.isSome = true →
    result.syntaxError = false ∧ result.memoryExceeded = false ∧ result.timeout = false ∧
      result.output = ""

theorem Error.display_internal (fault detail : String) :
    (Error.internal (fault ++ detail)).display = "Internal error: " ++ fault ++ detail :=
  String.append_assoc.symm

namespace RunResult

theorem coherent_ofOutput (output : String) (spent : Duration) :
    (ofOutput output spent).Coherent := by
  constructor <;> simp [ofOutput, empty, failureCount]

theorem coherent_ofError (message : String) (spent : Duration) :
    (ofError message spent).Coherent := by
  constructor <;> simp [ofError, empty, failureCount]

theorem coherent_ofTimeout (message : String) (spent : Duration) :
    (ofTimeout message spent).Coherent := by
  constructor <;> simp [ofTimeout, empty, failureCount]

theorem coherent_ofMemory (message : String) (spent : Duration) :
    (ofMemory message spent).Coherent := by
  constructor <;> simp [ofMemory, empty, failureCount]

theorem coherent_ofDiagnostic (diagnostic : Diagnostic) : (ofDiagnostic diagnostic).Coherent := by
  constructor <;> simp [ofDiagnostic, empty, failureCount]

/-- What a result says of an interpretation. -/
def Tells (config : ExecutorConfig) (request : Request) (result : RunResult) :
    Interpretation → Prop
  | .output text =>
    result.error = none ∧ result.failureCount = 0 ∧
      result.output = truncateOutput config.maxOutputBytes text
  | .failure error => result.error = some error.display
  | .crash message =>
    result.error =
      some ("Internal error: Interpreter panicked: " ++ message.getD "unknown panic")
  | .notStarted reason =>
    result.error = some ("Internal error: Failed to start interpreter thread: " ++ reason)
  | .vanished reason =>
    result.error = some ("Internal error: Interpreter worker vanished: " ++ reason)
  | .unfinished =>
    result.timeoutMessage = some ("TimeoutError: execution exceeded the time limit of " ++
      String.ofList (floatText request.timeoutSeconds) ++ " seconds") ∧
    result.milliseconds =
      Nat.min (request.timeout.nanoseconds / 1000000) (UInt64.size - 1)

theorem tells_ofInterpretation (config : ExecutorConfig) (request : Request) (spent : Duration)
    (interpretation : Interpretation) :
    (ofInterpretation config request spent interpretation).Tells config request
      interpretation := by
  cases interpretation with
  | output text => exact ⟨rfl, rfl, rfl⟩
  | failure error => exact rfl
  | crash message => exact congrArg some (Error.display_internal _ _)
  | notStarted reason => exact congrArg some (Error.display_internal _ _)
  | vanished reason => exact congrArg some (Error.display_internal _ _)
  | unfinished => exact ⟨rfl, rfl⟩

theorem coherent_ofInterpretation (config : ExecutorConfig) (request : Request) (spent : Duration)
    (interpretation : Interpretation) :
    (ofInterpretation config request spent interpretation).Coherent := by
  cases interpretation with
  | output text => exact coherent_ofOutput _ _
  | failure error => exact coherent_ofError _ _
  | crash message => exact coherent_ofError _ _
  | notStarted reason => exact coherent_ofError _ _
  | vanished reason => exact coherent_ofError _ _
  | unfinished => exact coherent_ofTimeout _ _

end RunResult

/-! ## Blank sources -/

namespace Source

variable {source : Source} (hblank : source.isBlank = true)

include hblank

theorem isBlankText_of_mem {line : Text} (hline : line ∈ source.lines) :
    Text.isBlankText line = true :=
  List.all_eq_true.1 hblank line hline

theorem rule_check_of_isBlank : Rule.check source = none := by
  apply Option.eq_none_iff_forall_not_mem.2
  intro diagnostic hcheck
  obtain ⟨site, hmem, hcode, -⟩ := Rule.exists_advice_of_check hcheck
  obtain ⟨before, behind, hsite⟩ := Site.exists_siteOf_of_mem hmem
  have hline : site.raw ∈ source.lines := by
    rw [hsite.lines_eq]
    exact List.mem_append_right _ List.mem_cons_self
  unfold Site.isCode at hcode
  rw [Text.trim_eq_nil_iff.2 (isBlankText_of_mem hblank hline)] at hcode
  simp at hcode

theorem bracket_check_of_isBlank : Bracket.check source = none := by
  have hmarks : Bracket.marks source = [] := by
    rw [List.eq_nil_iff_forall_not_mem]
    intro mark hmark
    have hplace := Bracket.charAt?_lines_of_mem_marks hmark
    obtain ⟨side, bracket, line, column⟩ := mark
    obtain _ | line := line
    · cases hplace
    obtain _ | column := column
    · cases hplace
    obtain ⟨raw, hraw, hchar⟩ := Option.bind_eq_some_iff.1 hplace
    have hline := isBlankText_of_mem hblank (List.mem_of_getElem? hraw)
    have hbracket := Text.isBlankText_iff.1 hline _ (List.mem_of_getElem? hchar)
    rw [Bracket.Mark.char, Bracket.isBlank_char] at hbracket
    cases hbracket
  rw [Bracket.check, hmarks]
  rfl

theorem checkSyntax_of_isBlank : checkSyntax source = none := by
  rw [checkSyntax, rule_check_of_isBlank hblank, bracket_check_of_isBlank hblank]
  rfl

theorem trim_stripComment_of_mem {line : Text} (hline : line ∈ source.lines) :
    Text.trim (stripComment line) = [] :=
  trim_stripComment_of_isBlankText (isBlankText_of_mem hblank hline)

theorem allocation_check_of_isBlank : Allocation.check source = none := by
  rw [Allocation.check, List.findSome?_eq_none_iff]
  rintro ⟨line, number⟩ hmem
  have hget := (List.mk_mem_zipIdx_iff_le_and_getElem?_sub.1 hmem).2
  have hline : line ∈ source.lines := List.mem_of_getElem? hget
  have hnone : Allocation.excessive? line = none := by
    rw [Allocation.excessive?, trim_stripComment_of_mem hblank hline]
    rfl
  show (Allocation.excessive? line).map _ = none
  rw [hnone, Option.map_none]

theorem loop_check_of_isBlank : Loop.check source = none := by
  have hlines : ∀ line ∈ source.lines, Text.trim (stripComment line) = [] :=
    fun line hline => trim_stripComment_of_mem hblank hline
  unfold Loop.check
  generalize 1 = number, source.lines = lines at hlines
  induction lines generalizing number with
  | nil => rfl
  | cons line rest ih =>
    have hendless : Loop.endless? line rest = none := by
      rw [Loop.endless?, hlines line List.mem_cons_self]
      rfl
    rw [Loop.checkFrom, hendless]
    exact ih _ fun line hline => hlines line (List.mem_cons_of_mem _ hline)

end Source

/-- The verdict is the finding of the first check that has one, on blank sources as on others. -/
theorem Verdict.ofSource_eq (source : Source) :
    Verdict.ofSource source =
      match checkSyntax source, Allocation.check source, Loop.check source with
      | some diagnostic, _, _ => .syntaxProblem diagnostic
      | none, some finding, _ => .memoryProblem finding
      | none, none, some finding => .endlessLoop finding
      | none, none, none => .clear := by
  unfold Verdict.ofSource
  by_cases hblank : source.isBlank = true
  · rw [if_pos hblank, Source.checkSyntax_of_isBlank hblank,
      Source.allocation_check_of_isBlank hblank, Source.loop_check_of_isBlank hblank]
  · rw [if_neg hblank]
    cases checkSyntax source with
    | some diagnostic => rfl
    | none =>
      cases Allocation.check source with
      | some finding => rfl
      | none => cases Loop.check source <;> rfl

/-- The verdict that findings side by side call for: that of the first stage that has one. -/
def Report.verdict (report : Report) : Verdict :=
  match report.syntaxProblem with
  | some diagnostic => .syntaxProblem diagnostic
  | none =>
    match report.memoryProblem with
    | some finding => .memoryProblem finding
    | none =>
      match report.endlessLoop with
      | some finding => .endlessLoop finding
      | none => .clear

/-- **Verdicts and reports.** Stopping at the first stage that finds something, and at once where
the source is blank, gives the verdict that the findings of all stages call for. -/
theorem verdict_of_report (source : Source) :
    Verdict.ofSource source = (Report.ofSource source).verdict := by
  rw [Verdict.ofSource_eq, Report.verdict, Report.ofSource]
  dsimp only
  cases checkSyntax source with
  | some diagnostic => rfl
  | none =>
    cases Allocation.check source with
    | some finding => rfl
    | none => cases Loop.check source <;> rfl

/-! ## The race -/

namespace Interpretation

variable {budget took : Duration} {interpretation : Interpretation}

theorem raced_of_le (h : took.nanoseconds ≤ budget.nanoseconds)
    (interpretation : Interpretation) : interpretation.raced budget took = interpretation := by
  cases interpretation with
  | notStarted reason => rfl
  | output | failure | crash | vanished | unfinished => exact if_pos h

theorem raced_of_lt (h : budget.nanoseconds < took.nanoseconds)
    (hstarted : ∀ reason, interpretation ≠ .notStarted reason) :
    interpretation.raced budget took = .unfinished := by
  cases interpretation with
  | notStarted reason => exact absurd rfl (hstarted reason)
  | output | failure | crash | vanished | unfinished => exact if_neg (Nat.not_le.2 h)

end Interpretation

/-- The result of a race tells what the interpreter made of the code, or that the time was up. -/
theorem RunResult.tells_of_raced (config : ExecutorConfig) (request : Request)
    (spent took : Duration) (interpretation : Interpretation) :
    let result := ofInterpretation config request spent
      (interpretation.raced request.timeout took)
    (took.nanoseconds ≤ request.timeout.nanoseconds ∨
        (∃ reason, interpretation = .notStarted reason) →
      result.Tells config request interpretation) ∧
    (request.timeout.nanoseconds < took.nanoseconds →
      (∀ reason, interpretation ≠ .notStarted reason) →
      result.Tells config request .unfinished) := by
  intro result
  have htells : result.Tells config request (interpretation.raced request.timeout took) :=
    tells_ofInterpretation _ _ _ _
  refine ⟨fun hknown => ?_, fun hlate hstarted => ?_⟩
  · have hraced : interpretation.raced request.timeout took = interpretation := by
      obtain hintime | ⟨reason, rfl⟩ := hknown
      · exact Interpretation.raced_of_le hintime interpretation
      · rfl
    rwa [hraced] at htells
  · rwa [Interpretation.raced_of_lt hlate hstarted] at htells

/-! ## Stages -/

/-- The result of a request is the same whatever interprets it and however long that takes. -/
def SettledBeforehand (config : ExecutorConfig) (request : Request) : Prop :=
  ∀ interpret interpret' times times',
    execute config interpret times request = execute config interpret' times' request

theorem SettledBeforehand.of_eq {config : ExecutorConfig} {request : Request} {result : RunResult}
    (h : ∀ interpret times, execute config interpret times request = result) :
    SettledBeforehand config request := by
  intro interpret interpret' times times'
  rw [h, h]

theorem execute_of_unsupported {request : Request} (h : request.language ≠ "python")
    (config : ExecutorConfig) (interpret : String → Interpretation) (times : Timing) :
    execute config interpret times request =
      .ofError ("Language " ++ request.language ++ " not supported yet") times.before := by
  have hlanguage : Language.ofName request.language =
      .error (.unsupportedLanguage request.language) := if_neg h
  rw [execute, hlanguage]
  rfl

/-- A request in the supported language is answered by the first check with a finding, or else by
the interpreter. -/
theorem execute_of_supported {request : Request} (h : request.language = "python")
    (config : ExecutorConfig) (interpret : String → Interpretation) (times : Timing) :
    let source := Source.ofText request.code.toList
    execute config interpret times request =
      match checkSyntax source, Allocation.check source, Loop.check source with
      | some diagnostic, _, _ => .ofDiagnostic diagnostic
      | none, some finding, _ =>
        .ofMemory finding.message (config.memoryDelayCap.min request.timeout)
      | none, none, some finding =>
        .ofTimeout finding.message (config.loopDelayCap.min request.timeout)
      | none, none, none =>
        .ofInterpretation config request times.total
          ((interpret request.code).raced request.timeout times.interpreting) := by
  intro source
  have hlanguage : Language.ofName request.language = .ok .python := if_pos h
  rw [execute, hlanguage]
  dsimp only
  rw [Verdict.ofSource_eq]
  cases checkSyntax source with
  | some diagnostic => rfl
  | none =>
    cases Allocation.check source with
    | some finding => rfl
    | none => cases Loop.check source <;> rfl

theorem coherent_execute (config : ExecutorConfig) (interpret : String → Interpretation)
    (times : Timing) (request : Request) :
    (execute config interpret times request).Coherent := by
  by_cases hlanguage : request.language = "python"
  · rw [execute_of_supported hlanguage]
    split
    · exact RunResult.coherent_ofDiagnostic _
    · exact RunResult.coherent_ofMemory _ _
    · exact RunResult.coherent_ofTimeout _ _
    · exact RunResult.coherent_ofInterpretation _ _ _ _
  · rw [execute_of_unsupported hlanguage]
    exact RunResult.coherent_ofError _ _

/-- **Stages.** Every request has a result whose fields agree. A language other than the supported
one is an error that names it, whatever the interpreter does. Otherwise the first check of the
source with a finding decides the result, which then is the same for every interpreter; an oversized
allocation and a loop without end are reported after the shorter of their pause and the budget of
the request. Only where no check has a finding the interpreter is asked: the result tells what it
made of the code if it took no longer than the budget or could not be started, and that the time was
up otherwise. -/
theorem first_report_decides (config : ExecutorConfig) (interpret : String → Interpretation)
    (times : Timing) (request : Request) :
    let source := Source.ofText request.code.toList
    let result := execute config interpret times request
    result.Coherent ∧
    (request.language ≠ "python" →
      result.error = some ("Language " ++ request.language ++ " not supported yet") ∧
        ∀ interpret', execute config interpret' times request = result) ∧
    (request.language = "python" →
      match checkSyntax source, Allocation.check source, Loop.check source with
      | some diagnostic, _, _ =>
        SettledBeforehand config request ∧ result.syntaxErrorInfo = some diagnostic
      | none, some finding, _ =>
        SettledBeforehand config request ∧ result.memoryErrorMessage = some finding.message ∧
          result.milliseconds = Nat.min
            (Nat.min config.memoryDelayCap.nanoseconds request.timeout.nanoseconds / 1000000)
            (UInt64.size - 1)
      | none, none, some finding =>
        SettledBeforehand config request ∧ result.timeoutMessage = some finding.message ∧
          result.milliseconds = Nat.min
            (Nat.min config.loopDelayCap.nanoseconds request.timeout.nanoseconds / 1000000)
            (UInt64.size - 1)
      | none, none, none =>
        (times.interpreting.nanoseconds ≤ request.timeout.nanoseconds ∨
            (∃ reason, interpret request.code = .notStarted reason) →
          result.Tells config request (interpret request.code)) ∧
        (request.timeout.nanoseconds < times.interpreting.nanoseconds →
          (∀ reason, interpret request.code ≠ .notStarted reason) →
          result.Tells config request .unfinished)) := by
  intro source result
  refine ⟨coherent_execute config interpret times request, ?_, ?_⟩
  · intro hlanguage
    have hexecute := fun interpret =>
      execute_of_unsupported hlanguage config interpret times
    exact ⟨congrArg RunResult.error (hexecute interpret),
      fun interpret' => (hexecute interpret').trans (hexecute interpret).symm⟩
  · intro hlanguage
    have hexecute := fun interpret times => execute_of_supported hlanguage config interpret times
    have hresult : result = _ := hexecute interpret times
    cases hchecked : checkSyntax source with
    | some diagnostic =>
      simp only [source, hchecked] at hexecute hresult
      exact ⟨.of_eq hexecute, by rw [hresult]; rfl⟩
    | none =>
      cases hmemory : Allocation.check source with
      | some finding =>
        simp only [source, hchecked, hmemory] at hexecute hresult
        exact ⟨.of_eq hexecute, by rw [hresult]; rfl, by rw [hresult]; rfl⟩
      | none =>
        cases hloop : Loop.check source with
        | some finding =>
          simp only [source, hchecked, hmemory, hloop] at hexecute hresult
          exact ⟨.of_eq hexecute, by rw [hresult]; rfl, by rw [hresult]; rfl⟩
        | none =>
          simp only [source, hchecked, hmemory, hloop] at hresult
          rw [hresult]
          exact RunResult.tells_of_raced _ _ _ _ _

/-- A language that is not supported, an oversized allocation in a loop without end, an interpreter
that breaks down after 51 milliseconds, and the same one with a budget of 50. -/
theorem first_report_decides_at_each_stage :
    let answer := execute Config.defaultExecutor (fun _ => .crash none) ⟨.zero, .ofMilliseconds 51⟩
    let foreign : Request := ⟨"console.log(1)", "javascript", 30⟩
    let wasteful : Request := ⟨"while True:\n    x = [0] * 10**9", "python", 0.25⟩
    let patient : Request := ⟨"print(1)", "python", 30⟩
    let hasty : Request := ⟨"print(1)", "python", 0.05⟩
    ((answer foreign).error = some "Language javascript not supported yet" ∧
      (answer foreign).failureCount ≤ 1) ∧
    ((Loop.check (Source.ofText wasteful.code.toList)).isSome = true ∧
      SettledBeforehand Config.defaultExecutor wasteful ∧
      (answer wasteful).memoryExceeded = true ∧ (answer wasteful).failureCount ≤ 1 ∧
      (answer wasteful).error = none ∧ (answer wasteful).milliseconds = 250) ∧
    ((answer patient).error = some "Internal error: Interpreter panicked: unknown panic" ∧
      (answer patient).timeout = false) ∧
    (answer hasty).timeoutMessage =
        some "TimeoutError: execution exceeded the time limit of 0.05 seconds" ∧
      (answer hasty).error = none ∧ (answer hasty).milliseconds = 50 := by
  intro answer foreign wasteful patient hasty
  have hdecides := first_report_decides Config.defaultExecutor (fun _ => .crash none)
    ⟨.zero, .ofMilliseconds 51⟩
  have hclear : checkSyntax (Source.ofText "print(1)".toList) = none ∧
      Allocation.check (Source.ofText "print(1)".toList) = none ∧
      Loop.check (Source.ofText "print(1)".toList) = none := by decide +kernel
  refine ⟨?foreign, ?wasteful, ?patient, ?hasty⟩
  case foreign =>
    obtain ⟨hcoherent, hforeign, -⟩ := hdecides foreign
    exact ⟨(hforeign (by decide)).1, hcoherent.failureCount_le_one⟩
  case wasteful =>
    obtain ⟨hcoherent, -, hstages⟩ := hdecides wasteful
    have hchecked : checkSyntax (Source.ofText wasteful.code.toList) = none := by decide +kernel
    have hmemory : Allocation.check (Source.ofText wasteful.code.toList) =
        some ⟨.repeatedList 1000000000, 2⟩ := by decide +kernel
    have hbudget : wasteful.timeout = ⟨250000000⟩ := by decide +kernel
    have hreport := hstages rfl
    simp only [hchecked, hmemory, hbudget] at hreport
    obtain ⟨hsettled, hmessage, htime⟩ := hreport
    have hexceeded : (answer wasteful).memoryExceeded = true := by
      rw [hcoherent.memoryExceeded_iff, hmessage]
      rfl
    exact ⟨by decide +kernel, hsettled, hexceeded, hcoherent.failureCount_le_one,
      (hcoherent.nothing_beside_failure (.inr (.inl hexceeded))).1, htime.trans (by decide)⟩
  case patient =>
    obtain ⟨hcoherent, -, hstages⟩ := hdecides patient
    have hbudget : patient.timeout = ⟨30000000000⟩ := by decide +kernel
    have hreport := hstages rfl
    simp only [patient, hclear] at hreport
    rw [hbudget] at hreport
    have herror : (answer patient).error =
        some "Internal error: Interpreter panicked: unknown panic" :=
      hreport.1 (.inl (by decide))
    exact ⟨herror, (hcoherent.nothing_beside_error (herror ▸ rfl)).2.2.1⟩
  case hasty =>
    obtain ⟨hcoherent, -, hstages⟩ := hdecides hasty
    have hbudget : hasty.timeout = ⟨50000000⟩ := by decide +kernel
    have hshown : floatText 0.05 = "0.05".toList := by decide +kernel
    have hreport := hstages rfl
    simp only [hasty, hclear] at hreport
    rw [hbudget] at hreport
    obtain ⟨hmessage, htime⟩ := hreport.2 (by decide) nofun
    rw [hshown] at hmessage
    have hflag : (answer hasty).timeout = true := by
      rw [hcoherent.timeout_iff, hmessage]
      rfl
    exact ⟨hmessage, (hcoherent.nothing_beside_failure (.inr (.inr hflag))).1,
      htime.trans (by decide)⟩

end DryRun
