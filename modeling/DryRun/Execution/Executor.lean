import DryRun.Config.Basic
import DryRun.Execution.Request
import DryRun.Execution.Result
import DryRun.Program
import DryRun.Verdict

/-!
# Execution

A request is answered in stages: its language, the verdict on its code, and only then what an
interpreter makes of the code, in a race with the budget of time. The first stage with a problem
decides the result. No time is measured here: how long the parts of an execution take is given.
-/

namespace DryRun

/-! ## Interpretation -/

/-- What an interpreter makes of code. -/
inductive Interpretation where
  | output (text : Text)
  | failure (error : Error)
  /-- The interpreter broke down, with a message if it left one. -/
  | crash (message : Option String)
  /-- The interpreter could not be started. -/
  | notStarted (reason : String)
  /-- The interpreter was gone before it gave an answer. -/
  | vanished (reason : String)
  /-- The interpreter was still running when the time was up. -/
  | unfinished

namespace Interpretation

/-- What the interpreter of programs makes of code. -/
def ofProgram (limits : Evaluation.Limits) (code : String) : Interpretation :=
  match Program.run limits false (Source.ofText code.toList) with
  | .ok text => output text
  | .error error => failure error

/-- What becomes of an interpretation that takes a time in a race with a budget. An interpreter that
cannot be started takes no part in it. -/
def raced (budget took : Duration) : Interpretation → Interpretation
  | notStarted reason => notStarted reason
  | interpretation =>
    if took.nanoseconds ≤ budget.nanoseconds then interpretation else unfinished

end Interpretation

/-! ## Output -/

/-- The longest beginning of a text that takes at most `limit` bytes, behind the characters
collected so far, of which the last comes first. -/
def takeBytesOnto (collected : Text) (limit : Nat) : Text → Text
  | [] => collected.reverse
  | c :: rest =>
    if c.utf8Size ≤ limit then takeBytesOnto (c :: collected) (limit - c.utf8Size) rest
    else collected.reverse

/-- The longest beginning of a text that takes at most `limit` bytes. -/
def takeBytes (limit : Nat) (text : Text) : Text := takeBytesOnto [] limit text

/-- Output cut to a number of bytes, with a note of the cut. -/
def truncateOutput (limit : Nat) (output : Text) : String :=
  let total := Text.byteSize output
  if total ≤ limit then String.ofList output
  else
    let kept := takeBytes limit output
    String.ofList kept ++ "\n... output truncated (" ++ toString (Text.byteSize kept) ++ " of " ++
      toString total ++ " bytes shown)"

/-! ## Stages -/

/-- The time that the parts of an execution take, apart from pauses. -/
structure Timing where
  /-- The time until the interpreter is started, or the request is rejected. -/
  before : Duration
  /-- The time from there until the interpreter has given an answer. -/
  interpreting : Duration

namespace Timing

/-- No time at all. -/
def zero : Timing := ⟨.zero, .zero⟩

/-- The time until the interpreter has given an answer. -/
def total (times : Timing) : Duration :=
  ⟨times.before.nanoseconds + times.interpreting.nanoseconds⟩

end Timing

/-- What is said when the time is up. -/
def timeUpMessage (seconds : Float) : String :=
  "TimeoutError: execution exceeded the time limit of " ++ String.ofList (floatText seconds) ++
    " seconds"

/-- The result of what an interpreter makes of a request, after the time that it took. -/
def RunResult.ofInterpretation (config : ExecutorConfig) (request : Request) (spent : Duration) :
    Interpretation → RunResult
  | .output text => ofOutput (truncateOutput config.maxOutputBytes text) spent
  | .failure error => ofError error.display spent
  | .crash message => ofInternal ("Interpreter panicked: " ++ message.getD "unknown panic")
  | .notStarted reason => ofInternal ("Failed to start interpreter thread: " ++ reason)
  | .vanished reason => ofInternal ("Interpreter worker vanished: " ++ reason)
  | .unfinished => ofTimeout (timeUpMessage request.timeoutSeconds) request.timeout
where
  /-- The result of a fault that is not in the code. -/
  ofInternal (message : String) : RunResult := ofError (Error.internal message).display spent

/-- The result of a request. -/
def execute (config : ExecutorConfig) (interpret : String → Interpretation) (times : Timing)
    (request : Request) : RunResult :=
  match Language.ofName request.language with
  | .error error => .ofError error.display times.before
  | .ok .python =>
    match Verdict.ofSource (Source.ofText request.code.toList) with
    | .syntaxProblem diagnostic => .ofDiagnostic diagnostic
    | .memoryProblem finding =>
      .ofMemory finding.message (config.memoryDelayCap.min request.timeout)
    | .endlessLoop finding => .ofTimeout finding.message (config.loopDelayCap.min request.timeout)
    | .clear =>
      let interpretation := (interpret request.code).raced request.timeout times.interpreting
      .ofInterpretation config request times.total interpretation

end DryRun
