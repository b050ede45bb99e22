import DryRun.Execution.Request
import DryRun.Execution.Result
import DryRun.Json.Number
import DryRun.Json.Record
import DryRun.Json.Reader
import DryRun.Json.Writer
import DryRun.Verdict

/-!
# Exchange

Requests, diagnostics, reports and results as JSON. What is written can be read back; records may
also be given as arrays of their fields in order.
-/

namespace DryRun

/-! ## Snippets -/

namespace SnippetLine

/-- A line of a snippet as a record. -/
def toJson (line : SnippetLine) : Json :=
  Json.record
    [("line_number", .ofNat line.number), ("text", .ofString line.text),
     ("is_error_line", .bool line.isErrorLine)]

/-- The line of a snippet that a record gives. -/
def ofJson? (json : Json) : Option SnippetLine := do
  let fields ← json.fields? false [["line_number"], ["text"], ["is_error_line"]]
  let [number, text, isErrorLine] := fields.values | none
  return {
    number := ← Json.required? Json.word? number
    text := ← Json.required? Json.string? text
    isErrorLine := ← Json.required? Json.bool? isErrorLine }

end SnippetLine

/-! ## Diagnostics -/

namespace Diagnostic

/-- The kind that a name stands for; the name may also be the key of a null. -/
def Kind.ofJson? : Json → Option Kind
  | .string (some name) => Kind.ofName? (String.ofList name)
  | .object [(some name, .null)] => Kind.ofName? (String.ofList name)
  | _ => none

/-- A diagnostic as a record. -/
def toJson (diagnostic : Diagnostic) : Json :=
  Json.record (
    [("type", .ofString diagnostic.kind.name), ("line", .ofNat diagnostic.line)] ++
    diagnostic.column.toList.map (fun column => ("column", .ofNat column)) ++
    [("message", .ofString diagnostic.message), ("suggestion", .ofString diagnostic.suggestion),
     ("code_snippet", .array (diagnostic.snippet.map SnippetLine.toJson))])

/-- The diagnostic that a record gives. -/
def ofJson? (json : Json) : Option Diagnostic := do
  let fields ← json.fields? false
    [["type"], ["line"], ["column"], ["message"], ["suggestion"], ["code_snippet"]]
  let [kind, line, column, message, suggestion, snippet] := fields.values | none
  return {
    kind := ← Json.required? Kind.ofJson? kind
    line := ← Json.required? Json.word? line
    column := ← Json.defaulted? none (Json.nullable? Json.word?) column
    message := ← Json.required? Json.string? message
    suggestion := ← Json.required? Json.string? suggestion
    snippet := ← (← Json.required? Json.array? snippet).mapM SnippetLine.ofJson? }

/-- The diagnostic that a text gives. -/
def read? (text : Text) : Option Diagnostic := (Json.read? text).bind ofJson?

end Diagnostic

/-! ## Reports -/

/-- The line of a finding as a member, if there is a finding. -/
def lineMember (line : Option Nat) : List (String × Json) :=
  line.toList.map fun line => ("line", .ofNat line)

/-- What is found about memory, if anything, as a record. -/
def Allocation.Finding.toJson (finding : Option Allocation.Finding) : Json :=
  Json.record (
    [("is_overuse", .bool finding.isSome),
     ("message", .ofString ((finding.map (·.message)).getD ""))] ++
    lineMember (finding.map (·.line)))

/-- What is found about loops, if anything, as a record. -/
def Loop.Finding.toJson (finding : Option Loop.Finding) : Json :=
  Json.record (
    [("is_infinite", .bool finding.isSome),
     ("message", .ofString ((finding.map (·.message)).getD ""))] ++
    lineMember (finding.map (·.line)))

/-- A report as a record. -/
def Report.toJson (report : Report) : Json :=
  Json.record
    [("syntax_error", .ofOption Diagnostic.toJson report.syntaxProblem),
     ("memory", Allocation.Finding.toJson report.memoryProblem),
     ("infinite_loop", Loop.Finding.toJson report.endlessLoop)]

/-! ## Requests -/

namespace Request

/-- The request that a record gives. -/
def ofJson? (json : Json) : Option Request := do
  let fields ← json.fields? false [["code"], ["language"], ["timeout_seconds", "timeoutSeconds"]]
  let [code, language, timeout] := fields.values | none
  return {
    code := ← Json.required? Json.string? code
    language := ← Json.defaulted? Language.python.name Json.string? language
    timeoutSeconds := ← Json.defaulted? defaultTimeout Json.float? timeout }

/-- The request that a text gives. -/
def read? (text : Text) : Option Request := (Json.read? text).bind ofJson?

end Request

/-! ## Results -/

namespace RunResult

/-- A result as a record. -/
def toJson (result : RunResult) : Json :=
  Json.record
    [("output", .ofString result.output),
     ("error", .ofOption .ofString result.error),
     ("timeout", .bool result.timeout),
     ("timeout_message", .ofOption .ofString result.timeoutMessage),
     ("memory_exceeded", .bool result.memoryExceeded),
     ("memory_error_message", .ofOption .ofString result.memoryErrorMessage),
     ("syntax_error", .bool result.syntaxError),
     ("syntax_error_info", .ofOption Diagnostic.toJson result.syntaxErrorInfo),
     ("execution_time_ms", .ofNat result.milliseconds)]

/-- The result that a record gives. -/
def ofJson? (json : Json) : Option RunResult := do
  let fields ← json.fields? false
    [["output"], ["error"], ["timeout"], ["timeout_message"], ["memory_exceeded"],
     ["memory_error_message"], ["syntax_error"], ["syntax_error_info"], ["execution_time_ms"]]
  let [output, error, timeout, timeoutMessage, memoryExceeded, memoryErrorMessage, syntaxError,
    syntaxErrorInfo, milliseconds] := fields.values | none
  return {
    output := ← Json.required? Json.string? output
    error := ← fields.nullable? Json.string? error
    timeout := ← Json.required? Json.bool? timeout
    timeoutMessage := ← fields.nullable? Json.string? timeoutMessage
    memoryExceeded := ← Json.required? Json.bool? memoryExceeded
    memoryErrorMessage := ← fields.nullable? Json.string? memoryErrorMessage
    syntaxError := ← Json.required? Json.bool? syntaxError
    syntaxErrorInfo := ← fields.nullable? Diagnostic.ofJson? syntaxErrorInfo
    milliseconds := ← Json.required? Json.word? milliseconds }

/-- The result that a text gives. -/
def read? (text : Text) : Option RunResult := (Json.read? text).bind ofJson?

/-- The text of a result. -/
def write (result : RunResult) : Text := result.toJson.pretty

end RunResult

end DryRun
