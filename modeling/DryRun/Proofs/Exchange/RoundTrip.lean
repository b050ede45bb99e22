import DryRun.CommandLine.Outcome
import DryRun.Proofs.Json.Strict

/-!
# Results that are written and read back

A result, with the diagnostic in it if there is one, is read back from the text that is written of
it, whatever its texts hold (`read?_written`).
-/

namespace DryRun

open Json

theorem written_ofString (s : String) : (ofString s).Written fun _ => true :=
  .string fun _ _ => rfl

theorem written_ofOption {α : Type} {encode : α → Json} {value : Option α}
    (h : ∀ x ∈ value, (encode x).Written fun _ => true) :
    (ofOption encode value).Written fun _ => true := by
  cases value with
  | none => exact .null
  | some x => exact h x rfl

/-- An optional value is read back, unless it is written as null itself. -/
theorem nullable?_ofOption {α : Type} {encode : α → Json} {decode : Json → Option α}
    {value : Option α} (hdecode : ∀ x ∈ value, decode (encode x) = some x)
    (hnull : ∀ x, encode x ≠ .null) : nullable? decode (ofOption encode value) = some value := by
  cases value with
  | none => rfl
  | some x =>
    have hx : decode (encode x) = some x := hdecode x rfl
    show nullable? decode (encode x) = _
    unfold nullable?
    split
    · exact absurd ‹_› (hnull x)
    · rw [hx]
      rfl

/-! ## Snippets -/

namespace SnippetLine

theorem written_toJson (line : SnippetLine) : line.toJson.Written fun _ => true := by
  refine written_record (fun _ _ _ _ => rfl) ?_
  simp only [List.forall_mem_cons]
  exact ⟨written_ofNat _ _, written_ofString _, .bool _, fun _ h => by cases h⟩

theorem ofJson?_toJson {line : SnippetLine} (h : line.number ≤ wordCap) :
    ofJson? line.toJson = some line := by
  have hfields : line.toJson.fields? false [["line_number"], ["text"], ["is_error_line"]] =
      some ⟨true, [some (ofNat line.number), some (ofString line.text),
        some (.bool line.isErrorLine)]⟩ :=
    fields?_record (by simp) false ["line_number", "text", "is_error_line"]
  unfold ofJson?
  rw [hfields]
  simp [required?, word?_ofNat h, bool?]

end SnippetLine

/-! ## Diagnostics -/

namespace Diagnostic

@[simp] theorem Kind.ofName?_name (kind : Kind) : Kind.ofName? kind.name = some kind := by
  cases kind with
  | syntaxError => rfl
  | indentationError => rfl

theorem Kind.ofJson?_ofString (kind : Kind) : Kind.ofJson? (ofString kind.name) = some kind := by
  show Kind.ofName? (String.ofList kind.name.toList) = _
  rw [String.ofList_toList, Kind.ofName?_name]

/-- Whether the numbers of a diagnostic have a place in 64 bits. -/
structure InWords (diagnostic : Diagnostic) : Prop where
  line : diagnostic.line ≤ wordCap
  column : ∀ column ∈ diagnostic.column, column ≤ wordCap
  snippet : ∀ line ∈ diagnostic.snippet, line.number ≤ wordCap

theorem written_toJson (diagnostic : Diagnostic) : diagnostic.toJson.Written fun _ => true := by
  refine written_record (fun _ _ _ _ => rfl) ?_
  simp only [List.forall_mem_append, List.forall_mem_cons, List.forall_mem_map]
  refine ⟨⟨⟨written_ofString _, written_ofNat _ _, fun _ h => by cases h⟩,
    fun _ _ => written_ofNat _ _⟩, written_ofString _, written_ofString _, .array ?_,
    fun _ h => by cases h⟩
  intro item hitem
  obtain ⟨line, -, rfl⟩ := List.mem_map.1 hitem
  exact line.written_toJson

/-- A column that is left out is the only field that need not be given. -/
theorem fields?_toJson (diagnostic : Diagnostic) :
    diagnostic.toJson.fields? false
      [["type"], ["line"], ["column"], ["message"], ["suggestion"], ["code_snippet"]] =
      some ⟨true, [some (ofString diagnostic.kind.name), some (ofNat diagnostic.line),
        diagnostic.column.map ofNat, some (ofString diagnostic.message),
        some (ofString diagnostic.suggestion),
        some (.array (diagnostic.snippet.map SnippetLine.toJson))]⟩ := by
  obtain ⟨kind, line, column, message, suggestion, snippet⟩ := diagnostic
  cases column with
  | none =>
    exact fields?_record (by simp) false
      ["type", "line", "column", "message", "suggestion", "code_snippet"]
  | some column =>
    exact fields?_record (by simp) false
      ["type", "line", "column", "message", "suggestion", "code_snippet"]

theorem mapM_ofJson?_toJson {snippet : List SnippetLine}
    (h : ∀ line ∈ snippet, line.number ≤ wordCap) :
    (snippet.map SnippetLine.toJson).mapM SnippetLine.ofJson? = some snippet := by
  induction snippet with
  | nil => rfl
  | cons line snippet ih =>
    obtain ⟨hline, hsnippet⟩ := List.forall_mem_cons.1 h
    rw [List.map_cons, List.mapM_cons, SnippetLine.ofJson?_toJson hline, ih hsnippet]
    rfl

theorem column?_map_ofNat {column : Option Nat} (h : ∀ n ∈ column, n ≤ wordCap) :
    defaulted? none (nullable? word?) (column.map ofNat) = some column := by
  cases column with
  | none => rfl
  | some n =>
    have hword : (ofNat n).word? = some n := word?_ofNat (h n rfl)
    show ((ofNat n).word?).map some = _
    rw [hword]
    rfl

theorem ofJson?_toJson {diagnostic : Diagnostic} (h : diagnostic.InWords) :
    ofJson? diagnostic.toJson = some diagnostic := by
  have hcolumn := column?_map_ofNat h.column
  have hsnippet := mapM_ofJson?_toJson h.snippet
  unfold ofJson?
  rw [fields?_toJson]
  simp [required?, word?_ofNat h.line, Kind.ofJson?_ofString, array?, hcolumn, hsnippet]

end Diagnostic

/-! ## Results -/

namespace RunResult

/-- Whether the numbers of a result have a place in 64 bits. -/
structure InWords (result : RunResult) : Prop where
  milliseconds : result.milliseconds ≤ wordCap
  syntaxErrorInfo : ∀ diagnostic ∈ result.syntaxErrorInfo, diagnostic.InWords

theorem written_toJson (result : RunResult) : result.toJson.Written fun _ => true := by
  refine written_record (fun _ _ _ _ => rfl) ?_
  simp only [List.forall_mem_cons]
  exact ⟨written_ofString _, written_ofOption fun _ _ => written_ofString _, .bool _,
    written_ofOption fun _ _ => written_ofString _, .bool _,
    written_ofOption fun _ _ => written_ofString _, .bool _,
    written_ofOption fun diagnostic _ => diagnostic.written_toJson, written_ofNat _ _,
    fun _ h => by cases h⟩

theorem nullable?_ofString (message : Option String) :
    nullable? string? (ofOption ofString message) = some message :=
  nullable?_ofOption (fun message _ => string?_ofString message) fun _ h => by cases h

theorem ofJson?_toJson {result : RunResult} (h : result.InWords) :
    ofJson? result.toJson = some result := by
  have hfields : result.toJson.fields? false [["output"], ["error"], ["timeout"],
      ["timeout_message"], ["memory_exceeded"], ["memory_error_message"], ["syntax_error"],
      ["syntax_error_info"], ["execution_time_ms"]] =
      some ⟨true, [some (ofString result.output), some (ofOption ofString result.error),
        some (.bool result.timeout), some (ofOption ofString result.timeoutMessage),
        some (.bool result.memoryExceeded), some (ofOption ofString result.memoryErrorMessage),
        some (.bool result.syntaxError),
        some (ofOption Diagnostic.toJson result.syntaxErrorInfo),
        some (ofNat result.milliseconds)]⟩ :=
    fields?_record (by simp) false ["output", "error", "timeout", "timeout_message",
      "memory_exceeded", "memory_error_message", "syntax_error", "syntax_error_info",
      "execution_time_ms"]
  have hinfo : nullable? Diagnostic.ofJson? (ofOption Diagnostic.toJson result.syntaxErrorInfo) =
      some result.syntaxErrorInfo :=
    nullable?_ofOption (fun diagnostic hmem => Diagnostic.ofJson?_toJson
      (h.syntaxErrorInfo diagnostic hmem)) fun _ h => by cases h
  unfold ofJson?
  rw [hfields]
  simp [required?, Fields.nullable?, bool?, nullable?_ofString, hinfo, word?_ofNat h.milliseconds]

end RunResult

/-- **What is written of a result or a diagnostic is read back as the same**, on a line of its own
or not, whatever its texts hold and whichever of its optional parts are there. -/
theorem read?_written :
    (∀ result : RunResult, result.InWords → RunResult.read? result.write = some result ∧
      RunResult.read? (CommandLine.line result.write) = some result) ∧
    ∀ diagnostic : Diagnostic, diagnostic.InWords →
      Diagnostic.read? diagnostic.toJson.pretty = some diagnostic := by
  refine ⟨fun result h => ⟨?_, ?_⟩, fun diagnostic h => ?_⟩
  · have hread := read?_pretty result.written_toJson (Or.inl rfl)
    rw [List.append_nil] at hread
    unfold RunResult.read? RunResult.write
    rw [hread]
    exact RunResult.ofJson?_toJson h
  · have hread := read?_pretty result.written_toJson (Or.inr rfl)
    unfold RunResult.read? RunResult.write CommandLine.line
    rw [hread]
    exact RunResult.ofJson?_toJson h
  · have hread := read?_pretty diagnostic.written_toJson (Or.inl rfl)
    rw [List.append_nil] at hread
    unfold Diagnostic.read?
    rw [hread]
    exact Diagnostic.ofJson?_toJson h

/-- Texts with quotes, breaks and control characters, and the largest numbers, are read back. -/
theorem read?_written_of_extremes :
    let diagnostic : Diagnostic :=
      { kind := .indentationError, line := wordCap, column := some wordCap,
        message := "\"\\/\u2028", suggestion := "\u0000\u001f\u007f",
        snippet := [⟨wordCap, "\t'𝔸", true⟩, ⟨0, "", false⟩] }
    let result : RunResult :=
      { output := "\r\n", error := some "null", timeout := true, timeoutMessage := none,
        memoryExceeded := false, memoryErrorMessage := some "", syntaxError := true,
        syntaxErrorInfo := some diagnostic, milliseconds := wordCap }
    diagnostic.InWords ∧ result.InWords ∧ RunResult.read? result.write = some result ∧
      Diagnostic.read? diagnostic.toJson.pretty = some diagnostic := by
  intro diagnostic result
  have hdiagnostic : diagnostic.InWords :=
    { line := le_rfl
      column := fun column h => (Option.some.inj h).symm.le
      snippet := by
        simp only [diagnostic, List.forall_mem_cons]
        exact ⟨le_rfl, Nat.zero_le _, fun _ h => by cases h⟩ }
  have hresult : result.InWords :=
    { milliseconds := le_rfl
      syntaxErrorInfo := fun found h => Option.some.inj h ▸ hdiagnostic }
  exact ⟨hdiagnostic, hresult, (read?_written.1 result hresult).1,
    read?_written.2 diagnostic hdiagnostic⟩

end DryRun
