import DryRun.Config.Reading
import DryRun.Config.Writing
import DryRun.Proofs.Config.Precedence
import DryRun.Proofs.Duration.Units
import DryRun.Proofs.Json.Relaxed
import DryRun.Proofs.Toml.Lines

/-!
# Saving and loading the configuration

What is written in TOML are lines that are read one by one (`readToml?_of_writeToml`); what is
written in JSON is read as relaxed JSON, where the limits pass through floats (`readJson?_toJson`).
A file of any other name is written in TOML and tried as JSON first, which its header refuses
(`readRelaxed?_header`).
-/

namespace DryRun

namespace Config

/-! ## Records -/

/-- A record gives the configuration whose values are those of its fields. -/
theorem ofRecord?_of_fields {α : Type} {format : Format α}
    {record executor interpreter timeout memoryCap loopCap output calls nesting : α}
    {config : Config}
    (hrecord : format.fields? ["executor", "interpreter"] record =
      some [some executor, some interpreter])
    (hexecutor : format.fields?
      ["default_timeout_secs", "memory_delay_cap", "loop_delay_cap", "max_output_bytes"] executor =
        some [some timeout, some memoryCap, some loopCap, some output])
    (hinterpreter : format.fields? ["max_call_depth", "max_nesting"] interpreter =
      some [some calls, some nesting])
    (htimeout : format.float? timeout = some config.executor.defaultTimeout)
    (hmemoryCap : format.duration? memoryCap = some config.executor.memoryDelayCap)
    (hloopCap : format.duration? loopCap = some config.executor.loopDelayCap)
    (houtput : format.word? output = some config.executor.maxOutputBytes)
    (hcalls : format.word? calls = some config.interpreter.calls)
    (hnesting : format.word? nesting = some config.interpreter.nesting) :
    ofRecord? format record = some config := by
  have hlimits : executorOf? format executor = some config.executor := by
    unfold executorOf? orDefault
    rw [hexecutor]
    simp [htimeout, hmemoryCap, hloopCap, houtput]
  have hlimits' : interpreterOf? format interpreter = some config.interpreter := by
    unfold interpreterOf? orDefault
    rw [hinterpreter]
    simp [hcalls, hnesting]
  unfold ofRecord? orDefault
  rw [hrecord]
  simp [hlimits, hlimits']

/-! ## TOML -/

section Toml

open Toml

/-- A line with a key, and the statement that it stands for. -/
def assignment (key : String) (text : Text) (value : Toml) : Text × Option Statement :=
  (keyLine key text, some (.assign [] key.toList value))

/-- The lines of a configuration in TOML, and the statements that they stand for. -/
def tomlLines (config : Config) : List (Text × Option Statement) :=
  let { executor, interpreter } := config
  [("[executor]\n".toList, some (.header [] "executor".toList)),
    assignment "default_timeout_secs" (tomlFloat executor.defaultTimeout)
      (.float executor.defaultTimeout),
    assignment "memory_delay_cap" (tomlDuration executor.memoryDelayCap)
      (.string executor.memoryDelayCap.inUnitsText),
    assignment "loop_delay_cap" (tomlDuration executor.loopDelayCap)
      (.string executor.loopDelayCap.inUnitsText),
    assignment "max_output_bytes" (decimalDigits executor.maxOutputBytes)
      (.integer executor.maxOutputBytes),
    (['\n'], none),
    ("[interpreter]\n".toList, some (.header [] "interpreter".toList)),
    assignment "max_call_depth" (decimalDigits interpreter.calls) (.integer interpreter.calls),
    assignment "max_nesting" (decimalDigits interpreter.nesting) (.integer interpreter.nesting)]

theorem eq_of_tomlInteger? {n : Nat} {text : Text} (h : tomlInteger? n = some text) :
    n < 2 ^ 63 ∧ text = decimalDigits n := by
  unfold tomlInteger? at h
  split at h
  · rename_i hlt
    cases h
    exact ⟨hlt, rfl⟩
  · cases h

theorem word?_natCast (n : Nat) : Config.toml.word? (.integer n) = some n := by
  show (if (0 : Int) ≤ n then some (n : Int).toNat else none) = some n
  rw [if_pos (Int.natCast_nonneg n), Int.toNat_natCast]

/-- What is written in TOML are the lines of both kinds of limits. -/
theorem exists_lines_of_writeToml {config : Config} {text : Text}
    (h : config.writeToml = .ok text) :
    ∃ executor interpreter, executorLines? config.executor = some executor ∧
      interpreterLines? config.interpreter = some interpreter ∧
      text = executor ++ '\n' :: interpreter := by
  unfold writeToml at h
  dsimp only at h
  split at h
  · rename_i lines hlines
    rw [Option.bind_eq_bind, Option.bind_eq_some_iff] at hlines
    obtain ⟨executor, hexecutor, hlines⟩ := hlines
    rw [Option.bind_eq_some_iff] at hlines
    obtain ⟨interpreter, hinterpreter, hlines⟩ := hlines
    rw [Option.pure_def, Option.some.injEq] at hlines
    cases h
    exact ⟨executor, interpreter, hexecutor, hinterpreter, hlines.symm⟩
  · cases h

/-- They are the lines of the configuration, one by one. -/
theorem eq_flatten_of_writeToml {config : Config} {text : Text} (h : config.writeToml = .ok text) :
    (config.executor.maxOutputBytes < 2 ^ 63 ∧ config.interpreter.calls < 2 ^ 63 ∧
      config.interpreter.nesting < 2 ^ 63) ∧
    text = (config.tomlLines.map Prod.fst).flatten := by
  obtain ⟨executor, interpreter, hexecutor, hinterpreter, rfl⟩ := exists_lines_of_writeToml h
  unfold executorLines? at hexecutor
  rw [Option.bind_eq_bind, Option.bind_eq_some_iff] at hexecutor
  obtain ⟨output, houtput, hexecutor⟩ := hexecutor
  rw [Option.pure_def, Option.some.injEq] at hexecutor
  unfold interpreterLines? at hinterpreter
  rw [Option.bind_eq_bind, Option.bind_eq_some_iff] at hinterpreter
  obtain ⟨calls, hcalls, hinterpreter⟩ := hinterpreter
  rw [Option.bind_eq_some_iff] at hinterpreter
  obtain ⟨nesting, hnesting, hinterpreter⟩ := hinterpreter
  rw [Option.pure_def, Option.some.injEq] at hinterpreter
  obtain ⟨houtputLt, rfl⟩ := eq_of_tomlInteger? houtput
  obtain ⟨hcallsLt, rfl⟩ := eq_of_tomlInteger? hcalls
  obtain ⟨hnestingLt, rfl⟩ := eq_of_tomlInteger? hnesting
  refine ⟨⟨houtputLt, hcallsLt, hnestingLt⟩, ?_⟩
  rw [← hexecutor, ← hinterpreter]
  simp [tomlLines, assignment]

theorem readsAs_assignment {key : String} {text : Text} {value : Toml} (h : Bare key.toList)
    (hfirst : text.head?.any isSpacing = false)
    (hvalue : ∀ rest, scalar (text ++ '\n' :: rest) = some (value, '\n' :: rest)) :
    Toml.line.ReadsAs (assignment key text value).1 (assignment key text value).2 := by
  constructor
  · unfold assignment keyLine
    simp
  · intro rest
    rw [assignment, ← line_assign h hfirst hvalue rest]
    unfold keyLine
    simp

theorem any_head?_isSpacing {text : Text} (h : ∀ c ∈ text, InDecimal c) :
    text.head?.any isSpacing = false := by
  cases text with
  | nil => rfl
  | cons c text =>
    exact forall_inDecimal (p := fun c => isSpacing c = false) (by decide) (by decide)
      (h c List.mem_cons_self)

theorem plain_of_inUnits {c : Char} (h : Duration.InUnits c) : Plain c where
  ne_quote := h.ne_quote
  ne_backslash := h.ne_backslash
  isAllowed := by
    obtain ⟨hlow, -, hne⟩ := h.toNat_bounds
    simp [isAllowed, hlow, hne]

theorem scalar_tomlDuration {d : Duration} (h : d.seconds ≤ wordCap) (rest : Text) :
    scalar (tomlDuration d ++ '\n' :: rest) = some (.string d.inUnitsText, '\n' :: rest) := by
  have hne : d.inUnitsText ≠ [] := by
    intro hnil
    have hread := Duration.ofUnits?_inUnitsText h
    rw [hnil] at hread
    cases hread
  have hplain : ∀ c ∈ d.inUnitsText, Plain c := fun c hc =>
    plain_of_inUnits (Duration.inUnits_of_mem_inUnitsText hc)
  rw [← scalar_quoted hne hplain ('\n' :: rest), tomlDuration, List.append_assoc]
  rfl

theorem readsAs_float {x : Float} {negative : Bool} {mantissa : Nat} {exponent : Int}
    (hx : Binary.ofFloat x = .finite negative mantissa exponent) {key : String}
    (h : Bare key.toList) :
    Toml.line.ReadsAs (assignment key (tomlFloat x) (.float x)).1
      (assignment key (tomlFloat x) (.float x)).2 := by
  have htext : tomlFloat x = floatTextWithPoint x :=
    if_neg (Bool.eq_false_iff.1 (Binary.isNaN_of_ofFloat hx))
  have hchars : ∀ c ∈ floatTextWithPoint x, InDecimal c := by
    have hregular := (Decimal.names_pointed_fewest .up (Binary.canonical_of_ofFloat hx)).regular
    rw [Binary.floatTextWithPoint_eq hx]
    exact fun c hc => Numeral.inDecimal_of_mem hregular hc
  rw [htext]
  exact readsAs_assignment h (any_head?_isSpacing hchars) (scalar_floatTextWithPoint hx)

theorem readsAs_duration {d : Duration} (hd : d.seconds ≤ wordCap) {key : String}
    (h : Bare key.toList) :
    Toml.line.ReadsAs (assignment key (tomlDuration d) (.string d.inUnitsText)).1
      (assignment key (tomlDuration d) (.string d.inUnitsText)).2 :=
  readsAs_assignment h rfl (scalar_tomlDuration hd)

theorem readsAs_natural {n : Nat} (hn : n < 2 ^ 63) {key : String} (h : Bare key.toList) :
    Toml.line.ReadsAs (assignment key (decimalDigits n) (.integer n)).1
      (assignment key (decimalDigits n) (.integer n)).2 :=
  readsAs_assignment h
    (any_head?_isSpacing fun _ hc => Or.inl (isDigit_of_mem_decimalDigits hc))
    (scalar_decimalDigits hn)

section Lines

variable {config : Config} {negative : Bool} {mantissa : Nat} {exponent : Int}
  (htimeout : Binary.ofFloat config.executor.defaultTimeout = .finite negative mantissa exponent)
  (hmemoryCap : config.executor.memoryDelayCap.seconds ≤ wordCap)
  (hloopCap : config.executor.loopDelayCap.seconds ≤ wordCap)
  (houtput : config.executor.maxOutputBytes < 2 ^ 63) (hcalls : config.interpreter.calls < 2 ^ 63)
  (hnesting : config.interpreter.nesting < 2 ^ 63)

include htimeout hmemoryCap hloopCap houtput hcalls hnesting

theorem readsAs_of_mem_tomlLines :
    ∀ pair ∈ config.tomlLines, Toml.line.ReadsAs pair.1 pair.2 := by
  have hheader (name : String) (h : Bare name.toList) (rest : Text) :
      Toml.line ('[' :: name.toList ++ [']', '\n'] ++ rest) =
        some (some (.header [] name.toList), rest) := by
    rw [← line_header h rest]
    simp
  unfold tomlLines
  dsimp only
  simp only [List.forall_mem_cons]
  refine ⟨?_, readsAs_float htimeout ⟨by decide, List.all_eq_true.1 rfl⟩,
    readsAs_duration hmemoryCap ⟨by decide, List.all_eq_true.1 rfl⟩,
    readsAs_duration hloopCap ⟨by decide, List.all_eq_true.1 rfl⟩,
    readsAs_natural houtput ⟨by decide, List.all_eq_true.1 rfl⟩, ?_, ?_,
    readsAs_natural hcalls ⟨by decide, List.all_eq_true.1 rfl⟩,
    readsAs_natural hnesting ⟨by decide, List.all_eq_true.1 rfl⟩, fun _ h => by cases h⟩
  · exact ⟨List.cons_ne_nil _ _, hheader "executor" ⟨by decide, List.all_eq_true.1 rfl⟩⟩
  · exact ⟨List.cons_ne_nil _ _, line_empty⟩
  · exact ⟨List.cons_ne_nil _ _, hheader "interpreter" ⟨by decide, List.all_eq_true.1 rfl⟩⟩

theorem readToml?_tomlLines :
    readToml? (config.tomlLines.map Prod.fst).flatten = some config := by
  have hreads : Pattern.readAll Toml.line (config.tomlLines.map Prod.fst).flatten =
      some (config.tomlLines.map Prod.snd) :=
    Pattern.readAll_of_reads (Pattern.reads_flatten
      (readsAs_of_mem_tomlLines htimeout hmemoryCap hloopCap houtput hcalls hnesting))
  have hcontent : (config.tomlLines.map Prod.fst).flatten.head? = some '[' := rfl
  have hdocument : Toml.read? (config.tomlLines.map Prod.fst).flatten =
      some (.table .header
        [("executor".toList, .table .header
          [("default_timeout_secs".toList, .float config.executor.defaultTimeout),
          ("memory_delay_cap".toList, .string config.executor.memoryDelayCap.inUnitsText),
          ("loop_delay_cap".toList, .string config.executor.loopDelayCap.inUnitsText),
          ("max_output_bytes".toList, .integer config.executor.maxOutputBytes)]),
        ("interpreter".toList, .table .header
          [("max_call_depth".toList, .integer config.interpreter.calls),
          ("max_nesting".toList, .integer config.interpreter.nesting)])]) := by
    unfold Toml.read?
    rw [hcontent, if_neg (by decide)]
    dsimp only
    rw [hreads]
    rfl
  unfold readToml?
  rw [hdocument]
  exact ofRecord?_of_fields rfl rfl rfl rfl (Duration.ofUnits?_inUnitsText hmemoryCap)
    (Duration.ofUnits?_inUnitsText hloopCap) (word?_natCast _) (word?_natCast _) (word?_natCast _)

end Lines

/-- **What is written in TOML is read back.** -/
theorem readToml?_of_writeToml {config : Config} {text : Text} {negative : Bool} {mantissa : Nat}
    {exponent : Int}
    (htimeout : Binary.ofFloat config.executor.defaultTimeout = .finite negative mantissa exponent)
    (hmemoryCap : config.executor.memoryDelayCap.seconds ≤ wordCap)
    (hloopCap : config.executor.loopDelayCap.seconds ≤ wordCap)
    (h : config.writeToml = .ok text) : readToml? text = some config := by
  obtain ⟨⟨houtput, hcalls, hnesting⟩, rfl⟩ := eq_flatten_of_writeToml h
  exact readToml?_tomlLines htimeout hmemoryCap hloopCap houtput hcalls hnesting

end Toml

/-! ## JSON -/

/-- A limit that has passed through a float of 64 bits. -/
def throughFloat (n : Nat) : Nat := min (toPrecision n) wordCap

/-- The configuration whose limits have passed through floats. -/
def withLimitsThroughFloats (config : Config) : Config where
  executor :=
    { config.executor with maxOutputBytes := throughFloat config.executor.maxOutputBytes }
  interpreter :=
    ⟨throughFloat config.interpreter.calls, throughFloat config.interpreter.nesting⟩

section Json

open Json

theorem written_duration (d : Duration) : (Json.string (some d.inUnitsText)).Written isPlain := by
  refine .string fun c hc => ?_
  obtain ⟨-, hhigh, -⟩ := (Duration.inUnits_of_mem_inUnitsText hc).toNat_bounds
  have hfirst : c ≠ '\u2028' := by
    rintro rfl
    exact absurd hhigh (by decide)
  have hsecond : c ≠ '\u2029' := by
    rintro rfl
    exact absurd hhigh (by decide)
  simp [isPlain, hfirst, hsecond]

section Record

variable {config : Config} {negative : Bool} {mantissa : Nat} {exponent : Int}
  (htimeout : Binary.ofFloat config.executor.defaultTimeout = .finite negative mantissa exponent)

include htimeout

theorem written_toJson : config.toJson.Written isPlain := by
  have hexecutor : (executorJson config.executor).Written isPlain := by
    refine written_record (by simp [isPlain]) ?_
    simp only [List.forall_mem_cons]
    exact ⟨written_ofFloat htimeout, written_duration _, written_duration _, written_ofNat _ _,
      fun _ h => by cases h⟩
  have hinterpreter : (interpreterJson config.interpreter).Written isPlain := by
    refine written_record (by simp [isPlain]) ?_
    simp only [List.forall_mem_cons]
    exact ⟨written_ofNat _ _, written_ofNat _ _, fun _ h => by cases h⟩
  refine written_record (by simp [isPlain]) ?_
  simp only [List.forall_mem_cons]
  exact ⟨hexecutor, hinterpreter, fun _ h => by cases h⟩

variable (hmemoryCap : config.executor.memoryDelayCap.seconds ≤ wordCap)
  (hloopCap : config.executor.loopDelayCap.seconds ≤ wordCap)
  (houtput : config.executor.maxOutputBytes ≤ wordCap)
  (hcalls : config.interpreter.calls ≤ wordCap) (hnesting : config.interpreter.nesting ≤ wordCap)

include hmemoryCap hloopCap houtput hcalls hnesting

/-- **What is written in JSON is read back, but for the limits.** -/
theorem readJson?_toJson :
    readJson? config.toJson.pretty = some config.withLimitsThroughFloats := by
  unfold readJson?
  rw [readRelaxed?_pretty (written_toJson htimeout)]
  exact ofRecord?_of_fields rfl rfl rfl (relaxedFloat?_ofFloat htimeout)
    (Duration.ofUnits?_inUnitsText hmemoryCap) (Duration.ofUnits?_inUnitsText hloopCap)
    (relaxedWord?_ofNat houtput) (relaxedWord?_ofNat hcalls) (relaxedWord?_ofNat hnesting)

end Record

theorem relaxedConstant?_of_prefix {lexeme text : Text} (h : lexeme <+: 'e' :: text) :
    relaxedConstant? lexeme = none := by
  cases lexeme with
  | nil => rfl
  | cons c lexeme =>
    have hc : c = 'e' := (List.cons_prefix_cons.1 h).1
    have hne : ∀ name : Text, name.head? ≠ some 'e' → c :: lexeme ≠ name := by
      rintro name hname rfl
      exact hname (by rw [hc]; rfl)
    unfold relaxedConstant? constant?
    rw [if_neg (not_or.2 ⟨hne _ (by decide), hne _ (by decide)⟩), if_neg (hne _ (by decide)),
      if_neg (hne _ (by decide)), if_neg (hne _ (by decide))]

/-- What begins with a letter that begins no constant is a word that stands for no value. -/
theorem exists_word_of_relaxedToken {text behind : Text} {token : Json.Token}
    (h : relaxedToken ('e' :: text) = some (token, behind)) :
    ∃ lexeme value, token = .word lexeme value ∧ relaxedConstant? lexeme = none := by
  rw [relaxedToken_of_isAlpha rfl] at h
  obtain ⟨lexeme, value, rfl, hprefix⟩ := eq_word_of_bareWord h
  exact ⟨lexeme, value, rfl, relaxedConstant?_of_prefix hprefix⟩

/-- A header of TOML would be an array of a word that is no constant. -/
theorem readRelaxed?_header (text : Text) : readRelaxed? ('[' :: 'e' :: text) = none := by
  have hgap : gap (joinBreaks ('[' :: 'e' :: text)) = some ((), '[' :: 'e' :: joinBreaks text) :=
    gap_cons rfl _
  have hopening : (relaxedToken <* gap) ('[' :: 'e' :: joinBreaks text) =
      some (.openArray, 'e' :: joinBreaks text) :=
    Pattern.seqLeft_of_some rfl (gap_cons rfl _)
  rw [readRelaxed?_eq hgap]
  cases hread : Pattern.readAll (relaxedToken <* gap) ('[' :: 'e' :: joinBreaks text) with
  | none => rfl
  | some tokens =>
    obtain ⟨first, behind, others, count, hfirst, hothers, rfl⟩ :=
      Pattern.exists_of_readAllUpTo (List.cons_ne_nil _ _) hread
    rw [hopening] at hfirst
    cases hfirst
    obtain ⟨second, behind, others, count, hsecond, -, rfl⟩ :=
      Pattern.exists_of_readAllUpTo (List.cons_ne_nil _ _) hothers
    obtain ⟨rest, htoken⟩ := Pattern.exists_of_seqLeft hsecond
    obtain ⟨lexeme, value, rfl, hconstant⟩ := exists_word_of_relaxedToken htoken
    have hstep : step relaxedDialect (.value true [.array []]) (.word lexeme value) = none := by
      show (relaxedConstant? lexeme).map _ = none
      rw [hconstant]
      rfl
    show ((List.foldlM (step relaxedDialect) (.value true [.array []])
      (.word lexeme value :: others)).bind finish) = none
    rw [List.foldlM_cons, hstep]
    rfl

end Json

/-! ## Files -/

/-- Whether the limits, and the seconds of the pauses, have a place in 64 bits. -/
structure InWords (config : Config) : Prop where
  memoryDelayCap : config.executor.memoryDelayCap.seconds ≤ wordCap
  loopDelayCap : config.executor.loopDelayCap.seconds ≤ wordCap
  maxOutputBytes : config.executor.maxOutputBytes ≤ wordCap
  calls : config.interpreter.calls ≤ wordCap
  nesting : config.interpreter.nesting ≤ wordCap

/-- Whether a limit passes through a float of 64 bits unchanged: it has at most 53 bits and then
zeros, or it is the largest of all. -/
def IsPrecise (n : Nat) : Prop := n % 2 ^ (n.log2 - 52) = 0 ∨ n = wordCap

theorem throughFloat_eq_iff {n : Nat} (h : n ≤ wordCap) : throughFloat n = n ↔ IsPrecise n :=
  min_toPrecision_eq_iff h

theorem withLimitsThroughFloats_eq_iff {config : Config} (h : config.InWords) :
    config.withLimitsThroughFloats = config ↔
      IsPrecise config.executor.maxOutputBytes ∧ IsPrecise config.interpreter.calls ∧
        IsPrecise config.interpreter.nesting := by
  rw [← throughFloat_eq_iff h.maxOutputBytes, ← throughFloat_eq_iff h.calls,
    ← throughFloat_eq_iff h.nesting]
  obtain ⟨⟨timeout, memoryCap, loopCap, output⟩, ⟨calls, nesting⟩⟩ := config
  unfold withLimitsThroughFloats
  simp

section Files

variable {config : Config} {path text : Text}
  (htimeout : config.executor.defaultTimeout.isFinite = true) (hwords : config.InWords)
  (h : config.write path = .ok text)

include htimeout hwords h

theorem ofFile_of_write :
    ofFile path (.text text) =
      .ok (if Path.extension? path = some "json".toList then config.withLimitsThroughFloats
        else config) := by
  obtain ⟨negative, mantissa, exponent, hfinite⟩ := Binary.exists_ofFloat_of_isFinite htimeout
  show ofText path text = _
  unfold write at h
  unfold ofText
  dsimp only
  split
  · rename_i hjson
    rw [if_pos hjson] at h
    cases h
    rw [readJson?_toJson hfinite hwords.memoryDelayCap hwords.loopDelayCap hwords.maxOutputBytes
      hwords.calls hwords.nesting]
  · rename_i hjson
    rw [if_neg hjson] at h
    have hread := readToml?_of_writeToml hfinite hwords.memoryDelayCap hwords.loopDelayCap h
    have hnone : readJson? text = none := by
      obtain ⟨-, rfl⟩ := eq_flatten_of_writeToml h
      unfold readJson?
      have hheader : (config.tomlLines.map Prod.fst).flatten =
        '[' :: 'e' :: ((config.tomlLines.map Prod.fst).flatten.drop 2) := rfl
      rw [hheader, readRelaxed?_header]
      rfl
    split
    · rw [hread]
    · rw [hnone, hread]
      rfl

/-- **A saved configuration is loaded as it was**, whatever the name of its file; only limits in
JSON that are too precise for a float come back rounded. -/
theorem load_saved :
    ∃ loaded, ofFile path (.text text) = .ok loaded ∧
      loaded.executor.defaultTimeout = config.executor.defaultTimeout ∧
      loaded.executor.memoryDelayCap = config.executor.memoryDelayCap ∧
      loaded.executor.loopDelayCap = config.executor.loopDelayCap ∧
      (loaded = config ↔ (Path.extension? path = some "json".toList →
        IsPrecise config.executor.maxOutputBytes ∧ IsPrecise config.interpreter.calls ∧
          IsPrecise config.interpreter.nesting)) := by
  refine ⟨_, ofFile_of_write htimeout hwords h, ?_⟩
  split
  · rename_i hjson
    refine ⟨rfl, rfl, rfl, ?_⟩
    rw [withLimitsThroughFloats_eq_iff hwords]
    exact ⟨fun hprecise _ => hprecise, fun hprecise => hprecise hjson⟩
  · rename_i hother
    exact ⟨rfl, rfl, rfl, fun _ hjson => absurd hjson hother, fun _ => rfl⟩

end Files

/-- Short pauses, the least positive timeout and a limit of 64 bits with many zeros come back from
JSON. -/
theorem load_saved_least_timeout :
    let config : Config :=
      ⟨⟨5e-324, ⟨1⟩, ⟨wordCap * Duration.perSecond + 999999999⟩, 2 ^ 64 - 2 ^ 11⟩, ⟨0, wordCap⟩⟩
    let path := "nested/.a.json".toList
    config.executor.defaultTimeout.isFinite = true ∧ config.InWords ∧
      ∃ text, config.write path = .ok text ∧ ofFile path (.text text) = .ok config := by
  intro config path
  have htimeout : config.executor.defaultTimeout.isFinite = true := by decide +kernel
  have hwords : config.InWords := ⟨by decide, by decide, by decide, by decide, by decide⟩
  obtain ⟨loaded, hloaded, -, -, -, hsame⟩ :=
    load_saved htimeout hwords (rfl : config.write path = .ok config.toJson.pretty)
  refine ⟨htimeout, hwords, _, rfl, ?_⟩
  rw [hloaded, hsame.2 fun _ => ⟨Or.inl (by decide), Or.inl (by decide), Or.inr rfl⟩]

/-- A limit of 54 bits comes back from JSON as another one. -/
theorem load_saved_rounds_odd_limit :
    let config : Config :=
      { Config.default with executor := { defaultExecutor with maxOutputBytes := 2 ^ 53 + 1 } }
    let path := "c.json".toList
    ∃ text loaded, config.write path = .ok text ∧ ofFile path (.text text) = .ok loaded ∧
      loaded.executor.maxOutputBytes = 2 ^ 53 := by
  intro config path
  refine ⟨_, _, rfl, ofFile_of_write (by decide +kernel)
    ⟨by decide, by decide, by decide, by decide, by decide⟩ rfl, ?_⟩
  decide +kernel

end Config

end DryRun
