import DryRun.Proofs.Arithmetic.Descent
import DryRun.Proofs.Evaluation.Operands

/-!
# Evaluation with counters

`evaluate` hands its parts what is left of two budgets. An evaluator that lives longer than one
expression has counters in place of the budgets, raises them on its way down and lowers them on its
way back, past errors too; `eval` is this evaluator, with a parser that descends in place of the
machine. Both have the same outcomes, and the counters stay within the limits and come back
(`eval_within_limits`).

1. The evaluator: bodies, templates, calls and arithmetic, then expressions.
2. Each of them follows its counterpart, given that the parts do.
3. Expressions, by induction on the levels that are left.
-/

namespace DryRun

open Expression Evaluation Arithmetic

namespace Counted

/-! ## Evaluation -/

/-- The environment of a call. -/
def bindParameters (eval : Text → Counted Value) (locals : Environment) :
    List Parameter → List Value → Counted Environment
  | [], _ => return locals
  | parameter :: parameters, value :: values =>
    bindParameters eval (locals.bind parameter.name value) parameters values
  | parameter :: parameters, [] =>
    match parameter.default with
    | none => bindParameters eval locals parameters []
    | some default => do
      let value ← eval default
      bindParameters eval (locals.bind parameter.name value) parameters []

/-- The value of a body. -/
def runBody (eval : Environment → Text → Counted Value) (locals : Environment) :
    List Text → Counted Value
  | [] => return .none
  | line :: rest =>
    match returned? (statementOf line) with
    | some expression => eval locals expression
    | none =>
      match assignment? (statementOf line) with
      | some (name, expression) => do
        let value ← eval locals expression
        runBody eval (locals.bind name value) rest
      | none => runBody eval locals rest

/-- A part of a template as it is shown. -/
def fillPart (eval : Text → Counted Value) : Template.Part → Counted Text
  | .char c => return [c]
  | .placeholder text => do
    let (expression, places) := Template.splitPlaceholder text
    return Template.fill places (← eval expression)

/-- The text of a template. -/
def fillTemplate (eval : Text → Counted Value) (template : Text) : Counted Text := do
  return (← (Template.parts template).mapM (fillPart eval)).flatten

/-- The value of a call of a function: its body is one call deeper than its arguments. -/
def call (limits : Limits) (eval : Environment → Text → Counted Value) (env : Environment)
    (function : Function) (arguments : Text) : Counted Value :=
  tracked .call do
    if limits.calls ≤ (← now).calls then throw (.error .recursionLimit)
    else
      let values ← (splitItems arguments).mapM (eval env)
      let locals ← bindParameters (eval env) env function.parameters values
      raised .calls 1 (runBody eval locals function.body)

/-- The value of a call among operands: the signs and parentheses around it count as nesting while
the parser waits for it. -/
def operandCall (functions : Functions) (eval : Text → Counted Value) (text : Text) :
    Counted Value :=
  tracked .operand do
    if (callOf? functions text).isSome then
      apart fun depth => raised .nesting depth (eval text)
    else throw .notArithmetic

/-- The value of a text, if it is arithmetic. A new parser gets the levels that are left. -/
def arithmetic (functions : Functions) (limits : Limits) (eval : Text → Counted Value)
    (env : Environment) (text : Text) : Counted (Option Value) := do
  match Token.list? text with
  | none => return none
  | some tokens =>
    let resolver : Resolver := { valueOf? := env.find?, call := operandCall functions eval }
    let limit := limits.nesting - (← now).nesting
    ifArithmetic (apart fun _ => expression resolver limit tokens)

/-- The value of an expression without margins, given how its parts are evaluated. -/
def evalForm (functions : Functions) (limits : Limits) (eval : Environment → Text → Counted Value)
    (env : Environment) (expression : Text) : Counted Value :=
  match Form.ofText functions expression with
  | .literal value => return value
  | .template template => return .str (← fillTemplate (eval env) template)
  | .typeOf argument => do
    let value ← eval env argument
    return .str ("<class '" ++ value.typeName ++ "'>").toList
  | .lengthOf argument => do
    let value ← eval env argument
    return .int value.length
  | .call function arguments => call limits eval env function arguments
  | .list contents => return .list (← (splitItems contents).mapM (eval env))
  | .arithmetic => do
    let value? ← arithmetic functions limits (eval env) env expression
    return value?.getD (.str expression)
  | .name => return (env.find? expression).getD (.str expression)

/-- The value of an expression, for a number of levels of nesting. -/
def eval (functions : Functions) (limits : Limits) : Nat → Environment → Text → Counted Value
  | 0 => fun _ _ =>
    deeper .evaluation .nesting limits.nesting .recursionLimit (throw .unfinished)
  | levels + 1 => fun env text =>
    deeper .evaluation .nesting limits.nesting .recursionLimit
      (evalForm functions limits (eval functions limits levels) env (Text.trim text))

/-! ## Evaluation with and without counters -/

/-- Expressions have the values with counters that they have in what the counters leave of the
limits. -/
def Evaluates (functions : Functions) (limits : Limits) (counters : Counters)
    (f : Environment → Text → Counted Value) : Prop :=
  ∀ env text, Follows limits counters (f env text)
    (evaluate functions (limits.nesting - counters.nesting) (limits.calls - counters.calls) env
      text)

section Parts

variable {limits : Limits} {counters : Counters}

theorem follows_bindParameters {f : Text → Counted Value} {g : Text → Except EvalError Value}
    (h : ∀ text, Follows limits counters (f text) (g text)) (locals : Environment)
    (parameters : List Parameter) (values : List Value) :
    Follows limits counters (bindParameters f locals parameters values)
      (Evaluation.bindParameters g locals parameters values) := by
  induction parameters generalizing locals values with
  | nil => exact .pure locals
  | cons parameter parameters ih =>
    cases values with
    | cons value values => exact ih _ values
    | nil =>
      rw [bindParameters, Evaluation.bindParameters]
      cases parameter.default with
      | none => exact ih locals []
      | some default => exact (h default).bind fun value => ih _ []

theorem follows_runBody {f : Environment → Text → Counted Value}
    {g : Environment → Text → Except EvalError Value}
    (h : ∀ env text, Follows limits counters (f env text) (g env text)) (locals : Environment)
    (body : List Text) :
    Follows limits counters (runBody f locals body) (Evaluation.runBody g locals body) := by
  induction body generalizing locals with
  | nil => exact .pure Value.none
  | cons line rest ih =>
    rw [runBody, Evaluation.runBody]
    cases returned? (statementOf line) with
    | some expression => exact h locals expression
    | none =>
      cases assignment? (statementOf line) with
      | none => exact ih locals
      | some assignment =>
        exact (h locals assignment.2).bind fun value => ih (locals.bind assignment.1 value)

theorem follows_fillTemplate {f : Text → Counted Value} {g : Text → Except EvalError Value}
    (h : ∀ text, Follows limits counters (f text) (g text)) (template : Text) :
    Follows limits counters (fillTemplate f template) (Evaluation.fillTemplate g template) := by
  have hpart : ∀ part, Follows limits counters (fillPart f part) (Evaluation.fillPart g part) := by
    intro part
    cases part with
    | char c => exact .pure [c]
    | placeholder text => exact (h _).bind fun value => .pure _
  exact (Follows.mapM hpart _).bind fun shown => .pure _

end Parts

section Forms

variable {functions : Functions} {limits : Limits} {counters : Counters}
  {f : Environment → Text → Counted Value} (hfit : limits.Fit)

include hfit

theorem follows_call (h : Evaluates functions limits counters f)
    (hbody : Evaluates functions limits (counters.raise .calls 1) f) (env : Environment)
    (function : Function) (arguments : Text) :
    Follows limits counters (call limits f env function arguments)
      (match limits.calls - counters.calls with
      | 0 => .error .recursionLimit
      | callsLeft + 1 => do
        let values ← (splitItems arguments).mapM
          (evaluate functions (limits.nesting - counters.nesting) (callsLeft + 1) env)
        let locals ← Evaluation.bindParameters
          (evaluate functions (limits.nesting - counters.nesting) (callsLeft + 1) env) env
          function.parameters values
        Evaluation.runBody (evaluate functions (limits.nesting - counters.nesting) callsLeft)
          locals function.body) := by
  refine Leads.tracked (.of_within fun hwithin => leads_now.next ?_)
  by_cases hlimit : limits.calls ≤ counters.calls
  · rw [if_pos hlimit, Nat.sub_eq_zero_of_le hlimit]
    exact .throw rfl
  · rw [if_neg hlimit]
    have hleft : limits.calls - counters.calls = limits.calls - (counters.calls + 1) + 1 := by omega
    have hparts := h env
    rw [hleft] at hparts ⊢
    refine (Follows.mapM hparts _).bind fun values =>
      (follows_bindParameters hparts env _ values).bind fun locals => Leads.raised hfit ?_ ?_
    · exact ⟨hwithin.nesting, Nat.lt_of_not_le hlimit⟩
    · exact follows_runBody hbody locals function.body

/-- A call among operands gets what the signs and parentheses around it leave of the room. -/
theorem leads_operandCall {depth : Nat} {env : Environment}
    (hdepth : counters.nesting + depth ≤ limits.nesting)
    (h : Evaluates functions limits ((counters.set 0 .parser).raise .nesting depth) f)
    (text : Text) :
    Leads limits (counters.set depth .parser) (operandCall functions (f env) text)
      (Yields ((operandScope functions (limits.nesting - counters.nesting)
        (limits.calls - counters.calls) env).call (limits.nesting - counters.nesting - depth)
          text)) := by
  refine .tracked ?_
  by_cases hknown : (callOf? functions text).isSome = true
  · rw [if_pos hknown, call_operandScope hknown (Nat.sub_le _ _), ← Nat.sub_add_eq]
    refine .of_within fun hwithin => .apart (.raised hfit ?_ ((h env text).leads ?_))
    · exact ⟨hdepth, hwithin.calls⟩
    · exact yields_mapError _
  · rw [if_neg hknown]
    exact .throw ⟨.notArithmetic, rfl, if_neg hknown⟩

/-- Arithmetic gets a parser with the levels that are left. -/
theorem follows_arithmetic
    (h : ∀ depth, counters.nesting + depth ≤ limits.nesting →
      Evaluates functions limits ((counters.set 0 .parser).raise .nesting depth) f)
    (env : Environment) (text : Text) :
    Follows limits counters (arithmetic functions limits (f env) env text)
      (Arithmetic.evaluate (operandScope functions (limits.nesting - counters.nesting)
        (limits.calls - counters.calls) env) text) := by
  cases htokens : Token.list? text with
  | none =>
    rw [arithmetic, Arithmetic.evaluate, htokens]
    exact .pure none
  | some tokens =>
    rw [evaluate_of_list? htokens, arithmetic, htokens]
    refine Leads.of_within fun hwithin => leads_now.next ?_
    have hnesting : counters.nesting ≤ limits.nesting :=
      (Nat.le_add_right _ _).trans hwithin.nesting
    have hroom := Nat.add_sub_cancel' hnesting
    have hresolves : Resolves limits counters
        { valueOf? := env.find?, call := operandCall functions (f env) }
        (operandScope functions (limits.nesting - counters.nesting)
          (limits.calls - counters.calls) env) :=
      { fit := hfit
        nesting := hroom.le
        calls := hwithin.calls
        valueOf?_eq := rfl
        call := fun depth hdepth text => by
          have hdepth' : counters.nesting + depth ≤ limits.nesting :=
            hroom ▸ Nat.add_le_add_left hdepth _
          exact leads_operandCall hfit hdepth' (h depth hdepth') text }
    exact follows_ifArithmetic (Leads.apart (x := fun _ => expression _ _ tokens)
      (leads_expression hresolves tokens))

theorem follows_evalForm (hidle : counters.parser = 0)
    (hcalls : Evaluates functions limits (counters.raise .calls 1) f)
    (h : ∀ depth, counters.nesting + depth ≤ limits.nesting →
      Evaluates functions limits (counters.raise .nesting depth) f)
    (env : Environment) (text : Text) :
    Follows limits counters (evalForm functions limits f env (Text.trim text))
      (evaluate functions (limits.nesting - counters.nesting + 1) (limits.calls - counters.calls)
        env text) := by
  refine Leads.of_within fun hwithin => ?_
  have hhere : Evaluates functions limits counters f :=
    h 0 ((Nat.le_add_right _ _).trans hwithin.nesting)
  have hset : counters.set 0 .parser = counters := hidle ▸ Counters.set_parser_eq
  rw [evaluate, evalForm]
  dsimp only
  cases Form.ofText functions (Text.trim text) with
  | literal value => exact Follows.pure value
  | template template =>
    exact (follows_fillTemplate (hhere env) template).bind fun shown => .pure _
  | typeOf argument => exact (hhere env argument).bind fun value => .pure _
  | lengthOf argument => exact (hhere env argument).bind fun value => .pure _
  | call function arguments => exact follows_call hfit hhere hcalls env function arguments
  | list contents => exact (Follows.mapM (hhere env) _).bind fun items => .pure _
  | arithmetic =>
    refine (follows_arithmetic hfit ?_ env (Text.trim text)).bind fun value? => .pure _
    rwa [hset]
  | name => exact Follows.pure _

end Forms

/-- An expression is refused at the limit, and elsewhere gets one level of what is left. -/
theorem follows_deeper {functions : Functions} {limits : Limits} {counters : Counters}
    (hfit : limits.Fit) (hidle : counters.parser = 0) {x : Counted Value} {env : Environment}
    {text : Text}
    (h : counters.nesting < limits.nesting → Follows limits (counters.raise .nesting 1) x
      (evaluate functions (limits.nesting - (counters.nesting + 1) + 1)
        (limits.calls - counters.calls) env text)) :
    Follows limits counters (deeper .evaluation .nesting limits.nesting .recursionLimit x)
      (evaluate functions (limits.nesting - counters.nesting) (limits.calls - counters.calls) env
        text) := by
  refine Leads.of_within fun hwithin => .deeper hfit (fun hlimit => ?refused) (fun hlt => ?within)
    fun hlt => ?inside
  case refused =>
    have hroom : limits.nesting - counters.nesting = 0 := Nat.sub_eq_zero_of_le hlimit
    rw [hroom, evaluate]
    rfl
  case within =>
    refine ⟨?_, hwithin.calls⟩
    show counters.nesting + 1 + counters.parser ≤ limits.nesting
    rw [hidle]
    exact hlt
  case inside =>
    have hroom : limits.nesting - (counters.nesting + 1) + 1 = limits.nesting - counters.nesting :=
      Nat.sub_add_cancel (Nat.sub_pos_of_lt hlt)
    rw [← hroom]
    exact h hlt

/-- Evaluation by induction on the levels that are left. -/
theorem evaluates_eval (functions : Functions) {limits : Limits} (hfit : limits.Fit) (levels : Nat)
    {counters : Counters} (hidle : counters.parser = 0)
    (hlevels : limits.nesting ≤ counters.nesting + levels) :
    Evaluates functions limits counters (eval functions limits levels) := by
  intro env text
  induction levels generalizing counters env text with
  | zero => exact follows_deeper hfit hidle fun hlt => absurd hlevels (Nat.not_le.2 hlt)
  | succ levels ih =>
    refine follows_deeper hfit hidle fun hlt => ?_
    have hinner : ∀ {inner : Counters}, inner.parser = 0 → counters.nesting + 1 ≤ inner.nesting →
        Evaluates functions limits inner (eval functions limits levels) :=
      fun hidle' hnesting env text => ih hidle' (by omega) env text
    have hidle' : (counters.raise .nesting 1).parser = 0 := hidle
    have hcalls : Evaluates functions limits ((counters.raise .nesting 1).raise .calls 1) _ :=
      hinner hidle' (Nat.le_refl _)
    have hparts : ∀ depth,
        Evaluates functions limits ((counters.raise .nesting 1).raise .nesting depth) _ :=
      fun depth => hinner hidle' (Nat.le_add_right _ depth)
    exact follows_evalForm hfit hidle' hcalls (fun depth _ => hparts depth) env text

/-- **Counters of an evaluation.** Evaluation with counters begins where no parser is at work, and
has the outcome that evaluation has in what the counters leave of the limits. So it ends, and no
counter overflows. At every moment the nesting and the depth of the parser at work are within the
limit together, and the calls within theirs. The depth of a parser that waits for a call counts
through the nesting only, which has been raised by it. Whatever they end with, expressions, calls,
operands that are called and operands one level deeper leave the counters as they were. -/
theorem eval_within_limits (functions : Functions) {limits : Limits} (hfit : limits.Fit)
    {tally : Tally} (hsound : tally.Sound limits) (hidle : tally.now.parser = 0)
    (env : Environment) (text : Text) :
    let ended := (eval functions limits limits.nesting env text).run tally
    ended.1 = (evaluate functions (limits.nesting - tally.now.nesting)
      (limits.calls - tally.now.calls) env text).mapError .error ∧
    ended.1 ≠ .error .overflow ∧ ended.1 ≠ .error .unfinished ∧
    (∀ counters ∈ ended.2.moments, counters.nesting + counters.parser ≤ limits.nesting ∧
      counters.calls ≤ limits.calls) ∧
    (∀ activity ∈ ended.2.ended, activity.exit = activity.entry) ∧
    ended.2.now = tally.now := by
  intro ended
  have hlevels : limits.nesting ≤ tally.now.nesting + limits.nesting := Nat.le_add_left _ _
  obtain ⟨houtcome, hnow, hsound'⟩ :=
    evaluates_eval functions hfit limits.nesting hidle hlevels env text tally rfl hsound
  have hcause : ∀ {stop}, ended.1 = .error stop → ∃ cause, stop = .error cause :=
    fun hstop => exists_of_mapError (houtcome.symm.trans hstop)
  refine ⟨houtcome, fun hstop => ?overflow, fun hstop => ?unfinished, fun counters hcounters => ?_,
    hsound'.ended, hnow⟩
  case overflow =>
    obtain ⟨cause, heq⟩ := hcause hstop
    cases heq
  case unfinished =>
    obtain ⟨cause, heq⟩ := hcause hstop
    cases heq
  exact ⟨(hsound'.moments counters hcounters).nesting, (hsound'.moments counters hcounters).calls⟩

/-- A call in two pairs of parentheses, with an argument and a body of their own, reaches both
limits. -/
theorem eval_within_limits_of_call :
    let functions := Function.ofSource (Source.ofText "def f(x):\n    return x".toList)
    let limits : Limits := { nesting := 5, calls := 1 }
    let ended := (eval functions limits limits.nesting [] "((f(2))) + 1".toList).run .start
    limits.Fit ∧ Tally.start.Sound limits ∧ Tally.start.now.parser = 0 ∧
      ended.1 = .ok (.int 3) ∧ ended.2.now = Tally.start.now ∧
      (∀ counters ∈ ended.2.moments, counters.nesting + counters.parser ≤ 5 ∧
        counters.calls ≤ 1) ∧
      (∃ counters ∈ ended.2.moments, counters.nesting + counters.parser = 5 ∧
        counters.calls = 1) := by
  intro functions limits ended
  have hfit : limits.Fit := ⟨by decide, by decide⟩
  have hvalue : evaluate functions 5 1 [] "((f(2))) + 1".toList = .ok (.int 3) := by
    decide +kernel
  obtain ⟨houtcome, -, -, hmoments, -, hnow⟩ :=
    eval_within_limits functions hfit (Tally.start_sound limits) rfl [] "((f(2))) + 1".toList
  exact ⟨hfit, Tally.start_sound limits, rfl, houtcome.trans (congrArg _ hvalue), hnow, hmoments,
    by decide +kernel⟩

/-- The level of the parenthesis is the parser's, then one of nesting for as long as the call takes,
and then the parser's again. -/
example :
    let limits : Limits := { nesting := 4, calls := 0 }
    let env : Environment := [("x".toList, .str "ab".toList)]
    let ended := (eval [] limits limits.nesting env "(len(x)) + 1".toList).run .start
    ended.2.moments.reverse.map (fun counters => (counters.nesting, counters.parser)) =
      [(1, 0), (1, 0), (1, 1), (1, 0), (2, 0), (3, 0), (4, 0), (3, 0), (2, 0), (1, 0), (1, 1),
        (1, 0), (1, 0), (0, 0)] := by
  decide +kernel

end Counted

end DryRun
