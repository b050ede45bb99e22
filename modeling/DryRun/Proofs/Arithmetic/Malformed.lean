import DryRun.Proofs.Arithmetic.Grammar
import DryRun.Proofs.Arithmetic.Tokens
import DryRun.Proofs.Evaluation.Forms

/-!
# Malformed arithmetic

What is no sentence is not evaluated: the expression stands for its own text. But the machine
evaluates while it reads, so a part in front of the first misplaced token may fail before, and then
the expression fails as that part does by itself (`Raises`). The stack always holds the words of a
sentence that is begun, so that at the end of the tokens there is a value of a whole sentence or
none (`run_outcome`). The result is about whole expressions (`evaluate_malformed`).
-/

namespace DryRun

namespace Arithmetic

/-! ## Outcomes -/

/-- Whether an error is that of a part in front of the first misplaced token: a sentence by itself,
which fails by itself in the room that is left where it stands. -/
def Raises (scope : Scope) (tokens : List Token) (cause : EvalError) : Prop :=
  ∃ before part behind room, tokens = before ++ (part ++ behind) ∧ Sentence part ∧
    (Place.start.walk (before ++ part)).isSome ∧ room ≤ scope.room ∧
    run { scope with room := room } part = .error (.error cause)

theorem Raises.append {scope : Scope} {tokens : List Token} {cause : EvalError}
    (h : Raises scope tokens cause) (rest : List Token) : Raises scope (tokens ++ rest) cause := by
  obtain ⟨before, part, behind, room, rfl, hpart⟩ := h
  exact ⟨before, part, behind ++ rest, room, by simp only [List.append_assoc], hpart⟩

/-- What may become of tokens: something of a kind, or no value, or the error of a part of them. -/
inductive Accounted (scope : Scope) (tokens : List Token) (good : α → Prop) :
    Except Obstacle α → Prop
  | ok {a : α} (h : good a) : Accounted scope tokens good (.ok a)
  | notArithmetic : Accounted scope tokens good (.error .notArithmetic)
  | raised {cause : EvalError} (h : Raises scope tokens cause) :
      Accounted scope tokens good (.error (.error cause))

namespace Accounted

variable {scope : Scope} {tokens : List Token} {good : α → Prop} {outcome : Except Obstacle α}

theorem bind (h : Accounted scope tokens good outcome) {good' : β → Prop}
    {f : α → Except Obstacle β} (hf : ∀ a, good a → Accounted scope tokens good' (f a)) :
    Accounted scope tokens good' (outcome >>= f) := by
  cases h with
  | ok h => exact hf _ h
  | notArithmetic => exact .notArithmetic
  | raised h => exact .raised h

theorem append (h : Accounted scope tokens good outcome) (rest : List Token) :
    Accounted scope (tokens ++ rest) good outcome := by
  cases h with
  | ok h => exact .ok h
  | notArithmetic => exact .notArithmetic
  | raised h => exact .raised (h.append rest)

end Accounted

/-! ## What the stack holds -/

/-- The tokens that a stack holds: what has been read where an operand has to follow. -/
inductive Holds (scope : Scope) : Stack → List Token → Prop
  | nil : Holds scope [] []
  | sign {stack : Stack} {tokens : List Token} (negative : Bool) (h : Holds scope stack tokens)
      (hroom : stack.depth < scope.room) :
      Holds scope (.sign negative :: stack) (tokens ++ [signToken negative])
  | group {stack : Stack} {tokens : List Token} (h : Holds scope stack tokens)
      (hroom : stack.depth < scope.room) :
      Holds scope (.group :: stack) (tokens ++ [.opening])
  | operand {stack : Stack} {tokens left : List Token} {op : Operator} {value : Value}
      (h : Holds scope stack tokens) (hsits : op.level.sits stack = true)
      (hleft : Denotes scope (scope.room - stack.depth) op.level left value) :
      Holds scope (.operand value op :: stack) (tokens ++ (left ++ [.operator op]))

/-- A value behind a stack, of the last of the tokens that have been read. -/
def HoldsBelow (scope : Scope) (level : Level) (value : Value) (stack : Stack)
    (tokens : List Token) : Prop :=
  ∃ below part, tokens = below ++ part ∧ Holds scope stack below ∧ level.sits stack = true ∧
    Denotes scope (scope.room - stack.depth) level part value

/-- What has been read where the machine stands. -/
def State.Holds (scope : Scope) (tokens : List Token) : State → Prop
  | before stack => Arithmetic.Holds scope stack tokens
  | after value stack => HoldsBelow scope .product value stack tokens

section Steps

variable {scope : Scope} {stack : Stack} {tokens : List Token} {value : Value}

theorem room_sub_depth {frame : Frame} (hnests : Stack.depth (frame :: stack) = stack.depth + 1)
    (hroom : stack.depth < scope.room) :
    scope.room - stack.depth = scope.room - Stack.depth (frame :: stack) + 1 := by
  omega

/-- The tokens that a stack holds lead to the place of the stack. -/
theorem Holds.walk (h : Holds scope stack tokens) :
    Place.start.walk tokens = some (State.before stack).place := by
  induction h with
  | nil => rfl
  | sign negative h hroom ih => cases negative <;> exact Place.walk_append ih _
  | group h hroom ih => exact Place.walk_append ih _
  | operand h hsits hleft ih =>
    refine (Place.walk_append ih _).trans ?_
    exact Place.walk_append (hleft.phrase.walk _ _) _

theorem raises_of_holds (h : Holds scope stack tokens) {part : List Token} {room : Nat}
    {cause : EvalError} (hpart : Sentence part) (hroom : room ≤ scope.room)
    (hrun : run { scope with room := room } part = .error (.error cause)) :
    Raises scope (tokens ++ part) cause := by
  refine ⟨tokens, part, [], room, by rw [List.append_nil], hpart, ?_, hroom, hrun⟩
  rw [Place.walk_append h.walk]
  exact Option.isSome_iff_exists.2 ⟨_, hpart.walk _ _⟩

/-- The place of the machine is as deep as its stack. -/
theorem Holds.depth_place (h : Holds scope stack tokens) :
    (State.before stack).place.depth = stack.depth := by
  show stack.signs + stack.groups.sum = stack.depth
  induction h with
  | nil => rfl
  | @sign stack tokens negative h hroom ih =>
    rw [Stack.depth_sign, ← ih]
    show stack.signs + 1 + stack.groups.sum = stack.signs + stack.groups.sum + 1
    omega
  | @group stack tokens h hroom ih =>
    rw [Stack.depth_group, ← ih]
    show 0 + ((stack.signs + 1) :: stack.groups).sum = stack.signs + stack.groups.sum + 1
    rw [List.sum_cons]
    omega
  | @operand stack tokens left op value h hsits hleft ih =>
    rw [Stack.depth_operand, ← ih]
    show 0 + stack.groups.sum = _
    have hsigns : stack.signs = 0 := by
      match stack with
      | .sign _ :: _ => cases op <;> cases hsits
      | [] | .operand .. :: _ | .group :: _ => rfl
    rw [hsigns]

theorem applySign_ne_error (negative : Bool) (value : Value) (cause : EvalError) :
    Operator.applySign negative value ≠ .error (.error cause) := by
  unfold Operator.applySign
  intro heq
  split at heq
  · split at heq
    · cases heq
    · split at heq <;> cases heq
  · cases heq
  · cases heq

/-- What an operator makes of its operands, with its left one on the stack. -/
theorem joined_accounted (h : Holds scope stack tokens) {op : Operator} {left right : List Token}
    {a b : Value} (hleft : Denotes scope (scope.room - stack.depth) op.level left a)
    (hright : Denotes scope (scope.room - stack.depth) op.tighter right b) :
    Accounted scope (tokens ++ (left ++ .operator op :: right))
      (Denotes scope (scope.room - stack.depth) op.level (left ++ .operator op :: right))
      (op.apply a b) := by
  cases hresult : op.apply a b with
  | ok result => exact .ok (.joined hleft hright hresult)
  | error obstacle =>
    cases obstacle with
    | notArithmetic => exact .notArithmetic
    | error cause =>
      have hpart := (Phrase.joined op hleft.phrase hright.phrase).sentence
      exact .raised (raises_of_holds h hpart (Nat.sub_le _ _)
        (run_joined_of_error hleft hright hresult))

/-- Signs and products on the stack take a value and leave a state that holds what they held. -/
theorem settle_accounted (h : Holds scope stack tokens) {part : List Token}
    (hpart : Denotes scope (scope.room - stack.depth) .operand part value) :
    Accounted scope (tokens ++ part) (State.Holds scope (tokens ++ part)) (settle value stack) := by
  induction h generalizing part value with
  | nil => exact .ok ⟨[], part, rfl, .nil, rfl, hpart.product⟩
  | @sign stack tokens negative h hroom ih =>
    rw [settle]
    cases hsign : Operator.applySign negative value with
    | ok result =>
      have hdepth : scope.room - stack.depth =
          scope.room - Stack.depth (.sign negative :: stack) + 1 :=
        room_sub_depth (Stack.depth_sign _ _) hroom
      have hsigned := ih (hdepth ▸ hpart.signed hsign)
      rw [List.append_assoc]
      exact hsigned
    | error obstacle =>
      cases obstacle with
      | notArithmetic => exact .notArithmetic
      | error cause => exact absurd hsign (applySign_ne_error negative value cause)
  | group h hroom ih => exact .ok ⟨_, part, rfl, .group h hroom, rfl, hpart.product⟩
  | @operand stack tokens left op a h hsits hleft ih =>
    rw [Stack.depth_operand] at hpart
    rw [List.append_assoc, List.append_assoc]
    cases op with
    | multiply | divide =>
      refine (joined_accounted h hleft hpart).bind fun result hresult => ?_
      rw [settle_of_sits hsits]
      exact .ok ⟨tokens, _, rfl, h, hsits, hresult⟩
    | add | subtract =>
      refine .ok ⟨tokens ++ (left ++ [.operator _]), part, ?_, .operand h hsits hleft, rfl, ?_⟩
      · simp only [List.append_assoc]
      · rw [Stack.depth_operand]
        exact hpart.product

/-- A sum on the stack takes a value and leaves what was held below it. -/
theorem closeSum_accounted (h : HoldsBelow scope .product value stack tokens) :
    Accounted scope tokens (fun closed => HoldsBelow scope .sum closed.1 closed.2 tokens)
      (closeSum value stack) := by
  obtain ⟨below, part, rfl, hbelow, hsits, hpart⟩ := h
  cases hbelow with
  | nil => exact .ok ⟨[], part, rfl, .nil, rfl, hpart.sum⟩
  | sign negative h hroom => cases hsits
  | group h hroom => exact .ok ⟨_, part, rfl, .group h hroom, rfl, hpart.sum⟩
  | @operand stack tokens left op a h hstack hleft =>
    rw [Stack.depth_operand] at hpart
    rw [List.append_assoc, List.append_assoc]
    cases op with
    | multiply | divide => cases hsits
    | add | subtract =>
      refine (joined_accounted h hleft hpart).bind fun result hresult => ?_
      exact .ok ⟨tokens, _, rfl, h, hstack, hresult⟩

/-! ## Steps -/

theorem enter_accounted {frame : Frame} {token : Token}
    (hframe : stack.depth < scope.room → Holds scope (frame :: stack) (tokens ++ [token]))
    (hroom : stack.depth < scope.room) :
    Accounted scope (tokens ++ [token]) (State.Holds scope (tokens ++ [token]))
      (enter scope frame stack) := by
  rw [enter_of_lt hroom]
  exact .ok (hframe hroom)

theorem readOperand_accounted (h : Holds scope stack tokens) {token : Token}
    {rest : List Token} (hroom : (State.before stack).place.deepest (token :: rest) ≤ scope.room) :
    Accounted scope (tokens ++ [token]) (State.Holds scope (tokens ++ [token]))
      (readOperand scope stack token) := by
  have hdepth : stack.signs + stack.groups.sum = stack.depth := h.depth_place
  have henter : ∀ {place}, (State.before stack).place.next token = some place →
      place.depth = stack.signs + stack.groups.sum + 1 → stack.depth < scope.room := by
    intro place hnext hplace
    have hle := (Place.depth_le_deepest place rest).trans (Place.deepest_of_next hnext rest)
    omega
  have hsign : Place.depth (.operand (stack.signs + 1) stack.groups) =
      stack.signs + stack.groups.sum + 1 := by
    show stack.signs + 1 + stack.groups.sum = _
    omega
  have hgroup : Place.depth (.operand 0 ((stack.signs + 1) :: stack.groups)) =
      stack.signs + stack.groups.sum + 1 := by
    show 0 + ((stack.signs + 1) :: stack.groups).sum = _
    rw [List.sum_cons]
    omega
  cases token with
  | literal value => exact settle_accounted h (.literal _ value)
  | name name =>
    rw [readOperand]
    split
    · rename_i value hvalue
      exact settle_accounted h (.name _ hvalue)
    · exact .notArithmetic
  | call text =>
    rw [readOperand]
    cases hcall : scope.call (scope.room - stack.depth) text with
    | ok value => exact settle_accounted h (.call hcall)
    | error obstacle =>
      cases obstacle with
      | notArithmetic => exact .notArithmetic
      | error cause =>
        exact .raised (raises_of_holds h (Phrase.call text).sentence (Nat.sub_le _ _)
          (run_call_of_error hcall))
  | operator op =>
    cases op with
    | subtract => exact enter_accounted (.sign true h) (henter rfl hsign)
    | add => exact enter_accounted (.sign false h) (henter rfl hsign)
    | multiply | divide => exact .notArithmetic
  | opening => exact enter_accounted (.group h) (henter rfl hgroup)
  | closing => exact .notArithmetic

theorem readOperator_accounted (h : HoldsBelow scope .product value stack tokens) (token : Token) :
    Accounted scope (tokens ++ [token]) (State.Holds scope (tokens ++ [token]))
      (readOperator value stack token) := by
  have hclosed := (closeSum_accounted h).append [token]
  rw [readOperator.eq_def]
  split
  · rename_i op
    cases op with
    | multiply | divide =>
      obtain ⟨below, part, rfl, hbelow, hsits, hpart⟩ := h
      rw [List.append_assoc]
      exact .ok (.operand hbelow hsits hpart)
    | add | subtract =>
      refine hclosed.bind fun closed hheld => ?_
      obtain ⟨below, part, rfl, hbelow, hsits, hpart⟩ := hheld
      rw [List.append_assoc]
      exact .ok (.operand hbelow hsits hpart)
  · refine hclosed.bind fun closed hheld => ?_
    obtain ⟨sum, stack'⟩ := closed
    obtain ⟨below, part, rfl, hbelow, hsits, hpart⟩ := hheld
    dsimp only
    split
    · cases hbelow with
      | group hheld hroom =>
        have hgrouped := hpart.grouped
        rw [← room_sub_depth (Stack.depth_group _) hroom] at hgrouped
        have hgrouped := settle_accounted hheld hgrouped
        simpa only [List.append_assoc, List.singleton_append, List.cons_append,
          List.nil_append] using hgrouped
    · exact .notArithmetic

/-- What one token makes of what has been read. -/
theorem step_accounted {state : State} (h : state.Holds scope tokens) {token : Token}
    {rest : List Token} (hroom : state.place.deepest (token :: rest) ≤ scope.room) :
    Accounted scope (tokens ++ [token]) (State.Holds scope (tokens ++ [token]))
      (step scope state token) := by
  cases state with
  | before stack => exact readOperand_accounted h hroom
  | after value stack => exact readOperator_accounted h token

/-! ## Runs -/

/-- What any number of tokens makes of what has been read. -/
theorem foldlM_accounted {state : State} (h : state.Holds scope tokens) {rest : List Token}
    (hroom : state.place.deepest rest ≤ scope.room) :
    Accounted scope (tokens ++ rest) (State.Holds scope (tokens ++ rest))
      (rest.foldlM (step scope) state) := by
  induction rest generalizing state tokens with
  | nil =>
    rw [List.append_nil]
    exact .ok h
  | cons token rest ih =>
    have hstep := (step_accounted h hroom).append rest
    rw [List.foldlM_cons]
    rw [List.append_cons]
    cases hnext : step scope state token with
    | error obstacle =>
      rw [hnext] at hstep
      cases hstep with
      | notArithmetic => exact .notArithmetic
      | raised hraised => exact .raised hraised
    | ok state' =>
      rw [hnext] at hstep
      cases hstep with
      | ok hheld =>
        have hplace := Place.deepest_of_next (place_of_step hnext) rest
        exact ih hheld (hplace.trans hroom)

/-- At the end of the tokens there is a value only if they have it as a sentence. -/
theorem finish_accounted {state : State} (h : state.Holds scope tokens) :
    Accounted scope tokens (Denotes scope scope.room .sum tokens) (finish state) := by
  cases state with
  | before stack => exact .notArithmetic
  | after value stack =>
    refine (closeSum_accounted h).bind fun closed hheld => ?_
    obtain ⟨sum, stack'⟩ := closed
    obtain ⟨below, part, rfl, hbelow, -, hpart⟩ := hheld
    cases stack' with
    | nil =>
      cases hbelow
      exact .ok hpart
    | cons frame stack' => exact .notArithmetic

end Steps

/-- Where the room suffices for signs and parentheses, tokens that are no sentence have no value,
or the error of a part of them. -/
theorem run_outcome {scope : Scope} {tokens : List Token} (hsentence : ¬ Sentence tokens)
    (hroom : nesting tokens ≤ scope.room) :
    run scope tokens = .error .notArithmetic ∨
      ∃ cause, run scope tokens = .error (.error cause) ∧ Raises scope tokens cause := by
  have hstart : (State.before []).Holds scope [] := .nil
  have hrun : Accounted scope tokens (Denotes scope scope.room .sum tokens) (run scope tokens) :=
    (foldlM_accounted hstart hroom).bind fun _ => finish_accounted
  cases h : run scope tokens with
  | ok value =>
    rw [h] at hrun
    cases hrun with
    | ok hvalue => exact absurd hvalue.phrase hsentence
  | error obstacle =>
    rw [h] at hrun
    cases hrun with
    | notArithmetic => exact .inl rfl
    | @raised cause hraised => exact .inr ⟨cause, rfl, hraised⟩

end Arithmetic

open Arithmetic Evaluation

/-! ## Whole expressions -/

/-- What the operands of an expression stand for where its parts have a room. -/
def operandScope (functions : Functions) (room calls : Nat) (env : Environment) : Scope where
  room := room
  valueOf? := env.find?
  call := operandCall functions fun left => evaluate functions (min left room) calls env

theorem evaluate_arithmetic {functions : Functions} {text : Text}
    (h : Expression.Form.ofText functions (Text.trim text) = .arithmetic) (room calls : Nat)
    (env : Environment) :
    evaluate functions (room + 1) calls env text = do
      let value? ← Arithmetic.evaluate (operandScope functions room calls env) (Text.trim text)
      return value?.getD (.str (Text.trim text)) := by
  rw [evaluate]
  dsimp only
  rw [h]
  rfl

/-- **Malformed arithmetic.** Where the text of arithmetic has no tokens, or tokens that are no
sentence and whose signs and parentheses fit in the room inside the expression, its value is the
text itself, unless a part that is a sentence fails before it is known: then the expression fails
as that part does by itself. -/
theorem evaluate_malformed {functions : Functions} {text : Text}
    (hform : Expression.Form.ofText functions (Text.trim text) = .arithmetic) {room : Nat}
    (hmalformed : ∀ tokens, Token.list? (Text.trim text) = some tokens →
      ¬ Sentence tokens ∧ nesting tokens ≤ room) (calls : Nat) (env : Environment) :
    evaluate functions (room + 1) calls env text = .ok (.str (Text.trim text)) ∨
      ∃ tokens cause, Token.list? (Text.trim text) = some tokens ∧
        evaluate functions (room + 1) calls env text = .error cause ∧
        Raises (operandScope functions room calls env) tokens cause := by
  rw [evaluate_arithmetic hform, Arithmetic.evaluate]
  cases htokens : Token.list? (Text.trim text) with
  | none => exact .inl rfl
  | some tokens =>
    obtain ⟨hsentence, hroom⟩ := hmalformed tokens htokens
    dsimp only
    have hscope : nesting tokens ≤ (operandScope functions room calls env).room := hroom
    rcases run_outcome hsentence hscope with hrun | ⟨cause, hrun, hraises⟩
    · rw [hrun]
      exact .inl rfl
    · rw [hrun]
      exact .inr ⟨tokens, cause, rfl, rfl, hraises⟩

/-- A sum without its right operand, between blanks. -/
theorem evaluate_malformed_sum :
    evaluate [] 2 0 [] " 2 + ".toList = .ok (.str "2 +".toList) := by
  have htokens : Token.list? (Text.trim " 2 + ".toList) =
      some [.literal (.int 2), .operator .add] := by
    have hread : Token.read? "2 +".toList = some (.literal (.int 2), " +".toList) :=
      read?_decimalDigits_append (n := 2) (by decide) (by decide)
    show Token.list? "2 +".toList = _
    rw [list?_of_read? (by decide) hread]
    show (Token.list? (' ' :: "+".toList)).map _ = _
    rw [list?_cons_of_isBlank (by decide)]
    show (Token.list? (Connective.plus.sign :: [])).map _ = _
    rw [list?_of_read? (by decide) (read?_sign .plus []), Token.list?]
    rfl
  have hmalformed : ∀ tokens, Token.list? (Text.trim " 2 + ".toList) = some tokens →
      ¬ Sentence tokens ∧ nesting tokens ≤ 1 := by
    intro tokens h
    cases htokens.symm.trans h
    exact ⟨fun h => (by cases h.walk 0 []), by decide⟩
  rcases evaluate_malformed (by rfl) hmalformed 0 [] with h | ⟨tokens, cause, h, -, hraises⟩
  · exact h
  · cases htokens.symm.trans h
    obtain ⟨before, part, behind, room, hparts, hpart, -, -, hrun⟩ := hraises
    have hwalk := hpart.walk 0 []
    have hinfix : part <:+: [Token.literal (.int 2), .operator .add] :=
      ⟨before, behind, by rw [hparts, List.append_assoc]⟩
    simp only [List.infix_cons_iff, List.prefix_cons_iff, List.infix_nil] at hinfix
    rcases hinfix with (rfl | ⟨t, rfl, rfl | ⟨t', rfl, h⟩⟩) | (rfl | ⟨t', rfl, h⟩) | rfl
    · cases hwalk
    · cases hrun
    · rw [List.prefix_nil.1 h] at hwalk
      cases hwalk
    · cases hwalk
    · rw [List.prefix_nil.1 h] at hwalk
      cases hwalk
    · cases hwalk

/-- A quotient that fails before it is known that the sum behind it has no right operand. -/
theorem evaluate_fails_before_missing_operand :
    ∃ tokens, Token.list? "1/0+".toList = some tokens ∧ ¬ Sentence tokens ∧ nesting tokens = 0 ∧
      evaluate [] 200 64 [] "1/0+".toList = .error .divisionByZero := by
  have htokens : Token.list? "1/0+".toList =
      some [.literal (.int 1), .operator .divide, .literal (.int 0), .operator .add] := by
    have hone : Token.read? "1/0+".toList = some (.literal (.int 1), "/0+".toList) :=
      read?_decimalDigits_append (n := 1) (by decide) (by decide)
    have hquotient : Token.read? "/0+".toList = some (.operator .divide, "0+".toList) := rfl
    have hzero : Token.read? "0+".toList = some (.literal (.int 0), "+".toList) :=
      read?_decimalDigits_append (n := 0) (by decide) (by decide)
    have hplus : Token.read? "+".toList = some (.operator .add, []) := rfl
    rw [list?_of_read? (by decide) hone, list?_of_read? (by decide) hquotient,
      list?_of_read? (by decide) hzero, list?_of_read? (by decide) hplus, Token.list?]
    rfl
  refine ⟨_, htokens, fun h => (by cases h.walk 0 []), rfl, ?_⟩
  rw [evaluate_arithmetic (by rfl)]
  show (do
    let value? ← Arithmetic.evaluate _ "1/0+".toList
    return value?.getD _) = _
  rw [Arithmetic.evaluate, htokens]
  rfl
end DryRun
