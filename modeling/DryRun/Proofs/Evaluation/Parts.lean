import DryRun.Evaluation
import DryRun.Proofs.Expression.Parts

/-!
# Evaluation of parts

To find the value of an expression, evaluation looks at parts of its text and of the functions that
it calls, and at nothing else. So two ways to evaluate that agree on all parts of a text agree on
what is made of them: on items, templates, arithmetic and statements.
-/

namespace DryRun

open Evaluation Expression Text

/-! ## Statements -/

theorem isSuffix_of_identifier {text name behind : Text}
    (h : identifier text = some (name, behind)) : behind <:+ text := by
  obtain ⟨⟨first, rest⟩, hfirst, hothers⟩ := Option.bind_eq_some_iff.1 h
  obtain rfl := eq_cons_of_charOf hfirst
  cases hothers
  exact (List.dropWhile_suffix _).trans (List.suffix_cons _ _)

theorem isInfix_statementOf (line : Text) : statementOf line <:+: line :=
  (isInfix_trim _).trans (List.take_prefix _ _).isInfix

theorem isInfix_of_assignment? {line name expression : Text}
    (h : assignment? line = some (name, expression)) : expression <:+: line := by
  obtain ⟨⟨name', rest⟩, hname, hrest⟩ := Option.bind_eq_some_iff.1 h
  obtain ⟨value, hvalue, hshown⟩ := Option.bind_eq_some_iff.1 hrest
  have hbehind := eq_append_of_after? hvalue
  have hstart := isSuffix_trimStart rest
  rw [hbehind] at hstart
  dsimp only at hshown
  split at hshown
  · cases hshown
  · cases hshown
    have hvalue' : value <:+ line :=
      ((List.suffix_append _ _).trans hstart).trans (isSuffix_of_identifier hname)
    exact ((isSuffix_trimStart value).trans hvalue').isInfix

theorem isInfix_of_returned? {line expression : Text} (h : returned? line = some expression) :
    expression <:+: line := by
  obtain ⟨⟨found, behind⟩, hread, hrest⟩ := Option.bind_eq_some_iff.1 h
  obtain ⟨⟨seen, rest⟩, hword, hblanks⟩ := Option.bind_eq_some_iff.1 hread
  obtain ⟨⟨blank, others⟩, hblank, hothers⟩ := Option.bind_eq_some_iff.1 hblanks
  obtain rfl := eq_append_of_word hword
  obtain rfl := eq_cons_of_charOf hblank
  cases hothers
  have hbehind : others.dropWhile Unicode.isBlank <:+ "return".toList ++ blank :: others :=
    (List.dropWhile_suffix _).trans ((List.suffix_cons _ _).trans (List.suffix_append _ _))
  dsimp only at hrest
  split at hrest
  · cases hrest
  · cases hrest
    exact hbehind.isInfix

/-! ## Agreement -/

section Agreement

variable {α β ε : Type}

theorem mapM_congr {f f' : α → Except ε β} {items : List α}
    (h : ∀ item ∈ items, f' item = f item) : items.mapM f' = items.mapM f := by
  induction items with
  | nil => rfl
  | cons item rest ih =>
    rw [List.forall_mem_cons] at h
    rw [List.mapM_cons, List.mapM_cons, h.1, ih h.2]

theorem foldlM_congr {f f' : β → α → Except ε β} {items : List α}
    (h : ∀ item ∈ items, ∀ b, f' b item = f b item) (b : β) :
    items.foldlM f' b = items.foldlM f b := by
  induction items generalizing b with
  | nil => rfl
  | cons item rest ih =>
    rw [List.forall_mem_cons] at h
    rw [List.foldlM_cons, List.foldlM_cons, h.1]
    simp only [ih h.2]

theorem foldlM_cons_of_ok {f : β → α → Except ε β} {item : α} {b b' : β} (h : f b item = .ok b')
    (rest : List α) : (item :: rest).foldlM f b = rest.foldlM f b' := by
  rw [List.foldlM_cons, h]
  rfl

end Agreement

/-! ## Items, templates and parameters -/

section Parts

variable {f f' : Text → Except EvalError Value}

theorem mapM_splitItems_congr {text : Text} (h : ∀ part, part <:+: text → f' part = f part) :
    (splitItems text).mapM f' = (splitItems text).mapM f :=
  mapM_congr fun item hitem => h item (isInfix_of_mem_splitItems hitem)

theorem fillTemplate_congr {template : Text} (h : ∀ part, part <:+: template → f' part = f part) :
    fillTemplate f' template = fillTemplate f template := by
  unfold fillTemplate
  rw [mapM_congr]
  intro part hpart
  cases part with
  | char c => rfl
  | placeholder inside =>
    have hinside : (Template.splitPlaceholder inside).1 <:+: template :=
      (Template.isPrefix_splitPlaceholder inside).isInfix.trans
        (Template.isInfix_of_mem_parts hpart)
    rw [fillPart, fillPart]
    generalize Template.splitPlaceholder inside = parts at hinside ⊢
    obtain ⟨expression, places⟩ := parts
    dsimp only
    rw [h expression hinside]

theorem bindParameters_congr {parameters : List Parameter}
    (h : ∀ parameter ∈ parameters, ∀ default, parameter.default = some default →
      f' default = f default) (locals : Environment) (values : List Value) :
    bindParameters f' locals parameters values = bindParameters f locals parameters values := by
  induction parameters generalizing locals values with
  | nil => rfl
  | cons parameter rest ih =>
    rw [List.forall_mem_cons] at h
    cases values with
    | cons value others => exact ih h.2 _ others
    | nil =>
      rw [bindParameters, bindParameters]
      cases hdefault : parameter.default with
      | none => exact ih h.2 locals []
      | some default =>
        dsimp only
        rw [h.1 default hdefault]
        simp only [ih h.2]

end Parts

/-! ## Bodies -/

theorem runBody_congr {f f' : Environment → Text → Except EvalError Value} {body : List Text}
    (h : ∀ line ∈ body, ∀ part, part <:+: line → ∀ env, f' env part = f env part)
    (locals : Environment) : runBody f' locals body = runBody f locals body := by
  induction body generalizing locals with
  | nil => rfl
  | cons line rest ih =>
    rw [List.forall_mem_cons] at h
    rw [runBody, runBody]
    cases hreturned : returned? (statementOf line) with
    | some expression =>
      exact h.1 _ ((isInfix_of_returned? hreturned).trans (isInfix_statementOf line)) locals
    | none =>
      cases hassignment : assignment? (statementOf line) with
      | none => exact ih h.2 locals
      | some assignment =>
        have hpart := (isInfix_of_assignment? hassignment).trans (isInfix_statementOf line)
        dsimp only
        rw [h.1 _ hpart locals]
        simp only [ih h.2]

/-! ## Arithmetic -/

namespace Arithmetic

/-- Two scopes that differ at most in calls, and in none of the given ones. -/
structure Scope.Agrees (scope scope' : Scope) (texts : Text → Prop) : Prop where
  room_eq : scope'.room = scope.room
  valueOf?_eq : scope'.valueOf? = scope.valueOf?
  call_eq : ∀ text, texts text → ∀ room, scope'.call room text = scope.call room text

variable {scope scope' : Scope} {texts : Text → Prop}

theorem readOperand_congr (h : scope.Agrees scope' texts) {token : Token}
    (htoken : ∀ called, token = .call called → texts called) (stack : Stack) :
    readOperand scope' stack token = readOperand scope stack token := by
  cases token with
  | call called =>
    rw [readOperand, readOperand, h.room_eq, h.call_eq called (htoken called rfl)]
  | literal value => rfl
  | name name => rw [readOperand, readOperand, h.valueOf?_eq]
  | operator op =>
    cases op with
    | add => rw [readOperand, readOperand, enter, enter, h.room_eq]
    | subtract => rw [readOperand, readOperand, enter, enter, h.room_eq]
    | multiply => rfl
    | divide => rfl
  | opening => rw [readOperand, readOperand, enter, enter, h.room_eq]
  | closing => rfl

theorem evaluate_congr {text : Text} (h : scope.Agrees scope' (· <:+: text)) :
    evaluate scope' text = evaluate scope text := by
  unfold evaluate
  cases htokens : Token.list? text with
  | none => rfl
  | some tokens =>
    have hrun : run scope' tokens = run scope tokens := by
      unfold run
      rw [foldlM_congr]
      intro token htoken state
      cases state with
      | before stack =>
        refine readOperand_congr h (fun called hcall => ?_) stack
        rw [hcall] at htoken
        exact Token.isInfix_of_mem_list? htokens htoken
      | after value stack => rfl
    dsimp only
    rw [hrun]

end Arithmetic

end DryRun
