import DryRun.Rule

/-!
# Messages of rules

The first two characters of a message tell which rule it may come from; where several rules begin
alike, the rest of the message decides. So what the rules for unclosed brackets, missing colons and
assignments in conditions say is said by no other rule.
-/

namespace DryRun

namespace Rule

/-- The text that reports an opener without its closer. -/
def neverClosed (bracket : Bracket) : String :=
  Bracket.Fault.quoted bracket.opener ++ " was never closed"

/-- The text that reports a block without its colon. -/
def colonExpected (word : String) : String :=
  "expected ':' at the end of the '" ++ word ++ "' statement"

/-- The text that reports an assignment in a condition. -/
def assignmentFound : String := "invalid syntax. Maybe you meant '==' or ':=' instead of '='?"

/-- The first two characters of what a rule may say. -/
def leads : Rule → List Text
  | missingColon => [['e', 'x']]
  | unclosed bracket => [['\'', bracket.opener]]
  | unterminated _ => [['u', 'n']]
  | assignmentInCondition | missingComma | bareDefinition | mixedIndentation | digitName =>
    [['i', 'n']]
  | barePrint => [['M', 'i']]
  | returnOutsideFunction => [['\'', 'r']]
  | jumpOutsideLoop => [['\'', 'b'], ['\'', 'c']]
  | keywordAssignment => [['c', 'a'], ['i', 'n']]

/-- The first two characters of a message. -/
def lead (message : String) : Text := message.toList.take 2

theorem lead_append {first second : String} (h : 2 ≤ first.toList.length) :
    lead (first ++ second) = lead first := by
  rw [lead, String.toList_append, List.take_append_of_le_length h]
  rfl

@[simp] theorem lead_neverClosed (bracket : Bracket) :
    lead (neverClosed bracket) = ['\'', bracket.opener] := by
  cases bracket <;> rfl

@[simp] theorem lead_colonExpected (word : String) : lead (colonExpected word) = ['e', 'x'] := by
  unfold colonExpected
  rw [String.append_assoc, lead_append (by decide)]
  rfl

theorem lead_jumpAdvice (jump : String) :
    lead (jumpAdvice jump).message ∈ leads jumpOutsideLoop := by
  unfold jumpAdvice
  dsimp only
  split
  · exact List.mem_cons_self
  · exact List.mem_cons_of_mem _ List.mem_cons_self

theorem lead_keywordAdvice (keyword : Text) :
    lead (keywordAdvice keyword).message ∈ leads keywordAssignment := by
  unfold keywordAdvice
  dsimp only
  split
  · rw [lead_append (by decide)]
    exact List.mem_cons_self
  · rw [String.append_assoc, lead_append (by decide)]
    exact List.mem_cons_of_mem _ List.mem_cons_self

theorem eq_of_ite_some {α : Type} {condition : Prop} [Decidable condition] {found given : α}
    (h : (if condition then some given else none) = some found) : found = given := by
  obtain ⟨-, heq⟩ := Option.ite_none_right_eq_some.1 h
  exact (Option.some.inj heq).symm

/-- What a rule says begins as its messages do. -/
theorem lead_advice_mem {site : Site} {rule : Rule} {advice : Advice}
    (h : advice? site rule = some advice) : lead advice.message ∈ leads rule := by
  cases rule with rw [advice?] at h
  | missingColon =>
    obtain rfl := eq_of_ite_some h
    show lead (colonExpected _) ∈ _
    simp [leads]
  | unclosed bracket =>
    obtain rfl := eq_of_ite_some h
    show lead (neverClosed bracket) ∈ _
    simp [leads]
  | unterminated quote =>
    obtain rfl := eq_of_ite_some h
    unfold unterminatedAdvice
    rw [String.append_assoc, lead_append (by decide)]
    simp [lead, leads]
  | assignmentInCondition =>
    obtain ⟨-, h⟩ := Option.ite_none_right_eq_some.1 h
    obtain ⟨place, -, rfl⟩ := Option.map_eq_some_iff.1 h
    simp [assignmentAdvice, lead, leads]
  | barePrint =>
    obtain ⟨-, h⟩ := Option.ite_none_right_eq_some.1 h
    obtain ⟨arguments, -, rfl⟩ := Option.map_eq_some_iff.1 h
    simp [barePrintAdvice, lead, leads]
  | missingComma =>
    obtain ⟨⟨left, right⟩, -, rfl⟩ := Option.map_eq_some_iff.1 h
    simp [missingCommaAdvice, lead, leads]
  | bareDefinition =>
    obtain ⟨name, -, rfl⟩ := Option.map_eq_some_iff.1 h
    simp [bareDefinitionAdvice, lead, leads]
  | mixedIndentation =>
    obtain rfl := eq_of_ite_some h
    simp [mixedIndentationAdvice, lead, leads]
  | returnOutsideFunction =>
    obtain rfl := eq_of_ite_some h
    simp [returnAdvice, lead, leads]
  | jumpOutsideLoop =>
    obtain rfl := eq_of_ite_some h
    exact lead_jumpAdvice _
  | digitName =>
    obtain rfl := eq_of_ite_some h
    simp [digitNameAdvice, lead, leads]
  | keywordAssignment =>
    obtain rfl := eq_of_ite_some h
    exact lead_keywordAdvice _

/-- Only the rule for a kind of bracket says that one was never closed. -/
theorem eq_unclosed_of_neverClosed {site : Site} {rule : Rule} {advice : Advice} {bracket : Bracket}
    (h : advice? site rule = some advice) (hmessage : advice.message = neverClosed bracket) :
    rule = unclosed bracket := by
  have hlead := lead_advice_mem h
  rw [hmessage, lead_neverClosed] at hlead
  clear h hmessage
  cases rule with
  | unclosed other => revert hlead; cases bracket <;> cases other <;> decide
  | unterminated quote => revert hlead; cases bracket <;> cases quote <;> decide
  | _ => revert hlead; cases bracket <;> decide

/-- Only the rule for missing colons says that one is expected. -/
theorem eq_missingColon_of_colonExpected {site : Site} {rule : Rule} {advice : Advice}
    {word : String} (h : advice? site rule = some advice)
    (hmessage : advice.message = colonExpected word) : rule = missingColon := by
  have hlead := lead_advice_mem h
  rw [hmessage, lead_colonExpected] at hlead
  clear h hmessage
  cases rule with
  | unclosed other => revert hlead; cases other <;> decide
  | unterminated quote => revert hlead; cases quote <;> decide
  | _ => revert hlead; decide

theorem keywordAdvice_message_ne (keyword : Text) :
    (keywordAdvice keyword).message ≠ assignmentFound := by
  intro h
  unfold keywordAdvice at h
  dsimp only at h
  split at h
  · have hlead := congrArg lead h
    rw [lead_append (by decide)] at hlead
    revert hlead
    decide
  · -- a colon stands where the full stop should
    have hchar := congrArg (·.toList[14]?) h
    rw [String.append_assoc] at hchar
    simp only [String.toList_append] at hchar
    rw [List.getElem?_append_left (by decide)] at hchar
    revert hchar
    decide

/-- Only the rule for assignments in conditions says that it found one. -/
theorem eq_assignmentInCondition_of_assignmentFound {site : Site} {rule : Rule} {advice : Advice}
    (h : advice? site rule = some advice) (hmessage : advice.message = assignmentFound) :
    rule = assignmentInCondition := by
  have hlead := lead_advice_mem h
  rw [hmessage] at hlead
  cases rule with
  | assignmentInCondition => rfl
  | missingComma =>
    obtain ⟨⟨left, right⟩, -, rfl⟩ := Option.map_eq_some_iff.1 h
    revert hmessage
    simp [missingCommaAdvice, assignmentFound]
  | bareDefinition =>
    obtain ⟨name, -, rfl⟩ := Option.map_eq_some_iff.1 h
    revert hmessage
    simp [bareDefinitionAdvice, assignmentFound]
  | mixedIndentation =>
    rw [advice?] at h
    obtain rfl := eq_of_ite_some h
    revert hmessage
    simp [mixedIndentationAdvice, assignmentFound]
  | digitName =>
    rw [advice?] at h
    obtain rfl := eq_of_ite_some h
    revert hmessage
    simp [digitNameAdvice, assignmentFound]
  | keywordAssignment =>
    rw [advice?] at h
    obtain rfl := eq_of_ite_some h
    exact absurd hmessage (keywordAdvice_message_ne _)
  | unclosed bracket => revert hlead; cases bracket <;> decide
  | unterminated quote => revert hlead; cases quote <;> decide
  | _ => revert hlead; decide

end Rule

end DryRun
