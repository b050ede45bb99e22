import DryRun.Proofs.Arithmetic.Malformed

/-!
# The value of tokens

The machine yields the value that the grammar gives to its tokens, and no other (`run_eq_ok_iff`):
it never goes deeper than its room on the way to a value, so its stack holds what has been read as
long as nothing fails. The value depends on the names, and on the calls in the rooms that occur,
and on nothing else (`Denotes.of_agree`).
-/

namespace DryRun

namespace Arithmetic

variable {scope : Scope} {tokens : List Token} {value : Value}

/-! ## Depth along a run -/

theorem Holds.depth_le {stack : Stack} (h : Holds scope stack tokens) :
    stack.depth ≤ scope.room := by
  induction h with
  | nil => exact Nat.zero_le _
  | sign negative h hroom ih => exact (Stack.depth_sign ..).trans_le hroom
  | group h hroom ih => exact (Stack.depth_group _).trans_le hroom
  | operand h hsits hleft ih => exact (Stack.depth_operand ..).trans_le ih

theorem State.Holds.depth_place_le {state : State} (h : state.Holds scope tokens) :
    state.place.depth ≤ scope.room := by
  cases state with
  | before stack =>
    rw [Arithmetic.Holds.depth_place h]
    exact Arithmetic.Holds.depth_le h
  | after value stack =>
    obtain ⟨below, part, rfl, hbelow, -⟩ := h
    have hdepth : stack.signs + stack.groups.sum = stack.depth := hbelow.depth_place
    have hroom := hbelow.depth_le
    show stack.groups.sum ≤ scope.room
    omega

theorem depth_lt_of_enter {frame : Frame} {stack : Stack} {state : State}
    (h : enter scope frame stack = .ok state) : stack.depth < scope.room := by
  unfold enter at h
  split at h
  · assumption
  · cases h

theorem Place.depth_of_next_operator {groups : List Nat} {token : Token} {place : Place}
    (h : (operator groups).next token = some place) : place.depth ≤ groups.sum := by
  cases token with
  | operator op =>
    rw [← Option.some.inj h]
    exact Nat.le_of_eq (Nat.zero_add _)
  | closing =>
    cases groups with
    | nil => cases h
    | cons group groups =>
      rw [← Option.some.inj h, List.sum_cons]
      exact Nat.le_add_left ..
  | literal | name | call | opening => cases h

theorem depth_place_of_readOperand {stack : Stack} {token : Token} {state : State}
    (h : Holds scope stack tokens) (hread : readOperand scope stack token = .ok state) :
    state.place.depth ≤ scope.room := by
  have hnext := place_of_readOperand hread
  have hdepth : stack.signs + stack.groups.sum = stack.depth := h.depth_place
  have hroom := h.depth_le
  cases token with
  | literal | name | call =>
    rw [← Option.some.inj hnext]
    show stack.groups.sum ≤ scope.room
    omega
  | operator op =>
    cases op with
    | add | subtract =>
      have hlt := depth_lt_of_enter hread
      rw [← Option.some.inj hnext]
      show stack.signs + 1 + stack.groups.sum ≤ scope.room
      omega
    | multiply | divide => cases hread
  | opening =>
    have hlt := depth_lt_of_enter hread
    rw [← Option.some.inj hnext]
    show 0 + ((stack.signs + 1) :: stack.groups).sum ≤ scope.room
    rw [List.sum_cons]
    omega
  | closing => cases hread

theorem depth_place_of_step {state state' : State} {token : Token} (h : state.Holds scope tokens)
    (hstep : step scope state token = .ok state') : state'.place.depth ≤ scope.room := by
  cases state with
  | before stack => exact depth_place_of_readOperand h hstep
  | after value stack =>
    exact (Place.depth_of_next_operator (place_of_step hstep)).trans h.depth_place_le

/-! ## The values of runs -/

theorem holds_of_step {state state' : State} {token : Token} (h : state.Holds scope tokens)
    (hstep : step scope state token = .ok state') : state'.Holds scope (tokens ++ [token]) := by
  -- a step that is taken goes nowhere beyond the room, so it cannot have failed for want of it
  have hroom : state.place.deepest [token] ≤ scope.room := by
    rw [Place.deepest, place_of_step hstep]
    exact Nat.max_le.2 ⟨h.depth_place_le, depth_place_of_step h hstep⟩
  have hheld := step_accounted h hroom
  rw [hstep] at hheld
  cases hheld
  assumption

theorem holds_of_foldlM {state state' : State} {rest : List Token} (h : state.Holds scope tokens)
    (hrun : rest.foldlM (step scope) state = .ok state') : state'.Holds scope (tokens ++ rest) := by
  induction rest generalizing state tokens with
  | nil =>
    cases hrun
    rw [List.append_nil]
    exact h
  | cons token rest ih =>
    rw [List.foldlM_cons] at hrun
    rw [List.append_cons]
    cases hstep : step scope state token with
    | error obstacle =>
      rw [hstep] at hrun
      cases hrun
    | ok state'' =>
      rw [hstep] at hrun
      exact ih (holds_of_step h hstep) hrun

/-- **The value of tokens.** The machine yields a value just where the tokens are a sentence that
has it. -/
theorem run_eq_ok_iff :
    run scope tokens = .ok value ↔ Denotes scope scope.room .sum tokens value := by
  constructor
  · intro hrun
    rw [run] at hrun
    cases hstate : tokens.foldlM (step scope) (.before []) with
    | error obstacle =>
      rw [hstate] at hrun
      cases hrun
    | ok state =>
      have hstart : (State.before []).Holds scope [] := .nil
      have hvalue := finish_accounted (holds_of_foldlM hstart hstate)
      rw [hstate] at hrun
      rw [show finish state = .ok value from hrun] at hvalue
      cases hvalue
      assumption
  · intro h
    obtain ⟨last, stack, hreached, hclose⟩ := h.reaches (rfl : Level.sum.sits [] = true)
    rw [show Stack.depth [] + scope.room = scope.room from Nat.zero_add _] at hreached
    rw [run, hreached]
    show finish (.after last stack) = .ok value
    rw [finish, hclose]
    rfl

/-- The value of tokens is the same in scopes that agree on names, and on calls in the room. -/
theorem Denotes.of_agree {scope' : Scope} {room : Nat} {level : Level}
    (h : Denotes scope room level tokens value)
    (hnames : ∀ name, scope'.valueOf? name = scope.valueOf? name)
    (hcalls : ∀ room' ≤ room, ∀ text, scope'.call room' text = scope.call room' text) :
    Denotes scope' room level tokens value := by
  induction h with
  | literal room value => exact .literal room value
  | name room hvalue => exact .name room ((hnames _).trans hvalue)
  | call hvalue => exact .call ((hcalls _ (Nat.le_refl _) _).trans hvalue)
  | signed h hresult ih =>
    exact .signed (ih fun room' hroom' => hcalls room' (Nat.le_succ_of_le hroom')) hresult
  | grouped h ih => exact .grouped (ih fun room' hroom' => hcalls room' (Nat.le_succ_of_le hroom'))
  | joined hleft hright hresult ihleft ihright =>
    exact .joined (ihleft hcalls) (ihright hcalls) hresult
  | product h ih => exact .product (ih hcalls)
  | sum h ih => exact .sum (ih hcalls)

/-- An operand has its value at every level. -/
theorem Denotes.at_level {room : Nat} (h : Denotes scope room .operand tokens value)
    (level : Level) : Denotes scope room level tokens value := by
  cases level with
  | operand => exact h
  | product => exact h.product
  | sum => exact h.product.sum

theorem Denotes.to_sum {room : Nat} {level : Level} (h : Denotes scope room level tokens value) :
    Denotes scope room .sum tokens value := by
  cases level with
  | operand => exact h.product.sum
  | product => exact h.sum
  | sum => exact h

/-- Without calls, the value of tokens takes the room that signs and parentheses nest in, and the
values of the names. -/
theorem Denotes.of_deepest_le {scope' : Scope} {room room' : Nat} {level : Level}
    (h : Denotes scope room level tokens value)
    (hnames : ∀ name, scope'.valueOf? name = scope.valueOf? name)
    (hcalls : ∀ text, .call text ∉ tokens) {signs : Nat} {groups : List Nat}
    (hlevel : level = .operand ∨ signs = 0)
    (hroom : (Place.operand signs groups).deepest tokens ≤ signs + groups.sum + room') :
    Denotes scope' room' level tokens value := by
  induction h generalizing room' signs groups with
  | literal room value => exact .literal room' value
  | name room hvalue => exact .name room' ((hnames _).trans hvalue)
  | call hvalue => exact absurd List.mem_cons_self (hcalls _)
  | @signed room negative tokens value result h hresult ih =>
    have hnext : (Place.operand signs groups).next (signToken negative) =
        some (.operand (signs + 1) groups) := by cases negative <;> rfl
    have hbehind := Place.deepest_of_next hnext tokens
    have hdepth : signs + 1 + groups.sum ≤ _ :=
      Place.depth_le_deepest (.operand (signs + 1) groups) tokens
    obtain ⟨room', rfl⟩ : ∃ left, room' = left + 1 := ⟨room' - 1, by omega⟩
    have hcalls := fun text hmem => hcalls text (List.mem_cons_of_mem _ hmem)
    have hinside : (Place.operand (signs + 1) groups).deepest tokens ≤
        signs + 1 + groups.sum + room' := by omega
    exact .signed (ih hcalls (.inl rfl) hinside) hresult
  | @grouped room tokens value h ih =>
    have hnext : (Place.operand signs groups).next .opening =
        some (.operand 0 ((signs + 1) :: groups)) := rfl
    have hbehind := (Place.deepest_le_append _ tokens [.closing]).trans
      (Place.deepest_of_next hnext (tokens ++ [.closing]))
    have hsum : List.sum ((signs + 1) :: groups) = signs + 1 + groups.sum := List.sum_cons
    have hdepth : 0 + List.sum ((signs + 1) :: groups) ≤ _ :=
      Place.depth_le_deepest (.operand 0 ((signs + 1) :: groups)) tokens
    obtain ⟨room', rfl⟩ : ∃ left, room' = left + 1 := ⟨room' - 1, by omega⟩
    have hcalls := fun text hmem =>
      hcalls text (List.mem_cons_of_mem _ (List.mem_append_left _ hmem))
    have hinside : (Place.operand 0 ((signs + 1) :: groups)).deepest tokens ≤
        0 + List.sum ((signs + 1) :: groups) + room' := by omega
    exact .grouped (ih hcalls (.inr rfl) hinside)
  | @joined room op left right a b result hleft hright hresult ihleft ihright =>
    obtain rfl : signs = 0 := hlevel.resolve_left (by cases op <;> nofun)
    have hwalk : (Place.operand 0 groups).walk (left ++ [.operator op]) =
        some (.operand 0 groups) := Place.walk_append (hleft.phrase.walk 0 groups) _
    have hbefore := Place.deepest_le_append (.operand 0 groups) left (.operator op :: right)
    have hbehind := Place.deepest_of_walk hwalk right
    rw [List.append_assoc, List.singleton_append] at hbehind
    have hcallsLeft := fun text hmem => hcalls text (List.mem_append_left _ hmem)
    have hcallsRight := fun text hmem =>
      hcalls text (List.mem_append_right _ (List.mem_cons_of_mem _ hmem))
    exact .joined (ihleft hcallsLeft (.inr rfl) (hbefore.trans hroom))
      (ihright hcallsRight (.inr rfl) (hbehind.trans hroom)) hresult
  | product h ih => exact .product (ih hcalls (.inl rfl) hroom)
  | sum h ih => exact .sum (ih hcalls (.inr (hlevel.resolve_left nofun)) hroom)

theorem Denotes.of_nesting_le {scope' : Scope} {room room' : Nat}
    (h : Denotes scope room .sum tokens value)
    (hnames : ∀ name, scope'.valueOf? name = scope.valueOf? name)
    (hcalls : ∀ text, .call text ∉ tokens) (hroom : nesting tokens ≤ room') :
    Denotes scope' room' .sum tokens value := by
  have hdeepest : (Place.operand 0 []).deepest tokens ≤ 0 + List.sum [] + room' :=
    hroom.trans_eq (Nat.zero_add room').symm
  exact h.of_deepest_le hnames hcalls (.inr rfl) hdeepest

end Arithmetic

end DryRun
