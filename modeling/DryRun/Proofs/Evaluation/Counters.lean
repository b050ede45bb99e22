import DryRun.Arithmetic.Operator
import DryRun.Evaluation
import DryRun.Number.Reading

/-!
# Counters

Computations that count how deep they are. Whatever goes one level deeper raises a counter of 64
bits and lowers it again at the end, with a result or with an error. No counter is put back for it
but that of a parser, which is set to zero where another computation takes the place of the parser,
and put back behind that (`apart`). The counters of every moment are kept, and those at the
beginning and at the end of every step. `Moves` tells which counters a computation ends with, and
that within limits all moments stay within them and all steps end with the counters that they began
with; `Leads` is the same of a computation that ends where it began.

1. Counters, and what is kept of them.
2. Computations, and the ways to count a level.
3. The two judgements, for each way to build a computation.
4. Computations that follow an evaluation without counters.
-/

namespace DryRun

open Evaluation

/-! ## Counters -/

/-- How deep an evaluation is at a moment. -/
structure Counters where
  /-- The expressions that wait for a part of them, and the signs and parentheses around the calls
  among them. -/
  nesting : Nat
  /-- The calls whose bodies are being run. -/
  calls : Nat
  /-- The signs and parentheses that the parser of arithmetic is inside of; a parser that waits for
  a call leaves them to `nesting`. -/
  parser : Nat
  deriving DecidableEq, Repr

/-- Whether the limits have a place in a word. -/
structure Evaluation.Limits.Fit (limits : Limits) : Prop where
  nesting : limits.nesting ≤ wordCap
  calls : limits.calls ≤ wordCap

/-- The counters by name. -/
inductive Counter where
  | nesting
  | calls
  | parser
  deriving DecidableEq, Repr

namespace Counters

/-- The value of a counter. -/
def count (counters : Counters) : Counter → Nat
  | .nesting => counters.nesting
  | .calls => counters.calls
  | .parser => counters.parser

/-- The counters with one of them set. -/
def set (counters : Counters) (value : Nat) : Counter → Counters
  | .nesting => { counters with nesting := value }
  | .calls => { counters with calls := value }
  | .parser => { counters with parser := value }

/-- The counters with one of them raised. -/
def raise (counters : Counters) (counter : Counter) (amount : Nat) : Counters :=
  counters.set (counters.count counter + amount) counter

/-- Whether no counter is beyond its limit; the parser shares that of nesting. -/
structure Within (counters : Counters) (limits : Limits) : Prop where
  nesting : counters.nesting + counters.parser ≤ limits.nesting
  calls : counters.calls ≤ limits.calls

variable {counters : Counters} {counter : Counter} {value : Nat}

@[simp]
theorem count_set : (counters.set value counter).count counter = value := by
  cases counter <;> rfl

theorem set_set_count :
    (counters.set value counter).set (counters.count counter) counter = counters := by
  cases counter <;> rfl

theorem set_parser_eq : counters.set counters.parser .parser = counters := rfl

/-- Limits with a place in a word leave no room for an overflow. -/
theorem Within.count_le {limits : Limits} (h : counters.Within limits) (hfit : limits.Fit)
    (counter : Counter) : counters.count counter ≤ wordCap := by
  obtain ⟨hnesting, hcalls⟩ := h
  obtain ⟨hnesting', hcalls'⟩ := hfit
  cases counter <;> simp only [count] <;> omega

end Counters

/-- The steps that have to leave the counters as they are. -/
inductive Step where
  | evaluation
  /-- A call of a function that is defined. -/
  | call
  /-- A call among the operands of arithmetic, or what looks like one. -/
  | operand
  /-- What stands behind a sign or in parentheses. -/
  | nested
  deriving DecidableEq, Repr

/-- The counters at the beginning and at the end of a step. -/
structure Activity where
  step : Step
  entry : Counters
  exit : Counters
  deriving DecidableEq, Repr

/-- The counters, and what they have been. -/
structure Tally where
  now : Counters
  /-- The counters at every moment, the latest first. -/
  moments : List Counters
  /-- The steps that have ended, the latest first. -/
  ended : List Activity
  deriving DecidableEq, Repr

namespace Tally

/-- The tally before anything has been done. -/
def start : Tally where
  now := { nesting := 0, calls := 0, parser := 0 }
  moments := []
  ended := []

/-- The tally behind a change of the counters. -/
def move (tally : Tally) (counters : Counters) : Tally :=
  { tally with now := counters, moments := counters :: tally.moments }

/-- The tally behind the end of a step. -/
def finish (tally : Tally) (step : Step) (entry : Counters) : Tally :=
  { tally with ended := ⟨step, entry, tally.now⟩ :: tally.ended }

/-- Whether all counters have been within the limits, and all steps have put them back. -/
structure Sound (tally : Tally) (limits : Limits) : Prop where
  now : tally.now.Within limits
  moments : ∀ counters ∈ tally.moments, counters.Within limits
  ended : ∀ activity ∈ tally.ended, activity.exit = activity.entry

variable {tally : Tally} {limits : Limits}

theorem start_sound (limits : Limits) : start.Sound limits where
  now := ⟨Nat.zero_le _, Nat.zero_le _⟩
  moments := nofun
  ended := nofun

theorem Sound.move (h : tally.Sound limits) {counters : Counters}
    (hwithin : counters.Within limits) : (tally.move counters).Sound limits where
  now := hwithin
  moments := List.forall_mem_cons.2 ⟨hwithin, h.moments⟩
  ended := h.ended

theorem Sound.finish (h : tally.Sound limits) (step : Step) :
    (tally.finish step tally.now).Sound limits where
  now := h.now
  moments := h.moments
  ended := List.forall_mem_cons.2 ⟨rfl, h.ended⟩

end Tally

/-! ## Computations -/

/-- Why a computation yields no value. -/
inductive Stop where
  | error (cause : EvalError)
  | notArithmetic
  /-- A counter has no place for its value. -/
  | overflow
  /-- The bound on the recursion is used up. -/
  | unfinished
  deriving DecidableEq, Repr

/-- The end of a computation that arithmetic brings about. -/
def Stop.ofObstacle : Obstacle → Stop
  | .notArithmetic => .notArithmetic
  | .error cause => .error cause

/-- Computations that count; an error leaves the counters as they are at that moment. -/
abbrev Counted (α : Type) := ExceptT Stop (StateM Tally) α

namespace Counted

variable {α β : Type}

/-- The result of a computation, and the tally behind it. -/
def run (x : Counted α) (tally : Tally) : Except Stop α × Tally := x tally

/-- The counters at this moment. -/
def now : Counted Counters := return (← get).now

/-- Changes the counters. -/
def change (f : Counters → Counters) : Counted Unit := modify fun tally => tally.move (f tally.now)

/-- Raises a counter, if it has a place for the value. -/
def raise (counter : Counter) (amount : Nat) : Counted Unit := do
  if (← now).count counter + amount ≤ wordCap then change (·.raise counter amount)
  else throw .overflow

/-- Lowers a counter, if it is as high. -/
def lower (counter : Counter) (amount : Nat) : Counted Unit := do
  if amount ≤ (← now).count counter then
    change fun counters => counters.set (counters.count counter - amount) counter
  else throw .overflow

/-- A computation with a counter raised. -/
def raised (counter : Counter) (amount : Nat) (x : Counted α) : Counted α := do
  raise counter amount
  try x finally lower counter amount

/-- A step, for which the counters at its beginning and at its end are kept. -/
def tracked (step : Step) (x : Counted α) : Counted α := do
  let entry ← now
  try x finally modify (·.finish step entry)

/-- A computation one level deeper, or an error at the limit. -/
def deeper (step : Step) (counter : Counter) (limit : Nat) (cause : EvalError) (x : Counted α) :
    Counted α :=
  tracked step do
    if limit ≤ (← now).count counter then throw (.error cause) else raised counter 1 x

/-- A computation outside of the parser that is at work, which waits at its depth. -/
def apart (x : Nat → Counted α) : Counted α := do
  let depth := (← now).parser
  change (·.set 0 .parser)
  try x depth finally change (·.set depth .parser)

/-- The value of a computation, or none where it turns out that there is no arithmetic. -/
def ifArithmetic (x : Counted α) : Counted (Option α) :=
  tryCatch (some <$> x) fun
    | .notArithmetic => return none
    | stop => throw stop

theorem run_bind (x : Counted α) (f : α → Counted β) (tally : Tally) :
    run (x >>= f) tally =
      match run x tally with
      | (.ok a, tally') => run (f a) tally'
      | (.error stop, tally') => (.error stop, tally') := by
  show (ExceptT.bindCont f (run x tally).1) (run x tally).2 = _
  rcases run x tally with ⟨_ | _, _⟩ <;> rfl

theorem run_tryCatch (x : Counted α) (handle : Stop → Counted α) (tally : Tally) :
    run (tryCatch x handle) tally =
      match run x tally with
      | (.ok a, tally') => (.ok a, tally')
      | (.error stop, tally') => run (handle stop) tally' := by
  unfold run
  simp only [tryCatch, tryCatchThe, MonadExceptOf.tryCatch, ExceptT.tryCatch, ExceptT.mk,
    StateT.bind, bind]
  rcases x tally with ⟨_ | _, _⟩ <;> rfl

theorem run_tryFinally (x : Counted α) (y : Counted β) (tally : Tally) :
    run (tryFinally x y) tally =
      match run y (run x tally).2 with
      | (.ok _, tally') => ((run x tally).1, tally')
      | (.error stop, tally') => (.error stop, tally') := by
  unfold run
  simp only [tryFinally, tryFinally', ExceptT.mk, StateT.bind, bind, pure, Functor.map,
    ExceptT.map]
  rcases x tally with ⟨_ | _, tally'⟩ <;>
    (dsimp only; rcases y tally' with ⟨_ | _, _⟩ <;> rfl)

/-! ## Where computations end -/

/-- From the given counters a computation ends behind others with a result that has a property; if
everything has been sound, it still is. -/
def Moves (limits : Limits) (counters behind : Counters) (x : Counted α)
    (post : Except Stop α → Prop) : Prop :=
  ∀ tally : Tally, tally.now = counters → tally.Sound limits →
    post (x.run tally).1 ∧ (x.run tally).2.now = behind ∧ (x.run tally).2.Sound limits

/-- A computation that leaves the counters as they are. -/
def Leads (limits : Limits) (counters : Counters) (x : Counted α)
    (post : Except Stop α → Prop) : Prop :=
  Moves limits counters counters x post

section Rules

variable {limits : Limits} {counters between behind : Counters} {x : Counted α}
  {f : α → Counted β} {p : Except Stop α → Prop} {post : Except Stop β → Prop}

/-- A computation begins within the limits. -/
theorem Moves.of_within (h : counters.Within limits → Moves limits counters behind x p) :
    Moves limits counters behind x p :=
  fun tally hnow hsound => h (hnow ▸ hsound.now) tally hnow hsound

theorem Moves.imp {q : Except Stop α → Prop} (h : Moves limits counters behind x p)
    (himp : ∀ result, p result → q result) : Moves limits counters behind x q := by
  intro tally hnow hsound
  obtain ⟨hresult, hbehind⟩ := h tally hnow hsound
  exact ⟨himp _ hresult, hbehind⟩

theorem Leads.of_within (h : counters.Within limits → Leads limits counters x p) :
    Leads limits counters x p :=
  Moves.of_within h

theorem Leads.imp {q : Except Stop α → Prop} (h : Leads limits counters x p)
    (himp : ∀ result, p result → q result) : Leads limits counters x q :=
  Moves.imp h himp

theorem Leads.pure {a : α} (h : p (.ok a)) : Leads limits counters (pure a) p :=
  fun _ hnow hsound => ⟨h, hnow, hsound⟩

theorem Leads.throw {stop : Stop} (h : p (.error stop)) : Leads limits counters (throw stop) p :=
  fun _ hnow hsound => ⟨h, hnow, hsound⟩

/-- A computation that does not fail, and another behind it. -/
theorem Moves.next {a : α} (hx : Moves limits counters between x (· = .ok a))
    (hf : Moves limits between behind (f a) post) :
    Moves limits counters behind (x >>= f) post := by
  intro tally hnow hsound
  obtain ⟨hresult, hbetween, hsound'⟩ := hx tally hnow hsound
  rcases hrun : x.run tally with ⟨result, tally'⟩
  rw [hrun] at hresult hbetween hsound'
  rw [run_bind, hrun, show result = .ok a from hresult]
  exact hf tally' hbetween hsound'

theorem Leads.next {a : α} (hx : Leads limits counters x (· = .ok a))
    (hf : Leads limits counters (f a) post) : Leads limits counters (x >>= f) post :=
  Moves.next hx hf

/-- A computation that may fail, and another behind it. -/
theorem Leads.bind (hx : Leads limits counters x p)
    (hf : ∀ a, p (.ok a) → Leads limits counters (f a) post)
    (herror : ∀ stop, p (.error stop) → post (.error stop)) :
    Leads limits counters (x >>= f) post := by
  intro tally hnow hsound
  obtain ⟨hresult, hbetween, hsound'⟩ := hx tally hnow hsound
  rcases hrun : x.run tally with ⟨result, tally'⟩
  rw [hrun] at hresult hbetween hsound'
  rw [run_bind, hrun]
  cases result with
  | ok a => exact hf a hresult tally' hbetween hsound'
  | error stop => exact ⟨herror stop hresult, hbetween, hsound'⟩

theorem Leads.tryCatch {handle : Stop → Counted α} {q : Except Stop α → Prop}
    (hx : Leads limits counters x p) (hok : ∀ a, p (.ok a) → q (.ok a))
    (herror : ∀ stop, p (.error stop) → Leads limits counters (handle stop) q) :
    Leads limits counters (tryCatch x handle) q := by
  intro tally hnow hsound
  obtain ⟨hresult, hbetween, hsound'⟩ := hx tally hnow hsound
  rcases hrun : x.run tally with ⟨result, tally'⟩
  rw [hrun] at hresult hbetween hsound'
  rw [run_tryCatch, hrun]
  cases result with
  | ok a => exact ⟨hok a hresult, hbetween, hsound'⟩
  | error stop => exact herror stop hresult tally' hbetween hsound'

theorem Moves.tryFinally {y : Counted β} {b : β} (hx : Moves limits counters between x p)
    (hy : Moves limits between behind y (· = .ok b)) :
    Moves limits counters behind (tryFinally x y) p := by
  intro tally hnow hsound
  obtain ⟨hresult, hbetween, hsound'⟩ := hx tally hnow hsound
  obtain ⟨hdone, hbehind, hsound''⟩ := hy _ hbetween hsound'
  rcases hrun : y.run (x.run tally).2 with ⟨result, tally'⟩
  rw [hrun] at hdone hbehind hsound''
  rw [run_tryFinally, hrun, show result = .ok b from hdone]
  exact ⟨hresult, hbehind, hsound''⟩

/-! ## Changes of the counters -/

theorem leads_now : Leads limits counters now (· = .ok counters) :=
  fun _ hnow hsound => ⟨congrArg Except.ok hnow, hnow, hsound⟩

theorem moves_change {f : Counters → Counters} (h : (f counters).Within limits) :
    Moves limits counters (f counters) (change f) (· = .ok ()) := by
  intro tally hnow hsound
  subst hnow
  exact ⟨rfl, rfl, hsound.move h⟩

theorem moves_raise (hfit : limits.Fit) {counter : Counter} {amount : Nat}
    (h : (counters.raise counter amount).Within limits) :
    Moves limits counters (counters.raise counter amount) (raise counter amount) (· = .ok ()) := by
  have hword := h.count_le hfit counter
  rw [Counters.raise, Counters.count_set] at hword
  refine Moves.next leads_now ?_
  rw [if_pos hword]
  exact moves_change h

theorem moves_lower (h : counters.Within limits) {counter : Counter} {amount : Nat} :
    Moves limits (counters.raise counter amount) counters (lower counter amount) (· = .ok ()) := by
  have hback : ((counters.raise counter amount).set
      ((counters.raise counter amount).count counter - amount) counter) = counters := by
    rw [Counters.raise, Counters.count_set, Nat.add_sub_cancel, Counters.set_set_count]
  refine Moves.next leads_now ?_
  rw [if_pos (by simp [Counters.raise])]
  have hmoves : Moves limits (counters.raise counter amount) _
      (change fun counters => counters.set (counters.count counter - amount) counter)
      (· = .ok ()) := moves_change (hback.symm ▸ h)
  rwa [hback] at hmoves

/-! ## Levels -/

theorem Leads.raised (hfit : limits.Fit) {counter : Counter} {amount : Nat}
    (hwithin : (counters.raise counter amount).Within limits)
    (h : Leads limits (counters.raise counter amount) x p) :
    Leads limits counters (raised counter amount x) p :=
  .of_within fun hcounters =>
    (moves_raise hfit hwithin).next (h.tryFinally (moves_lower hcounters))

theorem Leads.tracked {step : Step} (h : Leads limits counters x p) :
    Leads limits counters (tracked step x) p := by
  have hend : Leads limits counters
      (modify (·.finish step counters) : Counted Unit) (· = .ok ()) := by
    intro tally hnow hsound
    subst hnow
    exact ⟨rfl, rfl, hsound.finish step⟩
  exact leads_now.next (Moves.tryFinally h hend)

theorem Leads.deeper (hfit : limits.Fit) {step : Step} {counter : Counter} {limit : Nat}
    {cause : EvalError} (herror : limit ≤ counters.count counter → p (.error (.error cause)))
    (hwithin : counters.count counter < limit → (counters.raise counter 1).Within limits)
    (h : counters.count counter < limit → Leads limits (counters.raise counter 1) x p) :
    Leads limits counters (deeper step counter limit cause x) p := by
  refine .tracked (leads_now.next ?_)
  split
  · exact .throw (herror ‹_›)
  · have hlt := Nat.not_le.1 ‹_›
    exact .raised hfit (hwithin hlt) (h hlt)

theorem Leads.apart {x : Nat → Counted α}
    (h : Leads limits (counters.set 0 .parser) (x counters.parser) p) :
    Leads limits counters (apart x) p := by
  refine .of_within fun hcounters => leads_now.next ?_
  have hleft : (counters.set 0 .parser).Within limits :=
    ⟨Nat.le_trans (Nat.le_add_right _ _) hcounters.nesting, hcounters.calls⟩
  exact (moves_change hleft).next (h.tryFinally (moves_change hcounters))

theorem Leads.ifArithmetic {q : Except Stop (Option α) → Prop} (hx : Leads limits counters x p)
    (hok : ∀ a, p (.ok a) → q (.ok (some a))) (hnone : p (.error .notArithmetic) → q (.ok none))
    (herror : ∀ stop, stop ≠ .notArithmetic → p (.error stop) → q (.error stop)) :
    Leads limits counters (ifArithmetic x) q := by
  have hsome : Leads limits counters (some <$> x) fun result =>
      match result with
      | .ok a? => q (.ok a?)
      | .error stop => p (.error stop) := by
    rw [map_eq_pure_bind]
    exact hx.bind (fun a ha => .pure (hok a ha)) fun _ h => h
  refine hsome.tryCatch (fun _ h => h) fun stop hstop => ?_
  split
  · exact .pure (hnone hstop)
  · exact .throw (herror stop ‹_› hstop)

end Rules

/-! ## Evaluations that are followed -/

/-- A computation that has the outcome of an evaluation without counters, and leaves those as they
are. -/
def Follows (limits : Limits) (counters : Counters) (x : Counted α) (outcome : Except EvalError α) :
    Prop :=
  Leads limits counters x (· = outcome.mapError .error)

section Follows

variable {limits : Limits} {counters : Counters}

theorem exists_of_mapError {outcome : Except EvalError α} {stop : Stop}
    (h : outcome.mapError .error = .error stop) : ∃ cause, stop = .error cause := by
  cases outcome with
  | ok a => cases h
  | error cause => exact ⟨cause, (Except.error.inj h).symm⟩

theorem Follows.pure (a : α) : Follows limits counters (pure a) (.ok a) := Leads.pure rfl

theorem Follows.leads {x : Counted α} {outcome : Except EvalError α} {p : Except Stop α → Prop}
    (h : Follows limits counters x outcome) (hp : p (outcome.mapError .error)) :
    Leads limits counters x p :=
  Leads.imp h fun _ hresult => hresult ▸ hp

theorem Follows.bind {x : Counted α} {outcome : Except EvalError α} {f : α → Counted β}
    {g : α → Except EvalError β} (hx : Follows limits counters x outcome)
    (hf : ∀ a, Follows limits counters (f a) (g a)) :
    Follows limits counters (x >>= f) (outcome >>= g) := by
  cases outcome with
  | ok a => exact Leads.next hx (hf a)
  | error cause =>
    refine Leads.bind hx (fun a ha => ?_) fun stop hstop => ?_
    · cases ha
    · cases hstop
      rfl

theorem Follows.mapM {f : α → Counted β} {g : α → Except EvalError β}
    (h : ∀ a, Follows limits counters (f a) (g a)) (items : List α) :
    Follows limits counters (items.mapM f) (items.mapM g) := by
  induction items with
  | nil => exact .pure []
  | cons item rest ih =>
    rw [List.mapM_cons, List.mapM_cons]
    exact (h item).bind fun _ => ih.bind fun _ => .pure _

end Follows

end Counted

end DryRun
