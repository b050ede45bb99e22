import DryRun.Proofs.Evaluation.Forms
import DryRun.Proofs.Expression.Items

/-!
# Spelling

Evaluation reads values as they are spelled. A spelled value closes the quotes and brackets that it
opens, so that a list falls apart into the spelled items at every level, and each of them is
recognised for what it is (`evaluate_spelled`).
-/

namespace DryRun

open Expression Unicode

namespace Value

/-! ## Values that are spelled without loss -/

/-- A value without floats, of which the integers have a place in 64 bits and no text holds both
quotes. -/
inductive Spellable : Value → Prop
  | none : Spellable .none
  | bool (b : Bool) : Spellable (.bool b)
  | int {n : Int} (h : inWord n = true) : Spellable (.int n)
  | str {text : Text} (h : ¬ ('\'' ∈ text ∧ '"' ∈ text)) : Spellable (.str text)
  | list {items : List Value} (h : ∀ item ∈ items, Spellable item) : Spellable (.list items)

/-- The most lists that a part of a value stands in. -/
def depth : Value → Nat
  | list items => (items.map fun item => depth item + 1).foldr max 0
  | _ => 0

theorem depth_lt_of_mem {items : List Value} {item : Value} (h : item ∈ items) :
    item.depth < (list items).depth := by
  have hmem : item.depth + 1 ∈ items.map fun item => depth item + 1 :=
    List.mem_map.2 ⟨item, h, rfl⟩
  rw [depth]
  generalize items.map (fun item => depth item + 1) = depths at hmem
  induction depths with
  | nil => cases hmem
  | cons first others ih =>
    rw [List.foldr_cons]
    rcases List.mem_cons.1 hmem with rfl | hmem
    · omega
    · have hothers := ih hmem
      omega

/-- A text stands between quotes that it does not hold. -/
theorem exists_quotedText_eq {text : Text} (h : ¬ ('\'' ∈ text ∧ '"' ∈ text)) :
    ∃ quote : Quote, quote.char ∉ text ∧
      quotedText text = quote.char :: (text ++ [quote.char]) := by
  unfold quotedText
  by_cases hsingle : '\'' ∈ text
  · have hdouble : '"' ∉ text := fun hmem => h ⟨hsingle, hmem⟩
    refine ⟨.double, hdouble, ?_⟩
    rw [if_pos (by simp [hsingle, hdouble])]
    rfl
  · have hescape : escapeSingle text = text := by
      unfold escapeSingle
      rw [List.flatMap_congr (g := fun c => [c]), List.flatMap_singleton']
      intro c hc
      rw [if_neg]
      rintro rfl
      exact hsingle hc
    refine ⟨.single, hsingle, ?_⟩
    rw [if_neg (by simp [hsingle]), hescape]
    rfl

/-! ## Spelled values as items -/

theorem Spellable.sealed_spelled {v : Value} (h : Spellable v) : Sealed 0 v.spelled := by
  induction h with
  | none =>
    rw [spelled]
    exact .plainText (by decide)
  | bool b =>
    cases b
    · rw [spelled]
      exact .plainText (by decide)
    · rw [spelled]
      exact .plainText (by decide)
  | int h =>
    rw [spelled]
    refine .plainText (List.all_eq_true.2 fun c hc => decide_eq_true ?_)
    exact forall_mem_integerText (p := Plain) (by decide) hc
  | str h =>
    obtain ⟨quote, hquote, htext⟩ := exists_quotedText_eq h
    rw [spelled, htext]
    exact .quoted hquote
  | list h ih =>
    rw [spelled]
    apply Sealed.enclosed .square (Sealed.join _)
    intro text htext
    obtain ⟨item, hitem, rfl⟩ := List.mem_map.1 htext
    exact ih item hitem

theorem Spellable.bare_spelled {v : Value} (h : Spellable v) : Text.Bare v.spelled := by
  cases h with
  | none =>
    rw [spelled]
    exact .of_any_eq_false (by decide) (by decide)
  | bool b =>
    cases b
    · rw [spelled]
      exact .of_any_eq_false (by decide) (by decide)
    · rw [spelled]
      exact .of_any_eq_false (by decide) (by decide)
  | int h =>
    rw [spelled]
    refine .of_any_eq_false (integerText_ne_nil _) (List.any_eq_false.2 fun c hc => ?_)
    exact forall_mem_integerText (p := fun c => ¬ isBlank c = true) (by decide) hc
  | str h =>
    obtain ⟨quote, -, htext⟩ := exists_quotedText_eq h
    have hblank : isBlank quote.char = false := by cases quote <;> decide
    rw [spelled, htext]
    exact .enclosed hblank hblank _
  | list h =>
    rw [spelled]
    exact .enclosed (by decide) (by decide) _

end Value

/-! ## Evaluation -/

theorem mapM_spelled {evaluate : Text → Except EvalError Value} {items : List Value}
    (h : ∀ item ∈ items, evaluate item.spelled = .ok item) :
    (items.map Value.spelled).mapM evaluate = .ok items := by
  induction items with
  | nil => rfl
  | cons item others ih =>
    have hothers := ih fun other hother => h other (List.mem_cons_of_mem _ hother)
    rw [List.map_cons, List.mapM_cons, h item List.mem_cons_self, hothers]
    rfl

/-- **Spelling.** In more room than lists nest in it, a value without floats, of which no text holds
both quotes, is the value of what it is spelled as, whatever is defined. -/
theorem evaluate_spelled {v : Value} (h : v.Spellable) {nesting : Nat} (hroom : v.depth < nesting)
    (functions : Functions) (calls : Nat) (env : Environment) :
    evaluate functions nesting calls env v.spelled = .ok v := by
  obtain ⟨room, rfl⟩ : ∃ room, nesting = room + 1 := ⟨nesting - 1, by omega⟩
  have htrim := h.bare_spelled.trim_eq
  induction h generalizing room with
  | none =>
    apply evaluate_of_literal
    rw [htrim, Value.spelled]
    rfl
  | bool b =>
    apply evaluate_of_literal
    rw [htrim]
    cases b
    · rw [Value.spelled]
      rfl
    · rw [Value.spelled]
      rfl
  | int h =>
    apply evaluate_of_literal
    rw [htrim, Value.spelled, ofText_integerText functions h]
  | str h =>
    apply evaluate_of_literal
    obtain ⟨quote, hquote, htext⟩ := Value.exists_quotedText_eq h
    rw [htrim, Value.spelled, htext, ofText_quoted functions hquote]
  | @list items h ih =>
    have hsealed : ∀ text ∈ items.map Value.spelled, Sealed 0 text := by
      intro text htext
      obtain ⟨item, hitem, rfl⟩ := List.mem_map.1 htext
      exact (h item hitem).sealed_spelled
    have hbare : ∀ text ∈ items.map Value.spelled, Text.Bare text := by
      intro text htext
      obtain ⟨item, hitem, rfl⟩ := List.mem_map.1 htext
      exact (h item hitem).bare_spelled
    have hform : Form.ofText functions (Text.trim (Value.list items).spelled) =
        .list (Text.join ", ".toList (items.map Value.spelled)) := by
      rw [htrim, Value.spelled]
      exact ofText_bracketed functions (Sealed.join hsealed)
    have hitems : ∀ item ∈ items, evaluate functions room calls env item.spelled = .ok item := by
      intro item hitem
      have hdepth := Value.depth_lt_of_mem hitem
      obtain ⟨less, rfl⟩ : ∃ less, room = less + 1 := ⟨room - 1, by omega⟩
      exact ih item hitem less (by omega) (h item hitem).bare_spelled.trim_eq
    rw [evaluate_of_list hform, splitItems_join hsealed hbare, mapM_spelled hitems]
    rfl

/-- Lists in lists, with brackets, commas, a brace and one quote or the other in their texts. -/
theorem evaluate_spelled_nested_list :
    let v : Value := .list [.str "it's [1, (".toList, .list [.int (-5), .list [], .none],
      .str "\"\x7d, f".toList]
    v.spelled = "[\"it's [1, (\", [-5, [], None], '\"\x7d, f']".toList ∧
      evaluate [] 3 0 [] v.spelled = .ok v := by
  intro v
  have hinner : Value.Spellable (.list [.int (-5), .list [], .none]) := by
    apply Value.Spellable.list
    simp only [List.forall_mem_cons]
    exact ⟨.int (by decide), .list nofun, .none, nofun⟩
  have hspellable : v.Spellable := by
    apply Value.Spellable.list
    simp only [List.forall_mem_cons]
    exact ⟨.str (by decide), hinner, .str (by decide), nofun⟩
  have hdepth : v.depth < 3 := by
    simp [v, Value.depth]
  refine ⟨?_, evaluate_spelled hspellable hdepth [] 0 []⟩
  cbv

end DryRun
