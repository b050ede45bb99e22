import Mathlib.Algebra.GroupWithZero.Nat
import DryRun.Arithmetic.Operator

/-!
# Repetition

A sequence repeated `m` times and `k` times, and then joined, is the sequence repeated `m + k` times
(`repetition_distributes`), as far as both stay below the limit. A product measures what it makes by
its length, but a sum measures texts by their bytes. So lists and texts of ASCII characters fail
alike either way, and other texts may be refused by a sum at a length that a product allows
(`sum_refuses_what_product_allows`).

1. The bytes of texts.
2. Copies of items.
3. Sums and products of sequences.
-/

namespace DryRun

/-! ## Bytes -/

namespace Text

theorem byteSize_eq_sum (text : Text) : byteSize text = (text.map Char.utf8Size).sum := by
  rw [List.sum_eq_foldl, List.foldl_map]
  rfl

theorem byteSize_append (a b : Text) : byteSize (a ++ b) = byteSize a + byteSize b := by
  simp [byteSize_eq_sum]

theorem length_le_byteSize (text : Text) : text.length ≤ byteSize text := by
  rw [byteSize_eq_sum]
  induction text with
  | nil => exact Nat.le_refl 0
  | cons c rest ih =>
    have hc := c.utf8Size_pos
    rw [List.length_cons, List.map_cons, List.sum_cons]
    omega

theorem byteSize_eq_length {text : Text} (h : ∀ c ∈ text, c.toNat < 128) :
    byteSize text = text.length := by
  have hsizes : text.map Char.utf8Size = text.map fun _ => 1 := by
    refine List.map_congr_left fun c hc => Char.utf8Size_eq_one_iff.2 ?_
    have hlt := h c hc
    rw [UInt32.le_iff_toNat_le]
    exact Nat.le_of_lt_succ hlt
  rw [byteSize_eq_sum, hsizes, List.map_const', List.sum_replicate_nat, Nat.mul_one]

end Text

/-! ## Copies -/

namespace Operator

theorem loop_eq (items : List α) (left : Nat) (made : Repetition α) :
    Repetition.loop items left made =
      ⟨made.rounds + left, (List.replicate left items).flatten ++ made.items⟩ := by
  induction left generalizing made with
  | zero => rfl
  | succ left ih =>
    have hrounds : made.rounds + 1 + left = made.rounds + (left + 1) := by omega
    rw [Repetition.loop, ih, List.replicate_succ', List.flatten_append, List.flatten_singleton,
      List.append_assoc]
    exact congrArg (Repetition.mk · _) hrounds

theorem rounds_repetition (times : Nat) (items : List α) :
    (repetition times items).rounds = times := by
  rw [repetition, loop_eq]
  exact Nat.zero_add times

theorem copies_eq_flatten (times : Nat) (items : List α) :
    copies times items = (List.replicate times items).flatten := by
  rw [copies, repetition, loop_eq]
  exact List.append_nil _

theorem copies_nil (times : Nat) : copies times ([] : List α) = [] := by
  rw [copies_eq_flatten, List.flatten_replicate_nil]

theorem copies_append (m k : Nat) (items : List α) :
    copies m items ++ copies k items = copies (m + k) items := by
  rw [copies_eq_flatten, copies_eq_flatten, copies_eq_flatten, ← List.flatten_append,
    List.replicate_append_replicate]

theorem length_copies (times : Nat) (items : List α) :
    (copies times items).length = items.length * times := by
  rw [copies_eq_flatten, List.length_flatten, List.map_replicate, List.sum_replicate_nat,
    Nat.mul_comm]

theorem byteSize_copies (times : Nat) (text : Text) :
    Text.byteSize (copies times text) = Text.byteSize text * times := by
  rw [copies_eq_flatten]
  induction times with
  | zero => rfl
  | succ times ih =>
    rw [List.replicate_succ, List.flatten_cons, Text.byteSize_append, ih, Nat.mul_succ,
      Nat.add_comm]

end Operator

/-! ## Sequences -/

namespace Value

/-- A text or a list. -/
inductive IsSequence : Value → Prop
  | str (text : Text) : IsSequence (.str text)
  | list (items : List Value) : IsSequence (.list items)

/-- What a sum measures a value by: the bytes of a text, and the items of a list. -/
def weight : Value → Nat
  | str text => Text.byteSize text
  | value => value.length

/-- A sequence repeated a number of times, whatever its length. -/
def repeated (times : Nat) : Value → Value
  | str text => str (Operator.copies times text)
  | list items => list (Operator.copies times items)
  | value => value

variable {s t : Value}

theorem length_le_weight (s : Value) : s.length ≤ s.weight := by
  cases s with
  | str text => exact Text.length_le_byteSize text
  | int | float | bool | none | list => exact Nat.le_refl _

/-- A value that holds no other characters than those of ASCII, if it is a text. -/
def IsAscii (s : Value) : Prop := ∀ text, s = .str text → ∀ c ∈ text, c.toNat < 128

theorem weight_eq_length (h : s.IsAscii) : s.weight = s.length := by
  cases s with
  | str text => exact Text.byteSize_eq_length (h text rfl)
  | int | float | bool | none | list => rfl

/-! ## Sums and products -/

/-- The outcome of a product or sum that is allowed up to a size. -/
def within (size : Nat) (value : Value) : Except Obstacle Value :=
  if size ≤ Operator.sequenceCap then .ok value else .error (.error .sequenceTooLarge)

theorem within_eq_error_iff {size : Nat} {value : Value} :
    within size value = .error (.error .sequenceTooLarge) ↔ Operator.sequenceCap < size := by
  unfold within
  split
  · rename_i hle
    exact ⟨nofun, fun hlt => absurd hle (Nat.not_le.2 hlt)⟩
  · rename_i hle
    exact ⟨fun _ => Nat.not_le.1 hle, fun _ => rfl⟩

theorem IsSequence.multiply_apply (h : s.IsSequence) (times : Nat) :
    Operator.multiply.apply s (.int times) = within (s.length * times) (s.repeated times) := by
  cases h <;> rfl

theorem IsSequence.add_apply (h : s.IsSequence) (hkind : t.typeName = s.typeName) :
    ∃ value, Operator.add.apply s t = within (s.weight + t.weight) value := by
  cases h with
  | str a =>
    cases t with
    | str b => exact ⟨.str (a ++ b), rfl⟩
    | int | float | bool | none | list => simp [typeName] at hkind
  | list a =>
    cases t with
    | list b => exact ⟨.list (a ++ b), rfl⟩
    | str | int | float | bool | none => simp [typeName] at hkind

theorem IsSequence.add_apply_repeated (h : s.IsSequence) (m k : Nat) :
    Operator.add.apply (s.repeated m) (s.repeated k) =
      within (s.weight * (m + k)) (s.repeated (m + k)) := by
  cases h with
  | str text =>
    have hsize : Text.byteSize (Operator.copies m text) + Text.byteSize (Operator.copies k text) =
        Text.byteSize text * (m + k) := by
      rw [Operator.byteSize_copies, Operator.byteSize_copies, Nat.mul_add]
    show within (Text.byteSize (Operator.copies m text) + Text.byteSize (Operator.copies k text))
      (.str (Operator.copies m text ++ Operator.copies k text)) = _
    rw [hsize, Operator.copies_append]
    rfl
  | list items =>
    have hsize : (Operator.copies m items).length + (Operator.copies k items).length =
        items.length * (m + k) := by
      rw [Operator.length_copies, Operator.length_copies, Nat.mul_add]
    show within ((Operator.copies m items).length + (Operator.copies k items).length)
      (.list (Operator.copies m items ++ Operator.copies k items)) = _
    rw [hsize, Operator.copies_append]
    rfl

/-! ## Repetition and sums -/

/-- What `s * m + s * k` yields. -/
def repeatedApart (s : Value) (m k : Nat) : Except Obstacle Value := do
  let left ← Operator.multiply.apply s (.int m)
  let right ← Operator.multiply.apply s (.int k)
  Operator.add.apply left right

/-- What `s * (m + k)` yields. -/
def repeatedTogether (s : Value) (m k : Nat) : Except Obstacle Value := do
  let times ← Operator.add.apply (.int m) (.int k)
  Operator.multiply.apply s times

theorem IsSequence.repeatedTogether_eq (h : s.IsSequence) {m k : Nat}
    (hword : inWord (m + k) = true) :
    s.repeatedTogether m k = within (s.length * (m + k)) (s.repeated (m + k)) := by
  have hsum : Operator.add.apply (.int m) (.int k) = .ok (.int (m + k : Nat)) := by
    show Except.ok (Operator.ofInts _ _) = _
    rw [Operator.ofInts, if_pos hword]
    rfl
  rw [repeatedTogether, hsum]
  exact h.multiply_apply (m + k)

theorem IsSequence.repeatedApart_eq (h : s.IsSequence) (m k : Nat) :
    s.repeatedApart m k = within (s.weight * (m + k)) (s.repeated (m + k)) := by
  -- whatever a product refuses, the sum would refuse as well
  have hm : s.length * m ≤ s.weight * (m + k) :=
    Nat.mul_le_mul s.length_le_weight (Nat.le_add_right m k)
  have hk : s.length * k ≤ s.weight * (m + k) :=
    Nat.mul_le_mul s.length_le_weight (Nat.le_add_left k m)
  have hrefused : ∀ {times}, s.length * times ≤ s.weight * (m + k) →
      Operator.sequenceCap < s.length * times →
      within (s.weight * (m + k)) (s.repeated (m + k)) = .error (.error .sequenceTooLarge) :=
    fun hle hlt => within_eq_error_iff.2 (Nat.lt_of_lt_of_le hlt hle)
  rw [repeatedApart, h.multiply_apply, h.multiply_apply]
  by_cases hleft : s.length * m ≤ Operator.sequenceCap
  · by_cases hright : s.length * k ≤ Operator.sequenceCap
    · rw [within, if_pos hleft, within, if_pos hright]
      exact h.add_apply_repeated m k
    · rw [hrefused hk (Nat.not_le.1 hright), within, if_pos hleft, within, if_neg hright]
      rfl
  · rw [hrefused hm (Nat.not_le.1 hleft), within, if_neg hleft]
    rfl

end Value

open Value

/-- **Repetition distributes over sums.** A product of a sequence is refused where its length would
exceed the limit, and a sum where the bytes of a text or the items of a list would. So repetitions
that are joined are the sequence repeated as often as both, as long as the sum is not refused. For
lists and texts of ASCII characters this holds of refusals too, and a sum is refused where its
length would exceed the limit. -/
theorem repetition_distributes {s : Value} (h : s.IsSequence) :
    (∀ times : Nat, Operator.multiply.apply s (.int times) = .error (.error .sequenceTooLarge) ↔
      Operator.sequenceCap < s.length * times) ∧
    (∀ t : Value, t.typeName = s.typeName →
      (Operator.add.apply s t = .error (.error .sequenceTooLarge) ↔
        Operator.sequenceCap < s.weight + t.weight)) ∧
    (∀ m k : Nat, inWord (m + k) = true →
      s.repeatedApart m k =
        if s.weight * (m + k) ≤ Operator.sequenceCap then s.repeatedTogether m k
        else .error (.error .sequenceTooLarge)) ∧
    (s.IsAscii →
      (∀ t : Value, t.typeName = s.typeName → t.IsAscii →
        (Operator.add.apply s t = .error (.error .sequenceTooLarge) ↔
          Operator.sequenceCap < s.length + t.length)) ∧
      ∀ m k : Nat, inWord (m + k) = true → s.repeatedApart m k = s.repeatedTogether m k) := by
  have hsum : ∀ t : Value, t.typeName = s.typeName →
      (Operator.add.apply s t = .error (.error .sequenceTooLarge) ↔
        Operator.sequenceCap < s.weight + t.weight) := by
    intro t hkind
    obtain ⟨value, hvalue⟩ := h.add_apply hkind
    rw [hvalue]
    exact within_eq_error_iff
  refine ⟨fun times => ?product, hsum, fun m k hword => ?apart, fun hascii => ?ascii⟩
  case product =>
    rw [h.multiply_apply]
    exact within_eq_error_iff
  case apart =>
    have hle : s.length * (m + k) ≤ s.weight * (m + k) :=
      Nat.mul_le_mul_right (m + k) s.length_le_weight
    rw [h.repeatedApart_eq, h.repeatedTogether_eq hword, within]
    split
    · rename_i hallowed
      rw [within, if_pos (Nat.le_trans hle hallowed)]
    · rfl
  case ascii =>
    refine ⟨fun t hkind ht => ?_, fun m k hword => ?_⟩
    · rw [hsum t hkind, weight_eq_length hascii, weight_eq_length ht]
    · rw [h.repeatedApart_eq, h.repeatedTogether_eq hword, weight_eq_length hascii]

/-- Three and two copies of a text with a letter of two bytes. -/
theorem repetition_distributes_over_letters :
    inWord ((3 : Nat) + (2 : Nat)) = true ∧ (str ['é', '!']).IsSequence ∧
      (str ['é', '!']).repeatedApart 3 2 =
        .ok (.str ['é', '!', 'é', '!', 'é', '!', 'é', '!', 'é', '!']) := by
  have hword : inWord ((3 : Nat) + (2 : Nat)) = true := by decide
  have hsequence : (str ['é', '!']).IsSequence := .str _
  refine ⟨hword, hsequence, ?_⟩
  rw [(repetition_distributes hsequence).2.2.1 3 2 hword, if_pos (by decide)]
  rfl

/-- Of a letter of two bytes, more than five million copies come from a product, but not from a
sum. -/
theorem sum_refuses_what_product_allows :
    let s : Value := .str ['é']
    inWord ((5000000 : Nat) + (1 : Nat)) = true ∧ s.length * (5000000 + 1) ≤ Operator.sequenceCap ∧
      s.repeatedApart 5000000 1 = .error (.error .sequenceTooLarge) ∧
      s.repeatedTogether 5000000 1 = .ok (s.repeated 5000001) := by
  intro s
  have hsequence : s.IsSequence := .str _
  have hword : inWord ((5000000 : Nat) + (1 : Nat)) = true := by decide
  have hallowed : s.length * (5000000 + 1) ≤ Operator.sequenceCap := by decide
  have hrefused : ¬ s.weight * (5000000 + 1) ≤ Operator.sequenceCap := by decide
  refine ⟨hword, hallowed, ?_, ?_⟩
  · rw [hsequence.repeatedApart_eq, within, if_neg hrefused]
  · rw [hsequence.repeatedTogether_eq hword, within, if_pos hallowed]

end DryRun
