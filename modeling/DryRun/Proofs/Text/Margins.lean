import Mathlib.Data.List.DropRight
import DryRun.Proofs.Text.Pieces

/-!
# Margins

What trimming leaves of a text: nothing of blanks, and all of a text without blanks at its ends,
also where blanks surround it.
-/

namespace DryRun.Text

open Unicode

/-! ## Blanks -/

/-- The white space there is. -/
def blankChars : List Char :=
  [0x09, 0x0A, 0x0B, 0x0C, 0x0D, 0x20, 0x85, 0xA0, 0x1680, 0x2000, 0x2001, 0x2002, 0x2003, 0x2004,
    0x2005, 0x2006, 0x2007, 0x2008, 0x2009, 0x200A, 0x2028, 0x2029, 0x202F, 0x205F, 0x3000].map
    Char.ofNat

theorem mem_blankChars {c : Char} (h : isBlank c = true) : c ∈ blankChars := by
  refine List.mem_map.2 ⟨c.toNat, ?_, Char.ofNat_toNat c⟩
  simp only [isBlank, Bool.or_eq_true, Bool.and_eq_true, decide_eq_true_eq, beq_iff_eq] at h
  simp only [List.mem_cons, List.not_mem_nil, or_false]
  omega

/-- What holds of all white space holds of every blank. -/
theorem forall_isBlank {p : Char → Prop} [DecidablePred p]
    (hp : (blankChars.all fun c => p c) = true) {c : Char} (h : isBlank c = true) : p c :=
  of_decide_eq_true (List.all_eq_true.1 hp c (mem_blankChars h))

/-- What no white space has keeps a character from being a blank. -/
theorem isBlank_eq_false_of {p : Char → Prop} [DecidablePred p]
    (hp : (blankChars.all fun c => ¬ p c) = true) {c : Char} (h : p c) : isBlank c = false := by
  rw [Bool.eq_false_iff]
  intro hblank
  exact forall_isBlank (p := fun c => ¬ p c) hp hblank h

theorem isBlank_eq_false_of_isWord {c : Char} (h : isWord c = true) : isBlank c = false :=
  isBlank_eq_false_of (p := fun c => isWord c = true) (by decide +kernel) h

theorem isBlankText_iff {text : Text} : isBlankText text = true ↔ ∀ c ∈ text, isBlank c = true :=
  List.all_eq_true

theorem trimEnd_eq_rdropWhile (text : Text) : trimEnd text = text.rdropWhile isBlank := rfl

/-! ## Blank texts -/

theorem trimStart_eq_nil_iff {text : Text} : trimStart text = [] ↔ isBlankText text = true := by
  rw [isBlankText_iff]
  exact List.dropWhile_eq_nil_iff

theorem trim_eq_nil_iff {text : Text} : trim text = [] ↔ isBlankText text = true := by
  unfold trim
  constructor
  · intro h
    rw [trimEnd_eq_rdropWhile, List.rdropWhile_eq_nil_iff] at h
    -- what is left behind the leading blanks begins with a character that is none
    have hstart : trimStart text = [] := by
      cases hstart : trimStart text with
      | nil => rfl
      | cons c rest =>
        have hhead := List.head?_dropWhile_not isBlank text
        unfold trimStart at hstart h
        rw [hstart] at hhead h
        change isBlank c = false at hhead
        rw [h c List.mem_cons_self] at hhead
        cases hhead
    exact trimStart_eq_nil_iff.1 hstart
  · intro h
    rw [trimStart_eq_nil_iff.2 h]
    rfl

/-- A part of a blank text is blank. -/
theorem isBlankText_of_subset {text part : Text} (hpart : part ⊆ text)
    (h : isBlankText text = true) : isBlankText part = true :=
  isBlankText_iff.2 fun _ hc => isBlankText_iff.1 h _ (hpart hc)

/-- A text is what trimming leaves of it, with blanks around. -/
theorem exists_blanks_trim (text : Text) :
    ∃ before behind, isBlankText before = true ∧ isBlankText behind = true ∧
      text = before ++ (trim text ++ behind) := by
  refine ⟨text.takeWhile isBlank, (trimStart text).rtakeWhile isBlank,
    isBlankText_iff.2 fun _ hc => List.mem_takeWhile_imp hc,
    isBlankText_iff.2 fun _ hc => List.mem_rtakeWhile_imp hc, ?_⟩
  have hend : trim text ++ (trimStart text).rtakeWhile isBlank = trimStart text := by
    rw [trim, trimEnd_eq_rdropWhile]
    exact List.rdropWhile_append_rtakeWhile
  rw [hend]
  exact List.takeWhile_append_dropWhile.symm

theorem trim_trim (text : Text) : trim (trim text) = trim text := by
  have hstart : trimStart (trim text) = trim text := by
    obtain ⟨behind, hbehind⟩ := List.rdropWhile_prefix isBlank (trimStart text)
    cases htrim : trim text with
    | nil => rfl
    | cons c rest =>
      -- what trimming leaves begins as what the leading blanks leave
      have hhead := List.head?_dropWhile_not isBlank text
      rw [← trimEnd_eq_rdropWhile, ← trim, htrim] at hbehind
      rw [← trimStart, ← hbehind] at hhead
      exact List.dropWhile_cons_of_neg (Bool.eq_false_iff.1 hhead)
  have hend : trimEnd (trim text) = trim text := List.rdropWhile_idempotent isBlank _
  rw [trim, hstart, hend]

/-! ## Blanks in front -/

section Blanks

variable {blanks : Text} (hblanks : isBlankText blanks = true) (text : Text)

include hblanks

theorem trimStart_blanks_append : trimStart (blanks ++ text) = trimStart text :=
  List.dropWhile_append_of_pos (isBlankText_iff.1 hblanks)

theorem trim_blanks_append : trim (blanks ++ text) = trim text := by
  rw [trim, trimStart_blanks_append hblanks, trim]

theorem indentation_blanks_append :
    indentation (blanks ++ text) = blanks.length + indentation text := by
  rw [indentation, List.takeWhile_append_of_pos (isBlankText_iff.1 hblanks), List.length_append,
    indentation]

end Blanks

/-! ## Margins around a character -/

section Around

variable {c : Char} (hc : isBlank c = false) (before behind : Text)

include hc

theorem trimStart_append_cons :
    trimStart (before ++ c :: behind) = trimStart before ++ c :: behind :=
  dropWhile_append_cons hc before behind

theorem trimEnd_append_cons : trimEnd (before ++ c :: behind) = before ++ c :: trimEnd behind := by
  have hreversed : (before ++ c :: behind).reverse = behind.reverse ++ c :: before.reverse := by
    simp
  unfold trimEnd
  rw [hreversed, dropWhile_append_cons hc, List.reverse_append, List.reverse_cons,
    List.reverse_reverse, List.append_assoc, List.singleton_append]

/-- A character that is no blank stays where it is, between what trimming leaves before and behind
it. -/
theorem trim_append_cons :
    trim (before ++ c :: behind) = trimStart before ++ c :: trimEnd behind := by
  rw [trim, trimStart_append_cons hc, trimEnd_append_cons hc]

end Around

/-! ## Texts without margins -/

/-- A text that neither begins nor ends with a blank, and is not empty. -/
structure Bare (text : Text) : Prop where
  head : ∃ c, text.head? = some c ∧ isBlank c = false
  last : ∃ c, text.getLast? = some c ∧ isBlank c = false

namespace Bare

theorem ne_nil {text : Text} (h : Bare text) : text ≠ [] := by
  rintro rfl
  obtain ⟨c, hc, -⟩ := h.head
  cases hc

/-- A text of which no character is blank. -/
theorem of_any_eq_false {text : Text} (hne : text ≠ []) (h : text.any isBlank = false) :
    Bare text := by
  have hall : ∀ c ∈ text, isBlank c = false :=
    fun c hc => Bool.eq_false_iff.2 (List.any_eq_false.1 h c hc)
  exact
    { head := ⟨text.head hne, List.head?_eq_some_head hne, hall _ (List.head_mem hne)⟩
      last := ⟨text.getLast hne, List.getLast?_eq_some_getLast hne, hall _ (List.getLast_mem hne)⟩ }

/-- A text between two characters that are not blank. -/
theorem enclosed {first last : Char} (hfirst : isBlank first = false) (hlast : isBlank last = false)
    (inside : Text) : Bare (first :: (inside ++ [last])) where
  head := ⟨first, rfl, hfirst⟩
  last := ⟨last, by rw [← List.cons_append, List.getLast?_concat], hlast⟩

/-- A text with the beginning of one and the end of another. -/
theorem append {left right : Text} (hleft : Bare left) (middle : Text) (hright : Bare right) :
    Bare (left ++ (middle ++ right)) where
  head := by
    obtain ⟨c, hc, hblank⟩ := hleft.head
    exact ⟨c, by rw [List.head?_append, hc, Option.some_or], hblank⟩
  last := by
    obtain ⟨c, hc, hblank⟩ := hright.last
    exact ⟨c, by rw [List.getLast?_append, List.getLast?_append, hc]; rfl, hblank⟩

theorem any_head?_append {text : Text} (h : Bare text) (rest : Text) :
    (text ++ rest).head?.any isBlank = false := by
  obtain ⟨c, hc, hblank⟩ := h.head
  rw [List.head?_append, hc, Option.some_or, Option.any_some, hblank]

theorem trimStart_blanks_append {text : Text} (h : Bare text) {blanks : Text}
    (hblanks : isBlankText blanks = true) (rest : Text) :
    trimStart (blanks ++ (text ++ rest)) = text ++ rest := by
  obtain ⟨c, hc, hblank⟩ := h.head
  obtain ⟨others, rfl⟩ := List.head?_eq_some_iff.1 hc
  unfold trimStart
  rw [List.dropWhile_append_of_pos (isBlankText_iff.1 hblanks), List.cons_append,
    List.dropWhile_cons_of_neg (Bool.eq_false_iff.1 hblank)]

theorem trimEnd_append_blanks {text : Text} (h : Bare text) {blanks : Text}
    (hblanks : isBlankText blanks = true) : trimEnd (text ++ blanks) = text := by
  obtain ⟨c, hc, hblank⟩ := h.last
  obtain ⟨others, rfl⟩ := List.getLast?_eq_some_iff.1 hc
  unfold trimEnd
  rw [List.reverse_append, List.dropWhile_append_of_pos, List.reverse_append,
    List.reverse_singleton, List.singleton_append,
    List.dropWhile_cons_of_neg (Bool.eq_false_iff.1 hblank), List.reverse_cons,
    List.reverse_reverse]
  intro d hd
  exact isBlankText_iff.1 hblanks d (List.mem_reverse.1 hd)

/-- Blanks around a text are its margins. -/
theorem trim_surrounded {text : Text} (h : Bare text) {before behind : Text}
    (hbefore : isBlankText before = true) (hbehind : isBlankText behind = true) :
    trim (before ++ (text ++ behind)) = text := by
  unfold trim
  rw [h.trimStart_blanks_append hbefore, h.trimEnd_append_blanks hbehind]

theorem trim_eq {text : Text} (h : Bare text) : trim text = text := by
  have hnil : isBlankText [] = true := rfl
  have hsurrounded := h.trim_surrounded hnil hnil
  rwa [List.nil_append, List.append_nil] at hsurrounded

end Bare

end DryRun.Text
