import Mathlib.Data.List.Infix
import DryRun.Text.Pattern

/-!
# Parts of texts

What is cut out of a text stands in it, character by character: what its margins enclose, its pieces
and lines, and what precedes or follows a character or a fixed word.
-/

namespace DryRun.Text

open Unicode

/-! ## Margins -/

theorem isSuffix_trimStart (text : Text) : trimStart text <:+ text := List.dropWhile_suffix _

theorem isPrefix_trimEnd (text : Text) : trimEnd text <+: text := by
  have hreversed : (trimEnd text).reverse <:+ text.reverse := by
    unfold trimEnd
    rw [List.reverse_reverse]
    exact List.dropWhile_suffix _
  rwa [List.reverse_suffix] at hreversed

theorem isInfix_trim (text : Text) : trim text <:+: text :=
  (isPrefix_trimEnd _).isInfix.trans (isSuffix_trimStart text).isInfix

/-! ## Pieces -/

/-- Parts of a text, of which the first is its beginning. -/
structure Cut (text : Text) (texts : List Text) : Prop where
  exists_eq_cons : ∃ first others, texts = first :: others ∧ first <+: text
  isInfix : ∀ piece ∈ texts, piece <:+: text

namespace Cut

variable {text : Text} {texts : List Text}

theorem nil : Cut [] [[]] where
  exists_eq_cons := ⟨[], [], rfl, List.prefix_rfl⟩
  isInfix := by
    intro piece hpiece
    rw [List.mem_singleton.1 hpiece]

theorem separate (h : Cut text texts) (c : Char) : Cut (c :: text) ([] :: texts) where
  exists_eq_cons := ⟨[], texts, rfl, List.nil_prefix⟩
  isInfix := by
    intro piece hpiece
    rcases List.mem_cons.1 hpiece with rfl | hpiece
    · exact List.nil_infix
    · exact List.infix_cons (h.isInfix piece hpiece)

theorem grow (h : Cut text texts) (c : Char) : Cut (c :: text) (growFirst c texts) := by
  obtain ⟨first, others, rfl, hfirst⟩ := h.exists_eq_cons
  have hgrown : c :: first <+: c :: text := (List.prefix_cons_inj c).2 hfirst
  refine ⟨⟨c :: first, others, rfl, hgrown⟩, ?_⟩
  intro piece hpiece
  rcases List.mem_cons.1 hpiece with rfl | hpiece
  · exact hgrown.isInfix
  · exact List.infix_cons (h.isInfix piece (List.mem_cons_of_mem _ hpiece))

end Cut

theorem cut_pieces (separates : Char → Bool) (text : Text) : Cut text (pieces separates text) := by
  induction text with
  | nil => exact .nil
  | cons c rest ih =>
    unfold pieces
    split
    · exact ih.separate c
    · exact ih.grow c

theorem isPrefix_dropReturn (line : Text) : dropReturn line <+: line := by
  unfold dropReturn
  split
  · exact List.dropLast_prefix line
  · exact List.prefix_rfl

theorem isInfix_of_mem_lines {text line : Text} (h : line ∈ lines text) : line <:+: text := by
  obtain ⟨piece, hpiece, rfl⟩ := List.mem_map.1 h
  exact (isPrefix_dropReturn piece).isInfix.trans ((cut_pieces _ text).isInfix piece hpiece)

/-! ## Before and behind -/

theorem exists_of_splitFirst? {separates : Char → Bool} {text before behind : Text}
    (h : splitFirst? separates text = some (before, behind)) :
    ∃ c, text = before ++ c :: behind := by
  unfold splitFirst? at h
  have hparts := List.takeWhile_append_dropWhile (p := (!separates ·)) (l := text)
  split at h
  · cases h
  · rename_i c rest hrest
    cases h
    rw [hrest] at hparts
    exact ⟨c, hparts.symm⟩

theorem eq_append_cons_of_splitFirst? {c : Char} {text before behind : Text}
    (h : splitFirst? (· == c) text = some (before, behind)) : text = before ++ c :: behind := by
  unfold splitFirst? at h
  split at h
  · cases h
  · rename_i d rest hrest
    cases h
    have hparts := List.takeWhile_append_dropWhile (p := fun d => !(d == c)) (l := text)
    have hd := List.head?_dropWhile_not (fun d => !(d == c)) text
    have hrest' : text.dropWhile (fun d => !(d == c)) = d :: behind := hrest
    rw [hrest'] at hparts hd
    obtain rfl : d = c := by simpa using hd
    exact hparts.symm

theorem exists_of_splitLast? {separates : Char → Bool} {text before behind : Text}
    (h : splitLast? separates text = some (before, behind)) :
    ∃ c, text = before ++ c :: behind := by
  obtain ⟨⟨after, ahead⟩, hsplit, hparts⟩ := Option.map_eq_some_iff.1 h
  cases hparts
  obtain ⟨c, hreversed⟩ := exists_of_splitFirst? hsplit
  refine ⟨c, List.reverse_injective ?_⟩
  simp [hreversed]

theorem eq_append_of_after? {beginning : String} {text behind : Text}
    (h : after? beginning text = some behind) : text = beginning.toList ++ behind :=
  (List.isPrefixOf?_eq_some_iff_append_eq.1 h).symm

theorem eq_append_of_beforeLast? {last : Char} {text before : Text}
    (h : beforeLast? last text = some before) : text = before ++ [last] := by
  unfold beforeLast? at h
  split at h
  · rename_i hlast
    cases h
    exact (List.dropLast_append_getLast? last hlast).symm
  · cases h

theorem eq_cons_of_charOf {inClass : Char → Bool} {text behind : Text} {c : Char}
    (h : Pattern.charOf inClass text = some (c, behind)) : text = c :: behind := by
  cases text with
  | nil => cases h
  | cons d rest =>
    rw [Pattern.charOf] at h
    cases hc : inClass d with
    | true =>
      rw [if_pos hc] at h
      cases h
      rfl
    | false =>
      rw [if_neg (Bool.eq_false_iff.1 hc)] at h
      cases h

theorem eq_append_of_word {beginning : String} {text behind : Text} {found : Unit}
    (h : Pattern.word beginning text = some (found, behind)) :
    text = beginning.toList ++ behind := by
  obtain ⟨rest, hrest, hparts⟩ := Option.map_eq_some_iff.1 h
  cases hparts
  exact eq_append_of_after? hrest

end DryRun.Text
