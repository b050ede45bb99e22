import DryRun.Function
import DryRun.Proofs.Evaluation.Parts
import DryRun.Proofs.Text.Margins
import DryRun.Proofs.Text.Patterns
import DryRun.Proofs.Unicode.Ascii

/-!
# Headers as they are written

A name reads as itself before whatever cannot belong to it, and the line `def name(parameters):` as
the header with that name and those parameters.
-/

namespace DryRun

open Text Unicode

/-! ## Names -/

theorem isBlank_eq_false_of_isNameStart {c : Char} (h : isNameStart c = true) :
    isBlank c = false :=
  isBlank_eq_false_of (p := fun c => isNameStart c = true) (by decide) h

section Names

variable {name : Text} (h : identifier name = some (name, []))

include h

theorem exists_of_identifier :
    ∃ first others, name = first :: others ∧ isNameStart first = true ∧
      ∀ c ∈ others, isWord c = true := by
  obtain ⟨⟨first, others⟩, hfirst, hothers⟩ := Option.bind_eq_some_iff.1 h
  obtain ⟨hname, hstart⟩ := Pattern.eq_cons_of_charOf hfirst
  have hrest : others.dropWhile isWord = [] := congrArg Prod.snd (Option.some.inj hothers)
  exact ⟨first, others, hname, hstart, List.dropWhile_eq_nil_iff.1 hrest⟩

theorem isWord_of_mem_identifier {c : Char} (hc : c ∈ name) : isWord c = true := by
  obtain ⟨first, others, rfl, hfirst, hothers⟩ := exists_of_identifier h
  rcases List.mem_cons.1 hc with rfl | hc
  · exact isWord_of_isNameStart hfirst
  · exact hothers c hc

theorem identifier_append {c : Char} (hc : isWord c = false) (rest : Text) :
    identifier (name ++ c :: rest) = some (name, c :: rest) := by
  obtain ⟨first, others, rfl, hfirst, hothers⟩ := exists_of_identifier h
  have hchar : Pattern.charOf isNameStart (first :: (others ++ c :: rest)) =
      some (first, others ++ c :: rest) := if_pos hfirst
  have hrun : Pattern.run isWord (others ++ c :: rest) = some (others, c :: rest) := by
    have hends : ¬ isWord c = true := Bool.eq_false_iff.1 hc
    unfold Pattern.run
    rw [List.takeWhile_append_of_pos hothers, List.takeWhile_cons_of_neg hends, List.append_nil,
      List.dropWhile_append_of_pos hothers, List.dropWhile_cons_of_neg hends]
  unfold identifier
  rw [List.cons_append, Pattern.bind_of_some hchar, Pattern.bind_of_some hrun]
  rfl

theorem not_mem_of_identifier {c : Char} (hword : isWord c = false) : c ∉ name := by
  intro hc
  rw [isWord_of_mem_identifier h hc] at hword
  cases hword

theorem any_isBlank_head?_of_identifier (rest : Text) :
    (name ++ rest).head?.any isBlank = false := by
  obtain ⟨first, others, rfl, hfirst, -⟩ := exists_of_identifier h
  rw [List.cons_append, List.head?_cons, Option.any_some, isBlank_eq_false_of_isNameStart hfirst]

end Names

/-! ## Header lines -/

theorem Pattern.blanks1_space {text : Text} (h : text.head?.any isBlank = false) :
    Pattern.blanks1 (' ' :: text) = some ((), text) := by
  have hdrop : text.dropWhile isBlank = text := by
    cases text with
    | nil => rfl
    | cons c rest => exact List.dropWhile_cons_of_neg (Bool.eq_false_iff.1 h)
  show some ((), text.dropWhile isBlank) = _
  rw [hdrop]

namespace Function

/-- The line of a header with a name and parameters, at the margin. -/
def headerLine (name parameters : Text) : Text :=
  "def ".toList ++ (name ++ '(' :: (parameters ++ "):".toList))

variable {name parameters : Text}

theorem bare_headerLine (name parameters : Text) : Bare (headerLine name parameters) := by
  have hline : headerLine name parameters =
      'd' :: (("ef ".toList ++ (name ++ '(' :: (parameters ++ [')']))) ++ [':']) := by
    simp [headerLine]
  rw [hline]
  exact .enclosed (by decide) (by decide) _

theorem indentation_headerLine (name parameters : Text) :
    indentation (headerLine name parameters) = 0 := rfl

theorem isBlankText_headerLine (name parameters : Text) :
    isBlankText (headerLine name parameters) = false := rfl

/-- A header behind the parenthesis that opens its parameters. -/
def headerInside (name : Text) : Pattern Header := do
  let parameters ← Pattern.run (· != ')')
  Pattern.word ")"
  Pattern.blanks
  let _ ← Pattern.optional announcedType
  Pattern.word ":"
  return { name, parameters }

theorem header_append (hname : identifier name = some (name, [])) (inside : Text) :
    header ("def ".toList ++ (name ++ '(' :: inside)) = headerInside name inside := by
  let opened := '(' :: inside
  have hdef : Pattern.word "def" ("def ".toList ++ (name ++ opened)) =
      some ((), ' ' :: (name ++ opened)) := rfl
  have hspace : Pattern.blanks1 (' ' :: (name ++ opened)) = some ((), name ++ opened) :=
    Pattern.blanks1_space (any_isBlank_head?_of_identifier hname opened)
  have hnamed : identifier (name ++ opened) = some (name, opened) :=
    identifier_append hname (by decide) inside
  have hblanks : Pattern.blanks opened = some ((), opened) := rfl
  have hopening : Pattern.word "(" opened = some ((), inside) := rfl
  unfold header
  rw [Pattern.bind_of_some hdef, Pattern.bind_of_some hspace, Pattern.bind_of_some hnamed,
    Pattern.bind_of_some hblanks, Pattern.bind_of_some hopening]
  rfl

theorem header?_headerLine (hname : identifier name = some (name, []))
    (hparameters : ')' ∉ parameters) :
    header? (headerLine name parameters) = some ⟨name, parameters⟩ := by
  have hclosed : Pattern.run (· != ')') (parameters ++ "):".toList) =
      some (parameters, "):".toList) := by
    have hne : ∀ c ∈ parameters, (c != ')') = true :=
      fun c hc => bne_iff_ne.2 (ne_of_mem_of_not_mem hc hparameters)
    unfold Pattern.run
    rw [List.takeWhile_append_of_pos hne, List.dropWhile_append_of_pos hne]
    simp
  unfold header?
  rw [(bare_headerLine name parameters).trim_eq, headerLine, header_append hname, headerInside,
    Pattern.bind_of_some hclosed]
  rfl

end Function

end DryRun
