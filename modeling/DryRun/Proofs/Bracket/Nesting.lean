import DryRun.Bracket

/-!
# Nesting

When brackets nest, said without a stack: `Nested` builds the words from pairs. The stack of openers
that `openAfter` keeps is empty behind a nested word and never looks below where it began; behind
any other word without misfits it holds the openers between which the words nest (`Leaves`).
-/

namespace DryRun

namespace Bracket

theorem mem_all (bracket : Bracket) : bracket ∈ all := by cases bracket <;> decide

/-! ## Nested words -/

/-- The words of brackets in which every bracket has its partner. -/
inductive Nested : Text → Prop
  | nil : Nested []
  | pair (bracket : Bracket) {inside behind : Text} (hinside : Nested inside)
      (hbehind : Nested behind) :
      Nested (bracket.opener :: inside ++ bracket.closer :: behind)

theorem Nested.append {u v : Text} (hu : Nested u) (hv : Nested v) : Nested (u ++ v) := by
  induction hu with
  | nil => exact hv
  | pair bracket hinside _ _ ih =>
    rw [List.append_assoc, List.cons_append (a := bracket.closer)]
    exact .pair bracket hinside ih

/-! ## Marks as characters -/

/-- The character of a bracket on a side. -/
def Side.char : Side → Bracket → Char
  | opens => opener
  | closes => closer

/-- The character of a mark. -/
def Mark.char (mark : Mark) : Char := mark.side.char mark.bracket

/-- Marks as the word of their characters. -/
def word (marks : List Mark) : Text := marks.map Mark.char

@[simp] theorem word_nil : word [] = [] := rfl

@[simp] theorem word_cons (mark : Mark) (marks : List Mark) :
    word (mark :: marks) = mark.char :: word marks := rfl

@[simp] theorem word_append (u v : List Mark) : word (u ++ v) = word u ++ word v :=
  List.map_append

theorem Side.char_injective {side side' : Side} {bracket bracket' : Bracket}
    (h : side.char bracket = side'.char bracket') : side = side' ∧ bracket = bracket' := by
  revert h
  cases side <;> cases side' <;> cases bracket <;> cases bracket' <;> decide

theorem ofChar?_char (side : Side) (bracket : Bracket) :
    ofChar? (side.char bracket) = some (side, bracket) := by
  cases side <;> cases bracket <;> rfl

theorem char_of_ofChar? {c : Char} {side : Side} {bracket : Bracket}
    (h : ofChar? c = some (side, bracket)) : c = side.char bracket := by
  unfold ofChar? at h
  split at h
  · rename_i found hfind
    have hc := List.find?_some hfind
    cases h
    exact (beq_iff_eq.1 hc).symm
  · rename_i found _ hfind
    have hc := List.find?_some hfind
    cases h
    exact (beq_iff_eq.1 hc).symm
  · cases h

/-- Whether a character is a bracket. -/
def isBracket (c : Char) : Bool := (ofChar? c).isSome

/-! ## The stack of openers -/

/-- The mark of an opener. -/
def Opener.mark (opener : Opener) : Mark := ⟨.opens, opener.bracket, opener.position⟩

/-- The stack of openers behind marks, innermost first, as long as every closer fits. -/
def openAfter : List Opener → List Mark → Option (List Opener)
  | stack, [] => some stack
  | stack, ⟨.opens, bracket, position⟩ :: rest => openAfter (⟨bracket, position⟩ :: stack) rest
  | [], ⟨.closes, _, _⟩ :: _ => none
  | opener :: stack, ⟨.closes, bracket, _⟩ :: rest =>
    if opener.bracket = bracket then openAfter stack rest else none

@[simp] theorem openAfter_nil (stack : List Opener) : openAfter stack [] = some stack := by
  cases stack <;> rfl

@[simp] theorem openAfter_opens (stack : List Opener) (bracket : Bracket) (position : Position)
    (rest : List Mark) :
    openAfter stack (⟨.opens, bracket, position⟩ :: rest) =
      openAfter (⟨bracket, position⟩ :: stack) rest := by
  cases stack <;> rfl

theorem openAfter_opener (stack : List Opener) (opener : Opener) (rest : List Mark) :
    openAfter stack (opener.mark :: rest) = openAfter (opener :: stack) rest :=
  openAfter_opens stack opener.bracket opener.position rest

@[simp] theorem openAfter_closer_nil (bracket : Bracket) (position : Position) (rest : List Mark) :
    openAfter [] (⟨.closes, bracket, position⟩ :: rest) = none := rfl

@[simp] theorem openAfter_closer_cons (opener : Opener) (stack : List Opener) (bracket : Bracket)
    (position : Position) (rest : List Mark) :
    openAfter (opener :: stack) (⟨.closes, bracket, position⟩ :: rest) =
      if opener.bracket = bracket then openAfter stack rest else none := rfl

theorem openAfter_append (stack : List Opener) (u v : List Mark) :
    openAfter stack (u ++ v) = (openAfter stack u).bind (openAfter · v) := by
  induction u generalizing stack with
  | nil => simp
  | cons mark u ih =>
    obtain ⟨side, bracket, position⟩ := mark
    cases side with
    | opens =>
      rw [List.cons_append, openAfter_opens, openAfter_opens]
      exact ih _
    | closes =>
      cases stack with
      | nil => rfl
      | cons opener stack =>
        rw [List.cons_append, openAfter_closer_cons, openAfter_closer_cons]
        split
        · exact ih stack
        · rfl

/-- Nested marks leave the stack as it is. -/
theorem openAfter_nested {w : Text} (h : Nested w) (stack : List Opener) (marks : List Mark)
    (hw : word marks = w) : openAfter stack marks = some stack := by
  induction h generalizing stack marks with
  | nil =>
    obtain rfl : marks = [] := List.map_eq_nil_iff.1 hw
    simp
  | pair bracket _ _ ihinside ihbehind =>
    obtain ⟨u, v, rfl, hu, hv⟩ := List.map_eq_append_iff.1 hw
    obtain ⟨first, inside, rfl, hfirst, hinside⟩ := List.map_eq_cons_iff.1 hu
    obtain ⟨last, behind, rfl, hlast, hbehind⟩ := List.map_eq_cons_iff.1 hv
    obtain ⟨firstSide, firstBracket, position⟩ := first
    obtain ⟨lastSide, lastBracket, position'⟩ := last
    have hopens : firstSide.char firstBracket = Side.char .opens bracket := hfirst
    have hcloses : lastSide.char lastBracket = Side.char .closes bracket := hlast
    obtain ⟨rfl, rfl⟩ := Side.char_injective hopens
    obtain ⟨rfl, rfl⟩ := Side.char_injective hcloses
    rw [openAfter_append, openAfter_opens, ihinside _ inside hinside, Option.bind_some,
      openAfter_closer_cons, if_pos rfl]
    exact ihbehind stack behind hbehind

/-! ## What stays open -/

/-- An opener behind which marks nest: the innermost one that is open at the end of the marks. -/
def InnermostOpen (marks : List Mark) (opener : Opener) : Prop :=
  ∃ before inside, marks = before ++ opener.mark :: inside ∧ Nested (word inside)

/-- The marks leave the openers of the stack open, and between them they nest. -/
inductive Leaves : List Mark → List Opener → Prop
  | nested {marks : List Mark} (h : Nested (word marks)) : Leaves marks []
  | opener {before inside : List Mark} {stack : List Opener} (opener : Opener)
      (hbefore : Leaves before stack) (hinside : Nested (word inside)) :
      Leaves (before ++ opener.mark :: inside) (opener :: stack)

theorem Leaves.append_nested {marks inside : List Mark} {stack : List Opener}
    (h : Leaves marks stack) (hinside : Nested (word inside)) : Leaves (marks ++ inside) stack := by
  cases h with
  | nested hmarks =>
    refine .nested ?_
    rw [word_append]
    exact hmarks.append hinside
  | opener opener hbefore hbehind =>
    rw [List.append_assoc, List.cons_append]
    refine .opener opener hbefore ?_
    rw [word_append]
    exact hbehind.append hinside

/-- A stack from the empty one says what the marks leave open. -/
theorem leaves_of_openAfter {marks : List Mark} {stack : List Opener}
    (h : openAfter [] marks = some stack) : Leaves marks stack := by
  -- mark by mark from the end, where nested words grow and the innermost opener stands
  induction hn : marks.length generalizing marks stack with
  | zero =>
    obtain rfl : marks = [] := List.length_eq_zero_iff.1 hn
    cases h
    exact .nested .nil
  | succ n ih =>
    obtain ⟨before, mark, rfl⟩ : ∃ before mark, marks = before ++ [mark] :=
      ⟨_, _, (List.dropLast_concat_getLast (List.ne_nil_of_length_eq_add_one hn)).symm⟩
    rw [openAfter_append] at h
    obtain ⟨earlier, hbefore, hlast⟩ := Option.bind_eq_some_iff.1 h
    have hearlier := ih hbefore (by simpa using hn)
    obtain ⟨side, bracket, position⟩ := mark
    cases side with
    | opens =>
      rw [openAfter_opens, openAfter_nil] at hlast
      cases hlast
      exact .opener ⟨bracket, position⟩ hearlier .nil
    | closes =>
      cases hearlier with
      | nested hnested => cases hlast
      | opener opener houter hinside =>
        rw [openAfter_closer_cons] at hlast
        split at hlast
        · rename_i heq
          rw [openAfter_nil] at hlast
          cases hlast
          rw [List.append_assoc]
          refine houter.append_nested ?_
          rw [List.cons_append, word_cons, word_append, ← heq]
          exact .pair opener.bracket hinside .nil
        · cases hlast

end Bracket

end DryRun
