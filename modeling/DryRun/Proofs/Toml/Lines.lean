import DryRun.Proofs.Toml.Scalars

/-!
# Lines of TOML as they are written

A line with a key and a scalar is read as an assignment, one with a name between brackets as the
header of a table, and an empty one as nothing, whatever the next lines are.
-/

namespace DryRun

namespace Toml

/-! ## Keys -/

/-- Whether a character parts the words of a line. -/
def isSpacing (c : Char) : Bool := c == ' ' || c == '\t'

/-- Whether a character may stand in a key without quotes. -/
def inKey (c : Char) : Bool := c.isAlphanum || c == '_' || c == '-'

/-- Whether a text is a key without quotes. -/
structure Bare (key : Text) : Prop where
  ne_nil : key ≠ []
  inKey : ∀ c ∈ key, inKey c = true

theorem spaces_eq (text : Text) : spaces text = some ((), text.dropWhile isSpacing) := rfl

variable {key rest : Text}

theorem simpleKey_append (h : Bare key) (hrest : rest.head?.any inKey = false) :
    simpleKey (key ++ rest) = some (key, rest) := by
  have hstring : shortString (key ++ rest) = none := by
    obtain ⟨c, others, rfl⟩ := List.exists_cons_of_ne_nil h.ne_nil
    have hc := h.inKey c List.mem_cons_self
    have hquote : c ≠ '"' ∧ c ≠ '\'' := by
      constructor
      · rintro rfl
        exact absurd hc (by decide)
      · rintro rfl
        exact absurd hc (by decide)
    show (if c = '"' then _ else if c = '\'' then _ else none) = none
    rw [if_neg hquote.1, if_neg hquote.2]
  unfold simpleKey
  rw [Pattern.either_of_none hstring]
  exact Pattern.run1_of_append h.ne_nil h.inKey hrest

/-- A key without dots ends where neither more of it nor a dot follows. -/
theorem dottedKey_append (h : Bare key) (hrest : rest.head?.any inKey = false)
    (hdot : (rest.dropWhile isSpacing).head? ≠ some '.') :
    dottedKey (key ++ rest) = some (([], key), rest) := by
  have hpoint : Pattern.word "." (rest.dropWhile isSpacing) = none := by
    refine Pattern.word_eq_none _ fun behind heq => hdot ?_
    rw [heq]
    rfl
  have hothers : Pattern.many (do
      spaces
      Pattern.word "."
      spaces
      simpleKey) rest = some (([] : List Text), rest) := by
    refine Pattern.many_of_none ?_
    rw [Pattern.bind_of_some (spaces_eq rest)]
    exact Pattern.bind_of_none hpoint _
  unfold dottedKey
  rw [Pattern.bind_of_some (simpleKey_append h hrest), Pattern.bind_of_some hothers]
  rfl

/-! ## Lines -/

theorem line_empty (rest : Text) : line ('\n' :: rest) = some (none, rest) := by
  rfl

theorem spaces_of_any_head? {text : Text} (h : text.head?.any isSpacing = false) :
    spaces text = some ((), text) := by
  rw [spaces_eq, Text.dropWhile_of_any_head? h]

theorem Bare.any_head?_eq_false (h : Bare key) {inClass : Char → Bool}
    (hclass : ∀ c, Toml.inKey c = true → inClass c = false) (rest : Text) :
    (key ++ rest).head?.any inClass = false := by
  obtain ⟨c, others, rfl⟩ := List.exists_cons_of_ne_nil h.ne_nil
  exact hclass c (h.inKey c List.mem_cons_self)

theorem isSpacing_of_inKey {c : Char} (h : inKey c = true) : isSpacing c = false := by
  rw [Bool.eq_false_iff]
  intro hspacing
  rw [isSpacing, Bool.or_eq_true, beq_iff_eq, beq_iff_eq] at hspacing
  rcases hspacing with rfl | rfl
  · exact absurd h (by decide)
  · exact absurd h (by decide)

/-- A line holds the statement that reads up to its break. -/
theorem line_of_statement {text rest : Text} {found : Statement}
    (hfirst : text.head?.any isSpacing = false)
    (h : statement text = some (found, '\n' :: rest)) : line text = some (some found, rest) := by
  unfold line
  rw [Pattern.bind_of_some (spaces_of_any_head? hfirst),
    Pattern.bind_of_some (Pattern.optional_of_some h)]
  rfl

theorem line_header (h : Bare key) (rest : Text) :
    line ('[' :: (key ++ ']' :: '\n' :: rest)) = some (some (.header [] key), rest) := by
  have hbracket : (key ++ ']' :: '\n' :: rest).head?.any (· == '[') = false := by
    refine h.any_head?_eq_false (fun c hc => ?_) _
    rw [Bool.eq_false_iff]
    intro heq
    rw [beq_iff_eq.1 heq] at hc
    exact absurd hc (by decide)
  have htables : Pattern.word "[[" ('[' :: (key ++ ']' :: '\n' :: rest)) = none := by
    refine Pattern.word_eq_none _ fun behind heq => ?_
    injection heq with _ heq
    rw [heq] at hbracket
    cases hbracket
  have hspaces := spaces_of_any_head? (h.any_head?_eq_false (fun _ => isSpacing_of_inKey)
    (']' :: '\n' :: rest))
  have hopening : Pattern.word "[" ('[' :: (key ++ ']' :: '\n' :: rest)) =
    some ((), key ++ ']' :: '\n' :: rest) := rfl
  have hheader : header ('[' :: (key ++ ']' :: '\n' :: rest)) =
      some (.header [] key, '\n' :: rest) := by
    unfold header
    rw [Pattern.either_of_none (Pattern.bind_of_none htables _), Pattern.bind_of_some hopening,
      Pattern.bind_of_some hspaces,
      Pattern.bind_of_some (dottedKey_append h rfl (fun hdot => by cases hdot))]
    rfl
  exact line_of_statement rfl (Pattern.either_of_some hheader _)

/-- **A line with a key and a scalar assigns the one to the other.** -/
theorem line_assign {text : Text} {content : Toml} (h : Bare key)
    (hfirst : text.head?.any isSpacing = false)
    (hvalue : ∀ rest, scalar (text ++ '\n' :: rest) = some (content, '\n' :: rest)) (rest : Text) :
    line (key ++ ' ' :: '=' :: ' ' :: (text ++ '\n' :: rest)) =
      some (some (.assign [] key content), rest) := by
  have hbracket : ∀ behind, key ++ ' ' :: '=' :: ' ' :: (text ++ '\n' :: rest) ≠ '[' :: behind := by
    obtain ⟨c, others, rfl⟩ := List.exists_cons_of_ne_nil h.ne_nil
    intro behind heq
    injection heq with heq _
    have hc := h.inKey c List.mem_cons_self
    rw [heq] at hc
    exact absurd hc (by decide)
  have hheader : header (key ++ ' ' :: '=' :: ' ' :: (text ++ '\n' :: rest)) = none := by
    have htables := Pattern.word_eq_none "[[" fun behind heq => hbracket _ heq
    have htable := Pattern.word_eq_none "[" fun behind heq => hbracket _ heq
    unfold header
    rw [Pattern.either_of_none (Pattern.bind_of_none htables _)]
    exact Pattern.bind_of_none htable _
  have hspaces : spaces (text ++ '\n' :: rest) = some ((), text ++ '\n' :: rest) := by
    refine spaces_of_any_head? ?_
    cases text with
    | nil => rfl
    | cons c text => exact hfirst
  have hread : value depthCap (text ++ '\n' :: rest) = some (content, '\n' :: rest) :=
    Pattern.either_of_some (hvalue rest) _
  have hbefore : spaces (' ' :: '=' :: ' ' :: (text ++ '\n' :: rest)) =
    some ((), '=' :: ' ' :: (text ++ '\n' :: rest)) := rfl
  have hequals : Pattern.word "=" ('=' :: ' ' :: (text ++ '\n' :: rest)) =
    some ((), ' ' :: (text ++ '\n' :: rest)) := rfl
  have hbehind : spaces (' ' :: (text ++ '\n' :: rest)) = some ((), text ++ '\n' :: rest) := hspaces
  have hpair : pairOf (value depthCap) (key ++ ' ' :: '=' :: ' ' :: (text ++ '\n' :: rest)) =
      some (([], key, content), '\n' :: rest) := by
    unfold pairOf
    rw [Pattern.bind_of_some (dottedKey_append h rfl (fun hdot => by cases hdot))]
    dsimp only
    rw [Pattern.bind_of_some hbefore, Pattern.bind_of_some hequals, Pattern.bind_of_some hbehind,
      Pattern.bind_of_some hread]
    rfl
  refine line_of_statement (h.any_head?_eq_false (fun _ => isSpacing_of_inKey) _) ?_
  unfold statement
  rw [Pattern.either_of_none hheader, Pattern.bind_of_some hpair]
  rfl

end Toml

end DryRun
