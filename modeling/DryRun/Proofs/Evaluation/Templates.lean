import DryRun.Proofs.Evaluation.Forms
import DryRun.Proofs.Expression.Form

/-!
# Templates as they are written

A template made of pieces of text with expressions in braces between them shows just that: the
pieces as they stand, and in between the values of the expressions, each evaluated by itself
(`evaluate_interpolated`).

1. The parts of such a template.
2. What the parts show.
-/

namespace DryRun

open Evaluation Expression

namespace Template

/-! ## Segments -/

/-- Text that stands for itself in a template of one line. -/
structure IsPiece (text : Text) : Prop where
  opener : '{' ∉ text
  closer : '}' ∉ text
  line : '\n' ∉ text

instance (text : Text) : Decidable (IsPiece text) :=
  decidable_of_iff ('{' ∉ text ∧ '}' ∉ text ∧ '\n' ∉ text)
    ⟨fun h => ⟨h.1, h.2.1, h.2.2⟩, fun h => ⟨h.opener, h.closer, h.line⟩⟩

/-- An expression in braces, and the piece of text behind it. -/
structure Segment where
  expression : Text
  piece : Text

namespace Segment

/-- The segment as it is written. -/
def text (segment : Segment) : Text := '{' :: (segment.expression ++ '}' :: segment.piece)

/-- The parts of a template that the segment makes. -/
def parts (segment : Segment) : List Part :=
  .placeholder segment.expression :: plain segment.piece

/-- What is shown of the segment, given the value of its expression. -/
def shown (segment : Segment) (value : Value) : Text := value.shown ++ segment.piece

/-- A segment that is read as it is meant, without a number of places. -/
structure Fits (segment : Segment) : Prop where
  expression : IsPiece segment.expression
  expression_ne_nil : segment.expression ≠ []
  colon : ':' ∉ segment.expression
  piece : IsPiece segment.piece

instance (segment : Segment) : Decidable segment.Fits :=
  decidable_of_iff (IsPiece segment.expression ∧ segment.expression ≠ [] ∧
      ':' ∉ segment.expression ∧ IsPiece segment.piece)
    ⟨fun h => ⟨h.1, h.2.1, h.2.2.1, h.2.2.2⟩,
      fun h => ⟨h.expression, h.expression_ne_nil, h.colon, h.piece⟩⟩

end Segment

/-- A template: a piece of text, and segments behind it. -/
def interpolated (first : Text) (segments : List Segment) : Text :=
  first ++ segments.flatMap Segment.text

/-- A formatted string literal. -/
def formatted (quote : Quote) (template : Text) : Text :=
  'f' :: quote.char :: (template ++ [quote.char])

/-! ## Their parts -/

theorem partsFrom_piece {piece : Text} (h : '{' ∉ piece) (rest : Text) :
    partsFrom none (piece ++ rest) = plain piece ++ partsFrom none rest := by
  induction piece with
  | nil => rfl
  | cons c piece ih =>
    obtain ⟨hc, hpiece⟩ := List.ne_and_not_mem_of_not_mem_cons h
    rw [List.cons_append, partsFrom, if_neg (Ne.symm hc), ih hpiece]
    rfl

theorem partsFrom_held {inside : Text} (hopener : '{' ∉ inside) (hcloser : '}' ∉ inside)
    {held : Text} (hne : held.reverse ++ inside ≠ []) (rest : Text) :
    partsFrom (some held) (inside ++ '}' :: rest) =
      .placeholder (held.reverse ++ inside) :: partsFrom none rest := by
  -- the characters behind the opening brace are held backwards until the closing one
  induction inside generalizing held with
  | nil =>
    rw [List.append_nil, Ne, List.reverse_eq_nil_iff] at hne
    have hheld : ¬ held.isEmpty = true := by rwa [List.isEmpty_iff]
    rw [List.nil_append, List.append_nil, partsFrom, if_neg (by decide), if_pos rfl, if_neg hheld]
  | cons c inside ih =>
    obtain ⟨hc, hopener⟩ := List.ne_and_not_mem_of_not_mem_cons hopener
    obtain ⟨hc', hcloser⟩ := List.ne_and_not_mem_of_not_mem_cons hcloser
    have hheld : (c :: held).reverse ++ inside = held.reverse ++ c :: inside := by
      rw [List.reverse_cons, List.append_assoc, List.singleton_append]
    rw [List.cons_append, partsFrom, if_neg (Ne.symm hc), if_neg (Ne.symm hc'),
      ih hopener hcloser (by rwa [hheld]), hheld]

theorem partsFrom_segments {segments : List Segment} (h : ∀ segment ∈ segments, segment.Fits) :
    partsFrom none (segments.flatMap Segment.text) = segments.flatMap Segment.parts := by
  induction segments with
  | nil => rfl
  | cons segment segments ih =>
    obtain ⟨hsegment, hsegments⟩ := List.forall_mem_cons.1 h
    have hplaceholder := @partsFrom_held _ hsegment.expression.opener
      hsegment.expression.closer [] hsegment.expression_ne_nil
      (segment.piece ++ segments.flatMap Segment.text)
    have htext : (segment :: segments).flatMap Segment.text =
        '{' :: (segment.expression ++ '}' :: (segment.piece ++ segments.flatMap Segment.text)) := by
      simp [Segment.text]
    rw [htext, partsFrom, if_pos rfl, hplaceholder, partsFrom_piece hsegment.piece.opener,
      ih hsegments]
    rfl

/-- The parts of a template: the characters of its pieces, and its expressions. -/
theorem parts_interpolated {first : Text} (hfirst : IsPiece first) {segments : List Segment}
    (h : ∀ segment ∈ segments, segment.Fits) :
    parts (interpolated first segments) = plain first ++ segments.flatMap Segment.parts := by
  rw [parts, interpolated, partsFrom_piece hfirst.opener, partsFrom_segments h]

theorem splitPlaceholder_of_not_mem {text : Text} (h : ':' ∉ text) :
    splitPlaceholder text = (text, none) := by
  have hnone : Text.splitLast? (· == ':') text = none := by
    rw [Text.splitLast?, splitFirst?_eq_none]
    · rfl
    · intro c hc
      rw [beq_eq_false_iff_ne]
      rintro rfl
      exact h (List.mem_reverse.1 hc)
  rw [splitPlaceholder, hnone]

/-! ## The literal -/

theorem line_not_mem_interpolated {first : Text} (hfirst : IsPiece first) {segments : List Segment}
    (h : ∀ segment ∈ segments, segment.Fits) : '\n' ∉ interpolated first segments := by
  intro hmem
  rcases List.mem_append.1 hmem with hmem | hmem
  · exact hfirst.line hmem
  · obtain ⟨segment, hsegment, hmem⟩ := List.mem_flatMap.1 hmem
    have hfits := h segment hsegment
    simp only [Segment.text, List.mem_cons, List.mem_append] at hmem
    rcases hmem with heq | hmem | heq | hmem
    · cases heq
    · exact hfits.expression.line hmem
    · cases heq
    · exact hfits.piece.line hmem

theorem trim_formatted (quote : Quote) (template : Text) :
    Text.trim (formatted quote template) = formatted quote template := by
  have hlast : Unicode.isBlank quote.char = false := by cases quote <;> rfl
  exact (Text.Bare.enclosed (by decide) hlast (quote.char :: template)).trim_eq

theorem enclosed?_quoted (quote : Quote) {text : Text} (h : '\n' ∉ text) :
    enclosed? quote (quote.char :: (text ++ [quote.char])) = some text := by
  have hfirst : Pattern.charOf (· == quote.char) (quote.char :: (text ++ [quote.char])) =
      some (quote.char, text ++ [quote.char]) := by
    rw [Pattern.charOf, if_pos (beq_self_eq_true _)]
  have hlast : Text.beforeLast? quote.char (text ++ [quote.char]) = some text := by
    rw [Text.beforeLast?, List.getLast?_concat, if_pos rfl, List.dropLast_concat]
  simp [enclosed?, hfirst, hlast, h]

theorem ofText_formatted (functions : Functions) (quote : Quote) {template : Text}
    (h : '\n' ∉ template) :
    Form.ofText functions (formatted quote template) = .template template := by
  have hstring : stringLiteral? (formatted quote template) = none :=
    stringLiteral?_cons_eq_none (by decide) _
  have htemplate : template? (formatted quote template) = some template := by
    rw [formatted, template?, if_pos (by decide)]
    cases quote with
    | single =>
      have hdouble : enclosed? .double (Quote.single.char :: (template ++ [Quote.single.char])) =
          none := rfl
      rw [hdouble, Option.none_or, enclosed?_quoted .single h]
    | double => rw [enclosed?_quoted .double h, Option.some_or]
  simp [Form.ofText, hstring, htemplate, show (formatted quote template).isEmpty = false from rfl]

end Template

/-! ## What is shown -/

namespace Evaluation

open Template

variable {f : Text → Except EvalError Value}

/-- What parts of a template show together. -/
def fillParts (f : Text → Except EvalError Value) (parts : List Part) : Except EvalError Text := do
  return (← parts.mapM (fillPart f)).flatten

theorem fillTemplate_eq (f : Text → Except EvalError Value) (template : Text) :
    fillTemplate f template = fillParts f (parts template) := rfl

theorem fillParts_append (front behind : List Part) :
    fillParts f (front ++ behind) = do
      let shown ← fillParts f front
      return shown ++ (← fillParts f behind) := by
  unfold fillParts
  rw [List.mapM_append]
  simp

theorem fillParts_plain (piece : Text) : fillParts f (plain piece) = .ok piece := by
  induction piece with
  | nil => rfl
  | cons c piece ih =>
    have hchar : fillParts f [.char c] = .ok [c] := rfl
    show fillParts f ([.char c] ++ plain piece) = _
    rw [fillParts_append, hchar, ih]
    rfl

theorem fillParts_segment {segment : Segment} (hcolon : ':' ∉ segment.expression) :
    fillParts f segment.parts = do return segment.shown (← f segment.expression) := by
  have hplaceholder : fillParts f [.placeholder segment.expression] =
      do return (← f segment.expression).shown := by
    unfold fillParts
    rw [List.mapM_cons, fillPart, splitPlaceholder_of_not_mem hcolon]
    dsimp only
    cases f segment.expression with
    | error cause => rfl
    | ok value => exact congrArg Except.ok (List.append_nil value.shown)
  show fillParts f ([.placeholder segment.expression] ++ plain segment.piece) = _
  rw [fillParts_append, hplaceholder, fillParts_plain]
  cases f segment.expression <;> rfl

theorem fillParts_segments_of_ok {segments : List Segment} {values : List Value}
    (hsegments : ∀ segment ∈ segments, segment.Fits)
    (h : List.Forall₂ (fun segment value => f segment.expression = .ok value) segments values) :
    fillParts f (segments.flatMap Segment.parts) =
      .ok (List.zipWith Segment.shown segments values).flatten := by
  induction h with
  | nil => rfl
  | @cons segment value segments values hvalue hvalues ih =>
    obtain ⟨hsegment, hsegments⟩ := List.forall_mem_cons.1 hsegments
    rw [List.flatMap_cons, fillParts_append, fillParts_segment hsegment.colon, hvalue,
      ih hsegments]
    rfl

theorem fillParts_segments_of_error {before behind : List Segment} {segment : Segment}
    {cause : EvalError} (hsegments : ∀ other ∈ before ++ segment :: behind, other.Fits)
    (hbefore : ∀ other ∈ before, ∃ value, f other.expression = .ok value)
    (h : f segment.expression = .error cause) :
    fillParts f ((before ++ segment :: behind).flatMap Segment.parts) = .error cause := by
  induction before with
  | nil =>
    obtain ⟨hsegment, -⟩ := List.forall_mem_cons.1 hsegments
    rw [List.nil_append, List.flatMap_cons, fillParts_append, fillParts_segment hsegment.colon, h]
    rfl
  | cons other before ih =>
    obtain ⟨hother, hsegments⟩ := List.forall_mem_cons.1 hsegments
    obtain ⟨⟨value, hvalue⟩, hbefore⟩ := List.forall_mem_cons.1 hbefore
    rw [List.cons_append, List.flatMap_cons, fillParts_append, fillParts_segment hother.colon,
      hvalue, ih hsegments hbefore]
    rfl

end Evaluation

open Template

/-- **Templates show every part once.** A template is shown as its pieces, as they stand, with the
values of its expressions between them, where each expression is evaluated in the room inside the
template. Of expressions that fail the first one decides. -/
theorem evaluate_interpolated {first : Text} (hfirst : IsPiece first) {segments : List Segment}
    (hsegments : ∀ segment ∈ segments, segment.Fits) (quote : Quote) (functions : Functions)
    (nesting calls : Nat) (env : Environment) :
    (∀ values,
      List.Forall₂ (fun segment value =>
        evaluate functions nesting calls env segment.expression = .ok value) segments values →
      evaluate functions (nesting + 1) calls env (formatted quote (interpolated first segments)) =
        .ok (.str (first ++ (List.zipWith Segment.shown segments values).flatten))) ∧
    (∀ before segment behind cause, segments = before ++ segment :: behind →
      (∀ other ∈ before, ∃ value,
        evaluate functions nesting calls env other.expression = .ok value) →
      evaluate functions nesting calls env segment.expression = .error cause →
      evaluate functions (nesting + 1) calls env (formatted quote (interpolated first segments)) =
        .error cause) := by
  have hform := ofText_formatted functions quote (line_not_mem_interpolated hfirst hsegments)
  have hvalue : evaluate functions (nesting + 1) calls env
      (formatted quote (interpolated first segments)) = do
        let shown ← fillParts (evaluate functions nesting calls env)
          (segments.flatMap Segment.parts)
        return .str (first ++ shown) := by
    rw [← trim_formatted] at hform
    rw [evaluate_of_template hform, fillTemplate_eq, parts_interpolated hfirst hsegments,
      fillParts_append, fillParts_plain]
    cases fillParts (evaluate functions nesting calls env) (segments.flatMap Segment.parts) <;> rfl
  refine ⟨fun values hvalues => ?shown,
    fun before segment behind cause hparts hbefore hcause => ?failed⟩
  case shown =>
    rw [hvalue, fillParts_segments_of_ok hsegments hvalues]
    rfl
  case failed =>
    subst hparts
    rw [hvalue, fillParts_segments_of_error hsegments hbefore hcause]
    rfl

/-- A variable and a string between pieces with a letter and quotes of their own, and a template
whose second expression is the first to fail. -/
theorem evaluate_interpolated_quotes :
    let env : Environment := [("x".toList, .int 5)]
    evaluate [] 2 0 env "f\"it's é \"\x7bx\x7d\" + \x7b 'y' \x7d\"".toList =
        .ok (.str "it's é \"5\" + y".toList) ∧
      evaluate [] 2 0 env "f\"\x7bx\x7d \x7b[x]\x7d \x7b1/0\x7d\"".toList =
        .error .recursionLimit := by
  intro env
  have hx : evaluate [] 1 0 env "x".toList = .ok (.int 5) := evaluate_of_name (by rfl) 0 0 env
  have hy : evaluate [] 1 0 env " 'y' ".toList = .ok (.str "y".toList) :=
    evaluate_of_literal (by rfl) 0 0 env
  have hlist : evaluate [] 1 0 env "[x]".toList = .error .recursionLimit := by
    have hitems : splitItems "x".toList = ["x".toList] := by decide
    rw [@evaluate_of_list _ _ "x".toList (by rfl), hitems, List.mapM_cons, evaluate]
    rfl
  constructor
  · let segments : List Segment := [⟨"x".toList, "\" + ".toList⟩, ⟨" 'y' ".toList, []⟩]
    have hfive : (Value.int 5).shown = "5".toList := by
      rw [Value.shown, Value.spelled]
      · rfl
      · rintro _ ⟨⟩
    have hshown : (List.zipWith Segment.shown segments [.int 5, .str "y".toList]).flatten =
        "5\" + y".toList := by
      show (Value.int 5).shown ++ "\" + ".toList ++ "y".toList = _
      rw [hfive]
      rfl
    have hvalue := (@evaluate_interpolated "it's é \"".toList (by decide) segments (by decide)
      .double [] 1 0 env).1 _ (.cons hx (.cons hy .nil))
    rw [hshown] at hvalue
    exact hvalue
  · let segments : List Segment :=
      [⟨"x".toList, " ".toList⟩, ⟨"[x]".toList, " ".toList⟩, ⟨"1/0".toList, []⟩]
    exact (@evaluate_interpolated [] (by decide) segments (by decide) .double [] 1 0 env).2
      [⟨"x".toList, " ".toList⟩] ⟨"[x]".toList, " ".toList⟩ [⟨"1/0".toList, []⟩] _ rfl
      (List.forall_mem_singleton.2 ⟨_, hx⟩) hlist

end DryRun
