import DryRun.Json.Relaxed.Reader
import DryRun.Proofs.Json.Layout
import DryRun.Proofs.Json.Strings

/-!
# Tokens of JSON as they are written

Strings with their escapes, numbers and constants are read as one token each, in strict and in
relaxed JSON: a string up to its closing quote, anything else up to a comma or the end of the line.
-/

namespace DryRun

namespace Json

/-! ## Strings -/

/-- Whether a character may stand in strings of relaxed JSON as it is written: U+2028 and U+2029 are
not escaped, but end a line. -/
def isPlain (c : Char) : Bool := !(c == '\u2028' || c == '\u2029')

theorem allows_strictQuoting : strictQuoting.Allows (fun _ => true) where
  closer := rfl
  escape_char := by
    intro pair hpair
    simp only [List.mem_cons, List.not_mem_nil, or_false] at hpair
    rcases hpair with rfl | rfl | rfl | rfl | rfl | rfl | rfl
    all_goals rfl
  escape_unit := rfl
  forbids_eq c _ hc := by
    show decide (c.toNat < 0x20) = false
    exact decide_eq_false (Nat.not_lt.2 hc)

theorem allows_relaxedQuoting : (relaxedQuoting '"').Allows isPlain where
  closer := rfl
  escape_char := by
    intro pair hpair
    simp only [List.mem_cons, List.not_mem_nil, or_false] at hpair
    rcases hpair with rfl | rfl | rfl | rfl | rfl | rfl | rfl
    all_goals rfl
  escape_unit := rfl
  forbids_eq c hc hvisible := by
    have hfeed : c ≠ '\n' := by
      rintro rfl
      exact absurd hvisible (by decide)
    have hreturn : c ≠ '\r' := by
      rintro rfl
      exact absurd hvisible (by decide)
    show (c == '\n' || c == '\r' || c == '\u2028' || c == '\u2029') = false
    rw [isPlain, Bool.not_eq_true'] at hc
    rw [beq_false_of_ne hfeed, beq_false_of_ne hreturn]
    exact hc

theorem readToken_quote (text rest : Text) :
    readToken (quote text ++ rest) = some (.scalar (.string (some text)), rest) := by
  have hplain : ∀ c ∈ text, (fun _ => true) c = true := fun _ _ => rfl
  obtain ⟨behind, htext, hread⟩ := quoted?_quote allows_strictQuoting hplain rest
  rw [htext]
  show (quoted? strictQuoting behind).map _ = _
  rw [hread]
  rfl

theorem relaxedToken_quote {text : Text} (h : ∀ c ∈ text, isPlain c = true) (rest : Text) :
    relaxedToken (quote text ++ rest) = some (.scalar (.string (some text)), rest) := by
  obtain ⟨behind, htext, hread⟩ := quoted?_quote allows_relaxedQuoting h rest
  rw [htext]
  show (quoted? (relaxedQuoting '"') behind).map _ = _
  rw [hread]
  rfl

/-! ## Numbers -/

section Numbers

variable {numeral : Numeral} {rest : Text}

theorem wholeDigits_append {whole : Text} (hne : whole ≠ [])
    (hdigits : ∀ c ∈ whole, c.isDigit = true) (hhead : whole = ['0'] ∨ whole.head? ≠ some '0')
    (hrest : rest.head?.any Char.isDigit = false) :
    wholeDigits (whole ++ rest) = some (whole, rest) := by
  rcases hhead with rfl | hhead
  · rfl
  · have hzero : Pattern.charOf (· == '0') (whole ++ rest) = none := by
      obtain ⟨c, others, rfl⟩ := List.exists_cons_of_ne_nil hne
      have hc : ¬ (c == '0') = true := fun heq => hhead (by rw [beq_iff_eq.1 heq]; rfl)
      exact if_neg hc
    unfold wholeDigits
    rw [Pattern.either_of_none (Pattern.bind_of_none hzero _)]
    exact Pattern.run1_of_append hne hdigits hrest

/-- A point and the digits behind it are read, however these are read. -/
theorem optional_point_append {digits : Pattern Text} {places : Text}
    (hdigits : places ≠ [] → digits (places ++ rest) = some (places, rest))
    (hrest : rest.head?.any (· == '.') = false) :
    ∃ point, Pattern.optional (do Pattern.word "."; return '.' :: (← digits))
        (Numeral.pointText places ++ rest) = some (point, rest) ∧
      point.getD [] = Numeral.pointText places := by
  unfold Numeral.pointText
  split
  · have hpoint : Pattern.word "." rest = none := by
      refine Pattern.word_eq_none _ ?_
      rintro behind rfl
      cases hrest
    exact ⟨none, Pattern.optional_of_none (Pattern.bind_of_none hpoint _), rfl⟩
  · rename_i hne
    have hpoint : Pattern.word "." ('.' :: (places ++ rest)) = some ((), places ++ rest) := rfl
    refine ⟨some ('.' :: places), Pattern.optional_of_some ?_, rfl⟩
    rw [List.cons_append, Pattern.bind_of_some hpoint, Pattern.bind_of_some (hdigits hne)]
    rfl

theorem exponentPart_append (exponent : Option (Bool × Nat))
    (hrest : rest.head?.any (fun c => c.isDigit || c == 'e' || c == 'E') = false) :
    ∃ part, Pattern.optional exponentPart (Numeral.exponentText exponent ++ rest) =
        some (part, rest) ∧ part.getD [] = Numeral.exponentText exponent := by
  cases exponent with
  | none =>
    have hletter : Pattern.charOf (fun c => c == 'e' || c == 'E') rest = none := by
      cases rest with
      | nil => rfl
      | cons c rest =>
        rw [List.head?_cons, Option.any_some, Bool.or_assoc, Bool.or_eq_false_iff] at hrest
        exact if_neg (Bool.eq_false_iff.1 hrest.2)
    exact ⟨none, Pattern.optional_of_none (Pattern.bind_of_none hletter _), rfl⟩
  | some exponent =>
    obtain ⟨negative, n⟩ := exponent
    have hend : rest.head?.any Char.isDigit = false := by
      cases rest with
      | nil => rfl
      | cons c rest =>
        rw [List.head?_cons, Option.any_some, Bool.or_assoc, Bool.or_eq_false_iff] at hrest
        exact hrest.1
    have hdigits := Pattern.run1_of_append (decimalDigits_ne_nil n)
      (fun c hc => isDigit_of_mem_decimalDigits hc) hend
    refine ⟨some (Numeral.exponentText (some (negative, n))), Pattern.optional_of_some ?_, rfl⟩
    have hsign : signOf ['+', '-'] ((if negative then '-' else '+') :: (decimalDigits n ++ rest)) =
        some ([if negative then '-' else '+'], decimalDigits n ++ rest) := by
      cases negative <;> rfl
    show (Pattern.charOf _ >>= _) ('e' :: (if negative then '-' else '+') ::
      (decimalDigits n ++ rest)) = _
    rw [Pattern.bind_of_some (rfl : Pattern.charOf (fun c => c == 'e' || c == 'E')
      ('e' :: (if negative then '-' else '+') :: (decimalDigits n ++ rest)) = some ('e', _)),
      Pattern.bind_of_some hsign, Pattern.bind_of_some hdigits]
    rfl

/-- The parts of a numeral are read one after another, however the digits behind its point are
read. -/
theorem exists_parts_append {digits : Pattern Text} (h : numeral.Regular) (hrest : Ends rest)
    (hdigits : ∀ behind : Text, behind.head?.any Char.isDigit = false → numeral.places ≠ [] →
      digits (numeral.places ++ behind) = some (numeral.places, behind)) :
    ∃ behindWhole point behindPoint part,
      wholeDigits (numeral.text ++ rest) = some (numeral.whole, behindWhole) ∧
      Pattern.optional (do Pattern.word "."; return '.' :: (← digits)) behindWhole =
        some (point, behindPoint) ∧
      Pattern.optional exponentPart behindPoint = some (part, rest) ∧
      numeral.whole ++ point.getD [] ++ part.getD [] = numeral.text := by
  obtain ⟨whole, places, exponent⟩ := numeral
  obtain ⟨hne, hwhole, -, hhead⟩ := h
  dsimp only at hne hwhole hhead hdigits
  have hexponent := Numeral.any_head?_exponentText exponent (rfl : Char.isDigit 'e' = false)
    (hrest.any_head? rfl rfl)
  have hbehind := Numeral.any_head?_pointText places (rfl : Char.isDigit '.' = false) hexponent
  obtain ⟨point, hpoint, hpointText⟩ := optional_point_append (hdigits _ hexponent)
    (Numeral.any_head?_exponentText exponent rfl (hrest.any_head? rfl rfl))
  obtain ⟨part, hpart, hpartText⟩ := exponentPart_append exponent (hrest.any_head? rfl rfl)
  refine ⟨_, point, _, part, ?_, hpoint, hpart, ?_⟩
  · unfold Numeral.text
    rw [List.append_assoc, List.append_assoc]
    exact wholeDigits_append hne hwhole hhead hbehind
  · rw [hpointText, hpartText]
    exact List.append_assoc _ _ _

theorem decimal_append (h : numeral.Regular) (hrest : Ends rest) :
    decimal (numeral.text ++ rest) = some (numeral.text, rest) := by
  obtain ⟨behindWhole, point, behindPoint, part, hwhole, hpoint, hpart, htext⟩ :=
    exists_parts_append h hrest fun _ hend _ => Pattern.run_of_append h.isDigit_places hend
  rw [← pointAndSomeDigits] at hpoint
  have hdigits : decimalDigitsAndPoint (numeral.text ++ rest) =
      some (numeral.whole ++ point.getD [], behindPoint) := by
    refine Pattern.either_of_some ?_ _
    rw [Pattern.bind_of_some hwhole, Pattern.bind_of_some hpoint]
    rfl
  unfold decimal
  rw [Pattern.bind_of_some hdigits, Pattern.bind_of_some hpart]
  exact congrArg (fun text => some (text, rest)) htext

theorem hexadecimal_append (h : numeral.Regular) (hrest : Ends rest) :
    hexadecimal (numeral.text ++ rest) = none := by
  obtain ⟨whole, places, exponent⟩ := numeral
  obtain ⟨hne, -, -, hhead⟩ := h
  dsimp only at hne hhead
  unfold hexadecimal Numeral.text
  rw [List.append_assoc, List.append_assoc]
  rcases hhead with rfl | hhead
  · have hmark : Pattern.charOf (fun c => c == 'x' || c == 'X')
        (Numeral.pointText places ++ (Numeral.exponentText exponent ++ rest)) = none :=
      Pattern.charOf_of_any_head? (Numeral.any_head?_pointText places rfl
        (Numeral.any_head?_exponentText exponent rfl (hrest.any_head? rfl rfl)))
    rw [Pattern.bind_of_some (rfl : Pattern.word "0" (['0'] ++ _) = some ((), _))]
    exact Pattern.bind_of_none hmark _
  · have hzero : Pattern.word "0" (whole ++
        (Numeral.pointText places ++ (Numeral.exponentText exponent ++ rest))) = none := by
      refine Pattern.word_eq_none _ fun behind heq => ?_
      obtain ⟨c, others, rfl⟩ := List.exists_cons_of_ne_nil hne
      injection heq with hc _
      exact hhead (by rw [hc]; rfl)
    exact Pattern.bind_of_none hzero _

/-- A sign is read if it is there. -/
theorem signOf_append {signs : List Char} (hminus : signs.contains '-' = true)
    (hdigit : ∀ c : Char, c.isDigit = true → ¬ signs.contains c = true) (h : numeral.Regular)
    (negative : Bool) :
    signOf signs (signText negative ++ (numeral.text ++ rest)) =
      some (signText negative, numeral.text ++ rest) := by
  obtain ⟨c, others, htext, hc⟩ := Numeral.head_isDigit h
  unfold signOf
  cases negative with
  | true =>
    have hsign : Pattern.charOf signs.contains ('-' :: (numeral.text ++ rest)) = some ('-', _) :=
      if_pos hminus
    show (Pattern.optional (Pattern.charOf signs.contains) >>= _)
      ('-' :: (numeral.text ++ rest)) = _
    rw [Pattern.bind_of_some (Pattern.optional_of_some hsign)]
    rfl
  | false =>
    have hnone : Pattern.charOf signs.contains (numeral.text ++ rest) = none := by
      rw [htext]
      exact if_neg (hdigit c hc)
    show (Pattern.optional (Pattern.charOf signs.contains) >>= _) (numeral.text ++ rest) = _
    rw [Pattern.bind_of_some (Pattern.optional_of_none hnone)]
    rfl

theorem relaxedLexeme_append (h : numeral.Regular) (negative : Bool) (hrest : Ends rest) :
    relaxedLexeme (signText negative ++ numeral.text ++ rest) =
      some (signText negative ++ numeral.text, rest) := by
  have hdigits : Pattern.either hexadecimal decimal (numeral.text ++ rest) =
      some (numeral.text, rest) := by
    rw [Pattern.either_of_none (hexadecimal_append h hrest)]
    exact decimal_append h hrest
  have hsign : signOf ['+', '-'] (signText negative ++ (numeral.text ++ rest)) = _ :=
    signOf_append rfl (fun c hc => forall_isDigit (p := fun c => ¬ ['+', '-'].contains c = true)
      (by decide) hc) h negative
  unfold relaxedLexeme
  rw [List.append_assoc, Pattern.bind_of_some hsign]
  cases negative with
  | true =>
    dsimp only
    rw [if_neg (by decide), Pattern.bind_of_some (Pattern.either_of_some hdigits _)]
    rfl
  | false =>
    dsimp only
    rw [if_pos (by decide), Pattern.bind_of_some hdigits]
    rfl

theorem numberLexeme_append (h : numeral.Regular) (negative : Bool) (hrest : Ends rest) :
    numberLexeme (signText negative ++ numeral.text ++ rest) =
      some (signText negative ++ numeral.text, rest) := by
  have hsign : signOf ['-'] (signText negative ++ (numeral.text ++ rest)) = _ :=
    signOf_append rfl (fun c hc => forall_isDigit (p := fun c => ¬ ['-'].contains c = true)
      (by decide) hc) h negative
  obtain ⟨behindWhole, point, behindPoint, part, hwhole, hpoint, hpart, htext⟩ :=
    exists_parts_append h hrest fun _ hend hne => Pattern.run1_of_append hne h.isDigit_places hend
  rw [← pointAndDigits] at hpoint
  unfold numberLexeme
  rw [List.append_assoc, Pattern.bind_of_some hsign, Pattern.bind_of_some hwhole,
    Pattern.bind_of_some hpoint, Pattern.bind_of_some hpart, ← htext]
  exact congrArg (fun text => some (text, rest)) (by simp)

end Numbers

/-! ## First characters -/

/-- What holds of the marks of punctuation holds of a character that is one. -/
theorem forall_mark {p : Char → Prop} [DecidablePred p]
    (hmarks : "[]{},:".toList.all (fun c => decide (p c)) = true) {c : Char} {token : Token}
    (h : punctuation? c = some token) : p c := by
  have hmem : c ∈ "[]{},:".toList := by
    unfold punctuation? at h
    split at h
    any_goals decide
    cases h
  exact of_decide_eq_true (List.all_eq_true.1 hmarks c hmem)

/-- A numeral begins with its sign or a digit. -/
theorem exists_cons_numeral {numeral : Numeral} (h : numeral.Regular) (negative : Bool) :
    ∃ c others, signText negative ++ numeral.text = c :: others ∧ (c = '-' ∨ c.isDigit = true) := by
  obtain ⟨c, others, htext, hc⟩ := Numeral.head_isDigit h
  cases negative with
  | true => exact ⟨'-', numeral.text, rfl, Or.inl rfl⟩
  | false => exact ⟨c, others, htext, Or.inr hc⟩

/-- What holds of a minus sign and of digits holds of what a numeral begins with. -/
theorem forall_first {p : Char → Prop} [DecidablePred p] (hminus : p '-')
    (hdigits : "0123456789".toList.all (fun c => decide (p c)) = true) {c : Char}
    (hc : c = '-' ∨ c.isDigit = true) : p c := by
  rcases hc with rfl | hc
  · exact hminus
  · exact forall_isDigit hdigits hc

theorem readToken_of_not_mark {c : Char} (hquote : c ≠ '"') (hmark : punctuation? c = none)
    (rest : Text) :
    readToken (c :: rest) =
      if c.isAlpha then
        (constant? ((c :: rest).takeWhile Char.isAlpha)).map fun value =>
          (.scalar value, (c :: rest).dropWhile Char.isAlpha)
      else (numberLexeme (c :: rest)).map fun (lexeme, behind) =>
        (.scalar (.number lexeme), behind) := by
  rw [readToken, if_neg hquote, hmark]

theorem relaxedToken_of_not_mark {c : Char} (hquote : ¬ (c = '"' ∨ c = '\''))
    (hmark : punctuation? c = none) (rest : Text) :
    relaxedToken (c :: rest) =
      Pattern.either (do return .scalar (.number (← relaxedLexeme))) bareWord (c :: rest) := by
  rw [relaxedToken, if_neg hquote, hmark]

section Numerals

variable {numeral : Numeral} (h : numeral.Regular) (negative : Bool) {rest : Text}
  (hrest : Ends rest)

include h hrest

theorem readToken_numeral :
    readToken (signText negative ++ numeral.text ++ rest) =
      some (.scalar (.number (signText negative ++ numeral.text)), rest) := by
  have hlexeme := numberLexeme_append h negative hrest
  obtain ⟨c, others, htext, hc⟩ := exists_cons_numeral h negative
  rw [htext, List.cons_append] at hlexeme ⊢
  have hquote : c ≠ '"' :=
    forall_first (p := fun c => c ≠ '"') (by decide) (by decide) hc
  have hmark : punctuation? c = none := Option.isNone_iff_eq_none.1
    (forall_first (p := fun c => (punctuation? c).isNone = true) (by decide) (by decide) hc)
  have halpha : ¬ c.isAlpha = true :=
    forall_first (p := fun c => ¬ c.isAlpha = true) (by decide) (by decide) hc
  rw [readToken_of_not_mark hquote hmark, if_neg halpha, hlexeme]
  rfl

theorem relaxedToken_numeral :
    relaxedToken (signText negative ++ numeral.text ++ rest) =
      some (.scalar (.number (signText negative ++ numeral.text)), rest) := by
  have hlexeme := relaxedLexeme_append h negative hrest
  obtain ⟨c, others, htext, hc⟩ := exists_cons_numeral h negative
  rw [htext, List.cons_append] at hlexeme ⊢
  have hquote : ¬ (c = '"' ∨ c = '\'') :=
    forall_first (p := fun c => ¬ (c = '"' ∨ c = '\'')) (by decide) (by decide) hc
  have hmark : punctuation? c = none := Option.isNone_iff_eq_none.1
    (forall_first (p := fun c => (punctuation? c).isNone = true) (by decide) (by decide) hc)
  rw [relaxedToken_of_not_mark hquote hmark]
  refine Pattern.either_of_some ?_ _
  rw [Pattern.bind_of_some hlexeme]
  rfl

end Numerals

/-! ## Constants -/

theorem punctuation?_of_isAlpha {c : Char} (h : c.isAlpha = true) : punctuation? c = none := by
  unfold punctuation?
  split
  all_goals first | cases h | rfl

theorem eq_of_constant? {name : Text} {value : Json} (h : constant? name = some value) :
    name = "null".toList ∨ name = "true".toList ∨ name = "false".toList := by
  unfold constant? at h
  split at h
  · exact Or.inl ‹_›
  · split at h
    · exact Or.inr (Or.inl ‹_›)
    · split at h
      · exact Or.inr (Or.inr ‹_›)
      · cases h

theorem isAlpha_of_constant? {name : Text} {value : Json} (h : constant? name = some value) :
    name ≠ [] ∧ ∀ c ∈ name, c.isAlpha = true := by
  rcases eq_of_constant? h with rfl | rfl | rfl
  all_goals exact ⟨by decide, List.all_eq_true.1 rfl⟩

theorem readToken_constant {name rest : Text} {value : Json} (hname : constant? name = some value)
    (hrest : Ends rest) : readToken (name ++ rest) = some (.scalar value, rest) := by
  obtain ⟨hne, halpha⟩ := isAlpha_of_constant? hname
  have hend : rest.head?.any Char.isAlpha = false := hrest.any_head? rfl rfl
  have htake : (name ++ rest).takeWhile Char.isAlpha = name := by
    rw [List.takeWhile_append_of_pos halpha, Text.takeWhile_of_any_head? hend, List.append_nil]
  have hdrop : (name ++ rest).dropWhile Char.isAlpha = rest := by
    rw [List.dropWhile_append_of_pos halpha, Text.dropWhile_of_any_head? hend]
  obtain ⟨c, others, rfl⟩ := List.exists_cons_of_ne_nil hne
  have hc := halpha c List.mem_cons_self
  have hquote : c ≠ '"' := by
    rintro rfl
    cases hc
  rw [List.cons_append] at htake hdrop ⊢
  rw [readToken_of_not_mark hquote (punctuation?_of_isAlpha hc), if_pos hc, htake, hdrop, hname]
  rfl

theorem wordPiece_cons {inClass : Char → Bool} {c : Char} (hc : inClass c = true) (rest : Text) :
    wordPiece inClass (c :: rest) = some (.char c, rest) := by
  have hchar : Pattern.charOf inClass (c :: rest) = some (c, rest) := if_pos hc
  refine Pattern.either_of_some ?_ _
  rw [Pattern.bind_of_some hchar]
  rfl

theorem textOfPieces?_chars (text : Text) : textOfPieces? (text.map .char) = some text := by
  induction text with
  | nil => rfl
  | cons c text ih =>
    rw [List.map_cons, textOfPieces?, ih]
    rfl

theorem relaxedLexeme_of_isAlpha {c : Char} (h : c.isAlpha = true) (rest : Text) :
    relaxedLexeme (c :: rest) = none := by
  have hne : ∀ d, d.isAlpha = false → c ≠ d := by
    rintro d hd rfl
    rw [hd] at h
    cases h
  have hword : ∀ d, d.isAlpha = false → Pattern.word (String.singleton d) (c :: rest) = none := by
    intro d hd
    refine Pattern.word_eq_none _ fun behind heq => hne d hd ?_
    rw [String.toList_singleton] at heq
    injection heq
  have hsign : Pattern.charOf ['+', '-'].contains (c :: rest) = none := by
    refine if_neg ?_
    simp [hne '+' rfl, hne '-' rfl]
  have hhexadecimal : hexadecimal (c :: rest) = none := Pattern.bind_of_none (hword '0' rfl) _
  have hzero : Pattern.charOf (· == '0') (c :: rest) = none :=
    if_neg (by simpa using hne '0' rfl)
  have hdigits : Pattern.run1 Char.isDigit (c :: rest) = none :=
    Pattern.run1_of_any_head? (Bool.eq_false_iff.2 (Unicode.not_isDigit_of_isAlpha h))
  have hwhole : wholeDigits (c :: rest) = none := by
    unfold wholeDigits
    rw [Pattern.either_of_none (Pattern.bind_of_none hzero _)]
    exact hdigits
  have hpoint : pointAndDigits (c :: rest) = none := Pattern.bind_of_none (hword '.' rfl) _
  have hdecimal : decimal (c :: rest) = none := by
    refine Pattern.bind_of_none ?_ _
    unfold decimalDigitsAndPoint
    rw [Pattern.either_of_none (Pattern.bind_of_none hwhole _)]
    exact hpoint
  have hnumber : Pattern.either hexadecimal decimal (c :: rest) = none := by
    rw [Pattern.either_of_none hhexadecimal]
    exact hdecimal
  unfold relaxedLexeme signOf
  rw [Pattern.bind_of_some (Pattern.bind_of_some (Pattern.optional_of_none hsign) _)]
  simp only [Option.toList_none, List.isEmpty_nil]
  exact Pattern.bind_of_none hnumber _

theorem eq_word_of_bareWord {text behind : Text} {token : Token}
    (h : bareWord text = some (token, behind)) :
    ∃ lexeme value, token = .word lexeme value ∧ lexeme <+: text := by
  obtain ⟨⟨found, behind⟩, -, h⟩ := Option.bind_eq_some_iff.1 h
  cases h
  exact ⟨_, _, rfl, List.take_prefix _ _⟩

/-- What begins with a letter is a word if it is a token. -/
theorem relaxedToken_of_isAlpha {c : Char} (h : c.isAlpha = true) (rest : Text) :
    relaxedToken (c :: rest) = bareWord (c :: rest) := by
  have hquote : ¬ (c = '"' ∨ c = '\'') := by
    rintro (rfl | rfl)
    · cases h
    · cases h
  rw [relaxedToken_of_not_mark hquote (punctuation?_of_isAlpha h),
    Pattern.either_of_none (Pattern.bind_of_none (relaxedLexeme_of_isAlpha h rest) _)]

section Words

variable {word rest : Text} (hne : word ≠ []) (hword : ∀ c ∈ word, c.isAlpha = true)
  (hrest : Ends rest)

include hne hword hrest

theorem bareWord_append : bareWord (word ++ rest) = some (.word word (some word), rest) := by
  obtain ⟨c, others, rfl⟩ := List.exists_cons_of_ne_nil hne
  obtain ⟨hc, hothers⟩ := List.forall_mem_cons.1 hword
  have hcontinues : ∀ d ∈ others, ∀ behind,
      wordPiece Unicode.continuesIdentifier (d :: behind) = some (.char d, behind) := by
    intro d hd behind
    refine wordPiece_cons ?_ behind
    unfold Unicode.continuesIdentifier
    rw [Unicode.beginsIdentifier_of_isAlpha (hothers d hd)]
    rfl
  have hend : wordPiece Unicode.continuesIdentifier rest = none := by
    have hchar : Pattern.charOf Unicode.continuesIdentifier rest = none :=
      Pattern.charOf_of_any_head? (hrest.any_head? (by decide) (by decide))
    have hescape : Pattern.word "\\u" rest = none := by
      refine Pattern.word_eq_none _ ?_
      rintro behind rfl
      exact absurd hrest (by simp [Ends])
    unfold wordPiece
    rw [Pattern.either_of_none (Pattern.bind_of_none hchar _)]
    exact Pattern.bind_of_none hescape _
  have hfirst := wordPiece_cons (Unicode.beginsIdentifier_of_isAlpha hc) (others ++ rest)
  have htake : (c :: others ++ rest).take ((c :: others ++ rest).length - rest.length) =
      c :: others := by
    rw [List.length_append, Nat.add_sub_cancel, List.take_left]
  have hpieces : (do
      let first ← wordPiece Unicode.beginsIdentifier
      let others ← Pattern.many (wordPiece Unicode.continuesIdentifier)
      return first :: others : Pattern (List Piece)) (c :: others ++ rest) =
        some ((c :: others).map .char, rest) := by
    rw [List.cons_append, Pattern.bind_of_some hfirst,
      Pattern.bind_of_some (Pattern.many_append hcontinues hend)]
    rfl
  unfold bareWord
  dsimp only
  rw [hpieces]
  show some (Token.word ((c :: others ++ rest).take _) (textOfPieces? _), rest) = _
  rw [htake, textOfPieces?_chars]

/-- A word of letters is read to its end. -/
theorem relaxedToken_word :
    relaxedToken (word ++ rest) = some (.word word (some word), rest) := by
  have hbare := bareWord_append hne hword hrest
  obtain ⟨c, others, rfl⟩ := List.exists_cons_of_ne_nil hne
  rw [List.cons_append] at hbare ⊢
  rw [relaxedToken_of_isAlpha (hword c List.mem_cons_self)]
  exact hbare

end Words

end Json

end DryRun
