import DryRun.Proofs.Number.Numeral
import DryRun.Proofs.Text.Patterns
import DryRun.Toml.Reader

/-!
# Scalars of TOML as they are written

Strings of plain characters, natural numbers and finite floats are read back at the beginning of a
text, up to where the line breaks.
-/

namespace DryRun

namespace Toml

/-! ## Strings -/

/-- Whether a character stands for itself in a string between double quotes. -/
structure Plain (c : Char) : Prop where
  ne_quote : c ≠ '"'
  ne_backslash : c ≠ '\\'
  isAllowed : isAllowed c = true

theorem stepPlain_of_plain {c : Char} (h : Plain c) :
    stepPlain ⟨'"', true, false⟩ c = .go [c] .plain := by
  unfold stepPlain
  simp [h.ne_quote, h.ne_backslash, h.isAllowed]

theorem stringFrom_plain {text : Text} (h : ∀ c ∈ text, Plain c) (rest : Text) :
    stringFrom ⟨'"', true, false⟩ .plain (text ++ '"' :: rest) = some (text, rest) := by
  induction text with
  | nil => rfl
  | cons c text ih =>
    obtain ⟨hc, htext⟩ := List.forall_mem_cons.1 h
    have hstep : stepAt ⟨'"', true, false⟩ c .plain = .go [c] .plain := stepPlain_of_plain hc
    rw [List.cons_append]
    unfold stringFrom
    dsimp only
    rw [hstep]
    dsimp only
    rw [ih htext]
    rfl

/-- A string of plain characters is read up to its closing quote. -/
theorem scalar_quoted {text : Text} (hne : text ≠ []) (h : ∀ c ∈ text, Plain c) (rest : Text) :
    scalar ('"' :: text ++ '"' :: rest) = some (.string text, rest) := by
  obtain ⟨c, text, rfl⟩ := List.exists_cons_of_ne_nil hne
  have hc := (h c List.mem_cons_self).ne_quote
  have hstring : anyString ('"' :: (c :: text) ++ '"' :: rest) = some (c :: text, rest) := by
    have hshort : anyString ('"' :: (c :: text) ++ '"' :: rest) =
        shortString ('"' :: (c :: text) ++ '"' :: rest) := by
      unfold anyString
      split
      · rename_i heq
        injection heq with _ heq
        injection heq with heq _
        exact absurd heq hc
      · rename_i heq
        injection heq with heq _
        exact absurd heq (by decide)
      · rfl
    rw [hshort]
    exact stringFrom_plain h rest
  exact Pattern.either_of_some (Pattern.bind_of_some hstring _) _

/-! ## Groups of digits -/

theorem ungrouped?_digits {digits : Text} (hne : digits ≠ [])
    (h : ∀ c ∈ digits, c.isDigit = true) : ungrouped? Char.isDigit digits = some digits := by
  have hunderscore : ∀ c ∈ digits, (c == '_') = false := fun c hc =>
    forall_isDigit (p := fun c => (c == '_') = false) (by decide) (h c hc)
  have hall : digits.all Char.isDigit = true := List.all_eq_true.2 h
  unfold ungrouped?
  rw [Text.pieces_of_not_separates hunderscore]
  simp [hne, hall]

theorem eq_or_isDigit_of_ungrouped? {text digits : Text}
    (h : ungrouped? Char.isDigit text = some digits) {c : Char} (hc : c ∈ text) :
    c = '_' ∨ c.isDigit = true := by
  unfold ungrouped? at h
  dsimp only at h
  split at h
  · rename_i hgroups
    have hparts : (c == '_') = true ∨ ∃ piece ∈ Text.pieces (· == '_') text, c ∈ piece :=
      Text.separates_or_mem_pieces (· == '_') hc
    rcases hparts with hunderscore | ⟨piece, hpiece, hmem⟩
    · exact Or.inl (beq_iff_eq.1 hunderscore)
    · have hpieces := List.all_eq_true.1 hgroups piece hpiece
      rw [Bool.and_eq_true] at hpieces
      exact Or.inr (List.all_eq_true.1 hpieces.2 c hmem)
  · cases h

/-- Digits alone are a fraction behind a point. -/
theorem isFraction_digits {digits : Text} (hne : digits ≠ [])
    (h : ∀ c ∈ digits, c.isDigit = true) : isFraction '.' digits = true := by
  have hletter : ∀ c ∈ digits, (!(c == 'e' || c == 'E')) = true := fun c hc =>
    forall_isDigit (p := fun c => (!(c == 'e' || c == 'E')) = true) (by decide) (h c hc)
  have hsplit : Text.splitFirst? (fun c => c == 'e' || c == 'E') digits = none := by
    unfold Text.splitFirst?
    rw [List.dropWhile_eq_nil_iff.2 hletter]
  unfold isFraction
  rw [hsplit]
  dsimp only
  rw [if_pos rfl, ungrouped?_digits hne h]
  rfl

/-! ## Dates and times -/

theorem eq_append_of_fixedNumber {count low high n : Nat} {text behind : Text}
    (hcount : 0 < count) (h : fixedNumber count low high text = some (n, behind)) :
    ∃ digits, text = digits ++ behind ∧ digits ≠ [] ∧ ∀ c ∈ digits, c.isDigit = true := by
  obtain ⟨⟨digits, rest⟩, hdigits, h⟩ := Option.bind_eq_some_iff.1 h
  obtain ⟨⟨_, rest'⟩, hrequire, h⟩ := Option.bind_eq_some_iff.1 h
  cases h
  have hrest : rest = behind := by
    dsimp only [Pattern.require] at hrequire
    split at hrequire
    · cases hrequire
      rfl
    · cases hrequire
  obtain ⟨htext, hlength, hall⟩ := Pattern.eq_append_of_mapM_charOf hdigits
  rw [List.length_range] at hlength
  exact ⟨digits, hrest ▸ htext, List.ne_nil_of_length_pos (hlength ▸ hcount), hall⟩

/-- Whether digits at the beginning of a text are followed by neither a hyphen nor a colon. -/
def NoMoment (text : Text) : Prop :=
  ∀ digits behind, text = digits ++ behind → digits ≠ [] → (∀ c ∈ digits, c.isDigit = true) →
    behind.head? ≠ some '-' ∧ behind.head? ≠ some ':'

theorem noMoment_minus (text : Text) : NoMoment ('-' :: text) := by
  intro digits behind htext hne hall
  obtain ⟨c, digits, rfl⟩ := List.exists_cons_of_ne_nil hne
  injection htext with hc _
  exact absurd (hc ▸ hall c List.mem_cons_self) (by decide)

theorem noMoment_append {front rest : Text} {c : Char}
    (hfront : ∀ d ∈ front, d.isDigit = true) (hdigit : c.isDigit = false) (hhyphen : c ≠ '-')
    (hcolon : c ≠ ':') : NoMoment (front ++ c :: rest) := by
  intro digits behind htext _ hall
  have hhead : behind.head? = some c ∨ ∃ d, behind.head? = some d ∧ d.isDigit = true := by
    rcases List.append_eq_append_iff.1 htext with ⟨others, hdigits, hrest⟩ | ⟨others, hfrom, rfl⟩
    · cases others with
      | nil =>
        rw [List.nil_append] at hrest
        exact Or.inl (by rw [← hrest]; rfl)
      | cons d others =>
        injection hrest with hd _
        have hmem : c ∈ digits := by
          rw [hdigits, hd]
          simp
        exact absurd (hall c hmem) (Bool.eq_false_iff.1 hdigit)
    · cases others with
      | nil => exact Or.inl rfl
      | cons d others => exact Or.inr ⟨d, rfl, hfront d (by rw [hfrom]; simp)⟩
  rcases hhead with hhead | ⟨d, hhead, hd⟩
  · rw [hhead]
    exact ⟨fun h => hhyphen (Option.some.inj h), fun h => hcolon (Option.some.inj h)⟩
  · rw [hhead]
    refine ⟨fun h => ?_, fun h => ?_⟩
    · rw [Option.some.inj h] at hd
      cases hd
    · rw [Option.some.inj h] at hd
      cases hd

theorem date_eq_none {text : Text} (h : NoMoment text) : date text = none := by
  unfold date
  cases hyear : fixedNumber 4 0 9999 text with
  | none => exact Pattern.bind_of_none hyear _
  | some read =>
    obtain ⟨year, behind⟩ := read
    obtain ⟨digits, htext, hne, hall⟩ := eq_append_of_fixedNumber (by omega) hyear
    have hhyphen : Pattern.word "-" behind = none := by
      refine Pattern.word_eq_none _ ?_
      rintro rest rfl
      exact (h digits _ htext hne hall).1 rfl
    rw [Pattern.bind_of_some hyear]
    exact Pattern.bind_of_none hhyphen _

theorem time_eq_none {text : Text} (h : NoMoment text) : time text = none := by
  unfold time
  cases hhour : fixedNumber 2 0 23 text with
  | none => exact Pattern.bind_of_none hhour _
  | some read =>
    obtain ⟨hour, behind⟩ := read
    obtain ⟨digits, htext, hne, hall⟩ := eq_append_of_fixedNumber (by omega) hhour
    have hcolon : Pattern.word ":" behind = none := by
      refine Pattern.word_eq_none _ ?_
      rintro rest rfl
      exact (h digits _ htext hne hall).2 rfl
    rw [Pattern.bind_of_some hhour]
    exact Pattern.bind_of_none hcolon _

theorem momentPattern_eq_none {text : Text} (h : NoMoment text) : momentPattern text = none := by
  unfold momentPattern
  rw [Pattern.either_of_none (Pattern.bind_of_none (date_eq_none h) _)]
  exact time_eq_none h

/-! ## Numbers -/

theorem wholeDigits?_digits {digits : Text} (hne : digits ≠ [])
    (h : ∀ c ∈ digits, c.isDigit = true) (hhead : digits = ['0'] ∨ digits.head? ≠ some '0') :
    wholeDigits? digits = some digits := by
  unfold wholeDigits?
  rw [ungrouped?_digits hne h, Option.filter_some]
  rcases hhead with rfl | hhead
  · rfl
  · simp [hhead]

/-- A lexeme with another base in front holds the letter of the base. -/
theorem integerOf?_of_inDecimal {lexeme : Text} (h : ∀ c ∈ lexeme, InDecimal c) :
    integerOf? lexeme = ((wholeDigits? (splitSign lexeme).2).map fun digits =>
      if (splitSign lexeme).1 then -(digitsValue digits : Int) else digitsValue digits).filter
        inWord := by
  have hletter : ∀ c ∈ lexeme, c ≠ 'x' ∧ c ≠ 'o' ∧ c ≠ 'b' := fun c hc =>
    forall_inDecimal (p := fun c => c ≠ 'x' ∧ c ≠ 'o' ∧ c ≠ 'b') (by decide) (by decide) (h c hc)
  unfold integerOf?
  split
  · exact absurd rfl (hletter 'x' (by simp)).1
  · exact absurd rfl (hletter 'o' (by simp)).2.1
  · exact absurd rfl (hletter 'b' (by simp)).2.2
  · rfl

theorem integerOf?_decimalDigits {n : Nat} (h : n < 2 ^ 63) :
    integerOf? (decimalDigits n) = some (n : Int) := by
  have hregular := Numeral.regular_ofNat n
  have hsign := Numeral.splitSign_text hregular false
  have hchars : ∀ c ∈ decimalDigits n, InDecimal c := fun c hc =>
    Or.inl (isDigit_of_mem_decimalDigits hc)
  have hword : inWord n = true := by
    unfold inWord
    simp only [Nat.pow_eq, Bool.and_eq_true, decide_eq_true_eq]
    omega
  have hdigits : wholeDigits? (decimalDigits n) = some (decimalDigits n) :=
    wholeDigits?_digits hregular.whole_ne_nil hregular.isDigit_whole hregular.head?_whole
  rw [Numeral.text_ofNat] at hsign
  have hsplit : splitSign (decimalDigits n) = (false, decimalDigits n) := hsign
  rw [integerOf?_of_inDecimal hchars, hsplit]
  dsimp only
  rw [hdigits, Option.map_some, digitsValue_decimalDigits]
  exact Option.filter_eq_some_iff.2 ⟨rfl, hword⟩

section Floats

variable {numeral : Numeral} (hplaces : numeral.places ≠ []) (hexponent : numeral.exponent = none)
  (h : numeral.Regular)

include hplaces hexponent h

theorem integerOf?_of_places (negative : Bool) :
    integerOf? (signText negative ++ numeral.text) = none := by
  have hpoint : '.' ∈ numeral.text := by
    rw [Numeral.text_of_places hplaces hexponent]
    simp
  have hdigits : wholeDigits? numeral.text = none := by
    unfold wholeDigits?
    cases hungrouped : ungrouped? Char.isDigit numeral.text with
    | none => rfl
    | some digits => exact absurd (eq_or_isDigit_of_ungrouped? hungrouped hpoint) (by decide)
  rw [integerOf?_of_inDecimal fun c hc => Numeral.inDecimal_of_mem h hc,
    Numeral.splitSign_text h negative]
  dsimp only
  rw [hdigits]
  rfl

theorem floatOf?_of_places {negative : Bool} {x : Float}
    (hx : readFloat? (signText negative ++ numeral.text) = some x) (hinf : x.isInf = false) :
    floatOf? (signText negative ++ numeral.text) = some x := by
  have htext := Numeral.text_of_places hplaces hexponent
  have hpoint : '.' ∈ numeral.text := by
    rw [htext]
    simp
  have hname : ¬ (numeral.text = "inf".toList ∨ numeral.text = "nan".toList) := by
    rintro (hname | hname)
    · rw [hname] at hpoint
      exact absurd hpoint (by decide)
    · rw [hname] at hpoint
      exact absurd hpoint (by decide)
  have hwhole : numeral.text.takeWhile (fun c => c != '.' && c != 'e' && c != 'E') =
      numeral.whole := by
    rw [htext]
    exact Text.takeWhile_append_of_any_head? (fun c hc =>
      forall_isDigit (p := fun c => (c != '.' && c != 'e' && c != 'E') = true) (by decide)
        (h.isDigit_whole c hc)) rfl
  have hfraction := isFraction_digits hplaces h.isDigit_places
  have hungrouped : (signText negative ++ numeral.text).filter (· != '_') =
      signText negative ++ numeral.text := by
    rw [List.filter_eq_self]
    intro c hc
    exact forall_inDecimal (p := fun c => (c != '_') = true) (by decide) (by decide)
      (Numeral.inDecimal_of_mem h hc)
  have hread : ((readFloat? ((signText negative ++ numeral.text).filter (· != '_'))).filter
      fun x => negative || !x.isInf) = some x := by
    rw [hungrouped, hx, Option.filter_some, hinf]
    simp
  have hdrop : numeral.text.drop numeral.whole.length = '.' :: numeral.places := by
    rw [htext, List.drop_left]
  unfold floatOf?
  rw [Numeral.splitSign_text h negative]
  dsimp only
  rw [if_neg hname, hwhole, hdrop, List.head?_cons, if_pos rfl, List.drop_one, List.tail_cons,
    Option.any_some, hfraction, wholeDigits?_digits h.whole_ne_nil h.isDigit_whole h.head?_whole]
  exact hread

end Floats

/-! ## Lexemes -/

theorem ofLexeme?_of_inDecimal {lexeme : Text} (h : ∀ c ∈ lexeme, InDecimal c) :
    ofLexeme? lexeme = ((integerOf? lexeme).map .integer).or ((floatOf? lexeme).map .float) := by
  have hletter : 'e' ∈ lexeme → 'r' ∉ lexeme ∧ 's' ∉ lexeme := fun _ =>
    ⟨fun hmem => forall_inDecimal (p := (· ≠ 'r')) (by decide) (by decide) (h _ hmem) rfl,
      fun hmem => forall_inDecimal (p := (· ≠ 's')) (by decide) (by decide) (h _ hmem) rfl⟩
  unfold ofLexeme?
  rw [if_neg, if_neg]
  · rintro rfl
    exact (hletter (by decide)).2 (by decide)
  · rintro rfl
    exact (hletter (by decide)).1 (by decide)

theorem scalar_lexeme {lexeme rest : Text} {value : Toml} (hne : lexeme ≠ [])
    (hchars : ∀ c ∈ lexeme, InDecimal c) (hmoment : NoMoment (lexeme ++ rest))
    (hrest : rest.head?.any inLexeme = false) (hvalue : ofLexeme? lexeme = some value) :
    scalar (lexeme ++ rest) = some (value, rest) := by
  obtain ⟨c, others, rfl⟩ := List.exists_cons_of_ne_nil hne
  have hquote : c ≠ '"' ∧ c ≠ '\'' :=
    forall_inDecimal (p := fun c => c ≠ '"' ∧ c ≠ '\'') (by decide) (by decide)
      (hchars c List.mem_cons_self)
  have hin : ∀ d ∈ c :: others, inLexeme d = true := fun d hd =>
    forall_inDecimal (p := fun d => inLexeme d = true) (by decide) (by decide) (hchars d hd)
  have hstring : anyString (c :: others ++ rest) = none := by
    unfold anyString
    split
    · rename_i heq
      injection heq with heq _
      exact absurd heq hquote.1
    · rename_i heq
      injection heq with heq _
      exact absurd heq hquote.2
    · show (if c = '"' then _ else if c = '\'' then _ else none) = none
      rw [if_neg hquote.1, if_neg hquote.2]
  unfold scalar
  rw [Pattern.either_of_none (Pattern.bind_of_none hstring _)]
  unfold bareScalar
  rw [momentPattern_eq_none hmoment]
  dsimp only
  rw [Text.takeWhile_append_of_any_head? hin hrest, Text.dropWhile_append_of_any_head? hin hrest,
    hvalue]
  rfl

/-- A natural number is read up to the end of its line. -/
theorem scalar_decimalDigits {n : Nat} (h : n < 2 ^ 63) (rest : Text) :
    scalar (decimalDigits n ++ '\n' :: rest) = some (.integer n, '\n' :: rest) := by
  have hdigits : ∀ c ∈ decimalDigits n, c.isDigit = true := fun c hc =>
    isDigit_of_mem_decimalDigits hc
  have hchars : ∀ c ∈ decimalDigits n, InDecimal c := fun c hc => Or.inl (hdigits c hc)
  refine scalar_lexeme (decimalDigits_ne_nil n) hchars
    (noMoment_append hdigits rfl (by decide) (by decide)) rfl ?_
  rw [ofLexeme?_of_inDecimal hchars, integerOf?_decimalDigits h]
  rfl

/-- **A finite float is read up to the end of its line.** -/
theorem scalar_floatTextWithPoint {x : Float} {negative : Bool} {mantissa : Nat} {exponent : Int}
    (hx : Binary.ofFloat x = .finite negative mantissa exponent) (rest : Text) :
    scalar (floatTextWithPoint x ++ '\n' :: rest) = some (.float x, '\n' :: rest) := by
  have hnames := Decimal.names_pointed_fewest .up (Binary.canonical_of_ofFloat hx)
  have hread := Numeral.readFloat?_of_names hx hnames
  have hplaces := Decimal.places_pointed_ne_nil (Decimal.fewest .up mantissa exponent)
  have hexponent := Decimal.exponent_pointed (Decimal.fewest .up mantissa exponent)
  rw [Binary.floatTextWithPoint_eq hx]
  generalize (Decimal.fewest .up mantissa exponent).pointed = numeral at *
  have htext := Numeral.text_of_places hplaces hexponent
  have hchars : ∀ c ∈ signText negative ++ numeral.text, InDecimal c := fun c hc =>
    Numeral.inDecimal_of_mem hnames.regular hc
  have hmoment : NoMoment (signText negative ++ numeral.text ++ '\n' :: rest) := by
    cases negative with
    | true => exact noMoment_minus _
    | false =>
      show NoMoment (numeral.text ++ '\n' :: rest)
      rw [htext, List.append_assoc]
      exact noMoment_append hnames.regular.isDigit_whole rfl (by decide) (by decide)
  refine scalar_lexeme ?_ hchars hmoment rfl ?_
  · rw [htext]
    simp
  · rw [ofLexeme?_of_inDecimal hchars,
      integerOf?_of_places hplaces hexponent hnames.regular negative,
      floatOf?_of_places hplaces hexponent hnames.regular hread (Binary.isInf_of_ofFloat hx)]
    rfl

end Toml

end DryRun
