import DryRun.Json.Relaxed.Record
import DryRun.Proofs.Json.Tokens
import DryRun.Proofs.Number.Precision

/-!
# Relaxed JSON as it is written

Relaxed JSON reads what is written (`readRelaxed?_pretty`), and the numbers of it: floats as they
are, natural numbers cut to 53 bits.
-/

namespace DryRun

namespace Json

/-! ## Blanks -/

/-- Between tokens without comments only blanks are left out. -/
theorem gap_eq {text : Text} (h : (text.dropWhile isGap).head? ≠ some '/') :
    gap text = some ((), text.dropWhile isGap) := by
  have hend := Text.any_head?_dropWhile isGap text
  have hslash : ∀ behind, text.dropWhile isGap ≠ '/' :: behind := by
    intro behind heq
    rw [heq] at h
    exact h rfl
  have hparts := List.takeWhile_append_dropWhile (p := isGap) (l := text)
  have hblanks : ∀ c ∈ text.takeWhile isGap, isGap c = true := fun _ => List.mem_takeWhile_imp
  generalize text.takeWhile isGap = blanks at *
  generalize text.dropWhile isGap = rest at *
  subst hparts
  have hnone : Pattern.either (do let _ ← Pattern.run1 isGap)
      (Pattern.either lineComment blockComment) rest = none := by
    have hline : lineComment rest = none :=
      Pattern.bind_of_none (Pattern.word_eq_none "//" fun behind => hslash _) _
    have hblock : blockComment rest = none :=
      Pattern.bind_of_none (Pattern.word_eq_none "/*" fun behind => hslash _) _
    rw [Pattern.either_of_none (Pattern.bind_of_none (Pattern.run1_of_any_head? hend) _),
      Pattern.either_of_none hline]
    exact hblock
  unfold gap
  by_cases hne : blanks = []
  · rw [hne, List.nil_append, Pattern.bind_of_some (Pattern.many_of_none hnone)]
    rfl
  · have hrun := Pattern.run1_of_append hne hblanks hend
    have honce : Pattern.either (do let _ ← Pattern.run1 isGap)
        (Pattern.either lineComment blockComment) (blanks ++ rest) = some ((), rest) :=
      Pattern.either_of_some (Pattern.bind_of_some hrun _) _
    rw [Pattern.bind_of_some
      (Pattern.many_of_once honce (List.append_ne_nil_of_left_ne_nil hne _) hnone)]
    rfl

theorem gap_cons {c : Char} (hc : (isGap c || c == '/') = false) (text : Text) :
    gap (c :: text) = some ((), c :: text) := by
  rw [Bool.or_eq_false_iff] at hc
  have hdrop : (c :: text).dropWhile isGap = c :: text := Text.dropWhile_of_any_head? hc.1
  have hslash : ((c :: text).dropWhile isGap).head? ≠ some '/' := by
    rw [hdrop]
    intro heq
    rw [Option.some.inj heq] at hc
    cases hc.2
  rw [gap_eq hslash, hdrop]

theorem readRelaxed?_eq {text rest : Text} (h : gap (joinBreaks text) = some ((), rest)) :
    readRelaxed? text =
      (Pattern.readAll (relaxedToken <* gap) rest).bind (assemble relaxedDialect) := by
  unfold readRelaxed?
  rw [h]
  rfl

/-! ## Tokens -/

/-- What relaxed JSON is read with. -/
def relaxedLexis : Lexis where
  token := relaxedToken
  gap := gap
  isBlank := isGap
  dialect := relaxedDialect

theorem relaxedConstant?_of_constant? {name : Text} {value : Json}
    (h : constant? name = some value) : relaxedConstant? name = some value := by
  unfold relaxedConstant?
  rw [if_neg, h]
  rintro (rfl | rfl)
  · cases h
  · cases h

/-- Relaxed JSON reads what is written, as long as no string or key holds U+2028 or U+2029. -/
theorem lawful_relaxedLexis : relaxedLexis.Lawful isPlain where
  isBlank_space := rfl
  isBlank_feed := rfl
  gap_eq := gap_eq
  mark {c token} rest h := by
    refine ⟨?_, forall_mark (p := fun c => (!(isGap c || c == '/')) = true) rfl h⟩
    have hquote : ¬ (c = '"' ∨ c = '\'') := forall_mark (p := fun c => ¬ (c = '"' ∨ c = '\'')) rfl h
    show relaxedToken (c :: rest) = _
    rw [relaxedToken, if_neg hquote, h]
  quote rest h := ⟨relaxedToken_quote h rest, rfl⟩
  numeral {numeral rest} negative h hrest := by
    refine ⟨relaxedToken_numeral h negative hrest, ?_⟩
    obtain ⟨c, others, htext, hc⟩ := exists_cons_numeral h negative
    rw [htext]
    exact forall_first (p := fun c => (!(isGap c || c == '/')) = true) (by decide) (by decide) hc
  constant {name rest value} h hrest := by
    obtain ⟨hne, halpha⟩ := isAlpha_of_constant? h
    refine ⟨.word name (some name), ⟨relaxedToken_word hne halpha hrest, ?_⟩, ?_⟩
    · rcases eq_of_constant? h with rfl | rfl | rfl
      all_goals rfl
    · intro closable stack
      show (relaxedConstant? name).map _ = _
      rw [relaxedConstant?_of_constant? h]
      rfl

/-! ## Line breaks -/

theorem joinBreaks_eq_self {text : Text} (h : '\r' ∉ text) : joinBreaks text = text := by
  induction text with
  | nil => rfl
  | cons c text ih =>
    rw [List.mem_cons, not_or] at h
    unfold joinBreaks
    split
    · contradiction
    · rename_i heq
      injection heq with hc _
      exact absurd hc.symm h.1
    · rename_i heq
      injection heq with hc htext
      rw [← hc, ← htext, ih h.2]

theorem return_not_mem_escapeChar (c : Char) : '\r' ∉ escapeChar c := by
  unfold escapeChar
  split
  any_goals decide
  rename_i hreturn _
  split
  · rename_i hcontrol
    unfold unicodeEscape
    generalize c.toNat = n at *
    interval_cases n <;> decide
  · rw [List.mem_singleton]
    exact fun heq => hreturn heq.symm

theorem return_not_mem_quote (text : Text) : '\r' ∉ quote text := by
  unfold quote
  simp [return_not_mem_escapeChar]

theorem return_not_mem_margin (depth : Nat) : '\r' ∉ margin depth := by
  intro hmem
  exact absurd (List.eq_of_mem_replicate hmem) (by decide)

theorem return_not_mem_block {depth : Nat} {opener closer : Char} {parts : List Text}
    (hopener : opener ≠ '\r') (hcloser : closer ≠ '\r') (h : ∀ part ∈ parts, '\r' ∉ part) :
    '\r' ∉ block depth opener closer parts := by
  have hjoin : '\r' ∉ Text.join [',', '\n'] (parts.map (margin (depth + 1) ++ ·)) := by
    intro hmem
    rcases Text.mem_join hmem with hseparator | ⟨text, htext, hmem⟩
    · exact absurd hseparator (by decide)
    · obtain ⟨part, hpart, rfl⟩ := List.mem_map.1 htext
      rcases List.mem_append.1 hmem with hmargin | hmem
      · exact return_not_mem_margin _ hmargin
      · exact h part hpart hmem
  unfold block
  split
  · simp [hopener.symm, hcloser.symm]
  · simp [hopener.symm, hcloser.symm, hjoin, return_not_mem_margin]

/-- What is written holds no carriage return. -/
theorem Written.return_not_mem_layout {json : Json} {isPlain : Char → Bool}
    (h : json.Written isPlain) (depth : Nat) : '\r' ∉ json.layout depth := by
  induction h generalizing depth with
  | null =>
    rw [layout]
    decide
  | bool b =>
    cases b with
    | true =>
      rw [layout]
      decide
    | false =>
      rw [layout]
      decide
  | @number negative numeral h =>
    rw [layout]
    intro hmem
    exact forall_inDecimal (p := (· ≠ '\r')) (by decide) (by decide)
      (Numeral.inDecimal_of_mem h hmem) rfl
  | @string text h =>
    rw [layout]
    exact return_not_mem_quote text
  | @array items h ih =>
    rw [layout]
    refine return_not_mem_block (by decide) (by decide) fun part hpart => ?_
    obtain ⟨item, hitem, rfl⟩ := List.mem_map.1 hpart
    exact ih item hitem (depth + 1)
  | @object members hkeys h ih =>
    rw [layout]
    refine return_not_mem_block (by decide) (by decide) fun part hpart => ?_
    obtain ⟨member, hmember, rfl⟩ := List.mem_map.1 hpart
    have hvalue := ih member hmember (depth + 1)
    simp [return_not_mem_quote, hvalue]

/-- **What is written is read back.** -/
theorem readRelaxed?_pretty {json : Json} (h : json.Written isPlain) :
    readRelaxed? json.pretty = some json := by
  have hbreaks : joinBreaks json.pretty = json.pretty :=
    joinBreaks_eq_self (h.return_not_mem_layout 0)
  have hread := Lexis.read?_pretty lawful_relaxedLexis h (Or.inl rfl)
  rw [List.append_nil] at hread
  show relaxedLexis.read? (joinBreaks json.pretty) = _
  rw [hbreaks]
  exact hread

/-! ## Numbers -/

/-- A finite float is a number whose lexeme is a numeral that it is the nearest float to. -/
theorem exists_numeral_of_ofFloat {x : Float} {negative : Bool} {mantissa : Nat} {exponent : Int}
    (hx : Binary.ofFloat x = .finite negative mantissa exponent) :
    ∃ numeral : Numeral, numeral.Names mantissa exponent ∧
      ofFloat x = number (signText negative ++ numeral.text) := by
  have hcanonical := Binary.canonical_of_ofFloat hx
  unfold ofFloat
  rw [hx]
  show ∃ numeral : Numeral, numeral.Names mantissa exponent ∧
    (let shortest := Decimal.fewest .even mantissa exponent
    number (signText negative ++
      if isPositional shortest.leadingExponent then
        shortest.positional ++ (if 0 ≤ shortest.exponent then ['.', '0'] else [])
      else shortest.scientific)) = number (signText negative ++ numeral.text)
  dsimp only
  split
  · exact ⟨_, Decimal.names_pointed_fewest .even hcanonical, by rw [Decimal.text_pointed]⟩
  · rename_i hplaces
    have hpos : 0 < mantissa := by
      refine Nat.pos_of_ne_zero fun hzero => hplaces ?_
      rw [hzero, Decimal.fewest, if_pos rfl]
      decide
    exact ⟨_, Decimal.names_normalized_fewest .even hcanonical hpos,
      by rw [Decimal.text_normalized]⟩

theorem written_ofFloat {x : Float} {negative : Bool} {mantissa : Nat} {exponent : Int}
    (hx : Binary.ofFloat x = .finite negative mantissa exponent) : (ofFloat x).Written isPlain := by
  obtain ⟨numeral, hnames, hnumber⟩ := exists_numeral_of_ofFloat hx
  rw [hnumber]
  exact .number negative hnames.regular

/-- A decimal lexeme has the finite float that it is read as. -/
theorem relaxedFloatOf?_of_inDecimal {lexeme : Text} {x : Float}
    (hchars : ∀ c ∈ lexeme, InDecimal c) (hread : readFloat? lexeme = some x)
    (hfinite : x.isFinite = true) : relaxedFloatOf? lexeme = some x := by
  have hname : isNamed lexeme = false := by
    unfold isNamed
    rw [List.any_eq_false]
    intro name hname heq
    rw [beq_iff_eq.1 heq] at hchars
    have hcapital : ∀ name ∈ ["Infinity", "-Infinity", "NaN", "-NaN"],
        'I' ∈ name.toList ∨ 'N' ∈ name.toList := by decide
    rcases hcapital name hname with hcapital | hcapital
    · exact absurd (hchars _ hcapital) (by unfold InDecimal; decide)
    · exact absurd (hchars _ hcapital) (by unfold InDecimal; decide)
  have hhexadecimal : hexDigits? lexeme = none := by
    unfold hexDigits?
    split
    · exact absurd (hchars 'x' (by simp)) (by unfold InDecimal; decide)
    · exact absurd (hchars 'X' (by simp)) (by unfold InDecimal; decide)
    · rfl
  unfold relaxedFloatOf?
  rw [hname, hhexadecimal, hread]
  exact Option.filter_eq_some_iff.2 ⟨rfl, hfinite⟩

theorem relaxedFloat?_ofFloat {x : Float} {negative : Bool} {mantissa : Nat} {exponent : Int}
    (hx : Binary.ofFloat x = .finite negative mantissa exponent) :
    (ofFloat x).relaxedFloat? = some x := by
  obtain ⟨numeral, hnames, hnumber⟩ := exists_numeral_of_ofFloat hx
  rw [hnumber]
  exact relaxedFloatOf?_of_inDecimal (fun c hc => Numeral.inDecimal_of_mem hnames.regular hc)
    (Numeral.readFloat?_of_names hx hnames) (Binary.isFinite_of_ofFloat hx)

/-- A natural number is cut to 53 bits when it is read. -/
theorem relaxedWord?_ofNat {n : Nat} (h : n ≤ wordCap) :
    (ofNat n).relaxedWord? = some (min (toPrecision n) wordCap) := by
  obtain ⟨mantissa, exponent, hx, -⟩ := exists_ofFloat_floatOfDecimal h
  have hread : (ofNat n).relaxedFloat? = some (floatOfDecimal false n 0) :=
    relaxedFloatOf?_of_inDecimal (fun c hc => Or.inl (isDigit_of_mem_decimalDigits hc))
      (Numeral.readFloat?_decimalDigits n) (Binary.isFinite_of_ofFloat hx)
  unfold relaxedWord?
  rw [hread, Option.map_some, wordOfFloat_floatOfDecimal h]

end Json

end DryRun
