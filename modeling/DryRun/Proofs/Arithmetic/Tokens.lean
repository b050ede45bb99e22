import DryRun.Proofs.Arithmetic.Written
import DryRun.Proofs.Text.Pieces

/-!
# The tokens of terms

Blanks make no token, and the operators, parentheses, numerals and names of a term make one each,
where a numeral or name is followed by what may follow an operand (`Ends`). The tokens of a text are
its first one and those of what is left of the text (`list?_of_read?`).
-/

namespace DryRun

open Unicode

namespace Arithmetic

/-! ## What follows an operand -/

/-- Nothing, an operator or a closing parenthesis, behind blanks or not. -/
inductive Ends : Text → Prop
  | nil : Ends []
  | sign {c : Char} {rest : Text} (hc : c ∈ "+-*)".toList) : Ends (c :: rest)
  | blank {c : Char} {rest : Text} (hc : isBlank c = true) (h : Ends rest) : Ends (c :: rest)

namespace Ends

variable {rest : Text}

theorem blanks_append {blanks : Text} (hblanks : Text.isBlankText blanks = true) (h : Ends rest) :
    Ends (blanks ++ rest) := by
  induction blanks with
  | nil => exact h
  | cons c blanks ih =>
    rw [Text.isBlankText_iff, List.forall_mem_cons] at hblanks
    exact .blank hblanks.1 (ih (Text.isBlankText_iff.2 hblanks.2))

theorem any_head?_eq_false (h : Ends rest) (inClass : Char → Bool)
    (hsign : ("+-*)".toList.any inClass) = false)
    (hblank : (Text.blankChars.all fun c => inClass c = false) = true) :
    rest.head?.any inClass = false := by
  cases h with
  | nil => rfl
  | sign hc => exact Bool.eq_false_iff.2 (List.any_eq_false.1 hsign _ hc)
  | blank hc h => exact Text.forall_isBlank (p := fun c => inClass c = false) hblank hc

theorem any_head?_inNumber (h : Ends rest) : rest.head?.any Token.inNumber = false :=
  h.any_head?_eq_false Token.inNumber (by decide) (by decide)

theorem any_head?_inName (h : Ends rest) : rest.head?.any Token.inName = false :=
  h.any_head?_eq_false Token.inName (by decide) (by decide +kernel)

/-- No call begins. -/
theorem head?_dropWhile_ne_opening (h : Ends rest) :
    (rest.dropWhile (· == ' ')).head? ≠ some '(' := by
  induction h with
  | nil => exact nofun
  | @sign c rest hc =>
    have hne : c ≠ ' ' ∧ c ≠ '(' := by
      constructor <;> (rintro rfl; revert hc; decide)
    rw [List.dropWhile_cons_of_neg (by simpa using hne.1)]
    exact fun h => hne.2 (Option.some.inj h)
  | @blank c rest hc h ih =>
    by_cases hspace : c = ' '
    · rw [List.dropWhile_cons_of_pos (by simpa using hspace)]
      exact ih
    · rw [List.dropWhile_cons_of_neg (by simpa using hspace)]
      rintro ⟨⟩
      revert hc
      decide

end Ends

/-! ## Reading one token -/

theorem read?_sign (op : Connective) (rest : Text) :
    Token.read? (op.sign :: rest) = some (.operator op.operator, rest) := by
  cases op <;> rfl

theorem read?_opening (rest : Text) : Token.read? ('(' :: rest) = some (.opening, rest) := rfl

theorem read?_closing (rest : Text) : Token.read? (')' :: rest) = some (.closing, rest) := rfl

/-- Digits with underscores behind the first, and the number that they stand for. -/
structure IsNumeral (numeral : Text) (size : Nat) : Prop where
  head : numeral.head?.any Char.isDigit = true
  inside : ∀ c ∈ numeral, c.isDigit = true ∨ c = '_'
  value : readNatural? (numeral.filter (· != '_')) = some size

theorem isNumeral_decimalDigits (n : Nat) : IsNumeral (decimalDigits n) n where
  head := by
    obtain ⟨c, digits, hdigits⟩ := List.exists_cons_of_ne_nil (decimalDigits_ne_nil n)
    have hc : c ∈ decimalDigits n := hdigits ▸ List.mem_cons_self
    rw [hdigits]
    exact isDigit_of_mem_decimalDigits hc
  inside _ hc := Or.inl (isDigit_of_mem_decimalDigits hc)
  value := by rw [filter_decimalDigits, readNatural?_decimalDigits]

/-- The value of a numeral: an integer of 64 bits, or else a float. -/
def numeralValue (size : Nat) : Value :=
  if inWord size then .int size else .float (floatOfDecimal false size 0)

namespace IsNumeral

variable {numeral : Text} {size : Nat}

theorem number? (h : IsNumeral numeral size) :
    Token.number? numeral = some (numeralValue size) := by
  have hpoint : '.' ∉ numeral := by
    intro hmem
    rcases h.inside _ hmem with hdigit | heq
    · revert hdigit
      decide
    · cases heq
  unfold Token.number?
  dsimp only
  rw [if_neg (by simp [hpoint]), h.value]
  rfl

theorem read?_append (h : IsNumeral numeral size) {rest : Text}
    (hrest : rest.head?.any Token.inNumber = false) :
    Token.read? (numeral ++ rest) = some (.literal (numeralValue size), rest) := by
  have hinside : ∀ c ∈ numeral, Token.inNumber c = true := by
    intro c hc
    rcases h.inside c hc with hdigit | rfl
    · rw [Token.inNumber, hdigit, Bool.true_or, Bool.true_or]
    · rfl
  have hread : Token.read? (numeral ++ rest) =
      (Token.number? ((numeral ++ rest).takeWhile Token.inNumber)).map fun value =>
        (.literal value, (numeral ++ rest).dropWhile Token.inNumber) := by
    have hhead := h.head
    cases numeral with
    | nil => cases hhead
    | cons c digits =>
      have hc : c.isDigit = true := hhead
      rw [List.cons_append, Token.read?, if_pos (by rw [hc, Bool.true_or])]
  rw [hread, Text.takeWhile_append_of_any_head? hinside hrest,
    Text.dropWhile_append_of_any_head? hinside hrest, h.number?]
  rfl

end IsNumeral

theorem read?_decimalDigits_append {n : Nat} (hn : inWord n = true) {rest : Text}
    (hrest : rest.head?.any Token.inNumber = false) :
    Token.read? (decimalDigits n ++ rest) = some (.literal (.int n), rest) := by
  rw [(isNumeral_decimalDigits n).read?_append hrest, numeralValue, if_pos hn]

/-- A name as arithmetic reads it: letters, numbers and underscores behind what may start the name
of a variable. -/
def IsName (name : Text) : Prop :=
  ∃ first others, name = first :: others ∧ isNameStart first = true ∧
    ∀ c ∈ others, Token.inName c = true

theorem inName_of_isNameStart {c : Char} (h : isNameStart c = true) : Token.inName c = true := by
  rcases isAlpha_or_eq_of_isNameStart h with hletter | rfl
  · rw [Token.inName, isAlphanumeric_of_isAlphanum (isAlphanum_of_isAlpha hletter), Bool.true_or]
  · decide

theorem IsName.inName {name : Text} (h : IsName name) : ∀ c ∈ name, Token.inName c = true := by
  obtain ⟨first, others, rfl, hfirst, hothers⟩ := h
  exact List.forall_mem_cons.2 ⟨inName_of_isNameStart hfirst, hothers⟩

theorem inName_eq_false_of_isBlank {c : Char} (h : isBlank c = true) : Token.inName c = false :=
  Text.forall_isBlank (p := fun c => Token.inName c = false) (by decide +kernel) h

theorem isBlank_eq_false_of_inName {c : Char} (h : Token.inName c = true) : isBlank c = false := by
  rw [Bool.eq_false_iff]
  intro hblank
  rw [inName_eq_false_of_isBlank hblank] at h
  cases h

theorem IsName.bare {name : Text} (h : IsName name) : Text.Bare name := by
  refine .of_any_eq_false ?_ (List.any_eq_false.2 fun c hc => ?_)
  · obtain ⟨first, others, rfl, -⟩ := h
    exact List.cons_ne_nil first others
  · exact Bool.eq_false_iff.1 (isBlank_eq_false_of_inName (h.inName c hc))

theorem IsName.not_mem {name : Text} (h : IsName name) {c : Char} (hc : Token.inName c = false) :
    c ∉ name := by
  intro hmem
  rw [h.inName c hmem] at hc
  cases hc

theorem IsIdentifier.isName {name : Text} (h : IsIdentifier name) : IsName name := by
  obtain ⟨first, others, rfl, hfirst, hothers⟩ := h
  refine ⟨first, others, rfl, hfirst, fun c hc => ?_⟩
  rcases hothers c hc with hletter | rfl
  · rw [Token.inName, isAlphanumeric_of_isAlphanum hletter, Bool.true_or]
  · decide

theorem nameOrCall?_of_head? {name : Text} (hname : ∀ c ∈ name, Token.inName c = true)
    {rest : Text} (hrest : rest.head?.any Token.inName = false)
    (hopening : (rest.dropWhile (· == ' ')).head? ≠ some '(') :
    Token.nameOrCall? (name ++ rest) = some (.name name, rest) := by
  unfold Token.nameOrCall?
  dsimp only
  rw [Text.takeWhile_append_of_any_head? hname hrest,
    Text.dropWhile_append_of_any_head? hname hrest]
  split
  · rename_i after hafter
    exact absurd (by rw [hafter]; rfl) hopening
  · rfl

theorem nameOrCall?_name {name : Text} (hname : ∀ c ∈ name, Token.inName c = true) {rest : Text}
    (hrest : Ends rest) : Token.nameOrCall? (name ++ rest) = some (.name name, rest) :=
  nameOrCall?_of_head? hname hrest.any_head?_inName hrest.head?_dropWhile_ne_opening

theorem read?_cons_of_isNameStart {first : Char} (h : isNameStart first = true) (rest : Text) :
    Token.read? (first :: rest) = Token.nameOrCall? (first :: rest) := by
  have hdigit : first.isDigit = false := by
    rw [Bool.eq_false_iff]
    intro hdigit
    have hnone := isDigit_eq_false_of_isNameStart h
    rw [isDigit_of_isDigit hdigit] at hnone
    cases hnone
  have hpoint : (first == '.') = false := beq_eq_false_iff_ne.2 (ne_of_isNameStart h (by decide))
  have hquote : Quote.ofChar? first = none := Quote.ofChar?_eq_none_of (by decide) (by decide) h
  have hbegins : Token.beginsName first = true := by
    rcases isAlpha_or_eq_of_isNameStart h with hletter | rfl
    · rw [Token.beginsName, isAlphabetic_of_isAlpha hletter, Bool.true_or]
    · decide
  rw [Token.read?, hdigit, hpoint, if_neg (by simp), hquote]
  exact if_pos hbegins

theorem read?_name {name : Text} (hname : IsName name) {rest : Text} (hrest : Ends rest) :
    Token.read? (name ++ rest) = some (.name name, rest) := by
  have hread := nameOrCall?_name hname.inName hrest
  obtain ⟨first, others, rfl, hfirst, -⟩ := hname
  exact (read?_cons_of_isNameStart hfirst _).trans hread

/-! ## Token by token -/

theorem list?_nil : Token.list? [] = some [] := by rw [Token.list?.eq_def]

theorem list?_cons_of_isBlank {c : Char} (h : isBlank c = true) (rest : Text) :
    Token.list? (c :: rest) = Token.list? rest := by
  rw [Token.list?.eq_def]
  exact if_pos h

theorem list?_blanks {blanks : Text} (hblanks : Text.isBlankText blanks = true) (text : Text) :
    Token.list? (blanks ++ text) = Token.list? text := by
  induction blanks with
  | nil => rfl
  | cons c blanks ih =>
    rw [Text.isBlankText_iff, List.forall_mem_cons] at hblanks
    rw [List.cons_append, list?_cons_of_isBlank hblanks.1, ih (Text.isBlankText_iff.2 hblanks.2)]

theorem list?_of_read? {text behind : Text} {token : Token}
    (hhead : text.head?.any isBlank = false) (hread : Token.read? text = some (token, behind)) :
    Token.list? text = (Token.list? behind).map (token :: ·) := by
  cases text with
  | nil => cases hread
  | cons c rest =>
    rw [List.head?_cons, Option.any_some] at hhead
    rw [Token.list?.eq_def]
    dsimp only
    rw [if_neg (Bool.eq_false_iff.1 hhead)]
    split
    · rename_i hnone
      rw [hread] at hnone
      cases hnone
    · rename_i token' behind' hsome
      rw [hread] at hsome
      cases hsome
      rfl

theorem list?_eq_none_of_read? {text : Text} (hhead : text.head?.any isBlank = false)
    (hne : text ≠ []) (hread : Token.read? text = none) : Token.list? text = none := by
  cases text with
  | nil => exact absurd rfl hne
  | cons c rest =>
    rw [List.head?_cons, Option.any_some] at hhead
    rw [Token.list?.eq_def]
    dsimp only
    rw [if_neg (Bool.eq_false_iff.1 hhead)]
    split
    · rfl
    · rename_i token behind hsome
      rw [hread] at hsome
      cases hsome

theorem IsNumeral.bare {numeral : Text} {size : Nat} (h : IsNumeral numeral size) :
    Text.Bare numeral := by
  have hhead := h.head
  refine .of_any_eq_false ?_ (List.any_eq_false.2 fun c hc => Bool.eq_false_iff.1 ?_)
  · rintro rfl
    cases hhead
  · exact Text.isBlank_eq_false_of (p := fun c => c.isDigit = true ∨ c = '_') (by decide)
      (h.inside c hc)

theorem IsNumeral.list?_eq {numeral : Text} {size : Nat} (h : IsNumeral numeral size) :
    Token.list? numeral = some [.literal (numeralValue size)] := by
  have hread : Token.read? (numeral ++ []) = some (.literal (numeralValue size), []) :=
    h.read?_append rfl
  have hblank := h.bare.any_head?_append []
  rw [List.append_nil] at hread hblank
  rw [list?_of_read? hblank hread, list?_nil]
  rfl

theorem list?_name {name : Text} (h : IsName name) : Token.list? name = some [.name name] := by
  have hread := read?_name h .nil
  have hblank := h.bare.any_head?_append []
  rw [List.append_nil] at hread hblank
  rw [list?_of_read? hblank hread, list?_nil]
  rfl

theorem list?_sign (op : Connective) (rest : Text) :
    Token.list? (op.sign :: rest) = (Token.list? rest).map (.operator op.operator :: ·) := by
  have hblank : isBlank op.sign = false := by cases op <;> decide
  exact list?_of_read? (by rw [List.head?_cons, Option.any_some, hblank]) (read?_sign op rest)

end Arithmetic

end DryRun
