import DryRun.Expression.Form
import DryRun.Proofs.Number.Digits
import DryRun.Proofs.Text.Margins

/-!
# Recognising expressions

By what a text is told to be a literal, and by what it is told to be no string, template or call: a
text without quotes is neither string nor template, and nothing is called where a character before
the first parenthesis belongs to no name.
-/

namespace DryRun

open Unicode

namespace Quote

theorem ofChar?_char (quote : Quote) : ofChar? quote.char = some quote := by cases quote <;> rfl

theorem ne_char_of_ofChar?_eq_none {c : Char} (h : ofChar? c = none) (quote : Quote) :
    c ≠ quote.char := by
  rintro rfl
  rw [ofChar?_char] at h
  cases h

/-- No quote is among the characters of a class that has none of the two. -/
theorem ofChar?_eq_none_of {inClass : Char → Bool} (hsingle : inClass '\'' = false)
    (hdouble : inClass '"' = false) {c : Char} (h : inClass c = true) : ofChar? c = none := by
  have hne : ∀ {d : Char}, inClass d = false → c ≠ d := by
    rintro d hd rfl
    rw [h] at hd
    cases hd
  rw [ofChar?, if_neg (hne hsingle), if_neg (hne hdouble)]

/-! ## Strings -/

theorem literalIn_cons_of_ne {quote : Quote} {c : Char} (h : c ≠ quote.char) (rest : Text) :
    quote.literalIn (c :: rest) = none := by
  rw [literalIn, if_neg h]

/-- A literal ends at the first quote of its kind. -/
theorem literalIn_quoted {quote : Quote} {text : Text} (h : quote.char ∉ text) (rest : Text) :
    quote.literalIn (quote.char :: (text ++ quote.char :: rest)) = some (text, rest) := by
  have hinside : ∀ c ∈ text, (c != quote.char) = true := by
    intro c hc
    rw [bne_iff_ne]
    rintro rfl
    exact h hc
  have hend : ¬ (quote.char != quote.char) = true := by simp
  have hdrop : (text ++ quote.char :: rest).dropWhile (· != quote.char) = quote.char :: rest := by
    rw [List.dropWhile_append_of_pos hinside]
    exact List.dropWhile_cons_of_neg hend
  have htake : (text ++ quote.char :: rest).takeWhile (· != quote.char) = text := by
    rw [List.takeWhile_append_of_pos hinside, List.takeWhile_cons_of_neg (by exact hend),
      List.append_nil]
  rw [literalIn, if_pos rfl, hdrop, htake]

theorem literal_quoted {quote : Quote} {text : Text} (h : quote.char ∉ text) (rest : Text) :
    literal (quote.char :: (text ++ quote.char :: rest)) = some (text, rest) := by
  unfold literal Pattern.either
  cases quote with
  | single => rw [literalIn_quoted h]
  | double => rw [literalIn_cons_of_ne (by decide), literalIn_quoted h]

end Quote

namespace Expression

theorem stringLiteral?_quoted {quote : Quote} {text : Text} (h : quote.char ∉ text) :
    stringLiteral? (quote.char :: (text ++ [quote.char])) = some text := by
  rw [stringLiteral?, Pattern.whole?, Quote.literal_quoted h]

theorem stringLiteral?_cons_eq_none {c : Char} (h : Quote.ofChar? c = none) (rest : Text) :
    stringLiteral? (c :: rest) = none := by
  unfold stringLiteral? Pattern.whole? Quote.literal Pattern.either
  rw [Quote.literalIn_cons_of_ne (Quote.ne_char_of_ofChar?_eq_none h .single),
    Quote.literalIn_cons_of_ne (Quote.ne_char_of_ofChar?_eq_none h .double)]

theorem stringLiteral?_eq_none {text : Text} (h : ∀ c ∈ text, Quote.ofChar? c = none) :
    stringLiteral? text = none := by
  cases text with
  | nil => rfl
  | cons c rest => exact stringLiteral?_cons_eq_none (h c List.mem_cons_self) rest

/-! ## Integers -/

theorem any_head?_decimalDigits (n : Nat) : (decimalDigits n).head?.any isDigit = true := by
  obtain ⟨c, rest, hdigits⟩ := List.exists_cons_of_ne_nil (decimalDigits_ne_nil n)
  have hc : c ∈ decimalDigits n := hdigits ▸ List.mem_cons_self
  rw [hdigits]
  exact isDigit_of_isDigit (isDigit_of_mem_decimalDigits hc)

theorem all_decimalDigits (n : Nat) :
    (decimalDigits n).all (fun c => isDigit c || c == '_') = true := by
  rw [List.all_eq_true]
  intro c hc
  rw [isDigit_of_isDigit (isDigit_of_mem_decimalDigits hc), Bool.true_or]

theorem integerLiteral?_decimalDigits {n : Nat} (h : inWord n = true) :
    integerLiteral? (decimalDigits n) = some (.int n) := by
  have hsign : (decimalDigits n).head? ≠ some '-' := by
    intro hhead
    have hdigit := isDigit_of_mem_decimalDigits (List.mem_of_head? hhead)
    revert hdigit
    decide
  unfold integerLiteral?
  split
  rename_i negative numeral heq
  split at heq
  · rename_i hdigits
    rw [hdigits] at hsign
    exact absurd rfl hsign
  · cases heq
    simp [any_head?_decimalDigits, all_decimalDigits, filter_decimalDigits, h]

theorem integerLiteral?_neg_decimalDigits {n : Nat} (h : inWord (-(n : Int)) = true) :
    integerLiteral? ('-' :: decimalDigits n) = some (.int (-(n : Int))) := by
  simp [integerLiteral?, any_head?_decimalDigits, all_decimalDigits, filter_decimalDigits, h]

theorem integerLiteral?_integerText {n : Int} (h : inWord n = true) :
    integerLiteral? (integerText n) = some (.int n) := by
  by_cases hsign : n < 0
  · obtain ⟨m, rfl⟩ : ∃ m : Nat, n = -(m : Int) := ⟨n.natAbs, by omega⟩
    rw [integerText_of_neg (by omega), integerLiteral?_neg_decimalDigits h]
  · obtain ⟨m, rfl⟩ : ∃ m : Nat, n = m := ⟨n.toNat, by omega⟩
    rw [integerText_of_nonneg, integerLiteral?_decimalDigits h]

theorem integerLiteral?_neg_eq_none {rest : Text} (h : rest.head?.any isDigit = false) :
    integerLiteral? ('-' :: rest) = none := by
  simp [integerLiteral?, h]

/-- Behind its first character, an integer literal holds digits and underscores only. -/
theorem integerLiteral?_eq_none_of_mem {c d : Char} {rest : Text} (hmem : d ∈ rest)
    (hdigit : isDigit d = false) (hline : d ≠ '_') : integerLiteral? (c :: rest) = none := by
  have hall : (rest.all fun c => isDigit c || c == '_') = false := by
    rw [List.all_eq_false]
    exact ⟨d, hmem, by simp [hdigit, hline]⟩
  unfold integerLiteral?
  split
  rename_i negative numeral heq
  split at heq
  · rename_i hcons
    cases hcons
    cases heq
    rw [hall, Bool.and_false]
    rfl
  · cases heq
    rw [List.all_cons, hall, Bool.and_false, Bool.and_false]
    rfl

/-- An integer literal is made of digits and underscores, behind a sign or not. -/
theorem exists_of_integerLiteral? {text : Text} {value : Value}
    (h : integerLiteral? text = some value) :
    ∃ numeral, (text = numeral ∨ text = '-' :: numeral) ∧ numeral.head?.any isDigit = true ∧
      ∀ c ∈ numeral, isDigit c = true ∨ c = '_' := by
  unfold integerLiteral? at h
  split at h
  rename_i negative numeral heq
  obtain ⟨hshape, -⟩ := Option.ite_none_right_eq_some.1 h
  rw [Bool.and_eq_true] at hshape
  refine ⟨numeral, ?_, hshape.1, fun c hc => ?_⟩
  · split at heq
    · cases heq
      exact .inr rfl
    · cases heq
      exact .inl rfl
  · have hinside := List.all_eq_true.1 hshape.2 c hc
    rwa [Bool.or_eq_true, beq_iff_eq] at hinside

/-! ## Points and constants -/

theorem isPointed_eq_false {text : Text} (h : '.' ∉ text) : isPointed text = false := by
  unfold isPointed
  dsimp only
  split
  · rename_i places hplaces
    have hmem : '.' ∈ text.dropWhile isDigit := hplaces ▸ List.mem_cons_self
    exact absurd ((List.dropWhile_sublist _).mem hmem) h
  · rfl

theorem floatLiteral?_eq_none {text : Text} (h : '.' ∉ text) : floatLiteral? text = none := by
  unfold floatLiteral?
  dsimp only
  split
  · rename_i rest
    rw [if_neg]
    rw [isPointed_eq_false (fun hmem => h (List.mem_cons_of_mem _ hmem))]
    exact Bool.false_ne_true
  · rw [if_neg]
    rw [isPointed_eq_false h]
    exact Bool.false_ne_true

theorem isPointed_cons_eq_false {c : Char} (hdigit : isDigit c = false) (hpoint : c ≠ '.')
    (rest : Text) : isPointed (c :: rest) = false := by
  have hdrop : (c :: rest).dropWhile isDigit = c :: rest :=
    List.dropWhile_cons_of_neg (Bool.eq_false_iff.1 hdigit)
  unfold isPointed
  dsimp only
  rw [hdrop]
  split
  · rename_i hcons
    cases hcons
    exact absurd rfl hpoint
  · rfl

theorem floatLiteral?_neg_eq_none {text : Text} (h : isPointed text = false) :
    floatLiteral? ('-' :: text) = none :=
  if_neg (Bool.eq_false_iff.1 h)

theorem floatLiteral?_cons_eq_none {c : Char} {rest : Text} (hsign : c ≠ '-')
    (h : isPointed (c :: rest) = false) : floatLiteral? (c :: rest) = none := by
  unfold floatLiteral?
  dsimp only
  split
  · rename_i hcons
    cases hcons
    exact absurd rfl hsign
  · exact if_neg (Bool.eq_false_iff.1 h)

theorem constant?_eq_none {text : Text} {c : Char} (hmem : c ∈ text)
    (hc : c ∉ "TrueFalseNone".toList) : constant? text = none := by
  have hne : ∀ constant : String, constant.toList ⊆ "TrueFalseNone".toList →
      text ≠ constant.toList := by
    rintro constant hsubset rfl
    exact hc (hsubset hmem)
  rw [constant?, if_neg (hne "True" (by decide)), if_neg (hne "False" (by decide)),
    if_neg (hne "None" (by decide))]

/-! ## Lists -/

theorem listContents?_cons_eq_none {c : Char} (h : c ≠ '[') (rest : Text) :
    listContents? (c :: rest) = none := by
  have hafter : Text.after? "[" (c :: rest) = none := by
    simp [Text.after?, List.isPrefixOf?, Ne.symm h]
  rw [listContents?, hafter]
  rfl

/-! ## Templates -/

theorem template?_cons_eq_none {c : Char} (h : c ≠ 'f' ∧ c ≠ 'F') (rest : Text) :
    template? (c :: rest) = none := by
  simp [template?, h]

theorem enclosed?_cons_eq_none {c : Char} (h : Quote.ofChar? c = none) (quote : Quote)
    (rest : Text) : enclosed? quote (c :: rest) = none := by
  have hne := Quote.ne_char_of_ofChar?_eq_none h quote
  have hfirst : Pattern.charOf (· == quote.char) (c :: rest) = none := by
    simp [Pattern.charOf, hne]
  unfold enclosed?
  rw [hfirst]
  rfl

theorem template?_cons_cons_eq_none {d : Char} (h : Quote.ofChar? d = none) (c : Char)
    (rest : Text) : template? (c :: d :: rest) = none := by
  rw [template?, enclosed?_cons_eq_none h, enclosed?_cons_eq_none h]
  exact ite_self none

theorem template?_eq_none {text : Text} (h : ∀ c ∈ text, Quote.ofChar? c = none) :
    template? text = none := by
  match text with
  | [] => rfl
  | [c] => exact ite_self none
  | c :: d :: rest =>
    exact template?_cons_cons_eq_none (h d (List.mem_cons_of_mem _ List.mem_cons_self)) c rest

/-! ## Calls -/

theorem mem_trimEnd_of_not_blank {text : Text} {c : Char} (hc : c ∈ text)
    (hblank : isBlank c = false) : c ∈ Text.trimEnd text := by
  have hsplit : text.rdropWhile isBlank ++ text.rtakeWhile isBlank = text :=
    List.rdropWhile_append_rtakeWhile
  rw [← hsplit] at hc
  rcases List.mem_append.1 hc with hc | hc
  · exact hc
  · rw [List.mem_rtakeWhile_imp hc] at hblank
    cases hblank

/-- Nothing is called where what precedes the first parenthesis is empty, or holds a character that
belongs to no name. -/
theorem splitCall?_eq_none {text : Text}
    (h : ∀ before rest, Text.splitFirst? (· == '(') text = some (before, rest) →
      before = [] ∨ ∃ c ∈ before, isBlank c = false ∧ isAlphanumeric c = false ∧ c ≠ '_') :
    splitCall? text = none := by
  unfold splitCall?
  cases hsplit : Text.splitFirst? (· == '(') text with
  | none => rfl
  | some parts =>
    obtain ⟨before, rest⟩ := parts
    have hname : isCallable (Text.trimEnd before) = false := by
      rcases h before rest hsplit with rfl | ⟨c, hc, hblank, hletter, hline⟩
      · rfl
      · have hall : ((Text.trimEnd before).all fun c => isAlphanumeric c || c == '_') = false := by
          rw [List.all_eq_false]
          exact ⟨c, mem_trimEnd_of_not_blank hc hblank, by simp [hletter, hline]⟩
        rw [isCallable, hall, Bool.and_false, Bool.false_and]
    cases harguments : Text.beforeLast? ')' rest with
    | none => simp [harguments]
    | some arguments => simp [harguments, hname]

theorem splitFirst?_eq_none {separates : Char → Bool} {text : Text}
    (h : ∀ c ∈ text, separates c = false) : Text.splitFirst? separates text = none := by
  have hnil : text.dropWhile (!separates ·) = [] := by
    rw [List.dropWhile_eq_nil_iff]
    intro c hc
    rw [h c hc]
    rfl
  rw [Text.splitFirst?, hnil]

theorem eq_takeWhile_of_splitFirst? {separates : Char → Bool} {text before rest : Text}
    (h : Text.splitFirst? separates text = some (before, rest)) :
    before = text.takeWhile (!separates ·) := by
  unfold Text.splitFirst? at h
  split at h
  · cases h
  · cases h
    rfl

theorem callOf?_eq_none {functions : Functions} {text : Text} (h : splitCall? text = none) :
    callOf? functions text = none := by
  rw [callOf?, h]
  rfl

/-! ## What a form tells of a text -/

/-- By what a text has its form. -/
inductive Recognised (functions : Functions) (text : Text) : Form → Prop
  | string (contents : Text) : Recognised functions text (.literal (.str contents))
  | template {template : Text} (h : template? text = some template) :
    Recognised functions text (.template template)
  | call {form : Form} (h : callOf? functions text = some form) : Recognised functions text form
  | integer {value : Value} (h : integerLiteral? text = some value) :
    Recognised functions text (.literal value)
  | float {value : Value} (h : floatLiteral? text = some value) :
    Recognised functions text (.literal value)
  | constant {value : Value} (h : constant? text = some value) :
    Recognised functions text (.literal value)
  | list {contents : Text} (h : listContents? text = some contents) :
    Recognised functions text (.list contents)
  | arithmetic (h : text.any isOperatorSign = true) : Recognised functions text .arithmetic
  | name (h : text.any isOperatorSign = false) : Recognised functions text .name

theorem recognised_ofText (functions : Functions) (text : Text) :
    Recognised functions text (Form.ofText functions text) := by
  unfold Form.ofText
  split
  · exact .string []
  split
  · exact .string _
  split
  · exact .template ‹_›
  split
  · exact .call ‹_›
  split
  · exact .integer ‹_›
  split
  · exact .float ‹_›
  split
  · exact .constant ‹_›
  split
  · exact .list ‹_›
  split
  · exact .arithmetic ‹_›
  · exact .name (Bool.eq_false_iff.2 ‹_›)

theorem calls_of_callOf? {functions : Functions} {text : Text} {form : Form}
    (h : callOf? functions text = some form) :
    (∃ argument, form = .typeOf argument) ∨ (∃ argument, form = .lengthOf argument) ∨
      ∃ function arguments, form = .call function arguments := by
  obtain ⟨⟨name, arguments⟩, -, hform⟩ := Option.bind_eq_some_iff.1 h
  have hform : callForm? functions name arguments = some form := hform
  unfold callForm? at hform
  split at hform
  · exact .inl ⟨_, (Option.some.inj hform).symm⟩
  · split at hform
    · exact .inr (.inl ⟨_, (Option.some.inj hform).symm⟩)
    · obtain ⟨function, -, rfl⟩ := Option.map_eq_some_iff.1 hform
      exact .inr (.inr ⟨_, _, rfl⟩)

section Told

variable {functions : Functions} {text : Text}

/-- An integer among the literals is an integer literal. -/
theorem integerLiteral?_of_ofText {n : Int}
    (h : Form.ofText functions text = .literal (.int n)) :
    integerLiteral? text = some (.int n) := by
  have htold := recognised_ofText functions text
  rw [h] at htold
  cases htold with
  | call hcall =>
    obtain ⟨_, hform⟩ | ⟨_, hform⟩ | ⟨_, _, hform⟩ := calls_of_callOf? hcall <;> cases hform
  | integer hvalue => exact hvalue
  | float hvalue =>
    unfold floatLiteral? at hvalue
    obtain ⟨x, -, hx⟩ := Option.map_eq_some_iff.1 (Option.ite_none_right_eq_some.1 hvalue).2
    cases hx
  | constant hvalue =>
    unfold constant? at hvalue
    split at hvalue
    · cases hvalue
    split at hvalue
    · cases hvalue
    split at hvalue <;> cases hvalue

theorem any_isOperatorSign_of_arithmetic (h : Form.ofText functions text = .arithmetic) :
    text.any isOperatorSign = true := by
  have htold := recognised_ofText functions text
  rw [h] at htold
  cases htold with
  | call hcall =>
    obtain ⟨_, hform⟩ | ⟨_, hform⟩ | ⟨_, _, hform⟩ := calls_of_callOf? hcall <;> cases hform
  | arithmetic hsign => exact hsign

theorem any_isOperatorSign_of_name (h : Form.ofText functions text = .name) :
    text.any isOperatorSign = false := by
  have htold := recognised_ofText functions text
  rw [h] at htold
  cases htold with
  | call hcall =>
    obtain ⟨_, hform⟩ | ⟨_, hform⟩ | ⟨_, _, hform⟩ := calls_of_callOf? hcall <;> cases hform
  | name hsign => exact hsign

end Told

/-- What no other reader takes is arithmetic, where it holds an operator. -/
theorem ofText_eq_arithmetic {functions : Functions} {text : Text}
    (hsign : text.any isOperatorSign = true) (hstring : stringLiteral? text = none)
    (htemplate : template? text = none) (hcall : splitCall? text = none)
    (hinteger : integerLiteral? text = none) (hfloat : floatLiteral? text = none)
    (hlist : listContents? text = none) : Form.ofText functions text = .arithmetic := by
  obtain ⟨c, hc, hop⟩ := List.any_eq_true.1 hsign
  have hletters : "TrueFalseNone".toList.any isOperatorSign = false := by decide
  have hconstant : constant? text = none :=
    constant?_eq_none hc fun hletter => List.any_eq_false.1 hletters c hletter hop
  simp [Form.ofText, List.ne_nil_of_mem hc, hstring, htemplate, callOf?_eq_none hcall, hinteger,
    hfloat, hconstant, hlist, hsign]

/-! ## Literals and integers among the forms -/

theorem ofText_integerText (functions : Functions) {n : Int} (h : inWord n = true) :
    Form.ofText functions (integerText n) = .literal (.int n) := by
  have hquote : ∀ c ∈ integerText n, Quote.ofChar? c = none :=
    fun _ hc => forall_mem_integerText (p := fun c => Quote.ofChar? c = none) (by decide) hc
  have hparen : ∀ c ∈ integerText n, (c == '(') = false :=
    fun _ hc => forall_mem_integerText (p := fun c => (c == '(') = false) (by decide) hc
  have hcall : callOf? functions (integerText n) = none := by
    apply callOf?_eq_none
    apply splitCall?_eq_none
    intro before rest hsplit
    rw [splitFirst?_eq_none hparen] at hsplit
    cases hsplit
  simp [Form.ofText, integerText_ne_nil, stringLiteral?_eq_none hquote, template?_eq_none hquote,
    hcall, integerLiteral?_integerText h]

theorem ofText_quoted (functions : Functions) {quote : Quote} {text : Text}
    (h : quote.char ∉ text) :
    Form.ofText functions (quote.char :: (text ++ [quote.char])) = .literal (.str text) := by
  simp [Form.ofText, stringLiteral?_quoted h]

end Expression

end DryRun
