import DryRun.Arithmetic.Operator
import DryRun.Text.Quote

/-!
# Tokens of arithmetic

Arithmetic expressions as tokens: literals, names, calls with their arguments, operators and
parentheses. A text that holds anything else has no tokens.
-/

namespace DryRun

open Unicode

/-- A token of an arithmetic expression. -/
inductive Token where
  | literal (value : Value)
  | name (name : Text)
  /-- A call with its parentheses, as it is written. -/
  | call (text : Text)
  | operator (op : Operator)
  | opening
  | closing

namespace Token

/-- The characters of numbers. -/
def inNumber (c : Char) : Bool := c.isDigit || c == '.' || c == '_'

/-- The characters of names. -/
def inName (c : Char) : Bool := isAlphanumeric c || c == '_'

/-- What may begin a name. -/
def beginsName (c : Char) : Bool := isAlphabetic c || c == '_'

/-- The value of digits with underscores and points between them, if it is one number. -/
def number? (text : Text) : Option Value :=
  let digits := text.filter (· != '_')
  if digits.contains '.' then (readFloat? digits).map .float
  else
    (readNatural? digits).map fun (n : Nat) =>
      if inWord n then .int n else .float (floatOfDecimal false n 0)

/-- The arguments of a call up to the parenthesis that closes it, and what follows. -/
def arguments? (quote : Option Quote) (depth : Nat) : Text → Option (Text × Text)
  | [] => none
  | c :: rest =>
    if quote.isSome || (c != '(' && c != ')') then
      (arguments? (Quote.openAfter quote c) depth rest).map fun (inside, behind) =>
        (c :: inside, behind)
    else if c = '(' then
      (arguments? none (depth + 1) rest).map fun (inside, behind) => (c :: inside, behind)
    else
      match depth with
      | 0 => some ([c], rest)
      | depth + 1 =>
        (arguments? none depth rest).map fun (inside, behind) => (c :: inside, behind)

/-- A name, or a call if a parenthesis follows, behind spaces or not. -/
def nameOrCall? (text : Text) : Option (Token × Text) :=
  let name := text.takeWhile inName
  let behind := text.dropWhile inName
  match behind.dropWhile (· == ' ') with
  | '(' :: rest =>
    (arguments? none 0 rest).map fun (inside, behind') =>
      (call (name ++ behind.takeWhile (· == ' ') ++ '(' :: inside), behind')
  | _ => some (Token.name name, behind)

/-- The token that a text begins with, at a character that is not blank, and what follows it. -/
def read? : Text → Option (Token × Text)
  | [] => none
  | c :: rest =>
    if c.isDigit || (c == '.' && rest.head?.any Char.isDigit) then
      (number? ((c :: rest).takeWhile inNumber)).map fun value =>
        (literal value, (c :: rest).dropWhile inNumber)
    else
      match Quote.ofChar? c with
      | some quote =>
        (Quote.literalIn quote (c :: rest)).map fun (contents, behind) =>
          (literal (.str contents), behind)
      | none =>
        if beginsName c then nameOrCall? (c :: rest)
        else
          match Operator.ofChar? c with
          | some op => some (operator op, rest)
          | none =>
            if c = '(' then some (opening, rest)
            else if c = ')' then some (closing, rest)
            else none

/-! ## What is left gets shorter -/

theorem length_arguments? {quote : Option Quote} {depth : Nat} {text inside behind : Text}
    (h : arguments? quote depth text = some (inside, behind)) : behind.length < text.length := by
  induction text generalizing quote depth inside with
  | nil => simp [arguments?] at h
  | cons c rest ih =>
    have step : ∀ {quote depth} {f : Text → Text},
        (arguments? quote depth rest).map (fun (inside, behind) => (f inside, behind)) =
          some (inside, behind) → behind.length < (c :: rest).length := by
      intro quote depth f h
      obtain ⟨⟨inside', behind'⟩, h', heq⟩ := Option.map_eq_some_iff.1 h
      cases heq
      exact Nat.lt_succ_of_lt (ih h')
    unfold arguments? at h
    split at h
    · exact step h
    · split at h
      · exact step h
      · split at h
        · cases h
          simp
        · exact step h

theorem length_dropWhile_lt {inClass : Char → Bool} {c : Char} {rest : Text}
    (h : inClass c = true) : ((c :: rest).dropWhile inClass).length < (c :: rest).length := by
  rw [List.dropWhile_cons_of_pos h]
  exact Nat.lt_succ_of_le (Text.length_dropWhile_le ..)

theorem length_nameOrCall? {c : Char} {rest behind : Text} {token : Token}
    (hc : inName c = true) (h : nameOrCall? (c :: rest) = some (token, behind)) :
    behind.length < (c :: rest).length := by
  have hle : ((c :: rest).dropWhile inName).length < (c :: rest).length := length_dropWhile_lt hc
  rw [nameOrCall?] at h
  split at h
  · rename_i after heq
    obtain ⟨⟨inside, behind'⟩, h', heq'⟩ := Option.map_eq_some_iff.1 h
    cases heq'
    have h₁ := length_arguments? h'
    have h₂ := Text.length_dropWhile_le (· == ' ') ((c :: rest).dropWhile inName)
    simp only [heq, List.length_cons] at h₂ hle ⊢
    omega
  · cases h
    exact hle

/-- A token takes at least one character. -/
theorem length_read? {text behind : Text} {token : Token}
    (h : read? text = some (token, behind)) : behind.length < text.length := by
  cases text with
  | nil => simp [read?] at h
  | cons c rest =>
    rw [read?] at h
    split at h
    · rename_i hnumber
      obtain ⟨value, _, heq⟩ := Option.map_eq_some_iff.1 h
      cases heq
      exact length_dropWhile_lt (by
        simp only [Bool.or_eq_true, Bool.and_eq_true, inNumber] at hnumber ⊢
        grind)
    · split at h
      · rename_i quote _
        obtain ⟨⟨contents, behind'⟩, h', heq⟩ := Option.map_eq_some_iff.1 h
        cases heq
        exact Quote.length_literalIn h'
      · split at h
        · rename_i hname
          refine length_nameOrCall? ?_ h
          simp only [beginsName, inName, Bool.or_eq_true] at hname ⊢
          exact hname.imp_left Unicode.isAlphanumeric_of_isAlphabetic
        · split at h
          · cases h
            simp
          · split at h
            · cases h
              simp
            · split at h
              · cases h
                simp
              · simp at h

/-! ## Whole texts -/

/-- The tokens of a text, if it has any number of them and nothing else but blanks. -/
def list? (text : Text) : Option (List Token) :=
  match text with
  | [] => some []
  | c :: rest =>
    if isBlank c then list? rest
    else
      match _h : read? (c :: rest) with
      | none => none
      | some (token, behind) => (list? behind).map (token :: ·)
  termination_by text.length
  decreasing_by
    · simp
    · exact length_read? _h

end Token

end DryRun
