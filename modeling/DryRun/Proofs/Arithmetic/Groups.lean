import DryRun.Proofs.Arithmetic.Denotation
import DryRun.Proofs.Arithmetic.Tokens

/-!
# Groups

Arithmetic in parentheses and between operators. What ends an operand leaves the tokens in front of
it as they are (`list?_append`), so the tokens of two texts around an operator are those of both
with the operator between them (`list?_joined`). The tokens of a text in parentheses are those of
the text between an opening and a closing one, and their value is that of the text in one more level
(`evaluate_grouped`).
-/

namespace DryRun

open Unicode

/-! ## Literals and arguments -/

namespace Quote

/-- A literal that is closed is the same in front of anything. -/
theorem literalIn_append {quote : Quote} {text contents behind : Text}
    (h : quote.literalIn text = some (contents, behind)) (rest : Text) :
    quote.literalIn (text ++ rest) = some (contents, behind ++ rest) := by
  cases text with
  | nil => cases h
  | cons c text =>
    rw [literalIn] at h
    rw [List.cons_append, literalIn]
    split at h
    · rename_i hc
      rw [if_pos hc]
      split at h
      · cases h
      · rename_i last behind' hclosed
        cases h
        have hstops : text.dropWhile (· != quote.char) ≠ [] := by
          rw [hclosed]
          exact List.cons_ne_nil _ _
        rw [Text.dropWhile_append_of_dropWhile_ne_nil hstops,
          Text.takeWhile_append_of_dropWhile_ne_nil hstops, hclosed]
        rfl
    · cases h

end Quote

namespace Arithmetic

/-- The arguments of a call are the same in front of anything. -/
theorem arguments?_append {quote : Option Quote} {depth : Nat} {text inside behind : Text}
    (h : Token.arguments? quote depth text = some (inside, behind)) (rest : Text) :
    Token.arguments? quote depth (text ++ rest) = some (inside, behind ++ rest) := by
  induction text generalizing quote depth inside with
  | nil => cases h
  | cons c text ih =>
    have step : ∀ {quote depth} {f : Text → Text},
        (Token.arguments? quote depth text).map (fun parts => (f parts.1, parts.2)) =
          some (inside, behind) →
        (Token.arguments? quote depth (text ++ rest)).map (fun parts => (f parts.1, parts.2)) =
          some (inside, behind ++ rest) := by
      intro quote depth f h
      obtain ⟨⟨inside', behind'⟩, h', heq⟩ := Option.map_eq_some_iff.1 h
      cases heq
      rw [ih h']
      rfl
    rw [List.cons_append]
    unfold Token.arguments? at h ⊢
    split at h
    · rename_i hinside
      rw [if_pos hinside]
      exact step h
    · rename_i hinside
      rw [if_neg hinside]
      split at h
      · rename_i hopening
        rw [if_pos hopening]
        exact step h
      · rename_i hclosing
        rw [if_neg hclosing]
        cases depth with
        | zero =>
          cases h
          rfl
        | succ depth => exact step h

/-! ## Tokens -/

theorem Ends.head?_dropWhile_append_ne_opening {text rest : Text} (hrest : Ends rest)
    (h : (text.dropWhile (· == ' ')).head? ≠ some '(') :
    ((text ++ rest).dropWhile (· == ' ')).head? ≠ some '(' := by
  induction text with
  | nil => exact hrest.head?_dropWhile_ne_opening
  | cons c text ih =>
    rw [List.dropWhile_cons] at h
    rw [List.cons_append, List.dropWhile_cons]
    split at h
    · rename_i hspace
      rw [if_pos hspace]
      exact ih h
    · rename_i hspace
      rw [if_neg hspace]
      exact h

theorem nameOrCall?_append {text behind rest : Text} {token : Token}
    (h : Token.nameOrCall? text = some (token, behind)) (hrest : Ends rest) :
    Token.nameOrCall? (text ++ rest) = some (token, behind ++ rest) := by
  have hstop := hrest.any_head?_inName
  unfold Token.nameOrCall? at h ⊢
  dsimp only at h ⊢
  rw [Text.takeWhile_append_stop hstop, Text.dropWhile_append_stop hstop]
  split at h
  · rename_i after hafter
    obtain ⟨⟨inside, behind'⟩, harguments, heq⟩ := Option.map_eq_some_iff.1 h
    cases heq
    have hstops : (text.dropWhile Token.inName).dropWhile (· == ' ') ≠ [] := by
      rw [hafter]
      exact List.cons_ne_nil _ _
    rw [Text.dropWhile_append_of_dropWhile_ne_nil hstops,
      Text.takeWhile_append_of_dropWhile_ne_nil hstops, hafter, List.cons_append]
    show (Token.arguments? none 0 (after ++ rest)).map _ = _
    rw [arguments?_append harguments]
    rfl
  · rename_i hname
    cases h
    have hplain : ((text.dropWhile Token.inName).dropWhile (· == ' ')).head? ≠ some '(' := by
      intro hhead
      obtain ⟨after, hafter⟩ := List.head?_eq_some_iff.1 hhead
      exact hname after hafter
    split
    · rename_i after hafter
      exact absurd (by rw [hafter]; rfl) (hrest.head?_dropWhile_append_ne_opening hplain)
    · rfl

/-- A token is the same in front of what ends an operand. -/
theorem read?_append {text behind rest : Text} {token : Token}
    (h : Token.read? text = some (token, behind)) (hrest : Ends rest) :
    Token.read? (text ++ rest) = some (token, behind ++ rest) := by
  cases text with
  | nil => cases h
  | cons c text =>
    have hdigit : (text ++ rest).head?.any Char.isDigit = text.head?.any Char.isDigit := by
      cases text with
      | nil => exact hrest.any_head?_eq_false Char.isDigit (by decide) (by decide)
      | cons d text => rfl
    have hstop := hrest.any_head?_inNumber
    rw [Token.read?] at h
    rw [List.cons_append, Token.read?, hdigit, ← List.cons_append,
      Text.takeWhile_append_stop hstop, Text.dropWhile_append_stop hstop]
    split at h
    · rename_i hnumber
      rw [if_pos hnumber]
      obtain ⟨value, hvalue, heq⟩ := Option.map_eq_some_iff.1 h
      cases heq
      rw [hvalue]
      rfl
    · rename_i hnumber
      rw [if_neg hnumber]
      split at h
      · rename_i quote hquote
        obtain ⟨⟨contents, behind'⟩, hliteral, heq⟩ := Option.map_eq_some_iff.1 h
        cases heq
        rw [Quote.literalIn_append hliteral]
        rfl
      · split at h
        · rename_i hname
          rw [if_pos hname]
          exact nameOrCall?_append h hrest
        · rename_i hname
          rw [if_neg hname]
          split at h
          · cases h
            rfl
          · split at h
            · rename_i hopening
              cases h
              rw [if_pos hopening]
            · rename_i hopening
              rw [if_neg hopening]
              split at h
              · rename_i hclosing
                cases h
                rw [if_pos hclosing]
              · cases h

/-- What ends an operand leaves the tokens in front of it as they are. -/
theorem list?_append {text rest : Text} {tokens : List Token} (h : Token.list? text = some tokens)
    (hrest : Ends rest) : Token.list? (text ++ rest) = (Token.list? rest).map (tokens ++ ·) := by
  fun_induction Token.list? text generalizing tokens with
  | case1 =>
    cases h
    exact Option.map_id'.symm
  | case2 c text hblank ih =>
    rw [List.cons_append, list?_cons_of_isBlank hblank]
    exact ih h
  | case3 c text hblank hread => cases h
  | case4 c text hblank token behind hread ih =>
    obtain ⟨tokens', htokens, rfl⟩ := Option.map_eq_some_iff.1 h
    have hhead : ((c :: text) ++ rest).head?.any isBlank = false := Bool.eq_false_iff.2 hblank
    rw [list?_of_read? hhead (read?_append hread hrest), ih htokens, Option.map_map]
    rfl

/-- Blanks around a text make no tokens. -/
theorem list?_surrounded {text before behind : Text} {tokens : List Token}
    (h : Token.list? text = some tokens) (hbefore : Text.isBlankText before = true)
    (hbehind : Text.isBlankText behind = true) :
    Token.list? (before ++ (text ++ behind)) = some tokens := by
  have hends : Ends behind := by
    have hblanks := Ends.nil.blanks_append hbehind
    rwa [List.append_nil] at hblanks
  have hnone : Token.list? behind = some [] := by
    have hblanks := list?_blanks hbehind []
    rwa [List.append_nil, list?_nil] at hblanks
  rw [list?_blanks hbefore, list?_append h hends, hnone, Option.map_some, List.append_nil]

/-- The tokens of two texts with an operator between them. -/
theorem list?_joined (op : Connective) {text text' before behind : Text}
    {tokens tokens' : List Token} (h : Token.list? text = some tokens)
    (h' : Token.list? text' = some tokens') (hbefore : Text.isBlankText before = true)
    (hbehind : Text.isBlankText behind = true) :
    Token.list? (text ++ ((before ++ op.sign :: behind) ++ text')) =
      some (tokens ++ .operator op.operator :: tokens') := by
  have hends : Ends (before ++ op.sign :: (behind ++ text')) :=
    .blanks_append hbefore (.sign (by cases op <;> decide))
  rw [List.append_assoc, List.cons_append, list?_append h hends, list?_blanks hbefore, list?_sign,
    list?_blanks hbehind, h']
  rfl

theorem list?_negated {text : Text} {tokens : List Token} (h : Token.list? text = some tokens) :
    Token.list? ('-' :: text) = some (signToken true :: tokens) := by
  show Token.list? (Connective.minus.sign :: text) = _
  rw [list?_sign, h]
  rfl

/-- The tokens of a text with margins are those of the text without. -/
theorem list?_of_trim {text : Text} {tokens : List Token}
    (h : Token.list? (Text.trim text) = some tokens) : Token.list? text = some tokens := by
  obtain ⟨before, behind, hbefore, hbehind, htext⟩ := Text.exists_blanks_trim text
  rw [htext]
  exact list?_surrounded h hbefore hbehind

/-- The tokens of a text in parentheses. -/
theorem list?_grouped {text : Text} {tokens : List Token} (h : Token.list? text = some tokens) :
    Token.list? ('(' :: (text ++ [')'])) = some (.opening :: (tokens ++ [.closing])) := by
  have hclosing : Token.list? [')'] = some [.closing] := by
    rw [list?_of_read? rfl (read?_closing []), list?_nil]
    rfl
  rw [list?_of_read? rfl (read?_opening _), list?_append h (.sign (by decide)), hclosing]
  rfl

/-! ## Values -/

theorem evaluate_eq_some_iff {scope : Scope} {text : Text} {value : Value} :
    evaluate scope text = .ok (some value) ↔
      ∃ tokens, Token.list? text = some tokens ∧ Denotes scope scope.room .sum tokens value := by
  rw [evaluate]
  cases htokens : Token.list? text with
  | none =>
    constructor
    · intro h
      cases h
    · rintro ⟨tokens, htokens, -⟩
      cases htokens
  | some tokens =>
    dsimp only
    constructor
    · intro h
      refine ⟨tokens, rfl, run_eq_ok_iff.1 ?_⟩
      split at h
      · rename_i value' hrun
        cases h
        exact hrun
      · cases h
      · cases h
    · rintro ⟨tokens', htokens', h⟩
      cases htokens'
      rw [run_eq_ok_iff.2 h]

/-- Parentheses around arithmetic keep its value, in one more level of room. -/
theorem evaluate_grouped {scope scope' : Scope} {text : Text} {value : Value}
    (h : evaluate scope (Text.trim text) = .ok (some value)) (hroom : scope'.room = scope.room + 1)
    (hnames : ∀ name, scope'.valueOf? name = scope.valueOf? name)
    (hcalls : ∀ room ≤ scope.room, ∀ text, scope'.call room text = scope.call room text) :
    evaluate scope' ('(' :: (text ++ [')'])) = .ok (some value) := by
  obtain ⟨tokens, htokens, hvalue⟩ := evaluate_eq_some_iff.1 h
  refine evaluate_eq_some_iff.2 ⟨_, list?_grouped (list?_of_trim htokens), ?_⟩
  rw [hroom]
  exact .sum (.product (.grouped (hvalue.of_agree hnames hcalls)))

end Arithmetic

end DryRun
