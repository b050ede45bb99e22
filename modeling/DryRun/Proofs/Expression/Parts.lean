import DryRun.Arithmetic.Token
import DryRun.Expression.Form
import DryRun.Expression.Template
import DryRun.Proofs.Text.Parts

/-!
# Parts of expressions

Whatever an expression is taken apart into stands in it: its items, the name and the arguments of a
call, what is between the braces of a template, and the calls among the operands of arithmetic.
-/

namespace DryRun

open Text

namespace Expression

/-! ## Items and calls -/

theorem cut_piecesFrom (quote : Option Quote) (depth : Int) (text : Text) :
    Cut text (piecesFrom quote depth text) := by
  induction text generalizing quote depth with
  | nil => exact .nil
  | cons c rest ih =>
    unfold piecesFrom
    split
    · exact (ih _ _).grow c
    · split
      · exact (ih _ _).separate c
      · exact (ih _ _).grow c

theorem isInfix_of_mem_splitItems {text item : Text} (h : item ∈ splitItems text) :
    item <:+: text := by
  obtain ⟨piece, hpiece, rfl⟩ := List.mem_map.1 (List.mem_of_mem_filter h)
  exact (isInfix_trim piece).trans ((cut_piecesFrom none 0 text).isInfix piece hpiece)

theorem isInfix_of_splitCall? {text name arguments : Text}
    (h : splitCall? text = some (name, arguments)) : name <:+: text ∧ arguments <:+: text := by
  obtain ⟨⟨before, rest⟩, hsplit, hrest⟩ := Option.bind_eq_some_iff.1 h
  obtain ⟨inside, hinside, hcall⟩ := Option.bind_eq_some_iff.1 hrest
  obtain ⟨c, rfl⟩ := exists_of_splitFirst? hsplit
  obtain rfl := eq_append_of_beforeLast? hinside
  split at hcall
  · cases hcall
    constructor
    · exact (isPrefix_trimEnd before).isInfix.trans (List.prefix_append _ _).isInfix
    · exact ⟨before ++ [c], [')'], by simp⟩
  · cases hcall

theorem isInfix_of_listContents? {text contents : Text} (h : listContents? text = some contents) :
    contents <:+: text := by
  obtain ⟨rest, hrest, hcontents⟩ := Option.bind_eq_some_iff.1 h
  obtain ⟨inside, hinside, hlist⟩ := Option.bind_eq_some_iff.1 hcontents
  obtain rfl := eq_append_of_after? hrest
  obtain rfl := eq_append_of_beforeLast? hinside
  split at hlist
  · cases hlist
    exact List.infix_append' _ _ _
  · cases hlist

/-! ## Formatted literals -/

theorem isInfix_of_enclosed? {quote : Quote} {text contents : Text}
    (h : enclosed? quote text = some contents) : contents <:+: text := by
  obtain ⟨⟨c, rest⟩, hchar, hrest⟩ := Option.bind_eq_some_iff.1 h
  obtain ⟨inside, hinside, hcontents⟩ := Option.bind_eq_some_iff.1 hrest
  obtain rfl := eq_cons_of_charOf hchar
  obtain rfl := eq_append_of_beforeLast? hinside
  split at hcontents
  · cases hcontents
  · cases hcontents
    exact List.infix_cons (List.prefix_append _ _).isInfix

theorem isInfix_of_template? {text template : Text} (h : template? text = some template) :
    template <:+: text := by
  unfold template? at h
  split at h
  · split at h
    · rcases Option.or_eq_some_iff.1 h with hdouble | ⟨-, hsingle⟩
      · exact List.infix_cons (isInfix_of_enclosed? hdouble)
      · exact List.infix_cons (isInfix_of_enclosed? hsingle)
    · cases h
  · cases h

end Expression

namespace Template

theorem placeholder_not_mem_plain (inside text : Text) : .placeholder inside ∉ plain text := by
  intro h
  obtain ⟨c, -, hpart⟩ := List.mem_map.1 h
  cases hpart

theorem isInfix_of_mem_partsFrom {held : Option Text} {text inside : Text}
    (h : .placeholder inside ∈ partsFrom held text) :
    inside <:+: (held.getD []).reverse ++ text := by
  induction text generalizing held with
  | nil =>
    cases held with
    | none => cases h
    | some before => exact absurd h (placeholder_not_mem_plain inside _)
  | cons c rest ih =>
    cases held with
    | none =>
      unfold partsFrom at h
      dsimp only at h
      split at h
      · exact List.infix_cons (ih h)
      · rcases List.mem_cons.1 h with hchar | hrest
        · cases hchar
        · exact List.infix_cons (ih hrest)
    | some before =>
      -- what follows the character is a part of the text
      have hbehind : rest <:+: before.reverse ++ c :: rest :=
        ((List.suffix_cons c rest).trans (List.suffix_append _ _)).isInfix
      unfold partsFrom at h
      dsimp only at h
      split at h
      · rcases List.mem_append.1 h with hplain | hrest
        · exact absurd hplain (placeholder_not_mem_plain inside _)
        · exact (ih hrest).trans hbehind
      · split at h
        · split at h
          · rcases List.mem_append.1 h with hplain | hrest
            · exact absurd hplain (placeholder_not_mem_plain inside _)
            · exact (ih hrest).trans hbehind
          · rcases List.mem_cons.1 h with hfirst | hrest
            · cases hfirst
              exact (List.prefix_append _ _).isInfix
            · exact (ih hrest).trans hbehind
        · have hinside := ih h
          rw [Option.getD_some, List.reverse_cons, List.append_assoc] at hinside
          exact hinside

theorem isInfix_of_mem_parts {template inside : Text}
    (h : .placeholder inside ∈ parts template) : inside <:+: template :=
  isInfix_of_mem_partsFrom h

theorem isPrefix_splitPlaceholder (text : Text) : (splitPlaceholder text).1 <+: text := by
  unfold splitPlaceholder
  split
  · rename_i expression format hsplit
    obtain ⟨c, rfl⟩ := exists_of_splitLast? hsplit
    split
    · exact List.prefix_append _ _
    · exact List.prefix_rfl
  · exact List.prefix_rfl

end Template

/-! ## Calls in arithmetic -/

theorem Quote.isSuffix_of_literalIn {quote : Quote} {text contents behind : Text}
    (h : quote.literalIn text = some (contents, behind)) : behind <:+ text := by
  cases text with
  | nil => cases h
  | cons c rest =>
    have hclosed := List.dropWhile_suffix (l := rest) (· != quote.char)
    rw [literalIn] at h
    split at h
    · split at h
      · cases h
      · rename_i last behind' hbehind
        cases h
        rw [hbehind] at hclosed
        exact ((List.suffix_cons _ _).trans hclosed).trans (List.suffix_cons _ _)
    · cases h

namespace Token

theorem eq_append_of_arguments? {quote : Option Quote} {depth : Nat} {text inside behind : Text}
    (h : arguments? quote depth text = some (inside, behind)) : text = inside ++ behind := by
  induction text generalizing quote depth inside with
  | nil => cases h
  | cons c rest ih =>
    -- the character goes to what is read behind it
    have grown : ∀ {quote depth}, (arguments? quote depth rest).map
        (fun parts => (c :: parts.1, parts.2)) = some (inside, behind) →
        c :: rest = inside ++ behind := by
      intro quote depth hread
      obtain ⟨⟨others, behind'⟩, hothers, hparts⟩ := Option.map_eq_some_iff.1 hread
      cases hparts
      rw [ih hothers, List.cons_append]
    unfold arguments? at h
    split at h
    · exact grown h
    · split at h
      · exact grown h
      · split at h
        · cases h
          rfl
        · exact grown h

/-- What a reader leaves of a text, and the text of the call if it reads one, stand in the text. -/
structure Reads (text : Text) (token : Token) (behind : Text) : Prop where
  isSuffix : behind <:+ text
  isPrefix : ∀ called, token = .call called → called <+: text

theorem Reads.of_ne_call {text behind : Text} {token : Token} (h : behind <:+ text)
    (hcall : ∀ called, token ≠ .call called := by intro called hcall; cases hcall) :
    Reads text token behind :=
  ⟨h, fun called heq => absurd heq (hcall called)⟩

theorem Reads.of_nameOrCall? {text behind : Text} {token : Token}
    (h : nameOrCall? text = some (token, behind)) : Reads text token behind := by
  unfold nameOrCall? at h
  dsimp only at h
  split at h
  · rename_i rest hrest
    obtain ⟨⟨inside, behind'⟩, hinside, hparts⟩ := Option.map_eq_some_iff.1 h
    cases hparts
    have hcalled : text = (text.takeWhile inName ++
        (text.dropWhile inName).takeWhile (· == ' ') ++ '(' :: inside) ++ behind' := by
      rw [List.append_assoc, List.cons_append, ← eq_append_of_arguments? hinside, ← hrest,
        List.append_assoc, List.takeWhile_append_dropWhile, List.takeWhile_append_dropWhile]
    refine ⟨⟨_, hcalled.symm⟩, fun called hcall => ?_⟩
    cases hcall
    exact ⟨behind', hcalled.symm⟩
  · cases h
    exact .of_ne_call (List.dropWhile_suffix _)

theorem Reads.of_read? {text behind : Text} {token : Token}
    (h : read? text = some (token, behind)) : Reads text token behind := by
  cases text with
  | nil => cases h
  | cons c rest =>
    rw [read?] at h
    split at h
    · obtain ⟨value, -, hparts⟩ := Option.map_eq_some_iff.1 h
      cases hparts
      exact .of_ne_call (List.dropWhile_suffix _)
    · split at h
      · obtain ⟨⟨contents, behind'⟩, hliteral, hparts⟩ := Option.map_eq_some_iff.1 h
        cases hparts
        exact .of_ne_call (Quote.isSuffix_of_literalIn hliteral)
      · split at h
        · exact .of_nameOrCall? h
        · split at h
          · cases h
            exact .of_ne_call (List.suffix_cons _ _)
          · split at h
            · cases h
              exact .of_ne_call (List.suffix_cons _ _)
            · split at h
              · cases h
                exact .of_ne_call (List.suffix_cons _ _)
              · cases h

theorem isInfix_of_mem_list? {text called : Text} {tokens : List Token}
    (h : list? text = some tokens) (hcall : .call called ∈ tokens) : called <:+: text := by
  fun_induction list? text generalizing tokens with
  | case1 =>
    cases h
    cases hcall
  | case2 c rest hblank ih => exact List.infix_cons (ih h hcall)
  | case3 c rest hblank hread => cases h
  | case4 c rest hblank token behind hread ih =>
    obtain ⟨others, hothers, rfl⟩ := Option.map_eq_some_iff.1 h
    have hreads := Reads.of_read? hread
    rcases List.mem_cons.1 hcall with hfirst | hrest
    · exact (hreads.isPrefix called hfirst.symm).isInfix
    · exact (ih hothers hrest).trans hreads.isSuffix.isInfix

end Token

end DryRun
