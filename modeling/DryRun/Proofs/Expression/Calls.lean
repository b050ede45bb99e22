import DryRun.Proofs.Arithmetic.Tokens
import DryRun.Proofs.Expression.Parts
import DryRun.Proofs.Function.Header
import DryRun.Proofs.Function.Parts

/-!
# The extent of calls

Where a call ends is told in two ways. By itself it is a whole text, up to the parenthesis at the
end; among operands it ends with the parenthesis that closes its first one. Both pass over the
arguments in the same way (`arguments?_append`), and so they agree on a call whose quotes are closed
(`KnownCall.read?_append`).
-/

namespace DryRun

open Unicode

namespace Expression

/-! ## What a call is made of -/

theorem exists_of_splitCall? {text name arguments : Text}
    (h : splitCall? text = some (name, arguments)) :
    ∃ gap, Text.isBlankText gap = true ∧ text = name ++ (gap ++ '(' :: (arguments ++ [')'])) ∧
      isCallable name = true ∧ depthAtEnd? .round none 0 arguments = some 0 := by
  obtain ⟨⟨before, rest⟩, hsplit, hrest⟩ := Option.bind_eq_some_iff.1 h
  obtain ⟨inside, hinside, hcall⟩ := Option.bind_eq_some_iff.1 hrest
  obtain ⟨hcallable, hparts⟩ := Option.ite_none_right_eq_some.1 hcall
  cases hparts
  rw [Bool.and_eq_true, decide_eq_true_eq] at hcallable
  have hbefore : Text.trimEnd before ++ before.rtakeWhile isBlank = before :=
    List.rdropWhile_append_rtakeWhile
  refine ⟨before.rtakeWhile isBlank,
    Text.isBlankText_iff.2 fun _ hc => List.mem_rtakeWhile_imp hc, ?_, hcallable⟩
  rw [← List.append_assoc, hbefore, Text.eq_append_cons_of_splitFirst? hsplit,
    Text.eq_append_of_beforeLast? hinside]

theorem splitCall?_eq_none_of_getLast? {text : Text} (h : text.getLast? ≠ some ')') :
    splitCall? text = none := by
  cases hcall : splitCall? text with
  | none => rfl
  | some parts =>
    obtain ⟨gap, -, htext, -⟩ := exists_of_splitCall? hcall
    refine absurd ?_ h
    rw [htext, ← List.cons_append, ← List.append_assoc, ← List.append_assoc, List.getLast?_concat]

theorem inName_of_isCallable {name : Text} (h : isCallable name = true) :
    ∀ c ∈ name, Token.inName c = true := by
  rw [isCallable, Bool.and_eq_true, Bool.and_eq_true] at h
  exact List.all_eq_true.1 h.1.2

/-! ## Where its arguments end -/

/-- What the depth is counted over belongs to the arguments of a call, which end where they would
behind it. -/
theorem arguments?_of_depthAtEnd? {quote : Option Quote} {depth depth' : Nat} {text : Text}
    (h : depthAtEnd? .round quote depth text = some depth') (rest : Text) :
    Token.arguments? quote depth (text ++ rest) =
      (Token.arguments? (text.foldl Quote.openAfter quote) depth' rest).map
        fun parts => (text ++ parts.1, parts.2) := by
  induction text generalizing quote depth with
  | nil =>
    cases h
    exact Option.map_id'.symm
  | cons c text ih =>
    -- every branch goes on with the rest of the text, only the quote and the depth differ
    have step : ∀ {quote' : Option Quote} {depth'' : Nat},
        depthAtEnd? .round quote' depth'' text = some depth' →
        (Token.arguments? quote' depth'' (text ++ rest)).map
            (fun parts => (c :: parts.1, parts.2)) =
          (Token.arguments? (text.foldl Quote.openAfter quote') depth' rest).map
            fun parts => (c :: (text ++ parts.1), parts.2) := by
      intro quote' depth'' h
      rw [ih h, Option.map_map]
      rfl
    unfold depthAtEnd? at h
    rw [List.cons_append, List.foldl_cons]
    conv_lhs => unfold Token.arguments?
    split at h
    · rename_i hquote
      rw [if_pos (by rw [hquote, Bool.true_or])]
      exact step h
    · rename_i hquote
      obtain rfl : quote = none := by simpa using hquote
      split at h
      · rename_i hopening
        obtain rfl : c = '(' := hopening
        exact step h
      · rename_i hopening
        split at h
        · rename_i hclosing
          obtain rfl : c = ')' := hclosing
          cases depth with
          | zero => cases h
          | succ depth => exact step h
        · rename_i hclosing
          have hopening : c ≠ '(' := hopening
          have hclosing : c ≠ ')' := hclosing
          rw [if_pos (by simp [hopening, hclosing])]
          exact step h

/-! ## Among operands -/

/-- A name in front of a parenthesis is called, unless something else than spaces stands between
them. -/
theorem nameOrCall?_gap {name gap : Text} (hname : ∀ c ∈ name, Token.inName c = true)
    (hgap : Text.isBlankText gap = true) (rest : Text) :
    Token.nameOrCall? (name ++ (gap ++ '(' :: rest)) =
      if gap.all (· == ' ') then
        (Token.arguments? none 0 rest).map fun parts =>
          (.call (name ++ gap ++ '(' :: parts.1), parts.2)
      else some (.name name, gap ++ '(' :: rest) := by
  have hbehind : (gap ++ '(' :: rest).head?.any Token.inName = false := by
    cases gap with
    | nil => rfl
    | cons c gap =>
      exact Arithmetic.inName_eq_false_of_isBlank
        (Text.isBlankText_iff.1 hgap c List.mem_cons_self)
  unfold Token.nameOrCall?
  dsimp only
  rw [Text.takeWhile_append_of_any_head? hname hbehind,
    Text.dropWhile_append_of_any_head? hname hbehind]
  by_cases hspaces : gap.all (· == ' ') = true
  · rw [if_pos hspaces]
    have hspaces := List.all_eq_true.1 hspaces
    have hend : ('(' :: rest).head?.any (· == ' ') = false := rfl
    rw [Text.dropWhile_append_of_any_head? hspaces hend,
      Text.takeWhile_append_of_any_head? hspaces hend]
    rfl
  · rw [if_neg hspaces]
    have hstops : gap.dropWhile (· == ' ') ≠ [] := by
      rwa [Ne, List.dropWhile_eq_nil_iff, ← List.all_eq_true]
    rw [Text.dropWhile_append_of_dropWhile_ne_nil hstops]
    split
    · rename_i after hafter
      obtain ⟨c, others, hothers⟩ := List.exists_cons_of_ne_nil hstops
      rw [hothers] at hafter
      cases hafter
      have hmem : '(' ∈ gap := (List.dropWhile_sublist _).mem (hothers ▸ List.mem_cons_self)
      exact absurd (Text.isBlankText_iff.1 hgap _ hmem) (by decide)
    · rfl

/-- A call as it may stand among operands: a name that may be given to a function, called with
closed quotes and nothing but spaces in front of its parenthesis, and something to call. -/
structure KnownCall (functions : Functions) (text name arguments : Text) : Prop where
  split : splitCall? text = some (name, arguments)
  known : (callForm? functions name arguments).isSome = true
  begins : name.head?.any isNameStart = true
  spaces : ∃ count, text = name ++ (List.replicate count ' ' ++ '(' :: (arguments ++ [')']))
  closed : arguments.foldl Quote.openAfter none = none

namespace KnownCall

variable {functions : Functions} {text name arguments : Text}

/-- What may be called where the functions are those of a source has a name. -/
theorem of_source {source : Source} (hsplit : splitCall? text = some (name, arguments))
    (hknown : (callForm? (Function.ofSource source) name arguments).isSome = true)
    (hspaces : ∃ count,
      text = name ++ (List.replicate count ' ' ++ '(' :: (arguments ++ [')'])))
    (hclosed : arguments.foldl Quote.openAfter none = none) :
    KnownCall (Function.ofSource source) text name arguments where
  split := hsplit
  known := hknown
  begins := by
    unfold callForm? at hknown
    split at hknown
    · rename_i htype
      rw [htype]
      rfl
    · split at hknown
      · rename_i hlength
        rw [hlength]
        rfl
      · rw [Option.isSome_map] at hknown
        obtain ⟨function, hfind⟩ := Option.isSome_iff_exists.1 hknown
        have hname : (function.name == name) = true :=
          List.find?_some (p := fun function : Function => function.name == name) hfind
        rw [← beq_iff_eq.1 hname]
        exact Function.isNameStart_of_mem_ofSource (List.mem_of_find?_eq_some hfind)
  spaces := hspaces
  closed := hclosed

theorem callOf?_isSome (h : KnownCall functions text name arguments) :
    (callOf? functions text).isSome = true := by
  rw [callOf?, h.split]
  exact h.known

theorem isName (h : KnownCall functions text name arguments) : Arithmetic.IsName name := by
  obtain ⟨-, -, -, hcallable, -⟩ := exists_of_splitCall? h.split
  have hbegins := h.begins
  cases name with
  | nil => cases hbegins
  | cons first others =>
    have hinside := inName_of_isCallable hcallable
    exact ⟨first, others, rfl, hbegins, fun c hc => hinside c (List.mem_cons_of_mem _ hc)⟩

theorem bare (h : KnownCall functions text name arguments) : Text.Bare text := by
  obtain ⟨first, others, rfl, hfirst, -⟩ := h.isName
  obtain ⟨count, rfl⟩ := h.spaces
  have hbare : Text.Bare (first ::
      (others ++ (List.replicate count ' ' ++ '(' :: arguments) ++ [')'])) :=
    .enclosed (isBlank_eq_false_of_isNameStart hfirst) (by decide) _
  simpa using hbare

/-- An operand that is called is read up to the end of the call, whatever follows. -/
theorem read?_append (h : KnownCall functions text name arguments) (rest : Text) :
    Token.read? (text ++ rest) = some (.call text, rest) := by
  obtain ⟨-, -, -, -, hdepth⟩ := exists_of_splitCall? h.split
  have harguments : Token.arguments? none 0 (arguments ++ ')' :: rest) =
      some (arguments ++ [')'], rest) := by
    rw [arguments?_of_depthAtEnd? hdepth, h.closed]
    rfl
  have hname := h.isName
  obtain ⟨count, htext⟩ := h.spaces
  have hblank : Text.isBlankText (List.replicate count ' ') = true :=
    Text.isBlankText_iff.2 fun c hc => by rw [List.eq_of_mem_replicate hc]; rfl
  have hspaces : (List.replicate count ' ').all (· == ' ') = true :=
    List.all_eq_true.2 fun c hc => beq_iff_eq.2 (List.eq_of_mem_replicate hc)
  have hread := nameOrCall?_gap hname.inName hblank (arguments ++ ')' :: rest)
  rw [if_pos hspaces, harguments, Option.map_some] at hread
  have happend : text ++ rest =
      name ++ (List.replicate count ' ' ++ '(' :: (arguments ++ ')' :: rest)) := by
    rw [htext]
    simp
  have hcalled : name ++ List.replicate count ' ' ++ '(' :: (arguments ++ [')']) = text := by
    rw [htext, List.append_assoc]
  rw [hcalled, ← happend] at hread
  obtain ⟨first, others, rfl, hfirst, -⟩ := hname
  rw [← hread, happend]
  exact Arithmetic.read?_cons_of_isNameStart hfirst _

end KnownCall

end Expression

end DryRun
