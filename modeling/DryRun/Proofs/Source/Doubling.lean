import DryRun.Proofs.Source.Comments

/-!
# Equals signs doubled

An equals sign that the scanner shows stands in code, and there another can follow it: the line with
the sign doubled shows the code with the sign doubled (`scanLine_doubled`), and loses the same
comment (`stripComment_doubled`).
-/

namespace DryRun

/-! ## What a stand expects -/

/-- Within three quotes the scanner has seen the rest of them ahead. -/
def Stand.Expects : Stand → Text → Prop
  | secondQuote _, rest => ∃ quote, beginsPair quote rest = true
  | thirdQuote _, rest => ∃ quote : Quote, rest.head? = some quote.char
  | _, _ => True

theorem Stand.Expects.read {stand next : Stand} {c shown : Char} {rest : Text}
    (hexpects : stand.Expects (c :: rest)) (h : stand.read c rest = some (shown, next)) :
    next.Expects rest := by
  cases Stand.reads_of_read h with
  | code | opensShort | escapes | closesShort | hidesShort | hidesTriple | thirdQuote | escaped =>
    trivial
  | @opensTriple quote hcomment hquote hpair => exact ⟨quote, hpair⟩
  | @closesTriple quote hbackslash hquote hpair => exact ⟨quote, hpair⟩
  | secondQuote mode =>
    obtain ⟨quote, hbegins⟩ := hexpects
    obtain ⟨others, hothers⟩ := exists_of_beginsPair hbegins
    obtain ⟨rfl, rfl⟩ := List.cons.inj hothers
    exact ⟨quote, rfl⟩

theorem Quote.char_ne_equals (quote : Quote) : quote.char ≠ '=' := by cases quote <;> decide

/-- An equals sign is shown in code only. -/
theorem Stand.eq_of_read_equals {stand next : Stand} {c : Char} {rest : Text}
    (hexpects : stand.Expects (c :: rest)) (h : stand.read c rest = some ('=', next)) :
    stand = .free .code ∧ c = '=' := by
  have hc : c = '=' := ((Stand.read_shown h).resolve_right (by decide)).symm
  subst hc
  refine ⟨?_, rfl⟩
  cases Stand.reads_of_read h with
  | code | opensShort | opensTriple => rfl
  | @closesShort quote hbackslash hquote => exact absurd hquote.symm quote.char_ne_equals
  | @closesTriple quote hbackslash hquote hpair => exact absurd hquote.symm quote.char_ne_equals
  | secondQuote mode =>
    obtain ⟨quote, hbegins⟩ := hexpects
    obtain ⟨others, hothers⟩ := exists_of_beginsPair hbegins
    exact absurd (List.cons.inj hothers).1.symm quote.char_ne_equals
  | thirdQuote mode =>
    obtain ⟨quote, hhead⟩ := hexpects
    exact absurd (Option.some.inj hhead).symm quote.char_ne_equals

/-! ## Lines -/

section Line

variable {before behind u v : Text}

theorem beginsPair_doubled (quote : Quote) (before behind : Text) :
    beginsPair quote (before ++ '=' :: '=' :: behind) =
      beginsPair quote (before ++ '=' :: behind) := by
  have hquote := quote.char_ne_equals.symm
  match before with
  | [] => cases behind <;> simp [beginsPair, hquote]
  | [_] => rfl
  | _ :: _ :: _ => rfl

theorem scanFrom_doubled {stand : Stand} {mode : Mode}
    (hexpects : stand.Expects (before ++ '=' :: behind)) (hlength : u.length = before.length)
    (h : scanFrom stand (before ++ '=' :: behind) = (u ++ '=' :: v, mode)) :
    scanFrom stand (before ++ '=' :: '=' :: behind) = (u ++ '=' :: '=' :: v, mode) := by
  induction before generalizing stand u with
  | nil =>
    obtain rfl := List.length_eq_zero_iff.1 hlength
    rw [List.nil_append] at h hexpects
    cases hread : stand.read '=' behind with
    | none =>
      rw [scanFrom_cons_none hread] at h
      cases h
    | some found =>
      obtain ⟨shown, next⟩ := found
      have hshown := h
      rw [scanFrom_cons_some hread] at hshown
      obtain rfl : shown = '=' := (List.cons.inj (Prod.mk.inj hshown).1).1
      obtain ⟨rfl, -⟩ := Stand.eq_of_read_equals hexpects hread
      have hequals (rest : Text) : (Stand.free .code).read '=' rest = some ('=', .free .code) := rfl
      rw [List.nil_append, scanFrom_cons_some (hequals _), h]
      rfl
  | cons c before ih =>
    obtain ⟨first, u, rfl⟩ := List.exists_cons_of_length_eq_add_one hlength
    rw [List.cons_append] at h hexpects
    cases hread : stand.read c (before ++ '=' :: behind) with
    | none =>
      rw [scanFrom_cons_none hread] at h
      cases h
    | some found =>
      obtain ⟨shown, next⟩ := found
      rw [scanFrom_cons_some hread] at h
      obtain ⟨hcode, hmode⟩ := Prod.mk.inj h
      obtain ⟨rfl, hrest⟩ := List.cons.inj hcode
      have hread' : stand.read c (before ++ '=' :: '=' :: behind) = some (shown, next) :=
        Stand.read_congr hread fun quote _ _ => beginsPair_doubled quote before behind
      rw [List.cons_append, scanFrom_cons_some hread',
        ih (hexpects.read hread) (Nat.succ.inj hlength) (Prod.ext hrest hmode)]
      rfl

/-- A line with an equals sign of its code doubled shows its code with the sign doubled. -/
theorem scanLine_doubled {carried : Option Quote} (hlength : u.length = before.length)
    (h : (scanLine carried (before ++ '=' :: behind)).code = u ++ '=' :: v) :
    scanLine carried (before ++ '=' :: '=' :: behind) =
      { scanLine carried (before ++ '=' :: behind) with code := u ++ '=' :: '=' :: v } := by
  have hexpects : (Stand.free (.ofOpen carried)).Expects (before ++ '=' :: behind) := trivial
  have hscan := scanFrom_doubled hexpects hlength (Prod.ext h rfl)
  unfold scanLine
  dsimp only
  rw [hscan]

/-! ## Comments -/

/-- An equals sign of the code stands in the line, in front of its comment. -/
theorem exists_of_code_equals {raw : Text} (h : (scanLine none raw).code = u ++ '=' :: v) :
    ∃ before behind, raw = before ++ '=' :: behind ∧ before.length = u.length ∧
      stripComment raw = before ++ '=' :: behind.take v.length := by
  have hcode : (scanLine none raw).code[u.length]? = some '=' := by
    rw [h]
    simp
  have hget := (getElem?_code_scanLine hcode).resolve_right (by decide)
  obtain ⟨before, behind, rfl, hlength⟩ :
      ∃ before behind, raw = before ++ '=' :: behind ∧ before.length = u.length := by
    obtain ⟨hlt, hequals⟩ := List.getElem?_eq_some_iff.1 hget
    refine ⟨raw.take u.length, raw.drop (u.length + 1), ?_,
      List.length_take_of_le (Nat.le_of_lt hlt)⟩
    rw [← hequals, List.getElem_cons_drop, List.take_append_drop]
  refine ⟨before, behind, rfl, hlength, ?_⟩
  have hcount : (u ++ '=' :: v).length = before.length + (v.length + 1) := by
    rw [hlength, List.length_append, List.length_cons]
  rw [stripComment, h, hcount, List.take_length_add_append, List.take_succ_cons]

/-- With an equals sign of its code doubled, a line loses the comment that it did before. -/
theorem stripComment_doubled (hlength : u.length = before.length)
    (h : (scanLine none (before ++ '=' :: behind)).code = u ++ '=' :: v) :
    stripComment (before ++ '=' :: '=' :: behind) =
      before ++ '=' :: '=' :: behind.take v.length := by
  have hcount : (u ++ '=' :: '=' :: v).length = before.length + (v.length + 2) := by
    rw [← hlength, List.length_append]
    rfl
  rw [stripComment, scanLine_doubled hlength h]
  dsimp only
  rw [hcount, List.take_length_add_append]
  rfl

end Line

end DryRun
