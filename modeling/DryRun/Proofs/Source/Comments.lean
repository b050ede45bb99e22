import DryRun.Proofs.Source.Columns

/-!
# Comments

The scanner stops at the sign of a comment and nowhere else, and it looks at most two characters
ahead, for quotes. So a line that is cut off where the scanner has stopped is scanned as the whole
line is (`scan_keeps_columns_up_to_comment`).
-/

namespace DryRun

/-! ## Where the scanner stops -/

theorem Stand.eq_of_read_eq_none {stand : Stand} {c : Char} {rest : Text}
    (h : stand.read c rest = none) : c = '#' ∧ stand = .free .code := by
  have hc : c = '#' := by
    by_contra hne
    obtain ⟨shown, next, hread⟩ := stand.exists_read_of_ne hne rest
    rw [hread] at h
    cases h
  refine ⟨hc, ?_⟩
  cases stand with
  | free mode =>
    cases mode with
    | code => rfl
    | short quote => cases h
    | triple quote => cases h
  | secondQuote mode => cases h
  | thirdQuote mode => cases h
  | escaped mode => cases h

theorem length_scanFrom_le (stand : Stand) (line : Text) :
    (scanFrom stand line).1.length ≤ line.length := by
  induction line generalizing stand with
  | nil => exact le_rfl
  | cons c rest ih =>
    cases hread : stand.read c rest with
    | none =>
      rw [scanFrom_cons_none hread]
      exact Nat.zero_le _
    | some found =>
      obtain ⟨shown, next⟩ := found
      rw [scanFrom_cons_some hread]
      exact Nat.succ_le_succ (ih next)

theorem getElem?_length_scanFrom {stand : Stand} {raw : Text}
    (h : (scanFrom stand raw).1.length < raw.length) :
    raw[(scanFrom stand raw).1.length]? = some '#' := by
  induction raw generalizing stand with
  | nil => exact absurd h (Nat.not_lt_zero _)
  | cons c rest ih =>
    cases hread : stand.read c rest with
    | none =>
      rw [scanFrom_cons_none hread, (Stand.eq_of_read_eq_none hread).1]
      rfl
    | some found =>
      obtain ⟨shown, next⟩ := found
      rw [scanFrom_cons_some hread] at h ⊢
      exact ih (Nat.lt_of_succ_lt_succ h)

/-! ## Cut lines -/

theorem beginsPair_take (quote : Quote) (rest : Text) (n : Nat) :
    beginsPair quote (rest.take n) = (decide (2 ≤ n) && beginsPair quote rest) := by
  match n, rest with
  | 0, _ => rfl
  | 1, [] => rfl
  | 1, _ :: _ => rfl
  | _ + 2, [] => simp [beginsPair]
  | _ + 2, [_] => simp [beginsPair]
  | _ + 2, _ :: _ :: _ => simp [beginsPair]

theorem two_le_length_scanFrom {quote : Quote} {rest : Text} (h : beginsPair quote rest = true)
    (mode : Mode) : 2 ≤ (scanFrom (.secondQuote mode) rest).1.length := by
  obtain ⟨others, rfl⟩ := exists_of_beginsPair h
  rw [scanFrom_cons_some rfl, scanFrom_cons_some rfl]
  simp

/-- A character is read as before if the line behind it is cut off where the scanner stops: three
quotes that are read as such are in front of that place. -/
theorem Stand.read_take {stand next : Stand} {c shown : Char} {rest : Text}
    (h : stand.read c rest = some (shown, next)) :
    stand.read c (rest.take (scanFrom next rest).1.length) = some (shown, next) := by
  apply Stand.read_congr h
  intro quote mode hnext
  rw [beginsPair_take]
  cases hbegins : beginsPair quote rest with
  | false => exact Bool.and_false _
  | true =>
    rw [hnext hbegins]
    simp [two_le_length_scanFrom hbegins mode]

theorem scanFrom_take (stand : Stand) (line : Text) :
    scanFrom stand (line.take (scanFrom stand line).1.length) = scanFrom stand line := by
  induction line generalizing stand with
  | nil => rfl
  | cons c rest ih =>
    cases hread : stand.read c rest with
    | none =>
      rw [scanFrom_cons_none hread, (Stand.eq_of_read_eq_none hread).2]
      rfl
    | some found =>
      obtain ⟨shown, next⟩ := found
      rw [scanFrom_cons_some hread, List.length_cons, List.take_succ_cons,
        scanFrom_cons_some (Stand.read_take hread), ih]

theorem scanLine_stripComment (line : Text) :
    scanLine none (stripComment line) = scanLine none line := by
  have htake := scanFrom_take (.free .code) line
  unfold stripComment scanLine Mode.ofOpen
  dsimp only
  rw [htake]

/-- **Columns.** The code of a line has the characters of the line in their columns, or spaces in
their place, and ends with the line or at the sign of a comment; without its comment the line has
the same scan. -/
theorem scan_keeps_columns_up_to_comment (carried : Option Quote) (raw : Text) :
    let code := (scanLine carried raw).code
    code.length ≤ raw.length ∧
      (∀ (i : Nat) (shown : Char), code[i]? = some shown → raw[i]? = some shown ∨ shown = ' ') ∧
      (code.length < raw.length → raw[code.length]? = some '#') ∧
      stripComment raw <+: raw ∧
      (stripComment raw).length = (scanLine none raw).code.length ∧
      stripComment (stripComment raw) = stripComment raw ∧
      scanLine none (stripComment raw) = scanLine none raw := by
  intro code
  have hlength : (stripComment raw).length = (scanLine none raw).code.length :=
    List.length_take_of_le (length_scanFrom_le _ raw)
  refine ⟨length_scanFrom_le _ raw, fun _ _ => getElem?_scanFrom,
    getElem?_length_scanFrom, List.take_prefix _ _, hlength, ?_, scanLine_stripComment raw⟩
  calc stripComment (stripComment raw)
      = (stripComment raw).take (scanLine none (stripComment raw)).code.length := rfl
    _ = (stripComment raw).take (stripComment raw).length := by
        rw [scanLine_stripComment, hlength]
    _ = stripComment raw := List.take_length

example : stripComment "s = '#\\'' + x# '".toList = "s = '#\\'' + x".toList := by decide

end DryRun
