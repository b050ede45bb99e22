import DryRun.Proofs.Text.Margins
import DryRun.Source.Scan

/-!
# Columns

How the scanner reads one character is said once (`Stand.Reads`). It shows every character at its
own column, as it stands in the line or as a space, and lines are scanned one by one. So what is no
space in the code of a source stands in the source, in the same line and column.
-/

namespace DryRun

/-! ## Characters -/

/-- How the scanner reads a character with a rest of the line behind it: what it shows for the
character and where it then stands. -/
inductive Stand.Reads (c : Char) (rest : Text) : Stand → Char → Stand → Prop
  | code (hcomment : c ≠ '#') (hquote : Quote.ofChar? c = none) :
      Reads c rest (.free .code) c (.free .code)
  | opensShort {quote : Quote} (hcomment : c ≠ '#') (hquote : Quote.ofChar? c = some quote)
      (hpair : beginsPair quote rest = false) :
      Reads c rest (.free .code) c (.free (.short quote))
  | opensTriple {quote : Quote} (hcomment : c ≠ '#') (hquote : Quote.ofChar? c = some quote)
      (hpair : beginsPair quote rest = true) :
      Reads c rest (.free .code) c (.secondQuote (.triple quote))
  | escapes {mode : Mode} (hmode : mode ≠ .code) (hbackslash : c = '\\') :
      Reads c rest (.free mode) ' ' (.escaped mode)
  | closesShort {quote : Quote} (hbackslash : c ≠ '\\') (hquote : c = quote.char) :
      Reads c rest (.free (.short quote)) c (.free .code)
  | closesTriple {quote : Quote} (hbackslash : c ≠ '\\') (hquote : c = quote.char)
      (hpair : beginsPair quote rest = true) :
      Reads c rest (.free (.triple quote)) c (.secondQuote .code)
  | hidesShort {quote : Quote} (hbackslash : c ≠ '\\') (hquote : c ≠ quote.char) :
      Reads c rest (.free (.short quote)) ' ' (.free (.short quote))
  | hidesTriple {quote : Quote} (hbackslash : c ≠ '\\')
      (hpair : c = quote.char → beginsPair quote rest = false) :
      Reads c rest (.free (.triple quote)) ' ' (.free (.triple quote))
  | secondQuote (mode : Mode) : Reads c rest (.secondQuote mode) c (.thirdQuote mode)
  | thirdQuote (mode : Mode) : Reads c rest (.thirdQuote mode) c (.free mode)
  | escaped (mode : Mode) : Reads c rest (.escaped mode) ' ' (.free mode)

section Characters

variable {stand next : Stand} {c shown : Char} {rest : Text}

theorem reads_of_code (h : readCode c rest = some (shown, next)) :
    Stand.Reads c rest (.free .code) shown next := by
  unfold readCode at h
  split at h
  · cases h
  · rename_i hcomment
    split at h
    · rename_i hquote
      cases h
      exact .code hcomment hquote
    · rename_i quote hquote
      split at h
      · rename_i hpair
        cases h
        exact .opensTriple hcomment hquote hpair
      · rename_i hpair
        cases h
        exact .opensShort hcomment hquote (Bool.eq_false_iff.2 hpair)

theorem readString_cases {mode : Mode} {closes : Bool} {after : Stand}
    (h : readString mode closes after c = (shown, next)) :
    (c = '\\' ∧ shown = ' ' ∧ next = .escaped mode) ∨
      (c ≠ '\\' ∧ closes = true ∧ shown = c ∧ next = after) ∨
      (c ≠ '\\' ∧ closes = false ∧ shown = ' ' ∧ next = .free mode) := by
  unfold readString at h
  split at h
  · rename_i hbackslash
    cases h
    exact .inl ⟨hbackslash, rfl, rfl⟩
  · rename_i hbackslash
    split at h
    · rename_i hcloses
      cases h
      exact .inr (.inl ⟨hbackslash, hcloses, rfl, rfl⟩)
    · rename_i hcloses
      cases h
      exact .inr (.inr ⟨hbackslash, Bool.eq_false_iff.2 hcloses, rfl, rfl⟩)

theorem reads_of_short {quote : Quote}
    (h : readString (.short quote) (c == quote.char) (.free .code) c = (shown, next)) :
    Stand.Reads c rest (.free (.short quote)) shown next := by
  obtain ⟨hbackslash, rfl, rfl⟩ | ⟨hbackslash, hquote, rfl, rfl⟩ | ⟨hbackslash, hquote, rfl, rfl⟩ :=
    readString_cases h
  · exact .escapes nofun hbackslash
  · exact .closesShort hbackslash (eq_of_beq hquote)
  · exact .hidesShort hbackslash (beq_eq_false_iff_ne.1 hquote)

theorem reads_of_triple {quote : Quote}
    (h : readString (.triple quote) (c == quote.char && beginsPair quote rest)
      (.secondQuote .code) c = (shown, next)) :
    Stand.Reads c rest (.free (.triple quote)) shown next := by
  obtain ⟨hbackslash, rfl, rfl⟩ | ⟨hbackslash, hcloses, rfl, rfl⟩ |
    ⟨hbackslash, hcloses, rfl, rfl⟩ := readString_cases h
  · exact .escapes nofun hbackslash
  · obtain ⟨hquote, hpair⟩ := Bool.and_eq_true_iff.1 hcloses
    exact .closesTriple hbackslash (eq_of_beq hquote) hpair
  · refine .hidesTriple hbackslash fun heq => ?_
    rwa [beq_iff_eq.2 heq, Bool.true_and] at hcloses

theorem Stand.reads_of_read (h : stand.read c rest = some (shown, next)) :
    stand.Reads c rest shown next := by
  cases stand with
  | free mode =>
    cases mode with
    | code => exact reads_of_code h
    | short quote => exact reads_of_short (Option.some.inj h)
    | triple quote => exact reads_of_triple (Option.some.inj h)
  | secondQuote mode =>
    cases h
    exact .secondQuote mode
  | thirdQuote mode =>
    cases h
    exact .thirdQuote mode
  | escaped mode =>
    cases h
    exact .escaped mode

theorem Stand.Reads.read_eq (h : stand.Reads c rest shown next) :
    stand.read c rest = some (shown, next) := by
  cases h with
  | code hcomment hquote => simp [Stand.read, readCode, hcomment, hquote]
  | opensShort hcomment hquote hpair => simp [Stand.read, readCode, hcomment, hquote, hpair]
  | opensTriple hcomment hquote hpair => simp [Stand.read, readCode, hcomment, hquote, hpair]
  | @escapes mode hmode hbackslash =>
    cases mode with
    | code => exact absurd rfl hmode
    | short quote => simp [Stand.read, readString, hbackslash]
    | triple quote => simp [Stand.read, readString, hbackslash]
  | closesShort hbackslash hquote => simp [Stand.read, readString, hbackslash, ← hquote]
  | closesTriple hbackslash hquote hpair =>
    simp [Stand.read, readString, hbackslash, ← hquote, hpair]
  | hidesShort hbackslash hquote => simp [Stand.read, readString, hbackslash, hquote]
  | hidesTriple hbackslash hpair =>
    simp only [Stand.read, readString, if_neg hbackslash]
    rw [if_neg]
    rw [Bool.and_eq_true_iff, beq_iff_eq]
    rintro ⟨hquote, hbegins⟩
    exact absurd hbegins (Bool.eq_false_iff.1 (hpair hquote))
  | secondQuote mode => rfl
  | thirdQuote mode => rfl
  | escaped mode => rfl

theorem Stand.read_shown (h : stand.read c rest = some (shown, next)) :
    shown = c ∨ shown = ' ' := by
  cases Stand.reads_of_read h with
  | code | opensShort | opensTriple | closesShort | closesTriple | secondQuote | thirdQuote =>
    exact Or.inl rfl
  | escapes | hidesShort | hidesTriple | escaped => exact Or.inr rfl

theorem exists_of_beginsPair {quote : Quote} {text : Text} (h : beginsPair quote text = true) :
    ∃ rest, text = quote.char :: quote.char :: rest := by
  match text, h with
  | c :: d :: rest, h =>
    simp only [beginsPair, Bool.and_eq_true, beq_iff_eq] at h
    exact ⟨rest, by rw [h.1, h.2]⟩

/-- Of what follows a character, the scanner looks only for two quotes, and where it finds them they
are shown next. -/
theorem Stand.read_congr {rest' : Text} (h : stand.read c rest = some (shown, next))
    (hpair : ∀ quote mode, (beginsPair quote rest = true → next = .secondQuote mode) →
      beginsPair quote rest' = beginsPair quote rest) :
    stand.read c rest' = some (shown, next) := by
  have hsame : ∀ {quote}, beginsPair quote rest = false → beginsPair quote rest' = false :=
    fun {quote} hnone => (hpair quote .code fun hbegins => by
      rw [hnone] at hbegins
      cases hbegins).trans hnone
  refine Stand.Reads.read_eq ?_
  cases Stand.reads_of_read h with
  | code hcomment hquote => exact .code hcomment hquote
  | opensShort hcomment hquote hnone => exact .opensShort hcomment hquote (hsame hnone)
  | opensTriple hcomment hquote hbegins =>
    exact .opensTriple hcomment hquote ((hpair _ _ fun _ => rfl).trans hbegins)
  | escapes hmode hbackslash => exact .escapes hmode hbackslash
  | closesShort hbackslash hquote => exact .closesShort hbackslash hquote
  | closesTriple hbackslash hquote hbegins =>
    exact .closesTriple hbackslash hquote ((hpair _ _ fun _ => rfl).trans hbegins)
  | hidesShort hbackslash hquote => exact .hidesShort hbackslash hquote
  | hidesTriple hbackslash hnone => exact .hidesTriple hbackslash fun heq => hsame (hnone heq)
  | secondQuote mode => exact .secondQuote mode
  | thirdQuote mode => exact .thirdQuote mode
  | escaped mode => exact .escaped mode

end Characters

/-! ## Lines -/

@[simp] theorem scanFrom_nil (stand : Stand) : scanFrom stand [] = ([], stand.mode) := rfl

theorem scanFrom_cons_none {stand : Stand} {c : Char} {rest : Text}
    (h : stand.read c rest = none) : scanFrom stand (c :: rest) = ([], .code) := by
  rw [scanFrom, h]

theorem scanFrom_cons_some {stand next : Stand} {c shown : Char} {rest : Text}
    (h : stand.read c rest = some (shown, next)) :
    scanFrom stand (c :: rest) = (shown :: (scanFrom next rest).1, (scanFrom next rest).2) := by
  rw [scanFrom, h]

/-- What a line shows at a column stands there in the line, or is a space. -/
theorem getElem?_scanFrom {stand : Stand} {raw : Text} {i : Nat} {shown : Char}
    (h : (scanFrom stand raw).1[i]? = some shown) : raw[i]? = some shown ∨ shown = ' ' := by
  induction raw generalizing stand i with
  | nil => simp at h
  | cons c rest ih =>
    cases hread : stand.read c rest with
    | none =>
      rw [scanFrom_cons_none hread] at h
      simp at h
    | some found =>
      obtain ⟨first, next⟩ := found
      rw [scanFrom_cons_some hread] at h
      cases i with
      | zero =>
        rw [List.getElem?_cons_zero, Option.some_inj] at h ⊢
        exact h ▸ (Stand.read_shown hread).imp_left Eq.symm
      | succ i =>
        rw [List.getElem?_cons_succ] at h ⊢
        exact ih h

theorem getElem?_code_scanLine {carried : Option Quote} {raw : Text} {i : Nat} {shown : Char}
    (h : (scanLine carried raw).code[i]? = some shown) :
    raw[i]? = some shown ∨ shown = ' ' :=
  getElem?_scanFrom h

theorem Stand.read_blank {c : Char} {rest : Text} (h : Unicode.isBlank c = true) :
    (Stand.free .code).read c rest = some (c, .free .code) := by
  have hhash : c ≠ '#' := by rintro rfl; revert h; decide
  have hsingle : c ≠ '\'' := by rintro rfl; revert h; decide
  have hdouble : c ≠ '"' := by rintro rfl; revert h; decide
  simp only [Stand.read, readCode, Quote.ofChar?, if_neg hhash, if_neg hsingle, if_neg hdouble]

/-! ## Comments -/

theorem exists_readCode_of_ne {c : Char} (h : c ≠ '#') (rest : Text) :
    ∃ shown next, readCode c rest = some (shown, next) := by
  unfold readCode
  rw [if_neg h]
  split
  · exact ⟨_, _, rfl⟩
  · split <;> exact ⟨_, _, rfl⟩

theorem Stand.exists_read_of_ne {c : Char} (h : c ≠ '#') (stand : Stand) (rest : Text) :
    ∃ shown next, stand.read c rest = some (shown, next) := by
  cases stand with
  | free mode =>
    cases mode with
    | code => exact exists_readCode_of_ne h rest
    | short quote => exact ⟨_, _, rfl⟩
    | triple quote => exact ⟨_, _, rfl⟩
  | secondQuote mode => exact ⟨_, _, rfl⟩
  | thirdQuote mode => exact ⟨_, _, rfl⟩
  | escaped mode => exact ⟨_, _, rfl⟩

theorem length_scanFrom_of_not_mem {line : Text} (h : '#' ∉ line) (stand : Stand) :
    (scanFrom stand line).1.length = line.length := by
  induction line generalizing stand with
  | nil => rfl
  | cons c rest ih =>
    rw [List.mem_cons, not_or] at h
    obtain ⟨shown, next, hread⟩ := stand.exists_read_of_ne (Ne.symm h.1) rest
    rw [scanFrom_cons_some hread, List.length_cons, List.length_cons, ih h.2]

/-- A line without the sign of a comment has none. -/
theorem stripComment_of_not_mem {line : Text} (h : '#' ∉ line) : stripComment line = line := by
  have hlength : (scanLine none line).code.length = line.length :=
    length_scanFrom_of_not_mem h _
  rw [stripComment, hlength, List.take_length]

theorem head?_trim (text : Text) : (Text.trim text).head? = (Text.trimStart text).head? := by
  unfold Text.trim Text.trimEnd
  cases hstart : Text.trimStart text with
  | nil => rfl
  | cons c rest =>
    have hc : Unicode.isBlank c ≠ true := by
      have hhead := List.head?_dropWhile_not Unicode.isBlank text
      unfold Text.trimStart at hstart
      rw [hstart] at hhead
      simpa using hhead
    rw [List.reverse_cons, List.dropWhile_append, List.dropWhile_cons_of_neg hc]
    split
    · rfl
    · rw [List.reverse_append]
      rfl

/-- A blank line and a comment show only blanks. -/
theorem blank_of_mem_scanLine {line : Text} {c : Char}
    (hline : ∀ d, (Text.trimStart line).head? = some d → d = '#')
    (hc : c ∈ (scanLine none line).code) : Unicode.isBlank c = true := by
  change c ∈ (scanFrom (.free .code) line).1 at hc
  induction line with
  | nil => simp at hc
  | cons d rest ih =>
    unfold Text.trimStart at hline ih
    by_cases hd : Unicode.isBlank d = true
    · rw [scanFrom_cons_some (Stand.read_blank hd)] at hc
      rw [List.dropWhile_cons_of_pos hd] at hline
      rcases List.mem_cons.1 hc with rfl | hc
      · exact hd
      · exact ih hline hc
    · rw [List.dropWhile_cons_of_neg hd] at hline
      obtain rfl : d = '#' := hline d rfl
      rw [scanFrom_cons_none rfl] at hc
      simp at hc

theorem trim_stripComment_of_isBlankText {line : Text} (h : Text.isBlankText line = true) :
    Text.trim (stripComment line) = [] :=
  Text.trim_eq_nil_iff.2 (Text.isBlankText_of_subset (List.take_subset _ _) h)

/-! ## Sources -/

@[simp] theorem length_scanLines (carried : Option Quote) (lines : List Text) :
    (scanLines carried lines).length = lines.length := by
  induction lines generalizing carried with
  | nil => rfl
  | cons line rest ih => simp [scanLines, ih]

/-- The scan of a number is that of the line of the number, from some stand. -/
theorem exists_of_getElem?_scanLines {carried : Option Quote} {lines : List Text} {i : Nat}
    {scan : LineScan} (h : (scanLines carried lines)[i]? = some scan) :
    ∃ line carried', lines[i]? = some line ∧ scan = scanLine carried' line := by
  induction lines generalizing carried i with
  | nil => simp [scanLines] at h
  | cons line rest ih =>
    cases i with
    | zero => exact ⟨line, carried, rfl, (Option.some.inj h).symm⟩
    | succ i => exact ih h

/-- The quote of a string in triple quotes that is open behind lines, if one is open before them. -/
def openBehind (carried : Option Quote) : List Text → Option Quote
  | [] => carried
  | line :: rest => openBehind (scanLine carried line).openTriple rest

theorem scanLines_append (carried : Option Quote) (lines more : List Text) :
    scanLines carried (lines ++ more) =
      scanLines carried lines ++ scanLines (openBehind carried lines) more := by
  induction lines generalizing carried with
  | nil => rfl
  | cons line rest ih =>
    rw [List.cons_append, scanLines, scanLines, openBehind, ih]
    rfl

theorem scanLines_around (carried : Option Quote) (before : List Text) (line : Text)
    (behind : List Text) :
    scanLines carried (before ++ line :: behind) =
      scanLines carried before ++ scanLine (openBehind carried before) line ::
        scanLines (scanLine (openBehind carried before) line).openTriple behind := by
  rw [scanLines_append]
  rfl

end DryRun
