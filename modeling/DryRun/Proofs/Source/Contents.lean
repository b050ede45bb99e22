import Mathlib.Logic.Relation
import DryRun.Proofs.Bracket.Marks
import DryRun.Proofs.Source.Comments
import DryRun.Proofs.Text.Parts
import DryRun.Proofs.Text.Pieces

/-!
# Contents of strings

What the scanner hides behind a space stands in a string, and only quotes and backslashes mean
anything there. So a hidden character can be replaced by any other of no meaning: the lines of the
source are scanned as before, and their brackets are the same (`string_contents_do_not_matter`).

1. One character: what it is read as, and what the scanner sees of it from the two before.
2. One line.
3. Places of a text, and edits of a text in its strings.
-/

namespace DryRun

/-! ## Hidden characters -/

/-- The characters that mean something in a string. -/
def stringSigns : List Char := ['\'', '"', '\\']

theorem ne_char_of_not_mem_stringSigns {c : Char} (h : c ∉ stringSigns) (quote : Quote) :
    c ≠ quote.char := by
  rintro rfl
  cases quote <;> exact h (by decide)

theorem char_ne_space (quote : Quote) : quote.char ≠ ' ' := by cases quote <;> decide

/-- A hidden character that is no backslash can be exchanged: it neither escapes nor ends
anything. -/
theorem Stand.read_hidden {stand next : Stand} {old new : Char} {rest : Text}
    (h : stand.read old rest = some (' ', next)) (hspace : old ≠ ' ') (hbackslash : old ≠ '\\')
    (hnew : new ∉ stringSigns) : stand.read new rest = some (' ', next) := by
  have hnewBackslash : new ≠ '\\' := fun heq => hnew (heq ▸ by decide)
  have hnewQuote := ne_char_of_not_mem_stringSigns hnew
  refine Stand.Reads.read_eq ?_
  generalize hshown : ' ' = shown at h
  cases Stand.reads_of_read h with
  | code | opensShort | opensTriple | closesShort | closesTriple | secondQuote | thirdQuote =>
    exact absurd hshown.symm hspace
  | escapes hmode hescape => exact absurd hescape hbackslash
  | @hidesShort quote _ _ => exact .hidesShort hnewBackslash (hnewQuote quote)
  | @hidesTriple quote _ _ =>
    exact .hidesTriple hnewBackslash fun heq => absurd heq (hnewQuote quote)
  | escaped mode => exact .escaped mode

theorem beginsPair_set {quote : Quote} {rest : Text} {place : Nat} {new : Char}
    (hnew : new ≠ quote.char) (h : beginsPair quote rest = true → 2 ≤ place) :
    beginsPair quote (rest.set place new) = beginsPair quote rest := by
  match rest with
  | [] => rfl
  | [_] => cases place <;> rfl
  | c :: d :: rest =>
    by_cases hplace : 2 ≤ place
    · obtain ⟨further, rfl⟩ : ∃ further, place = further + 2 := ⟨place - 2, by omega⟩
      rfl
    · have hpair : beginsPair quote (c :: d :: rest) = false :=
        Bool.eq_false_iff.2 fun hbegins => hplace (h hbegins)
      have hcases : place = 0 ∨ place = 1 := by omega
      rw [hpair]
      rcases hcases with rfl | rfl <;> simp [beginsPair, hnew]

/-- Two quotes that complete three are shown as they are, so nothing is hidden among them. -/
theorem two_le_of_hidden {quote : Quote} {rest : Text} (h : beginsPair quote rest = true)
    {mode : Mode} {place : Nat}
    (hplace : (scanFrom (.secondQuote mode) rest).1[place]? = some ' ') : 2 ≤ place := by
  obtain ⟨others, rfl⟩ := exists_of_beginsPair h
  rw [scanFrom_cons_some rfl, scanFrom_cons_some rfl] at hplace
  match place, hplace with
  | 0, hplace => exact absurd (Option.some.inj hplace) (char_ne_space quote)
  | 1, hplace => exact absurd (Option.some.inj hplace) (char_ne_space quote)
  | _ + 2, _ => omega

/-! ## Lines -/

section Line

variable {raw : Text} {place : Nat} {old new : Char}

theorem scanFrom_set {stand : Stand} (hcode : (scanFrom stand raw).1[place]? = some ' ')
    (hold : raw[place]? = some old) (hspace : old ≠ ' ') (hbackslash : old ≠ '\\')
    (hnew : new ∉ stringSigns) : scanFrom stand (raw.set place new) = scanFrom stand raw := by
  induction raw generalizing stand place with
  | nil => rfl
  | cons c rest ih =>
    cases hread : stand.read c rest with
    | none =>
      rw [scanFrom_cons_none hread] at hcode
      simp at hcode
    | some found =>
      obtain ⟨shown, next⟩ := found
      rw [scanFrom_cons_some hread] at hcode ⊢
      cases place with
      | zero =>
        obtain rfl : c = old := Option.some.inj hold
        obtain rfl : shown = ' ' := Option.some.inj hcode
        rw [List.set_cons_zero,
          scanFrom_cons_some (Stand.read_hidden hread hspace hbackslash hnew)]
      | succ place =>
        rw [List.getElem?_cons_succ] at hcode hold
        have hread' : stand.read c (rest.set place new) = some (shown, next) := by
          apply Stand.read_congr hread
          intro quote mode hnext
          apply beginsPair_set (ne_char_of_not_mem_stringSigns hnew quote)
          intro hbegins
          rw [hnext hbegins] at hcode
          exact two_le_of_hidden hbegins hcode
        rw [List.set_cons_succ, scanFrom_cons_some hread', ih hcode hold]

theorem scanLine_set {carried : Option Quote}
    (hcode : (scanLine carried raw).code[place]? = some ' ') (hold : raw[place]? = some old)
    (hspace : old ≠ ' ') (hbackslash : old ≠ '\\') (hnew : new ∉ stringSigns) :
    scanLine carried (raw.set place new) = scanLine carried raw := by
  unfold scanLine at hcode ⊢
  rw [scanFrom_set hcode hold hspace hbackslash hnew]

end Line

/-! ## Texts -/

/-- The place of the character behind a text: in the last line, behind what stands there. -/
def Bracket.placeBehind (before : Text) : Bracket.Position :=
  let pieces := Text.pieces (· == '\n') before
  ⟨pieces.length, (pieces.getLastD []).length + 1⟩

/-- A character of a text that the scanner hides, neither a space nor a backslash, is replaced by
one that means nothing in a string and ends no line. -/
inductive EditInString : Text → Text → Prop
  | replace (before behind : Text) (old new : Char)
      (hcode : Bracket.charAt? (Bracket.codeLines (.ofText (before ++ old :: behind)))
        (Bracket.placeBehind before) = some ' ')
      (hspace : old ≠ ' ') (hbackslash : old ≠ '\\')
      (hnew : new ∉ ['\'', '"', '\\', '\n', '\r']) :
      EditInString (before ++ old :: behind) (before ++ new :: behind)

theorem length_dropReturn_le (line : Text) : (Text.dropReturn line).length ≤ line.length :=
  (Text.isPrefix_dropReturn line).length_le

/-- Where a character is left when the carriage return of its line is dropped, another may stand in
its place that is no carriage return. -/
theorem dropReturn_set {first rest : Text} {old new : Char}
    (h : first.length < (Text.dropReturn (first ++ old :: rest)).length) (hnew : new ≠ '\r') :
    Text.dropReturn (first ++ new :: rest) =
        (Text.dropReturn (first ++ old :: rest)).set first.length new ∧
      (Text.dropReturn (first ++ old :: rest))[first.length]? = some old := by
  by_cases hrest : rest = []
  · subst hrest
    have hold : old ≠ '\r' := by
      rintro rfl
      rw [Text.dropReturn_append first (List.cons_ne_nil _ _)] at h
      simp [Text.dropReturn] at h
    rw [Text.dropReturn_append first (List.cons_ne_nil _ _),
      Text.dropReturn_append first (List.cons_ne_nil _ _), Text.dropReturn_singleton hold,
      Text.dropReturn_singleton hnew]
    simp
  · have hdrop (c : Char) :
        Text.dropReturn (first ++ c :: rest) = first ++ c :: Text.dropReturn rest := by
      rw [Text.dropReturn_append first (List.cons_ne_nil _ _)]
      exact congrArg (first ++ ·) (Text.dropReturn_append [c] hrest)
    rw [hdrop, hdrop]
    simp

/-- The lines around a character that breaks none, and the place of the character in its line. -/
theorem exists_lines_around (before behind : Text) :
    ∃ earlier first rest later,
      Bracket.placeBehind before = ⟨earlier.length + 1, first.length + 1⟩ ∧
      Text.lines before = earlier ++ [Text.dropReturn first] ∧
      ∀ c, c ≠ '\n' → Text.lines (before ++ c :: behind) =
        earlier ++ Text.dropReturn (first ++ c :: rest) :: later := by
  obtain ⟨pieces, first, hbefore⟩ :
      ∃ pieces first, Text.pieces (· == '\n') before = pieces ++ [first] :=
    ⟨_, _, (List.dropLast_concat_getLast (Text.pieces_ne_nil _ before)).symm⟩
  obtain ⟨rest, others, hbehind⟩ :=
    List.exists_cons_of_ne_nil (Text.pieces_ne_nil (· == '\n') behind)
  refine ⟨pieces.map Text.dropReturn, first, rest, others.map Text.dropReturn, ?_, ?_, ?_⟩
  · simp [Bracket.placeBehind, hbefore]
  · simp [Text.lines, hbefore]
  · intro c hc
    have hgrown : Text.pieces (· == '\n') (c :: behind) = (c :: rest) :: others := by
      rw [Text.pieces, if_neg (by simpa using hc), hbehind]
      rfl
    rw [Text.lines, Text.pieces_append_of_eq hbefore hgrown]
    simp

/-- An edit in a string leaves the scans as they are. -/
theorem EditInString.scans_eq {text text' : Text} (h : EditInString text text') :
    (Source.ofText text').scans = (Source.ofText text).scans := by
  obtain ⟨before, behind, old, new, hcode, hspace, hbackslash, hnew⟩ := h
  obtain ⟨earlier, first, rest, later, hplace, hbefore, hlines⟩ := exists_lines_around before behind
  have hsigns : new ∉ stringSigns ∧ new ≠ '\n' ∧ new ≠ '\r' := by
    simpa [stringSigns, and_assoc] using hnew
  rw [hplace] at hcode
  simp only [Bracket.charAt?, Bracket.codeLines, List.getElem?_map, Option.bind_map,
    Option.bind_eq_some_iff] at hcode
  obtain ⟨scan, hscan, hshown⟩ := hcode
  change (scanLines none (Text.lines _))[_]? = _ at hscan
  change scanLines none (Text.lines _) = scanLines none (Text.lines _)
  -- a line break stands behind its line, where the scanner shows nothing
  have hold : old ≠ '\n' := by
    rintro rfl
    obtain ⟨line, carried, hline, rfl⟩ := exists_of_getElem?_scanLines hscan
    obtain ⟨hlt, -⟩ := List.getElem?_eq_some_iff.1 hshown
    have hshorter := Nat.lt_of_lt_of_le hlt (length_scanFrom_le _ line)
    have hle := length_dropReturn_le first
    rw [Text.lines_append, hbefore] at hline
    simp at hline
    rw [hline] at hle
    omega
  rw [hlines old hold, scanLines_around] at hscan ⊢
  rw [hlines new hsigns.2.1, scanLines_around]
  rw [List.getElem?_append_right (by simp), length_scanLines, Nat.sub_self,
    List.getElem?_cons_zero, Option.some_inj] at hscan
  rw [← hscan] at hshown
  obtain ⟨hlt, -⟩ := List.getElem?_eq_some_iff.1 hshown
  obtain ⟨hset, hget⟩ := dropReturn_set (Nat.lt_of_lt_of_le hlt (length_scanFrom_le _ _)) hsigns.2.2
  rw [hset, scanLine_set hshown hget hspace hbackslash hsigns.1]

/-- **Contents of strings.** Where the scanner hides a character of a line that is no backslash, any
other that is neither a quote nor a backslash leaves the scan of the line as it is; and such edits
anywhere in a text leave its scans as they are, and what the check of brackets finds. -/
theorem string_contents_do_not_matter :
    (∀ (carried : Option Quote) (raw : Text) (place : Nat) (old new : Char),
      (scanLine carried raw).code[place]? = some ' ' → raw[place]? = some old → old ≠ ' ' →
      old ≠ '\\' → new ∉ ['\'', '"', '\\'] →
      scanLine carried (raw.set place new) = scanLine carried raw) ∧
    ∀ text text', Relation.ReflTransGen EditInString text text' →
      (Source.ofText text').scans = (Source.ofText text).scans ∧
        Bracket.check (.ofText text') = Bracket.check (.ofText text) := by
  constructor
  · intro carried raw place old new hcode hold hspace hbackslash hnew
    exact scanLine_set hcode hold hspace hbackslash hnew
  · intro text text' hedits
    have hscans : (Source.ofText text').scans = (Source.ofText text).scans := by
      induction hedits with
      | refl => rfl
      | tail _ hedit ih => rw [hedit.scans_eq, ih]
    refine ⟨hscans, ?_⟩
    rw [Bracket.check, Bracket.check, Bracket.marks, Bracket.marks, hscans]

/-- A lone quote in front of three others, a bracket behind an escaped quote, and a lone quote on a
line inside a string. -/
theorem string_contents_do_not_matter_beside_quotes :
    let line := "a\"#\"\"\"+ (".toList
    let text := "s = 'it\\'s (' + \"\"\"\n \" b\n\"\"\" + [".toList
    let text' := "s = 'it\\'s #' + \"\"\"\n ) b\n\"\"\" + [".toList
    scanLine (some .double) (line.set 1 'x') = scanLine (some .double) line ∧
      Relation.ReflTransGen EditInString text text' ∧
      (Source.ofText text').scans = (Source.ofText text).scans ∧
      Bracket.check (.ofText text') = some (.unclosedOpener ⟨.square, ⟨3, 7⟩⟩) := by
  intro line text text'
  have hbracket : EditInString text "s = 'it\\'s #' + \"\"\"\n \" b\n\"\"\" + [".toList :=
    EditInString.replace "s = 'it\\'s ".toList "' + \"\"\"\n \" b\n\"\"\" + [".toList '(' '#'
      (by decide +kernel) (by decide) (by decide) (by decide)
  have hquote : EditInString "s = 'it\\'s #' + \"\"\"\n \" b\n\"\"\" + [".toList text' :=
    EditInString.replace "s = 'it\\'s #' + \"\"\"\n ".toList " b\n\"\"\" + [".toList '"' ')'
      (by decide +kernel) (by decide) (by decide) (by decide)
  have hcheck : Bracket.check (.ofText text) = some (.unclosedOpener ⟨.square, ⟨3, 7⟩⟩) := by
    decide +kernel
  obtain ⟨hline, htext⟩ := string_contents_do_not_matter
  have hedits : Relation.ReflTransGen EditInString text text' :=
    (Relation.ReflTransGen.single hbracket).tail hquote
  obtain ⟨hscans, hbrackets⟩ := htext text text' hedits
  exact ⟨hline (some .double) line 1 '"' 'x' (by decide) (by decide) (by decide) (by decide)
    (by decide), hedits, hscans, hbrackets.trans hcheck⟩

end DryRun
