import Mathlib.Tactic.IntervalCases
import DryRun.Json.Quoted
import DryRun.Json.Writer

/-!
# Strings as they are written

Strict and relaxed JSON share the quote and the escapes with which strings are written, so both read
back what is written, but for the characters that relaxed JSON does not allow in a string
(`quoted?_quote`).
-/

namespace DryRun

namespace Json

/-- Whether strings may be written with the usual quote and escapes, and hold all other characters
of a class as they are. -/
structure Quoting.Allows (quoting : Quoting) (isPlain : Char → Bool) : Prop where
  closer : quoting.closer = '"'
  escape_char : ∀ pair ∈ [('"', '"'), ('\\', '\\'), ('b', '\x08'), ('f', '\x0c'), ('n', '\n'),
    ('r', '\r'), ('t', '\t')], quoting.escape pair.1 = .char pair.2
  escape_unit : quoting.escape 'u' = .digits 3
  forbids_eq : ∀ c, isPlain c = true → 0x20 ≤ c.toNat → quoting.forbids c = false

section Pieces

variable {quoting : Quoting} {isPlain : Char → Bool} (h : quoting.Allows isPlain)

include h

theorem pieces?_backslash (rest : Text) :
    pieces? quoting .plain ('\\' :: rest) = pieces? quoting .escape rest := by
  rw [pieces?, h.closer, if_neg (by decide), if_pos rfl]

theorem pieces?_escape {c d : Char} (hpair : (c, d) ∈ [('"', '"'), ('\\', '\\'), ('b', '\x08'),
    ('f', '\x0c'), ('n', '\n'), ('r', '\r'), ('t', '\t')]) (rest : Text) :
    pieces? quoting .plain ('\\' :: c :: rest) =
      andPiece (.char d) (pieces? quoting .plain rest) := by
  rw [pieces?_backslash h, pieces?, h.escape_char _ hpair]

theorem pieces?_unicodeEscape {c : Char} (hc : c.toNat < 0x20) (rest : Text) :
    pieces? quoting .plain (unicodeEscape c ++ rest) =
      andPiece (.unit c.toNat) (pieces? quoting .plain rest) := by
  have hunit (digits : Text) : pieces? quoting .plain ('\\' :: 'u' :: digits) =
      pieces? quoting (.digits 3 0) digits := by
    rw [pieces?_backslash h, pieces?, h.escape_unit]
  unfold unicodeEscape
  generalize c.toNat = n at *
  interval_cases n <;> exact hunit _

/-- A character is read back from its escape. -/
theorem pieces?_escapeChar {c : Char} (hc : isPlain c = true) (rest : Text) :
    ∃ piece, pieces? quoting .plain (escapeChar c ++ rest) =
        andPiece piece (pieces? quoting .plain rest) ∧
      ∀ others, textOfPieces? (piece :: others) = (textOfPieces? others).map (c :: ·) := by
  unfold escapeChar
  split
  · exact ⟨.char _, pieces?_escape h (by decide) rest, fun _ => rfl⟩
  · exact ⟨.char _, pieces?_escape h (by decide) rest, fun _ => rfl⟩
  · exact ⟨.char _, pieces?_escape h (by decide) rest, fun _ => rfl⟩
  · exact ⟨.char _, pieces?_escape h (by decide) rest, fun _ => rfl⟩
  · exact ⟨.char _, pieces?_escape h (by decide) rest, fun _ => rfl⟩
  · exact ⟨.char _, pieces?_escape h (by decide) rest, fun _ => rfl⟩
  · exact ⟨.char _, pieces?_escape h (by decide) rest, fun _ => rfl⟩
  · rename_i hquote hbackslash _ _ _ _ _
    split
    · rename_i hcontrol
      refine ⟨.unit c.toNat, pieces?_unicodeEscape h hcontrol rest, fun others => ?_⟩
      have hlow : isLowHalf c.toNat = false := by
        simp [isLowHalf]
        omega
      have hhigh : isHighHalf c.toNat = false := by
        simp [isHighHalf]
        omega
      rw [textOfPieces?.eq_def]
      dsimp only
      rw [if_neg (Bool.eq_false_iff.1 hlow), if_neg (Bool.eq_false_iff.1 hhigh), Char.ofNat_toNat]
    · rename_i hcontrol
      refine ⟨.char c, ?_, fun _ => rfl⟩
      have hforbids := h.forbids_eq c hc (Nat.not_lt.1 hcontrol)
      show pieces? quoting .plain (c :: rest) = _
      rw [pieces?, h.closer, if_neg hquote, if_neg hbackslash,
        if_neg (Bool.eq_false_iff.1 hforbids)]

/-- **A string is read up to its closing quote.** -/
theorem quoted?_quote {text : Text} (htext : ∀ c ∈ text, isPlain c = true) (rest : Text) :
    ∃ behind, quote text ++ rest = '"' :: behind ∧
      quoted? quoting behind = some (.string (some text), rest) := by
  refine ⟨text.flatMap escapeChar ++ '"' :: rest, by simp [quote], ?_⟩
  have hpieces : ∃ pieces, pieces? quoting .plain (text.flatMap escapeChar ++ '"' :: rest) =
      some (pieces, rest) ∧ textOfPieces? pieces = some text := by
    induction text with
    | nil =>
      refine ⟨[], ?_, rfl⟩
      show pieces? quoting .plain ('"' :: rest) = _
      rw [pieces?, h.closer, if_pos rfl]
    | cons c text ih =>
      obtain ⟨hc, htext⟩ := List.forall_mem_cons.1 htext
      obtain ⟨pieces, hpieces, hvalue⟩ := ih htext
      obtain ⟨piece, hpiece, hjoin⟩ :=
        pieces?_escapeChar h hc (text.flatMap escapeChar ++ '"' :: rest)
      refine ⟨piece :: pieces, ?_, ?_⟩
      · rw [List.flatMap_cons, List.append_assoc, hpiece, hpieces]
        rfl
      · rw [hjoin, hvalue]
        rfl
  obtain ⟨pieces, hpieces, hvalue⟩ := hpieces
  unfold quoted?
  rw [hpieces, ← hvalue]
  rfl

end Pieces

end Json

end DryRun
