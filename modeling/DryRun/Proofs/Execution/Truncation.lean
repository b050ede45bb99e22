import DryRun.Execution.Executor
import DryRun.Proofs.Arithmetic.Repetition

/-!
# Cut output

Output with more bytes than the limit is cut at the last boundary between characters up to the
limit, and a note gives the bytes that are left and the bytes that there were (`output_truncated`).
The cut is where a search goes that looks at one offset after another, from the limit backwards; it
takes at most three steps, and none from the beginning of the text.

1. The longest beginning of a text within a number of bytes.
2. The backward search for a boundary.
3. The output of a result.
-/

namespace DryRun

/-! ## Longest beginnings -/

section Beginning

variable {limit : Nat} {front text : Text}

theorem takeBytesOnto_eq (collected : Text) (limit : Nat) (text : Text) :
    takeBytesOnto collected limit text = collected.reverse ++ takeBytes limit text := by
  unfold takeBytes
  induction text generalizing collected limit with
  | nil => exact (List.append_nil _).symm
  | cons c rest ih =>
    unfold takeBytesOnto
    split
    · rw [ih (c :: collected), ih [c], List.reverse_cons, List.append_assoc]
      rfl
    · exact (List.append_nil _).symm

theorem takeBytes_cons (limit : Nat) (c : Char) (rest : Text) :
    takeBytes limit (c :: rest) =
      if c.utf8Size ≤ limit then c :: takeBytes (limit - c.utf8Size) rest else [] := by
  rw [takeBytes, takeBytesOnto]
  split
  · rw [takeBytesOnto_eq]
    rfl
  · rfl

theorem Text.byteSize_cons (c : Char) (rest : Text) :
    Text.byteSize (c :: rest) = c.utf8Size + Text.byteSize rest := by
  rw [Text.byteSize_eq_sum, List.map_cons, List.sum_cons, ← Text.byteSize_eq_sum]

theorem takeBytes_prefix (limit : Nat) (text : Text) : takeBytes limit text <+: text := by
  induction text generalizing limit with
  | nil => exact List.prefix_rfl
  | cons c rest ih =>
    rw [takeBytes_cons]
    split
    · exact List.cons_prefix_cons.2 ⟨rfl, ih _⟩
    · exact List.nil_prefix

theorem byteSize_takeBytes_le (limit : Nat) (text : Text) :
    Text.byteSize (takeBytes limit text) ≤ limit := by
  induction text generalizing limit with
  | nil => exact Nat.zero_le limit
  | cons c rest ih =>
    rw [takeBytes_cons]
    split
    · rename_i hfits
      have hrest := ih (limit - c.utf8Size)
      rw [Text.byteSize_cons]
      omega
    · exact Nat.zero_le limit

/-- Every beginning within the limit is one of the beginning that is taken. -/
theorem prefix_takeBytes (hfront : front <+: text) (hsize : Text.byteSize front ≤ limit) :
    front <+: takeBytes limit text := by
  induction text generalizing front limit with
  | nil =>
    rw [List.prefix_nil.1 hfront]
    exact List.nil_prefix
  | cons c rest ih =>
    rcases List.prefix_cons_iff.1 hfront with rfl | ⟨others, rfl, hothers⟩
    · exact List.nil_prefix
    · rw [Text.byteSize_cons] at hsize
      rw [takeBytes_cons, if_pos (by omega)]
      exact List.cons_prefix_cons.2 ⟨rfl, ih hothers (by omega)⟩

/-- What is taken from a longer text falls short of the limit by less than a character. -/
theorem le_byteSize_takeBytes (h : limit < Text.byteSize text) :
    limit ≤ Text.byteSize (takeBytes limit text) + 3 := by
  induction text generalizing limit with
  | nil => exact absurd h (Nat.not_lt_zero limit)
  | cons c rest ih =>
    rw [Text.byteSize_cons] at h
    rw [takeBytes_cons]
    split
    · rename_i hfits
      have hshort : limit - c.utf8Size < Text.byteSize rest := by omega
      have hrest := ih hshort
      rw [Text.byteSize_cons]
      omega
    · rename_i hbeyond
      have hfour := c.utf8Size_le_four
      omega

end Beginning

/-! ## Backward search -/

namespace Text

/-- Whether an offset in bytes is between two characters of a text, or at one of its ends. -/
def IsBoundary (text : Text) (offset : Nat) : Prop :=
  ∃ front, front <+: text ∧ byteSize front = offset

/-- The search for a boundary from an offset backwards, byte by byte, and the offset where it stops.
It has no step from the offset zero. -/
inductive SearchesBack (text : Text) : Nat → Nat → Prop
  | found {offset : Nat} (h : text.IsBoundary offset) : SearchesBack text offset offset
  | back {offset cut : Nat} (h : ¬ text.IsBoundary (offset + 1))
      (rest : SearchesBack text offset cut) : SearchesBack text (offset + 1) cut

/-- A search finds the last boundary. -/
theorem searchesBack_of_isBoundary {text : Text} {offset cut : Nat} (hcut : text.IsBoundary cut)
    (hle : cut ≤ offset) (hlast : ∀ between, cut < between → between ≤ offset →
      ¬ text.IsBoundary between) : text.SearchesBack offset cut := by
  induction offset with
  | zero =>
    rw [Nat.le_zero.1 hle] at hcut ⊢
    exact .found hcut
  | succ offset ih =>
    rcases Nat.le_or_eq_of_le_succ hle with hbelow | rfl
    · refine .back (hlast _ (Nat.lt_succ_of_le hbelow) (Nat.le_refl _)) (ih hbelow ?_)
      intro between hlt hbetween
      exact hlast between hlt (Nat.le_succ_of_le hbetween)
    · exact .found hcut

theorem searchesBack_takeBytes (limit : Nat) (text : Text) :
    text.SearchesBack limit (byteSize (takeBytes limit text)) := by
  refine searchesBack_of_isBoundary ⟨_, takeBytes_prefix limit text, rfl⟩
    (byteSize_takeBytes_le limit text) ?_
  rintro between hlt hle ⟨front, hfront, rfl⟩
  obtain ⟨others, hothers⟩ := prefix_takeBytes hfront hle
  rw [← hothers, byteSize_append] at hlt
  omega

end Text

/-! ## Output -/

/-- **Cut output.** Output within the limit is shown as it is. Of longer output the longest
beginning within the limit is shown, which falls short of it by three bytes at most, with a note on
the bytes of both. A search for a boundary from the limit backwards stops there. -/
theorem output_truncated (config : ExecutorConfig) (request : Request) (spent : Duration)
    (output : Text) :
    let limit := config.maxOutputBytes
    let shown := (RunResult.ofInterpretation config request spent (.output output)).output
    (Text.byteSize output ≤ limit → shown = String.ofList output) ∧
    (limit < Text.byteSize output →
      ∃ kept, kept <+: output ∧ Text.byteSize kept ≤ limit ∧ limit - 3 ≤ Text.byteSize kept ∧
        (∀ front, front <+: output → Text.byteSize front ≤ limit → front <+: kept) ∧
        output.SearchesBack limit (Text.byteSize kept) ∧
        shown = String.ofList kept ++ "\n... output truncated (" ++
          toString (Text.byteSize kept) ++ " of " ++ toString (Text.byteSize output) ++
          " bytes shown)") := by
  intro limit shown
  have hshown : shown = truncateOutput limit output := rfl
  rw [hshown, truncateOutput]
  dsimp only
  constructor
  · intro hle
    rw [if_pos hle]
  · intro hlt
    have hshort := le_byteSize_takeBytes hlt
    rw [if_neg (Nat.not_le.2 hlt)]
    exact ⟨takeBytes limit output, takeBytes_prefix limit output,
      byteSize_takeBytes_le limit output, Nat.sub_le_of_le_add hshort,
      fun _ => prefix_takeBytes, Text.searchesBack_takeBytes limit output, rfl⟩

/-- A limit inside of the second letter, which takes two bytes. -/
theorem output_truncated_inside_letter :
    let config : ExecutorConfig := { Config.defaultExecutor with maxOutputBytes := 2 }
    let output : Text := "héllo world".toList
    let shown := (RunResult.ofInterpretation config ⟨"", "python", 30⟩ .zero
      (.output output)).output
    2 < Text.byteSize output ∧
      ∃ kept, ['h'] <+: kept ∧ Text.byteSize kept ≤ 2 ∧
        output.SearchesBack 2 (Text.byteSize kept) ∧
        shown = String.ofList kept ++ "\n... output truncated (" ++
          toString (Text.byteSize kept) ++ " of " ++ toString 12 ++ " bytes shown)" := by
  intro config output shown
  have hlt : 2 < Text.byteSize output := by decide
  have hsize : Text.byteSize output = 12 := by decide
  obtain ⟨kept, -, hle, -, hlongest, hsearch, hshown⟩ :=
    (output_truncated config ⟨"", "python", 30⟩ .zero output).2 hlt
  rw [hsize] at hshown
  exact ⟨hlt, kept, hlongest ['h'] ⟨"éllo world".toList, rfl⟩ (by decide), hle, hsearch, hshown⟩

/-- A limit below the first letter keeps nothing. -/
example : truncateOutput 2 "€".toList = "\n... output truncated (0 of 3 bytes shown)" := by cbv

end DryRun
