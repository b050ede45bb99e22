import DryRun.Proofs.Bracket.FirstFault
import DryRun.Rule

/-!
# Balance

Counting brackets against nesting them. The balance of marks is what they leave open of a kind, more
or less, and adds up over lines; where the stack of openers gets through the marks, it is the number
of openers of the kind that the stack gains (`balance_of_openAfter`).

1. The balance of marks, of lines and of the stack.
2. The depth that is carried from line to line is the height of the stack.
3. Lines whose openers later lines close, and the line whose openers none does.
-/

namespace DryRun

namespace Bracket

/-! ## Counting -/

/-- How many more openers than closers of a kind marks have. -/
def balance (bracket : Bracket) (marks : List Mark) : Int :=
  ((word marks).count bracket.opener : Int) - (word marks).count bracket.closer

/-- How many more openers than closers of a kind lines have. -/
def total (bracket : Bracket) : List LineScan → Int
  | [] => 0
  | scan :: rest => bracket.netDepth scan + total bracket rest

/-- How many openers of a kind a stack has. -/
def height (bracket : Bracket) (stack : List Opener) : Nat :=
  stack.countP (·.bracket = bracket)

@[simp] theorem total_nil (bracket : Bracket) : total bracket [] = 0 := rfl

@[simp] theorem total_cons (bracket : Bracket) (scan : LineScan) (scans : List LineScan) :
    total bracket (scan :: scans) = bracket.netDepth scan + total bracket scans := rfl

theorem total_append (bracket : Bracket) (earlier later : List LineScan) :
    total bracket (earlier ++ later) = total bracket earlier + total bracket later := by
  induction earlier with
  | nil => simp
  | cons scan earlier ih =>
    rw [List.cons_append, total_cons, total_cons, ih]
    omega

theorem balance_append (bracket : Bracket) (u v : List Mark) :
    balance bracket (u ++ v) = balance bracket u + balance bracket v := by
  unfold balance
  rw [word_append, List.count_append, List.count_append]
  omega

theorem isBracket_char (side : Side) (bracket : Bracket) :
    isBracket (side.char bracket) = true := by
  rw [isBracket, ofChar?_char]
  rfl

theorem count_filter_isBracket (side : Side) (bracket : Bracket) (code : Text) :
    (code.filter isBracket).count (side.char bracket) = code.count (side.char bracket) :=
  List.count_filter (isBracket_char side bracket)

/-- The balance of a line is counted in its code. -/
theorem balance_marksOfLine (bracket : Bracket) (scan : LineScan) (number : Nat) :
    balance bracket (marksOfLine scan number) = bracket.netDepth scan := by
  have hopens : (scan.code.filter isBracket).count bracket.opener =
      scan.code.count bracket.opener := count_filter_isBracket .opens bracket scan.code
  have hcloses : (scan.code.filter isBracket).count bracket.closer =
      scan.code.count bracket.closer := count_filter_isBracket .closes bracket scan.code
  unfold balance
  rw [marksOfLine_eq, word_filterMap_markAt, hopens, hcloses]
  rfl

theorem balance_marksFrom (bracket : Bracket) (number : Nat) (scans : List LineScan) :
    balance bracket (marksFrom number scans) = total bracket scans := by
  induction scans generalizing number with
  | nil => rfl
  | cons scan rest ih =>
    rw [marksFrom_cons, balance_append, balance_marksOfLine, ih, total_cons]

theorem balance_opener_cons (bracket kind : Bracket) (position : Position) (marks : List Mark) :
    balance bracket (⟨.opens, kind, position⟩ :: marks) =
      balance bracket marks + (if kind = bracket then 1 else 0) := by
  unfold balance
  cases kind <;> cases bracket <;>
    simp [Mark.char, Side.char, Bracket.opener, Bracket.closer] <;> omega

theorem balance_closer_cons (bracket kind : Bracket) (position : Position) (marks : List Mark) :
    balance bracket (⟨.closes, kind, position⟩ :: marks) =
      balance bracket marks - (if kind = bracket then 1 else 0) := by
  unfold balance
  cases kind <;> cases bracket <;>
    simp [Mark.char, Side.char, Bracket.opener, Bracket.closer] <;> omega

@[simp] theorem height_cons (bracket : Bracket) (opener : Opener) (stack : List Opener) :
    height bracket (opener :: stack) =
      height bracket stack + if opener.bracket = bracket then 1 else 0 := by
  simp [height, List.countP_cons]

/-- The stack gains of a kind what the marks leave open of it. -/
theorem balance_of_openAfter (bracket : Bracket) {stack stack' : List Opener} {marks : List Mark}
    (h : openAfter stack marks = some stack') :
    balance bracket marks = (height bracket stack' : Int) - height bracket stack := by
  induction marks generalizing stack with
  | nil =>
    rw [openAfter_nil] at h
    rw [Option.some.inj h]
    simp [balance]
  | cons mark rest ih =>
    obtain ⟨side, kind, position⟩ := mark
    cases side with
    | opens =>
      rw [openAfter_opens] at h
      rw [balance_opener_cons, ih h, height_cons]
      by_cases hkind : kind = bracket
      · rw [if_pos hkind, if_pos hkind]
        omega
      · rw [if_neg hkind, if_neg hkind]
        omega
    | closes =>
      cases stack with
      | nil => cases h
      | cons opener stack =>
        rw [openAfter_closer_cons] at h
        split at h
        · rename_i heq
          rw [balance_closer_cons, ih h, height_cons, heq]
          by_cases hkind : kind = bracket
          · rw [if_pos hkind, if_pos hkind]
            omega
          · rw [if_neg hkind, if_neg hkind]
            omega
        · cases h

/-- A stack is as high as it has openers of the three kinds. -/
theorem height_add_height_add_height (stack : List Opener) :
    height .round stack + height .square stack + height .curly stack = stack.length := by
  induction stack with
  | nil => rfl
  | cons opener stack ih =>
    obtain ⟨kind, position⟩ := opener
    cases kind <;> simp <;> omega

/-! ## The depth carried from line to line -/

theorem depthAfter_eq_length {stack stack' : List Opener} {number : Nat} {scan : LineScan}
    (h : openAfter stack (marksOfLine scan number) = some stack') :
    Site.depthAfter stack.length scan = stack'.length := by
  have hround := balance_of_openAfter .round h
  have hsquare := balance_of_openAfter .square h
  have hcurly := balance_of_openAfter .curly h
  rw [balance_marksOfLine] at hround hsquare hcurly
  have hstack := height_add_height_add_height stack
  have hstack' := height_add_height_add_height stack'
  unfold Site.depthAfter
  omega

/-- The depth behind lines is the height of the stack, which the bound at zero never changes. -/
theorem depth_eq_length {stack stack' : List Opener} {number : Nat} {scans : List LineScan}
    (h : openAfter stack (marksFrom number scans) = some stack') :
    scans.foldl Site.depthAfter stack.length = stack'.length := by
  induction scans generalizing stack number with
  | nil =>
    rw [marksFrom_nil, openAfter_nil] at h
    rw [Option.some.inj h, List.foldl_nil]
  | cons scan rest ih =>
    rw [marksFrom_cons, openAfter_append] at h
    obtain ⟨middle, hline, hrest⟩ := Option.bind_eq_some_iff.1 h
    rw [List.foldl_cons, depthAfter_eq_length hline]
    exact ih hrest

/-! ## Closing on later lines -/

/-- A depth is closed within lines when it comes back to none behind some of them. -/
theorem closesWithin_iff {bracket : Bracket} {depth : Int} {scans : List LineScan} :
    Site.closesWithin bracket depth scans = true ↔
      ∃ earlier later, scans = earlier ++ later ∧ depth + total bracket earlier ≤ 0 := by
  induction scans generalizing depth with
  | nil =>
    simp only [Site.closesWithin, decide_eq_true_eq]
    constructor
    · intro h
      exact ⟨[], [], rfl, by rwa [total_nil, Int.add_zero]⟩
    · rintro ⟨earlier, later, hnil, h⟩
      obtain ⟨rfl, -⟩ := List.append_eq_nil_iff.1 hnil.symm
      rwa [total_nil, Int.add_zero] at h
  | cons scan rest ih =>
    simp only [Site.closesWithin, Bool.or_eq_true, decide_eq_true_eq, ih]
    constructor
    · rintro (h | ⟨earlier, later, rfl, h⟩)
      · exact ⟨[], scan :: rest, rfl, by rwa [total_nil, Int.add_zero]⟩
      · exact ⟨scan :: earlier, later, rfl, by rw [total_cons]; omega⟩
    · rintro ⟨earlier, later, heq, h⟩
      cases earlier with
      | nil => exact Or.inl (by rwa [total_nil, Int.add_zero] at h)
      | cons first earlier =>
        obtain ⟨rfl, rfl⟩ := List.cons.inj heq
        rw [total_cons] at h
        exact Or.inr ⟨earlier, later, rfl, by omega⟩

/-- Lines with a positive total have a line that leaves open what no later line closes: the one
behind which the running total never comes back to where it was. -/
theorem exists_line_never_closed {bracket : Bracket} {scans : List LineScan}
    (h : 0 < total bracket scans) :
    ∃ earlier scan later, scans = earlier ++ scan :: later ∧
      Site.closesWithin bracket (bracket.netDepth scan) later = false := by
  induction hn : scans.length using Nat.strongRecOn generalizing scans with
  | ind n ih =>
    cases scans with
    | nil => simp at h
    | cons scan rest =>
      cases hcloses : Site.closesWithin bracket (bracket.netDepth scan) rest with
      | false => exact ⟨[], scan, rest, rfl, hcloses⟩
      | true =>
        -- the total up to there is not positive, so that of the lines behind is
        obtain ⟨closing, behind, rfl, hle⟩ := closesWithin_iff.1 hcloses
        have hbehind : 0 < total bracket behind := by
          rw [total_cons, total_append] at h
          omega
        have hlt : behind.length < n := by
          rw [← hn, List.length_cons, List.length_append]
          omega
        obtain ⟨earlier, found, later, rfl, hfound⟩ := ih _ hlt hbehind rfl
        exact ⟨scan :: (closing ++ earlier), found, later, by simp, hfound⟩

/-- What is never closed is open to begin with. -/
theorem pos_of_closesWithin_eq_false {bracket : Bracket} {depth : Int} {scans : List LineScan}
    (h : Site.closesWithin bracket depth scans = false) : 0 < depth := by
  by_cases hdepth : depth ≤ 0
  · have hcloses : Site.closesWithin bracket depth scans = true :=
      closesWithin_iff.2 ⟨[], scans, rfl, by rwa [total_nil, Int.add_zero]⟩
    rw [h] at hcloses
    cases hcloses
  · omega

end Bracket

end DryRun
