import DryRun.Proofs.Allocation.Size
import DryRun.Proofs.Text.Pieces
import DryRun.Proofs.Verdict.Insertion

/-!
# Reports of allocations

What is said of an allocation: what is made, the number of its elements or bytes, and the megabytes
that they take. Both numbers are quoted in groups of three digits (`quotes_message`), and what is
too large takes more than the limit that is quoted beside it. A text behind another is reported for
what is found in it just if nothing is found in the other (`check_joined`).
-/

namespace DryRun

namespace Allocation

open Size

/-! ## Messages -/

/-- Whether a message quotes a number behind a text that says what is made, and in front of the
unit in which it is counted. -/
def Quotes (message made : String) (n : Nat) (unit : String) : Prop :=
  ∃ quoted rest : String, InThousands n quoted.toList ∧
    message = "MemoryError: " ++ (made ++ (quoted ++ (unit ++ rest)))

/-- Whether a text is reported with a message that quotes a number. -/
def Reports (text : Text) (made : String) (n : Nat) (unit : String) : Prop :=
  ∃ finding ∈ check (.ofText text), Quotes finding.message made n unit

/-- Whether a text is reported exactly where a number reaches a limit, on its first line and with a
message that quotes the number up to the cap. -/
structure ReportedFrom (limit n : Nat) (text : Text) (made unit : String) : Prop where
  isSome_iff : (check (.ofText text)).isSome = true ↔ limit ≤ n
  quotes : ∀ finding ∈ check (.ofText text),
    finding.line = 1 ∧ Quotes finding.message made (min n cap) unit

/-- What is said to be made, in front of the number. -/
def made : Allocation → String
  | repeatedList _ => "creating a list of "
  | rangeList _ => "list(range(...)) with "
  | repeatedString _ => "creating a string of "
  | buffer name _ => "allocating a " ++ name ++ " of "
  | nestedLists outer inner =>
    "a nested list comprehension of " ++ grouped outer ++ " x " ++ grouped inner ++ " = "
  | repeatedBytes _ => "creating a bytes object of "

/-- The unit in which what is made is counted. -/
def unit : Allocation → String
  | repeatedList _ | rangeList _ | nestedLists .. => " elements"
  | repeatedString _ => " characters"
  | buffer .. | repeatedBytes _ => " bytes"

theorem description_eq (allocation : Allocation) :
    allocation.description =
      allocation.made ++ grouped allocation.count ++ allocation.unit := by
  cases allocation <;> rfl

/-- A message quotes the number of things allocated. -/
theorem quotes_message (allocation : Allocation) :
    Quotes allocation.message allocation.made allocation.count allocation.unit := by
  refine ⟨grouped allocation.count, " would need about " ++
    grouped (allocation.bytes / (1024 * 1024)) ++ " MB, which exceeds the " ++
      toString memoryLimit ++ " MB memory limit", grouped_inThousands _, ?_⟩
  unfold message
  simp only [description_eq, String.append_assoc]

/-- The first characters of a message behind its name, which tell lists from all else. -/
def lead (message : String) : Text := (message.toList.drop 13).take 12

theorem lead_append {made : String} (h : 12 ≤ made.toList.length) (rest : String) :
    lead ("MemoryError: " ++ (made ++ rest)) = made.toList.take 12 := by
  have hname : "MemoryError: ".toList.length = 13 := by decide
  rw [lead, String.toList_append, String.toList_append, ← hname, List.drop_left,
    List.take_append_of_le_length h]

/-- The beginnings of what is said to be made. -/
def leads : Allocation → Text
  | repeatedList _ => "creating a l".toList
  | rangeList _ => "list(range(.".toList
  | repeatedString _ => "creating a s".toList
  | buffer .. => "allocating a".toList
  | nestedLists .. => "a nested lis".toList
  | repeatedBytes _ => "creating a b".toList

/-- What begins a text begins the text with another behind it. -/
theorem take_append {lead : Text} {beginning : String}
    (h : 12 ≤ beginning.toList.length ∧ beginning.toList.take 12 = lead) (rest : String) :
    12 ≤ (beginning ++ rest).toList.length ∧ (beginning ++ rest).toList.take 12 = lead := by
  rw [String.toList_append, List.take_append_of_le_length h.1, List.length_append]
  exact ⟨Nat.le_add_right_of_le h.1, h.2⟩

theorem take_made (allocation : Allocation) :
    12 ≤ allocation.made.toList.length ∧ allocation.made.toList.take 12 = allocation.leads := by
  cases allocation with
  | repeatedList _ =>
    exact (by decide : 12 ≤ "creating a list of ".toList.length ∧
      "creating a list of ".toList.take 12 = "creating a l".toList)
  | rangeList _ =>
    exact (by decide : 12 ≤ "list(range(...)) with ".toList.length ∧
      "list(range(...)) with ".toList.take 12 = "list(range(.".toList)
  | repeatedString _ =>
    exact (by decide : 12 ≤ "creating a string of ".toList.length ∧
      "creating a string of ".toList.take 12 = "creating a s".toList)
  | buffer name _ =>
    have hbeginning : 12 ≤ "allocating a ".toList.length ∧
        "allocating a ".toList.take 12 = "allocating a".toList := by decide
    exact take_append (take_append hbeginning name) " of "
  | nestedLists outer inner =>
    have hbeginning : 12 ≤ "a nested list comprehension of ".toList.length ∧
        "a nested list comprehension of ".toList.take 12 = "a nested lis".toList := by decide
    exact take_append (take_append (take_append (take_append hbeginning _) " x ") _) " = "
  | repeatedBytes _ =>
    exact (by decide : 12 ≤ "creating a bytes object of ".toList.length ∧
      "creating a bytes object of ".toList.take 12 = "creating a b".toList)

/-- Only what is said of a repeated list says that a list is created. -/
theorem eq_repeatedList_of_quotes {allocation : Allocation} {n : Nat} {unit : String}
    (h : Quotes allocation.message "creating a list of " n unit) :
    ∃ elements, allocation = repeatedList elements := by
  obtain ⟨quoted, rest, -, hmessage⟩ := h
  obtain ⟨quoted', rest', -, hmessage'⟩ := quotes_message allocation
  obtain ⟨hlength, htake⟩ := take_made allocation
  have hlead : allocation.leads = "creating a l".toList := by
    rw [← htake, ← lead_append hlength, ← hmessage', hmessage, lead_append (by decide)]
    decide
  -- the other forms begin otherwise
  cases allocation with
  | repeatedList elements => exact ⟨elements, rfl⟩
  | rangeList _ => exact absurd hlead (by decide : "list(range(.".toList ≠ "creating a l".toList)
  | repeatedString _ =>
    exact absurd hlead (by decide : "creating a s".toList ≠ "creating a l".toList)
  | buffer _ _ => exact absurd hlead (by decide : "allocating a".toList ≠ "creating a l".toList)
  | nestedLists _ _ =>
    exact absurd hlead (by decide : "a nested lis".toList ≠ "creating a l".toList)
  | repeatedBytes _ =>
    exact absurd hlead (by decide : "creating a b".toList ≠ "creating a l".toList)

/-! ## Estimates -/

theorem limit_le_cap (allocation : Allocation) : allocation.limit ≤ cap := by
  cases allocation with
  | repeatedList _ | rangeList _ | nestedLists _ _ => exact (by decide : listLimit ≤ cap)
  | repeatedString _ => exact (by decide : stringLimit ≤ cap)
  | buffer _ _ | repeatedBytes _ => exact (by decide : bufferLimit ≤ cap)

/-- An allocation of so many things is too large where their number reaches the limit. -/
theorem isExcessive_iff {allocation : Allocation} {n : Nat} (h : allocation.count = ofNat n) :
    allocation.isExcessive = true ↔ allocation.limit ≤ n := by
  unfold isExcessive
  rw [decide_eq_true_iff, h]
  exact le_ofNat_iff (limit_le_cap allocation)

/-- What an allocation takes that reaches the limit of its form. -/
theorem le_bytes {allocation : Allocation} (h : allocation.isExcessive = true) :
    500000000 ≤ allocation.bytes := by
  have hlimit : allocation.limit ≤ allocation.count := of_decide_eq_true h
  have hslots : ∀ {n : Size}, listLimit ≤ n → 500000000 ≤ n.times slotBytes := by
    intro n hn
    have hcount : 500000000 ≤ n * slotBytes :=
      calc 500000000 ≤ listLimit * slotBytes := by decide
        _ ≤ n * slotBytes := Nat.mul_le_mul_right slotBytes hn
    exact (le_ofNat_iff (by decide)).2 hcount
  cases allocation with
  | repeatedList _ | rangeList _ | nestedLists _ _ => exact hslots hlimit
  | repeatedString _ => exact le_trans (by decide : 500000000 ≤ stringLimit) hlimit
  | buffer _ _ | repeatedBytes _ => exact hlimit

theorem isExcessive_of_check {source : Source} {finding : Finding}
    (h : check source = some finding) : finding.allocation.isExcessive = true := by
  obtain ⟨⟨line, number⟩, -, hline⟩ := List.exists_of_findSome?_eq_some h
  obtain ⟨allocation, hfound, rfl⟩ := Option.map_eq_some_iff.1 hline
  exact List.find?_some hfound

/-! ## Texts behind one another -/

/-- The finding so many lines further down. -/
def Finding.below (count : Nat) (finding : Finding) : Finding :=
  { finding with line := finding.line + count }

theorem checkFrom_add (number count : Nat) (lines : List Text) :
    checkFrom (number + count) lines = (checkFrom number lines).map (Finding.below count) := by
  unfold checkFrom
  induction lines generalizing number with
  | nil => rfl
  | cons line rest ih =>
    have hfirst : findingOf? (line, number + count) =
        (findingOf? (line, number)).map (Finding.below count) := by
      unfold findingOf?
      rw [Option.map_map]
      rfl
    rw [List.zipIdx_cons, List.zipIdx_cons, List.findSome?_cons, List.findSome?_cons, hfirst,
      Nat.add_right_comm, ih]
    cases findingOf? (line, number) <;> rfl

/-- **Texts behind one another.** Two texts with a line break between them are reported for what is
found in the first, or else for what is found in the second, with its line that much further down.
Whatever is reported, the message quotes the megabytes that it takes, and these exceed the limit
that is quoted behind them. -/
theorem check_joined (a b : Text) :
    check (.ofText (a ++ '\n' :: b)) =
        (check (.ofText a)).or ((check (.ofText b)).map (Finding.below (Source.ofText a).size)) ∧
      ∀ source, ∀ finding ∈ check source,
        256 < finding.allocation.bytes / (1024 * 1024) ∧ ∃ estimate : String,
          InThousands (finding.allocation.bytes / (1024 * 1024)) estimate.toList ∧
            finding.message = "MemoryError: " ++ finding.allocation.description ++
              " would need about " ++ estimate ++ " MB, which exceeds the 256 MB memory limit" := by
  constructor
  · have hlines : (Source.ofText (a ++ '\n' :: b)).lines = Text.lines a ++ Text.lines b :=
      Text.lines_append a b
    rw [check_eq_checkFrom, hlines, checkFrom_append, checkFrom_add]
    rfl
  · intro source finding hfinding
    have hbytes := le_bytes (isExcessive_of_check hfinding)
    have hmegabytes : 256 < finding.allocation.bytes / (1024 * 1024) :=
      lt_of_lt_of_le (by decide : 256 < 500000000 / (1024 * 1024)) (Nat.div_le_div_right hbytes)
    have hlimit : " MB, which exceeds the " ++ (toString memoryLimit ++ " MB memory limit") =
        " MB, which exceeds the 256 MB memory limit" := by decide
    refine ⟨hmegabytes, grouped (finding.allocation.bytes / (1024 * 1024)),
      grouped_inThousands _, ?_⟩
    unfold Finding.message message
    rw [String.append_assoc, String.append_assoc, hlimit]

/-- A large string on the third line, behind a comment that spells out a large list. -/
theorem check_joined_to_comment :
    check (.ofText ("y = 1\n# [0] * 10**9".toList ++ '\n' :: "z = 'a' * 10**10".toList)) =
        some ⟨repeatedString 10000000000, 3⟩ ∧
      256 < 10000000000 / (1024 * 1024) ∧ ∃ estimate : String,
        InThousands (10000000000 / (1024 * 1024)) estimate.toList ∧
          (repeatedString 10000000000).message = "MemoryError: " ++
            (repeatedString 10000000000).description ++ " would need about " ++ estimate ++
              " MB, which exceeds the 256 MB memory limit" := by
  obtain ⟨hjoined, hquoted⟩ :=
    check_joined "y = 1\n# [0] * 10**9".toList "z = 'a' * 10**10".toList
  have hcheck : check (.ofText ("y = 1\n# [0] * 10**9".toList ++ '\n' ::
      "z = 'a' * 10**10".toList)) = some ⟨repeatedString 10000000000, 3⟩ := by
    rw [hjoined]
    decide +kernel
  exact ⟨hcheck, hquoted _ _ hcheck⟩

end Allocation

end DryRun
