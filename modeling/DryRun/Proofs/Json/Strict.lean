import DryRun.Json.Number
import DryRun.Json.Record
import DryRun.Proofs.Json.Tokens

/-!
# Strict JSON as it is written

Strict JSON reads what is written, with any characters in strings (`read?_pretty`), and natural
numbers up to 64 bits and the fields of records as they are.
-/

namespace DryRun

namespace Json

/-- What strict JSON is read with. -/
def strictLexis : Lexis where
  token := readToken
  gap := fun text => some ((), text.dropWhile isSpace)
  isBlank := isSpace
  dialect := { trailingComma := false, constant? := fun _ => none }

/-- Strict JSON reads what is written. -/
theorem lawful_strictLexis : strictLexis.Lawful (fun _ => true) where
  isBlank_space := rfl
  isBlank_feed := rfl
  gap_eq _ := rfl
  mark {c token} rest h := by
    refine ⟨?_, forall_mark (p := fun c => (!(isSpace c || c == '/')) = true) rfl h⟩
    have hquote : c ≠ '"' := forall_mark (p := fun c => c ≠ '"') rfl h
    show readToken (c :: rest) = _
    rw [readToken, if_neg hquote, h]
  quote {text} rest _ := ⟨readToken_quote text rest, rfl⟩
  numeral {numeral rest} negative h hrest := by
    refine ⟨readToken_numeral h negative hrest, ?_⟩
    obtain ⟨c, others, htext, hc⟩ := exists_cons_numeral h negative
    rw [htext]
    exact forall_first (p := fun c => (!(isSpace c || c == '/')) = true) (by decide) (by decide) hc
  constant {name rest value} h hrest := by
    refine ⟨.scalar value, ⟨readToken_constant h hrest, ?_⟩, fun closable stack => rfl⟩
    rcases eq_of_constant? h with rfl | rfl | rfl
    all_goals rfl

/-- **What is written is read back**, with or without a line feed behind it. -/
theorem read?_pretty {json : Json} (h : json.Written fun _ => true) {rest : Text}
    (hrest : rest = [] ∨ rest = ['\n']) : Json.read? (json.pretty ++ rest) = some json :=
  Lexis.read?_pretty lawful_strictLexis h hrest

/-! ## Scalars -/

theorem word?_ofNat {n : Nat} (h : n ≤ wordCap) : (ofNat n).word? = some n := by
  show (readNatural? (decimalDigits n)).filter (· ≤ wordCap) = some n
  rw [readNatural?_decimalDigits]
  exact Option.filter_eq_some_iff.2 ⟨rfl, decide_eq_true h⟩

@[simp] theorem string?_ofString (s : String) : (ofString s).string? = some s :=
  congrArg some String.ofList_toList

/-! ## Records -/

/-- Members with the texts of their keys. -/
def withTexts (members : List (String × Json)) : List (Text × Json) :=
  members.map fun member => (member.1.toList, member.2)

theorem keyed?_record (members : List (String × Json)) :
    keyed? (members.map fun member => (some member.1.toList, member.2)) =
      some (withTexts members) := by
  unfold keyed?
  rw [List.mapM_map]
  exact List.mapM_pure

section Records

variable {members : List (String × Json)} (hkeys : (members.map Prod.fst).Nodup)

include hkeys

theorem filter_withTexts (name : String) :
    (withTexts members).filter (fun member => [name].any (member.1 == ·.toList)) =
      (List.lookup name members).toList.map fun value => (name.toList, value) := by
  induction members with
  | nil => rfl
  | cons member members ih =>
    obtain ⟨key, value⟩ := member
    obtain ⟨hkey, htail⟩ := List.nodup_cons.1 hkeys
    have hcons : withTexts ((key, value) :: members) = (key.toList, value) :: withTexts members :=
      rfl
    by_cases hname : name = key
    · subst hname
      have hnone : List.lookup name members = none := by
        rw [List.lookup_eq_none_iff]
        intro member hmember
        refine bne_iff_ne.2 fun heq => hkey ?_
        rw [heq]
        exact List.mem_map.2 ⟨member, hmember, rfl⟩
      have hhead : [name].any ((name.toList, value).1 == ·.toList) = true := by simp
      have hothers : (withTexts members).filter
          (fun member => [name].any (member.1 == ·.toList)) = [] := by
        rw [ih htail, hnone]
        rfl
      rw [hcons, List.filter_cons, if_pos hhead, hothers, List.lookup_cons_self]
      rfl
    · have hhead : ¬ [name].any ((key.toList, value).1 == ·.toList) = true := by
        simpa [String.toList_inj] using fun heq => hname heq.symm
      rw [hcons, List.filter_cons, if_neg hhead, ih htail, List.lookup_cons, beq_false_of_ne hname]

theorem fieldOf?_withTexts (name : String) :
    fieldOf? (withTexts members) [name] = some (List.lookup name members) := by
  unfold fieldOf?
  generalize hfound : List.filter _ (withTexts members) = found
  have hlookup := hfound.symm.trans (filter_withTexts hkeys name)
  rw [hlookup]
  cases List.lookup name members with
  | none => rfl
  | some value => rfl

/-- The fields of a record are the members of their names. -/
theorem fields?_record (spare : Bool) (names : List String) :
    (record members).fields? spare (names.map ([·])) =
      some ⟨true, names.map (List.lookup · members)⟩ := by
  have hfields : (names.map ([·])).mapM (fieldOf? (withTexts members)) =
      some (names.map (List.lookup · members)) := by
    rw [List.mapM_map]
    simp only [Function.comp_def, fieldOf?_withTexts hkeys]
    exact List.mapM_pure
  show (keyed? _).bind _ = _
  rw [keyed?_record, Option.bind_some, hfields]
  rfl

end Records

end Json

end DryRun
