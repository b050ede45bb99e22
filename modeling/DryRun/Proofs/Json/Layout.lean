import DryRun.Json.Reader
import DryRun.Json.Writer
import DryRun.Proofs.Number.Numeral
import DryRun.Proofs.Text.Patterns

/-!
# JSON as it is written

What is written on lines of its own is read back, in strict and in relaxed JSON alike: whatever the
machine has on its stack, the layout of a value brings it behind that value (`Written.brings`), and
so the whole text is read as the value (`Lexis.read?_pretty`). What the two kinds of JSON have to
provide for that is said in `Lexis.Lawful`.
-/

namespace DryRun

namespace Json

/-! ## Tokens -/

/-- What values of JSON are read with. -/
structure Lexis where
  token : Pattern Token
  /-- What is left out between tokens. -/
  gap : Pattern Unit
  /-- The characters that are left out between tokens by themselves. -/
  isBlank : Char → Bool
  dialect : Dialect

namespace Lexis

variable (lexis : Lexis)

/-- The value of a text. -/
def read? (text : Text) : Option Json := do
  let (_, rest) ← lexis.gap text
  assemble lexis.dialect (← Pattern.readAll (lexis.token <* lexis.gap) rest)

/-- Whether a text begins with a token that ends where the rest begins. -/
structure Begins (front : Text) (token : Token) (rest : Text) : Prop where
  reads : lexis.token (front ++ rest) = some (token, rest)
  /-- Nothing of it is left out as a blank or a comment. -/
  opens : front.head?.any (fun c => !(lexis.isBlank c || c == '/')) = true

end Lexis

/-- Whether a text ends a token that is neither punctuation nor a string: it is empty, or begins
with a comma or a line break. -/
def Ends (rest : Text) : Prop := rest = [] ∨ rest.head? = some ',' ∨ rest.head? = some '\n'

theorem Ends.any_head? {rest : Text} (h : Ends rest) {inClass : Char → Bool}
    (hcomma : inClass ',' = false) (hfeed : inClass '\n' = false) :
    rest.head?.any inClass = false := by
  rcases h with rfl | h | h
  · rfl
  · rw [h]
    exact hcomma
  · rw [h]
    exact hfeed

/-- Whether what is written is read as it is meant, token by token, as long as strings hold only
characters of a class. -/
structure Lexis.Lawful (lexis : Lexis) (isPlain : Char → Bool) : Prop where
  isBlank_space : lexis.isBlank ' ' = true
  isBlank_feed : lexis.isBlank '\n' = true
  gap_eq : ∀ {text : Text}, (text.dropWhile lexis.isBlank).head? ≠ some '/' →
    lexis.gap text = some ((), text.dropWhile lexis.isBlank)
  mark : ∀ {c : Char} {token : Token} (rest : Text), punctuation? c = some token →
    lexis.Begins [c] token rest
  quote : ∀ {text : Text} (rest : Text), (∀ c ∈ text, isPlain c = true) →
    lexis.Begins (quote text) (.scalar (.string (some text))) rest
  numeral : ∀ {numeral : Numeral} {rest : Text} (negative : Bool), numeral.Regular → Ends rest →
    lexis.Begins (signText negative ++ numeral.text)
      (.scalar (.number (signText negative ++ numeral.text))) rest
  constant : ∀ {name rest : Text} {value : Json}, constant? name = some value → Ends rest →
    ∃ token, lexis.Begins name token rest ∧ ∀ closable stack,
      step lexis.dialect (.value closable stack) token = some (complete value stack)

/-! ## From texts to values -/

/-- Whether the tokens of a text without comments lead the machine from a state to a value. -/
inductive Lexis.Completes (lexis : Lexis) (result : Json) : State → Text → Prop
  | done : Completes lexis result (.done result) []
  | gap {c : Char} {state : State} {text : Text} (hc : lexis.isBlank c = true)
      (h : Completes lexis result state text) : Completes lexis result state (c :: text)
  | token {token : Token} {state next : State} {front rest : Text}
      (hbegins : lexis.Begins front token rest)
      (hstep : step lexis.dialect state token = some next)
      (h : Completes lexis result next rest) : Completes lexis result state (front ++ rest)

/-- Whether the layout of a value brings the machine behind that value. -/
def Lexis.Brings (lexis : Lexis) (result : Json) (depth : Nat) (json : Json) : Prop :=
  ∀ (closable : Bool) (stack : List Frame) (rest : Text), Ends rest →
    lexis.Completes result (complete json stack) rest →
    lexis.Completes result (.value closable stack) (json.layout depth ++ rest)

/-- Whether the key of a member has a text of characters of a class. -/
def HasKey (isPlain : Char → Bool) (member : Option Text × Json) : Prop :=
  ∃ key, member.1 = some key ∧ ∀ c ∈ key, isPlain c = true

/-- Whether a value is one that is written and read back: its numbers are numerals, and its strings
and keys have texts of characters of a class. -/
inductive Written (isPlain : Char → Bool) : Json → Prop
  | null : Written isPlain .null
  | bool (b : Bool) : Written isPlain (.bool b)
  | number (negative : Bool) {numeral : Numeral} (h : numeral.Regular) :
      Written isPlain (.number (signText negative ++ numeral.text))
  | string {text : Text} (h : ∀ c ∈ text, isPlain c = true) : Written isPlain (.string (some text))
  | array {items : List Json} (h : ∀ item ∈ items, Written isPlain item) :
      Written isPlain (.array items)
  | object {members : List (Option Text × Json)}
      (hkeys : ∀ member ∈ members, HasKey isPlain member)
      (h : ∀ member ∈ members, Written isPlain member.2) : Written isPlain (.object members)

theorem block_append {depth : Nat} (opener closer : Char) {parts : List Text} (rest : Text)
    (hne : parts ≠ []) :
    block depth opener closer parts ++ rest =
      opener :: '\n' :: (Text.join [',', '\n'] (parts.map (Json.margin (depth + 1) ++ ·)) ++
        '\n' :: (Json.margin depth ++ closer :: rest)) := by
  unfold block
  simp [hne]

section Reading

variable {lexis : Lexis} {isPlain : Char → Bool} (hlexis : lexis.Lawful isPlain) {result : Json}

include hlexis

theorem Lexis.Completes.reads {state : State} {text : Text}
    (h : lexis.Completes result state text) :
    (text.dropWhile lexis.isBlank).head? ≠ some '/' ∧
      ∃ tokens, Pattern.Reads (lexis.token <* lexis.gap) (text.dropWhile lexis.isBlank) tokens ∧
        (tokens.foldlM (step lexis.dialect) state).bind finish = some result := by
  induction h with
  | done => exact ⟨by simp, [], .nil, rfl⟩
  | gap hc _ ih =>
    rw [List.dropWhile_cons_of_pos hc]
    exact ih
  | @token token state next front rest hbegins hstep _ ih =>
    obtain ⟨hslash, tokens, hreads, hfold⟩ := ih
    obtain ⟨hread, hopens⟩ := hbegins
    obtain ⟨c, others, rfl⟩ : ∃ c others, front = c :: others := by
      cases front with
      | nil => cases hopens
      | cons c others => exact ⟨c, others, rfl⟩
    rw [List.head?_cons, Option.any_some, Bool.not_eq_true', Bool.or_eq_false_iff] at hopens
    have hdrop : (c :: others ++ rest).dropWhile lexis.isBlank = c :: others ++ rest :=
      Text.dropWhile_of_any_head? hopens.1
    refine ⟨?_, token :: tokens, ?_, ?_⟩
    · rw [hdrop]
      intro hhead
      rw [Option.some.inj hhead] at hopens
      cases hopens.2
    · rw [hdrop]
      refine .cons (Pattern.seqLeft_of_some hread (hlexis.gap_eq hslash)) ?_ hreads
      have hle := Text.length_dropWhile_le lexis.isBlank rest
      simp
      omega
    · rw [List.foldlM_cons, hstep]
      exact hfold

/-- A text is read as the value that its tokens lead to. -/
theorem Lexis.Completes.read? {text : Text} (h : lexis.Completes result (.value false []) text) :
    lexis.read? text = some result := by
  obtain ⟨hslash, tokens, hreads, hfold⟩ := h.reads hlexis
  unfold Lexis.read?
  rw [hlexis.gap_eq hslash]
  show (Pattern.readAll (lexis.token <* lexis.gap) (text.dropWhile lexis.isBlank)).bind _ = _
  rw [Pattern.readAll_of_reads hreads]
  exact hfold

/-! ## Layout -/

theorem Lexis.Completes.feed {state : State} {rest : Text}
    (h : lexis.Completes result state rest) : lexis.Completes result state ('\n' :: rest) :=
  .gap hlexis.isBlank_feed h

theorem Lexis.Completes.margin {state : State} {rest : Text} (depth : Nat)
    (h : lexis.Completes result state rest) :
    lexis.Completes result state (margin depth ++ rest) := by
  unfold Json.margin
  induction 2 * depth with
  | zero => exact h
  | succ n ih => exact .gap hlexis.isBlank_space ih

theorem Lexis.Completes.mark {c : Char} {token : Token} {state next : State} {rest : Text}
    (hmark : punctuation? c = some token) (hstep : step lexis.dialect state token = some next)
    (h : lexis.Completes result next rest) : lexis.Completes result state (c :: rest) :=
  .token (hlexis.mark rest hmark) hstep h

/-- Items with their commas bring the machine behind the array. -/
theorem completes_items {depth : Nat} {first : Json} {others : List Json}
    (h : ∀ item ∈ first :: others, lexis.Brings result (depth + 1) item) {before : List Json}
    {stack : List Frame} {rest : Text} (closable : Bool)
    (hrest : lexis.Completes result (complete (.array (before.reverse ++ first :: others)) stack)
      rest) :
    lexis.Completes result (.value closable (.array before :: stack))
      (Text.join [',', '\n'] ((first :: others).map
        fun item => Json.margin (depth + 1) ++ item.layout (depth + 1)) ++
          '\n' :: (Json.margin depth ++ ']' :: rest)) := by
  induction others generalizing first before closable with
  | nil =>
    rw [List.map_singleton, Text.join_singleton, List.append_assoc]
    refine .margin hlexis _ (h first List.mem_cons_self _ _ _ (Or.inr (Or.inr rfl)) ?_)
    refine .feed hlexis (.margin hlexis _ (.mark hlexis rfl rfl ?_))
    rwa [List.reverse_cons]
  | cons second others ih =>
    obtain ⟨hfirst, hothers⟩ := List.forall_mem_cons.1 h
    have hjoin : Text.join [',', '\n'] ((first :: second :: others).map
        fun item => Json.margin (depth + 1) ++ item.layout (depth + 1)) =
          Json.margin (depth + 1) ++ first.layout (depth + 1) ++ ([',', '\n'] ++
            Text.join [',', '\n'] ((second :: others).map
              fun item => Json.margin (depth + 1) ++ item.layout (depth + 1))) :=
      Text.join_cons_cons _ _ _ _
    rw [hjoin, List.append_assoc, List.append_assoc]
    refine .margin hlexis _ (hfirst _ _ _ (Or.inr (Or.inl rfl))
      (.mark hlexis rfl rfl (.feed hlexis ?_)))
    -- behind a comma the array may be closed at once in relaxed JSON only
    refine ih hothers lexis.dialect.trailingComma ?_
    rwa [List.reverse_cons, List.append_assoc]

/-- A member in its place among the others. -/
def memberText (depth : Nat) (member : Option Text × Json) : Text :=
  Json.margin depth ++ (quote (member.1.getD []) ++ ':' :: ' ' :: member.2.layout depth)

/-- A member brings the machine behind that member. -/
theorem completes_member {depth : Nat} {member : Option Text × Json} (hkey : HasKey isPlain member)
    (h : lexis.Brings result depth member.2) {before : Members} {stack : List Frame} {rest : Text}
    (closable : Bool) (hends : Ends rest)
    (hrest : lexis.Completes result (.member (member :: before) stack) rest) :
    lexis.Completes result (.key closable before stack) (memberText depth member ++ rest) := by
  obtain ⟨key, value⟩ := member
  obtain ⟨key, rfl, hkey⟩ := hkey
  unfold memberText
  rw [List.append_assoc, List.append_assoc]
  refine .margin hlexis _ (.token (hlexis.quote _ hkey) rfl
    (.mark hlexis rfl rfl (.gap hlexis.isBlank_space ?_)))
  exact h _ _ _ hends hrest

/-- Members with their commas bring the machine behind the object. -/
theorem completes_members {depth : Nat} {first : Option Text × Json}
    {others : List (Option Text × Json)} (hkeys : ∀ member ∈ first :: others, HasKey isPlain member)
    (h : ∀ member ∈ first :: others, lexis.Brings result (depth + 1) member.2) {before : Members}
    {stack : List Frame} {rest : Text} (closable : Bool)
    (hrest : lexis.Completes result (complete (.object (before.reverse ++ first :: others)) stack)
      rest) :
    lexis.Completes result (.key closable before stack)
      (Text.join [',', '\n'] ((first :: others).map (memberText (depth + 1))) ++
          '\n' :: (Json.margin depth ++ '}' :: rest)) := by
  induction others generalizing first before closable with
  | nil =>
    rw [List.map_singleton, Text.join_singleton]
    refine completes_member hlexis (hkeys first List.mem_cons_self) (h first List.mem_cons_self) _
      (Or.inr (Or.inr rfl)) ?_
    refine .feed hlexis (.margin hlexis _ (.mark hlexis rfl rfl ?_))
    show lexis.Completes result (complete (.object (first :: before).reverse) stack) rest
    rwa [List.reverse_cons]
  | cons second others ih =>
    obtain ⟨hfirst, hothers⟩ := List.forall_mem_cons.1 h
    obtain ⟨hkey, hkeys⟩ := List.forall_mem_cons.1 hkeys
    have hjoin : Text.join [',', '\n'] ((first :: second :: others).map (memberText (depth + 1))) =
        memberText (depth + 1) first ++ ([',', '\n'] ++
          Text.join [',', '\n'] ((second :: others).map (memberText (depth + 1)))) :=
      Text.join_cons_cons _ _ _ _
    rw [hjoin, List.append_assoc]
    refine completes_member hlexis hkey hfirst _ (Or.inr (Or.inl rfl))
      (.mark hlexis rfl rfl (.feed hlexis ?_))
    refine ih hkeys hothers lexis.dialect.trailingComma ?_
    rwa [List.reverse_cons, List.append_assoc]

theorem brings_of_constant? {value : Json} {depth : Nat}
    (h : constant? (value.layout depth) = some value) : lexis.Brings result depth value := by
  intro closable stack rest hrest hbehind
  obtain ⟨token, hbegins, hstep⟩ := hlexis.constant h hrest
  exact .token hbegins (hstep closable stack) hbehind

/-- **The layout of a value brings the machine behind that value.** -/
theorem Written.brings {json : Json} (h : json.Written isPlain) (depth : Nat) :
    lexis.Brings result depth json := by
  induction h generalizing depth with
  | null => exact brings_of_constant? hlexis (by rw [layout]; rfl)
  | bool b =>
    cases b with
    | true => exact brings_of_constant? hlexis (by rw [layout]; rfl)
    | false => exact brings_of_constant? hlexis (by rw [layout]; rfl)
  | number negative h =>
    intro closable stack rest hrest hbehind
    rw [layout]
    exact .token (hlexis.numeral negative h hrest) rfl hbehind
  | string h =>
    intro closable stack rest hrest hbehind
    rw [layout]
    exact .token (hlexis.quote rest h) rfl hbehind
  | @array items h ih =>
    intro closable stack rest hrest hbehind
    rw [layout]
    cases items with
    | nil => exact .mark hlexis rfl rfl (.mark hlexis rfl rfl hbehind)
    | cons first others =>
      rw [block_append '[' ']' rest, List.map_map]
      · exact .mark hlexis rfl rfl (.feed hlexis
          (completes_items hlexis (fun item hitem => ih item hitem (depth + 1)) true hbehind))
      · simp
  | @object members hkeys h ih =>
    intro closable stack rest hrest hbehind
    rw [layout]
    cases members with
    | nil => exact .mark hlexis rfl rfl (.mark hlexis rfl rfl hbehind)
    | cons first others =>
      rw [block_append '{' '}' rest, List.map_map]
      · exact .mark hlexis rfl rfl (.feed hlexis (completes_members hlexis hkeys
          (fun member hmember => ih member hmember (depth + 1)) true hbehind))
      · simp

/-- **What is written is read back**, with or without a line feed behind it. -/
theorem Lexis.read?_pretty {json : Json} (h : json.Written isPlain) {rest : Text}
    (hrest : rest = [] ∨ rest = ['\n']) : lexis.read? (json.pretty ++ rest) = some json := by
  refine Lexis.Completes.read? hlexis (h.brings hlexis 0 false [] rest ?_ ?_)
  · rcases hrest with rfl | rfl
    · exact Or.inl rfl
    · exact Or.inr (Or.inr rfl)
  · rcases hrest with rfl | rfl
    · exact .done
    · exact .feed hlexis .done

end Reading

/-! ## Values that are written -/

theorem written_record {isPlain : Char → Bool} {members : List (String × Json)}
    (hkeys : ∀ member ∈ members, ∀ c ∈ member.1.toList, isPlain c = true)
    (h : ∀ member ∈ members, member.2.Written isPlain) : (record members).Written isPlain := by
  refine .object ?_ ?_
  · intro member hmember
    obtain ⟨given, hgiven, rfl⟩ := List.mem_map.1 hmember
    exact ⟨given.1.toList, rfl, hkeys given hgiven⟩
  · intro member hmember
    obtain ⟨given, hgiven, rfl⟩ := List.mem_map.1 hmember
    exact h given hgiven

theorem written_ofNat (isPlain : Char → Bool) (n : Nat) : (ofNat n).Written isPlain := by
  have hwritten : Written isPlain _ := .number false (Numeral.regular_ofNat n)
  rwa [Numeral.text_ofNat] at hwritten

end Json

end DryRun
