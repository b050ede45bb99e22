import DryRun.Function
import DryRun.Proofs.Evaluation.Avoided
import DryRun.Proofs.Text.Patterns

/-!
# Parts of definitions

The defaults of a function stand in the line of its header, and its body is made of lines behind
it. So a name that does not occur in the lines of a source does not occur in its functions.
-/

namespace DryRun

open Text Unicode

namespace Function

/-! ## Headers -/

theorem isSuffix_of_blanks1 {text behind : Text} {found : Unit}
    (h : Pattern.blanks1 text = some (found, behind)) : behind <:+ text := by
  obtain ⟨⟨blank, rest⟩, hblank, hrest⟩ := Option.bind_eq_some_iff.1 h
  obtain rfl := eq_cons_of_charOf hblank
  cases hrest
  exact (List.dropWhile_suffix _).trans (List.suffix_cons _ _)

theorem isNameStart_of_identifier {text name behind : Text}
    (h : identifier text = some (name, behind)) : name.head?.any isNameStart = true := by
  obtain ⟨⟨first, rest⟩, hfirst, hothers⟩ := Option.bind_eq_some_iff.1 h
  cases Option.some.inj hothers
  exact (Pattern.eq_cons_of_charOf hfirst).2

theorem isNameStart_of_header? {line : Text} {found : Header} (h : header? line = some found) :
    found.name.head?.any isNameStart = true := by
  obtain ⟨⟨found', behind⟩, hread, rfl⟩ := Option.map_eq_some_iff.1 h
  obtain ⟨⟨_, spaced⟩, -, hread⟩ := Option.bind_eq_some_iff.1 hread
  obtain ⟨⟨_, named⟩, -, hread⟩ := Option.bind_eq_some_iff.1 hread
  obtain ⟨⟨name, opened⟩, hname, hread⟩ := Option.bind_eq_some_iff.1 hread
  obtain ⟨⟨_, inside⟩, -, hread⟩ := Option.bind_eq_some_iff.1 hread
  obtain ⟨⟨_, closed⟩, -, hread⟩ := Option.bind_eq_some_iff.1 hread
  obtain ⟨⟨_, typed⟩, -, hread⟩ := Option.bind_eq_some_iff.1 hread
  obtain ⟨⟨_, ended⟩, -, hread⟩ := Option.bind_eq_some_iff.1 hread
  cases hread
  exact isNameStart_of_identifier hname

theorem isInfix_of_header? {line : Text} {found : Header} (h : header? line = some found) :
    found.parameters <:+: line := by
  obtain ⟨⟨found', behind⟩, hread, rfl⟩ := Option.map_eq_some_iff.1 h
  obtain ⟨⟨_, spaced⟩, hdef, hread⟩ := Option.bind_eq_some_iff.1 hread
  obtain ⟨⟨_, named⟩, hblanks, hread⟩ := Option.bind_eq_some_iff.1 hread
  obtain ⟨⟨name, opened⟩, hname, hread⟩ := Option.bind_eq_some_iff.1 hread
  obtain ⟨⟨_, inside⟩, hopening, hread⟩ := Option.bind_eq_some_iff.1 hread
  obtain ⟨⟨_, closed⟩, hclosing, hread⟩ := Option.bind_eq_some_iff.1 hread
  obtain ⟨⟨_, typed⟩, htype, hread⟩ := Option.bind_eq_some_iff.1 hread
  obtain ⟨⟨_, ended⟩, hcolon, hread⟩ := Option.bind_eq_some_iff.1 hread
  cases hread
  have hspaced : spaced <:+ Text.trim line := by
    rw [eq_append_of_word hdef]
    exact List.suffix_append _ _
  have hinside : inside <:+ opened := by
    have hrest := eq_append_of_word hopening
    have hdrop : opened.dropWhile Unicode.isBlank <:+ opened := List.dropWhile_suffix _
    rw [hrest] at hdrop
    exact (List.suffix_append _ _).trans hdrop
  have hopened : opened <:+ spaced :=
    (isSuffix_of_identifier hname).trans (isSuffix_of_blanks1 hblanks)
  exact (List.takeWhile_prefix _).isInfix.trans
    ((hinside.trans (hopened.trans hspaced)).isInfix.trans (isInfix_trim line))

/-! ## Parameters -/

theorem isInfix_of_parameter? {text default : Text} {parameter : Parameter}
    (h : parameter? text = some parameter) (hdefault : parameter.default = some default) :
    default <:+: text := by
  unfold parameter? at h
  split at h
  rename_i declared default' hsplit
  dsimp only at h
  split at h
  · cases h
  · cases h
    split at hsplit
    · rename_i declared' given hgiven
      cases hsplit
      cases hdefault
      obtain ⟨c, rfl⟩ := exists_of_splitFirst? hgiven
      exact (isInfix_trim given).trans
        ((List.suffix_cons _ _).trans (List.suffix_append _ _)).isInfix
    · cases hsplit
      cases hdefault

theorem isInfix_of_mem_parametersOf {text default : Text} {parameter : Parameter}
    (h : parameter ∈ parametersOf text) (hdefault : parameter.default = some default) :
    default <:+: text := by
  obtain ⟨piece, hpiece, hparameter⟩ := List.mem_filterMap.1 h
  exact (isInfix_of_parameter? hparameter hdefault).trans
    ((cut_pieces _ text).isInfix piece hpiece)

/-! ## Functions -/

theorem avoids_of_ofLines? {name line : Text} {later : List Text} {function : Function}
    (h : ofLines? line later = some function) (hline : line.Avoids name)
    (hlater : ∀ line ∈ later, line.Avoids name) : function.Avoids name := by
  obtain ⟨found, hfound, rfl⟩ := Option.map_eq_some_iff.1 h
  constructor
  · intro parameter hparameter default hdefault
    exact hline.of_isInfix ((isInfix_of_mem_parametersOf hparameter hdefault).trans
      (isInfix_of_header? hfound))
  · intro line hmem
    exact hlater line ((List.takeWhile_prefix _).subset hmem)

theorem exists_of_mem_collect {earlier : Functions} {lines : List Text} {function : Function}
    (h : function ∈ collect earlier lines) :
    function ∈ earlier ∨
      ∃ line later, line :: later <:+ lines ∧ ofLines? line later = some function := by
  induction lines generalizing earlier with
  | nil => exact .inl h
  | cons line later ih =>
    rcases ih h with hmem | ⟨line', later', hlater, hdefined⟩
    · rcases List.mem_append.1 hmem with hnew | hold
      · exact .inr ⟨line, later, List.suffix_rfl, Option.mem_toList.1 hnew⟩
      · exact .inl hold
    · exact .inr ⟨line', later', hlater.trans (List.suffix_cons line later), hdefined⟩

/-- A name that occurs in no line occurs in none of the functions that the lines define. -/
theorem avoids_of_mem_collect {name : Text} {earlier : Functions} {lines : List Text}
    (hearlier : ∀ function ∈ earlier, function.Avoids name)
    (hlines : ∀ line ∈ lines, line.Avoids name) :
    ∀ function ∈ collect earlier lines, function.Avoids name := by
  intro function hfunction
  rcases exists_of_mem_collect hfunction with hold | ⟨line, later, hlater, hdefined⟩
  · exact hearlier function hold
  · have hparts := fun line' hmem => hlines line' (hlater.subset hmem)
    rw [List.forall_mem_cons] at hparts
    exact avoids_of_ofLines? hdefined hparts.1 hparts.2

/-- The functions of a source have names. -/
theorem isNameStart_of_mem_ofSource {source : Source} {function : Function}
    (h : function ∈ ofSource source) : function.name.head?.any isNameStart = true := by
  rcases exists_of_mem_collect h with hnone | ⟨line, later, -, hdefined⟩
  · cases hnone
  · obtain ⟨found, hfound, rfl⟩ := Option.map_eq_some_iff.1 hdefined
    exact isNameStart_of_header? hfound

end Function

end DryRun
