import DryRun.Toml.Basic

/-!
# Records in TOML

A record is a table with its fields by name, or an array with its fields in order. Entries of other
names and further items do not count.
-/

namespace DryRun

namespace Toml

/-- The values of the fields of a record; a moment is a record without any. -/
def fields? (names : List String) : Toml → Option (List (Option Toml))
  | table _ entries => some (names.map fun name => entries.lookup name.toList)
  | array items | tables items =>
    let given := (items.take names.length).map some
    some (given ++ List.replicate (names.length - given.length) none)
  | moment => some (names.map fun _ => none)
  | _ => none

/-- The float of a number. -/
def float? : Toml → Option Float
  | float x => some x
  | integer n => some (Float.ofInt n)
  | _ => none

/-- The number of an integer that is not negative. -/
def word? : Toml → Option Nat
  | integer n => if 0 ≤ n then some n.toNat else none
  | _ => none

/-- The text of a string. -/
def text? : Toml → Option Text
  | string text => some text
  | _ => none

end Toml

end DryRun
