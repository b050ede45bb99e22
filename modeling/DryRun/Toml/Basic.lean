import DryRun.Text.Basic

/-!
# TOML

Values of TOML and how tables grow. A table remembers how it came to be, because that decides
whether later keys and headers may add to it.
-/

namespace DryRun

/-- How a table has been defined. -/
inductive Toml.Origin where
  /-- Between braces; nothing can be added to it. -/
  | inline
  /-- By a header of its own. -/
  | header
  /-- By a header for a table inside it. -/
  | implied
  /-- By a dotted key for a value inside it. -/
  | dotted
  deriving DecidableEq, Repr

/-- A value of TOML. -/
inductive Toml where
  | string (text : Text)
  | integer (n : Int)
  | float (x : Float)
  | boolean (b : Bool)
  /-- A date, a time, or both. -/
  | moment
  | array (items : List Toml)
  | table (origin : Toml.Origin) (entries : List (Text × Toml))
  /-- Tables that were added one by one with headers of their own. -/
  | tables (items : List Toml)

namespace Toml

/-- The entries of a table. -/
abbrev Entries := List (Text × Toml)

/-- Entries with one of them replaced, or added at the end. -/
def put (key : Text) (value : Toml) : Entries → Entries
  | [] => [(key, value)]
  | (other, old) :: rest =>
    if other = key then (key, value) :: rest else (other, old) :: put key value rest

/-- A change to a table, given how the table came to be; none where it is not allowed. -/
abbrev Change := Origin → Entries → Option (Origin × Entries)

/-- A change to the table that a value is, or to the last of the tables that it is. A table with a
header of its own can be changed by a header, but not through a dotted key. -/
def changeIn (through : Origin) (change : Change) : Toml → Option Toml
  | table origin entries =>
    if origin = .inline ∨ (through = .dotted ∧ origin = .header) then none
    else (change origin entries).map fun (origin, entries) => table origin entries
  | tables items =>
    match items.reverse with
    | table origin entries :: earlier =>
      (change origin entries).map fun (origin, entries) =>
        tables (table origin entries :: earlier).reverse
    | _ => none
  | _ => none

/-- A change to the table at the end of a path; tables on the way that do not exist yet come to be
in the given way. -/
def changeAt (through : Origin) (change : Change) : List Text → Change
  | [] => change
  | key :: path => fun origin entries =>
    let inner := ((entries.lookup key).getD (table through []))
    (changeIn through (changeAt through change path) inner).map fun value =>
      (origin, put key value entries)

/-! ## Changes -/

/-- A new key with its value; `through` says whether the table was reached through a dotted key. -/
def addValue (through : Bool) (key : Text) (value : Toml) : Change := fun origin entries =>
  if through = (origin = .dotted) ∧ (entries.lookup key).isNone then
    some (origin, put key value entries)
  else none

/-- A new value behind a key with dots or without. -/
def assign (path : List Text) (key : Text) (value : Toml) : Change :=
  changeAt .dotted (addValue (!path.isEmpty) key value) path

/-- A new table with a header of its own. -/
def addTable (key : Text) : Change := fun origin entries =>
  match entries.lookup key with
  | none => some (origin, put key (table .header []) entries)
  | some (table .implied inner) => some (origin, put key (table .header inner) entries)
  | some _ => none

/-- One more table of several with the same header. -/
def addToTables (key : Text) : Change := fun origin entries =>
  match entries.lookup key with
  | none => some (origin, put key (tables [table .header []]) entries)
  | some (tables items) => some (origin, put key (tables (items ++ [table .header []])) entries)
  | some _ => none

/-! ## Documents -/

/-- A statement of a document; a path ends with its last key. -/
inductive Statement where
  | assign (path : List Text) (key : Text) (value : Toml)
  | header (path : List Text) (key : Text)
  | arrayHeader (path : List Text) (key : Text)

/-- A document that is being read, and the path of the table that keys are added to. -/
structure Draft where
  entries : Entries
  current : List Text

/-- The document behind a change to the table at the end of a path. -/
def Draft.change (draft : Draft) (path : List Text) (change : Change) (current : List Text) :
    Option Draft :=
  (changeAt .implied change path .header draft.entries).map fun (_, entries) =>
    { entries, current }

/-- The document behind a statement. -/
def Draft.add (draft : Draft) : Statement → Option Draft
  | .assign path key value => draft.change draft.current (Toml.assign path key value) draft.current
  | .header path key => draft.change path (addTable key) (path ++ [key])
  | .arrayHeader path key => draft.change path (addToTables key) (path ++ [key])

/-- The table of a document. -/
def ofStatements? (statements : List Statement) : Option Toml :=
  (statements.foldlM Draft.add ⟨[], []⟩).map fun draft => table .header draft.entries

/-- The table between braces, of keys with their values. -/
def ofBraces? (pairs : List (List Text × Text × Toml)) : Option Toml :=
  let add (state : Origin × Entries) : List Text × Text × Toml → Option (Origin × Entries)
    | (path, key, value) => assign path key value state.1 state.2
  (pairs.foldlM add (.header, [])).map fun (_, entries) => table .inline entries

end Toml

end DryRun
