/-! # Tables of TOML

The entries of a document are defined one after the other. A key is defined
once; a table comes about by its header, by being on the way to another one, or
by keys with dots, and each kind may be added to in its own way only.
-/

namespace IssueSync.Toml

/-- How a table came about. -/
inductive Origin where
  /-- On the way to a table that has a header. -/
  | implied
  /-- By keys with dots. -/
  | dotted
  /-- By a header of its own. -/
  | header
  deriving DecidableEq, Repr

/-- A value as far as it matters: texts keep their content, the values in
brackets of either kind are complete where they stand. -/
inductive Value where
  | text (content : String)
  | scalar
  | bracketed
  deriving DecidableEq, Repr, Inhabited

/-- What a key of a document stands for. -/
inductive Item where
  | value (value : Value)
  | table (origin : Origin) (entries : List (String × Item))
  | tables (elements : List (List (String × Item)))
  deriving Repr, Inhabited

/-- The entries of a table, in the order of their definition. -/
abbrev Entries := List (String × Item)

/-- The entries with another item for a key, at the end if there was none. -/
def setEntry (key : String) (item : Item) : Entries → Entries
  | [] => [(key, item)]
  | (other, old) :: rest =>
      if other = key then (key, item) :: rest else (other, old) :: setEntry key item rest

/-- A list with its last element changed, if it has one and the change can be made. -/
def changeLast? {Element : Type} (change : Element → Option Element) :
    List Element → Option (List Element)
  | [] => none
  | [last] => (change last).map ([·])
  | first :: rest => (changeLast? change rest).map (first :: ·)

/-- The entries after a change of the table that a header names. Tables on the
way come about where they are missing; of several tables the last is meant. -/
def changeAt? (change : Entries → Option Entries) : List String → Entries → Option Entries
  | [], entries => change entries
  | key :: path, entries =>
      match entries.lookup key with
      | none => (changeAt? change path []).map fun inner =>
          setEntry key (.table .implied inner) entries
      | some (.table origin inner) => (changeAt? change path inner).map fun changed =>
          setEntry key (.table origin changed) entries
      | some (.tables elements) => (changeLast? (changeAt? change path) elements).map
          fun changed => setEntry key (.tables changed) entries
      | some (.value _) => none

/-- The entries after the header of a table with this key. -/
def addTable? (key : String) (entries : Entries) : Option Entries :=
  match entries.lookup key with
  | none => some (setEntry key (.table .header []) entries)
  | some (.table .implied inner) => some (setEntry key (.table .header inner) entries)
  | _ => none

/-- The entries after the header of one more table of a list of tables. -/
def addElement? (key : String) (entries : Entries) : Option Entries :=
  match entries.lookup key with
  | none => some (setEntry key (.tables [[]]) entries)
  | some (.tables elements) => some (setEntry key (.tables (elements ++ [[]])) entries)
  | _ => none

/-- The entries after the definition of a key with dots. The table right around
the value has to come about by such keys alone; farther out, of several tables
the last is meant. -/
def addValue? (value : Value) : List String → Entries → Option Entries
  | [], _ => none
  | [key], entries =>
      match entries.lookup key with
      | none => some (setEntry key (.value value) entries)
      | some _ => none
  | key :: next :: path, entries =>
      match entries.lookup key with
      | none => (addValue? value (next :: path) []).map fun inner =>
          setEntry key (.table .dotted inner) entries
      | some (.table origin inner) =>
          if origin = .dotted ∨ (origin = .implied ∧ !path.isEmpty) then
            (addValue? value (next :: path) inner).map fun changed =>
              setEntry key (.table origin changed) entries
          else none
      | some (.tables elements) =>
          if path.isEmpty then none
          else (changeLast? (addValue? value (next :: path)) elements).map fun changed =>
            setEntry key (.tables changed) entries
      | some (.value _) => none

/-- A header or an entry of a text. -/
inductive Line where
  | table (path : List String)
  | element (path : List String)
  | entry (path : List String) (value : Value)
  deriving Repr

/-- What has been defined so far, and the path of the header in effect. -/
structure Definitions where
  entries : Entries
  current : List String

/-- What is defined after one more header or entry. Headers say where the entries behind
them belong. -/
def Definitions.add? (definitions : Definitions) : Line → Option Definitions
  | .table path =>
      (changeAt? (addTable? (path.getLast?.getD "")) path.dropLast definitions.entries).map
        fun entries => ⟨entries, path⟩
  | .element path =>
      (changeAt? (addElement? (path.getLast?.getD "")) path.dropLast definitions.entries).map
        fun entries => ⟨entries, path⟩
  | .entry path value =>
      (changeAt? (addValue? value path) definitions.current definitions.entries).map
        fun entries => { definitions with entries }

/-- What all headers and entries define together. -/
def entriesOf? (lines : List Line) : Option Entries :=
  (lines.foldlM Definitions.add? ⟨[], []⟩).map Definitions.entries

/-- Whether the entries of a table in braces can stand together. -/
def areConsistent (entries : List (List String × Value)) : Bool :=
  (entries.foldlM (fun defined (path, value) => addValue? value path defined) []).isSome

end IssueSync.Toml
