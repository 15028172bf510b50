import SchemaMatch.Fields

/-!
Contract: TOML documents as trees, and which definitions may meet in one.

Owns:
- the tree; what nobody asks for is kept without its content;
- how a table came to be, which decides who may still add to it;
- the definition of keys and tables along dotted paths.

Every definition names its place by a path. Tables on the way that do not exist come to be by
being passed.

Does not own: the text of documents.
-/

namespace SchemaMatch

/-- How a table came to be. -/
inductive TableOrigin where
  /-- By a header of its own; only one header may define it. -/
  | header
  /-- On the way of a header; a header of its own may still define it. -/
  | passed
  /-- By dotted keys, which alone may add keys to it. -/
  | dotted
  /-- Between braces; nothing can be added. -/
  | inline
deriving DecidableEq, Repr

inductive Toml where
  | string (text : String)
  | bool (value : Bool)
  /-- An integer or a float. -/
  | number
  /-- A date, a time, or both. -/
  | instant
  | array (items : List Toml)
  | table (origin : TableOrigin) (entries : List (String × Toml))
  /-- Tables that share a header between double brackets. There is at least one. -/
  | tables (elements : List (List (String × Toml)))

namespace Toml

instance : Inhabited Toml := ⟨.bool false⟩

/-- The entries of a table. -/
abbrev Entries := List (String × Toml)

/-- Change the last of some tables. -/
def changeLast (change : Entries → Option Entries) (elements : List Entries) :
    Option (List Entries) := do
  let last ← elements.getLast?
  return elements.dropLast ++ [← change last]

/-- Change the table that a header's path leads to. Of tables that share a header the last
one is meant. -/
def changeAt (change : Entries → Option Entries) : List String → Entries → Option Entries
  | [], entries => change entries
  | key :: rest, entries =>
      match Fields.lookup? key entries with
      | none => do
          let inner ← changeAt change rest []
          return Fields.insert key (.table .passed inner) entries
      | some (.table .inline _) => none
      | some (.table origin inner) => do
          let inner ← changeAt change rest inner
          return Fields.insert key (.table origin inner) entries
      | some (.tables elements) => do
          let elements ← changeLast (changeAt change rest) elements
          return Fields.insert key (.tables elements) entries
      | some _ => none

/-- Define a key that must not be defined yet. -/
def define (key : String) (value : Toml) (entries : Entries) : Option Entries :=
  if (Fields.lookup? key entries).isSome then none else some (Fields.insert key value entries)

/-- Define a dotted key. The table it lands in must be one that dotted keys define; on the way
there, tables that a header passed and the last of tables that share a header will do too. -/
def defineDotted (value : Toml) : List String → Entries → Option Entries
  | [], _ => none
  | [key], entries => define key value entries
  | key :: next :: rest, entries =>
      match Fields.lookup? key entries with
      | none => do
          let inner ← defineDotted value (next :: rest) []
          return Fields.insert key (.table .dotted inner) entries
      | some (.table .dotted inner) => do
          let inner ← defineDotted value (next :: rest) inner
          return Fields.insert key (.table .dotted inner) entries
      | some (.table .passed inner) =>
          if rest.isEmpty then none
          else do
            let inner ← defineDotted value (next :: rest) inner
            return Fields.insert key (.table .passed inner) entries
      | some (.tables elements) =>
          if rest.isEmpty then none
          else do
            let elements ← changeLast (defineDotted value (next :: rest)) elements
            return Fields.insert key (.tables elements) entries
      | some _ => none

/-- Open the table a header names. -/
def openTable (key : String) (entries : Entries) : Option Entries :=
  match Fields.lookup? key entries with
  | none => some (Fields.insert key (.table .header []) entries)
  | some (.table .passed inner) => some (Fields.insert key (.table .header inner) entries)
  | some _ => none

/-- Open another of the tables that share a header. -/
def openElement (key : String) (entries : Entries) : Option Entries :=
  match Fields.lookup? key entries with
  | none => some (Fields.insert key (.tables [[]]) entries)
  | some (.tables elements) => some (Fields.insert key (.tables (elements ++ [[]])) entries)
  | some _ => none

end Toml

end SchemaMatch
