import SchemaMatch.Script.Library.Answer
import SchemaMatch.Script.Size

/-!
Contract: the functions of scripts that rows of items and rows of bytes have in common.

Owns:
- adding to a row, taking out of it, cutting and turning it.

Does not own: what looks into items.
-/

namespace SchemaMatch.Script.Library

/-- A kind of rows: how they and their items are values, and what an item that is not there
reads as. -/
structure RowKind (α : Type) where
  make : List α → ScriptValue
  row? : ScriptValue → Option (List α)
  item : α → ScriptValue
  item? : ScriptValue → Option α
  missing : ScriptValue

namespace Row

/-- The place at an offset, if there is an item. -/
def reached? (length : Nat) (index : Int) : Option Nat :=
  if offset length index < length then some (offset length index) else none

/-- An item put in front of a place. Places behind the end are the end. -/
def insertAt {α : Type} (items : List α) (place : Int) (value : α) : List α :=
  let offset := offset items.length place
  items.take offset ++ value :: items.drop offset

/-- A part replaced. What replaces nothing comes to the end. -/
def splice {α : Type} (items : List α) (start count : Int) (replacement : List α) : List α :=
  let (offset, count) := clip items.length start count
  if count = 0 then items ++ replacement
  else items.take offset ++ replacement ++ items.drop (offset + count)

/-- A row without a part. -/
def without {α : Type} (items : List α) (offset count : Nat) : List α :=
  items.take offset ++ items.drop (offset + count)

variable {α : Type}

def functions (kind : RowKind α) (items : List α) : Functions :=
  let length := items.length
  let itemAt (place : Option Nat) : ScriptValue :=
    ((place.bind fun place => items[place]?).map kind.item).getD kind.missing
  let turns (changed : List α) (result : ScriptValue) : Outcome :=
    becomes (kind.make changed) result
  [ ("len", fun
      | [] => gives (.int length)
      | _ => none),
    ("is_empty", fun
      | [] => gives (.bool items.isEmpty)
      | _ => none),
    ("get", fun
      | [.int index] => gives (itemAt (reached? length index))
      | _ => none),
    ("set", fun
      | [.int index, value] => do
          let value ← kind.item? value
          match reached? length index with
          | some place => turns (items.set place value) .unit
          | none => turns items .unit
      | _ => none),
    ("push", fun
      | [value] => do turns (items ++ [← kind.item? value]) .unit
      | _ => none),
    ("append", fun
      | [more] => do turns (items ++ (← kind.row? more)) .unit
      | _ => none),
    ("insert", fun
      | [.int place, value] => do turns (insertAt items place (← kind.item? value)) .unit
      | _ => none),
    ("pad", fun
      | [.int wanted, value] => do
          let value ← kind.item? value
          if DataSize.itemLimit < wanted then fails (.tooLarge "Size of array/BLOB")
          else turns (items ++ List.replicate (wanted.toNat - length) value) .unit
      | _ => none),
    ("pop", fun
      | [] => turns items.dropLast ((items.getLast?.map kind.item).getD kind.missing)
      | _ => none),
    ("shift", fun
      | [] => turns items.tail ((items.head?.map kind.item).getD kind.missing)
      | _ => none),
    ("remove", fun
      | [.int index] =>
          match place? length index with
          | some place => turns (items.eraseIdx place) (itemAt (some place))
          | none => turns items kind.missing
      | _ => none),
    ("clear", fun
      | [] => turns [] .unit
      | _ => none),
    ("truncate", fun
      | [.int kept] => turns (items.take kept.toNat) .unit
      | _ => none),
    ("chop", fun
      | [.int kept] => turns (items.drop (length - kept.toNat)) .unit
      | _ => none),
    ("reverse", fun
      | [] => turns items.reverse .unit
      | _ => none),
    ("extract", fun
      | [.int start] => gives (kind.make (items.drop (offset length start)))
      | arguments => do
          let (offset, count) ← part? length arguments
          gives (kind.make ((items.drop offset).take count))),
    ("splice", fun
      | [.int start, .int count, replacement] => do
          turns (splice items start count (← kind.row? replacement)) .unit
      | [range, replacement] => do
          let (start, count) ← span? range
          turns (splice items start count (← kind.row? replacement)) .unit
      | _ => none),
    ("split", fun
      | [.int place] =>
          let offset := offset length place
          turns (items.take offset) (kind.make (items.drop offset))
      | _ => none),
    ("drain", fun arguments => do
      let (offset, count) ← part? length arguments
      turns (without items offset count) (kind.make ((items.drop offset).take count))),
    ("retain", fun arguments => do
      let (offset, count) ← part? length arguments
      if count = 0 then turns items (kind.make [])
      else
        turns ((items.drop offset).take count) (kind.make (without items offset count))) ]

end Row

end SchemaMatch.Script.Library
