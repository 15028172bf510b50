import SchemaMatch.Script.Library.Row
import SchemaMatch.Script.Operators

/-!
Contract: the functions of scripts on arrays that call no other function.

Owns:
- searching for equal items, and taking out equal neighbours;
- the natural order of items of one kind.

Does not own: operators, indexing, and functions that call functions.
-/

namespace SchemaMatch.Script.Library.Sequence

def kind : RowKind ScriptValue where
  make := .array
  row?
    | .array items => some items
    | _ => none
  item := id
  item? := some
  missing := .unit

/-! ## Order -/

/-- Kinds of values that have an order. -/
def isOrdered : ScriptValue → Bool
  | .int _ => true
  | .float _ => true
  | .char _ => true
  | .string _ => true
  | .bool _ => true
  | .unit => true
  | _ => false

/-- Whether an item comes before another one of its kind. Floats are compared without
tolerance. -/
def before (left right : ScriptValue) : Bool :=
  match left, right with
  | .float left, .float right => FloatArithmetic.less left right
  | .unit, .unit => false
  | _, _ =>
      match Operators.builtin? .less left right with
      | some (.ok (.bool answer)) => answer
      | _ => false

/-- Items of one ordered kind in their order, equal ones as they were. -/
def sorted (before : ScriptValue → ScriptValue → Bool) (items : List ScriptValue) :
    Except FaultCause (List ScriptValue) :=
  match items with
  | [] => .ok []
  | [item] => .ok [item]
  | first :: rest =>
      if !rest.all first.sameKind then
        .error (.functionNotFound "elements of different types cannot be sorted")
      else if !isOrdered first then
        .error (.functionNotFound
          ("elements of " ++ first.foreignTypeName ++ " cannot be sorted"))
      else .ok (items.mergeSort fun left right => !before right left)

def sort (before : ScriptValue → ScriptValue → Bool) (items : List ScriptValue) : Outcome :=
  match sorted before items with
  | .ok items => becomes (.array items) .unit
  | .error cause => fails cause

def order (before : ScriptValue → ScriptValue → Bool) (items : List ScriptValue) : Outcome :=
  settles ((sorted before items).map .array)

/-! ## Equal items -/

/-- The place of the first item that equals a value, counted from `place`. -/
def find (value : ScriptValue) : Nat → List ScriptValue → Except FaultCause (Option Nat)
  | _, [] => .ok none
  | place, item :: rest => do
      if ← item.equals value then return some place else find value (place + 1) rest

def contains (items : List ScriptValue) (value : ScriptValue) : Outcome :=
  settles ((find value 0 items).map fun found => .bool found.isSome)

def indexOf (items : List ScriptValue) (value : ScriptValue) (start : Int) : Outcome :=
  let offset := offset items.length start
  settles ((find value offset (items.drop offset)).map fun found =>
    .int ((found.map Int.ofNat).getD (-1)))

/-- Of neighbours that `same` joins the first one stays. `last` is the last one that stays. -/
def dedup {m : Type → Type} [Monad m] (same : ScriptValue → ScriptValue → m Bool)
    (last : Option ScriptValue) : List ScriptValue → m (List ScriptValue)
  | [] => return []
  | item :: rest => do
      let isRepeated ← match last with
        | some last => same last item
        | none => pure false
      if isRepeated then dedup same last rest
      else return item :: (← dedup same (some item) rest)

/-- Items that cannot be compared are not equal. -/
def equalOrNot (left right : ScriptValue) : Bool :=
  match left.equals right with
  | .ok answer => answer
  | .error _ => false

def functions (items : List ScriptValue) : Functions :=
  [ ("contains", fun
      | [value] => contains items value
      | _ => none),
    ("index_of", fun
      | [.function ..] => none
      | [value] => indexOf items value 0
      | [.function .., .int _] => none
      | [value, .int start] => indexOf items value start
      | _ => none),
    ("dedup", fun
      | [] =>
          becomes (.array (Id.run (dedup (fun left right => pure (equalOrNot left right)) none
            items))) .unit
      | _ => none),
    ("sort", fun
      | [] => sort before items
      | _ => none),
    ("sort_desc", fun
      | [] => sort (fun left right => before right left) items
      | _ => none),
    ("order", fun
      | [] => order before items
      | _ => none),
    ("order_desc", fun
      | [] => order (fun left right => before right left) items
      | _ => none) ] ++ Row.functions kind items

end SchemaMatch.Script.Library.Sequence
