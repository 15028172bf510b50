import SchemaMatch.Script.Step

/-!
Contract: the functions of the library that call functions.

Owns:
- how a function is called on an item: with the item as receiver, or with the item and what comes
  with it as arguments, as many as the function takes;
- going through arrays and maps by a function, and ordering by one.

What these calls do counts for the limit on operations while they run, and not behind them. Their
faults name the function of the library, and any handler gets them.

Does not own: calling a function by its name.
-/

namespace SchemaMatch.Script

open Machine

namespace HigherOrder

open Evaluator (Effect)

/-- A function of the library that is running, and how it calls others. -/
structure Caller where
  position : Position
  program : Program
  /-- Run a function of the script with a receiver. -/
  run : FunctionDefinition → List ScriptValue → Option ScriptValue → Running Effect
  /-- Call a function of the library. -/
  library : String → List ScriptValue → Running Effect

/-- A function that is called, with the arguments that come before all others. -/
structure Callee where
  name : String
  curried : List ScriptValue

/-- What comes with an item: arguments before it or behind it, the place that it takes among
them, and further ones that only some functions want. -/
structure Company where
  arguments : List ScriptValue
  place : Nat
  extras : List ScriptValue

/-- A way to call a function. -/
structure Attempt where
  receiver : Option ScriptValue
  arguments : List ScriptValue

/-! ## Calls -/

/-- Run a piece of script without counting its operations behind it. -/
def uncounted {α : Type} (piece : Running α) : Running α := do
  let operations := (← get).operations
  afterwards piece fun machine => { machine with operations := operations }

/-- A call by a function of the library, which its faults name. -/
def within {α : Type} (caller : Caller) (function : String) (piece : Running α) : Running α :=
  tryCatchThe Exit (uncounted piece) fun
    | .fault fault =>
        raise (.inCall function fault.cause fault.position) caller.position
    | exit => throw exit

/-- The ways to call a function on an item, in the order in which they are tried. -/
def attempts (callee : Callee) (item : ScriptValue) (company : Company) : List Attempt :=
  let before := company.arguments.take company.place
  let behind := company.arguments.drop company.place
  let joined := callee.curried ++ before ++ item :: behind
  let alone := callee.curried ++ company.arguments
  [⟨some item, alone⟩, ⟨none, joined⟩, ⟨none, joined ++ company.extras⟩,
    ⟨some item, alone ++ company.extras⟩]

def Attempt.values (attempt : Attempt) : List ScriptValue :=
  attempt.receiver.toList ++ attempt.arguments

/-- Call a function of the library in the first way that exists. Its faults have no place. -/
def callLibrary (caller : Caller) (name : String) : List Attempt → Running Effect
  | [] => raiseLimit (.functionNotFound name)
  | [last] => placeless (caller.library name last.values)
  | first :: rest =>
      tryCatchThe Exit (placeless (caller.library name first.values)) fun
        | .fault ⟨.functionNotFound signature, position⟩ =>
            if name.toList.isPrefixOf signature.toList then callLibrary caller name rest
            else throw (.fault ⟨.functionNotFound signature, position⟩)
        | exit => throw exit
where
  placeless (piece : Running Effect) : Running Effect :=
    tryCatchThe Exit piece fun
      | .fault fault => throw (.fault ⟨fault.cause, none⟩)
      | exit => throw exit

/-- Call a function on an item. The effect tells what became of the item. -/
def onItem (caller : Caller) (function : String) (callee : Callee) (item : ScriptValue)
    (company : Company) : Running Effect :=
  let attempts := attempts callee item company
  let script? := attempts.findSome? fun attempt =>
    (caller.program.find? callee.name attempt.arguments.length).map fun definition =>
      (definition, attempt)
  within caller function
    (match script? with
      | some (definition, attempt) =>
          caller.run definition attempt.arguments attempt.receiver
      | none => callLibrary caller callee.name (attempts.take 3))

/-- What a function makes of two items, if it gives an answer at all. -/
def onPair (caller : Caller) (callee : Callee) (left right : ScriptValue) :
    Running (Option ScriptValue) :=
  let attempt : Attempt := ⟨none, callee.curried ++ [left, right]⟩
  let call : Running Effect :=
    match caller.program.find? callee.name attempt.arguments.length with
    | some definition => caller.run definition attempt.arguments none
    | none => caller.library callee.name attempt.arguments
  tryCatchThe Exit
    (do
      let (answer, _) ← uncounted call
      return some answer)
    fun
      | .fault _ => return none
      | exit => throw exit

/-! ## Going through items -/

def holds : ScriptValue → Bool
  | .bool answer => answer
  | _ => false

def isNotUnit : ScriptValue → Bool
  | .unit => false
  | _ => true

/-- What comes with an item of an array: its place. -/
def atPlace (arguments : List ScriptValue) (place position : Nat) : Company :=
  ⟨arguments, place, [.int position]⟩

/-- An item that a function was called on, and its answer. -/
structure Visit where
  item : ScriptValue
  answer : ScriptValue

/-- The answers of a function for items, with what became of them. -/
def visit (caller : Caller) (function : String) (callee : Callee) :
    Nat → List ScriptValue → Running (List Visit)
  | _, [] => return []
  | place, item :: rest => do
      let (answer, changed) ← onItem caller function callee item (atPlace [] 0 place)
      let rest ← visit caller function callee (place + 1) rest
      return ⟨changed.getD item, answer⟩ :: rest

/-- The answers of a function for items up to the first one that is wanted. The flag tells whether
there is one. -/
def search (caller : Caller) (function : String) (callee : Callee)
    (wanted : ScriptValue → Bool) : Nat → List ScriptValue → Running (List Visit × Bool)
  | _, [] => return ([], false)
  | place, item :: rest => do
      let (answer, changed) ← onItem caller function callee item (atPlace [] 0 place)
      let visit : Visit := ⟨changed.getD item, answer⟩
      if wanted answer then return ([visit], true)
      else
        let (visits, found) ← search caller function callee wanted (place + 1) rest
        return (visit :: visits, found)

/-- Items joined to one value by a function of the value so far, the item and its place. -/
def reduce (caller : Caller) (function : String) (callee : Callee) :
    ScriptValue → List (ScriptValue × Nat) → Running ScriptValue
  | total, [] => return total
  | total, (item, place) :: rest => do
      let (total, _) ← onItem caller function callee item (atPlace [total] 1 place)
      reduce caller function callee total rest

/-- Pairs of items joined by a function. -/
def zip (caller : Caller) (callee : Callee) :
    Nat → List (ScriptValue × ScriptValue) → Running (List ScriptValue)
  | _, [] => return []
  | place, (left, right) :: rest => do
      let (answer, _) ← onItem caller "zip" callee left (atPlace [right] 0 place)
      return answer :: (← zip caller callee (place + 1) rest)

/-- The entries of a map with the answers of a function for their keys and values. -/
def visitEntries (caller : Caller) (function : String) (callee : Callee) :
    List (String × ScriptValue) → Running (List (String × Visit))
  | [] => return []
  | (key, value) :: rest => do
      let (answer, changed) ← onItem caller function callee value ⟨[.string key], 1, []⟩
      let rest ← visitEntries caller function callee rest
      return (key, ⟨changed.getD value, answer⟩) :: rest

/-! ## Order -/

/-- Whether an item comes before another one: a function says so by a negative number or by
`true`. Without such an answer it does not. -/
def comesBefore (caller : Caller) (callee : Callee) (left right : ScriptValue) :
    Running Bool := do
  match ← onPair caller callee left right with
  | some (.int order) => return decide (order < 0)
  | some (.bool answer) => return answer
  | _ => return false

/-- An item put behind the last one that it does not come before. The ordered items are given
and returned in reverse. -/
def insertOrdered (caller : Caller) (callee : Callee) (item : ScriptValue) :
    List ScriptValue → Running (List ScriptValue)
  | [] => return [item]
  | last :: rest => do
      if ← comesBefore caller callee item last then
        return last :: (← insertOrdered caller callee item rest)
      else return item :: last :: rest

/-- Items in the order of a function. `ordered` are those before them, in reverse. -/
def sortBy (caller : Caller) (callee : Callee) (ordered : List ScriptValue) :
    List ScriptValue → Running (List ScriptValue)
  | [] => return ordered.reverse
  | item :: rest => do
      sortBy caller callee (← insertOrdered caller callee item ordered) rest

/-! ## Functions -/

/-- Whether a function may change the array or map that it goes through. -/
def isImpure (name : String) : Bool :=
  ["for_each", "retain", "drain", "sort", "sort_by", "dedup"].contains name

def parts (visits : List Visit) : List ScriptValue × List ScriptValue :=
  let (kept, others) := visits.partition fun visit => holds visit.answer
  (kept.map (·.item), others.map (·.item))

/-- A function of an array that calls another one, if there is such a function. -/
def onArray? (caller : Caller) (name : String) (items : List ScriptValue) (callee : Callee)
    (rest : List ScriptValue) : Option (Running Effect) :=
  let all (function : String) : Running (List Visit) := visit caller function callee 0 items
  let start? : Option Nat := match rest with
    | [] => some 0
    | [.int start] => some (Library.offset items.length start)
    | _ => none
  let first (function : String) (wanted : ScriptValue → Bool) (start : Nat)
      (answer : Option (Nat × Visit) → ScriptValue) : Running Effect := do
    let (visits, found) ← search caller function callee wanted start (items.drop start)
    let last := if found then visits.getLast?.map (start + visits.length - 1, ·) else none
    let items := items.take start ++ visits.map (·.item) ++ items.drop (start + visits.length)
    return (answer last, some (.array items))
  let changed (visits : List Visit) : Option ScriptValue :=
    some (.array (visits.map (·.item)))
  match name, rest with
  | "map", [] => some do
      let visits ← all "map"
      return (.array (visits.map (·.answer)), changed visits)
  | "for_each", [] => some do
      let visits ← all "map"
      return (.unit, changed visits)
  | "filter", [] => some do
      let visits ← all "filter"
      return (.array (parts visits).1, changed visits)
  | "retain", [] => some do
      let (kept, others) := parts (← all "retain")
      return (.array others, some (.array kept))
  | "drain", [] => some do
      let (kept, others) := parts (← all "drain")
      return (.array kept, some (.array others))
  | "some", [] => some (first "some" holds 0 fun found => .bool found.isSome)
  | "all", [] =>
      some (first "all" (fun answer => !holds answer) 0 fun found => .bool found.isNone)
  | "find", _ => start?.map fun start =>
      first "index_of" holds start fun found => (found.map (·.2.item)).getD .unit
  | "find_map", _ => start?.map fun start =>
      first "find_map" isNotUnit start fun found => (found.map (·.2.answer)).getD .unit
  | "index_of", _ => start?.map fun start =>
      first "index_of" holds start fun found =>
        .int ((found.map fun visit => Int.ofNat visit.1).getD (-1))
  | "reduce", rest => (initial? rest).map fun initial => do
      return (← reduce caller "reduce" callee initial (items.zipIdx 0), none)
  | "reduce_rev", rest => (initial? rest).map fun initial => do
      return (← reduce caller "reduce_rev" callee initial (items.zipIdx 0).reverse, none)
  | "sort", [] => some do
      return (.unit, some (.array (← sortBy caller callee [] items)))
  | "sort_by", [] => some do
      return (.unit, some (.array (← sortBy caller callee [] items)))
  | "order_by", [] => some do
      return (.array (← sortBy caller callee [] items), none)
  | "dedup", [] => some do
      let same (left right : ScriptValue) : Running Bool := do
        return ((← onPair caller callee left right).map holds).getD false
      return (.unit, some (.array (← Library.Sequence.dedup same none items)))
  | _, _ => none
where
  initial? : List ScriptValue → Option ScriptValue
    | [] => some .unit
    | [initial] => some initial
    | _ => none

/-- A function of a map that calls another one, if there is such a function. -/
def onMap? (caller : Caller) (name : String) (entries : List (String × ScriptValue))
    (callee : Callee) : Option (Running Effect) :=
  let all (function : String) : Running (ScriptValue × ScriptValue × ScriptValue) := do
    let visits ← visitEntries caller function callee entries
    let (kept, others) := visits.partition fun entry => holds entry.2.answer
    let map (visits : List (String × Visit)) : ScriptValue :=
      .map (visits.map fun entry => (entry.1, entry.2.item))
    return (map kept, map others, map visits)
  match name with
  | "filter" => some do
      let (kept, _, visited) ← all "filter"
      return (kept, some visited)
  | "retain" => some do
      let (kept, others, _) ← all "retain"
      return (others, some kept)
  | "drain" => some do
      let (kept, others, _) ← all "drain"
      return (kept, some others)
  | _ => none

/-- A function of the library that calls another one, if there is such a function. -/
def call? (caller : Caller) (name : String) (arguments : List ScriptValue) :
    Option (Running Effect) :=
  let callee? (value : ScriptValue) : Option Callee :=
    (Evaluator.callable? value).map fun (name, curried) => ⟨name, curried⟩
  match name, arguments with
  | "zip", [.array items, .array others, .function callee curried] => some do
      return (.array (← zip caller ⟨callee, curried⟩ 0 (items.zip others)), none)
  | _, .array items :: function :: rest => do
      onArray? caller name items (← callee? function) rest
  | _, [.map entries, function] => do onMap? caller name entries (← callee? function)
  | _, _ => none

end HigherOrder

end SchemaMatch.Script
