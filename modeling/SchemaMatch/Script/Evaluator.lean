import SchemaMatch.Script.Ambient
import SchemaMatch.Script.Cases
import SchemaMatch.Script.HigherOrder

/-!
Contract: what scripts do.

Owns:
- the value of every expression and the effect of every statement;
- chains, which write what changed at their end back to the place they start from;
- calls of functions of the script and of the library;
- which of these steps count as operations.

Every step takes fuel. The limit on operations is reached long before fuel runs out, so running
out of it counts as reaching that limit.

Does not own: the state itself, what single operations do, and how the library calls functions.
-/

namespace SchemaMatch.Script

open Machine

namespace Evaluator

/-- Fuel for one call of a script. It exceeds the operations that a script may take many times,
and each operation takes few steps. -/
def fuelLimit : Nat := 1000000

mutual

/-- The value of an expression, which counts as an operation. -/
def eval : Nat → Environment → Expression → Running ScriptValue
  | 0, _, _ => raiseLimit .tooManyOperations
  | fuel + 1, environment, expression => do
      tick
      compute fuel environment expression

/-- The value of an expression that has been counted. -/
def compute : Nat → Environment → Expression → Running ScriptValue
  | 0, _, _ => raiseLimit .tooManyOperations
  | fuel + 1, environment, expression => do
      match expression with
      | .literal value _ => return value
      | .variable name position => do
          contents (← resolve environment.program name position).value
      | .receiver position => readReceiver position
      | .array items _ => do
          fitting (.array (← evalAll fuel environment items))
      | .map entries _ => do
          let values ← evalAll fuel environment (entries.map Prod.snd)
          fitting (.ofPairs ((entries.map Prod.fst).zip values))
      | .text pieces _ => do
          let values ← evalAll fuel environment pieces
          -- Making a text of what is none counts.
          values.forM fun value => if value.isString then pure () else tick
          fitting (.string (String.join (values.map ScriptValue.printed)))
      | .call name arguments position => call fuel environment name arguments position
      | .callInScope name arguments position => do
          let values ← evalArguments fuel environment arguments
          match environment.program.find? name values.length with
          | some definition => do
              let (result, _) ← run fuel (environment.level + 1) environment definition values
                none true position
              return result
          | none => do
              let (result, _) ← library fuel environment false name values position
              return result
      | .qualified path name arguments _ => do
          match arguments with
          | some (.variable variable_ place :: rest) => do
              let _ ← evalArguments fuel environment rest
              tick
              let _ ← resolve environment.program variable_ place
          | some arguments => do
              let _ ← evalArguments fuel environment arguments
          | none => pure ()
          raise (missingModule path name arguments.isSome) expression.start
      | .unary operator operand position => do
          let value ← argument fuel environment operand
          applyUnary operator value position
      | .binary operator left right position => do
          let first ← argument fuel environment left
          let second ← argument fuel environment right
          applyBinary operator first second position
      | .logical .orElse left right _ => do
          match ← eval fuel environment left with
          | .unit => eval fuel environment right
          | value => return value
      | .logical operator left right _ => do
          let first ← expectBool (← eval fuel environment left) left.position
          if first == (operator == .or) then return .bool first
          else return .bool (← expectBool (← eval fuel environment right) right.position)
      | .chain root links => chain fuel environment root links none
      | .statement (.block body) _ => runBlock fuel environment body
      | .statement body _ => runBlock fuel environment [body]
      | .closure name captured _ => do
          -- Sharing the variables and putting them in front of the arguments counts.
          (List.range (captured.length + 3)).forM fun _ => tick
          let cells ← captured.mapM share
          return .function name cells

def evalAll : Nat → Environment → List Expression → Running (List ScriptValue)
  | 0, _, _ => raiseLimit .tooManyOperations
  | _ + 1, _, [] => return []
  | fuel + 1, environment, first :: rest => do
      let value ← eval fuel environment first
      return value :: (← evalAll fuel environment rest)

/-- The value of an argument. Literals count once, whatever they are made of. -/
def argument : Nat → Environment → Expression → Running ScriptValue
  | 0, _, _ => raiseLimit .tooManyOperations
  | fuel + 1, environment, expression => do
      match expression.literal? with
      | some value => do
          tick
          return value
      | none => eval fuel environment expression

def evalArguments : Nat → Environment → List Expression → Running (List ScriptValue)
  | 0, _, _ => raiseLimit .tooManyOperations
  | _ + 1, _, [] => return []
  | fuel + 1, environment, first :: rest => do
      let value ← argument fuel environment first
      return value :: (← evalArguments fuel environment rest)

-- Chains.

/-- The values that a link mentions. -/
def stepOf : Nat → Environment → Link → Running Step
  | 0, _, _ => raiseLimit .tooManyOperations
  | fuel + 1, environment, link => do
      tick
      match link with
      | .property name isOptional _ position => return .property name isOptional position
      | .method name arguments isOptional _ position => do
          let values ← evalArguments fuel environment arguments
          return .method name values isOptional (argumentsStart arguments position) position
      | .index index isOptional mark => do
          let value ← eval fuel environment index
          return .index value isOptional index.start mark

def stepsOf : Nat → Environment → List Link → Running (List Step)
  | 0, _, _ => raiseLimit .tooManyOperations
  | _ + 1, _, [] => return []
  | fuel + 1, environment, link :: rest => do
      let step ← stepOf fuel environment link
      return step :: (← stepsOf fuel environment rest)

/-- The value at the end of a chain, or an assignment to that place. All that the links mention
is evaluated before the root. -/
def chain : Nat → Environment → Expression → List Link → Option Assignment →
    Running ScriptValue
  | 0, _, _, _, _ => raiseLimit .tooManyOperations
  | fuel + 1, environment, root, links, assignment => do
      let follow (variable_ : Variable) (position : Position) (value : ScriptValue)
          (steps : List Step) : Running ScriptValue := do
        let (result, changed) ←
          walk fuel environment ⟨variable_.isConstant, variable_.name, position⟩ value steps
            assignment
        if let some value := changed then write variable_.name value
        return result
      let steps ← match links with
        | [link] =>
            match simpleStep? link with
            | some step => pure [step]
            | none => stepsOf fuel environment links
        | _ => stepsOf fuel environment links
      match root with
      | .receiver position => do
          tick
          let value ← readReceiver position
          let (result, changed) ←
            walk fuel environment ⟨false, "this", position⟩ value steps assignment
          if let some value := changed then writeReceiver value
          return result
      | .variable name position => do
          tick
          let variable_ ← resolve environment.program name position
          let value ← contents variable_.value
          match steps with
          | first :: rest =>
              match tagUse? environment.program value first with
              | some use_ =>
                  if rest.isEmpty then
                    useTag variable_ value use_ assignment first.position
                  else
                    let result ← useTag variable_ value use_ none first.position
                    let (result, _) ←
                      walk fuel environment ⟨false, "", root.position⟩ result rest assignment
                    return result
              | none => follow variable_ position value steps
          | [] => follow variable_ position value steps
      | _ => do
          let value ← eval fuel environment root
          let (result, _) ←
            walk fuel environment ⟨false, "", root.position⟩ value steps assignment
          return result

/-- Follow a chain from a value. The effect tells what becomes of that value. -/
def walk : Nat → Environment → Root → ScriptValue → List Step → Option Assignment →
    Running Effect
  | 0, _, _, _, _, _ => raiseLimit .tooManyOperations
  | _ + 1, _, _, value, [], _ => return (value, none)
  | fuel + 1, environment, root, value, step :: rest, assignment => do
      let isUnit := match value with
        | .unit => true
        | _ => false
      if step.isOptional && isUnit then return (.unit, none)
      else
        match step with
        | .index index _ indexPosition mark =>
            if !Element.hasElements value then
              raise (Element.missing value index) mark
            else
              tick
              match rest, assignment with
              | [], some assignment =>
                  element fuel root value index indexPosition assignment
              | _, _ => do
                  let old ← settle (Element.get value index) indexPosition
                  let (result, changed) ← walk fuel environment root old rest assignment
                  match changed with
                  | some new =>
                      return (result, some (← settle (Element.set value index new) mark))
                  | none => return (result, none)
        | .property name _ position =>
            match value, rest, assignment with
            | .map _, [], some assignment => do
                tick
                element fuel root value (.string name) position assignment
            | _, [], some assignment => do
                if assignment.operator.isSome then
                  tick
                  let _ ← Ambient.property value name position
                tick
                match name, assignment.value with
                | "tag", .int _ => return (.unit, none)
                | _, _ => raise (Element.unwritable value name assignment.value) position
            | .map _, _, _ => do
                tick
                let old ← settle (Element.property value name) position
                let (result, changed) ← walk fuel environment root old rest assignment
                match changed with
                | some new =>
                    return (result, some (← settle (Element.set value (.string name) new) position))
                | none => return (result, none)
            | _, _, _ => do
                tick
                let old ← Ambient.property value name position
                let (result, _) ← walk fuel environment root old rest assignment
                return (result, none)
        | .method name arguments _ argumentPosition position => do
            let (result, changed) ←
              method fuel environment root value name arguments argumentPosition position
            let (final, _) ← walk fuel environment root result rest assignment
            return (final, changed)

/-- Assign to an element of a value. -/
def element : Nat → Root → ScriptValue → ScriptValue → Position → Assignment → Running Effect
  | 0, _, _, _, _, _ => raiseLimit .tooManyOperations
  | _ + 1, root, value, index, position, assignment => do
      let old ← settle (Element.get value index) position
      if root.isConstant then raise (.constantModified root.name) root.position
      let new ← assigned old assignment
      let changed ← settle (Element.set value index new) assignment.position
      return (.unit, some (← fitting changed))

/-- Call a method of a value. -/
def method : Nat → Environment → Root → ScriptValue → String → List ScriptValue → Position →
    Position → Running Effect
  | 0, _, _, _, _, _, _, _ => raiseLimit .tooManyOperations
  | fuel + 1, environment, root, value, name, arguments, argumentPosition, position => do
      let onReceiver (definition : FunctionDefinition) (values : List ScriptValue) :
          Running Effect := do
        let (result, receiver) ← run fuel (environment.level + 1) environment definition values
          (some value) false position
        return (result, if root.isConstant then none else receiver)
      match name, value, arguments with
      | "call", .function function curried, _ => do
          let result ←
            invoke fuel environment function (curried ++ arguments) position
          return (result, none)
      | "call", _, [] => raise (.mismatched "Fn" value.foreignTypeName) position
      | "call", _, .function function curried :: others =>
          match environment.program.find? function (curried.length + others.length) with
          | some definition => onReceiver definition (curried ++ others)
          | none =>
              library fuel environment root.isConstant function (value :: (curried ++ others))
                position
      | "call", _, first :: _ => raise (.mismatched "Fn" first.foreignTypeName) argumentPosition
      | "curry", .function function curried, _ =>
          return (.function function (curried ++ arguments), none)
      | "curry", _, _ => raise (.mismatched "Fn" value.foreignTypeName) position
      | _, _, _ => do
          let own : Option (String × List ScriptValue) := match value with
            | .map entries =>
                match entries.lookup name with
                | some (.function function curried) => some (function, curried)
                | _ => none
            | _ => none
          let (function, values) : String × List ScriptValue := match own with
            | some (function, curried) => (function, curried ++ arguments)
            | none => (name, arguments)
          match environment.program.method? value function values.length with
          | some definition => onReceiver definition values
          | none =>
              library fuel environment root.isConstant function (value :: values) position

-- Calls.

/-- A call in a script. -/
def call : Nat → Environment → String → List Expression → Position → Running ScriptValue
  | 0, _, _, _, _ => raiseLimit .tooManyOperations
  | fuel + 1, environment, name, arguments, position => do
      match name, arguments with
      | "call", first :: rest => do
          match ← argument fuel environment first with
          | .function function curried => do
              let values ← evalArguments fuel environment rest
              invoke fuel environment function (curried ++ values) position
          | other => raise (.mismatched "Fn" other.foreignTypeName) first.start
      | "Fn", [first] => do
          match ← argument fuel environment first with
          | .string function =>
              if Word.isFunctionName function then return .function function []
              else if Word.isKeptBack function then raiseLimit (.badSyntax (.reserved function))
              else raise (.functionNotFound function) first.start
          | other => raise (.mismatched "string" other.foreignTypeName) first.start
      | "curry", first :: second :: rest => do
          match ← argument fuel environment first with
          | .function function curried => do
              let values ← evalArguments fuel environment (second :: rest)
              return .function function (curried ++ values)
          | other => raise (.mismatched "Fn" other.foreignTypeName) first.start
      | "is_shared", [.variable variable_ place] => do
          tick
          match (← lookup variable_ place).value with
          | .shared _ => return .bool true
          | _ => return .bool false
      | "is_def_var", [first] => do
          match ← argument fuel environment first with
          | .string variable_ => return .bool (← find? variable_).isSome
          | other => raise (.mismatched "string" other.foreignTypeName) first.start
      | "is_def_fn", [first, second] => do
          match ← argument fuel environment first with
          | .string function =>
              match ← argument fuel environment second with
              | .int arity =>
                  return .bool
                    (0 ≤ arity && (environment.program.find? function arity.toNat).isSome)
              | other => raise (.mismatched "i64" other.foreignTypeName) second.start
          | other => raise (.mismatched "string" other.foreignTypeName) first.start
      | "is_def_fn", [type, first, second] => do
          let type ← argument fuel environment type
          match type, ← argument fuel environment first, ← argument fuel environment second with
          | .string type, .string function, .int arity =>
              return .bool (environment.program.functions.any fun definition =>
                definition.receiverType == some type && definition.name == function &&
                  arity == definition.arity)
          | _, _, _ => raise (.mismatched "string" type.foreignTypeName) position
      | _, .variable variable_ place :: rest => do
          let values ← evalArguments fuel environment rest
          tick
          let target ← resolve environment.program variable_ place
          let value ← contents target.value
          if let some use_ := tagCall? environment.program name values then
            return ← useTag target value use_ none position
          let isShared := match target.value with
            | .shared _ => true
            | _ => false
          let (result, changed) ←
            named fuel environment name (value :: values) position
          if let some value := changed then
            if !isShared && !target.isConstant then write variable_ value
          return result
      | _, .receiver place :: rest => do
          let values ← evalArguments fuel environment rest
          tick
          let value ← readReceiver place
          let (result, changed) ←
            named fuel environment name (value :: values) position
          if let some value := changed then writeReceiver value
          return result
      | _, _ => do
          let values ← evalArguments fuel environment arguments
          let (result, _) ← named fuel environment name values position
          return result

/-- Call a function by its name. The effect tells what the library makes of the first argument;
functions of the script get copies. -/
def named : Nat → Environment → String → List ScriptValue → Position → Running Effect
  | 0, _, _, _, _ => raiseLimit .tooManyOperations
  | fuel + 1, environment, name, arguments, position => do
      match environment.program.find? name arguments.length with
      | some definition => do
          let (result, _) ← run fuel (environment.level + 1) environment definition arguments none
            false position
          return (result, none)
      | none => library fuel environment false name arguments position

/-- Call the function that a value stands for. -/
def invoke : Nat → Environment → String → List ScriptValue → Position → Running ScriptValue
  | 0, _, _, _, _ => raiseLimit .tooManyOperations
  | fuel + 1, environment, name, arguments, position => do
      let (result, _) ← named fuel environment name arguments position
      return result

/-- Run a function of the script under so many calls. One that keeps the variables outside works
on those, too. Fatal faults name the place of the call. -/
def run : Nat → Nat → Environment → FunctionDefinition → List ScriptValue →
    Option ScriptValue → Bool → Position → Running Effect
  | 0, _, _, _, _, _, _, _ => raiseLimit .tooManyOperations
  | fuel + 1, level, environment, definition, arguments, receiver, keepsOutside, position => do
      if definition.body.isEmpty then return (.unit, none)
      else
        tick
        if levelLimit < level then raise .stackOverflow position
        let bindings := (definition.parameters.zip arguments).map fun (name, value) =>
          (⟨name, false, value, 0⟩ : Variable)
        let body : Running ScriptValue :=
          tryCatchThe Exit (runBody fuel { environment with level := level } definition.body)
            fun
              | .returned value => return value
              | .fault fault =>
                  if fault.cause.isFatal then raise fault.cause position
                  else raise (.inCall definition.name fault.cause fault.position) position
              | .finished value => throw (.finished value)
              | _ => return .unit
        inFrame bindings.reverse keepsOutside receiver body

/-- Call a function of the library. What it makes of its first argument is told, too. Asking for
a type does not count. -/
def library : Nat → Environment → Bool → String → List ScriptValue → Position →
    Running Effect
  | 0, _, _, _, _, _ => raiseLimit .tooManyOperations
  | fuel + 1, environment, isConstant, name, arguments, position => do
      if name ≠ "type_of" then tick
      let inner := { environment with level := environment.level + 1 }
      let caller : HigherOrder.Caller :=
        { position := position
          program := environment.program
          run := fun definition values receiver =>
            run fuel (inner.level + 1) inner definition values receiver false position
          library := fun function values =>
            library fuel inner false function values position }
      match Ambient.call? environment.program position name arguments with
      | some running => return (← fitting (← running), none)
      | none =>
          match Library.call? name arguments with
          | some (.ok answer) => do
              if answer.changed.isSome && isConstant then raise (.impureMethod name) position
              if let some changed := answer.changed then
                let _ ← fitting changed
              return (← fitting answer.result, answer.changed)
          | some (.error cause) =>
              if isConstant && Library.changesOrFails name then
                raise (.impureMethod name) position
              settle (.error cause) position
          | none =>
              match HigherOrder.call? caller name arguments with
              | some running => do
                  if isConstant && HigherOrder.isImpure name then
                    raise (.impureMethod name) position
                  let (result, changed) ← running
                  return (← fitting result, if isConstant then none else changed)
              | none =>
                  raise (.functionNotFound (Operators.signature name arguments)) position

-- Statements.

/-- The value of the last of some statements, which share the names they declare. -/
def runBody : Nat → Environment → List Statement → Running ScriptValue
  | 0, _, _ => raiseLimit .tooManyOperations
  | _ + 1, _, [] => return .unit
  | fuel + 1, environment, [last] => exec fuel environment last
  | fuel + 1, environment, first :: rest => do
      let _ ← exec fuel environment first
      runBody fuel environment rest

def runBlock : Nat → Environment → List Statement → Running ScriptValue
  | 0, _, _ => raiseLimit .tooManyOperations
  | fuel + 1, environment, body => inBlock (runBody fuel environment body)

/-- Run the body of a loop once. The answer is the value of a break. -/
def iterate : Nat → Environment → List Statement → Running (Option ScriptValue)
  | 0, _, _ => raiseLimit .tooManyOperations
  | fuel + 1, environment, body =>
      tryCatchThe Exit
        (do
          let _ ← runBlock fuel environment body
          return none)
        fun
          | .continued => return none
          | .broken value => return some value
          | exit => throw exit

/-- A loop with a guard before its body, or with none. -/
def repeatWhile : Nat → Environment → Option Expression → List Statement →
    Running ScriptValue
  | 0, _, _, _ => raiseLimit .tooManyOperations
  | fuel + 1, environment, guard, body => do
      let goesOn ← match guard with
        | some guard => do expectBool (← eval fuel environment guard) guard.position
        | none => pure true
      if !goesOn then return .unit
      else
        let broken ←
          if body.isEmpty then do
            if guard.isNone then tick
            pure none
          else iterate fuel environment body
        match broken with
        | some value => return value
        | none => repeatWhile fuel environment guard body

/-- A loop with a guard behind its body. -/
def repeatUntil : Nat → Environment → List Statement → Expression → Bool →
    Running ScriptValue
  | 0, _, _, _, _ => raiseLimit .tooManyOperations
  | fuel + 1, environment, body, guard, goesOn => do
      let broken ← if body.isEmpty then pure none else iterate fuel environment body
      match broken with
      | some value => return value
      | none =>
          let answer ← expectBool (← eval fuel environment guard) guard.position
          if answer == goesOn then repeatUntil fuel environment body guard goesOn
          else return .unit

/-- A loop over values. -/
def repeatFor : Nat → Environment → String → Option String → List Statement → Nat →
    List ScriptValue → Running ScriptValue
  | 0, _, _, _, _, _, _ => raiseLimit .tooManyOperations
  | _ + 1, _, _, _, _, _, [] => return .unit
  | fuel + 1, environment, name, counter, body, place, item :: rest => do
      let broken ←
        if body.isEmpty then do
          tick
          pure none
        else do
          if let some counter := counter then write counter (.int place)
          modify fun machine =>
            { machine with bindings := replaceFirst name item machine.bindings }
          iterate fuel environment body
      match broken with
      | some value => return value
      | none => repeatFor fuel environment name counter body (place + 1) rest

/-- The first case of a switch whose condition holds. -/
def choose : Nat → Environment → List SelectCase → Running (Option Expression)
  | 0, _, _ => raiseLimit .tooManyOperations
  | _ + 1, _, [] => return none
  | fuel + 1, environment, .mk _ guard body :: rest => do
      let holds ← match guard with
        | some guard => do expectBool (← eval fuel environment guard) guard.position
        | none => pure true
      if holds then return some body else choose fuel environment rest

/-- Run a statement, which counts as an operation. -/
def exec : Nat → Environment → Statement → Running ScriptValue
  | 0, _, _ => raiseLimit .tooManyOperations
  | fuel + 1, environment, statement => do
      tick
      match statement with
      | .empty => return .unit
      | .expression value =>
          if isCall value then compute fuel environment value else eval fuel environment value
      | .assign operator target value position => do
          let new ← eval fuel environment value
          let assignment : Assignment := ⟨operator, new, position⟩
          match target with
          | .variable name place => do
              tick
              let variable_ ← lookup name place
              if variable_.isConstant then raise (.constantModified name) place
              write name (← assigned (← contents variable_.value) assignment)
              if operator.isNone then writeTag name (← tagOf value)
              return .unit
          | .qualified path name _ _ => do
              tick
              raise (missingModule path name false) target.start
          | .receiver place => do
              tick
              writeReceiver (← assigned (← readReceiver place) assignment)
              return .unit
          | .chain root links => do
              let _ ← chain fuel environment root links (some assignment)
              return .unit
          | _ => return .unit
      | .define name isConstant value => do
          let new ← eval fuel environment value
          let tag ← tagOf value
          declare name isConstant new
          writeTag name tag
          return .unit
      | .block body => runBlock fuel environment body
      | .branch guard thenBody elseBody => do
          let holds ← expectBool (← eval fuel environment guard) guard.position
          runBlock fuel environment (if holds then thenBody else elseBody)
      | .select subject cases fallback => do
          let value ← eval fuel environment subject
          let chosen ← choose fuel environment (SelectCase.candidates value cases)
          match chosen <|> fallback with
          | some body => eval fuel environment body
          | none => return .unit
      | .whileLoop guard body => repeatWhile fuel environment guard body
      | .doLoop body guard goesOn => repeatUntil fuel environment body guard goesOn
      | .forLoop name counter source body => do
          let value ← eval fuel environment source
          match Library.items? value with
          | none => raise .notIterable source.start
          | some items =>
              inBlock do
                if let some counter := counter then declare counter false (.int 0)
                declare name false .unit
                repeatFor fuel environment name counter body 0 items
      | .breakLoop value => do
          match value with
          | some value => do throw (.broken (← eval fuel environment value))
          | none => throw (.broken .unit)
      | .continueLoop => throw .continued
      | .returnValue value => do
          match value with
          | some value => do throw (.returned (← eval fuel environment value))
          | none => throw (.returned .unit)
      | .throwValue value position => do
          match value with
          | some value => do raise (.thrown (← eval fuel environment value)) position
          | none => raise (.thrown .unit) position
      | .tryCatch body errorName handler =>
          tryCatchThe Exit (runBlock fuel environment body) fun
            | .fault fault =>
                if fault.cause.isFatal then throw (.fault fault)
                else
                  inBlock do
                    if let some name := errorName then declare name false fault.handled
                    tryCatchThe Exit
                      (do
                        let _ ← runBlock fuel environment handler
                        return .unit)
                      fun
                        | .fault ⟨.thrown .unit, position⟩ =>
                            throw (.fault { fault with position := position })
                        | exit => throw exit
            | exit => throw exit

end

end Evaluator

end SchemaMatch.Script
