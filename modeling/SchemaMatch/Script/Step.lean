import SchemaMatch.Script.Element
import SchemaMatch.Script.Machine

/-!
Contract: steps of a run that call no function of a script.

Owns:
- the links of a chain with their values, and assignments to the place where a chain ends;
- operators applied to values, with the operations that they count for;
- what counts as a condition and as a function.

Does not own: the order of steps.
-/

namespace SchemaMatch.Script

open Machine

namespace Evaluator

/-- A link of a chain with the values of what it mentions. -/
inductive Step where
  | property (name : String) (isOptional : Bool) (position : Position)
  | method (name : String) (arguments : List ScriptValue) (isOptional : Bool)
      (argumentPosition position : Position)
  | index (value : ScriptValue) (isOptional : Bool) (indexPosition mark : Position)

def Step.isOptional : Step → Bool
  | .property _ isOptional _ => isOptional
  | .method _ _ isOptional _ _ => isOptional
  | .index _ isOptional _ _ => isOptional

/-- The place of the name that a step mentions. -/
def Step.position : Step → Position
  | .property _ _ position => position
  | .method _ _ _ _ position => position
  | .index _ _ _ mark => mark

/-- What an assignment does to the place at the end of a chain. -/
structure Assignment where
  operator : Option BinaryOperator
  value : ScriptValue
  position : Position

/-- The result of a step, and what the value it was taken on becomes, if it changes. -/
abbrev Effect := ScriptValue × Option ScriptValue

/-- Expressions that as a statement save the operation of an expression. -/
def isCall : Expression → Bool
  | .call .. => true
  | .callInScope .. => true
  | .qualified _ _ arguments _ => arguments.isSome
  | .unary .. => true
  | .binary .. => true
  | _ => false

/-- The place of the arguments of a method. -/
def argumentsStart (arguments : List Expression) (position : Position) : Position :=
  (arguments.head?.map Expression.start).getD position

/-- A link that mentions nothing but constants, which it needs no evaluation for. -/
def simpleStep? : Link → Option Step
  | .property name isOptional _ position => some (.property name isOptional position)
  | .method name arguments isOptional _ position =>
      (Expression.constants? arguments).map fun values =>
        .method name values isOptional (argumentsStart arguments position) position
  | .index index isOptional mark =>
      index.literal?.map fun value => .index value isOptional index.start mark

/-- Where the root of an assignment may not change. -/
structure Root where
  isConstant : Bool
  name : String
  position : Position

/-! ## Tags of variables -/

/-- What a step does with the tag of the variable that it is taken on. -/
inductive TagUse where
  | property
  | reads
  | writes (tag : ScriptValue)

/-- What a step on a variable does with its tag, if it is about that. Maps have entries of that
name instead of a property, and functions of the script go before those of the library. -/
def tagUse? (program : Program) (value : ScriptValue) : Step → Option TagUse
  | .property "tag" _ _ =>
      match value with
      | .map _ => none
      | _ => some .property
  | .method "tag" [] _ _ _ => if (program.method? value "tag" 0).isSome then none else some .reads
  | .method "set_tag" [tag] _ _ _ =>
      if (program.method? value "set_tag" 1).isSome then none else some (.writes tag)
  | _ => none

/-- The first and the last tag. -/
def tagLimits : Int × Int := (-(2 ^ 31), 2 ^ 31 - 1)

/-- Put a tag on a variable. -/
def putTag (name : String) (tag : Int) (position : Position) : Running Unit :=
  if tagLimits.1 ≤ tag ∧ tag ≤ tagLimits.2 then writeTag name tag
  else
    raise (.arithmetic (toString tag ++ " is too large to fit into a tag (must be between " ++
      toString tagLimits.1 ++ " and " ++ toString tagLimits.2 ++ ")")) position

/-- The tag that goes along with the value of an expression. -/
def tagOf (expression : Expression) : Running Int := do
  match expression with
  | .variable name _ => return ((← find? name).map (·.tag)).getD 0
  | _ => return 0

/-! ## Steps without calls -/

def applyBinary (operator : BinaryOperator) (left right : ScriptValue) (position : Position) :
    Running ScriptValue := do
  match Operators.builtin? operator left right with
  | some result => fitting (← settle result position)
  | none =>
      tick
      match Operators.library? operator left right with
      | some result => fitting (← settle result position)
      | none =>
          raise (.functionNotFound (Operators.signature operator.text [left, right])) position

def applyUnary (operator : UnaryOperator) (operand : ScriptValue) (position : Position) :
    Running ScriptValue := do
  match Operators.unary? operator operand with
  | some result => settle result position
  | none =>
      tick
      raise (.functionNotFound (Operators.signature operator.text [operand])) position

/-- What a place holds after an assignment. -/
def assigned (old : ScriptValue) (assignment : Assignment) : Running ScriptValue := do
  match assignment.operator with
  | none => return assignment.value
  | some operator =>
      match Operators.assigned? operator old assignment.value with
      | some result => fitting (← settle result assignment.position)
      | none =>
          tick
          if Operators.hasAssignment operator old assignment.value then
            match Operators.library? operator old assignment.value with
            | some result => fitting (← settle result assignment.position)
            | none => return old
          else
            match Operators.builtin? operator old assignment.value with
            | some result =>
                tick
                fitting (← settle result assignment.position)
            | none => applyBinary operator old assignment.value assignment.position

/-- What a call with a variable as its first argument does with the tag of that variable. -/
def tagCall? (program : Program) (name : String) (others : List ScriptValue) : Option TagUse :=
  if (program.find? name (others.length + 1)).isSome then none
  else
    match name, others with
    | "tag", [] => some .reads
    | "set_tag", [tag] => some (.writes tag)
    | _, _ => none

/-- Read or write the tag of a variable. -/
def useTag (variable_ : Variable) (value : ScriptValue) (use_ : TagUse)
    (assignment : Option Assignment) (position : Position) : Running ScriptValue := do
  tick
  match use_, assignment with
  | .property, some assignment => do
      if assignment.operator.isSome then tick
      match ← assigned (.int variable_.tag) assignment with
      | .int tag =>
          if variable_.isConstant then raise (.impureProperty "tag") position
          putTag variable_.name tag position
          return .unit
      | other => raise (Element.unwritable value "tag" other) position
  | .writes (.int tag), _ => do
      if variable_.isConstant then raise (.impureMethod "set_tag") position
      putTag variable_.name tag position
      return .unit
  | .writes other, _ =>
      raise (.functionNotFound (Operators.signature "set_tag" [value, other])) position
  | _, _ => return .int variable_.tag

/-- A variable. A name that is none may be the one of a function of the script, which then is its
value. -/
def resolve (program : Program) (name : String) (position : Position) : Running Variable := do
  match ← find? name with
  | some variable_ => return variable_
  | none =>
      if program.defines name then return ⟨name, false, .function name [], 0⟩
      else raise (.variableNotFound name) position

/-- Nothing comes from a path of modules, since scripts cannot load any. -/
def missingModule (path : List PlacedName) (name : String) (isCall : Bool) : FaultCause :=
  let text := String.intercalate "::" (path.map (·.name))
  if text = "global" && !isCall then .variableNotFound (text ++ "::" ++ name)
  else .moduleNotFound text

def expectBool (value : ScriptValue) (position : Position) : Running Bool :=
  match value with
  | .bool answer => return answer
  | other => raise (.mismatched "bool" other.foreignTypeName) position

/-- A value as a function to be called. Strings name functions. -/
def callable? : ScriptValue → Option (String × List ScriptValue)
  | .function name curried => some (name, curried)
  | .string name => some (name, [])
  | _ => none

end Evaluator

end SchemaMatch.Script
