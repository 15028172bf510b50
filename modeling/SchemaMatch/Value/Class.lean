/-!
Contract: class tags, functions and the identity of both.

Owns:
- classes, which are built-in, defined anew or extend another class;
- the chain of ancestors of a class.

A definition has a number, so two definitions with one name stay apart; equality of tags is
identity. The kind of a built-in class is all there is to it.

Does not own: which values are instances of a class.
-/

namespace SchemaMatch

/-- The classes every program has. -/
inductive BuiltinClass where
  | object
  | array
  | date
  | regexp
deriving DecidableEq, Repr

namespace BuiltinClass

def name : BuiltinClass → String
  | .object => "Object"
  | .array => "Array"
  | .date => "Date"
  | .regexp => "RegExp"

end BuiltinClass

/-- The tag that a class leaves on its instances. -/
inductive Class where
  | builtin (kind : BuiltinClass)
  | defined (id : Nat) (name : String)
  | extending (id : Nat) (name : String) (parent : Class)
deriving DecidableEq, Repr

namespace Class

def name : Class → String
  | .builtin kind => kind.name
  | .defined _ name => name
  | .extending _ name _ => name

def parent? : Class → Option Class
  | .extending _ _ parent => some parent
  | _ => none

/-- Whether two tags belong to one class. -/
def same (left right : Class) : Bool :=
  left == right

/-- The class itself, its parent, the parent of that, and so on. -/
def lineage : Class → List Class
  | .extending id name parent => .extending id name parent :: lineage parent
  | other => [other]

/-- Whether a class is `ancestor` or descends from it. -/
def descendsFrom (descendant ancestor : Class) : Bool :=
  descendant.lineage.any fun tag => tag.same ancestor

end Class

/-- A callable. What it does is up to the host that a check runs in; its number is its
identity. -/
structure Function where
  id : Nat
  name : Option String
deriving DecidableEq, Repr

/-- What a callable reports when it fails. -/
structure CallError where
  message : String
deriving DecidableEq, Repr

end SchemaMatch
