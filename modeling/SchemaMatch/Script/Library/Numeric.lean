import SchemaMatch.Script.Arithmetic
import SchemaMatch.Script.Library.Answer
import SchemaMatch.Script.Size

/-!
Contract: the functions of scripts on numbers.

Owns:
- signs, parity, rounding, roots, logarithms and angles;
- conversions between integers, floats and text.

Does not own: operators, and bits.
-/

namespace SchemaMatch.Script.Library.Numeric

def positionalText (base : Nat) (value : Int) : ScriptValue :=
  .string (String.ofList (Nat.toDigits base (value % 2 ^ 64).toNat))

def sign (value : Int) : Int :=
  if value < 0 then -1 else if value = 0 then 0 else 1

def floatSign (value : Binary64) : Except FaultCause Int :=
  match value with
  | .nan => .error (.arithmetic "Sign of NaN is undefined")
  | .infinite negative => .ok (if negative then -1 else 1)
  | .finite negative significand _ _ =>
      .ok (if significand = 0 then 0 else if negative then -1 else 1)

/-- The integer part of a float. Not-a-number is zero, and the first float behind the range of
integers is the last of them, since it is what the end of that range is rounded to. -/
def toInt (value : Binary64) : Except FaultCause Int :=
  let overflow : FaultCause :=
    .arithmetic ("Integer overflow: to_int(" ++ value.render .plain ++ ")")
  match value, FloatArithmetic.truncate? value with
  | .nan, _ => .ok 0
  | _, some whole =>
      if Int64Range.least ≤ whole ∧ whole ≤ Int64Range.greatest + 1 then
        .ok (min whole Int64Range.greatest)
      else .error overflow
  | _, none => .error overflow

def greater (left right : Binary64) : Binary64 :=
  if FloatArithmetic.less left right then right else left

def lesser (left right : Binary64) : Binary64 :=
  if FloatArithmetic.less right left then right else left

/-- A blob of one byte over and over. -/
def filledBlob (length : Nat) (byte : UInt8) : Outcome :=
  if DataSize.itemLimit < length then fails (.tooLarge "Size of array/BLOB")
  else gives (.blob (List.replicate length byte))

def integerFunctions (value : Int) : Functions :=
  let self : ScriptValue := .int value
  [ ("abs", fun
      | [] => settles ((Arithmetic.absolute value).map .int)
      | _ => none),
    ("sign", fun
      | [] => gives (.int (sign value))
      | _ => none),
    ("is_zero", fun
      | [] => gives (.bool (value == 0))
      | _ => none),
    ("is_odd", fun
      | [] => gives (.bool (value % 2 == 1))
      | _ => none),
    ("is_even", fun
      | [] => gives (.bool (value % 2 == 0))
      | _ => none),
    ("to_int", fun
      | [] => gives self
      | _ => none),
    ("to_float", fun
      | [] => gives (.float (.ofInt value))
      | _ => none),
    ("to_hex", fun
      | [] => gives (positionalText 16 value)
      | _ => none),
    ("to_octal", fun
      | [] => gives (positionalText 8 value)
      | _ => none),
    ("to_binary", fun
      | [] => gives (positionalText 2 value)
      | _ => none),
    ("max", fun
      | [.int other] => gives (.int (max value other))
      | [.float other] => gives (.float (greater (.ofInt value) other))
      | _ => none),
    ("min", fun
      | [.int other] => gives (.int (min value other))
      | [.float other] => gives (.float (lesser (.ofInt value) other))
      | _ => none),
    ("blob", fun
      | [] => if value < 0 then gives (.blob []) else filledBlob value.toNat 0
      | [.int byte] =>
          if value < 0 then gives (.blob []) else filledBlob value.toNat (ScriptValue.byte byte)
      | _ => none) ]

/-- Functions of one float that give a float. -/
def floatMaps : List (String × (Binary64 → Binary64)) := [
  ("abs", FloatArithmetic.magnitude),
  ("floor", FloatArithmetic.floor),
  ("ceiling", FloatArithmetic.ceiling),
  ("round", FloatArithmetic.round),
  ("int", FloatArithmetic.truncate),
  ("fraction", FloatArithmetic.fraction),
  ("sqrt", FloatArithmetic.map Float.sqrt),
  ("exp", FloatArithmetic.map Float.exp),
  ("ln", FloatArithmetic.map Float.log),
  ("log", FloatArithmetic.map Float.log10),
  ("sin", FloatArithmetic.map Float.sin),
  ("cos", FloatArithmetic.map Float.cos),
  ("tan", FloatArithmetic.map Float.tan),
  ("sinh", FloatArithmetic.map Float.sinh),
  ("cosh", FloatArithmetic.map Float.cosh),
  ("tanh", FloatArithmetic.map Float.tanh),
  ("asin", FloatArithmetic.map Float.asin),
  ("acos", FloatArithmetic.map Float.acos),
  ("atan", FloatArithmetic.map Float.atan),
  ("asinh", FloatArithmetic.map Float.asinh),
  ("acosh", FloatArithmetic.map Float.acosh),
  ("atanh", FloatArithmetic.map Float.atanh),
  ("to_degrees", fun value =>
    FloatArithmetic.multiply value (.ofBits 0x404CA5DC1A63C1F8)),
  ("to_radians", fun value =>
    FloatArithmetic.multiply value (.ofBits 0x3F91DF46A2529D39))]

def floatFunctions (value : Binary64) : Functions :=
  floatMaps.map (fun (name, function) => (name, fun
    | [] => gives (.float (function value))
    | [.float base] =>
        if name = "log" then
          gives (.float (FloatArithmetic.divide (FloatArithmetic.map Float.log value)
            (FloatArithmetic.map Float.log base)))
        else if name = "atan" then
          gives (.float (FloatArithmetic.lift Float.atan2 value base))
        else none
    | _ => none)) ++
  [ ("sign", fun
      | [] => settles ((floatSign value).map .int)
      | _ => none),
    ("is_zero", fun
      | [] => gives (.bool (value.equal (.zero false)))
      | _ => none),
    ("is_nan", fun
      | [] => gives (.bool value.isNaN)
      | _ => none),
    ("is_finite", fun
      | [] => gives (.bool value.isFinite)
      | _ => none),
    ("is_infinite", fun
      | [] => gives (.bool (!value.isNaN && !value.isFinite))
      | _ => none),
    ("to_int", fun
      | [] => settles ((toInt value).map .int)
      | _ => none),
    ("hypot", fun
      | [.float other] =>
          gives (.float (FloatArithmetic.map Float.sqrt
            (FloatArithmetic.add (FloatArithmetic.multiply value value)
              (FloatArithmetic.multiply other other))))
      | _ => none),
    ("max", fun
      | [.float other] => gives (.float (greater value other))
      | [.int other] => gives (.float (greater value (.ofInt other)))
      | _ => none),
    ("min", fun
      | [.float other] => gives (.float (lesser value other))
      | [.int other] => gives (.float (lesser value (.ofInt other)))
      | _ => none) ]

end SchemaMatch.Script.Library.Numeric
