import SchemaMatch.Json.Skip
import SchemaMatch.Schema.Policy

/-!
Contract: the options of a check as JSON text.

Owns:
- the members that options are read from, under either of two spellings, and at most once;
- the list form, which holds the members in order and may be short;
- the written form, which leaves out what is not set.

Does not own: options inside configuration files; `Config` reads those.
-/

namespace SchemaMatch

/-- Why a text holds no options. -/
inductive OptionsError where
  | malformed (error : JsonError)
  /-- A value that is neither a truth value nor null, or no object or list at all. -/
  | wrongType
  /-- A member that was set already, maybe under its other spelling. -/
  | repeated
deriving DecidableEq, Repr

namespace Options

/-- The two spellings of the one member. -/
def extraKeysNames : List String := ["allow_extra_keys", "allowExtraKeys"]

open JsonReader

/-- A reader that may also find well-formed text that holds no options. -/
abbrev OptionsReading := ExceptT OptionsError Reading

/-- The setting of a member: a truth value, or null for none. -/
def setting : OptionsReading (Option Bool) := do
  match ← peekToken with
  | some 'n' =>
      advance
      ident ['u', 'l', 'l']
      return none
  | some 't' =>
      advance
      ident ['r', 'u', 'e']
      return some true
  | some 'f' =>
      advance
      ident ['a', 'l', 's', 'e']
      return some false
  | _ => throw .wrongType

/-- The members of an object and its closing brace. `found` is the setting, once it was
read. -/
def settingMembers : Nat → Bool → Option (Option Bool) → OptionsReading (Option Bool)
  | 0, _, found => return found.getD none
  | fuel + 1, first, found => do
      if ← hasMember first then
        let name ← key
        if extraKeysNames.contains name then
          if found.isSome then throw .repeated
          let value ← setting
          settingMembers fuel false (some value)
        else
          skipNext
          settingMembers fuel false found
      else
        advance
        return found.getD none

/-- The items of a list and its closing bracket. -/
def settingItems : OptionsReading (Option Bool) := do
  let value ← if ← hasItem true then setting else pure none
  if ← hasItem false then throw .wrongType
  advance
  return value

def reading : OptionsReading Options := do
  let value ← match ← peekToken with
    | some '{' =>
        advance
        settingMembers (← fuel) true none
    | some '[' =>
        advance
        settingItems
    | _ => throw .wrongType
  finish
  return ⟨value⟩

/-- The options a text holds. -/
def ofText? (text : String) : Except OptionsError Options :=
  match JsonReader.run reading.run text with
  | .ok result => result
  | .error error => .error (.malformed error)

def toJson (options : Options) : Json :=
  match options.allowExtraKeys with
  | some value => .object [("allow_extra_keys", .bool value)]
  | none => .object []

end Options

end SchemaMatch
