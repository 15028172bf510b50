import SchemaMatch.Script.Library.Answer
import SchemaMatch.Script.Operators

/-!
Contract: the functions of scripts on maps that call no other function.

Owns:
- entries by their keys, and keys and values in the order of keys;
- maps in the notation of documents.

Does not own: operators, indexing, and functions that call functions.
-/

namespace SchemaMatch.Script.Library.Mapping

mutual

/-- A value in the notation of documents. What documents do not know keeps the notation of
scripts. -/
def document : ScriptValue → String
  | .unit => "null"
  | .array items => "[" ++ String.intercalate "," (documents items) ++ "]"
  | .map entries => "\x7b" ++ String.intercalate "," (entryDocuments entries) ++ "\x7d"
  | value => value.debug

def documents : List ScriptValue → List String
  | [] => []
  | item :: rest => document item :: documents rest

def entryDocuments : List (String × ScriptValue) → List String
  | [] => []
  | (key, value) :: rest =>
      (Text.quoted '"' key ++ ":" ++ document value) :: entryDocuments rest

end

def functions (entries : List (String × ScriptValue)) : Functions :=
  let self : ScriptValue := .map entries
  [ ("len", fun
      | [] => gives (.int entries.length)
      | _ => none),
    ("is_empty", fun
      | [] => gives (.bool entries.isEmpty)
      | _ => none),
    ("contains", fun
      | [.string key] => gives (.bool (entries.lookup key).isSome)
      | _ => none),
    ("get", fun
      | [.string key] => gives ((entries.lookup key).getD .unit)
      | _ => none),
    ("set", fun
      | [.string key, value] =>
          becomes (.map (ScriptValue.insertSorted key value entries)) .unit
      | _ => none),
    ("remove", fun
      | [.string key] =>
          match entries.lookup key with
          | some value => becomes (.map (entries.filter (·.1 != key))) value
          | none => becomes self .unit
      | _ => none),
    ("clear", fun
      | [] => becomes (.map []) .unit
      | _ => none),
    ("mixin", fun
      | [.map others] => becomes (.map (Operators.mergeEntries entries others)) .unit
      | _ => none),
    ("fill_with", fun
      | [.map others] => becomes (.map (Operators.mergeEntries others entries)) .unit
      | _ => none),
    ("to_json", fun
      | [] => gives (.string (document self))
      | _ => none),
    ("keys", fun
      | [] => gives (.array (entries.map fun (key, _) => .string key))
      | _ => none),
    ("values", fun
      | [] => gives (.array (entries.map Prod.snd))
      | _ => none) ]

end SchemaMatch.Script.Library.Mapping
