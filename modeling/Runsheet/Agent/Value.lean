import Mathlib.Data.List.Infix

/-!
# Python values on the streaming path

The dicts that `chat_streaming` yields and `generate_response` reads, with what that code
does to them: key lookup and `in`, `dict.get` with a default, truthiness, `str.lower` and
`in` on strings, and `json.dumps`, which raises `TypeError` on an object it cannot encode.
-/

namespace Runsheet.Agent

/-- A Python value: `None`, a boolean, an integer, a string, a dict with string keys, or
an object of some other class (an `AgentResult`, an exception) that JSON cannot encode. -/
inductive Value where
  | none
  | bool (b : Bool)
  | int (i : Int)
  | str (s : String)
  | dict (fields : List (String × Value))
  | object (className : String)

/-- A dict with string keys, in insertion order. -/
abbrev Dict := List (String × Value)

namespace Dict

/-- `d[key]`, or nothing when `key not in d`. -/
def lookup (d : Dict) (key : String) : Option Value :=
  (List.find? (fun field => field.1 == key) d).map (·.2)

/-- `key in d`. -/
def has (d : Dict) (key : String) : Bool := (lookup d key).isSome

end Dict

namespace Value

/-- `type(v).__name__`. -/
def typeName : Value → String
  | .none => "NoneType"
  | .bool _ => "bool"
  | .int _ => "int"
  | .str _ => "str"
  | .dict _ => "dict"
  | .object cls => cls

/-- `bool(v)`: objects of other classes are true. -/
def truthy : Value → Bool
  | .none => false
  | .bool b => b
  | .int i => i != 0
  | .str s => s != ""
  | .dict fields => !fields.isEmpty
  | .object _ => true

/-- `v.get(key, default)`, or the `AttributeError` message when `v` is not a dict. -/
def get (v : Value) (key : String) (default : Value) : Except String Value :=
  match v with
  | .dict fields => .ok ((Dict.lookup fields key).getD default)
  | other => .error ("'" ++ other.typeName ++ "' object has no attribute 'get'")

mutual

/-- The class of the first value `json.dumps` cannot encode, if any. -/
def unencodable : Value → Option String
  | .dict fields => fieldsUnencodable fields
  | .object cls => some cls
  | _ => .none

def fieldsUnencodable : Dict → Option String
  | [] => .none
  | (_, v) :: rest => (unencodable v).orElse fun _ => fieldsUnencodable rest

end

end Value

/-- `json.dumps(v)`, as the value it encodes, or the `TypeError` message it raises. -/
def jsonDumps (v : Value) : Except String Value :=
  match v.unencodable with
  | some cls => .error ("Object of type " ++ cls ++ " is not JSON serializable")
  | none => .ok v

/-- `s.lower()` for the ASCII letters. -/
def lower (s : String) : String := String.mk (s.toList.map Char.toLower)

/-- `sub in s` for strings. -/
def contains (s sub : String) : Bool := decide (sub.toList <:+: s.toList)

end Runsheet.Agent
