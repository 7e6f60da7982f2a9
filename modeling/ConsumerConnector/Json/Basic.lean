import ConsumerConnector.Dictionary

/-!
JSON values. A number is an integer of 64 bits or a double; the fields of an object are in key order
and no key comes twice.
-/

namespace ConsumerConnector

inductive Json.Number
  | integer (n : Int)
  | double (x : Float)
  deriving DecidableEq

inductive Json
  | null
  | bool (b : Bool)
  | number (n : Json.Number)
  | string (s : String)
  | array (items : List Json)
  | object (fields : List (String × Json))
  deriving Inhabited

namespace Json

def string? : Json → Option String
  | .string s => some s
  | _ => none

def object? : Json → Option (List (String × Json))
  | .object fields => some fields
  | _ => none

def field? (fields : List (String × Json)) (key : String) : Option Json :=
  fields.lookup key

/-- The value at the end of a path of keys. -/
def at? (j : Json) : List String → Option Json
  | [] => some j
  | key :: path => do ((← field? (← j.object?) key).at? path)

def ofNat (n : Nat) : Json := .number (.integer n)

def ofInt (n : Int) : Json := .number (.integer n)

/-- An object of any fields; of equal keys the last one stays. -/
def ofFields (fields : List (String × Json)) : Json :=
  .object (Dictionary.ofList fields).entries

@[simp] theorem field?_ofList (fields : List (String × Json)) (key : String) :
    field? (Dictionary.ofList fields).entries key = fields.reverse.lookup key :=
  Dictionary.get?_ofList fields key

def ofDictionary (d : Dictionary Json) : Json :=
  .object d.entries

/-- An object of the fields that are there. -/
def ofPresent (fields : List (String × Option Json)) : Json :=
  ofFields (fields.filterMap fun (key, value) => value.map (key, ·))

def strings (items : List String) : Json :=
  .array (items.map .string)

end Json

end ConsumerConnector
