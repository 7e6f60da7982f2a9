import ConsumerConnector.Json.Tree

/-!
Records read from JSON. A record is an object with fields of known names or the array of its fields
in order. Fields of other names are passed over, whatever they hold; a known name comes once.
-/

namespace ConsumerConnector.Json.Tree

/-- The fields of known names that are there. -/
abbrev Record := List (String × Tree)

def record? (names : List String) : Tree → Option Record
  | .array items => if items.length ≤ names.length then some (names.zip items) else none
  | .object fields =>
    if fields.any (·.1.isNone) then none
    else
      let known := fields.filterMap fun (key, t) => key.bind fun key =>
        if key ∈ names then some (key, t) else none
      if (known.map Prod.fst).Nodup then some known else none
  | _ => none

namespace Record

variable {α : Type}

def required (r : Record) (name : String) (read : Tree → Option α) : Option α := do
  read (← r.lookup name)

/-- A field that may be left out. -/
def withDefault (r : Record) (name : String) (read : Tree → Option α) (default : α) : Option α :=
  match r.lookup name with
  | none => some default
  | some t => read t

/-- A field that may be left out or null. -/
def optional (r : Record) (name : String) (read : Tree → Option α) : Option (Option α) :=
  match r.lookup name with
  | none | some .null => some none
  | some t => (read t).map some

end Record

def string? : Tree → Option String
  | .string s => some s
  | _ => none

def bool? : Tree → Option Bool
  | .bool b => some b
  | _ => none

/-- A natural number of at most 64 bits. -/
def nat? : Tree → Option Nat
  | .number (.integer n) => if 0 ≤ n then some n.toNat else none
  | _ => none

/-- An integer of 64 bits with a sign. -/
def int? : Tree → Option Int
  | .number (.integer n) => if n < Decimal.wordSize 63 then some n else none
  | _ => none

def list? {α : Type} (read : Tree → Option α) : Tree → Option (List α)
  | .array items => items.mapM read
  | _ => none

/-- An object whose keys are data: in key order, of equal keys the last one. -/
def dictionary? {α : Type} (read : Tree → Option α) : Tree → Option (Dictionary α)
  | .object fields => do
    return .ofList (← fields.mapM fun (key, t) => do return (← key, ← read t))
  | _ => none

end ConsumerConnector.Json.Tree
