import ConsumerConnector.Json.Record
import ConsumerConnector.Policy.Basic

/-! Policies as JSON records. A constraint carries its kind in the field `type`. -/

namespace ConsumerConnector

open Json (Tree)

namespace Policy

namespace Operator

def name : Operator → String
  | eq => "eq"
  | neq => "neq"
  | gt => "gt"
  | geq => "geq"
  | lt => "lt"
  | leq => "leq"
  | isIn => "in"
  | isAnyOf => "is_any_of"
  | isAllOf => "is_all_of"
  | isNoneOf => "is_none_of"

def all : List Operator :=
  [eq, neq, gt, geq, lt, leq, isIn, isAnyOf, isAllOf, isNoneOf]

def ofName? (s : String) : Option Operator :=
  all.find? (·.name = s)

/-- An operator is its name, or an object with the name as its only key and nothing under it. -/
def ofTree? : Tree → Option Operator
  | .string s => ofName? s
  | .object [(some key, .null)] | .object [(some key, .object [])] => ofName? key
  | _ => none

end Operator

def Connective.name : Connective → String
  | and => "and"
  | or => "or"
  | xone => "xone"

namespace Constraint

inductive Kind
  | atomic
  | joined (c : Connective)

namespace Kind

def ofName? : String → Option Kind
  | "atomic" => some .atomic
  | "and" => some (.joined .and)
  | "or" => some (.joined .or)
  | "xone" => some (.joined .xone)
  | _ => none

def ofTree? (t : Tree) : Option Kind := do
  ofName? (← t.string?)

/-- Inside another constraint a kind may also be given by its number. -/
def ofInnerTree? : Tree → Option Kind
  | .number (.integer 0) => some .atomic
  | .number (.integer 1) => some (.joined .and)
  | .number (.integer 2) => some (.joined .or)
  | .number (.integer 3) => some (.joined .xone)
  | t => ofTree? t

end Kind

def comparison? (left operator right : Tree) : Option Constraint := do
  return .compare ⟨← left.string?, ← Operator.ofTree? operator, ← right.string?⟩

mutual

/-- A constraint, its kind read by `kind?`. It is an object or an array that begins with the kind. -/
def read? (kind? : Tree → Option Kind) : Tree → Option Constraint
  | .object fields => do
    let r ← Tree.record? ["type"] (.object fields)
    match ← r.required "type" kind? with
    | .atomic =>
      let r ← Tree.record? ["left_operand", "operator", "right_operand"] (.object fields)
      comparison? (← r.required "left_operand" some) (← r.required "operator" some)
        (← r.required "right_operand" some)
    | .joined c =>
      let _ ← Tree.record? ["constraints"] (.object fields)
      return .join c (← parts? fields)
  | .array [kind, .array items] => do
    match ← kind? kind with
    | .joined c => return .join c (← readAll? items)
    | .atomic => none
  | .array [kind, left, operator, right] => do
    match ← kind? kind with
    | .atomic => comparison? left operator right
    | .joined _ => none
  | _ => none

/-- The constraints under the field `constraints`. -/
def parts? : List (Option String × Tree) → Option (List Constraint)
  | [] => none
  | (key, .array items) :: rest =>
    if key = some "constraints" then readAll? items else parts? rest
  | (key, _) :: rest => if key = some "constraints" then none else parts? rest

def readAll? : List Tree → Option (List Constraint)
  | [] => some []
  | t :: rest => do return (← read? Kind.ofInnerTree? t) :: (← readAll? rest)

end

/-- All of a constraint has to be readable, also the fields that it passes over. -/
def ofTree? (t : Tree) : Option Constraint := do
  let _ ← t.value?
  read? Kind.ofTree? t

mutual

def toJson : Constraint → Json
  | .compare c =>
    .ofFields [("type", .string "atomic"), ("left_operand", .string c.left),
      ("operator", .string c.operator.name), ("right_operand", .string c.right)]
  | .join c parts =>
    .ofFields [("type", .string c.name), ("constraints", .array (allToJson parts))]

def allToJson : List Constraint → List Json
  | [] => []
  | c :: rest => c.toJson :: allToJson rest

end

end Constraint

def Permission.ofTree? (t : Tree) : Option Permission := do
  let r ← t.record? ["action", "constraints"]
  return {
    action := ← r.required "action" Tree.string?
    constraints := ← r.withDefault "constraints" (Tree.list? Constraint.ofTree?) [] }

def Permission.toJson (p : Permission) : Json :=
  .ofFields [("action", .string p.action), ("constraints", .array (p.constraints.map (·.toJson)))]

def ofTree? (t : Tree) : Option Policy := do
  let r ← t.record? ["permissions", "prohibitions", "obligations", "target"]
  return {
    permissions := ← r.withDefault "permissions" (Tree.list? Permission.ofTree?) []
    prohibitions := ← r.withDefault "prohibitions" (Tree.list? Tree.value?) []
    obligations := ← r.withDefault "obligations" (Tree.list? Tree.value?) []
    target := ← r.optional "target" Tree.string? }

def toJson (p : Policy) : Json :=
  .ofPresent [("permissions", some (.array (p.permissions.map (·.toJson)))),
    ("prohibitions", some (.array p.prohibitions)),
    ("obligations", some (.array p.obligations)),
    ("target", p.target.map .string)]

end Policy

namespace AcceptedPolicy

def ofTree? (t : Tree) : Option AcceptedPolicy := do
  let r ← t.record? ["policy_id", "valid_until", "policy"]
  return {
    id := ← r.required "policy_id" Tree.string?
    validUntil := ← Timestamp.parse? (← r.required "valid_until" Tree.string?)
    policy := ← r.optional "policy" Policy.ofTree? }

def toJson (p : AcceptedPolicy) : Json :=
  .ofPresent [("policy_id", some (.string p.id)),
    ("valid_until", some (.string p.validUntil.render)),
    ("policy", p.policy.map Policy.toJson)]

end AcceptedPolicy

end ConsumerConnector
