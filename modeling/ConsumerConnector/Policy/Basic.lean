import ConsumerConnector.Json.Basic
import ConsumerConnector.Text.Segment
import ConsumerConnector.Timestamp

/-!
Usage policies: permissions to do something under constraints. A constraint compares two operands or
joins constraints by a connective.
-/

namespace ConsumerConnector

namespace Policy

inductive Operator
  | eq | neq | gt | geq | lt | leq | isIn | isAnyOf | isAllOf | isNoneOf
  deriving DecidableEq, Repr, Inhabited

inductive Connective
  | and | or | xone
  deriving DecidableEq, Repr

structure Comparison where
  left : String
  operator : Operator
  right : String
  deriving DecidableEq, Repr, Inhabited

inductive Constraint
  | compare (c : Comparison)
  | join (connective : Connective) (parts : List Constraint)
  deriving Inhabited

structure Permission where
  action : String
  constraints : List Constraint

end Policy

structure Policy where
  permissions : List Policy.Permission
  prohibitions : List Json
  obligations : List Json
  target : Option String

/-- A policy the consumer accepts until an instant, by name alone or with its terms. -/
structure AcceptedPolicy where
  id : String
  validUntil : Timestamp
  policy : Option Policy

namespace Policy

def empty : Policy := ⟨[], [], [], none⟩

def withTarget (p : Policy) (asset : String) : Policy :=
  { p with target := some asset }

namespace Operator

def odrlName : Operator → String
  | eq => "odrl:eq"
  | neq => "odrl:neq"
  | gt => "odrl:gt"
  | geq => "odrl:gteq"
  | lt => "odrl:lt"
  | leq => "odrl:lteq"
  | isIn => "odrl:in"
  | isAnyOf => "odrl:isAnyOf"
  | isAllOf => "odrl:isAllOf"
  | isNoneOf => "odrl:isNoneOf"

/-- The operator that a bare name in lower case stands for. -/
def named? : String → Option Operator
  | "eq" => some eq
  | "neq" => some neq
  | "gt" => some gt
  | "gteq" | "geq" => some geq
  | "lt" => some lt
  | "lteq" | "leq" => some leq
  | "in" => some isIn
  | "isanyof" => some isAnyOf
  | "isallof" => some isAllOf
  | "isnoneof" => some isNoneOf
  | _ => none

def isNameBreak (c : Char) : Bool :=
  c = ':' || c = '/'

/-- Reads an operator under any namespace and in any case. -/
def parse? (raw : String) : Option Operator :=
  named? (Text.lowerAscii (Text.afterLast isNameBreak raw))

end Operator

namespace Constraint

def equals (left right : String) : Constraint :=
  .compare ⟨left, .eq, right⟩

mutual

/-- The comparisons of a constraint, from left to right. -/
def comparisons : Constraint → List Comparison
  | .compare c => [c]
  | .join _ parts => allComparisons parts

def allComparisons : List Constraint → List Comparison
  | [] => []
  | c :: rest => c.comparisons ++ allComparisons rest

end

end Constraint

end Policy

def AcceptedPolicy.isValidAt (p : AcceptedPolicy) (now : Timestamp) : Bool :=
  p.validUntil.isAfter now

end ConsumerConnector
