import ConsumerConnector.Policy.Basic
import ConsumerConnector.Text.Blank
import ConsumerConnector.Text.FormEncoding
import ConsumerConnector.Text.Segment

/-!
Whether an offered policy is among what the consumer accepts. Every accepted policy stands for
comparisons that an offer may ask for: its name as a purpose, its name as active, and the comparisons
of its own terms. An offer is accepted if all its permissions are to use, under constraints that hold
once exactly these comparisons are taken as true.
-/

namespace ConsumerConnector.Policy

/-- The policy with this name accepts every offer. -/
def wildcard : String := "*"

def purposeOperand : String := "PURPOSE"

def activeOperand : String := "active"

def useAction : String := "use"

/-- Operands are compared without a leading namespace mark, unless they hold an address. -/
def localName (operand : String) : String :=
  if Text.contains [':', '/', '/'] operand.toList then operand
  else match Text.splitFirst ':' operand with
    | some (_, name) => name
    | none => operand

def sameOperand (expected offered : String) : Bool :=
  let expected := Text.trim expected
  let offered := Text.trim offered
  expected == offered || localName expected == localName offered

def Comparison.accepts (accepted offered : Comparison) : Bool :=
  accepted.operator == offered.operator && sameOperand accepted.left offered.left &&
    sameOperand accepted.right offered.right

@[simp] theorem sameOperand_self (s : String) : sameOperand s s := by
  simp [sameOperand]

@[simp] theorem Comparison.accepts_self (c : Comparison) : c.accepts c := by
  simp [accepts]

/-- A name as it is and, if that differs, as a form value. -/
def spellings (id : String) : List String :=
  let encoded := Text.formEncode id
  if encoded = id then [id] else [id, encoded]

def nameComparisons (id : String) : List Comparison :=
  (spellings id).flatMap fun s => [⟨purposeOperand, .eq, s⟩, ⟨s, .eq, activeOperand⟩]

def comparisons (p : Policy) : List Comparison :=
  p.permissions.flatMap fun permission => permission.constraints.flatMap (·.comparisons)

/-- What an accepted policy stands for. -/
def acceptedComparisons (p : AcceptedPolicy) : List Comparison :=
  nameComparisons p.id ++ (p.policy.map comparisons).getD []

mutual

/-- Whether a constraint holds when a comparison holds as `holds` says. -/
def Constraint.eval (holds : Comparison → Bool) : Constraint → Bool
  | .compare c => holds c
  | .join .and parts => (evalParts holds parts).all id
  | .join .or parts => (evalParts holds parts).any id
  | .join .xone parts => (evalParts holds parts).count true == 1

def evalParts (holds : Comparison → Bool) : List Constraint → List Bool
  | [] => []
  | c :: rest => c.eval holds :: evalParts holds rest

end

def Permission.isUse (p : Permission) : Bool :=
  Text.lowerAscii (Text.afterLast Operator.isNameBreak p.action) == useAction

def Permission.isGranted (p : Permission) (holds : Comparison → Bool) : Bool :=
  p.isUse && p.constraints.all (·.eval holds)

def isAccepted (offered : Policy) (accepted : List AcceptedPolicy) : Bool :=
  if accepted.any (·.id == wildcard) then true
  else if accepted.isEmpty then false
  else
    let known := accepted.flatMap acceptedComparisons
    offered.permissions.all (·.isGranted fun c => known.any (·.accepts c))

end ConsumerConnector.Policy
