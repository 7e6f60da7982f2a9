import ConsumerConnector.Contract.Basic
import ConsumerConnector.Failure.Transport
import ConsumerConnector.Json.Printer
import ConsumerConnector.LinkedData.Vocabulary

/-!
Answers of the control plane read from linked data. A term with one value may stand for a list, and a
text may be wrapped in a value object, a node with an id, or a list.
-/

namespace ConsumerConnector.LinkedData

open Policy (Constraint Connective Operator Permission)

abbrev Read (α : Type) := Except TransportError α

def fail {α : Type} (message : String) : Read α :=
  .error (.decode message)

def expect {α : Type} (o : Option α) (message : String) : Read α :=
  o.elim (fail message) .ok

def fields (j : Json) (what : String) : Read Fields :=
  expect j.object? (what ++ " is not a JSON object")

/-- The values a term holds: none for null, and a single value is a list of its own. -/
def listed : Json → List Json
  | .array items => items
  | .null => []
  | j => [j]

def listUnder (node : Fields) (t : Term) : List Json :=
  ((find? node t).map listed).getD []

mutual

/-- The text of a value: a value object's value, else a node's id, or the first of a list. -/
def text? : Json → Option String
  | .string s => some s
  | .object node =>
    if (Json.field? node "@value").isSome then textUnder? "@value" node
    else textUnder? "@id" node
  | .array (first :: _) => text? first
  | _ => none

def textUnder? (key : String) : Fields → Option String
  | [] => none
  | (k, value) :: rest => if k = key then text? value else textUnder? key rest

end

def textOf? (node : Fields) (t : Term) : Option String :=
  (find? node t).bind text?

def id? (node : Fields) : Option String :=
  textUnder? "@id" node

mutual

/-- The text of an operand: numbers and flags as they are written, and a list joined by commas. -/
def operandText? : Json → Option String
  | .number n => some n.render
  | .bool b => some (toString b)
  | .array items => some (",".intercalate (operandTexts items))
  | j => text? j

def operandTexts : List Json → List String
  | [] => []
  | j :: rest => (operandText? j).toList ++ operandTexts rest

end

def comparison (node : Fields) : Read Constraint := do
  let left ← expect (textOf? node (odrl "leftOperand")) "constraint is missing 'leftOperand'"
  let raw ← expect (textOf? node (odrl "operator")) "constraint is missing 'operator'"
  let operator ← expect (Operator.parse? raw)
    ("unsupported constraint operator '" ++ raw ++ "'")
  let right ← expect ((find? node (odrl "rightOperand")).bind operandText?)
    "constraint is missing 'rightOperand'"
  return .compare ⟨left, operator, right⟩

def connectiveTerm : Connective → Term
  | .and => odrl "and"
  | .or => odrl "or"
  | .xone => odrl "xone"

mutual

/-- A constraint with a connective is joined by the first it has; any other is a comparison. -/
def constraint : Json → Read Constraint
  | .object node =>
    let joined (c : Connective) : Option (Read Constraint) :=
      ((connectiveTerm c).spellings.findSome? fun key => partsUnder? key node).map fun parts => do
        return .join c (← parts)
    (joined .and <|> joined .or <|> joined .xone).getD (comparison node)
  | _ => fail "constraint is not a JSON object"

def partsUnder? (key : String) : Fields → Option (Read (List Constraint))
  | [] => none
  | (k, value) :: rest => if k = key then some (parts value) else partsUnder? key rest

def parts : Json → Read (List Constraint)
  | .array items => constraints items
  | .null => .ok []
  | j => do return [← constraint j]

def constraints : List Json → Read (List Constraint)
  | [] => .ok []
  | j :: rest => do return (← constraint j) :: (← constraints rest)

end

def actionName? : Json → Option String
  | .object node => id? node <|> textOf? node (odrl "type")
  | j => text? j

def permission (j : Json) : Read Permission := do
  let node ← fields j "permission"
  return {
    action := ((find? node (odrl "action")).bind actionName?).getD ""
    constraints := ← constraints (listUnder node (odrl "constraint")) }

def policy (node : Fields) : Read Policy := do
  return {
    permissions := ← (listUnder node (odrl "permission")).mapM permission
    prohibitions := listUnder node (odrl "prohibition")
    obligations := listUnder node (odrl "obligation")
    target := textOf? node (odrl "target") }

def offer (j : Json) : Read Offer := do
  let node ← fields j "offer"
  return { id := ← expect (id? node) "offer is missing '@id'", policy := ← policy node }

/-- The keys of a node by their full addresses, without keywords and without one term. -/
def properties (node : Fields) (without : Term) : Dictionary Json :=
  .ofList (node.filterMap fun (key, value) =>
    if isKeyword key || expandKey key == without.expanded then none
    else some (expandKey key, value))

def dataset (j : Json) : Read Dataset := do
  let node ← fields j "dataset"
  return {
    id := (id? node).getD ""
    properties := properties node (odrl "hasPolicy")
    offers := ← (listUnder node (odrl "hasPolicy")).mapM offer }

def catalog (j : Json) : Read Catalog := do
  let node ← fields j "catalog"
  return {
    id := (id? node).getD ""
    participantId := textOf? node (dspace "participantId")
    properties := properties node (dcat "dataset")
    datasets := ← (listUnder node (dcat "dataset")).mapM dataset }

def stateText (node : Fields) : Read String :=
  expect (textOf? node (edc "state")) "missing 'state'"

def created (j : Json) : Read Contract.Created := do
  let node ← fields j "id response"
  return { id := ← expect (id? node) "id response is missing '@id'" }

def stateReport (j : Json) : Read Contract.StateReport := do
  let node ← fields j "state response"
  return { state := ← stateText node }

def negotiation (j : Json) : Read Contract.Negotiation := do
  let node ← fields j "contract negotiation"
  let id ← expect (id? node) "negotiation is missing '@id'"
  return {
    id
    agreement := textOf? node (edc "contractAgreementId")
    state := ← stateText node
    errorDetail := textOf? node (edc "errorDetail") }

def transfer (j : Json) : Read Contract.Transfer := do
  let node ← fields j "transfer process"
  let id ← expect (id? node) "transfer process is missing '@id'"
  return {
    id
    state := ← stateText node
    contract := (textOf? node (edc "contractId")).getD ""
    asset := (textOf? node (edc "assetId")).getD ""
    errorDetail := textOf? node (edc "errorDetail") }

end ConsumerConnector.LinkedData
