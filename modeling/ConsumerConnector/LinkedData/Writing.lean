import ConsumerConnector.Contract.Basic
import ConsumerConnector.LinkedData.Vocabulary

/-! Requests to the control plane written as linked data. -/

namespace ConsumerConnector.LinkedData

open Policy (Constraint Connective Permission)

def reference (id : String) : Json :=
  .ofFields [("@id", .string id)]

def criterionBody (c : Catalog.Criterion) : Json :=
  .ofFields [("operandLeft", .string c.left), ("operator", .string c.operator),
    ("operandRight", .string c.right)]

def queryBody (q : Catalog.Query) : Json :=
  .ofPresent [("offset", some (.ofNat q.offset)), ("limit", q.limit.map .ofNat),
    ("filterExpression", q.filter.map fun c => .array [criterionBody c])]

def catalogRequestBody (q : Catalog.Request) : Json :=
  .ofFields [("@context", context), ("@type", .string "CatalogRequest"),
    ("protocol", .string q.protocol), ("counterPartyAddress", .string q.address),
    ("counterPartyId", .string q.participant), ("querySpec", queryBody q.query)]

def connectiveKey : Connective → String
  | .and => "odrl:and"
  | .or => "odrl:or"
  | .xone => "odrl:xone"

mutual

def constraintBody : Constraint → Json
  | .compare c =>
    .ofFields [("@type", .string "odrl:Constraint"), ("odrl:leftOperand", reference c.left),
      ("odrl:operator", reference c.operator.odrlName), ("odrl:rightOperand", .string c.right)]
  | .join c parts => .ofFields [(connectiveKey c, .array (constraintBodies parts))]

def constraintBodies : List Constraint → List Json
  | [] => []
  | c :: rest => constraintBody c :: constraintBodies rest

end

def permissionBody (p : Permission) : Json :=
  .ofFields [("odrl:action", reference p.action),
    ("odrl:constraint", .array (constraintBodies p.constraints))]

/-- An offer of a policy on the policy's target, or on the asset if it has none. -/
def offerBody (connector : String) (o : Contract.OfferDescription) : Json :=
  .ofFields [("@id", .string o.offer), ("@type", .string "odrl:Offer"),
    ("odrl:assigner", reference connector),
    ("odrl:target", reference (o.policy.target.getD o.asset)),
    ("odrl:permission", .array (o.policy.permissions.map permissionBody)),
    ("odrl:prohibition", .array o.policy.prohibitions),
    ("odrl:obligation", .array o.policy.obligations)]

def callbackBody (a : Contract.CallbackAddress) : Json :=
  .ofFields [("@type", .string "CallbackAddress"), ("uri", .string a.uri),
    ("events", .strings a.events), ("transactional", .bool a.transactional)]

def negotiationRequestBody (q : Contract.NegotiationRequest) : Json :=
  .ofFields [("@context", context), ("@type", .string "ContractRequest"),
    ("protocol", .string q.protocol), ("counterPartyAddress", .string q.address),
    ("providerId", .string q.connector), ("policy", offerBody q.connector q.offer),
    ("callbackAddresses", .array (q.callbacks.map callbackBody))]

def transferRequestBody (q : Contract.TransferRequest) : Json :=
  .ofFields [("@context", context), ("@type", .string "TransferRequest"),
    ("protocol", .string q.protocol), ("counterPartyAddress", .string q.address),
    ("connectorId", .string q.connector), ("contractId", .string q.contract),
    ("assetId", .string q.asset), ("transferType", .string q.transferType),
    ("dataDestination", .ofFields [("type", .string q.destinationType)]),
    ("privateProperties", .ofDictionary (q.privateProperties.map .string)),
    ("callbackAddresses", .array (q.callbacks.map callbackBody))]

end ConsumerConnector.LinkedData
