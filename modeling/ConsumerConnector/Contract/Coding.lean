import ConsumerConnector.Contract.Basic
import ConsumerConnector.Policy.Coding

/-! Negotiations and transfers as JSON records. -/

namespace ConsumerConnector.Contract

open Json (Tree)

namespace CallbackAddress

def ofTree? (t : Tree) : Option CallbackAddress := do
  let r ← t.record? ["uri", "events", "transactional"]
  return {
    uri := ← r.required "uri" Tree.string?
    events := ← r.required "events" (Tree.list? Tree.string?)
    transactional := ← r.required "transactional" Tree.bool? }

def toJson (a : CallbackAddress) : Json :=
  .ofFields [("uri", .string a.uri), ("events", .strings a.events),
    ("transactional", .bool a.transactional)]

end CallbackAddress

namespace OfferDescription

def ofTree? (t : Tree) : Option OfferDescription := do
  let r ← t.record? ["offer_id", "asset_id", "policy"]
  return {
    offer := ← r.required "offer_id" Tree.string?
    asset := ← r.required "asset_id" Tree.string?
    policy := ← r.required "policy" Policy.ofTree? }

def toJson (o : OfferDescription) : Json :=
  .ofFields [("offer_id", .string o.offer), ("asset_id", .string o.asset),
    ("policy", o.policy.toJson)]

end OfferDescription

namespace NegotiationRequest

def ofTree? (t : Tree) : Option NegotiationRequest := do
  let r ← t.record?
    ["protocol", "connector_id", "counter_party_address", "offer", "callback_addresses"]
  return {
    protocol := ← r.required "protocol" Tree.string?
    connector := ← r.required "connector_id" Tree.string?
    address := ← r.required "counter_party_address" Tree.string?
    offer := ← r.required "offer" OfferDescription.ofTree?
    callbacks := ← r.withDefault "callback_addresses" (Tree.list? CallbackAddress.ofTree?) [] }

def toJson (q : NegotiationRequest) : Json :=
  .ofFields [("protocol", .string q.protocol), ("connector_id", .string q.connector),
    ("counter_party_address", .string q.address), ("offer", q.offer.toJson),
    ("callback_addresses", .array (q.callbacks.map (·.toJson)))]

end NegotiationRequest

namespace Negotiation

def ofTree? (t : Tree) : Option Negotiation := do
  let r ← t.record? ["response_id", "contract_agreement_id", "state", "error_detail"]
  return {
    id := ← r.required "response_id" Tree.string?
    agreement := ← r.optional "contract_agreement_id" Tree.string?
    state := ← r.required "state" Tree.string?
    errorDetail := ← r.optional "error_detail" Tree.string? }

def toJson (n : Negotiation) : Json :=
  .ofPresent [("response_id", some (.string n.id)),
    ("contract_agreement_id", n.agreement.map .string), ("state", some (.string n.state)),
    ("error_detail", n.errorDetail.map .string)]

end Negotiation

/-- The destination of a transfer is a record of its own with a type. -/
def destinationType? (t : Tree) : Option String := do
  (← t.record? ["type"]).required "type" Tree.string?

namespace TransferRequest

def ofTree? (t : Tree) : Option TransferRequest := do
  let r ← t.record? ["protocol", "connector_id", "counter_party_address", "transfer_type",
    "contract_id", "asset_id", "data_destination", "private_properties", "callback_addresses"]
  return {
    protocol := ← r.required "protocol" Tree.string?
    connector := ← r.required "connector_id" Tree.string?
    address := ← r.required "counter_party_address" Tree.string?
    transferType := ← r.required "transfer_type" Tree.string?
    contract := ← r.required "contract_id" Tree.string?
    asset := ← r.required "asset_id" Tree.string?
    destinationType := ← r.required "data_destination" destinationType?
    privateProperties := ← r.withDefault "private_properties" (Tree.dictionary? Tree.string?) ∅
    callbacks := ← r.withDefault "callback_addresses" (Tree.list? CallbackAddress.ofTree?) [] }

def toJson (q : TransferRequest) : Json :=
  .ofFields [("protocol", .string q.protocol), ("connector_id", .string q.connector),
    ("counter_party_address", .string q.address), ("transfer_type", .string q.transferType),
    ("contract_id", .string q.contract), ("asset_id", .string q.asset),
    ("data_destination", .ofFields [("type", .string q.destinationType)]),
    ("private_properties", .ofDictionary (q.privateProperties.map .string)),
    ("callback_addresses", .array (q.callbacks.map (·.toJson)))]

end TransferRequest

namespace Transfer

def ofTree? (t : Tree) : Option Transfer := do
  let r ← t.record? ["response_id", "state", "contract_id", "asset_id", "error_detail"]
  return {
    id := ← r.required "response_id" Tree.string?
    state := ← r.required "state" Tree.string?
    contract := ← r.required "contract_id" Tree.string?
    asset := ← r.withDefault "asset_id" Tree.string? ""
    errorDetail := ← r.optional "error_detail" Tree.string? }

def toJson (x : Transfer) : Json :=
  .ofPresent [("response_id", some (.string x.id)), ("state", some (.string x.state)),
    ("contract_id", some (.string x.contract)), ("asset_id", some (.string x.asset)),
    ("error_detail", x.errorDetail.map .string)]

end Transfer

namespace Created

def ofTree? (t : Tree) : Option Created := do
  return { id := ← (← t.record? ["response_id"]).required "response_id" Tree.string? }

def toJson (c : Created) : Json :=
  .ofFields [("response_id", .string c.id)]

end Created

namespace StateReport

def ofTree? (t : Tree) : Option StateReport := do
  return { state := ← (← t.record? ["state"]).required "state" Tree.string? }

def toJson (r : StateReport) : Json :=
  .ofFields [("state", .string r.state)]

end StateReport

end ConsumerConnector.Contract
