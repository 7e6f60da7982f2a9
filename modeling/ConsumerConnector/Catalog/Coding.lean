import ConsumerConnector.Catalog.Basic
import ConsumerConnector.Policy.Coding

/-! Catalogs and catalog requests as JSON records. -/

namespace ConsumerConnector

open Json (Tree)

namespace Offer

def ofTree? (t : Tree) : Option Offer := do
  let r ← t.record? ["id", "policy"]
  return { id := ← r.required "id" Tree.string?, policy := ← r.required "policy" Policy.ofTree? }

def toJson (o : Offer) : Json :=
  .ofFields [("id", .string o.id), ("policy", o.policy.toJson)]

end Offer

namespace Dataset

def ofTree? (t : Tree) : Option Dataset := do
  let r ← t.record? ["id", "properties", "offers"]
  return {
    id := ← r.required "id" Tree.string?
    properties := ← r.withDefault "properties" (Tree.dictionary? Tree.value?) ∅
    offers := ← r.withDefault "offers" (Tree.list? Offer.ofTree?) [] }

def toJson (d : Dataset) : Json :=
  .ofFields [("id", .string d.id), ("properties", .ofDictionary d.properties),
    ("offers", .array (d.offers.map (·.toJson)))]

end Dataset

namespace Catalog

def ofTree? (t : Tree) : Option Catalog := do
  let r ← t.record? ["id", "participant_id", "properties", "datasets"]
  return {
    id := ← r.required "id" Tree.string?
    participantId := ← r.optional "participant_id" Tree.string?
    properties := ← r.withDefault "properties" (Tree.dictionary? Tree.value?) ∅
    datasets := ← r.withDefault "datasets" (Tree.list? Dataset.ofTree?) [] }

def toJson (c : Catalog) : Json :=
  .ofPresent [("id", some (.string c.id)), ("participant_id", c.participantId.map .string),
    ("properties", some (.ofDictionary c.properties)),
    ("datasets", some (.array (c.datasets.map (·.toJson))))]

namespace Item

def ofTree? (t : Tree) : Option Item := do
  let r ← t.record? ["item_id", "asset_prop_id", "offer_id", "connector_id", "policy"]
  return {
    id := ← r.required "item_id" Tree.string?
    asset := ← r.required "asset_prop_id" Tree.string?
    offer := ← r.required "offer_id" Tree.string?
    connector := ← r.required "connector_id" Tree.string?
    policy := ← r.required "policy" Policy.ofTree? }

def toJson (i : Item) : Json :=
  .ofFields [("item_id", .string i.id), ("asset_prop_id", .string i.asset),
    ("offer_id", .string i.offer), ("connector_id", .string i.connector),
    ("policy", i.policy.toJson)]

end Item

namespace Criterion

def ofTree? (t : Tree) : Option Criterion := do
  let r ← t.record? ["operand_left", "operator", "operand_right"]
  return {
    left := ← r.required "operand_left" Tree.string?
    operator := ← r.required "operator" Tree.string?
    right := ← r.required "operand_right" Tree.string? }

def toJson (c : Criterion) : Json :=
  .ofFields [("operand_left", .string c.left), ("operator", .string c.operator),
    ("operand_right", .string c.right)]

end Criterion

namespace Query

def ofTree? (t : Tree) : Option Query := do
  let r ← t.record? ["offset", "limit", "filter"]
  return {
    offset := ← r.required "offset" Tree.nat?
    limit := ← r.optional "limit" Tree.nat?
    filter := ← r.optional "filter" Criterion.ofTree? }

def toJson (q : Query) : Json :=
  .ofPresent [("offset", some (.ofNat q.offset)), ("limit", q.limit.map .ofNat),
    ("filter", q.filter.map (·.toJson))]

end Query

namespace Request

def ofTree? (t : Tree) : Option Request := do
  let r ← t.record? ["protocol", "counter_party_address", "counter_party_id", "query_spec"]
  return {
    protocol := ← r.required "protocol" Tree.string?
    address := ← r.required "counter_party_address" Tree.string?
    participant := ← r.required "counter_party_id" Tree.string?
    query := ← r.required "query_spec" Query.ofTree? }

def toJson (q : Request) : Json :=
  .ofFields [("protocol", .string q.protocol), ("counter_party_address", .string q.address),
    ("counter_party_id", .string q.participant), ("query_spec", q.query.toJson)]

end Request

end Catalog

end ConsumerConnector
