import ConsumerConnector.Dictionary
import ConsumerConnector.Policy.Basic

/-!
A provider's catalog: datasets with offers, and the items that a consumer can negotiate for, one for
each dataset that has an offer.
-/

namespace ConsumerConnector

structure Offer where
  id : String
  policy : Policy

structure Dataset where
  id : String
  properties : Dictionary Json
  offers : List Offer

structure Catalog where
  id : String
  participantId : Option String
  properties : Dictionary Json
  datasets : List Dataset

namespace Catalog

structure Item where
  id : String
  asset : String
  offer : String
  connector : String
  policy : Policy

/-- Asks that a property has a value. -/
structure Criterion where
  left : String
  operator : String
  right : String
  deriving DecidableEq

structure Query where
  offset : Nat
  limit : Option Nat
  filter : Option Criterion
  deriving DecidableEq

structure Request where
  protocol : String
  address : String
  participant : String
  query : Query
  deriving DecidableEq

def Criterion.equals (key value : String) : Criterion := ⟨key, "=", value⟩

def Query.all : Query := ⟨0, none, none⟩

def assetKey : String := "https://w3id.org/edc/v0.0.1/ns/id"

def participantKeys : List String :=
  ["https://w3id.org/edc/v0.0.1/ns/participantId", "https://w3id.org/dspace/v0.8/participantId"]

def nonEmpty? (s : String) : Option String :=
  if s.isEmpty then none else some s

/-- The text of a property, plain or as a value object, unless it is empty. -/
def textProperty? (properties : Dictionary Json) (key : String) : Option String := do
  match ← properties.get? key with
  | .string s => nonEmpty? s
  | .object fields => nonEmpty? (← (← Json.field? fields "@value").string?)
  | _ => none

/-- Who offers the catalog: a participant property, else the participant, else the catalog's id. -/
def connector (c : Catalog) : String :=
  (participantKeys.findSome? (textProperty? c.properties)
    <|> c.participantId.bind nonEmpty?).getD c.id

end Catalog

def Dataset.asset (d : Dataset) : String :=
  (Catalog.textProperty? d.properties Catalog.assetKey).getD d.id

/-- A dataset is offered under its first offer. -/
def Dataset.item? (connector : String) (d : Dataset) : Option Catalog.Item :=
  d.offers.head?.map fun offer =>
    ⟨d.id, d.asset, offer.id, connector, offer.policy⟩

def Catalog.items (c : Catalog) : List Catalog.Item :=
  c.datasets.filterMap (·.item? c.connector)

end ConsumerConnector
