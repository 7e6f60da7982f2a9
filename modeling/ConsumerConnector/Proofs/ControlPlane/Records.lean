import ConsumerConnector.Credential.Basic
import ConsumerConnector.Proofs.Catalog.Coding
import ConsumerConnector.Proofs.Contract.Coding

/-!
Whatever consumer, control plane and provider send each other as JSON records is read back from what is written
of it.
-/

namespace ConsumerConnector

open Json.Tree

theorem Credential.ofTree?_toJson (c : Credential) : ofTree? c.toJson.toTree = some c := by
  refine bind_record?_ofPresent (by simp) fun r hr => ?_
  have hcode : r.optional "auth_code" string? = some c.authCode :=
    Record.optional_string (by simp [hr, List.lookup_cons])
  have hproperties : (Json.ofDictionary (c.properties.map .string)).toTree.dictionary? string? =
      some c.properties := dictionary?_toTree .string fun e _ => string?_toTree e.2
  simp [Record.required, Record.withDefault, hr, List.lookup_cons, hcode, hproperties]

/-- Every record is read back from the value that it is written as. Where a record holds free values, in the
properties of a catalog or the further rules of a policy, their objects have to have their fields in key order,
as JSON values do: no other record is ever read. -/
theorem records_read_back :
    (∀ c : Policy.Constraint, Policy.Constraint.ofTree? c.toJson.toTree = some c) ∧
    (∀ p : Policy, (p.InKeyOrder → Policy.ofTree? p.toJson.toTree = some p) ∧
      ∀ t, Policy.ofTree? t = some p → p.InKeyOrder) ∧
    (∀ c : Catalog, (c.InKeyOrder → Catalog.ofTree? c.toJson.toTree = some c) ∧
      ∀ t, Catalog.ofTree? t = some c → c.InKeyOrder) ∧
    (∀ i : Catalog.Item, (i.policy.InKeyOrder → Catalog.Item.ofTree? i.toJson.toTree = some i) ∧
      ∀ t, Catalog.Item.ofTree? t = some i → i.policy.InKeyOrder) ∧
    (∀ q : Catalog.Request, Catalog.Request.ofTree? q.toJson.toTree = some q) ∧
    (∀ q : Contract.NegotiationRequest,
      (q.offer.policy.InKeyOrder → Contract.NegotiationRequest.ofTree? q.toJson.toTree = some q) ∧
      ∀ t, Contract.NegotiationRequest.ofTree? t = some q → q.offer.policy.InKeyOrder) ∧
    (∀ n : Contract.Negotiation, Contract.Negotiation.ofTree? n.toJson.toTree = some n) ∧
    (∀ q : Contract.TransferRequest, Contract.TransferRequest.ofTree? q.toJson.toTree = some q) ∧
    (∀ x : Contract.Transfer, Contract.Transfer.ofTree? x.toJson.toTree = some x) ∧
    ∀ c : Credential, Credential.ofTree? c.toJson.toTree = some c := by
  refine ⟨Policy.Constraint.ofTree?_toJson, fun p => ?_, fun c => ?_, fun i => ?_,
    Catalog.Request.ofTree?_toJson, fun q => ?_, Contract.Negotiation.ofTree?_toJson,
    Contract.TransferRequest.ofTree?_toJson, Contract.Transfer.ofTree?_toJson, Credential.ofTree?_toJson⟩
  · exact ⟨Policy.ofTree?_toJson, fun t => Policy.inKeyOrder_of_ofTree?⟩
  · exact ⟨Catalog.ofTree?_toJson, fun t => Catalog.inKeyOrder_of_ofTree?⟩
  · exact ⟨Catalog.Item.ofTree?_toJson, fun t => Catalog.Item.inKeyOrder_of_ofTree?⟩
  · exact ⟨Contract.NegotiationRequest.ofTree?_toJson, fun t =>
      Contract.NegotiationRequest.inKeyOrder_of_ofTree?⟩

/-- A catalog with a constraint that joins others and with free values of every form. -/
def ornateCatalog : Catalog where
  id := "catalog"
  participantId := none
  properties := .ofList [("version", .number (.double 1.5)),
    ("@context", .object [("edc", .string "https://w3id.org/edc"), ("odrl", .null)])]
  datasets := [{
    id := "set"
    properties := .ofList [("tags", .array [.string "a", .object [], .bool true])]
    offers := [{
      id := "offer"
      policy := {
        permissions := [⟨"use", [.join .xone [.join .and [.equals "purpose" "a", .join .or []],
          .compare ⟨"purpose", .isNoneOf, ""⟩]]⟩]
        prohibitions := [.null, .object [("action", .string "sell"), ("type", .array [.number (.integer (-1))])]]
        obligations := [.array [.object [("a", .null), ("b", .bool false)]]]
        target := some "asset" } }] }]

theorem records_read_back_ornateCatalog :
    ornateCatalog.InKeyOrder ∧ Catalog.ofTree? ornateCatalog.toJson.toTree = some ornateCatalog := by
  have hordered : ornateCatalog.InKeyOrder := by decide
  exact ⟨hordered, (records_read_back.2.2.1 ornateCatalog).1 hordered⟩

end ConsumerConnector
