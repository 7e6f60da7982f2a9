import ConsumerConnector.Contract.Coding
import ConsumerConnector.Proofs.Policy.Coding

/-!
Negotiations and transfers read back. Only the offer in a request to negotiate carries values of any form, in
its policy.
-/

namespace ConsumerConnector.Contract

open Json (Tree)
open Json.Tree

theorem CallbackAddress.ofTree?_toJson (a : CallbackAddress) : ofTree? a.toJson.toTree = some a := by
  refine bind_record?_ofFields fun r hr => ?_
  have hevents : (Json.array (a.events.map .string)).toTree.list? string? = some a.events :=
    list?_toTree .string fun s _ => string?_toTree s
  simp [Record.required, hr, List.lookup_cons, Json.strings, hevents]

theorem list?_callbackAddresses (callbacks : List CallbackAddress) :
    (Json.array (callbacks.map (·.toJson))).toTree.list? CallbackAddress.ofTree? = some callbacks :=
  list?_toTree _ fun a _ => a.ofTree?_toJson

namespace OfferDescription

variable {o : OfferDescription}

theorem ofTree?_toJson (h : o.policy.InKeyOrder) : ofTree? o.toJson.toTree = some o := by
  refine bind_record?_ofFields fun r hr => ?_
  have hpolicy := Policy.ofTree?_toJson h
  simp [Record.required, hr, List.lookup_cons, hpolicy]

theorem inKeyOrder_of_ofTree? {t : Tree} (h : ofTree? t = some o) : o.policy.InKeyOrder := by
  simp only [ofTree?, Option.bind_eq_bind, Option.pure_def, Option.bind_eq_some_iff,
    Option.some.injEq] at h
  obtain ⟨r, -, _, -, _, -, policy, hpolicy, rfl⟩ := h
  exact Policy.inKeyOrder_of_required hpolicy

end OfferDescription

namespace NegotiationRequest

variable {q : NegotiationRequest}

theorem ofTree?_toJson (h : q.offer.policy.InKeyOrder) : ofTree? q.toJson.toTree = some q := by
  refine bind_record?_ofFields fun r hr => ?_
  have hoffer := OfferDescription.ofTree?_toJson h
  simp [Record.required, Record.withDefault, hr, List.lookup_cons, hoffer, list?_callbackAddresses]

theorem inKeyOrder_of_ofTree? {t : Tree} (h : ofTree? t = some q) : q.offer.policy.InKeyOrder := by
  simp only [ofTree?, Option.bind_eq_bind, Option.pure_def, Option.bind_eq_some_iff,
    Option.some.injEq] at h
  obtain ⟨r, -, _, -, _, -, _, -, offer, hoffer, _, -, rfl⟩ := h
  obtain ⟨t, hread⟩ := Record.exists_of_required hoffer
  exact OfferDescription.inKeyOrder_of_ofTree? hread

end NegotiationRequest

theorem Negotiation.ofTree?_toJson (n : Negotiation) : ofTree? n.toJson.toTree = some n := by
  refine bind_record?_ofPresent (by simp) fun r hr => ?_
  have hagreement : r.optional "contract_agreement_id" string? = some n.agreement :=
    Record.optional_string (by simp [hr, List.lookup_cons])
  have herror : r.optional "error_detail" string? = some n.errorDetail :=
    Record.optional_string (by simp [hr, List.lookup_cons])
  simp [Record.required, hr, List.lookup_cons, hagreement, herror]

theorem destinationType?_ofFields (kind : String) :
    destinationType? (Json.ofFields [("type", .string kind)]).toTree = some kind := by
  rw [destinationType?]
  refine bind_record?_ofFields fun r hr => ?_
  simp [Record.required, hr]

theorem TransferRequest.ofTree?_toJson (q : TransferRequest) : ofTree? q.toJson.toTree = some q := by
  refine bind_record?_ofFields fun r hr => ?_
  have hproperties : (Json.ofDictionary (q.privateProperties.map .string)).toTree.dictionary? string? =
      some q.privateProperties := dictionary?_toTree .string fun e _ => string?_toTree e.2
  simp [Record.required, Record.withDefault, hr, List.lookup_cons, destinationType?_ofFields, hproperties,
    list?_callbackAddresses]

theorem Transfer.ofTree?_toJson (x : Transfer) : ofTree? x.toJson.toTree = some x := by
  refine bind_record?_ofPresent (by simp) fun r hr => ?_
  have herror : r.optional "error_detail" string? = some x.errorDetail :=
    Record.optional_string (by simp [hr, List.lookup_cons])
  simp [Record.required, Record.withDefault, hr, List.lookup_cons, herror]

end ConsumerConnector.Contract
