import ConsumerConnector.Catalog.Coding
import ConsumerConnector.Proofs.Policy.Coding

/-!
Catalogs, their items and the requests for them read back. A catalog does exactly if its properties, those of
its datasets and the policies of its offers have their fields in key order.
-/

namespace ConsumerConnector

open Json (Tree)
open Json.Tree

namespace Offer

variable {o : Offer}

theorem ofTree?_toJson (h : o.policy.InKeyOrder) : ofTree? o.toJson.toTree = some o := by
  refine bind_record?_ofFields fun r hr => ?_
  have hpolicy := Policy.ofTree?_toJson h
  simp [Record.required, hr, List.lookup_cons, hpolicy]

theorem inKeyOrder_of_ofTree? {t : Tree} (h : ofTree? t = some o) : o.policy.InKeyOrder := by
  simp only [ofTree?, Option.bind_eq_bind, Option.pure_def, Option.bind_eq_some_iff,
    Option.some.injEq] at h
  obtain ⟨r, -, _, -, policy, hpolicy, rfl⟩ := h
  exact Policy.inKeyOrder_of_required hpolicy

end Offer

namespace Dataset

def InKeyOrder (d : Dataset) : Prop :=
  d.properties.InKeyOrder ∧ ∀ o ∈ d.offers, o.policy.InKeyOrder

instance (d : Dataset) : Decidable d.InKeyOrder :=
  inferInstanceAs (Decidable (_ ∧ _))

variable {d : Dataset}

theorem ofTree?_toJson (h : d.InKeyOrder) : ofTree? d.toJson.toTree = some d := by
  refine bind_record?_ofFields fun r hr => ?_
  have hproperties := dictionary?_value? h.1
  have hoffers : (Json.array (d.offers.map (·.toJson))).toTree.list? Offer.ofTree? = some d.offers :=
    list?_toTree _ fun o ho => Offer.ofTree?_toJson (h.2 o ho)
  simp [Record.required, Record.withDefault, hr, List.lookup_cons, hproperties, hoffers]

theorem inKeyOrder_of_ofTree? {t : Tree} (h : ofTree? t = some d) : d.InKeyOrder := by
  simp only [ofTree?, Option.bind_eq_bind, Option.pure_def, Option.bind_eq_some_iff,
    Option.some.injEq] at h
  obtain ⟨r, -, _, -, properties, hproperties, offers, hoffers, rfl⟩ := h
  refine ⟨Record.inKeyOrder_of_withDefault hproperties, fun o ho => ?_⟩
  rcases Record.withDefault_cases hoffers with rfl | ⟨t, hlist⟩
  · cases ho
  · obtain ⟨t, hread⟩ := read?_of_mem_list? hlist ho
    exact Offer.inKeyOrder_of_ofTree? hread

end Dataset

namespace Catalog

def InKeyOrder (c : Catalog) : Prop :=
  c.properties.InKeyOrder ∧ ∀ d ∈ c.datasets, d.InKeyOrder

instance (c : Catalog) : Decidable c.InKeyOrder :=
  inferInstanceAs (Decidable (_ ∧ _))

variable {c : Catalog}

theorem ofTree?_toJson (h : c.InKeyOrder) : ofTree? c.toJson.toTree = some c := by
  refine bind_record?_ofPresent (by simp) fun r hr => ?_
  have hparticipant : r.optional "participant_id" string? = some c.participantId :=
    Record.optional_string (by simp [hr, List.lookup_cons])
  have hproperties := dictionary?_value? h.1
  have hdatasets : (Json.array (c.datasets.map (·.toJson))).toTree.list? Dataset.ofTree? =
      some c.datasets := list?_toTree _ fun d hd => Dataset.ofTree?_toJson (h.2 d hd)
  simp [Record.required, Record.withDefault, hr, List.lookup_cons, hparticipant, hproperties, hdatasets]

theorem inKeyOrder_of_ofTree? {t : Tree} (h : ofTree? t = some c) : c.InKeyOrder := by
  simp only [ofTree?, Option.bind_eq_bind, Option.pure_def, Option.bind_eq_some_iff,
    Option.some.injEq] at h
  obtain ⟨r, -, _, -, _, -, properties, hproperties, datasets, hdatasets, rfl⟩ := h
  refine ⟨Record.inKeyOrder_of_withDefault hproperties, fun d hd => ?_⟩
  rcases Record.withDefault_cases hdatasets with rfl | ⟨t, hlist⟩
  · cases hd
  · obtain ⟨t, hread⟩ := read?_of_mem_list? hlist hd
    exact Dataset.inKeyOrder_of_ofTree? hread

namespace Item

variable {i : Item}

theorem ofTree?_toJson (h : i.policy.InKeyOrder) : ofTree? i.toJson.toTree = some i := by
  refine bind_record?_ofFields fun r hr => ?_
  have hpolicy := Policy.ofTree?_toJson h
  simp [Record.required, hr, List.lookup_cons, hpolicy]

theorem inKeyOrder_of_ofTree? {t : Tree} (h : ofTree? t = some i) : i.policy.InKeyOrder := by
  simp only [ofTree?, Option.bind_eq_bind, Option.pure_def, Option.bind_eq_some_iff,
    Option.some.injEq] at h
  obtain ⟨r, -, _, -, _, -, _, -, _, -, policy, hpolicy, rfl⟩ := h
  exact Policy.inKeyOrder_of_required hpolicy

end Item

theorem Criterion.ofTree?_toJson (c : Criterion) : ofTree? c.toJson.toTree = some c := by
  refine bind_record?_ofFields fun r hr => ?_
  simp [Record.required, hr, List.lookup_cons]

theorem Query.ofTree?_toJson (q : Query) : ofTree? q.toJson.toTree = some q := by
  refine bind_record?_ofPresent (by simp) fun r hr => ?_
  have hlimit : r.optional "limit" nat? = some q.limit :=
    Record.optional_eq Json.ofNat (by simp [hr, List.lookup_cons]) (fun n _ => nat?_toTree n) rfl
  have hfilter : r.optional "filter" Criterion.ofTree? = some q.filter :=
    Record.optional_eq Criterion.toJson (by simp [hr, List.lookup_cons]) (fun c _ => c.ofTree?_toJson) rfl
  simp [Record.required, hr, hlimit, hfilter]

theorem Request.ofTree?_toJson (q : Request) : ofTree? q.toJson.toTree = some q := by
  refine bind_record?_ofFields fun r hr => ?_
  have hquery := q.query.ofTree?_toJson
  simp [Record.required, hr, List.lookup_cons, hquery]

end Catalog

end ConsumerConnector
