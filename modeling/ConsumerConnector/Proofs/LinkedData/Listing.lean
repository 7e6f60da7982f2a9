import ConsumerConnector.Proofs.LinkedData.Spelling

/-!
Catalogs in which single values stand in lists of their own. Most terms are read alike either way; an
action that is named by its type, an operand without a text and a dataset's own name for its asset are
not, so that the items of a catalog may change.
-/

namespace ConsumerConnector

namespace LinkedData

open Catalog (propertyText?)

/-- The terms whose single values may stand in lists. -/
def listable : List Term :=
  [dcat "dataset", assetTerm] ++
    ["hasPolicy", "permission", "target", "action", "constraint", "and", "or", "xone", "leftOperand",
      "operator", "rightOperand"].map odrl

inductive WrappedField (P : Term → Json → Prop) (R : Json → Json → Prop) :
    String × Json → String × Json → Prop
  | kept (e : String × Json) : WrappedField P R e e
  | inside {key : String} {v w : Json} : (∀ t ∈ ruleTerms, key ∉ t.spellings) → R v w →
    WrappedField P R (key, v) (key, w)
  | listed {t : Term} {key : String} {v w : Json} : t ∈ listable → key ∈ t.spellings → IsSingle v →
    P t v → R v w → WrappedField P R (key, v) (key, .array [w])

/-- Documents of which the second comes from the first when single values that pass `P` are put in lists
of their own. -/
inductive Wrapped (P : Term → Json → Prop) : Json → Json → Prop
  | refl (j : Json) : Wrapped P j j
  | array {items items' : List Json} : List.Forall₂ (Wrapped P) items items' →
    Wrapped P (.array items) (.array items')
  | object {node node' : Fields} : List.Forall₂ (WrappedField P (Wrapped P)) node node' →
    Wrapped P (.object node) (.object node')

theorem listable_spelled : ∀ t ∈ listable, t ∈ respellable ∧ t ∉ ruleTerms := by
  decide

namespace WrappedField

variable {P : Term → Json → Prop} {R : Json → Json → Prop} {e e' : String × Json} {t : Term}

theorem key_eq (h : WrappedField P R e e') : e.1 = e'.1 := by
  cases h <;> rfl

theorem value (hR : ∀ j, R j j) (h : WrappedField P R e e') (hno : ∀ t ∈ listable, e.1 ∉ t.spellings) :
    R e.2 e'.2 := by
  cases h with
  | kept => exact hR _
  | inside _ h => exact h
  | listed ht hkey => exact absurd hkey (hno _ ht)

theorem held (hR : ∀ j, R j j) (h : WrappedField ReadsListed R e e')
    (ht : t ∈ dspace "participantId" :: respellable) (hkey : e.1 ∈ t.spellings) :
    Held R t e.2 e'.2 := by
  cases h with
  | kept => exact .bare (hR _)
  | inside _ h => exact .bare h
  | listed ht' hkey' hsingle hlisted h =>
    have hterm := List.mem_cons_of_mem (dspace "participantId") (listable_spelled _ ht').1
    rw [spellings_disjoint _ ht _ hterm _ hkey hkey']
    exact .listed hsingle hlisted h

theorem rule_eq (ht : t ∈ ruleTerms) (h : WrappedField P R e e') (hkey : e.1 ∈ t.spellings) :
    e.2 = e'.2 := by
  have hmem : ∀ t ∈ ruleTerms, t ∈ dspace "participantId" :: respellable := by decide
  cases h with
  | kept => rfl
  | inside hno => exact absurd hkey (hno t ht)
  | listed ht' hkey' =>
    obtain ⟨hmem', hno⟩ := listable_spelled _ ht'
    rw [spellings_disjoint _ (hmem t ht) _ (List.mem_cons_of_mem _ hmem') _ hkey hkey'] at ht
    exact absurd ht hno

theorem imp {Q : Term → Json → Prop} {S : Json → Json → Prop}
    (hPQ : ∀ t ∈ listable, ∀ v, IsSingle v → P t v → Q t v) (hRS : ∀ w, R e.2 w → S e.2 w)
    (h : WrappedField P R e e') : WrappedField Q S e e' := by
  cases h with
  | kept => exact .kept _
  | inside hno h => exact .inside hno (hRS _ h)
  | listed ht hkey hsingle hp h => exact .listed ht hkey hsingle (hPQ _ ht _ hsingle hp) (hRS _ h)

end WrappedField

section

variable {P : Term → Json → Prop} {R : Json → Json → Prop} {node node' : Fields}

theorem filter_wrapped (h : List.Forall₂ (WrappedField P R) node node') (p : String → Bool) :
    List.Forall₂ (WrappedField P R) (node.filter (p ·.1)) (node'.filter (p ·.1)) :=
  List.rel_filter (fun e e' he => by simp [he.key_eq]) h

theorem field?_wrapped (h : List.Forall₂ (WrappedField P R) node node') (key : String)
    {S : Json → Json → Prop} (hS : ∀ e e', e.1 = key → WrappedField P R e e' → S e.2 e'.2) :
    Option.Rel S (Json.field? node key) (Json.field? node' key) := by
  rw [field?_eq_filter, field?_eq_filter]
  refine map_rel (rel_imp (head?_rel (filter_wrapped h (· == key))) fun e e' he hfield => ?_) fun _ _ h => h
  exact hS e e' (by simpa using (List.mem_filter.1 (List.mem_of_head? he)).2) hfield

theorem nodesAlike_wrapped (hR : ∀ j, R j j)
    (h : List.Forall₂ (WrappedField ReadsListed R) node node') : NodesAlike R node node' := by
  refine ⟨fun key hkey => ?_, fun t ht => ?_, fun t ht => ?_, ?_, fun full hfull => ?_⟩
  · refine field?_wrapped h key fun e e' he hfield => hfield.value hR fun t ht hmem => ?_
    rw [he] at hmem
    simp [isKeyword_respellable t (listable_spelled t ht).1 key hmem] at hkey
  · have hmem : t ∈ dspace "participantId" :: respellable := by
      rcases readTerms_cases t ht with ht | rfl <;> simp [*]
    exact findSome?_rel fun key hkey => field?_wrapped h key fun e e' he hfield =>
      hfield.held hR hmem (he ▸ hkey)
  · refine findSome?_eq fun key hkey => ?_
    refine eq_of_rel id (field?_wrapped h key (S := Eq) fun e e' he hfield => ?_) fun v w _ h => by rw [h]
    exact hfield.rule_eq ht (he ▸ hkey)
  · rw [get?_properties _ (by decide +kernel), get?_properties _ (by decide +kernel)]
    refine map_rel (rel_imp (getLast?_rel (filter_wrapped h _)) fun e e' he hfield => ?_) fun _ _ h => h
    apply hfield.held hR (by decide)
    simpa [standsFor_assetKey] using (List.mem_filter.1 (List.mem_of_getLast? he)).2
  · have hne : full ≠ (dcat "dataset").expanded := by revert full; decide +kernel
    rw [get?_properties _ hne, get?_properties _ hne]
    refine map_rel (rel_imp (getLast?_rel (filter_wrapped h _)) fun e e' he hfield => ?_) fun _ _ h => h
    refine hfield.value hR fun t ht hkey => ?_
    have hstands := (List.mem_filter.1 (List.mem_of_getLast? he)).2
    simp [standsFor_respellable t (listable_spelled t ht).1 e.1 hkey full hfull] at hstands

end

theorem likeness_wrapped : Likeness (Wrapped ReadsListed) where
  refl := .refl
  step h := by
    cases h with
    | refl => exact .refl _
    | array hitems => exact .array hitems
    | object hfields => exact .object (nodesAlike_wrapped .refl hfields)

theorem Wrapped.imp {P Q : Term → Json → Prop} (hPQ : ∀ t ∈ listable, ∀ v, IsSingle v → P t v → Q t v)
    {j j' : Json} (h : Wrapped P j j') : Wrapped Q j j' := by
  induction j using Json.induction generalizing j' with
  | array items ih =>
    cases h with
    | refl => exact .refl _
    | array hitems => exact .array (forall₂_imp_of_mem hitems fun j hj _ h => ih j hj h)
  | object node ih =>
    cases h with
    | refl => exact .refl _
    | object hfields =>
      exact .object (forall₂_imp_of_mem hfields fun e he _ h => h.imp hPQ fun _ h => ih e he h)
  | _ =>
    cases h
    exact .refl _

def sampleConstraint (right : Json) : Fields :=
  [("odrl:leftOperand", .string "left"), ("odrl:operator", .string "eq"), ("odrl:rightOperand", right)]

def samplePermission (action right : Json) : Fields :=
  [("odrl:action", action), ("odrl:constraint", .object (sampleConstraint right))]

def sampleOffer (action right : Json) : Fields :=
  [("@id", .string "offer"), ("odrl:permission", .object (samplePermission action right))]

def sampleDataset (action right asset : Json) : Fields :=
  [("edc:id", asset), ("odrl:hasPolicy", .object (sampleOffer action right))]

def sampleCatalog (action right asset : Json) : Json :=
  .object [("dcat:dataset", .object (sampleDataset action right asset))]

theorem sampleConstraint_read (right : Json) : constraint (.object (sampleConstraint right)) =
    (expect (operandText? right) "constraint is missing 'rightOperand'").map fun text =>
      .compare ⟨"left", .eq, text⟩ := by
  rw [constraint_object]
  rfl

theorem sampleOffer_read (action right : Json) : offer (.object (sampleOffer action right)) =
    (expect (operandText? right) "constraint is missing 'rightOperand'").map fun text =>
      ⟨"offer", ⟨[⟨(actionName? action).getD "", [.compare ⟨"left", .eq, text⟩]⟩], [], [], none⟩⟩ := by
  have hpermissions : listUnder (sampleOffer action right) (odrl "permission") =
      [.object (samplePermission action right)] := rfl
  have hconstraints : listUnder (samplePermission action right) (odrl "constraint") =
      [.object (sampleConstraint right)] := rfl
  rw [offer_object, policy, hpermissions, mapM_singleton, permission_object, hconstraints,
    constraints_eq_mapM, mapM_singleton, sampleConstraint_read]
  cases operandText? right <;> rfl

theorem sampleCatalog_items (action right asset : Json) :
    (catalog (sampleCatalog action right asset)).map Catalog.items =
      (expect (operandText? right) "constraint is missing 'rightOperand'").map fun text =>
        [⟨"", (propertyText? asset).getD "", "offer", "",
          ⟨[⟨(actionName? action).getD "", [.compare ⟨"left", .eq, text⟩]⟩], [], [], none⟩⟩] := by
  have hdatasets : listUnder [("dcat:dataset", .object (sampleDataset action right asset))]
      (dcat "dataset") = [.object (sampleDataset action right asset)] := rfl
  have hoffers : listUnder (sampleDataset action right asset) (odrl "hasPolicy") =
      [.object (sampleOffer action right)] := rfl
  have hasset : Catalog.textProperty? (properties (sampleDataset action right asset) (odrl "hasPolicy"))
      Catalog.assetKey = propertyText? asset := by
    rw [Catalog.textProperty?_eq]
    rfl
  rw [sampleCatalog, catalog_items_object, hdatasets, mapM_singleton, dataset_object, hoffers,
    mapM_singleton, sampleOffer_read]
  cases operandText? right with
  | none => rfl
  | some text =>
    exact congrArg (fun o => Except.ok [(⟨"", o.getD "", "offer", "", _⟩ : Catalog.Item)]) hasset

theorem operandText?_singleton (v : Json) :
    operandText? (.array [v]) = some ((operandText? v).getD "") := by
  rw [operandText?, operandTexts_eq, List.flatMap_singleton]
  cases operandText? v <;> simp

theorem ne_empty_of_nonEmpty? {s text : String} (h : Catalog.nonEmpty? s = some text) : text ≠ "" := by
  rw [Catalog.nonEmpty?] at h
  split at h
  · cases h
  · cases h
    simp_all

theorem propertyText?_ne_empty {v : Json} {text : String} (h : propertyText? v = some text) :
    text ≠ "" := by
  cases v with
  | string s => exact ne_empty_of_nonEmpty? h
  | object node =>
    obtain ⟨s, -, hs⟩ := Option.bind_eq_some_iff.1 h
    exact ne_empty_of_nonEmpty? hs
  | _ => cases h

section

variable (action right asset : Json) {v : Json}

theorem listed_action_iff (hright : (operandText? right).isSome) :
    (catalog (sampleCatalog v right asset)).map Catalog.items =
        (catalog (sampleCatalog (.array [v]) right asset)).map Catalog.items ↔
      (actionName? v).getD "" = (text? v).getD "" := by
  obtain ⟨text, htext⟩ := Option.isSome_iff_exists.1 hright
  have hlisted : actionName? (.array [v]) = text? v := by
    rw [actionName?, text?]
    simp
  rw [sampleCatalog_items, sampleCatalog_items, htext, hlisted]
  simp [expect, Except.map]

theorem listed_operand_iff :
    (catalog (sampleCatalog action v asset)).map Catalog.items =
        (catalog (sampleCatalog action (.array [v]) asset)).map Catalog.items ↔
      (operandText? v).isSome := by
  rw [sampleCatalog_items, sampleCatalog_items, operandText?_singleton]
  cases operandText? v <;> simp [expect, fail, Except.map]

theorem listed_asset_iff (hright : (operandText? right).isSome) :
    (catalog (sampleCatalog action right v)).map Catalog.items =
        (catalog (sampleCatalog action right (.array [v]))).map Catalog.items ↔
      propertyText? v = none := by
  obtain ⟨text, htext⟩ := Option.isSome_iff_exists.1 hright
  have hnone : propertyText? (.array [v]) = none := rfl
  rw [sampleCatalog_items, sampleCatalog_items, htext, hnone]
  cases hv : propertyText? v with
  | none => simp
  | some asset => simp [expect, Except.map, propertyText?_ne_empty hv]

end

theorem wrapped_sampleCatalog {P : Term → Json → Prop} {action right asset action' right' asset' : Json}
    (haction : WrappedField P (Wrapped P) ("odrl:action", action) ("odrl:action", action'))
    (hright : WrappedField P (Wrapped P) ("odrl:rightOperand", right) ("odrl:rightOperand", right'))
    (hasset : WrappedField P (Wrapped P) ("edc:id", asset) ("edc:id", asset')) :
    Wrapped P (sampleCatalog action right asset) (sampleCatalog action' right' asset') := by
  have hconstraint : Wrapped P (.object (sampleConstraint right)) (.object (sampleConstraint right')) :=
    .object (.cons (.kept _) (.cons (.kept _) (.cons hright .nil)))
  have hoffer : Wrapped P (.object (sampleOffer action right)) (.object (sampleOffer action' right')) :=
    .object (.cons (.kept _) (.cons (.inside (by decide +kernel) (.object
      (.cons haction (.cons (.inside (by decide +kernel) hconstraint) .nil)))) .nil))
  exact .object (.cons (.inside (by decide +kernel) (.object
    (.cons hasset (.cons (.inside (by decide +kernel) hoffer) .nil)))) .nil)

/-- Putting single values in lists leaves the items of every catalog as they are exactly if it is only
done to values that are read alike in a list. -/
theorem wrapped_catalog_items_iff (P : Term → Json → Prop) :
    (∀ d d', Wrapped P d d' → (catalog d).map Catalog.items = (catalog d').map Catalog.items) ↔
      ∀ t ∈ listable, ∀ v, IsSingle v → P t v → ReadsListed t v := by
  constructor
  · intro h t ht v hsingle hp
    have listed : ∀ {t : Term} {key}, t ∈ listable → key ∈ t.spellings → P t v →
        WrappedField P (Wrapped P) (key, v) (key, .array [v]) :=
      fun ht hkey hp => .listed ht hkey hsingle hp (.refl v)
    refine ⟨?_, ?_, ?_⟩
    · rintro rfl
      exact (listed_action_iff (.string "") .null rfl).1
        (h _ _ (wrapped_sampleCatalog (listed ht (by decide +kernel) hp) (.kept _) (.kept _)))
    · rintro rfl
      exact (listed_operand_iff .null .null).1
        (h _ _ (wrapped_sampleCatalog (.kept _) (listed ht (by decide +kernel) hp) (.kept _)))
    · rintro rfl
      exact (listed_asset_iff .null (.string "") rfl).1
        (h _ _ (wrapped_sampleCatalog (.kept _) (.kept _) (listed ht (by decide +kernel) hp)))
  · intro hP d d' h
    exact likeness_wrapped.catalog_items_eq (h.imp hP)

def typedAction : Json := .object [("odrl:type", .string "use")]

theorem listed_action_forgotten :
    let typed := sampleCatalog typedAction (.string "EU") (.string "asset")
    let wrapped := sampleCatalog (.array [typedAction]) (.string "EU") (.string "asset")
    let item (action : String) : Catalog.Item :=
      ⟨"", "asset", "offer", "", ⟨[⟨action, [.compare ⟨"left", .eq, "EU"⟩]⟩], [], [], none⟩⟩
    Wrapped (fun _ _ => True) typed wrapped ∧ (catalog typed).map Catalog.items = .ok [item "use"] ∧
      (catalog wrapped).map Catalog.items = .ok [item ""] := by
  refine ⟨wrapped_sampleCatalog ?_ (.kept _) (.kept _), ?_, ?_⟩
  · exact .listed (t := odrl "action") (by decide) (by decide +kernel) trivial trivial (.refl _)
  · rw [sampleCatalog_items]
    rfl
  · rw [sampleCatalog_items]
    rfl

end LinkedData

end ConsumerConnector
