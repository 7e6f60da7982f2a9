import ConsumerConnector.Proofs.Json.Nodes
import ConsumerConnector.Proofs.LinkedData.RoundTrip
import Mathlib.Data.List.Forall2

/-!
Documents that a reader of catalogs cannot tell apart. A likeness relates documents step by step: a
document to itself, lists of related items, and nodes that hold related values under every term that is
read, where a single value may also stand in a list of its own. Catalogs that a likeness relates come to
the same items, or fail alike.
-/

namespace ConsumerConnector

namespace Catalog

/-- The text of a property's value. -/
def propertyText? : Json → Option String
  | .string s => nonEmpty? s
  | .object node => ((Json.field? node "@value").bind Json.string?).bind nonEmpty?
  | _ => none

theorem textProperty?_eq (properties : Dictionary Json) (key : String) :
    textProperty? properties key = (properties.get? key).bind propertyText? := by
  unfold textProperty?
  cases properties.get? key with
  | none => rfl
  | some v =>
    cases v with
    | object node => cases h : Json.field? node "@value" <;> simp [propertyText?, h]
    | _ => rfl

end Catalog

namespace LinkedData

open Catalog (propertyText? textProperty?_eq assetKey participantKeys)
open Policy (Constraint Connective Operator Permission)

theorem text?_object (node : Fields) :
    text? (.object node) =
      ((Json.field? node "@value").or (Json.field? node "@id")).bind text? := by
  rw [text?, textUnder?_eq, textUnder?_eq]
  cases Json.field? node "@value" <;> rfl

theorem id?_eq (node : Fields) : id? node = (Json.field? node "@id").bind text? :=
  textUnder?_eq _ _

theorem operandTexts_eq (items : List Json) :
    operandTexts items = items.flatMap fun j => (operandText? j).toList := by
  induction items with
  | nil => rw [operandTexts, List.flatMap_nil]
  | cons j rest ih => rw [operandTexts, ih, List.flatMap_cons]

theorem constraints_eq_mapM (js : List Json) : constraints js = js.mapM constraint := by
  induction js with
  | nil => rw [constraints]; rfl
  | cons j rest ih => rw [constraints, ih, List.mapM_cons]

/-- A node joins its parts by the first connective it has, and compares if it has none. -/
theorem constraint_object (node : Fields) :
    constraint (.object node) =
      let joined (k : Connective) : Option (Read Constraint) :=
        ((find? node (connectiveTerm k)).map parts).map fun ps => do return .join k (← ps)
      (joined .and <|> joined .or <|> joined .xone).getD (comparison node) := by
  rw [constraint]
  simp only [findSome?_partsUnder?]

theorem parts_singleton (j : Json) : parts (.array [j]) = do return [← constraint j] := by
  rw [parts, constraints_eq_mapM, List.mapM_cons]
  rfl

theorem permission_object (node : Fields) :
    permission (.object node) = do
      return {
        action := ((find? node (odrl "action")).bind actionName?).getD ""
        constraints := ← constraints (listUnder node (odrl "constraint")) } := rfl

theorem offer_object (node : Fields) :
    offer (.object node) = do
      return { id := ← expect (id? node) "offer is missing '@id'", policy := ← policy node } := rfl

theorem dataset_object (node : Fields) :
    dataset (.object node) = do
      return {
        id := (id? node).getD ""
        properties := properties node (odrl "hasPolicy")
        offers := ← (listUnder node (odrl "hasPolicy")).mapM offer } := rfl

/-- Who offers the catalog that a node is. -/
def offerer (node : Fields) : String :=
  (participantKeys.findSome? (Catalog.textProperty? (properties node (dcat "dataset")))
    <|> (textOf? node (dspace "participantId")).bind Catalog.nonEmpty?).getD ((id? node).getD "")

/-- The items of a catalog, each dataset's by itself. -/
theorem catalog_items_object (node : Fields) :
    (catalog (.object node)).map Catalog.items =
      (((listUnder node (dcat "dataset")).mapM dataset).map
        (List.map fun d connector => d.item? connector)).map
          (List.filterMap fun item? => item? (offerer node)) := by
  have hcatalog : catalog (.object node) = do
      return {
        id := (id? node).getD ""
        participantId := textOf? node (dspace "participantId")
        properties := properties node (dcat "dataset")
        datasets := ← (listUnder node (dcat "dataset")).mapM dataset } := rfl
  rw [hcatalog]
  cases (listUnder node (dcat "dataset")).mapM dataset with
  | error e => rfl
  | ok datasets =>
    refine congrArg Except.ok ?_
    rw [List.filterMap_map]
    rfl

/-- The terms that catalogs are read for, rules that are kept as they are apart. -/
def readTerms : List Term :=
  [dcat "dataset", dspace "participantId"] ++
    ["hasPolicy", "permission", "target", "action", "type", "constraint", "and", "or", "xone",
      "leftOperand", "operator", "rightOperand"].map odrl

/-- The terms whose values are kept as they are. -/
def ruleTerms : List Term := [odrl "prohibition", odrl "obligation"]

/-- The term of a dataset's own name for its asset. -/
def assetTerm : Term := edc "id"

/-- Neither a list nor null. -/
def IsSingle : Json → Prop
  | .array _ | .null => False
  | _ => True

theorem listed_of_isSingle {v : Json} (h : IsSingle v) : listed v = [v] := by
  cases v with
  | array | null => cases h
  | _ => rfl

theorem parts_of_isSingle {v : Json} (h : IsSingle v) : parts v = parts (.array [v]) := by
  rw [parts_singleton]
  cases v with
  | array | null => cases h
  | _ => rw [parts] <;> simp

/-- A value that is read alike alone and in a list of its own. An action has to have its name where a
text has it, an operand has to have a text, and an asset has to have none. -/
structure ReadsListed (t : Term) (v : Json) : Prop where
  action : t = odrl "action" → (actionName? v).getD "" = (text? v).getD ""
  operand : t = odrl "rightOperand" → (operandText? v).isSome
  asset : t = assetTerm → propertyText? v = none

/-- A related value, or a list of just that. -/
inductive Held (R : Json → Json → Prop) (t : Term) : Json → Json → Prop
  | bare {v w : Json} : R v w → Held R t v w
  | listed {v w : Json} : IsSingle v → ReadsListed t v → R v w → Held R t v (.array [w])

structure NodesAlike (R : Json → Json → Prop) (node node' : Fields) : Prop where
  keyword : ∀ key, isKeyword key → Option.Rel R (Json.field? node key) (Json.field? node' key)
  term : ∀ t ∈ readTerms, Option.Rel (Held R t) (find? node t) (find? node' t)
  rule : ∀ t ∈ ruleTerms, find? node t = find? node' t
  asset : Option.Rel (Held R assetTerm) ((properties node (odrl "hasPolicy")).get? assetKey)
    ((properties node' (odrl "hasPolicy")).get? assetKey)
  participant : ∀ key ∈ participantKeys, Option.Rel R ((properties node (dcat "dataset")).get? key)
    ((properties node' (dcat "dataset")).get? key)

inductive Step (R : Json → Json → Prop) : Json → Json → Prop
  | refl (j : Json) : Step R j j
  | array {items items' : List Json} : List.Forall₂ R items items' →
    Step R (.array items) (.array items')
  | object {node node' : Fields} : NodesAlike R node node' → Step R (.object node) (.object node')

/-- A relation that takes a step wherever it holds. -/
structure Likeness (R : Json → Json → Prop) : Prop where
  refl : ∀ j, R j j
  step : ∀ {j j'}, R j j' → Step R j j'

theorem mem_of_field? {node : Fields} {key : String} {v : Json} (h : Json.field? node key = some v) :
    (key, v) ∈ node := by
  obtain ⟨before, after, rfl, -⟩ := List.lookup_eq_some_iff.1 h
  simp

theorem mem_of_find? {node : Fields} {t : Term} {v : Json} (h : find? node t = some v) :
    ∃ key ∈ t.spellings, (key, v) ∈ node := by
  obtain ⟨key, hkey, hv⟩ := List.exists_of_findSome?_eq_some h
  exact ⟨key, hkey, mem_of_field? hv⟩

theorem rel_imp {α β : Type} {R S : α → β → Prop} {o : Option α} {o' : Option β} (h : Option.Rel R o o')
    (hS : ∀ v w, o = some v → R v w → S v w) : Option.Rel S o o' := by
  cases h with
  | none => exact .none
  | some h => exact .some (hS _ _ rfl h)

theorem or_rel {S : Json → Json → Prop} {a a' b b' : Option Json} (ha : Option.Rel S a a')
    (hb : Option.Rel S b b') : Option.Rel S (a.or b) (a'.or b') := by
  cases ha with
  | none => exact hb
  | some h => exact .some h

theorem eq_of_rel {α β : Type} {R : α → α → Prop} (f : Option α → β) {o o' : Option α}
    (h : Option.Rel R o o') (hf : ∀ v w, o = some v → R v w → f (some v) = f (some w)) :
    f o = f o' := by
  cases h with
  | none => rfl
  | some h => exact hf _ _ rfl h

theorem findSome?_eq {α β : Type} {f g : α → Option β} {xs : List α} (h : ∀ x ∈ xs, f x = g x) :
    xs.findSome? f = xs.findSome? g := by
  rw [← List.head?_filterMap, ← List.head?_filterMap, List.filterMap_congr h]

theorem mapM_singleton {α β ε : Type} (f : α → Except ε β) (x : α) :
    [x].mapM f = (f x).map fun y => [y] := by
  rw [List.mapM_cons]
  cases f x <;> rfl

theorem mapM_eq_of_forall₂ {α β ε : Type} {f g : α → Except ε β} {xs ys : List α}
    (h : List.Forall₂ (fun x y => f x = g y) xs ys) : xs.mapM f = ys.mapM g := by
  induction h with
  | nil => rfl
  | cons hhead _ ih => rw [List.mapM_cons, List.mapM_cons, hhead, ih]

/-- What is seen of the results, if it is seen alike. -/
theorem map_mapM_eq_of_forall₂ {α β γ ε : Type} {f : α → Except ε β} {view : β → γ} {xs ys : List α}
    (h : List.Forall₂ (fun x y => (f x).map view = (f y).map view) xs ys) :
    (xs.mapM f).map (List.map view) = (ys.mapM f).map (List.map view) := by
  have hview : ∀ zs : List α, (zs.mapM f).map (List.map view) = zs.mapM fun z => (f z).map view := by
    intro zs
    induction zs with
    | nil => rfl
    | cons z zs ih =>
      rw [List.mapM_cons, List.mapM_cons, ← ih]
      cases f z with
      | error e => rfl
      | ok y => cases zs.mapM f <;> rfl
  rw [hview, hview, mapM_eq_of_forall₂ h]

theorem map_bind_eq {α β γ ε : Type} {x : Except ε α} {f g : α → Except ε β} {view : β → γ}
    (h : ∀ a, (f a).map view = (g a).map view) : (x >>= f).map view = (x >>= g).map view := by
  cases x with
  | error e => rfl
  | ok a => exact h a

theorem forall₂_imp_of_mem {α β : Type} {R S : α → β → Prop} {xs : List α} {ys : List β}
    (h : List.Forall₂ R xs ys) (hS : ∀ x ∈ xs, ∀ y, R x y → S x y) : List.Forall₂ S xs ys := by
  induction h with
  | nil => exact .nil
  | cons hhead _ ih =>
    obtain ⟨hx, hxs⟩ := List.forall_mem_cons.1 hS
    exact .cons (hx _ hhead) (ih hxs)

theorem lookup_filterMap {α β : Type} {f : α → Option (String × β)} (stands : α → Bool) (value : α → β)
    {full : String} (hstands : ∀ a, stands a → f a = some (full, value a))
    (hf : ∀ a b, f a = some b → b.1 = full → stands a) (l : List α) :
    (l.filterMap f).lookup full = (l.find? stands).map value := by
  induction l with
  | nil => rfl
  | cons a rest ih =>
    rw [List.filterMap_cons, List.find?_cons]
    cases ha : stands a with
    | true => rw [hstands a ha]; simp
    | false =>
      cases hb : f a with
      | none => exact ih
      | some b =>
        obtain ⟨key, _⟩ := b
        have hne : full ≠ key := fun h => by simp [hf a _ hb h.symm] at ha
        simp only [List.lookup_cons, beq_eq_false_iff_ne.2 hne, ih]

/-- Whether a key stands for a full address. -/
def standsFor (full key : String) : Bool := !isKeyword key && expandKey key == full

/-- A property is the last field whose key stands for it. -/
theorem get?_properties (node : Fields) {without : Term} {full : String} (h : full ≠ without.expanded) :
    (properties node without).get? full =
      ((node.filter fun e => standsFor full e.1).getLast?).map Prod.snd := by
  rw [properties, Dictionary.get?_ofList, ← List.filterMap_reverse,
    lookup_filterMap (fun e => standsFor full e.1) Prod.snd,
    ← List.head?_filter, List.filter_reverse, List.head?_reverse]
  · rintro ⟨key, value⟩ hkey
    obtain ⟨hword, rfl⟩ : isKeyword key = false ∧ expandKey key = full := by
      simpa [standsFor] using hkey
    simp [hword, h]
  · rintro ⟨key, value⟩ b hb hfull
    by_cases hskip : (isKeyword key || expandKey key == without.expanded) = true
    · simp only [hskip, if_true, reduceCtorEq] at hb
    · simp only [hskip, if_false, Option.some.injEq, Bool.false_eq_true] at hb
      subst hb hfull
      simp_all [standsFor]

theorem head?_rel {α : Type} {S : α → α → Prop} {l l' : List α} (h : List.Forall₂ S l l') :
    Option.Rel S l.head? l'.head? := by
  cases h with
  | nil => exact .none
  | cons h _ => exact .some h

theorem getLast?_rel {α : Type} {S : α → α → Prop} {l l' : List α} (h : List.Forall₂ S l l') :
    Option.Rel S l.getLast? l'.getLast? := by
  rw [← List.head?_reverse, ← List.head?_reverse]
  exact head?_rel (List.rel_reverse h)

namespace Likeness

variable {R : Json → Json → Prop} (hR : Likeness R) {j j' v w : Json} {node node' : Fields} {t : Term}

include hR

theorem text?_eq (h : R j j') : text? j = text? j' := by
  induction j using Json.induction generalizing j' with
  | array items ih =>
    cases hR.step h with
    | refl => rfl
    | array hitems =>
      cases hitems with
      | nil => rfl
      | cons hhead _ =>
        rw [text?, text?]
        exact ih _ (List.mem_cons_self ..) hhead
  | object node ih =>
    cases hR.step h with
    | refl => rfl
    | object hnode =>
      have hkey : ∀ key, isKeyword key → Option.Rel (fun v w => text? v = text? w)
          (Json.field? node key) (Json.field? _ key) := fun key hkey =>
        rel_imp (hnode.keyword key hkey) fun _ _ hv hvw => ih _ (mem_of_field? hv) hvw
      rw [text?_object, text?_object]
      exact eq_of_rel (·.bind text?) (or_rel (hkey "@value" (by decide)) (hkey "@id" (by decide)))
        fun _ _ _ h => h
  | _ =>
    cases hR.step h
    rfl

theorem operandText?_eq (h : R j j') : operandText? j = operandText? j' := by
  induction j using Json.induction generalizing j' with
  | array items ih =>
    cases hR.step h with
    | refl => rfl
    | array hitems =>
      have hall : List.Forall₂ (fun v w => operandText? v = operandText? w) items _ :=
        forall₂_imp_of_mem hitems fun v hv _ => ih v hv
      rw [operandText?, operandText?, operandTexts_eq, operandTexts_eq]
      congr 2
      clear ih h hitems
      induction hall with
      | nil => rfl
      | cons hhead _ ih => rw [List.flatMap_cons, List.flatMap_cons, hhead, ih]
  | object node =>
    cases hR.step h with
    | refl => rfl
    | object hnode =>
      rw [operandText?, operandText?, hR.text?_eq h]
      all_goals simp
  | _ =>
    cases hR.step h
    rfl

theorem string?_eq (h : R j j') : j.string? = j'.string? := by
  cases hR.step h <;> rfl

theorem propertyText?_eq (h : R j j') : propertyText? j = propertyText? j' := by
  cases hR.step h with
  | refl => rfl
  | array => rfl
  | object hnode =>
    rw [propertyText?, propertyText?]
    exact eq_of_rel (fun o => (o.bind Json.string?).bind Catalog.nonEmpty?)
      (hnode.keyword "@value" (by decide)) fun _ _ _ h => by
        rw [Option.bind_some, Option.bind_some, hR.string?_eq h]

theorem text?_held (h : Held R t v w) : text? v = text? w := by
  cases h with
  | bare h => exact hR.text?_eq h
  | listed _ _ h => rw [text?, hR.text?_eq h]

theorem id?_eq (h : NodesAlike R node node') : id? node = id? node' := by
  rw [LinkedData.id?_eq, LinkedData.id?_eq]
  exact eq_of_rel (·.bind text?) (h.keyword "@id" (by decide)) fun _ _ _ h => hR.text?_eq h

theorem textOf?_eq (h : NodesAlike R node node') (ht : t ∈ readTerms) :
    textOf? node t = textOf? node' t :=
  eq_of_rel (·.bind text?) (h.term t ht) fun _ _ _ h => hR.text?_held h

theorem actionName?_eq (h : R v w) : actionName? v = actionName? w := by
  cases hR.step h with
  | refl => rfl
  | array => exact hR.text?_eq h
  | object hnode =>
    rw [actionName?, actionName?, hR.id?_eq hnode, hR.textOf?_eq hnode (by decide)]

theorem action_eq (h : NodesAlike R node node') :
    ((find? node (odrl "action")).bind actionName?).getD "" =
      ((find? node' (odrl "action")).bind actionName?).getD "" := by
  refine eq_of_rel (fun o => (o.bind actionName?).getD "") (h.term (odrl "action") (by decide))
    fun v w _ h => ?_
  cases h with
  | bare h => rw [Option.bind_some, Option.bind_some, hR.actionName?_eq h]
  | listed _ hlisted h =>
    rw [Option.bind_some, Option.bind_some, hlisted.action rfl, actionName?, text?, hR.text?_eq h]
    simp

theorem operand_eq (h : NodesAlike R node node') :
    (find? node (odrl "rightOperand")).bind operandText? =
      (find? node' (odrl "rightOperand")).bind operandText? := by
  refine eq_of_rel (·.bind operandText?) (h.term (odrl "rightOperand") (by decide)) fun v w _ h => ?_
  rw [Option.bind_some, Option.bind_some]
  cases h with
  | bare h => exact hR.operandText?_eq h
  | listed _ hlisted h =>
    obtain ⟨s, hs⟩ := Option.isSome_iff_exists.1 (hlisted.operand rfl)
    rw [operandText?, operandTexts_eq, List.flatMap_singleton, ← hR.operandText?_eq h, hs]
    simp

theorem asset_eq (h : NodesAlike R node node') :
    ((properties node (odrl "hasPolicy")).get? assetKey).bind propertyText? =
      ((properties node' (odrl "hasPolicy")).get? assetKey).bind propertyText? := by
  refine eq_of_rel (·.bind propertyText?) h.asset fun v w _ h => ?_
  rw [Option.bind_some, Option.bind_some]
  cases h with
  | bare h => exact hR.propertyText?_eq h
  | listed _ hlisted => rw [hlisted.asset rfl, propertyText?] <;> simp

theorem listed_alike (h : Held R t v w) : List.Forall₂ R (listed v) (listed w) := by
  cases h with
  | bare h =>
    cases hR.step h with
    | refl => exact List.forall₂_same.2 fun j _ => hR.refl j
    | array hitems => exact hitems
    | object => exact .cons h .nil
  | listed hsingle _ h =>
    rw [listed_of_isSingle hsingle]
    exact .cons h .nil

theorem listUnder_alike (h : NodesAlike R node node') (ht : t ∈ readTerms) :
    List.Forall₂ R (listUnder node t) (listUnder node' t) := by
  have hlisted : ∀ {o o'}, Option.Rel (Held R t) o o' →
      List.Forall₂ R ((o.map listed).getD []) ((o'.map listed).getD []) := by
    intro o o' h
    cases h with
    | none => exact .nil
    | some h => exact hR.listed_alike h
  exact hlisted (h.term t ht)

theorem comparison_eq (h : NodesAlike R node node') : comparison node = comparison node' := by
  rw [comparison, comparison, hR.textOf?_eq h (by decide), hR.textOf?_eq h (by decide),
    hR.operand_eq h]

/-- The induction goes with what `parts` reads of a value, as nodes hold lists of further nodes. -/
theorem constraint_parts_eq (h : R j j') : constraint j = constraint j' ∧ parts j = parts j' := by
  induction j using Json.induction generalizing j' with
  | array items ih =>
    cases hR.step h with
    | refl => exact ⟨rfl, rfl⟩
    | array hitems =>
      refine ⟨by rw [constraint, constraint] <;> simp, ?_⟩
      rw [parts, parts, constraints_eq_mapM, constraints_eq_mapM]
      exact mapM_eq_of_forall₂ (forall₂_imp_of_mem hitems fun v hv _ hvw => (ih v hv hvw).1)
  | object node ih =>
    cases hR.step h with
    | refl => exact ⟨rfl, rfl⟩
    | @object _ node' hnode =>
      have hjoined : ∀ k, (find? node (connectiveTerm k)).map parts =
          (find? node' (connectiveTerm k)).map parts := by
        intro k
        refine eq_of_rel (·.map parts) (hnode.term _ (by cases k <;> decide)) fun v w hv hvw => ?_
        obtain ⟨key, -, hmem⟩ := mem_of_find? hv
        rw [Option.map_some, Option.map_some]
        cases hvw with
        | bare hvw => rw [(ih _ hmem hvw).2]
        | listed hsingle _ hvw => rw [parts_of_isSingle hsingle, parts_singleton, parts_singleton,
            (ih _ hmem hvw).1]
      have hconstraint : constraint (.object node) = constraint (.object node') := by
        rw [constraint_object, constraint_object, hR.comparison_eq hnode]
        simp only [hjoined]
      refine ⟨hconstraint, ?_⟩
      rw [parts_of_isSingle (v := .object node) trivial, parts_singleton, hconstraint,
        ← parts_singleton, ← parts_of_isSingle (v := .object node') trivial]
  | _ =>
    cases hR.step h
    exact ⟨rfl, rfl⟩

theorem permission_eq (h : R j j') : permission j = permission j' := by
  cases hR.step h with
  | refl => rfl
  | array => rfl
  | object hnode =>
    rw [permission_object, permission_object, hR.action_eq hnode, constraints_eq_mapM,
      constraints_eq_mapM]
    rw [mapM_eq_of_forall₂ ((hR.listUnder_alike hnode (by decide)).imp
      fun _ _ h => (hR.constraint_parts_eq h).1)]

theorem policy_eq (h : NodesAlike R node node') : policy node = policy node' := by
  have hpermissions : (listUnder node (odrl "permission")).mapM permission =
      (listUnder node' (odrl "permission")).mapM permission :=
    mapM_eq_of_forall₂ ((hR.listUnder_alike h (by decide)).imp fun _ _ h => hR.permission_eq h)
  have hrules : ∀ t ∈ ruleTerms, listUnder node t = listUnder node' t := fun t ht => by
    rw [listUnder, listUnder, h.rule t ht]
  rw [policy, policy, hpermissions, hR.textOf?_eq h (by decide), hrules _ (by decide),
    hrules _ (by decide)]

theorem offer_eq (h : R j j') : offer j = offer j' := by
  cases hR.step h with
  | refl => rfl
  | array => rfl
  | object hnode => rw [offer_object, offer_object, hR.id?_eq hnode, hR.policy_eq hnode]

/-- Related datasets come to the same item, whoever offers the catalog. -/
theorem dataset_item?_eq (h : R j j') :
    (dataset j).map (fun d connector => d.item? connector) =
      (dataset j').map (fun d connector => d.item? connector) := by
  cases hR.step h with
  | refl => rfl
  | array => rfl
  | object hnode =>
    rw [dataset_object, dataset_object, hR.id?_eq hnode,
      mapM_eq_of_forall₂ ((hR.listUnder_alike hnode (by decide)).imp fun _ _ h => hR.offer_eq h)]
    refine map_bind_eq fun offers => congrArg Except.ok (funext fun connector => ?_)
    simp only [Dataset.item?, Dataset.asset, textProperty?_eq, hR.asset_eq hnode]

theorem offerer_eq (h : NodesAlike R node node') : offerer node = offerer node' := by
  have hparticipant : ∀ key ∈ participantKeys,
      Catalog.textProperty? (properties node (dcat "dataset")) key =
        Catalog.textProperty? (properties node' (dcat "dataset")) key := fun key hkey => by
    rw [textProperty?_eq, textProperty?_eq]
    exact eq_of_rel (·.bind propertyText?) (h.participant key hkey)
      fun _ _ _ h => hR.propertyText?_eq h
  rw [offerer, offerer, hR.id?_eq h, hR.textOf?_eq h (by decide), findSome?_eq hparticipant]

/-- Related catalogs come to the same items. -/
theorem catalog_items_eq (h : R j j') :
    (catalog j).map Catalog.items = (catalog j').map Catalog.items := by
  cases hR.step h with
  | refl => rfl
  | array => rfl
  | object hnode =>
    rw [catalog_items_object, catalog_items_object, hR.offerer_eq hnode,
      map_mapM_eq_of_forall₂ ((hR.listUnder_alike hnode (by decide)).imp
        fun _ _ h => hR.dataset_item?_eq h)]

end Likeness

end LinkedData

end ConsumerConnector
