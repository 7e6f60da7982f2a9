import ConsumerConnector.Policy.Coding
import ConsumerConnector.Proofs.Json.Value
import ConsumerConnector.Proofs.Policy.Monotone

/-!
Policies read back. A constraint comes back node by node, whatever reads the kinds of its inner nodes; a policy
comes back exactly if the rules that it only passes on have their fields in key order.
-/

namespace ConsumerConnector.Policy

open Json (Tree)
open Json.Tree

@[simp] theorem Operator.ofTree?_toTree (o : Operator) :
    Operator.ofTree? (Json.string o.name).toTree = some o := by
  cases o <;> rfl

namespace Constraint

@[simp] theorem Kind.ofName?_name (k : Connective) : Kind.ofName? k.name = some (.joined k) := by
  cases k <;> rfl

theorem allToJson_eq (parts : List Constraint) : allToJson parts = parts.map toJson := by
  induction parts with
  | nil => rw [allToJson, List.map_nil]
  | cons c rest ih => rw [allToJson, ih, List.map_cons]

theorem readAll?_eq (ts : List Tree) : readAll? ts = ts.mapM (read? Kind.ofInnerTree?) := by
  induction ts with
  | nil =>
    rw [readAll?]
    rfl
  | cons t rest ih => rw [readAll?, ih, List.mapM_cons]

theorem parts?_fieldTrees (fields : List (String × Json)) :
    parts? (Json.fieldTrees fields) =
      (Json.field? fields "constraints").bind fun j => j.toTree.list? (read? Kind.ofInnerTree?) := by
  induction fields with
  | nil =>
    rw [Json.fieldTrees, parts?]
    rfl
  | cons f rest ih =>
    obtain ⟨key, j⟩ := f
    rw [Json.fieldTrees, Json.field?, List.lookup_cons]
    by_cases hkey : key = "constraints"
    · cases j <;> simp [Json.toTree, parts?, hkey, list?, readAll?_eq]
    · have hne : ("constraints" == key) = false := beq_eq_false_iff_ne.2 (Ne.symm hkey)
      cases j <;> simp [Json.toTree, parts?, hkey, hne, ih, Json.field?]

theorem ordered_toJson (c : Constraint) : c.toJson.EveryNode Dictionary.Ordered := by
  induction c with
  | compare c =>
    rw [toJson]
    exact Json.ordered_ofFields (by simp [Json.EveryNode])
  | join k parts ih =>
    rw [toJson, allToJson_eq]
    refine Json.ordered_ofFields ?_
    simpa [Json.EveryNode, Json.everyItem_iff] using ih

/-- The kind of the outermost node may be read in another way than those inside. -/
theorem read?_toTree {kind? : Tree → Option Kind}
    (hkind : ∀ s, kind? (Json.string s).toTree = Kind.ofName? s) (c : Constraint) :
    read? kind? c.toJson.toTree = some c := by
  -- the inner nodes are read with a wider `kind?`, so the induction is for all that agree on texts
  induction c generalizing kind? with
  | compare c =>
    rw [toJson, Json.ofFields, Json.toTree, read?]
    refine bind_record?_ofFields fun r hr => ?_
    have htype : r.required "type" kind? = some .atomic := by
      simp [Record.required, hr, List.lookup_cons, hkind, Kind.ofName?]
    rw [htype]
    refine bind_record?_ofFields fun r hr => ?_
    simp [Record.required, hr, List.lookup_cons, comparison?]
  | join k parts ih =>
    rw [toJson, Json.ofFields, Json.toTree, read?]
    refine bind_record?_ofFields fun r hr => ?_
    have htype : r.required "type" kind? = some (.joined k) := by
      simp [Record.required, hr, List.lookup_cons, hkind]
    rw [htype]
    refine bind_record?_ofFields fun r hr => ?_
    have hparts : (Json.array (parts.map toJson)).toTree.list? (read? Kind.ofInnerTree?) = some parts :=
      list?_toTree toJson fun c hc => ih c hc fun _ => rfl
    rw [parts?_fieldTrees]
    simp [allToJson_eq, hparts]

theorem ofTree?_toJson (c : Constraint) : ofTree? c.toJson.toTree = some c := by
  rw [ofTree?, value?_toTree c.ordered_toJson]
  exact read?_toTree (fun _ => rfl) c

end Constraint

theorem Permission.ofTree?_toJson (p : Permission) : Permission.ofTree? p.toJson.toTree = some p := by
  refine bind_record?_ofFields fun r hr => ?_
  have hconstraints : (Json.array (p.constraints.map (·.toJson))).toTree.list? Constraint.ofTree? =
      some p.constraints := list?_toTree _ fun c _ => c.ofTree?_toJson
  simp [Record.required, Record.withDefault, hr, List.lookup_cons, hconstraints]

/-- The rules that are only passed on have their fields in key order. -/
def InKeyOrder (p : Policy) : Prop :=
  ∀ j ∈ p.prohibitions ++ p.obligations, j.EveryNode Dictionary.Ordered

instance (p : Policy) : Decidable p.InKeyOrder :=
  inferInstanceAs (Decidable (∀ j ∈ _, _))

variable {p : Policy}

theorem ofTree?_toJson (h : p.InKeyOrder) : ofTree? p.toJson.toTree = some p := by
  refine bind_record?_ofPresent (by simp) fun r hr => ?_
  have hpermissions : (Json.array (p.permissions.map (·.toJson))).toTree.list? Permission.ofTree? =
      some p.permissions := list?_toTree _ fun q _ => q.ofTree?_toJson
  obtain ⟨hprohibitions, hobligations⟩ := List.forall_mem_append.1 h
  have hprohibitions := list?_value? hprohibitions
  have hobligations := list?_value? hobligations
  have htarget : r.optional "target" string? = some p.target :=
    Record.optional_string (by simp [hr, List.lookup_cons])
  simp [Record.withDefault, hr, List.lookup_cons, hpermissions, hprohibitions, hobligations, htarget]

theorem inKeyOrder_of_ofTree? {t : Tree} (h : ofTree? t = some p) : p.InKeyOrder := by
  simp only [ofTree?, Option.bind_eq_bind, Option.pure_def, Option.bind_eq_some_iff,
    Option.some.injEq] at h
  obtain ⟨r, -, _, -, prohibitions, hprohibitions, obligations, hobligations, _, -, rfl⟩ := h
  exact List.forall_mem_append.2
    ⟨Record.ordered_of_withDefault hprohibitions, Record.ordered_of_withDefault hobligations⟩

theorem inKeyOrder_of_required {r : Record} {name : String}
    (h : r.required name ofTree? = some p) : p.InKeyOrder := by
  obtain ⟨t, hread⟩ := Record.exists_of_required h
  exact inKeyOrder_of_ofTree? hread

end ConsumerConnector.Policy
