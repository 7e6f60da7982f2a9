import ConsumerConnector.Json.Tree

/-!
Values node by node: what holds of all objects inside a value. A value that was read has the fields of every
object in key order.
-/

namespace ConsumerConnector

namespace Json

@[elab_as_elim]
theorem induction {motive : Json → Prop} (null : motive .null) (bool : ∀ b, motive (.bool b))
    (number : ∀ n, motive (.number n)) (string : ∀ s, motive (.string s))
    (array : ∀ items, (∀ j ∈ items, motive j) → motive (.array items))
    (object : ∀ node, (∀ e ∈ node, motive e.2) → motive (.object node)) (j : Json) : motive j :=
  match j with
  | .null => null
  | .bool b => bool b
  | .number n => number n
  | .string s => string s
  | .array items => array items fun j _ => induction null bool number string array object j
  | .object node => object node fun e he =>
    have : sizeOf e.2 < sizeOf node := by
      have hmem := List.sizeOf_lt_of_mem he
      obtain ⟨key, value⟩ := e
      rw [Prod.mk.sizeOf_spec] at hmem
      show sizeOf value < sizeOf node
      omega
    induction null bool number string array object e.2

mutual

/-- A property of all nodes of a value. -/
def EveryNode (p : List (String × Json) → Prop) : Json → Prop
  | .array items => EveryItem p items
  | .object node => p node ∧ EveryField p node
  | _ => True

def EveryItem (p : List (String × Json) → Prop) : List Json → Prop
  | [] => True
  | j :: rest => EveryNode p j ∧ EveryItem p rest

def EveryField (p : List (String × Json) → Prop) : List (String × Json) → Prop
  | [] => True
  | (_, j) :: rest => EveryNode p j ∧ EveryField p rest

end

variable {p : List (String × Json) → Prop}

mutual

def decidableNode (p : List (String × Json) → Prop) [DecidablePred p] :
    (j : Json) → Decidable (EveryNode p j)
  | .array items => decidableItem p items
  | .object node => @instDecidableAnd _ _ inferInstance (decidableField p node)
  | .null | .bool _ | .number _ | .string _ => .isTrue trivial

def decidableItem (p : List (String × Json) → Prop) [DecidablePred p] :
    (items : List Json) → Decidable (EveryItem p items)
  | [] => .isTrue trivial
  | j :: rest => @instDecidableAnd _ _ (decidableNode p j) (decidableItem p rest)

def decidableField (p : List (String × Json) → Prop) [DecidablePred p] :
    (node : List (String × Json)) → Decidable (EveryField p node)
  | [] => .isTrue trivial
  | (_, j) :: rest => @instDecidableAnd _ _ (decidableNode p j) (decidableField p rest)

end

instance [DecidablePred p] (j : Json) : Decidable (EveryNode p j) :=
  decidableNode p j

theorem everyItem_iff {items : List Json} : EveryItem p items ↔ ∀ j ∈ items, EveryNode p j := by
  induction items with
  | nil => simp [EveryItem]
  | cons j rest ih => simp [EveryItem, ih]

theorem everyField_iff {node : List (String × Json)} :
    EveryField p node ↔ ∀ e ∈ node, EveryNode p e.2 := by
  induction node with
  | nil => simp [EveryField]
  | cons e rest ih => simp [EveryField, ih]

theorem everyNode_array {items : List Json} :
    EveryNode p (.array items) ↔ ∀ j ∈ items, EveryNode p j := by
  rw [EveryNode, everyItem_iff]

theorem everyNode_object {node : List (String × Json)} :
    EveryNode p (.object node) ↔ p node ∧ ∀ e ∈ node, EveryNode p e.2 := by
  rw [EveryNode, everyField_iff]

theorem ordered_ofFields {fields : List (String × Json)}
    (h : ∀ f ∈ fields, f.2.EveryNode Dictionary.Ordered) :
    (ofFields fields).EveryNode Dictionary.Ordered :=
  everyNode_object.2 ⟨(Dictionary.ofList fields).ordered,
    fun f hf => h f (Dictionary.mem_of_mem_ofList hf)⟩

namespace Tree

mutual

/-- Objects that were read have their fields in key order. -/
theorem ordered_of_value? : ∀ {t : Tree} {j : Json}, t.value? = some j → j.EveryNode Dictionary.Ordered
  | .null, j, h | .bool _, j, h | .number _, j, h | .string _, j, h => by
    simp only [value?, Option.some.injEq] at h
    subst h
    trivial
  | .array items, j, h => by
    simp only [value?, Option.bind_eq_bind, Option.pure_def, Option.bind_eq_some_iff,
      Option.some.injEq] at h
    obtain ⟨js, hjs, rfl⟩ := h
    exact everyNode_array.2 (ordered_of_values? hjs)
  | .object fields, j, h => by
    simp only [value?, Option.bind_eq_bind, Option.pure_def, Option.bind_eq_some_iff,
      Option.some.injEq] at h
    obtain ⟨node, hnode, rfl⟩ := h
    refine everyNode_object.2 ⟨(Dictionary.ofList node).ordered, fun e he => ?_⟩
    exact ordered_of_valuedFields? hnode e (Dictionary.mem_of_mem_ofList he)

theorem ordered_of_values? : ∀ {ts : List Tree} {js : List Json}, values? ts = some js →
    ∀ j ∈ js, j.EveryNode Dictionary.Ordered
  | [], js, h => by simp_all [values?]
  | t :: rest, js, h => by
    simp only [values?, Option.bind_eq_bind, Option.pure_def, Option.bind_eq_some_iff,
      Option.some.injEq] at h
    obtain ⟨j, hj, js, hjs, rfl⟩ := h
    exact List.forall_mem_cons.2 ⟨ordered_of_value? hj, ordered_of_values? hjs⟩

theorem ordered_of_valuedFields? : ∀ {fields : List (Option String × Tree)}
    {node : List (String × Json)}, valuedFields? fields = some node →
    ∀ e ∈ node, e.2.EveryNode Dictionary.Ordered
  | [], node, h => by simp_all [valuedFields?]
  | (key, t) :: rest, node, h => by
    simp only [valuedFields?, Option.bind_eq_bind, Option.pure_def, Option.bind_eq_some_iff,
      Option.some.injEq] at h
    obtain ⟨k, -, j, hj, node, hnode, rfl⟩ := h
    exact List.forall_mem_cons.2 ⟨ordered_of_value? hj, ordered_of_valuedFields? hnode⟩

end

end Tree

theorem ordered_of_ofBytes? {bytes : ByteArray} {j : Json} (h : ofBytes? bytes = some j) :
    j.EveryNode Dictionary.Ordered := by
  obtain ⟨t, -, ht⟩ := Option.bind_eq_some_iff.1 h
  exact Tree.ordered_of_value? ht

end Json

end ConsumerConnector
