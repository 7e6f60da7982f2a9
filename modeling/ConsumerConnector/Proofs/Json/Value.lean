import ConsumerConnector.Proofs.Json.Nodes
import ConsumerConnector.Proofs.Json.Record

/-!
What is read of a tree that a value was made into. Lists and dictionaries come back if their items do, and a
value comes back if all objects inside it have their fields in key order.
-/

namespace ConsumerConnector

/-- All values have their fields in key order. -/
def Dictionary.InKeyOrder (d : Dictionary Json) : Prop :=
  ∀ e ∈ d.entries, e.2.EveryNode Dictionary.Ordered

instance (d : Dictionary Json) : Decidable d.InKeyOrder :=
  inferInstanceAs (Decidable (∀ e ∈ _, _))

namespace Json

theorem mapM_map_eq_some {α β : Type} {write : α → β} {read? : β → Option α} {xs : List α}
    (h : ∀ x ∈ xs, read? (write x) = some x) : (xs.map write).mapM read? = some xs := by
  induction xs with
  | nil => rfl
  | cons x rest ih =>
    obtain ⟨hx, hrest⟩ := List.forall_mem_cons.1 h
    rw [List.map_cons, List.mapM_cons, hx, ih hrest]
    rfl

theorem mem_of_mapM {α β : Type} {read? : α → Option β} {xs : List α} {ys : List β}
    (h : xs.mapM read? = some ys) {y : β} (hy : y ∈ ys) : ∃ x ∈ xs, read? x = some y := by
  induction xs generalizing ys with
  | nil =>
    cases h
    cases hy
  | cons x rest ih =>
    simp only [List.mapM_cons, Option.bind_eq_bind, Option.pure_def, Option.bind_eq_some_iff,
      Option.some.injEq] at h
    obtain ⟨z, hz, zs, hzs, rfl⟩ := h
    rcases List.mem_cons.1 hy with rfl | hy
    · exact ⟨x, List.mem_cons_self .., hz⟩
    · obtain ⟨w, hw, hread⟩ := ih hzs hy
      exact ⟨w, List.mem_cons_of_mem _ hw, hread⟩

theorem itemTrees_eq (items : List Json) : itemTrees items = items.map toTree := by
  induction items with
  | nil => rfl
  | cons j rest ih => rw [itemTrees, ih, List.map_cons]

namespace Tree

@[simp] theorem string?_toTree (s : String) : (Json.string s).toTree.string? = some s := rfl

@[simp] theorem bool?_toTree (b : Bool) : (Json.bool b).toTree.bool? = some b := rfl

@[simp] theorem nat?_toTree (n : Nat) : (ofNat n).toTree.nat? = some n := rfl

section

variable {α : Type} {read? : Tree → Option α}

theorem list?_toTree (write : α → Json) {xs : List α}
    (h : ∀ x ∈ xs, read? (write x).toTree = some x) :
    (Json.array (xs.map write)).toTree.list? read? = some xs := by
  rw [toTree, itemTrees_eq, list?, List.map_map]
  exact mapM_map_eq_some h

theorem dictionary?_toTree (write : α → Json) {d : Dictionary α}
    (h : ∀ e ∈ d.entries, read? (write e.2).toTree = some e.2) :
    (ofDictionary (d.map write)).toTree.dictionary? read? = some d := by
  rw [ofDictionary, toTree, fieldTrees_eq, Dictionary.map, List.map_map, dictionary?, mapM_map_eq_some]
  · exact congrArg some (Dictionary.ext (Dictionary.entries_ofList d.ordered))
  · intro e he
    simp [h e he]

theorem read?_of_mem_list? {t : Tree} {xs : List α} (h : t.list? read? = some xs) {x : α}
    (hx : x ∈ xs) : ∃ t', read? t' = some x := by
  cases t with
  | array items =>
    obtain ⟨t', -, hread⟩ := mem_of_mapM h hx
    exact ⟨t', hread⟩
  | _ => cases h

theorem read?_of_mem_dictionary? {t : Tree} {d : Dictionary α} (h : t.dictionary? read? = some d)
    {e : String × α} (he : e ∈ d.entries) : ∃ t', read? t' = some e.2 := by
  cases t with
  | object fields =>
    simp only [dictionary?, Option.bind_eq_bind, Option.pure_def, Option.bind_eq_some_iff,
      Option.some.injEq] at h
    obtain ⟨entries, hentries, rfl⟩ := h
    obtain ⟨⟨key, t'⟩, -, hread⟩ := mem_of_mapM hentries (Dictionary.mem_of_mem_ofList he)
    simp only [Option.bind_eq_some_iff, Option.some.injEq] at hread
    obtain ⟨-, -, value, hvalue, rfl⟩ := hread
    exact ⟨t', hvalue⟩
  | _ => cases h

end

theorem value?_array (items : List Tree) :
    (Tree.array items).value? = ((Tree.array items).list? value?).map .array := by
  have hvalues : values? items = items.mapM value? := by
    induction items with
    | nil => rfl
    | cons t rest ih => rw [values?, ih, List.mapM_cons]
  rw [value?, hvalues, list?, Option.map_eq_bind]
  rfl

theorem value?_object (fields : List (Option String × Tree)) :
    (Tree.object fields).value? = ((Tree.object fields).dictionary? value?).map ofDictionary := by
  have hvalues : valuedFields? fields = fields.mapM fun f => do return (← f.1, ← f.2.value?) := by
    induction fields with
    | nil => rfl
    | cons f rest ih => simp [valuedFields?, ih, Option.bind_assoc]
  simp only [value?, hvalues, dictionary?, Option.bind_eq_bind, Option.pure_def, Option.map_bind]
  rfl

theorem value?_toTree {j : Json} (h : j.EveryNode Dictionary.Ordered) :
    j.toTree.value? = some j := by
  induction j using Json.induction with
  | null | bool | number | string => rfl
  | array items ih =>
    have hitems := list?_toTree id fun j hj => ih j hj (everyNode_array.1 h j hj)
    rw [List.map_id] at hitems
    rw [toTree, value?_array]
    exact congrArg (Option.map Json.array) hitems
  | object node ih =>
    obtain ⟨hnode, hvalues⟩ := everyNode_object.1 h
    -- fields in key order are the entries of a dictionary, so that none is moved or lost
    let d : Dictionary Json := ⟨node, hnode⟩
    have hfields : (ofDictionary (d.map id)).toTree.dictionary? value? = some d :=
      dictionary?_toTree id fun e he => ih e he (hvalues e he)
    rw [Dictionary.map_id] at hfields
    rw [toTree, value?_object]
    exact congrArg (Option.map ofDictionary) hfields

theorem list?_value? {items : List Json} (h : ∀ j ∈ items, j.EveryNode Dictionary.Ordered) :
    (Json.array items).toTree.list? value? = some items := by
  have hitems := list?_toTree id fun j hj => value?_toTree (h j hj)
  rwa [List.map_id] at hitems

theorem dictionary?_value? {d : Dictionary Json} (h : d.InKeyOrder) :
    (ofDictionary d).toTree.dictionary? value? = some d := by
  have hfields := dictionary?_toTree id fun e he => value?_toTree (h e he)
  rwa [Dictionary.map_id] at hfields

theorem ordered_of_list? {t : Tree} {items : List Json} (h : t.list? value? = some items) :
    ∀ j ∈ items, j.EveryNode Dictionary.Ordered := by
  intro j hj
  obtain ⟨t', hread⟩ := read?_of_mem_list? h hj
  exact ordered_of_value? hread

theorem inKeyOrder_of_dictionary? {t : Tree} {d : Dictionary Json}
    (h : t.dictionary? value? = some d) : d.InKeyOrder := by
  intro e he
  obtain ⟨t', hread⟩ := read?_of_mem_dictionary? h he
  exact ordered_of_value? hread

namespace Record

variable {r : Record} {name : String}

theorem ordered_of_withDefault {items : List Json}
    (h : r.withDefault name (list? value?) [] = some items) :
    ∀ j ∈ items, j.EveryNode Dictionary.Ordered := by
  rcases withDefault_cases h with rfl | ⟨t, hread⟩
  · exact List.forall_mem_nil _
  · exact ordered_of_list? hread

theorem inKeyOrder_of_withDefault {d : Dictionary Json}
    (h : r.withDefault name (dictionary? value?) ∅ = some d) : d.InKeyOrder := by
  rcases withDefault_cases h with rfl | ⟨t, hread⟩
  · exact List.forall_mem_nil _
  · exact inKeyOrder_of_dictionary? hread

end Record

end Tree

end Json

end ConsumerConnector
