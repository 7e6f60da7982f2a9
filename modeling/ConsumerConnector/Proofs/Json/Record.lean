import ConsumerConnector.Json.Record

/-!
Records read from objects that have distinct keys: every field is found under its name, in whatever order
the fields are. What is read of an object that was written of some fields is read of these fields.
-/

namespace ConsumerConnector.Json

theorem lookup_of_nodup {α : Type} {entries : List (String × α)} (h : (entries.map Prod.fst).Nodup)
    {key : String} {value : α} (hmem : (key, value) ∈ entries) : entries.lookup key = some value := by
  induction entries with
  | nil => cases hmem
  | cons e rest ih =>
    rw [List.map_cons, List.nodup_cons] at h
    rcases List.mem_cons.1 hmem with rfl | hmem
    · exact List.lookup_cons_self
    · have hne : (key == e.1) = false := by
        rw [beq_eq_false_iff_ne]
        rintro rfl
        exact h.1 (List.mem_map.2 ⟨_, hmem, rfl⟩)
      rw [List.lookup_cons, hne, ih h.2 hmem]

theorem fieldTrees_eq (fields : List (String × Json)) :
    fieldTrees fields = fields.map fun f => (some f.1, f.2.toTree) := by
  induction fields with
  | nil => rfl
  | cons f rest ih => rw [fieldTrees, ih, List.map_cons]

/-- An object of known fields is read as a record, if no name comes twice. -/
theorem record?_object {names : List String} {fields : List (String × Json)}
    (hnames : ∀ f ∈ fields, f.1 ∈ names) (hnodup : (fields.map Prod.fst).Nodup) :
    (object fields).toTree.record? names = some (fields.map fun f => (f.1, f.2.toTree)) := by
  let known (f : Option String × Tree) : Option (String × Tree) :=
    f.1.bind fun key => if key ∈ names then some (key, f.2) else none
  have hknown : (fieldTrees fields).filterMap known = fields.map fun f => (f.1, f.2.toTree) := by
    clear hnodup
    induction fields with
    | nil => rfl
    | cons f rest ih =>
      obtain ⟨hname, hrest⟩ := List.forall_mem_cons.1 hnames
      have hf : known (some f.1, f.2.toTree) = some (f.1, f.2.toTree) := if_pos hname
      rw [fieldTrees, List.filterMap_cons_some hf, ih hrest, List.map_cons]
  have hkeys : (fields.map fun f => (f.1, f.2.toTree)).map Prod.fst = fields.map Prod.fst := by
    rw [List.map_map]
    rfl
  change (if (fieldTrees fields).any (·.1.isNone) then none
    else if (((fieldTrees fields).filterMap known).map Prod.fst).Nodup then
      some ((fieldTrees fields).filterMap known) else none) = _
  rw [if_neg (by simp [fieldTrees_eq]), hknown, hkeys, if_pos hnodup]

/-- A field that may be absent is looked up among those that are there. -/
theorem get?_present {fields : List (String × Option Json)} (h : (fields.map Prod.fst).Nodup)
    (name : String) :
    (Dictionary.ofList (fields.filterMap fun (key, value) => value.map (key, ·))).get? name =
      (fields.lookup name).join := by
  rw [Dictionary.get?_ofList]
  induction fields with
  | nil => rfl
  | cons f rest ih =>
    obtain ⟨key, value⟩ := f
    obtain ⟨hkey, hrest⟩ := List.nodup_cons.1 h
    have ih := ih hrest
    by_cases hname : name = key
    · subst hname
      have habsent : rest.lookup name = none := by
        refine List.lookup_eq_none_iff.2 fun e he => ?_
        have hne : name ≠ e.1 := fun heq => hkey (List.mem_map.2 ⟨e, he, heq.symm⟩)
        simpa using hne
      rw [habsent] at ih
      cases value <;> simp [List.lookup_append, ih]
    · have hne := beq_eq_false_iff_ne.2 hname
      cases value <;> simp [List.lookup_append, List.lookup_cons, hne, ih]

namespace Tree

theorem record?_ofDictionary (names : List String) (d : Dictionary Json) :
    (ofDictionary d).toTree.record? names =
      some ((d.filter fun key _ => key ∈ names).map toTree).entries := by
  let known (f : Option String × Tree) : Option (String × Tree) :=
    f.1.bind fun key => if key ∈ names then some (key, f.2) else none
  have hknown : (fieldTrees d.entries).filterMap known =
      ((d.filter fun key _ => key ∈ names).map toTree).entries := by
    rw [fieldTrees_eq, List.filterMap_map]
    change _ = (d.entries.filter _).map _
    rw [← List.filterMap_eq_filter, List.map_filterMap]
    congr 1
    funext f
    by_cases hf : f.1 ∈ names <;> simp [known, hf, Option.guard]
  have hnodup : (((d.filter fun key _ => key ∈ names).map toTree).entries.map Prod.fst).Nodup :=
    Dictionary.nodup_keys _
  change (if (fieldTrees d.entries).any (·.1.isNone) then none
    else if (((fieldTrees d.entries).filterMap known).map Prod.fst).Nodup then
      some ((fieldTrees d.entries).filterMap known) else none) = _
  rw [if_neg (by simp [fieldTrees_eq]), hknown, if_pos hnodup]

variable {α : Type} {names : List String} {read? : Record → Option α} {x : α}

theorem bind_record?_ofDictionary {d : Dictionary Json}
    (h : ∀ r : Record, (∀ name ∈ names, r.lookup name = (d.get? name).map toTree) →
      read? r = some x) :
    ((ofDictionary d).toTree.record? names).bind read? = some x := by
  rw [record?_ofDictionary]
  refine h _ fun name hname => ?_
  have hkept : ((d.filter fun key _ => key ∈ names).map toTree).get? name =
      (d.get? name).map toTree := by
    rw [Dictionary.get?_map, Dictionary.get?_filter]
    cases d.get? name <;> simp [Option.filter, hname]
  exact hkept

/-- To read a record of an object is to read its fields. -/
theorem bind_record?_ofFields {fields : List (String × Json)}
    (h : ∀ r : Record, (∀ name ∈ names, r.lookup name = (fields.reverse.lookup name).map toTree) →
      read? r = some x) :
    ((ofFields fields).toTree.record? names).bind read? = some x := by
  refine bind_record?_ofDictionary fun r hr => h r fun name hname => ?_
  rw [hr name hname, Dictionary.get?_ofList]

theorem bind_record?_ofPresent {fields : List (String × Option Json)}
    (hnodup : (fields.map Prod.fst).Nodup)
    (h : ∀ r : Record, (∀ name ∈ names, r.lookup name = (fields.lookup name).join.map toTree) →
      read? r = some x) :
    ((ofPresent fields).toTree.record? names).bind read? = some x := by
  refine bind_record?_ofDictionary fun r hr => h r fun name hname => ?_
  rw [hr name hname, get?_present hnodup]

namespace Record

variable {r : Record} {name : String} {read? : Tree → Option α}

/-- A field that is left out where there is no value, and whose values are not written as null. -/
theorem optional_eq (write : α → Json) {o : Option α}
    (hfield : r.lookup name = (o.map write).map toTree)
    (hread : ∀ x ∈ o, read? (write x).toTree = some x) (hnull : read? .null = none) :
    r.optional name read? = some o := by
  rw [optional, hfield]
  cases o with
  | none => rfl
  | some x =>
    have hx : read? (write x).toTree = some x := hread x rfl
    rw [Option.map_some, Option.map_some]
    split
    · next heq => cases heq
    · next heq =>
      rw [Option.some.inj heq, hnull] at hx
      cases hx
    · next heq => rw [← Option.some.inj heq, hx, Option.map_some]

theorem optional_string {o : Option String}
    (hfield : r.lookup name = (o.map .string).map toTree) : r.optional name string? = some o :=
  optional_eq .string hfield (fun _ _ => rfl) rfl

theorem exists_of_required (h : r.required name read? = some x) : ∃ t, read? t = some x := by
  obtain ⟨t, -, hread⟩ := Option.bind_eq_some_iff.1 h
  exact ⟨t, hread⟩

theorem withDefault_cases {default : α} (h : r.withDefault name read? default = some x) :
    x = default ∨ ∃ t, read? t = some x := by
  rw [withDefault] at h
  split at h
  · exact .inl (Option.some.inj h).symm
  · exact .inr ⟨_, h⟩

end Record

end Tree

end ConsumerConnector.Json
