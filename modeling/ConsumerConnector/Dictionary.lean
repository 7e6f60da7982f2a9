/-!
Finite maps from texts, kept in key order. Two dictionaries are equal when they look up alike.
-/

namespace ConsumerConnector

namespace Dictionary

variable {α : Type}

/-- Puts an entry at its place in key order, instead of one of the same key. -/
def insertEntry (key : String) (value : α) : List (String × α) → List (String × α)
  | [] => [(key, value)]
  | (k, v) :: rest =>
    if key < k then (key, value) :: (k, v) :: rest
    else if key = k then (key, value) :: rest
    else (k, v) :: insertEntry key value rest

/-- Key order, each key once. -/
def Ordered (entries : List (String × α)) : Prop :=
  entries.Pairwise fun a b => a.1 < b.1

instance (entries : List (String × α)) : Decidable (Ordered entries) :=
  inferInstanceAs (Decidable (entries.Pairwise fun a b => a.1 < b.1))

theorem lt_of_not_lt_of_ne {a b : String} (h : ¬ a < b) (hne : a ≠ b) : b < a := by
  have hle := String.not_lt.1 h
  exact Decidable.byContradiction fun hn => hne (String.le_antisymm (String.not_lt.1 hn) hle)

theorem mem_insertEntry {key : String} {value : α} {entries : List (String × α)}
    {e : String × α} (h : e ∈ insertEntry key value entries) : e = (key, value) ∨ e ∈ entries := by
  induction entries with
  | nil => simp_all [insertEntry]
  | cons head rest ih =>
    obtain ⟨k, v⟩ := head
    simp only [insertEntry] at h
    split at h
    · simpa using h
    · split at h
      · grind
      · grind

theorem ordered_insertEntry (key : String) (value : α) {entries : List (String × α)}
    (h : Ordered entries) : Ordered (insertEntry key value entries) := by
  induction entries with
  | nil => simp [insertEntry, Ordered]
  | cons head rest ih =>
    obtain ⟨k, v⟩ := head
    obtain ⟨hk, hrest⟩ := List.pairwise_cons.1 h
    simp only [insertEntry]
    split
    · rename_i hlt
      refine List.pairwise_cons.2 ⟨fun e he => ?_, h⟩
      rcases List.mem_cons.1 he with rfl | he
      · exact hlt
      · exact String.lt_trans hlt (hk e he)
    · rename_i hlt
      split
      · rename_i heq
        subst heq
        exact List.pairwise_cons.2 ⟨hk, hrest⟩
      · rename_i hne
        refine List.pairwise_cons.2 ⟨fun e he => ?_, ih hrest⟩
        rcases mem_insertEntry he with rfl | he
        · exact lt_of_not_lt_of_ne hlt hne
        · exact hk e he

theorem lookup_insertEntry (key : String) (value : α) (entries : List (String × α)) (k : String) :
    (insertEntry key value entries).lookup k =
      if k = key then some value else entries.lookup k := by
  induction entries with
  | nil => simp only [insertEntry, List.lookup_cons, List.lookup_nil]; grind
  | cons head rest ih => grind [insertEntry]

end Dictionary

structure Dictionary (α : Type) where
  entries : List (String × α)
  ordered : Dictionary.Ordered entries

namespace Dictionary

variable {α β : Type}

def empty : Dictionary α := ⟨[], .nil⟩

instance : EmptyCollection (Dictionary α) := ⟨empty⟩

instance : Inhabited (Dictionary α) := ⟨empty⟩

def get? (d : Dictionary α) (key : String) : Option α :=
  d.entries.lookup key

def contains (d : Dictionary α) (key : String) : Bool :=
  (d.get? key).isSome

def insert (d : Dictionary α) (key : String) (value : α) : Dictionary α :=
  ⟨insertEntry key value d.entries, ordered_insertEntry key value d.ordered⟩

/-- Keeps the entries that pass a test. -/
def filter (d : Dictionary α) (p : String → α → Bool) : Dictionary α :=
  ⟨d.entries.filter fun e => p e.1 e.2, d.ordered.filter _⟩

def erase (d : Dictionary α) (key : String) : Dictionary α :=
  d.filter fun k _ => k ≠ key

def map (f : α → β) (d : Dictionary α) : Dictionary β :=
  ⟨d.entries.map fun e => (e.1, f e.2), List.pairwise_map.2 (d.ordered.imp fun h => h)⟩

def keys (d : Dictionary α) : List String :=
  d.entries.map Prod.fst

def size (d : Dictionary α) : Nat :=
  d.entries.length

theorem mem_keys {d : Dictionary α} {key : String} : key ∈ d.keys ↔ (d.get? key).isSome := by
  simp [keys, get?, Option.isSome_iff_ne_none, List.lookup_eq_none_iff]

theorem nodup_keys (d : Dictionary α) : d.keys.Nodup :=
  List.pairwise_map.2 (d.ordered.imp String.ne_of_lt)

/-- Of entries with one key the last one stays. -/
def ofList (entries : List (String × α)) : Dictionary α :=
  entries.foldl (fun d e => d.insert e.1 e.2) empty

@[ext] theorem ext {d e : Dictionary α} (h : d.entries = e.entries) : d = e := by
  cases d; cases e; simp_all

@[simp] theorem get?_empty (key : String) : (empty : Dictionary α).get? key = none := rfl

@[simp] theorem size_empty : (empty : Dictionary α).size = 0 := rfl

theorem get?_insert (d : Dictionary α) (key : String) (value : α) (k : String) :
    (d.insert key value).get? k = if k = key then some value else d.get? k :=
  lookup_insertEntry key value d.entries k

@[simp] theorem get?_insert_self (d : Dictionary α) (key : String) (value : α) :
    (d.insert key value).get? key = some value := by
  simp [get?_insert]

theorem get?_foldl_insert (d : Dictionary α) (entries : List (String × α)) (key : String) :
    (entries.foldl (fun d e => d.insert e.1 e.2) d).get? key =
      (entries.reverse.lookup key).or (d.get? key) := by
  induction entries generalizing d with
  | nil => rfl
  | cons e rest ih =>
    obtain ⟨k, value⟩ := e
    rw [List.foldl_cons, ih, get?_insert, List.reverse_cons, List.lookup_append, Option.or_assoc]
    by_cases h : key = k
    · simp [h]
    · simp [List.lookup_cons, beq_eq_false_iff_ne.2 h, h]

theorem get?_ofList (entries : List (String × α)) (key : String) :
    (ofList entries).get? key = entries.reverse.lookup key := by
  rw [ofList, get?_foldl_insert, get?_empty, Option.or_none]

theorem lookup_map (f : α → β) (entries : List (String × α)) (k : String) :
    (entries.map fun e => (e.1, f e.2)).lookup k = (entries.lookup k).map f := by
  induction entries with
  | nil => rfl
  | cons head rest ih =>
    obtain ⟨key, value⟩ := head
    by_cases h : k = key
    · simp [h]
    · simp [List.lookup_cons, beq_eq_false_iff_ne.2 h, ih]

theorem get?_map (f : α → β) (d : Dictionary α) (k : String) :
    (d.map f).get? k = (d.get? k).map f :=
  lookup_map f d.entries k

@[simp] theorem map_id (d : Dictionary α) : d.map id = d :=
  ext (List.map_id _)

theorem mem_entries {d : Dictionary α} {key : String} {value : α} :
    (key, value) ∈ d.entries ↔ d.get? key = some value := by
  constructor
  · intro hmem
    obtain ⟨before, after, heq⟩ := List.append_of_mem hmem
    have hbefore : ∀ e ∈ before, e.1 < key := fun e he =>
      (List.pairwise_append.1 (heq ▸ d.ordered)).2.2 e he _ (List.mem_cons_self ..)
    rw [get?, heq]
    refine List.lookup_eq_some_iff.2 ⟨before, after, rfl, fun e he => ?_⟩
    exact bne_iff_ne.2 (String.ne_of_lt (hbefore e he)).symm
  · intro hget
    obtain ⟨before, after, heq, -⟩ := List.lookup_eq_some_iff.1 hget
    rw [heq]
    exact List.mem_append_right before (List.mem_cons_self ..)

theorem lookup_filter {entries : List (String × α)} (h : Ordered entries) (p : String → α → Bool)
    (k : String) : (entries.filter fun e => p e.1 e.2).lookup k = (entries.lookup k).filter (p k) := by
  induction entries with
  | nil => rfl
  | cons head rest ih =>
    obtain ⟨key, value⟩ := head
    obtain ⟨hk, hrest⟩ := List.pairwise_cons.1 h
    have ih := ih hrest
    by_cases hkey : k = key
    · subst hkey
      have habsent : rest.lookup k = none := by
        refine List.lookup_eq_none_iff.2 fun e he => ?_
        have := hk e he
        grind [String.lt_irrefl]
      rw [habsent] at ih
      by_cases hp : p k value
      · simp [Option.filter, hp]
      · rw [List.filter_cons_of_neg (by simpa using hp), ih]
        simp [Option.filter, hp]
    · by_cases hp : p key value <;> simp_all [List.lookup_cons, beq_eq_false_iff_ne.2 hkey]

theorem get?_filter (d : Dictionary α) (p : String → α → Bool) (k : String) :
    (d.filter p).get? k = (d.get? k).filter (p k) :=
  lookup_filter d.ordered p k

theorem get?_erase (d : Dictionary α) (key k : String) :
    (d.erase key).get? k = if k = key then none else d.get? k := by
  rw [erase, get?_filter]
  by_cases h : k = key <;> cases d.get? k <;> simp_all [Option.filter]

theorem mem_of_mem_ofList {entries : List (String × α)} {e : String × α}
    (h : e ∈ (ofList entries).entries) : e ∈ entries := by
  have hfold : ∀ (entries : List (String × α)) (d : Dictionary α),
      e ∈ (entries.foldl (fun d e => d.insert e.1 e.2) d).entries → e ∈ entries ∨ e ∈ d.entries := by
    intro entries
    induction entries with
    | nil => exact fun d h => .inr h
    | cons head rest ih =>
      intro d h
      rcases ih _ h with h | h
      · exact .inl (List.mem_cons_of_mem _ h)
      · rcases mem_insertEntry h with rfl | h
        · exact .inl (List.mem_cons_self ..)
        · exact .inr h
  simpa [empty] using hfold entries empty h

theorem insertEntry_perm {key : String} {entries : List (String × α)} (value : α)
    (h : ∀ e ∈ entries, e.1 ≠ key) : (insertEntry key value entries).Perm ((key, value) :: entries) := by
  induction entries with
  | nil => exact .refl _
  | cons head rest ih =>
    obtain ⟨k, v⟩ := head
    obtain ⟨hk, hrest⟩ := List.forall_mem_cons.1 h
    simp only [insertEntry, if_neg (Ne.symm hk)]
    split
    · exact .refl _
    · exact ((ih hrest).cons (k, v)).trans (.swap ..)

/-- Entries of different keys all stay. -/
theorem entries_ofList_perm {entries : List (String × α)}
    (h : entries.Pairwise fun a b => a.1 ≠ b.1) : (ofList entries).entries.Perm entries := by
  have hfold : ∀ (d : Dictionary α) (entries : List (String × α)),
      (d.entries ++ entries).Pairwise (fun a b => a.1 ≠ b.1) →
        (entries.foldl (fun d e => d.insert e.1 e.2) d).entries.Perm (d.entries ++ entries) := by
    intro d entries
    induction entries generalizing d with
    | nil => simp
    | cons e rest ih =>
      intro h
      have hnew : (d.insert e.1 e.2).entries.Perm (e :: d.entries) :=
        insertEntry_perm e.2 fun a ha => (List.pairwise_append.1 h).2.2 a ha e (List.mem_cons_self ..)
      have hperm : ((d.insert e.1 e.2).entries ++ rest).Perm (d.entries ++ e :: rest) :=
        (hnew.append_right rest).trans List.perm_middle.symm
      exact (ih _ ((hperm.pairwise_iff fun h => Ne.symm h).2 h)).trans hperm
  exact hfold empty entries h

/-- Entries that are in key order stay as they are. -/
theorem entries_ofList {entries : List (String × α)} (h : Ordered entries) :
    (ofList entries).entries = entries := by
  have hdistinct : entries.Pairwise fun a b => a.1 ≠ b.1 := h.imp String.ne_of_lt
  refine (entries_ofList_perm hdistinct).eq_of_pairwise ?_ (ofList entries).ordered h
  intro a b _ _ hlt hgt
  exact absurd hgt (String.lt_asymm hlt)

end Dictionary

end ConsumerConnector
