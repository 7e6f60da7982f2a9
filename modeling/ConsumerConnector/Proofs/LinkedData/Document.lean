import ConsumerConnector.Proofs.LinkedData.Likeness

/-!
Documents node by node. Where no node has one term in two spellings, a term's value is that of the one
field that spells it, whatever the order of the look-up.
-/

namespace ConsumerConnector

namespace LinkedData

def respellable : List Term :=
  [dcat "dataset", assetTerm] ++
    ["hasPolicy", "permission", "prohibition", "obligation", "target", "action", "type",
      "constraint", "and", "or", "xone", "leftOperand", "operator", "rightOperand"].map odrl

/-- Keys that are one, or that spell one term. -/
def SameTerm (key key' : String) : Prop :=
  key = key' ∨ ∃ t ∈ respellable, key ∈ t.spellings ∧ key' ∈ t.spellings

instance (key key' : String) : Decidable (SameTerm key key') :=
  inferInstanceAs (Decidable (_ ∨ _))

theorem spellings_disjoint : ∀ t ∈ dspace "participantId" :: respellable,
    ∀ t' ∈ dspace "participantId" :: respellable, ∀ key ∈ t.spellings, key ∈ t'.spellings → t = t' := by
  decide +kernel

/-- No term is spelled twice. -/
def OneSpelling (node : Fields) : Prop :=
  node.Pairwise fun e e' => ¬ SameTerm e.1 e'.1

instance : DecidablePred OneSpelling := fun node =>
  inferInstanceAs (Decidable (node.Pairwise fun e e' => ¬ SameTerm e.1 e'.1))

namespace SameTerm

variable {key key' : String}

theorem refl (key : String) : SameTerm key key := .inl rfl

theorem symm (h : SameTerm key key') : SameTerm key' key := by
  rcases h with rfl | ⟨t, ht, hkey, hkey'⟩
  · exact refl _
  · exact .inr ⟨t, ht, hkey', hkey⟩

theorem mem {t : Term} (ht : t ∈ respellable) (h : SameTerm key key') (hkey : key ∈ t.spellings) :
    key' ∈ t.spellings := by
  rcases h with rfl | ⟨t', ht', hmem, hmem'⟩
  · exact hkey
  · rwa [spellings_disjoint t (List.mem_cons_of_mem _ ht) t' (List.mem_cons_of_mem _ ht') key hkey hmem]

theorem mem_iff {t : Term} (ht : t ∈ respellable) (h : SameTerm key key') :
    key ∈ t.spellings ↔ key' ∈ t.spellings :=
  ⟨h.mem ht, h.symm.mem ht⟩

theorem trans {key'' : String} (h : SameTerm key key') (h' : SameTerm key' key'') :
    SameTerm key key'' := by
  rcases h with rfl | ⟨t, ht, hkey, hkey'⟩
  · exact h'
  · exact .inr ⟨t, ht, hkey, h'.mem ht hkey'⟩

/-- A key that spells no term that can be spelled another way. -/
theorem eq_of_forall (hkey : ∀ t ∈ respellable, key ∉ t.spellings) (h : SameTerm key key') :
    key = key' := by
  rcases h with rfl | ⟨t, ht, hmem, -⟩
  · rfl
  · exact absurd hmem (hkey t ht)

end SameTerm

theorem findSome?_ite {α : Type} {key : String} {value : α} {keys : List String} (h : key ∈ keys) :
    keys.findSome? (fun k => if k = key then some value else none) = some value := by
  induction keys with
  | nil => cases h
  | cons k rest ih =>
    by_cases hk : k = key
    · simp [hk]
    · simp [hk, ih ((List.mem_cons.1 h).resolve_left (Ne.symm hk))]

/-- The value of a term that is not spelled twice. -/
theorem find?_eq_filter {node : Fields} {t : Term} (ht : t ∈ respellable) (h : OneSpelling node) :
    find? node t = ((node.filter fun e => e.1 ∈ t.spellings).head?).map Prod.snd := by
  rw [List.head?_filter]
  induction node with
  | nil => simp [find?, Json.field?]
  | cons e rest ih =>
    obtain ⟨k, v⟩ := e
    obtain ⟨hhead, hrest⟩ := List.pairwise_cons.1 h
    by_cases hk : k ∈ t.spellings
    · have hkey : ∀ key ∈ t.spellings,
          Json.field? ((k, v) :: rest) key = if key = k then some v else none := by
        intro key hkey
        have habsent : rest.lookup key = none :=
          List.lookup_eq_none_iff.2 fun e he => by
            simpa using fun heq : key = e.1 => hhead e he (.inr ⟨t, ht, hk, heq ▸ hkey⟩)
        by_cases heq : key = k
        · simp [Json.field?, heq]
        · simp [Json.field?, List.lookup_cons, beq_eq_false_iff_ne.2 heq, heq, habsent]
      simp [hk, find?, findSome?_eq hkey, findSome?_ite hk]
    · have hkey : ∀ key ∈ t.spellings, Json.field? ((k, v) :: rest) key = Json.field? rest key := by
        intro key hkey
        have hne : key ≠ k := fun heq => hk (heq ▸ hkey)
        simp [Json.field?, List.lookup_cons, beq_eq_false_iff_ne.2 hne]
      simp [hk, ← ih hrest, find?, findSome?_eq hkey]

end LinkedData

end ConsumerConnector
