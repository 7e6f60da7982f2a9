import ConsumerConnector.Proofs.LinkedData.Document

/-!
Catalogs whose terms are spelled another way. Terms are looked up by their spellings, and the properties
of a node are found by the full addresses of its keys; both find related values in a node and in one that
is respelled, so that catalogs come to the same items.
-/

namespace ConsumerConnector

namespace LinkedData

/-- A key that does not stand for itself is a marked term or a bare one. -/
theorem expandKey_cases (key : String) :
    expandKey key = key ∨ (∃ t : Term, key = t.marked ∧ expandKey key = t.expanded) ∨
      expandKey key = (edc key).expanded := by
  rw [expandKey]
  split
  · exact .inl rfl
  cases hsplit : Text.splitFirst ':' key with
  | none => exact .inr (.inr rfl)
  | some parts =>
    obtain ⟨mark, name⟩ := parts
    cases hv : Vocabulary.ofMark? mark with
    | none => simp [hv]
    | some v =>
      have hmark : v.mark = mark := by simpa using List.find?_some hv
      refine .inr (.inl ⟨⟨v, name⟩, String.toList_inj.1 ?_, by simp [hv, Term.expanded]⟩)
      simp [(Text.splitFirst_eq_some_iff.1 hsplit).1, Term.marked, hmark]

theorem spellings_assetTerm : assetTerm.spellings = ["id", "edc:id", Catalog.assetKey] := by
  decide +kernel

/-- The address of an asset's name is that of no other term. -/
theorem eq_assetTerm_of_expanded {t : Term} (h : t.expanded = Catalog.assetKey) : t = assetTerm := by
  obtain ⟨vocabulary, name⟩ := t
  have hlist := congrArg String.toList h
  cases vocabulary <;> simp [Term.expanded, Vocabulary.address, Catalog.assetKey] at hlist
  have hname : name = "id" := String.toList_inj.1 (by rw [hlist]; rfl)
  rw [hname]
  rfl

/-- The keys that stand for an asset are the spellings of its term. -/
theorem standsFor_assetKey (key : String) :
    standsFor Catalog.assetKey key = decide (key ∈ assetTerm.spellings) := by
  rw [spellings_assetTerm, Bool.eq_iff_iff, decide_eq_true_eq]
  constructor
  · intro h
    have hexpand : expandKey key = Catalog.assetKey := by
      rw [standsFor, Bool.and_eq_true, beq_iff_eq] at h
      exact h.2
    rcases expandKey_cases key with hsame | ⟨t, rfl, ht⟩ | hbare
    · simp [← hexpand, hsame]
    · rw [eq_assetTerm_of_expanded (ht.symm.trans hexpand)]
      decide +kernel
    · have hkey : key = "id" := congrArg Term.name (eq_assetTerm_of_expanded (hbare.symm.trans hexpand))
      simp [hkey]
  · intro h
    revert key
    decide +kernel

theorem isKeyword_respellable : ∀ t ∈ respellable, ∀ key ∈ t.spellings, isKeyword key = false := by
  decide +kernel

theorem standsFor_respellable : ∀ t ∈ respellable, ∀ key ∈ t.spellings, ∀ full ∈ Catalog.participantKeys,
    standsFor full key = false := by
  decide +kernel

inductive RespelledField (R : Json → Json → Prop) : String × Json → String × Json → Prop
  | rule {key key' : String} {v : Json} : (∃ t ∈ ruleTerms, key ∈ t.spellings) → SameTerm key key' →
    RespelledField R (key, v) (key', v)
  | other {key key' : String} {v w : Json} : (∀ t ∈ ruleTerms, key ∉ t.spellings) →
    SameTerm key key' → R v w → RespelledField R (key, v) (key', w)

/-- Documents of which the second comes from the first by other spellings. -/
inductive Respelled : Json → Json → Prop
  | refl (j : Json) : Respelled j j
  | array {items items' : List Json} : List.Forall₂ Respelled items items' →
    Respelled (.array items) (.array items')
  | object {node fields' : Fields} : List.Forall₂ (RespelledField Respelled) node fields' →
    Respelled (.object node) (.ofFields fields')

namespace RespelledField

variable {R : Json → Json → Prop} {e e' : String × Json}

theorem sameTerm (h : RespelledField R e e') : SameTerm e.1 e'.1 := by
  cases h <;> assumption

theorem imp {S : Json → Json → Prop} (hRS : ∀ w, R e.2 w → S e.2 w) (h : RespelledField R e e') :
    RespelledField S e e' := by
  cases h with
  | rule hkey hsame => exact .rule hkey hsame
  | other hkey hsame h => exact .other hkey hsame (hRS _ h)

theorem value (hR : ∀ j, R j j) (h : RespelledField R e e') : R e.2 e'.2 := by
  cases h with
  | rule => exact hR _
  | other _ _ h => exact h

theorem rule_eq {t : Term} (ht : t ∈ ruleTerms) (hkey : e.1 ∈ t.spellings)
    (h : RespelledField R e e') : e.2 = e'.2 := by
  cases h with
  | rule => rfl
  | other hno => exact absurd hkey (hno t ht)

end RespelledField

theorem pairwise_of_forall₂ {α : Type} {R S T : α → α → Prop} {l l' : List α}
    (h : List.Forall₂ R l l') (hST : ∀ a b a' b', R a a' → R b b' → S a b → T a' b')
    (hl : l.Pairwise S) : l'.Pairwise T := by
  have hmem : ∀ {l l'}, List.Forall₂ R l l' → ∀ b' ∈ l', ∃ b ∈ l, R b b' := by
    intro l l' h
    induction h with
    | nil => simp
    | cons hb _ ih => grind
  induction h with
  | nil => exact .nil
  | @cons a a' l l' ha hrest ih =>
    obtain ⟨hhead, hl⟩ := List.pairwise_cons.1 hl
    refine List.pairwise_cons.2 ⟨fun b' hb' => ?_, ih hl⟩
    obtain ⟨b, hb, hR⟩ := hmem hrest b' hb'
    exact hST _ _ _ _ ha hR (hhead b hb)

theorem findSome?_rel {R : Json → Json → Prop} {keys : List String} {f g : String → Option Json}
    (h : ∀ key ∈ keys, Option.Rel R (f key) (g key)) :
    Option.Rel R (keys.findSome? f) (keys.findSome? g) := by
  induction keys with
  | nil => exact .none
  | cons key rest ih =>
    have hcons : ∀ f : String → Option Json,
        (key :: rest).findSome? f = (f key).or (rest.findSome? f) := fun f => by
      cases hf : f key <;> simp [hf]
    rw [hcons, hcons]
    apply or_rel (h key (List.mem_cons_self ..))
    exact ih fun key hkey => h key (List.mem_cons_of_mem _ hkey)

theorem map_rel {α β α' β' : Type} {S : α → β → Prop} {S' : α' → β' → Prop} {f : α → α'} {g : β → β'}
    {o : Option α} {o' : Option β} (h : Option.Rel S o o') (hfg : ∀ a b, S a b → S' (f a) (g b)) :
    Option.Rel S' (o.map f) (o'.map g) := by
  cases h with
  | none => exact .none
  | some h => exact .some (hfg _ _ h)

theorem field?_eq_filter (node : Fields) (key : String) :
    Json.field? node key = ((node.filter fun e => e.1 == key).head?).map Prod.snd := by
  rw [Json.field?, List.head?_filter, ← lookup_filterMap (fun e => e.1 == key) Prod.snd,
    List.filterMap_some]
  · grind
  · grind

section

variable {R : Json → Json → Prop} {node fields' : Fields} (hone : OneSpelling node)
  (h : List.Forall₂ (RespelledField R) node fields')

include hone h

theorem oneSpelling_fields : OneSpelling fields' :=
  pairwise_of_forall₂ h (fun _ _ _ _ ha hb hne hsame =>
    hne (ha.sameTerm.trans (hsame.trans hb.sameTerm.symm))) hone

theorem entries_perm : (Dictionary.ofList fields').entries.Perm fields' :=
  Dictionary.entries_ofList_perm
    ((oneSpelling_fields hone h).imp fun hne heq => hne (.inl heq))

theorem oneSpelling_entries : OneSpelling (Dictionary.ofList fields').entries :=
  ((entries_perm hone h).pairwise_iff fun hne hsame => hne hsame.symm).2 (oneSpelling_fields hone h)

/-- Fields that are chosen by key are as many and in the same order once keys are respelled and put in
order, if no two are chosen or the keys of all that are chosen stay. -/
theorem filter_respelled {p : String → Bool} (hp : ∀ key key', SameTerm key key' → p key = p key')
    (hordered : Dictionary.Ordered (fields'.filter (p ·.1))) :
    List.Forall₂ (RespelledField R) (node.filter (p ·.1))
      ((Dictionary.ofList fields').entries.filter (p ·.1)) := by
  have hfilter : List.Forall₂ (RespelledField R) (node.filter (p ·.1)) (fields'.filter (p ·.1)) :=
    List.rel_filter (fun e e' he => by simp [hp _ _ he.sameTerm]) h
  rwa [← ((entries_perm hone h).filter _).eq_of_pairwise
    (fun a b _ _ hab hba => absurd (String.lt_trans hab hba) (String.lt_irrefl _))
    ((Dictionary.ofList fields').ordered.filter _) hordered] at hfilter

theorem filter_term {t : Term} (ht : t ∈ respellable) :
    List.Forall₂ (RespelledField R) (node.filter (·.1 ∈ t.spellings))
      ((Dictionary.ofList fields').entries.filter (·.1 ∈ t.spellings)) := by
  apply filter_respelled hone h (p := fun key => decide (key ∈ t.spellings))
  · intro key key' hsame
    simp [hsame.mem_iff ht]
  · refine List.Pairwise.imp_of_mem ?_ ((oneSpelling_fields hone h).filter _)
    intro a b ha hb hne
    simp only [List.mem_filter, decide_eq_true_eq] at ha hb
    exact absurd (.inr ⟨t, ht, ha.2, hb.2⟩) hne

theorem filter_kept (hnode : Dictionary.Ordered node) {p : String → Bool}
    (hp : ∀ t ∈ respellable, ∀ key ∈ t.spellings, p key = false) :
    List.Forall₂ (RespelledField R) (node.filter (p ·.1))
      ((Dictionary.ofList fields').entries.filter (p ·.1)) := by
  have hsame : ∀ key key', SameTerm key key' → p key = p key' := by
    rintro key key' (rfl | ⟨t, ht, hkey, hkey'⟩)
    · rfl
    · rw [hp t ht key hkey, hp t ht key' hkey']
  have hkeys : List.Forall₂ (fun e e' => e.1 = e'.1) (node.filter (p ·.1)) (fields'.filter (p ·.1)) := by
    refine forall₂_imp_of_mem (List.rel_filter (fun e e' he => by simp [hsame _ _ he.sameTerm]) h) ?_
    intro e he e' h
    refine h.sameTerm.eq_of_forall fun t ht hkey => ?_
    simpa [hp t ht _ hkey] using (List.mem_filter.1 he).2
  apply filter_respelled hone h hsame
  exact pairwise_of_forall₂ hkeys (fun a b a' b' ha hb hlt => by rwa [← ha, ← hb]) (hnode.filter _)

end

theorem readTerms_cases : ∀ t ∈ readTerms, t ∈ respellable ∨ t = dspace "participantId" := by
  decide

/-- A node and its respelled fields in order are read alike. -/
theorem nodesAlike_respelled {R : Json → Json → Prop} {node fields' : Fields} (hR : ∀ j, R j j)
    (hnode : Dictionary.Ordered node) (hone : OneSpelling node)
    (h : List.Forall₂ (RespelledField R) node fields') :
    NodesAlike R node (Dictionary.ofList fields').entries := by
  have hkept : ∀ {key}, (∀ t ∈ respellable, key ∉ t.spellings) →
      Option.Rel R (Json.field? node key) (Json.field? (Dictionary.ofList fields').entries key) := by
    intro key hkey
    rw [field?_eq_filter, field?_eq_filter]
    refine map_rel (head?_rel (filter_kept hone h hnode (p := (· == key)) ?_)) fun _ _ h => h.value hR
    exact fun t ht key' hkey' => beq_eq_false_iff_ne.2 fun heq => hkey t ht (heq ▸ hkey')
  refine ⟨fun key hkey => ?_, fun t ht => ?_, fun t ht => ?_, ?_, fun full hfull => ?_⟩
  · apply hkept
    intro t ht hmem
    simp [isKeyword_respellable t ht key hmem] at hkey
  · refine rel_imp (R := R) ?_ fun _ _ _ h => .bare h
    rcases readTerms_cases t ht with ht | rfl
    · rw [find?_eq_filter ht hone, find?_eq_filter ht (oneSpelling_entries hone h)]
      exact map_rel (head?_rel (filter_term hone h ht)) fun _ _ h => h.value hR
    · exact findSome?_rel fun key hkey => hkept (by revert key; decide +kernel)
  · have hmem : t ∈ respellable := by revert t; decide
    rw [find?_eq_filter hmem hone, find?_eq_filter hmem (oneSpelling_entries hone h)]
    refine eq_of_rel (Option.map Prod.snd) (head?_rel (filter_term hone h hmem)) fun e e' he hfield => ?_
    have hkey : e.1 ∈ t.spellings := by
      simpa using (List.mem_filter.1 (List.mem_of_head? he)).2
    simp [hfield.rule_eq ht hkey]
  · rw [get?_properties _ (by decide +kernel), get?_properties _ (by decide +kernel)]
    simp only [standsFor_assetKey]
    refine rel_imp (R := R) ?_ fun _ _ _ h => .bare h
    exact map_rel (getLast?_rel (filter_term hone h (by decide))) fun _ _ h => h.value hR
  · have hne : full ≠ (dcat "dataset").expanded := by revert full; decide +kernel
    rw [get?_properties _ hne, get?_properties _ hne]
    refine map_rel (getLast?_rel (filter_kept hone h hnode ?_)) fun _ _ h => h.value hR
    exact fun t ht key hkey => standsFor_respellable t ht key hkey full hfull

theorem likeness_respelled : Likeness fun j j' =>
    j = j' ∨ Respelled j j' ∧ j.EveryNode Dictionary.Ordered ∧ j.EveryNode OneSpelling where
  refl _ := .inl rfl
  step := by
    rintro j j' (rfl | ⟨h, hordered, hone⟩)
    · exact .refl _
    · cases h with
      | refl => exact .refl _
      | array hitems =>
        rw [Json.everyNode_array] at hordered hone
        apply Step.array
        exact forall₂_imp_of_mem hitems fun j hj _ h => .inr ⟨h, hordered j hj, hone j hj⟩
      | object hfields =>
        rw [Json.everyNode_object] at hordered hone
        apply Step.object
        apply nodesAlike_respelled (fun _ => .inl rfl) hordered.1 hone.1
        exact forall₂_imp_of_mem hfields fun e he _ h =>
          h.imp fun _ h => .inr ⟨h, hordered.2 e he, hone.2 e he⟩

/-- A catalog comes to the same items however its terms are spelled, or cannot be read in any
spelling. -/
theorem respelled_catalog_items {d d' : Json} (h : Respelled d d')
    (hordered : d.EveryNode Dictionary.Ordered) (hone : d.EveryNode OneSpelling) :
    (catalog d).map Catalog.items = (catalog d').map Catalog.items :=
  likeness_respelled.catalog_items_eq (.inr ⟨h, hordered, hone⟩)

def markedCatalog : Json :=
  .object [("dcat:dataset", .object [("@id", .string "set"), ("edc:id", .string "asset"),
    ("odrl:hasPolicy", .object [("@id", .string "offer"),
      ("odrl:permission", .array [.object [("odrl:action", .string "use")]])])])]

def mixedCatalog : Json :=
  .ofFields [("dataset", .ofFields [("@id", .string "set"), ("id", .string "asset"),
    ("http://www.w3.org/ns/odrl/2/hasPolicy", .ofFields [("@id", .string "offer"),
      ("permission", .array [.ofFields [("action", .string "use")]])])])]

theorem respelled_catalog_items_mixed :
    Respelled markedCatalog mixedCatalog ∧ markedCatalog.EveryNode Dictionary.Ordered ∧
      markedCatalog.EveryNode OneSpelling ∧
      (catalog markedCatalog).map Catalog.items = (catalog mixedCatalog).map Catalog.items ∧
      (catalog mixedCatalog).map Catalog.items =
        .ok [⟨"set", "asset", "offer", "", ⟨[⟨"use", []⟩], [], [], none⟩⟩] := by
  have field : ∀ {key key' : String} {v w : Json},
      (∀ t ∈ ruleTerms, key ∉ t.spellings) ∧ SameTerm key key' → Respelled v w →
        RespelledField Respelled (key, v) (key', w) := fun h => .other h.1 h.2
  have hpermission : Respelled (.object [("odrl:action", .string "use")])
      (.ofFields [("action", .string "use")]) :=
    .object (.cons (field (by decide +kernel) (.refl _)) .nil)
  have hoffer : Respelled
      (.object [("@id", .string "offer"),
        ("odrl:permission", .array [.object [("odrl:action", .string "use")]])])
      (.ofFields [("@id", .string "offer"),
        ("permission", .array [.ofFields [("action", .string "use")]])]) :=
    .object (.cons (field (by decide +kernel) (.refl _))
      (.cons (field (by decide +kernel) (.array (.cons hpermission .nil))) .nil))
  have h : Respelled markedCatalog mixedCatalog :=
    .object (.cons (field (by decide +kernel) (.object
      (.cons (field (by decide +kernel) (.refl _)) (.cons (field (by decide +kernel) (.refl _))
        (.cons (field (by decide +kernel) hoffer) .nil))))) .nil)
  have hordered : markedCatalog.EveryNode Dictionary.Ordered := by decide +kernel
  have hone : markedCatalog.EveryNode OneSpelling := by decide +kernel
  refine ⟨h, hordered, hone, respelled_catalog_items h hordered hone, ?_⟩
  unfold catalog dataset offer policy permission
  simp only [constraints_eq_mapM]
  rfl

end LinkedData

end ConsumerConnector
