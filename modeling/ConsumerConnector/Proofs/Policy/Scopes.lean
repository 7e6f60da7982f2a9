import ConsumerConnector.Configuration.Settings

/-!
The scopes of a store, read off the history of its changes. What was added to a scope stands until it
is added there anew or removed, and the scope lists what stands in the order of the additions.
-/

namespace ConsumerConnector.Policy.Store

/-- What changes a store. -/
inductive Change
  | addDefault (p : AcceptedPolicy)
  | add (partner : String) (p : AcceptedPolicy)
  | remove (id : String)

/-- Whom a list of policies is for. -/
inductive Scope
  | everyone
  | partner (name : String)
  deriving DecidableEq

def scope (s : Store) : Scope → List AcceptedPolicy
  | .everyone => s.defaults
  | .partner name => s.own name

namespace Change

def apply (s : Store) : Change → Store
  | addDefault p => s.addDefault p
  | add partner p => s.add partner p
  | remove id => s.remove id

def adds? : Change → Scope → Option AcceptedPolicy
  | addDefault p, .everyone => some p
  | add partner p, .partner name => if name = partner then some p else none
  | _, _ => none

/-- A policy with this id, if the scope has one, stands no longer. -/
def ends (scope : Scope) (id : String) : Change → Bool
  | remove other => other = id
  | c => (c.adds? scope).any (·.id = id)

end Change

/-- The additions to a scope that nothing later has ended. -/
def standing (scope : Scope) : List Change → List AcceptedPolicy
  | [] => []
  | c :: later =>
    match c.adds? scope with
    | some p =>
      if later.any (·.ends scope p.id) then standing scope later else p :: standing scope later
    | none => standing scope later

def replay (defaults : List AcceptedPolicy) (history : List Change) : Store :=
  history.foldl Change.apply (ofDefaults defaults)

variable {s : Store} {sc : Scope} {p : AcceptedPolicy} {id partner : String} {c : Change}
  {history : List Change}

theorem ends_of_adds? (h : c.adds? sc = some p) : c.ends sc p.id := by
  cases c with
  | remove => cases h
  | _ => simp [Change.ends, h]

theorem scope_add_of_ne (s : Store) (p : AcceptedPolicy) (h : sc ≠ .partner partner) :
    (s.add partner p).scope sc = s.scope sc := by
  cases sc with
  | everyone => rfl
  | partner name =>
    have hname : name ≠ partner := fun heq => h (congrArg _ heq)
    simp [scope, own, add, Dictionary.get?_insert, hname]

@[simp] theorem scope_add_self (s : Store) (partner : String) (p : AcceptedPolicy) :
    (s.add partner p).scope (.partner partner) = placed p (s.scope (.partner partner)) := by
  simp [scope, own, add]

/-- A partner that is forgotten has no policies left, so a removal is the same for every scope. -/
@[simp] theorem scope_remove (s : Store) (id : String) (sc : Scope) :
    (s.remove id).scope sc = without id (s.scope sc) := by
  cases sc with
  | everyone => rfl
  | partner name =>
    simp only [scope, own, remove, Dictionary.get?_filter, Dictionary.get?_map]
    cases s.byPartner.get? name with
    | none => rfl
    | some l => cases h : without id l <;> simp [h, Option.filter]

theorem placed_eq_filter (p : AcceptedPolicy) (l : List AcceptedPolicy) :
    placed p l = l.filter (fun q => !decide (p.id = q.id)) ++ [p] := by
  simp [placed, without, eq_comm]

theorem filter_eq_self_of_ends (h : ∀ id, c.ends sc id = false) (l : List AcceptedPolicy) :
    l.filter (fun p => !c.ends sc p.id) = l :=
  List.filter_eq_self.2 fun p _ => by rw [h, Bool.not_false]

/-- What a change leaves of a scope, and what it adds at its end. -/
theorem scope_apply (c : Change) (s : Store) (sc : Scope) :
    (c.apply s).scope sc =
      (s.scope sc).filter (fun p => !c.ends sc p.id) ++ (c.adds? sc).toList := by
  cases c with
  | addDefault p =>
    cases sc with
    | everyone => exact placed_eq_filter p s.defaults
    | partner name =>
      rw [filter_eq_self_of_ends fun _ => rfl]
      exact (List.append_nil _).symm
  | add partner p =>
    by_cases h : sc = .partner partner
    · subst h
      simp [Change.apply, Change.ends, Change.adds?, placed_eq_filter]
    · have hadds : (Change.add partner p).adds? sc = none := by
        cases sc with
        | everyone => rfl
        | partner name => simpa [Change.adds?] using h
      rw [filter_eq_self_of_ends fun _ => by simp [Change.ends, hadds], hadds]
      simpa [Change.apply] using scope_add_of_ne s p h
  | remove id => simp [Change.apply, Change.ends, Change.adds?, without, eq_comm]

theorem standing_concat (sc : Scope) (history : List Change) (c : Change) :
    standing sc (history ++ [c]) =
      (standing sc history).filter (fun p => !c.ends sc p.id) ++ (c.adds? sc).toList := by
  induction history with
  | nil => cases h : c.adds? sc <;> simp [standing, h]
  | cons d later ih =>
    rw [List.cons_append, standing, standing]
    cases d.adds? sc with
    | none => exact ih
    | some p =>
      by_cases hended : later.any (·.ends sc p.id)
      · simp [hended, ih]
      · by_cases hends : c.ends sc p.id <;> simp [hended, hends, ih]

theorem mem_standing {p : AcceptedPolicy} : p ∈ standing sc history ↔
    ∃ before c after, history = before ++ c :: after ∧ c.adds? sc = some p ∧
      ∀ d ∈ after, d.ends sc p.id = false := by
  induction history with
  | nil => simp [standing]
  | cons d later ih =>
    have hcons : p ∈ standing sc (d :: later) ↔
        (d.adds? sc = some p ∧ ∀ d ∈ later, d.ends sc p.id = false) ∨ p ∈ standing sc later := by
      rw [standing]
      cases d.adds? sc with
      | none => simp
      | some q => by_cases hended : later.any (·.ends sc q.id) <;> grind
    rw [hcons, ih]
    constructor
    · rintro (⟨hadds, hlater⟩ | ⟨before, c, after, rfl, hadds, hafter⟩)
      · exact ⟨[], d, later, rfl, hadds, hlater⟩
      · exact ⟨d :: before, c, after, rfl, hadds, hafter⟩
    · rintro ⟨before, c, after, heq, hadds, hafter⟩
      cases before with
      | nil =>
        obtain ⟨rfl, rfl⟩ := List.cons.inj heq
        exact .inl ⟨hadds, hafter⟩
      | cons b before =>
        obtain ⟨rfl, rfl⟩ := List.cons.inj heq
        exact .inr ⟨before, c, after, rfl, hadds, hafter⟩

theorem nodup_ids_standing (sc : Scope) (history : List Change) :
    ((standing sc history).map (·.id)).Nodup := by
  induction history with
  | nil => exact .nil
  | cons c later ih =>
    rw [standing]
    split
    · next p _ =>
      split
      · exact ih
      · next hstands =>
        refine List.nodup_cons.2 ⟨fun hmem => hstands ?_, ih⟩
        obtain ⟨q, hq, hid : q.id = p.id⟩ := List.mem_map.1 hmem
        obtain ⟨before, d, after, rfl, hadds, -⟩ := mem_standing.1 hq
        exact List.any_eq_true.2 ⟨d, by simp, hid ▸ ends_of_adds? hadds⟩
    · exact ih

/-- Defaults with different ids all stand, just as if they had been added one after another. -/
theorem standing_defaults {defaults : List AcceptedPolicy} (h : (defaults.map (·.id)).Nodup)
    (sc : Scope) : standing sc (defaults.map .addDefault) = (ofDefaults defaults).scope sc := by
  induction defaults with
  | nil => cases sc <;> rfl
  | cons p rest ih =>
    obtain ⟨hp, hrest⟩ := List.nodup_cons.1 h
    rw [List.map_cons, standing, ih hrest]
    cases sc with
    | partner => rfl
    | everyone =>
      have hkept : ∀ q ∈ rest, q.id ≠ p.id := by simpa using hp
      simpa [Change.adds?, Change.ends, scope, ofDefaults] using hkept

theorem kept_apply (h : ∀ partner, s.byPartner.get? partner ≠ some []) (c : Change)
    (partner : String) : (c.apply s).byPartner.get? partner ≠ some [] := by
  cases c with
  | addDefault => exact h partner
  | add other p =>
    simp only [Change.apply, add, Dictionary.get?_insert]
    split
    · simp [placed]
    · exact h partner
  | remove id =>
    intro hempty
    simp only [Change.apply, remove, Dictionary.get?_filter] at hempty
    simpa using (Option.filter_eq_some_iff.1 hempty).2

theorem holds_eq_true : s.holds id = true ↔ ∃ sc, ∃ p ∈ s.scope sc, p.id = id := by
  simp only [holds, Bool.or_eq_true, List.any_eq_true, decide_eq_true_eq]
  constructor
  · rintro (⟨p, hp, hid⟩ | ⟨⟨partner, l⟩, hl, p, hp, hid⟩)
    · exact ⟨.everyone, p, hp, hid⟩
    · refine ⟨.partner partner, p, ?_, hid⟩
      rwa [scope, own, Dictionary.mem_entries.1 hl]
  · rintro ⟨sc, p, hp, hid⟩
    cases sc with
    | everyone => exact .inl ⟨p, hp, hid⟩
    | partner partner =>
      rw [scope, own] at hp
      cases hl : s.byPartner.get? partner with
      | none => simp [hl] at hp
      | some l =>
        rw [hl] at hp
        exact .inr ⟨(partner, l), Dictionary.mem_entries.2 hl, p, hp, hid⟩

/-- An id is held when taking it out makes some scope shorter. -/
theorem holds_iff_shortened :
    s.holds id = true ↔ ∃ sc, ((s.remove id).scope sc).length ≠ (s.scope sc).length := by
  simp only [holds_eq_true, scope_remove, without, ne_eq, List.length_filter_eq_length_iff,
    decide_eq_true_eq, Classical.not_forall, Classical.not_not, exists_prop]

/-- A store shows what stands after a history, scope by scope, and changes to it keep to their
scopes. -/
structure Reflects (s : Store) (history : List Change) : Prop where
  scope : ∀ sc, s.scope sc = standing sc history
  stands : ∀ sc p, p ∈ s.scope sc ↔ ∃ before c after, history = before ++ c :: after ∧
    c.adds? sc = some p ∧ ∀ d ∈ after, d.ends sc p.id = false
  once : ∀ sc, ((s.scope sc).map (·.id)).Nodup
  kept : ∀ partner, s.byPartner.get? partner ≠ some []
  policiesFor : ∀ partner,
    s.policiesFor partner = standing .everyone history ++ standing (.partner partner) history
  elsewhere : ∀ partner p sc, sc ≠ .partner partner → (s.add partner p).scope sc = s.scope sc
  removes : ∀ id, s.holds id = true ↔ ∃ sc, ∃ p ∈ s.scope sc, p.id = id
  shortens : ∀ id, s.holds id = true ↔
    ∃ sc, ((s.remove id).scope sc).length ≠ (s.scope sc).length
  gone : ∀ id sc, ∀ p ∈ (s.remove id).scope sc, p.id ≠ id

theorem scope_foldl (h : ∀ sc, s.scope sc = standing sc history) (later : List Change) (sc : Scope) :
    (later.foldl Change.apply s).scope sc = standing sc (history ++ later) := by
  induction later generalizing s history with
  | nil => simp [h]
  | cons c later ih =>
    rw [List.foldl_cons, List.append_cons]
    refine ih fun sc => ?_
    rw [scope_apply, standing_concat, h]

theorem kept_foldl (h : ∀ partner, s.byPartner.get? partner ≠ some []) (later : List Change)
    (partner : String) : (later.foldl Change.apply s).byPartner.get? partner ≠ some [] := by
  induction later generalizing s with
  | nil => exact h partner
  | cons c later ih => exact ih (kept_apply h c)

theorem reflects_of_scope (hscope : ∀ sc, s.scope sc = standing sc history)
    (hkept : ∀ partner, s.byPartner.get? partner ≠ some []) : s.Reflects history where
  scope := hscope
  stands sc p := hscope sc ▸ mem_standing
  once sc := hscope sc ▸ nodup_ids_standing ..
  kept := hkept
  policiesFor partner := by rw [← hscope, ← hscope]; rfl
  elsewhere partner p sc := scope_add_of_ne s p
  removes id := holds_eq_true
  shortens id := holds_iff_shortened
  gone id sc p hp := by
    rw [scope_remove] at hp
    exact of_decide_eq_true (List.mem_filter.1 hp).2

theorem kept_ofDefaults (defaults : List AcceptedPolicy) (partner : String) :
    (ofDefaults defaults).byPartner.get? partner ≠ some [] := by
  simp [ofDefaults, EmptyCollection.emptyCollection]

/-- A store that started from defaults with different ids shows what stands after these and all that
came later. -/
theorem replay_reflects {defaults : List AcceptedPolicy} (h : (defaults.map (·.id)).Nodup)
    (history : List Change) :
    (replay defaults history).Reflects (defaults.map .addDefault ++ history) :=
  reflects_of_scope (scope_foldl (fun sc => (standing_defaults h sc).symm) history)
    (kept_foldl (kept_ofDefaults defaults) history)

def named (id : String) (seconds : Int) : AcceptedPolicy := ⟨id, .ofUnix seconds, none⟩

def seeds : List AcceptedPolicy := [named "a" 1, named "b" 1, named "c" 1]

/-- A default and a policy of a partner are renewed, and the only one of another partner is removed
with the default of the same id. -/
def turnover : List Change :=
  [.add "first" (named "a" 2), .add "first" (named "b" 2), .add "second" (named "c" 2),
    .addDefault (named "a" 3), .add "first" (named "a" 4), .remove "c"]

theorem replay_reflects_turnover :
    (seeds.map (·.id)).Nodup ∧
      standing .everyone (seeds.map .addDefault ++ turnover) = [named "b" 1, named "a" 3] ∧
      standing (.partner "first") (seeds.map .addDefault ++ turnover) =
        [named "b" 2, named "a" 4] ∧
      (replay seeds turnover).byPartner.get? "second" = none := by
  have hids : (seeds.map (·.id)).Nodup := by decide
  have h : (replay seeds turnover).Reflects _ := replay_reflects hids turnover
  exact ⟨hids, (h.scope .everyone).symm.trans rfl, (h.scope (.partner "first")).symm.trans rfl, rfl⟩

/-- The entry of a configuration as a change: for its partner, or else for everyone. -/
def ofEntry (e : Configuration.PolicyEntry) : Change :=
  match e.partner with
  | some partner => .add (Text.trim partner) e.accepted
  | none => .addDefault e.accepted

/-- The store of a configuration shows what stands after its entries. -/
theorem policyStore_reflects (c : Configuration) :
    c.policyStore.Reflects (c.policies.map ofEntry) := by
  have hreplay : c.policyStore = replay [] (c.policies.map ofEntry) := by
    rw [replay, List.foldl_map, Configuration.policyStore]
    congr 1
    funext s e
    unfold ofEntry
    cases e.partner <;> rfl
  have hstart : ∀ sc, (ofDefaults []).scope sc = standing sc [] := fun sc => by cases sc <;> rfl
  rw [hreplay]
  exact reflects_of_scope (scope_foldl hstart _) (kept_foldl (kept_ofDefaults []) _)

end ConsumerConnector.Policy.Store
