import ConsumerConnector.Proofs.Acquisition.Moves

/-!
Runs with all that happens on the way: every step with the state it is taken in, and so every write to
the cache with its author. What the cache has under a key is what was written there last, however many
entries are overwritten, swept out or taken away in between.
-/

namespace ConsumerConnector

namespace Credential.Delivery

/-- What is stored, and where. -/
def target? : Delivery → Option (String × Credential)
  | .body bytes => (Callback.read bytes).toOption.map fun c => (c.contract, c)
  | .stored key c => some (key, c)

theorem apply_eq (d : Delivery) (cache : Cache) (now : Nat) :
    d.apply cache now = d.target?.elim cache fun (key, c) => cache.put key c now := by
  cases d with
  | body bytes =>
    simp only [apply, target?, Callback.handle]
    cases Callback.read bytes <;> rfl
  | stored key c => rfl

end Credential.Delivery

namespace Acquisition

/-- A step, with the state it is taken in. -/
structure Occurrence where
  state : System
  label : Label

/-- What is put into the cache, by a driver or, without an author, by a delivery. -/
structure Write where
  key : String
  credential : Credential
  instant : Nat
  /-- The future whose driver it is. -/
  author : Option Nat

def Write.entry (w : Write) : Credential.Cache.Entry := ⟨w.credential, w.instant⟩

namespace Occurrence

def write? (o : Occurrence) : Option Write :=
  match o.label with
  | .store f =>
    match o.state.futures[f]? with
    | some ⟨key, _, _, _, .storing c⟩ => some ⟨key, c, o.state.instant, some f⟩
    | _ => none
  | .deliver d => d.target?.map fun (key, c) => ⟨key, c, o.state.instant, none⟩
  | _ => none

/-- Takes nothing out of the cache but what a write sweeps out. -/
def Keeps (o : Occurrence) : Prop :=
  o.label ≠ .clear ∧ ∀ key, o.label ≠ .evict key

theorem instant_of_write? {o : Occurrence} {w : Write} (h : o.write? = some w) :
    w.instant = o.state.instant := by
  unfold write? at h
  split at h
  · split at h
    · cases h
      rfl
    · cases h
  · obtain ⟨-, -, rfl⟩ := Option.map_eq_some_iff.1 h
    rfl
  · cases h

end Occurrence

namespace System

inductive History (setup : Setup) (s : System) : List Occurrence → System → Prop
  | nil : History setup s [] s
  | snoc {os : List Occurrence} {t u : System} {l : Label} (h : History setup s os t)
      (hs : t.step setup l = some u) : History setup s (os ++ [⟨t, l⟩]) u

/-- What a history writes under a key last. -/
def lastWrite? (os : List Occurrence) (key : String) : Option Write :=
  (os.filterMap Occurrence.write?).reverse.find? (·.key = key)

variable {setup : Setup} {s s' : System} {l : Label} {os : List Occurrence} {key : String}

theorem mem_of_lastWrite? {w : Write} (h : lastWrite? os key = some w) :
    w ∈ os.filterMap Occurrence.write? :=
  List.mem_reverse.1 (List.mem_of_find?_eq_some h)

theorem key_of_lastWrite? {w : Write} (h : lastWrite? os key = some w) : w.key = key := by
  simpa using List.find?_some h

theorem lastWrite?_concat (os : List Occurrence) (o : Occurrence) (key : String) :
    lastWrite? (os ++ [o]) key = (o.write?.filter (·.key = key)).or (lastWrite? os key) := by
  cases h : o.write? with
  | none => simp [lastWrite?, List.filterMap_append, h]
  | some w =>
    by_cases hk : w.key = key <;>
      simp [lastWrite?, List.filterMap_append, h, hk, Option.filter]

/-- Writes apart, the cache changes only where something is taken out of it. -/
theorem Move.cache_cases (hm : Move setup s l s') :
    (∃ w, (Occurrence.mk s l).write? = some w ∧
      s'.cache = s.cache.put w.key w.credential w.instant) ∨
    ((Occurrence.mk s l).write? = none ∧
      (s'.cache = s.cache ∨ (∃ key, l = .evict key ∧ s'.cache = s.cache.remove key) ∨
        (l = .clear ∧ s'.cache = s.cache.clear))) := by
  cases hm with
  | @store f key _ _ _ c hf =>
    exact .inl ⟨⟨key, c, s.instant, some f⟩, by simp only [Occurrence.write?, hf], rfl⟩
  | deliver d =>
    simp only [Occurrence.write?, Credential.Delivery.apply_eq]
    cases d.target? with
    | none => exact .inr ⟨rfl, .inl rfl⟩
    | some target => exact .inl ⟨_, rfl, rfl⟩
  | evict key => exact .inr ⟨rfl, .inr (.inl ⟨key, rfl, rfl⟩)⟩
  | clear => exact .inr ⟨rfl, .inr (.inr ⟨rfl, rfl⟩)⟩
  | work hl =>
    cases l <;> first | exact .inr ⟨rfl, .inl rfl⟩ | cases hl
  | _ => exact .inr ⟨rfl, .inl rfl⟩

theorem Move.storage_eq (hm : Move setup s l s') : s'.cache.storage = s.cache.storage := by
  rcases hm.cache_cases with ⟨w, -, hc⟩ | ⟨-, hc | ⟨key, -, hc⟩ | ⟨-, hc⟩⟩ <;> rw [hc] <;> rfl

theorem Move.instant_le (hm : Move setup s l s') : s.instant ≤ s'.instant := by
  cases hm with
  | elapse n => exact Nat.le_add_right ..
  | _ => exact Nat.le_refl _

/-- An entry is there already or is just being written. -/
theorem Move.entry_cases (hm : Move setup s l s') {e : Credential.Cache.Entry}
    (he : s'.cache.entries.get? key = some e) :
    (∃ w, (Occurrence.mk s l).write? = some w ∧ w.key = key ∧ e = w.entry) ∨
      ((∀ w, (Occurrence.mk s l).write? = some w → w.key ≠ key) ∧
        s.cache.entries.get? key = some e) := by
  rcases hm.cache_cases with ⟨w, hw, hc⟩ | ⟨hw, hc⟩
  · rw [hc, Credential.Cache.get?_entries_put] at he
    have he := Option.eq_some_of_filter_eq_some he
    split at he
    · next hk => exact .inl ⟨w, hw, hk.symm, (Option.some.inj he).symm⟩
    · next hk =>
      refine .inr ⟨fun w' hw' => ?_, he⟩
      cases hw.symm.trans hw'
      exact Ne.symm hk
  · refine .inr ⟨by simp [hw], ?_⟩
    rcases hc with hc | ⟨key', -, hc⟩ | ⟨-, hc⟩
    · exact hc ▸ he
    · rw [hc, Credential.Cache.remove, Dictionary.get?_erase] at he
      split at he
      · cases he
      · exact he
    · rw [hc] at he
      cases he

namespace History

theorem trans {s t u : System} {os os' : List Occurrence} (h : History setup s os t)
    (h' : History setup t os' u) : History setup s (os ++ os') u := by
  induction h' with
  | nil => rwa [List.append_nil]
  | snoc _ hs ih =>
    rw [← List.append_assoc]
    exact .snoc ih hs

theorem runs {s t : System} (h : History setup s os t) : Runs setup (fun _ _ _ => True) s t := by
  induction h with
  | nil => exact .refl
  | snoc _ hs ih => exact .tail ih hs trivial

theorem of_run? {s t : System} {ls : List Label} (h : s.run? setup ls = some t) :
    ∃ os, os.map Occurrence.label = ls ∧ History setup s os t := by
  induction ls generalizing s with
  | nil =>
    cases h
    exact ⟨[], rfl, .nil⟩
  | cons l ls ih =>
    obtain ⟨u, hu, hrest⟩ := Option.bind_eq_some_iff.1 h
    obtain ⟨os, rfl, hos⟩ := ih hrest
    exact ⟨⟨s, l⟩ :: os, rfl, (History.snoc .nil hu).trans hos⟩

/-- A run with one of its steps told apart. -/
theorem of_run?_amid (setup : Setup) (s : System) (ls : List Label) (l : Label) (ls' : List Label)
    {s₁ u₁ t : System} (h : s.run? setup ls = some s₁) (hl : s₁.step setup l = some u₁)
    (h' : u₁.run? setup ls' = some t) :
    ∃ before after, (before ++ ⟨s₁, l⟩ :: after).map Occurrence.label = ls ++ l :: ls' ∧
      History setup s (before ++ ⟨s₁, l⟩ :: after) t := by
  obtain ⟨before, rfl, hbefore⟩ := of_run? h
  obtain ⟨after, rfl, hafter⟩ := of_run? h'
  exact ⟨before, after, by simp, by simpa using (hbefore.snoc hl).trans hafter⟩

theorem instant_le {t : System} (h : History setup s os t) : s.instant ≤ t.instant := by
  induction h with
  | nil => exact Nat.le_refl _
  | snoc _ hs ih => exact Nat.le_trans ih (Move.of_step hs).instant_le

theorem instant_le_of_mem {t : System} {o : Occurrence} (h : History setup s os t) (ho : o ∈ os) :
    o.state.instant ≤ t.instant := by
  induction h with
  | nil => cases ho
  | snoc _ hs ih =>
    refine Nat.le_trans ?_ (Move.of_step hs).instant_le
    rcases List.mem_append.1 ho with ho | ho
    · exact ih ho
    · cases List.mem_singleton.1 ho
      exact Nat.le_refl _

theorem storage_eq {t : System} (h : History setup s os t) : t.cache.storage = s.cache.storage := by
  induction h with
  | nil => rfl
  | snoc _ hs ih => exact (Move.of_step hs).storage_eq.trans ih

/-- A history can be taken apart at every step. -/
theorem split {t : System} {os' : List Occurrence} {o : Occurrence}
    (h : History setup s (os ++ o :: os') t) :
    History setup s os o.state ∧
      ∃ u, o.state.step setup o.label = some u ∧ History setup u os' t := by
  generalize hall : os ++ o :: os' = all at h
  induction h generalizing os' with
  | nil => simp at hall
  | @snoc all v w l h hs ih =>
    rcases List.eq_nil_or_concat os' with rfl | ⟨init, last, rfl⟩
    · obtain ⟨rfl, heq⟩ := List.append_inj' hall rfl
      cases heq
      exact ⟨h, w, hs, .nil⟩
    · have hall : (os ++ o :: init) ++ [last] = all ++ [⟨v, l⟩] := by simpa using hall
      obtain ⟨hinit, heq⟩ := List.append_inj' hall rfl
      cases heq
      obtain ⟨hbefore, u, hu, hafter⟩ := ih hinit
      exact ⟨hbefore, u, hu, List.concat_eq_append ▸ hafter.snoc hs⟩

/-- What the cache has under a key was written there last. -/
theorem lastWrite?_of_entry {storage : Nat} (h : History setup (start storage) os s)
    {e : Credential.Cache.Entry} (he : s.cache.entries.get? key = some e) :
    ∃ w, lastWrite? os key = some w ∧ e = w.entry := by
  induction h generalizing e with
  | nil => cases he
  | snoc _ hs ih =>
    rw [lastWrite?_concat]
    rcases (Move.of_step hs).entry_cases he with ⟨w, hw, hk, hentry⟩ | ⟨hother, he⟩
    · exact ⟨w, by simp [hw, hk, Option.filter], hentry⟩
    · obtain ⟨w, hlast, hentry⟩ := ih he
      refine ⟨w, ?_, hentry⟩
      rw [Option.filter_eq_none_iff.2 (by simpa using hother), Option.none_or, hlast]

end History

end System

end Acquisition

end ConsumerConnector
