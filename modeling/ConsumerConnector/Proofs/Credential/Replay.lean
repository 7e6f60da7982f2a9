import ConsumerConnector.Credential.Cache
import Mathlib.Data.List.Induction

/-!
What a cache holds, read off the history of what was done to it. A credential stands as long as nobody
touches its key and no put comes more than the storage duration after it; lookups, which change
nothing, tell exactly what stands.
-/

namespace ConsumerConnector.Credential

/-- The token of a credential can be read, and it expires after a time. -/
def Unexpired (c : Credential) (now : Timestamp) : Prop :=
  ∃ claims, c.claims? = some claims ∧ (Timestamp.ofUnix claims.expiry).isAfter now

theorem Claims.isValidAt_eq_isAfter (claims : Claims) (now : Timestamp) :
    claims.isValidAt now = (Timestamp.ofUnix claims.expiry).isAfter now := by
  have hsecond : 0 < Timestamp.second := by decide
  have hinstant : (Timestamp.ofUnix claims.expiry).instant = claims.expiry * Timestamp.second := by
    simp [Timestamp.ofUnix, Timestamp.instant]
  simp only [isValidAt, Timestamp.isAfter, Timestamp.unix, hinstant, Int.ediv_lt_iff_lt_mul hsecond]

theorem status_cases (c : Credential) (now : Timestamp) :
    (c.status now = .requiredNew ∧ c.authCode = none ∧ ¬ c.Unexpired now) ∨
      (c.status now = .valid c ∧ c.authCode ≠ none ∧ c.Unexpired now) ∨
      (c.status now = .expired c ∧ c.authCode ≠ none ∧ ¬ c.Unexpired now) := by
  unfold status Unexpired
  simp only [← Claims.isValidAt_eq_isAfter]
  cases hcode : c.authCode with
  | none => simp [claims?, hcode]
  | some code =>
    cases hclaims : c.claims? with
    | none => simp
    | some claims => cases hvalid : claims.isValidAt now <;> simp [hvalid]

theorem status_eq_requiredNew {c : Credential} {now : Timestamp} :
    c.status now = .requiredNew ↔ c.authCode = none := by
  rcases c.status_cases now with ⟨hs, hc, -⟩ | ⟨hs, hc, -⟩ | ⟨hs, hc, -⟩ <;> simp [hs, hc]

theorem status_eq_valid {c d : Credential} {now : Timestamp} :
    c.status now = .valid d ↔ c = d ∧ d.Unexpired now := by
  rcases c.status_cases now with ⟨hs, -, hu⟩ | ⟨hs, -, hu⟩ | ⟨hs, -, hu⟩ <;> rw [hs] <;> grind

theorem status_eq_expired {c d : Credential} {now : Timestamp} :
    c.status now = .expired d ↔ c = d ∧ d.authCode ≠ none ∧ ¬ d.Unexpired now := by
  rcases c.status_cases now with ⟨hs, hc, hu⟩ | ⟨hs, hc, hu⟩ | ⟨hs, hc, hu⟩ <;> rw [hs] <;> grind

namespace Cache

theorem classify_eq_requiredNew {cache : Cache} {key : String} {now : Timestamp} :
    cache.classify key now = .requiredNew ↔ ∀ c, cache.get? key = some c → c.authCode = none := by
  unfold classify
  cases cache.get? key <;> simp [status_eq_requiredNew]

theorem classify_eq_valid {cache : Cache} {key : String} {now : Timestamp} {c : Credential} :
    cache.classify key now = .valid c ↔ cache.get? key = some c ∧ c.Unexpired now := by
  unfold classify
  cases cache.get? key <;> simp [status_eq_valid]

theorem classify_eq_expired {cache : Cache} {key : String} {now : Timestamp} {c : Credential} :
    cache.classify key now = .expired c ↔
      cache.get? key = some c ∧ c.authCode ≠ none ∧ ¬ c.Unexpired now := by
  unfold classify
  cases cache.get? key <;> simp [status_eq_expired]

/-- What changes a cache. -/
inductive Change
  | put (key : String) (c : Credential)
  | remove (key : String)
  | clear

/-- A change at an instant. -/
structure Step where
  change : Change
  instant : Nat

namespace Step

def apply (cache : Cache) : Step → Cache
  | ⟨.put key c, instant⟩ => cache.put key c instant
  | ⟨.remove key, _⟩ => cache.remove key
  | ⟨.clear, _⟩ => cache.clear

def put? : Step → Option Nat
  | ⟨.put .., instant⟩ => some instant
  | _ => none

/-- Writes or takes away what is under a key. -/
def Touches (key : String) : Step → Prop
  | ⟨.put k _, _⟩ | ⟨.remove k, _⟩ => k = key
  | ⟨.clear, _⟩ => True

end Step

def replay (storage : Nat) (history : List Step) : Cache :=
  history.foldl Step.apply (empty storage)

/-- The instant of the latest put of any key. -/
def latestPut? (history : List Step) : Option Nat :=
  (history.filterMap Step.put?).getLast?

/-- A credential was put last under a key, nobody has taken it away since, and the latest put after it
was in time. -/
def Stands (storage : Nat) (history : List Step) (key : String) (c : Credential) (instant : Nat) :
    Prop :=
  ∃ before after, history = before ++ ⟨.put key c, instant⟩ :: after ∧
    (∀ s ∈ after, ¬ s.Touches key) ∧ ∀ later ∈ latestPut? after, later ≤ instant + storage

/-- The clock never runs backwards. -/
def Timely (history : List Step) : Prop :=
  history.Pairwise fun s t => s.instant ≤ t.instant

variable {storage : Nat} {history : List Step} {key : String} {c : Credential} {instant : Nat}

theorem replay_concat (storage : Nat) (history : List Step) (s : Step) :
    replay storage (history ++ [s]) = s.apply (replay storage history) := by
  simp [replay]

theorem storage_apply (cache : Cache) (s : Step) : (s.apply cache).storage = cache.storage := by
  obtain ⟨change, instant⟩ := s
  cases change <;> rfl

@[simp] theorem storage_replay (storage : Nat) (history : List Step) :
    (replay storage history).storage = storage := by
  induction history using List.reverseRecOn with
  | nil => rfl
  | append_singleton history s ih => rw [replay_concat, storage_apply, ih]

theorem latestPut?_concat (history : List Step) (s : Step) :
    latestPut? (history ++ [s]) = s.put?.or (latestPut? history) := by
  cases h : s.put? <;> simp [latestPut?, List.filterMap_append, h]

theorem instant_of_put? {s : Step} (h : s.put? = some instant) : s.instant = instant := by
  obtain ⟨change, _⟩ := s
  cases change <;> cases h
  rfl

theorem le_of_latestPut? {s : Step} (h : Timely (history ++ [s])) {part : List Step}
    (hpart : part ⊆ history) {n : Nat} (hn : latestPut? part = some n) : n ≤ s.instant := by
  obtain ⟨t, ht, hput⟩ := List.mem_filterMap.1 (List.mem_of_getLast? hn)
  rw [← instant_of_put? hput]
  exact (List.pairwise_append.1 h).2.2 t (hpart ht) s (List.mem_singleton.2 rfl)

/-- What stands after a step has just been put, or it stood before and the step does it no harm. -/
theorem stands_concat {s : Step} (h : Timely (history ++ [s])) :
    Stands storage (history ++ [s]) key c instant ↔
      s = ⟨.put key c, instant⟩ ∨ Stands storage history key c instant ∧ ¬ s.Touches key ∧
        ∀ later ∈ s.put?, later ≤ instant + storage := by
  constructor
  · rintro ⟨before, after, heq, huntouched, htimely⟩
    rcases List.eq_nil_or_concat after with rfl | ⟨after, last, rfl⟩
    · obtain ⟨-, heq⟩ := List.append_inj' heq rfl
      exact .inl (List.singleton_inj.1 heq)
    · have heq : history ++ [s] = (before ++ ⟨.put key c, instant⟩ :: after) ++ [last] := by
        simpa using heq
      obtain ⟨rfl, hlast⟩ := List.append_inj' heq rfl
      obtain rfl := List.singleton_inj.1 hlast
      simp only [List.concat_eq_append, latestPut?_concat] at huntouched htimely
      refine .inr ⟨⟨before, after, rfl, fun t ht => huntouched t (by simp [ht]), fun n hn => ?_⟩,
        huntouched s (by simp), fun n hn => htimely n ?_⟩
      · cases hput : s.put? with
        | none => exact htimely n (by simpa [hput] using hn)
        | some later =>
          have hearlier : n ≤ s.instant := le_of_latestPut? h (fun t ht => by simp [ht]) hn
          rw [instant_of_put? hput] at hearlier
          exact Nat.le_trans hearlier (htimely later (by simp [hput]))
      · simp [Option.mem_def.1 hn]
  · rintro (rfl | ⟨⟨before, after, rfl, huntouched, htimely⟩, hs, hlater⟩)
    · exact ⟨history, [], rfl, nofun, nofun⟩
    · refine ⟨before, after ++ [s], by simp, ?_, fun n hn => ?_⟩
      · simpa [or_imp, forall_and] using ⟨huntouched, hs⟩
      · rw [latestPut?_concat] at hn
        cases hput : s.put? with
        | none => exact htimely n (by simpa [hput] using hn)
        | some later => exact hlater n (by simpa [hput] using hn)

/-- The entries of a cache are what stands. -/
theorem get?_entries_replay (h : Timely history) :
    (replay storage history).entries.get? key = some ⟨c, instant⟩ ↔
      Stands storage history key c instant := by
  induction history using List.reverseRecOn generalizing key c instant with
  | nil => simp [replay, empty, Stands, EmptyCollection.emptyCollection]
  | append_singleton history s ih =>
    rw [replay_concat, stands_concat h]
    replace ih := fun key c instant => @ih key c instant (List.pairwise_append.1 h).1
    obtain ⟨change, now⟩ := s
    cases change with
    | put k d =>
      rw [Step.apply, get?_entries_put, storage_replay]
      by_cases hk : key = k
      · subst hk
        simp [Step.Touches, Option.filter_some_pos, eq_comm]
      · have hnever : (⟨.put k d, now⟩ : Step) ≠ ⟨.put key c, instant⟩ := by simp [Ne.symm hk]
        rw [if_neg hk, Option.filter_eq_some_iff, ih]
        simp [Step.Touches, Step.put?, Ne.symm hk, hnever, Nat.sub_le_iff_le_add, Nat.add_comm]
    | remove k =>
      rw [Step.apply, remove, Dictionary.get?_erase]
      by_cases hk : key = k
      · simp [Step.Touches, hk]
      · simp [Step.Touches, Step.put?, hk, Ne.symm hk, ih]
    | clear => simp [Step.apply, Cache.clear, Step.Touches, EmptyCollection.emptyCollection]

/-- Every lookup in a cache goes by what stands after a history. -/
structure Agrees (cache : Cache) (storage : Nat) (history : List Step) : Prop where
  get : ∀ key c, cache.get? key = some c ↔ ∃ instant, Stands storage history key c instant
  storedSince : ∀ key since c, cache.storedSince? key since = some c ↔
    ∃ instant, Stands storage history key c instant ∧ since ≤ instant
  size : ∃ keys : List String, keys.Nodup ∧
    (∀ key, key ∈ keys ↔ ∃ c instant, Stands storage history key c instant) ∧
    cache.size = keys.length
  requiredNew : ∀ key now, cache.classify key now = .requiredNew ↔
    ∀ c instant, Stands storage history key c instant → c.authCode = none
  valid : ∀ key now c, cache.classify key now = .valid c ↔
    (∃ instant, Stands storage history key c instant) ∧ c.Unexpired now
  expired : ∀ key now c, cache.classify key now = .expired c ↔
    (∃ instant, Stands storage history key c instant) ∧ c.authCode ≠ none ∧ ¬ c.Unexpired now

theorem get?_replay (h : Timely history) :
    (replay storage history).get? key = some c ↔
      ∃ instant, Stands storage history key c instant := by
  simp only [get?, Option.map_eq_some_iff, ← get?_entries_replay h]
  constructor
  · rintro ⟨e, he, rfl⟩
    exact ⟨e.storedAt, he⟩
  · rintro ⟨instant, he⟩
    exact ⟨_, he, rfl⟩

/-- After any history of puts, removals and clearings a cache holds what stands, and no lookup tells
anything else. -/
theorem replay_agrees (storage : Nat) (h : Timely history) :
    (replay storage history).Agrees storage history := by
  have hget : ∀ key c, (replay storage history).get? key = some c ↔
      ∃ instant, Stands storage history key c instant := fun _ _ => get?_replay h
  constructor
  case get => exact hget
  case storedSince =>
    intro key since c
    simp only [storedSince?_eq_some, get?_entries_replay h]
  case size =>
    refine ⟨_, (replay storage history).entries.nodup_keys, fun key => ?_, ?_⟩
    · simp only [Dictionary.mem_keys, ← hget, Option.isSome_iff_exists, Cache.get?,
        Option.map_eq_some_iff]
      constructor
      · rintro ⟨e, he⟩
        exact ⟨_, e, he, rfl⟩
      · rintro ⟨-, e, he, -⟩
        exact ⟨e, he⟩
    · simp [Cache.size, Dictionary.size, Dictionary.keys]
  case requiredNew =>
    intro key now
    simp only [classify_eq_requiredNew, hget]
    constructor
    · intro h c instant hc
      exact h c ⟨instant, hc⟩
    · rintro h c ⟨instant, hc⟩
      exact h c instant hc
  case valid =>
    intro key now c
    rw [classify_eq_valid, hget]
  case expired =>
    intro key now c
    rw [classify_eq_expired, hget]

/-- Its token expires at the second after the start of the epoch. -/
def brief (id : String) : Credential :=
  ⟨id, "contract", "https://data", "Authorization", some "h.eyJleHAiOjF9.s", ∅⟩

/-- The last put sweeps out `other`, which is too old by one instant, but not `renewed`, which is just
as old as it may be since it was put again. -/
def renewal : List Step :=
  [⟨.put "renewed" (brief "first"), 0⟩, ⟨.put "other" (brief "other"), 2⟩,
    ⟨.put "renewed" (brief "second"), 3⟩, ⟨.put "taken" (brief "taken"), 3⟩, ⟨.remove "taken", 4⟩,
    ⟨.put "last" (brief "last"), 8⟩]

theorem replay_agrees_renewal :
    Timely renewal ∧
      (∃ instant, Stands 5 renewal "renewed" (brief "second") instant ∧ 3 ≤ instant) ∧
      (∀ c instant, ¬ Stands 5 renewal "other" c instant) ∧
      (∀ c instant, ¬ Stands 5 renewal "taken" c instant) ∧
      (brief "second").Unexpired (.ofUnix 0) ∧ ¬ (brief "second").Unexpired (.ofUnix 1) := by
  have htimely : Timely renewal := by simp [Timely, renewal]
  have h := replay_agrees 5 htimely
  have hnone : ∀ key, (replay 5 renewal).get? key = none →
      ∀ c instant, ¬ Stands 5 renewal key c instant := by
    intro key hkey c instant hs
    cases hkey.symm.trans ((h.get key c).2 ⟨instant, hs⟩)
  exact ⟨htimely, (h.storedSince "renewed" 3 _).1 rfl, hnone "other" rfl, hnone "taken" rfl,
    ((h.valid "renewed" (.ofUnix 0) _).1 rfl).2, ((h.expired "renewed" (.ofUnix 1) _).1 rfl).2.2⟩

end Cache

end ConsumerConnector.Credential
