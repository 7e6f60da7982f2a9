import ConsumerConnector.Credential.Token

/-!
Credentials kept for a while. Every put first stores and then sweeps out what has been there longer
than the storage duration, so what was just stored always stays.
-/

namespace ConsumerConnector.Credential

/-- What a stored credential is good for. -/
inductive Status
  | valid (c : Credential)
  | expired (c : Credential)
  | requiredNew

def Status.label : Status → String
  | valid _ => "valid"
  | expired _ => "expired"
  | requiredNew => "required_new"

def Status.credential? : Status → Option Credential
  | valid c | expired c => some c
  | requiredNew => none

/-- Without a token a credential is of no use, and a token that cannot be read counts as expired. -/
def status (c : Credential) (now : Timestamp) : Status :=
  match c.authCode with
  | none => .requiredNew
  | some _ =>
    match c.claims? with
    | some claims => if claims.isValidAt now then .valid c else .expired c
    | none => .expired c

theorem eq_of_status {c d : Credential} {now : Timestamp} (h : c.status now = .valid d) : c = d := by
  unfold status at h
  repeat' split at h
  all_goals cases h
  rfl

structure Cache.Entry where
  credential : Credential
  storedAt : Nat

/-- Instants are counted from an arbitrary start by a clock that never runs backwards. -/
structure Cache where
  entries : Dictionary Cache.Entry
  storage : Nat

namespace Cache

def empty (storage : Nat) : Cache := ⟨∅, storage⟩

def put (cache : Cache) (key : String) (c : Credential) (now : Nat) : Cache :=
  { cache with
    entries := (cache.entries.insert key ⟨c, now⟩).filter fun _ e => now - e.storedAt ≤ cache.storage }

theorem get?_entries_put (cache : Cache) (key : String) (c : Credential) (now : Nat) (k : String) :
    (cache.put key c now).entries.get? k =
      (if k = key then some ⟨c, now⟩ else cache.entries.get? k).filter
        fun e => now - e.storedAt ≤ cache.storage := by
  rw [put, Dictionary.get?_filter, Dictionary.get?_insert]

def get? (cache : Cache) (key : String) : Option Credential :=
  (cache.entries.get? key).map (·.credential)

/-- Even where nothing is kept any time, what was just stored is there. -/
theorem get?_put_self (cache : Cache) (key : String) (c : Credential) (now : Nat) :
    (cache.put key c now).get? key = some c := by
  rw [get?, get?_entries_put, if_pos rfl, Option.filter_some_pos (by simp), Option.map_some]

def storedSince? (cache : Cache) (key : String) (since : Nat) : Option Credential :=
  ((cache.entries.get? key).filter fun e => since ≤ e.storedAt).map (·.credential)

theorem storedSince?_eq_some {cache : Cache} {key : String} {since : Nat} {c : Credential} :
    cache.storedSince? key since = some c ↔
      ∃ instant, cache.entries.get? key = some ⟨c, instant⟩ ∧ since ≤ instant := by
  simp only [storedSince?, Option.map_eq_some_iff, Option.filter_eq_some_iff, decide_eq_true_eq]
  constructor
  · rintro ⟨e, ⟨he, hsince⟩, rfl⟩
    exact ⟨e.storedAt, he, hsince⟩
  · rintro ⟨instant, he, hsince⟩
    exact ⟨_, ⟨he, hsince⟩, rfl⟩

def remove (cache : Cache) (key : String) : Cache :=
  { cache with entries := cache.entries.erase key }

def clear (cache : Cache) : Cache :=
  { cache with entries := ∅ }

def size (cache : Cache) : Nat :=
  cache.entries.size

def classify (cache : Cache) (key : String) (now : Timestamp) : Status :=
  match cache.get? key with
  | none => .requiredNew
  | some c => c.status now

theorem get?_of_classify {cache : Cache} {key : String} {now : Timestamp} {c : Credential}
    (h : cache.classify key now = .valid c) : cache.get? key = some c := by
  unfold classify at h
  split at h
  · cases h
  · next hget => rw [hget, eq_of_status h]

end Cache

end ConsumerConnector.Credential
