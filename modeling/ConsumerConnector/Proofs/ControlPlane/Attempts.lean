import ConsumerConnector.ControlPlane.Retry
import ConsumerConnector.ControlPlane.Script
import Mathlib.Order.Bounds.Basic
import Mathlib.Order.Nat

/-!
What repeated calls come to. A plane decides what a call made again and again comes to each time; a
policy only says how often it may be made, and the first outcome that settles the matter is the result.
-/

namespace ConsumerConnector

/-- No further attempt would change it. -/
def Settles {α : Type} (r : Except TransportError α) : Prop :=
  ∀ e, r = .error e → e.isRetryable = false

theorem not_settles_iff {α : Type} {r : Except TransportError α} :
    ¬ Settles r ↔ ∃ e, r = .error e ∧ e.isRetryable = true := by
  simp [Settles]

namespace Plane

variable {σ : Type} {p : Plane σ} {policy : RetryPolicy} {host : String} {c : Call} {s : σ}
  {n k left : Nat}

/-- The state once a call has been made so many times. -/
def stateAfter (p : Plane σ) (c : Call) (s : σ) (n : Nat) : σ :=
  (fun s => (p c s).2)^[n] s

/-- What a call comes to once it has been made so many times. -/
def outcome (p : Plane σ) (c : Call) (s : σ) (n : Nat) : c.Reply :=
  (p c (p.stateAfter c s n)).1

theorem stateAfter_add : p.stateAfter c s (n + k) = p.stateAfter c (p.stateAfter c s n) k := by
  rw [Nat.add_comm]
  exact Function.iterate_add_apply _ k n s

theorem outcome_add : p.outcome c s (n + k) = p.outcome c (p.stateAfter c s n) k := by
  rw [outcome, stateAfter_add]
  rfl

theorem stateAfter_recorded (calls : List Call) :
    p.recorded.stateAfter c (s, calls) n = (p.stateAfter c s n, List.replicate n c ++ calls) := by
  induction n generalizing s calls with
  | zero => rfl
  | succ n ih =>
    calc
      p.recorded.stateAfter c (s, calls) (n + 1)
      _ = p.recorded.stateAfter c ((p c s).2, c :: calls) n := rfl
      _ = (p.stateAfter c (p c s).2 n, List.replicate n c ++ c :: calls) := ih _
      _ = (p.stateAfter c s (n + 1), List.replicate (n + 1) c ++ calls) := by
        rw [List.replicate_succ', List.append_assoc]
        rfl

theorem outcome_recorded (calls : List Call) :
    p.recorded.outcome c (s, calls) n = p.outcome c s n := by
  rw [outcome, stateAfter_recorded]
  rfl

theorem attempt_of_settles (h : Settles (p.outcome c s 0)) :
    p.attempt policy host c n left s = ⟨p.outcome c s 0, p.stateAfter c s 1, []⟩ := by
  change Settles (p c s).1 at h
  change _ = Attempts.mk (p c s).1 (p c s).2 []
  unfold attempt
  generalize p c s = reply at h ⊢
  match reply with
  | (.ok a, s') => rfl
  | (.error e, s') =>
    have hfinal : e.isRetryable = false := h e rfl
    simp [hfinal]

theorem attempt_of_exhausted {e : TransportError} (h : p.outcome c s 0 = .error e)
    (hretry : e.isRetryable = true) :
    p.attempt policy host c n 0 s =
      ⟨.error (.retriesExhausted host n e), p.stateAfter c s 1, []⟩ := by
  change (p c s).1 = _ at h
  change _ = Attempts.mk _ (p c s).2 []
  unfold attempt
  generalize p c s = reply at h ⊢
  obtain ⟨_, s'⟩ := reply
  obtain rfl := h
  simp [hretry]

theorem attempt_of_open (h : ¬ Settles (p.outcome c s 0)) :
    p.attempt policy host c n (left + 1) s =
      let later := p.attempt policy host c (n + 1) left (p.stateAfter c s 1)
      { later with pauses := policy.delay n :: later.pauses } := by
  obtain ⟨e, he, hretry⟩ := not_settles_iff.1 h
  change (p c s).1 = _ at he
  have hstate : p.stateAfter c s 1 = (p c s).2 := rfl
  rw [hstate, attempt]
  generalize p c s = reply at he ⊢
  obtain ⟨_, s'⟩ := reply
  obtain rfl := he
  simp [hretry]

/-- As long as no outcome settles the matter, the call is attempted again after the next pause. -/
theorem attempt_add (h : ∀ i < k, ¬ Settles (p.outcome c s i)) (left : Nat) :
    p.attempt policy host c n (k + left) s =
      let later := p.attempt policy host c (n + k) left (p.stateAfter c s k)
      { later with pauses := (List.range k).map (fun i => policy.delay (n + i)) ++ later.pauses } := by
  induction k generalizing left with
  | zero => simp [stateAfter]
  | succ k ih =>
    have hlast : ¬ Settles (p.outcome c (p.stateAfter c s k) 0) := by
      rw [← outcome_add]
      exact h k (Nat.lt_succ_self k)
    rw [Nat.add_assoc, Nat.add_comm 1 left, ih (fun i hi => h i (Nat.lt_succ_of_lt hi)),
      attempt_of_open hlast, ← stateAfter_add, List.range_succ]
    simp [Nat.add_assoc]

/-- The outcomes decide how often the call is made: up to the first that settles the matter, if the policy
allows that many attempts. -/
theorem attempts_of_settles (p : Plane σ) (policy : RetryPolicy) (host : String) (c : Call) (s : σ)
    (h : IsLeast {i | Settles (p.outcome c s i)} n)
    (hn : n < policy.attempts) :
    p.attempts policy host c s = ⟨p.outcome c s n, p.stateAfter c s (n + 1),
      (List.range n).map fun i => policy.delay (i + 1)⟩ := by
  have hopen : ∀ i < n, ¬ Settles (p.outcome c s i) :=
    fun i hi hsettles => Nat.not_le_of_lt hi (h.2 hsettles)
  have hlast : Settles (p.outcome c (p.stateAfter c s n) 0) := by
    rw [← outcome_add]
    exact h.1
  have hleft : policy.attempts - 1 = n + (policy.attempts - 1 - n) := by omega
  rw [attempts, hleft, attempt_add hopen, attempt_of_settles hlast, ← outcome_add, ← stateAfter_add]
  simp [Nat.add_comm]

theorem attempts_of_open (p : Plane σ) (policy : RetryPolicy) (host : String) (c : Call) (s : σ)
    (h : ∀ i < policy.attempts, ¬ Settles (p.outcome c s i)) :
    ∃ e, p.outcome c s (policy.attempts - 1) = .error e ∧
      p.attempts policy host c s =
        ⟨.error (.retriesExhausted host policy.attempts e), p.stateAfter c s policy.attempts,
          (List.range (policy.attempts - 1)).map fun i => policy.delay (i + 1)⟩ := by
  have hpos : policy.attempts = 1 + (policy.attempts - 1) := by
    have hle : 1 ≤ policy.attempts := Nat.le_max_left ..
    omega
  obtain ⟨e, he, hretry⟩ := not_settles_iff.1 (h (policy.attempts - 1) (by omega))
  refine ⟨e, he, ?_⟩
  have hlast : p.outcome c (p.stateAfter c s (policy.attempts - 1)) 0 = .error e := by
    rw [← outcome_add]
    exact he
  have hadd : p.attempt policy host c 1 (policy.attempts - 1 + 0) s = _ :=
    attempt_add (fun i hi => h i (by omega)) 0
  rw [attempts, ← Nat.add_zero (policy.attempts - 1), hadd, attempt_of_exhausted hlast hretry,
    ← stateAfter_add, ← hpos, Nat.add_comm _ 1, ← hpos]
  simp [Nat.add_comm]

theorem recorded_attempts_of_settles (p : Plane σ) (policy : RetryPolicy) (host : String) (c : Call)
    (s : σ) (h : IsLeast {i | Settles (p.outcome c s i)} n) (hn : n < policy.attempts) :
    p.recorded.attempts policy host c (s, []) =
      ⟨p.outcome c s n, (p.stateAfter c s (n + 1), List.replicate (n + 1) c),
        (List.range n).map fun i => policy.delay (i + 1)⟩ := by
  have hleast : IsLeast {i | Settles (p.recorded.outcome c (s, []) i)} n := by
    simpa only [outcome_recorded] using h
  rw [attempts_of_settles p.recorded policy host c (s, []) hleast hn, outcome_recorded,
    stateAfter_recorded, List.append_nil]

theorem recorded_attempts_of_open (p : Plane σ) (policy : RetryPolicy) (host : String) (c : Call)
    (s : σ) (h : ∀ i < policy.attempts, ¬ Settles (p.outcome c s i)) :
    ∃ e, p.outcome c s (policy.attempts - 1) = .error e ∧
      p.recorded.attempts policy host c (s, []) =
        ⟨.error (.retriesExhausted host policy.attempts e),
          (p.stateAfter c s policy.attempts, List.replicate policy.attempts c),
          (List.range (policy.attempts - 1)).map fun i => policy.delay (i + 1)⟩ := by
  have hopen : ∀ i < policy.attempts, ¬ Settles (p.recorded.outcome c (s, []) i) := by
    simpa only [outcome_recorded] using h
  obtain ⟨e, he, hrun⟩ := attempts_of_open p.recorded policy host c (s, []) hopen
  rw [outcome_recorded] at he
  rw [stateAfter_recorded, List.append_nil] at hrun
  exact ⟨e, he, hrun⟩

/-- There is a pause after every call but the last, whatever the calls come to. -/
theorem pauses_recorded_attempts (p : Plane σ) (policy : RetryPolicy) (host : String) (c : Call)
    (s : σ) :
    let run := p.recorded.attempts policy host c (s, [])
    run.pauses = (List.range (run.state.2.length - 1)).map fun i => policy.delay (i + 1) := by
  classical
  by_cases h : ∃ i, i < policy.attempts ∧ Settles (p.outcome c s i)
  · obtain ⟨i, hi, hsettled⟩ := h
    have hleast : IsLeast {i | Settles (p.outcome c s i)} _ := Nat.isLeast_find ⟨i, hsettled⟩
    have hn := Nat.lt_of_le_of_lt (hleast.2 hsettled) hi
    simp [recorded_attempts_of_settles p policy host c s hleast hn]
  · obtain ⟨e, -, hrun⟩ := recorded_attempts_of_open p policy host c s (by simpa using h)
    simp [hrun]

/-- There is a second call exactly if the first one leaves the matter open. -/
theorem called_again_iff (p : Plane σ) (policy : RetryPolicy) (host : String) (c : Call) (s : σ)
    (h : 1 < policy.attempts) :
    1 < (p.recorded.attempts policy host c (s, [])).state.2.length ↔
      ¬ Settles (p.outcome c s 0) := by
  have hpauses := congrArg List.length (p.pauses_recorded_attempts policy host c s)
  simp only [List.length_map, List.length_range] at hpauses
  have hpaused : 1 < (p.recorded.attempts policy host c (s, [])).state.2.length ↔
      0 < (p.recorded.attempts policy host c (s, [])).pauses.length := by omega
  obtain ⟨left, hleft⟩ := Nat.exists_eq_succ_of_ne_zero (Nat.sub_ne_zero_of_lt h)
  rw [hpaused, ← outcome_recorded [], attempts, hleft]
  by_cases hfirst : Settles (p.recorded.outcome c (s, []) 0)
  · simp [attempt_of_settles hfirst, hfirst]
  · simp [attempt_of_open hfirst, hfirst]

theorem toNat_add_one {n : UInt32} (h : n.toNat + 1 < UInt32.size) : (n + 1).toNat = n.toNat + 1 := by
  rw [UInt32.toNat_add]
  exact Nat.mod_eq_of_lt h

/-- Attempts that are numbered by a machine word, with no result if a number does not fit. -/
def attemptInWord (p : Plane σ) (policy : RetryPolicy) (host : String) (c : Call) (n : UInt32) (s : σ) :
    Option (Attempts σ c) :=
  match p c s with
  | (.ok a, s) => some ⟨.ok a, s, []⟩
  | (.error e, s) =>
    if e.isRetryable then
      if policy.attempts ≤ n.toNat then some ⟨.error (.retriesExhausted host n.toNat e), s, []⟩
      else if n.toNat + 1 < UInt32.size then
        (attemptInWord p policy host c (n + 1) s).map fun later =>
          { later with pauses := policy.delay n.toNat :: later.pauses }
      else none
    else some ⟨.error e, s, []⟩
termination_by UInt32.size - n.toNat
decreasing_by
  rw [toNat_add_one ‹_›]
  omega

/-- No attempt has a number that does not fit. -/
theorem attemptInWord_eq {n : UInt32} (hfits : policy.attempts < UInt32.size)
    (hleft : n.toNat + left = policy.attempts) :
    p.attemptInWord policy host c n s = some (p.attempt policy host c n.toNat left s) := by
  -- The number and what is left add up to the limit, which fits.
  induction left generalizing n s with
  | zero =>
    rw [attemptInWord, attempt]
    generalize p c s = reply
    obtain ⟨e | a, s'⟩ := reply
    · have hmost : policy.attempts ≤ n.toNat := hleft.ge
      by_cases hretry : e.isRetryable <;> simp [hretry, hmost]
    · rfl
  | succ left ih =>
    have hopen : ¬ policy.attempts ≤ n.toNat := by omega
    have hword : n.toNat + 1 < UInt32.size := by omega
    have hlater : ∀ s, p.attemptInWord policy host c (n + 1) s =
        some (p.attempt policy host c (n.toNat + 1) left s) := by
      intro s
      rw [← toNat_add_one hword]
      exact ih (by rw [toNat_add_one hword]; omega)
    rw [attemptInWord, attempt]
    generalize p c s = reply
    obtain ⟨e | a, s'⟩ := reply
    · by_cases hretry : e.isRetryable <;> simp [hretry, hopen, hword, hlater]
    · rfl

end Plane

/-- A call is made until its outcome settles the matter, or as often as the policy allows and then the
last failure is passed on. The pauses in between are the policy's, none of them too long, and the number
of an attempt always fits into a machine word if the policy's limit does. -/
theorem attempts_settle {σ : Type} (p : Plane σ) (policy : RetryPolicy) (host : String) (c : Call)
    (s : σ) :
    let most := max 1 policy.maxAttempts
    let run := p.recorded.attempts policy host c (s, [])
    (∀ n < most, IsLeast {i | Settles (p.outcome c s i)} n →
      run.result = p.outcome c s n ∧ run.state.2 = List.replicate (n + 1) c) ∧
    ((∀ i < most, ¬ Settles (p.outcome c s i)) →
      ∃ e, p.outcome c s (most - 1) = .error e ∧
        run.result = .error (.retriesExhausted host most e) ∧
        run.state.2 = List.replicate most c) ∧
    run.pauses = (List.range (run.state.2.length - 1)).map (fun i => policy.delay (i + 1)) ∧
    (∀ pause ∈ run.pauses, pause ≤ policy.maxDelay) ∧
    (policy.maxAttempts < UInt32.size → p.recorded.attemptInWord policy host c 1 (s, []) = some run) := by
  intro most run
  have hpauses := p.pauses_recorded_attempts policy host c s
  refine ⟨fun n hn hleast => ?_, fun h => ?_, hpauses, fun pause hpause => ?_, fun hfits => ?_⟩
  · have hrun : run = _ := p.recorded_attempts_of_settles policy host c s hleast hn
    simp [hrun]
  · obtain ⟨e, he, hrun⟩ := p.recorded_attempts_of_open policy host c s h
    exact ⟨e, he, congrArg (·.result) hrun, congrArg (·.state.2) hrun⟩
  · rw [hpauses] at hpause
    obtain ⟨i, -, rfl⟩ := List.mem_map.1 hpause
    exact policy.delay_le_maxDelay (i + 1)
  · have hmost : policy.attempts < UInt32.size := Nat.max_lt.2 ⟨by decide, hfits⟩
    have hle : 1 ≤ policy.attempts := Nat.le_max_left ..
    have hone : (1 : UInt32).toNat = 1 := rfl
    exact Plane.attemptInWord_eq hmost (by rw [hone]; omega)

def patience (most : Nat) : RetryPolicy := ⟨most, RetryPolicy.milliseconds 500, 0, 0 / 0⟩

/-- A control plane that is busy twice before it answers. -/
def busy : Plane Nat
  | .getTransferState _, 0 => (.error (.connect "refused"), 1)
  | .getTransferState _, 1 => (.error (.status 503 "busy"), 2)
  | .getTransferState _, n => (.ok ⟨"STARTED"⟩, n)
  | _, n => (.error (.decode "no answer"), n)

theorem attempts_settle_busy :
    let c := Call.getTransferState "transfer"
    let answered := busy.recorded.attempts (patience (UInt32.size - 1)) "host" c (0, [])
    let exhausted := busy.recorded.attempts (patience 2) "host" c (0, [])
    (answered.result = .ok ⟨"STARTED"⟩ ∧ answered.state.2 = [c, c, c]) ∧
      busy.recorded.attemptInWord (patience (UInt32.size - 1)) "host" c 1 (0, []) = some answered ∧
      (exhausted.result = .error (.retriesExhausted "host" 2 (.status 503 "busy")) ∧
        exhausted.state.2 = [c, c]) := by
  intro c answered exhausted
  have hopen : ∀ i < 2, ¬ Settles (busy.outcome c 0 i) := by
    intro i hi
    rw [not_settles_iff]
    match i with
    | 0 => exact ⟨_, rfl, rfl⟩
    | 1 => exact ⟨_, rfl, rfl⟩
  have hleast : IsLeast {i | Settles (busy.outcome c 0 i)} 2 :=
    ⟨nofun, fun i hsettles => Nat.le_of_not_lt fun hi => hopen i hi hsettles⟩
  obtain ⟨hanswered, -, -, -, hword⟩ := attempts_settle busy (patience (UInt32.size - 1)) "host" c 0
  obtain ⟨-, hexhausted, -⟩ := attempts_settle busy (patience 2) "host" c 0
  obtain ⟨e, he, hresult⟩ := hexhausted hopen
  cases he
  exact ⟨hanswered 2 (by decide) hleast, hword (by decide), hresult⟩

end ConsumerConnector
