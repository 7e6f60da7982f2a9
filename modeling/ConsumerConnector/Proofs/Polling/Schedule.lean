import ConsumerConnector.Polling
import Mathlib.Algebra.Order.Floor.Div
import Mathlib.Data.Nat.Find
import Mathlib.Order.Bounds.Basic

/-!
When an action is polled and when polling is over. Runs follow a schedule that the action and the pauses
alone make, and polling keeps to it until a run decides or would begin too late. A run that has begun may
take as long as it likes.
-/

namespace ConsumerConnector.Polling

variable {α : Type}

/-- When runs are due, the first at once and each other one a gap after the end of the one before. -/
def schedule (gap : Nat) (takes : Nat → Nat) (started : Nat) : Nat → Nat
  | 0 => started
  | n + 1 => schedule gap takes started n + takes n + gap

theorem add_mul_le_schedule (gap : Nat) (takes : Nat → Nat) (started n : Nat) :
    started + n * gap ≤ schedule gap takes started n := by
  induction n with
  | zero => simp [schedule]
  | succ n ih =>
    rw [schedule, Nat.succ_mul]
    omega

/-- What a run decides, unless it leaves the matter open. -/
def Outcome.decision? (o : Outcome α) : Option (Except ClientError α) :=
  match o.result with
  | .ok none => none
  | .ok (some a) => some (.ok a)
  | .error e => some (.error e)

namespace Plan

variable {p : Plan} {outcome : Nat → Outcome α} {started now limit n k : Nat}

theorem after_of_open {o : Outcome α} (h : o.decision? = none) :
    p.after now o = .due (now + o.takes + p.pause) := by
  unfold Outcome.decision? at h
  unfold after
  split at h <;> simp_all

theorem after_of_decision {o : Outcome α} {r : Except ClientError α} (h : o.decision? = some r) :
    p.after now o = .over (now + o.takes) r := by
  unfold Outcome.decision? at h
  unfold after
  split at h <;> simp_all

theorem isSpent_iff (h : started ≤ now) :
    p.isSpent started now ↔ ∃ ttl, p.ttl = some ttl ∧ started + ttl ≤ now := by
  unfold isSpent
  cases p.ttl with
  | none => simp
  | some ttl => simp [Nat.le_sub_iff_add_le' h]

theorem course_of_spent (h : p.isSpent started now) :
    p.course outcome started none limit n now = ([], .over now (.error p.timeout)) := by
  cases limit <;> simp [course, h]

theorem course_of_open (hspent : p.isSpent started now = false)
    (h : (outcome n).decision? = none) :
    p.course outcome started none (limit + 1) n now =
      let rest := p.course outcome started none limit (n + 1) (now + (outcome n).takes + p.pause)
      (now :: rest.1, rest.2) := by
  simp [course, hspent, after_of_open h]

theorem course_of_decision {r : Except ClientError α} (hspent : p.isSpent started now = false)
    (h : (outcome n).decision? = some r) :
    p.course outcome started none (limit + 1) n now =
      ([now], .over (now + (outcome n).takes) r) := by
  simp [course, hspent, after_of_decision h]

/-- When runs are due by a plan. -/
def times (p : Plan) (outcome : Nat → Outcome α) (started : Nat) : Nat → Nat :=
  schedule p.pause (fun n => (outcome n).takes) started

theorem started_le_times : started ≤ p.times outcome started n :=
  Nat.le_trans (Nat.le_add_right _ _) (add_mul_le_schedule _ _ _ n)

/-- By times at which runs are due, a run is too late or decides. -/
def EndsAt (p : Plan) (outcome : Nat → Outcome α) (times : Nat → Nat) (n : Nat) : Prop :=
  p.isSpent (times 0) (times n) ∨ (outcome n).decision?.isSome

instance (p : Plan) (outcome : Nat → Outcome α) (times : Nat → Nat) (n : Nat) :
    Decidable (p.EndsAt outcome times n) :=
  inferInstanceAs (Decidable (_ ∨ _))

theorem isLeast_endsAt_iff {times : Nat → Nat} : IsLeast {i | p.EndsAt outcome times i} n ↔
    p.EndsAt outcome times n ∧ ∀ i < n, ¬ p.EndsAt outcome times i := by
  apply and_congr_right
  intro _
  constructor
  · intro h i hi hends
    exact Nat.not_le_of_lt hi (h hends)
  · intro h i hends
    exact Nat.le_of_not_lt fun hi => h i hi hends

/-- As long as no run ends it, polling keeps to the schedule. -/
theorem course_add (h : ∀ i < k, ¬ p.EndsAt outcome (p.times outcome started) i) (limit : Nat) :
    p.course outcome started none (k + limit) 0 started =
      let rest := p.course outcome started none limit k (p.times outcome started k)
      ((List.range k).map (p.times outcome started) ++ rest.1, rest.2) := by
  induction k generalizing limit with
  | zero => simp [times, schedule]
  | succ k ih =>
    have hk : ¬ (p.isSpent started (p.times outcome started k) ∨ (outcome k).decision?.isSome) :=
      h k (Nat.lt_succ_self k)
    rw [not_or, Bool.not_eq_true, Option.not_isSome_iff_eq_none] at hk
    have hnext : p.times outcome started k + (outcome k).takes + p.pause =
        p.times outcome started (k + 1) := rfl
    rw [Nat.add_assoc, Nat.add_comm 1 limit, ih (fun i hi => h i (Nat.lt_succ_of_lt hi)),
      course_of_open hk.1 hk.2, hnext, List.range_succ]
    simp

theorem exists_isLeast_endsAt {times : Nat → Nat} (h : p.EndsAt outcome times n) :
    ∃ m ≤ n, IsLeast {i | p.EndsAt outcome times i} m := by
  have hex : ∃ i, p.EndsAt outcome times i := ⟨n, h⟩
  refine ⟨Nat.find hex, Nat.find_min' hex h, isLeast_endsAt_iff.2 ⟨Nat.find_spec hex, ?_⟩⟩
  intro i hi
  exact Nat.find_min hex hi

/-- With a time to live, not more runs begin than pauses fit into it. -/
theorem endsAt_of_ttl {ttl : Nat} (h : p.ttl = some ttl) :
    p.EndsAt outcome (p.times outcome started) (ttl ⌈/⌉ p.pause) := by
  refine .inl ((isSpent_iff started_le_times).2 ⟨ttl, h, ?_⟩)
  have hpause : ttl ≤ p.pause * (ttl ⌈/⌉ p.pause) :=
    (ceilDiv_le_iff_le_mul (timed_pos p.interval_pos)).1 (Nat.le_refl _)
  have hdue := add_mul_le_schedule p.pause (fun n => (outcome n).takes) started (ttl ⌈/⌉ p.pause)
  rw [Nat.mul_comm] at hdue
  exact Nat.le_trans (Nat.add_le_add_left hpause started) hdue

/-- No run begins once the time to live is over. -/
theorem not_spent_of_mem_course {stop : Option Nat} {run : Nat}
    (h : run ∈ (p.course outcome started stop limit n now).1) : p.isSpent started run = false := by
  induction limit generalizing n now with
  | zero => simp [course] at h
  | succ limit ih =>
    rw [course] at h
    split at h
    · simp at h
    split at h
    · simp at h
    · next hspent =>
      split at h
      · obtain rfl | hrest := List.mem_cons.1 h
        · simpa using hspent
        · exact ih hrest
      · obtain rfl : run = now := by simpa using h
        simpa using hspent

variable {r : Except ClientError α}

theorem course_of_late (hopen : ∀ i < n, ¬ p.EndsAt outcome (p.times outcome started) i)
    (hspent : p.isSpent started (p.times outcome started n)) (hlimit : n < limit) :
    p.course outcome started none limit 0 started =
      ((List.range n).map (p.times outcome started),
        .over (p.times outcome started n) (.error p.timeout)) := by
  have hadd := course_add hopen (limit - n)
  rw [Nat.add_sub_cancel' hlimit.le, course_of_spent hspent] at hadd
  simpa using hadd

theorem course_of_decided (hopen : ∀ i < n, ¬ p.EndsAt outcome (p.times outcome started) i)
    (hspent : p.isSpent started (p.times outcome started n) = false)
    (h : (outcome n).decision? = some r) (hlimit : n < limit) :
    p.course outcome started none limit 0 started =
      ((List.range (n + 1)).map (p.times outcome started),
        .over (p.times outcome started n + (outcome n).takes) r) := by
  have hadd := course_add hopen (limit - n - 1 + 1)
  have hrest : n + (limit - n - 1 + 1) = limit := by omega
  rw [hrest, course_of_decision hspent h] at hadd
  simpa [List.range_succ] using hadd

theorem course_of_undecidedalways (h : ∀ n, ¬ p.EndsAt outcome (p.times outcome started) n) :
    p.course outcome started none limit 0 started =
      ((List.range limit).map (p.times outcome started), .due (p.times outcome started limit)) := by
  have hadd := course_add (fun i _ => h i) 0 (k := limit)
  have hspent : ¬ p.isSpent started (p.times outcome started limit) := fun hlate => h limit (.inl hlate)
  rw [Nat.add_zero] at hadd
  rw [hadd, course, if_neg hspent]
  simp

end Plan

def patient (ttl : Nat) : Plan := ⟨some ttl, 10, "waiting", by decide⟩

/-- An action that decides in a long third run. -/
def slow : Nat → Outcome String
  | 0 => ⟨.ok none, 5⟩
  | 1 => ⟨.ok none, 20⟩
  | _ => ⟨.ok (some "ready"), 100⟩

/-- A pause that is longer than any timer, with a time to live to match. -/
def overlong : Plan := ⟨some (longestTimer + 1), longestTimer + 1, defaultActivity, by decide⟩

def undecided : Nat → Outcome Unit := fun _ => ⟨.ok none, 0⟩

end ConsumerConnector.Polling
