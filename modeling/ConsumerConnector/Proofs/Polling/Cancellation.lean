import ConsumerConnector.Proofs.Polling.Schedule

/-!
What is left of polling that is cancelled or given up. Up to that time everything goes as if it were not
going to happen, and nothing that would come later takes place.
-/

namespace ConsumerConnector.Polling

variable {α : Type}

namespace Plan

variable {p : Plan} {outcome : Nat → Outcome α} {started now time t limit more n i run : Nat}
  {stop : Option Nat} {r : Except ClientError α}

/-- Undisturbed, polling is over at a time with a result. -/
def Resolves (p : Plan) (outcome : Nat → Outcome α) (started time : Nat)
    (r : Except ClientError α) : Prop :=
  ∃ limit, (p.course outcome started none limit 0 started).2 = .over time r

theorem after_cases (p : Plan) (now : Nat) (o : Outcome α) :
    p.after now o = .due (now + o.takes + p.pause) ∨ ∃ r, p.after now o = .over (now + o.takes) r := by
  cases h : o.decision? with
  | none => exact .inl (after_of_open h)
  | some r => exact .inr ⟨r, after_of_decision h⟩

/-- Nothing begins or ends before the first run is due. -/
theorem le_of_course : (∀ run ∈ (p.course outcome started stop limit n now).1, now ≤ run) ∧
    ∀ t r, (p.course outcome started stop limit n now).2 = .over t r → now ≤ t := by
  induction limit generalizing n now with
  | zero =>
    refine ⟨List.forall_mem_nil _, fun t r h => ?_⟩
    rw [course] at h
    split at h <;> cases h
    exact Nat.le_refl _
  | succ limit ih =>
    rw [course]
    split
    · refine ⟨List.forall_mem_nil _, fun t r h => ?_⟩
      cases h
    split
    · refine ⟨List.forall_mem_nil _, fun t r h => ?_⟩
      cases h
      exact Nat.le_refl _
    rcases p.after_cases now (outcome n) with h | ⟨r, h⟩ <;> rw [h]
    · obtain ⟨hruns, hover⟩ := @ih (now + (outcome n).takes + p.pause) (n + 1)
      refine ⟨List.forall_mem_cons.2 ⟨Nat.le_refl _, fun run hrun => ?_⟩, fun t r ht => ?_⟩
      · have hle := hruns run hrun
        omega
      · have hle := hover t r ht
        omega
    · refine ⟨List.forall_mem_singleton.2 (Nat.le_refl _), fun t r h => ?_⟩
      cases h
      exact Nat.le_add_right ..

/-- What there is of a course before a time. -/
def Agree (time : Nat) (cut whole : List Nat × Standing α) : Prop :=
  cut.1 = whole.1.filter (· < time) ∧ ∀ t r, t < time → (cut.2 = .over t r ↔ whole.2 = .over t r)

theorem agree_of_stopped (h : time ≤ now) :
    Agree time (p.course outcome started (some time) limit n now)
      (p.course outcome started none more n now) := by
  refine ⟨?_, fun t r ht => ?_⟩
  · have hnone : (p.course outcome started (some time) limit n now).1 = [] := by
      cases limit <;> simp [course, h]
    rw [hnone, eq_comm, List.filter_eq_nil_iff]
    intro run hrun
    have hle := Nat.le_trans h (le_of_course.1 run hrun)
    simpa using hle
  · have hlate := Nat.lt_of_lt_of_le ht h
    constructor <;> intro hover <;> exact absurd (le_of_course.2 t r hover) (Nat.not_le_of_lt hlate)

/-- A course that is stopped agrees up to then with any course that goes on. -/
theorem agree_course (h : time ≤ now + limit * p.pause) (hle : limit ≤ more) :
    Agree time (p.course outcome started (some time) limit n now)
      (p.course outcome started none more n now) := by
  -- A pause follows every run, so the runs that are left suffice to reach the time.
  induction limit generalizing n now more with
  | zero => exact agree_of_stopped (by omega)
  | succ limit ih =>
    obtain ⟨more, rfl⟩ := Nat.exists_eq_add_of_le' hle
    by_cases hstop : time ≤ now
    · exact agree_of_stopped hstop
    rw [← Nat.add_assoc, course, course]
    simp only [Option.map_some, Option.map_none, Option.getD_some, Option.getD_none, hstop,
      decide_false, Bool.false_eq_true, if_false]
    split
    · exact ⟨rfl, fun _ _ _ => Iff.rfl⟩
    have hbefore : now < time := Nat.lt_of_not_le hstop
    rcases p.after_cases now (outcome n) with hnext | ⟨r, hover⟩
    · have hreach : time ≤ now + (outcome n).takes + p.pause + limit * p.pause := by
        rw [Nat.succ_mul] at h
        omega
      obtain ⟨hruns, hover⟩ := ih hreach (Nat.le_add_left limit more) (n := n + 1)
      rw [hnext]
      exact ⟨by simp [hruns, hbefore], hover⟩
    · rw [hover]
      exact ⟨by simp [hbefore], fun _ _ _ => Iff.rfl⟩

theorem course_eq_of_over (h : (p.course outcome started none limit n now).2 = .over t r)
    (hle : limit ≤ more) :
    p.course outcome started none more n now = p.course outcome started none limit n now := by
  induction limit generalizing n now more with
  | zero =>
    rw [course] at h ⊢
    split at h
    · next hspent => rw [if_pos hspent, course_of_spent hspent]
    · cases h
  | succ limit ih =>
    obtain ⟨more, rfl⟩ := Nat.exists_eq_add_of_le' hle
    rw [← Nat.add_assoc, course]
    rw [course] at h ⊢
    simp only [Option.map_none, Option.getD_none, Bool.false_eq_true, if_false] at h ⊢
    split
    · rfl
    next hspent =>
    rw [if_neg hspent] at h
    rcases p.after_cases now (outcome n) with hnext | ⟨r', hover⟩
    · rw [hnext] at h ⊢
      simp only [ih h (Nat.le_add_left limit more)]
    · rw [hover]

/-- The end of polling is not before the end of a run. -/
theorem le_of_run (hrun : (p.course outcome started stop limit n now).1[i]? = some run)
    (h : (p.course outcome started stop limit n now).2 = .over t r) :
    run + (outcome (n + i)).takes ≤ t := by
  induction limit generalizing n now i with
  | zero => simp [course] at hrun
  | succ limit ih =>
    rw [course] at hrun h
    by_cases hstop : (stop.map (decide <| · ≤ now)).getD false
    · simp [hstop] at hrun
    by_cases hspent : p.isSpent started now
    · simp [hstop, hspent] at hrun
    rw [if_neg hstop, if_neg hspent] at hrun h
    rcases p.after_cases now (outcome n) with hnext | ⟨r', hover⟩
    · rw [hnext] at hrun h
      cases i with
      | zero =>
        obtain rfl := Option.some.inj hrun
        have hle := le_of_course.2 t r h
        exact Nat.le_trans (Nat.le_add_right _ _) hle
      | succ i =>
        rw [← Nat.succ_add_eq_add_succ]
        exact ih hrun h
    · rw [hover] at hrun h
      cases h
      obtain ⟨rfl, rfl⟩ : i = 0 ∧ now = run := by simpa [List.getElem?_cons] using hrun
      exact Nat.le_refl _

end Plan

theorem cancelled_of_over {p : Plan} {time t : Nat} {standing : Standing α} {r : Except ClientError α}
    (h : standing = .over t r) (hlt : t < time) : cancelled p time standing = r := by
  rw [h, cancelled, if_pos hlt]

theorem cancelled_of_late {p : Plan} {time : Nat} {standing : Standing α}
    (h : ∀ t r, standing = .over t r → time ≤ t) :
    cancelled p time standing = .error (.interrupted p.activity) := by
  match standing with
  | .due _ => rfl
  | .over t r => rw [cancelled, if_neg (Nat.not_lt_of_le (h t r rfl))]

end ConsumerConnector.Polling
