import ConsumerConnector.WorkerPool
import Mathlib.Data.List.Basic

/-!
What a pool of workers keeps, in whatever order its runs take their turns. Every slot is free or belongs
to one run, a run is served what its own closure came to, and since a run has only so many turns, the pool
comes to rest with all of its slots free.
-/

namespace ConsumerConnector.WorkerPool

variable {α : Type}

namespace Turn

def ending? : Turn α → Option (Ending α)
  | finish e => some e
  | _ => none

def isLeave : Turn α → Bool
  | leave => true
  | _ => false

/-- How the closures end that end in some turns. -/
def endings (ts : List (Turn α)) : List (Ending α) := ts.filterMap ending?

def isLeft (ts : List (Turn α)) : Bool := ts.any isLeave

variable (ts : List (Turn α)) (t : Turn α)

@[simp] theorem endings_append : endings (ts ++ [t]) = endings ts ++ t.ending?.toList := by
  cases h : t.ending? <;> simp [endings, h]

@[simp] theorem isLeft_append : isLeft (ts ++ [t]) = (isLeft ts || t.isLeave) := by
  simp [isLeft]

end Turn

namespace Run

/-- The ways that a run can go, and what becomes of its slot. -/
inductive Goes : Run α → Turn α → Run α → Slot → Prop
  | grant : Goes queued .grant granted .taken
  | giveUp : Goes queued .leave closed .kept
  | acquire : Goes granted .acquire (acquired true) .kept
  | decline : Goes granted .leave closed .returned
  | start (isAwaited : Bool) : Goes (acquired isAwaited) .start (running isAwaited) .kept
  | forgo : Goes (acquired true) .leave (acquired false) .kept
  | finish (e : Ending α) : Goes (running true) (.finish e) (ended e) .returned
  | finishAlone (e : Ending α) : Goes (running false) (.finish e) closed .returned
  | abandon : Goes (running true) .leave (running false) .kept
  | serve (e : Ending α) : Goes (ended e) .serve (served e.result) .kept
  | ignore (e : Ending α) : Goes (ended e) .leave closed .kept

variable {r r' : Run α} {t : Turn α} {ts : List (Turn α)} {slot : Slot}

theorem Goes.of_turn (h : r.turn t = some (r', slot)) : Goes r t r' slot := by
  unfold turn at h
  split at h <;> cases h <;> constructor

/-- What a run that has come so far has been through. -/
def Tells (ts : List (Turn α)) : Run α → Prop
  | queued | granted => Turn.endings ts = [] ∧ Turn.isLeft ts = false
  | acquired isAwaited | running isAwaited =>
    Turn.endings ts = [] ∧ Turn.isLeft ts = !isAwaited
  | ended e => Turn.endings ts = [e] ∧ Turn.isLeft ts = false
  | served result => ∃ e, Turn.endings ts = [e] ∧ result = e.result
  | closed => Turn.isLeft ts = true

theorem Goes.tells (h : Goes r t r' slot) (hr : r.Tells ts) : r'.Tells (ts ++ [t]) := by
  cases h <;> simp_all [Tells, Turn.isLeave, Turn.ending?]

/-- How many slots it holds. -/
def slots (r : Run α) : Nat := if r.holdsSlot then 1 else 0

/-- A slot that a run takes or gives back is taken from or given to the free ones. -/
theorem Goes.free_add_slots (h : Goes r t r' slot) {free free' : Nat}
    (hfree : slot.of free = some free') : free' + r'.slots = free + r.slots := by
  cases h with
  | grant =>
    rw [Slot.of] at hfree
    split at hfree
    · cases hfree
    · next hfree' =>
      cases hfree
      exact Nat.sub_add_cancel (Nat.pos_of_ne_zero hfree')
  | _ =>
    cases hfree
    rfl

/-- How many turns it takes at most. -/
def remaining : Run α → Nat
  | queued => 5
  | granted => 4
  | acquired isAwaited => if isAwaited then 3 else 2
  | running isAwaited => if isAwaited then 2 else 1
  | ended _ => 1
  | served _ | closed => 0

theorem Goes.remaining_lt (h : Goes r t r' slot) : r'.remaining < r.remaining := by
  cases h with
  | start isAwaited => cases isAwaited <;> simp [remaining]
  | _ => simp [remaining]

end Run

namespace Event

/-- The turn of a run that an event is. -/
def turnOf? (i : Nat) : Event α → Option (Turn α)
  | turn j t => if j = i then some t else none
  | submit => none

/-- Whether nobody comes and nobody leaves. -/
def isOwn : Event α → Bool
  | turn _ t => ! t.isLeave
  | submit => false

end Event

/-- The turns of a run, in order. -/
def turnsOf (i : Nat) (history : List (Event α)) : List (Turn α) :=
  history.filterMap (·.turnOf? i)

/-- How many turns the runs of a pool take at most. -/
def remaining (p : WorkerPool α) : Nat := p.runs.foldr (·.remaining + ·) 0

/-- The lists of events that lead from a new pool to another. -/
inductive History (size : Nat) : List (Event α) → WorkerPool α → Prop
  | made : History size [] (make size)
  | snoc {history : List (Event α)} {p q : WorkerPool α} {e : Event α} (h : History size history p)
      (hs : p.step e = some q) : History size (history ++ [e]) q

variable {size i : Nat} {history : List (Event α)} {p q : WorkerPool α} {e : Event α}
  {r r' : Run α} {t : Turn α}

theorem History.append {later : List (Event α)} (h : History size history p)
    (hrest : later.foldlM step p = some q) : History size (history ++ later) q := by
  induction later generalizing history p with
  | nil =>
    cases hrest
    rwa [List.append_nil]
  | cons e later ih =>
    obtain ⟨u, hu, hrest⟩ := Option.bind_eq_some_iff.1 hrest
    rw [List.append_cons]
    exact ih (h.snoc hu) hrest

/-- A step makes a new run or is the turn of one. -/
theorem step_cases (h : p.step e = some q) :
    e = .submit ∧ q = { p with runs := p.runs ++ [.queued] } ∨
    ∃ i t r r' slot free, e = .turn i t ∧ p.runs[i]? = some r ∧ r.Goes t r' slot ∧
      slot.of p.free = some free ∧ q = ⟨free, p.runs.set i r'⟩ := by
  cases e with
  | submit =>
    cases h
    exact .inl ⟨rfl, rfl⟩
  | turn i t =>
    simp only [step, Option.bind_eq_bind, Option.bind_eq_some_iff, Option.pure_def,
      Option.some.injEq] at h
    obtain ⟨r, hr, ⟨r', slot⟩, hturn, free, hfree, rfl⟩ := h
    exact .inr ⟨i, t, r, r', slot, free, rfl, hr, .of_turn hturn, hfree, rfl⟩

theorem held_set (hr : p.runs[i]? = some r) (free : Nat) (r' : Run α) :
    (⟨free, p.runs.set i r'⟩ : WorkerPool α).held + r.slots = p.held + r'.slots := by
  obtain ⟨hlt, rfl⟩ := List.getElem?_eq_some_iff.1 hr
  have hle : p.runs[i].slots ≤ p.held := by
    rw [Run.slots]
    split
    · next h => exact List.countP_pos_iff.2 ⟨_, List.getElem_mem hlt, h⟩
    · exact Nat.zero_le _
  have hset : (⟨free, p.runs.set i r'⟩ : WorkerPool α).held = p.held - p.runs[i].slots + r'.slots :=
    List.countP_set hlt
  omega

/-- A step takes no slot away and adds none. -/
theorem step_free_add_held (h : p.step e = some q) : q.free + q.held = p.free + p.held := by
  rcases step_cases h with ⟨rfl, rfl⟩ | ⟨i, t, r, r', slot, free, rfl, hr, hgoes, hfree, rfl⟩
  · simp [held, Run.holdsSlot]
  · have hheld := held_set hr free r'
    have hslots := hgoes.free_add_slots hfree
    change free + _ = _
    omega

theorem running_le_held (p : WorkerPool α) : p.running ≤ p.held :=
  List.countP_mono_left fun r _ h => by
    cases r <;> simp_all [Run.isRunning, Run.holdsSlot]

theorem remaining_submit (p : WorkerPool α) :
    ({ p with runs := p.runs ++ [.queued] } : WorkerPool α).remaining = p.remaining + 5 := by
  obtain ⟨free, runs⟩ := p
  simp only [remaining]
  induction runs with
  | nil => rfl
  | cons r₀ runs ih =>
    simp only [List.cons_append, List.foldr_cons]
    omega

theorem remaining_set (hr : p.runs[i]? = some r) (free : Nat) (r' : Run α) :
    (⟨free, p.runs.set i r'⟩ : WorkerPool α).remaining + r.remaining = p.remaining + r'.remaining := by
  obtain ⟨free, runs⟩ := p
  simp only [remaining] at hr ⊢
  induction runs generalizing i with
  | nil => cases hr
  | cons r₀ runs ih =>
    cases i with
    | zero =>
      cases hr
      simp only [List.set_cons_zero, List.foldr_cons]
      omega
    | succ i =>
      have h := ih hr
      simp only [List.set_cons_succ, List.foldr_cons]
      omega

/-- What holds of a pool after some events. -/
structure Keeps (size : Nat) (history : List (Event α)) (p : WorkerPool α) : Prop where
  slots_eq : p.free + p.held = slots size
  length_le : history.length + p.remaining ≤ 6 * p.runs.length
  tells : ∀ i r, p.runs[i]? = some r → Run.Tells (turnsOf i history) r
  fresh : ∀ i, p.runs.length ≤ i → turnsOf i history = []

theorem turnsOf_append_self (i : Nat) (history : List (Event α)) (t : Turn α) :
    turnsOf i (history ++ [.turn i t]) = turnsOf i history ++ [t] := by
  simp [turnsOf, Event.turnOf?]

theorem turnsOf_append_of_ne {i j : Nat} (h : j ≠ i) (history : List (Event α)) (t : Turn α) :
    turnsOf i (history ++ [.turn j t]) = turnsOf i history := by
  simp [turnsOf, Event.turnOf?, h]

theorem turnsOf_append_submit (i : Nat) (history : List (Event α)) :
    turnsOf i (history ++ [.submit]) = turnsOf i history := by
  simp [turnsOf, Event.turnOf?]

theorem Keeps.step (h : Keeps size history p) (hs : p.step e = some q) :
    Keeps size (history ++ [e]) q := by
  have hslots : q.free + q.held = slots size := (step_free_add_held hs).trans h.slots_eq
  have hlength := h.length_le
  rcases step_cases hs with ⟨rfl, rfl⟩ | ⟨j, t, r₀, r', slot, free, rfl, hr₀, hgoes, hfree, rfl⟩
  · refine ⟨hslots, ?_, fun i r hr => ?_, fun i hi => ?_⟩
    · have hsum := remaining_submit p
      simp only [List.length_append, List.length_singleton] at hsum ⊢
      omega
    · -- the new run, the last one, has taken no turn
      rw [turnsOf_append_submit]
      rcases Nat.lt_or_ge i p.runs.length with hi | hi
      · rw [List.getElem?_append_left hi] at hr
        exact h.tells i r hr
      · rw [List.getElem?_append_right hi] at hr
        obtain rfl := List.mem_singleton.1 (List.mem_of_getElem? hr)
        rw [h.fresh i hi]
        exact ⟨rfl, rfl⟩
    · rw [turnsOf_append_submit]
      exact h.fresh i (by simp at hi; omega)
  · obtain ⟨hj, -⟩ := List.getElem?_eq_some_iff.1 hr₀
    refine ⟨hslots, ?_, fun i r hr => ?_, fun i hi => ?_⟩
    · have hsum := remaining_set hr₀ free r'
      have hlt := hgoes.remaining_lt
      simp only [List.length_append, List.length_set, List.length_singleton]
      omega
    · by_cases hij : j = i
      · subst hij
        rw [turnsOf_append_self]
        simp only [List.getElem?_set_self hj] at hr
        cases hr
        exact hgoes.tells (h.tells j r₀ hr₀)
      · rw [turnsOf_append_of_ne hij]
        rw [List.getElem?_set_ne hij] at hr
        exact h.tells i r hr
    · rw [List.length_set] at hi
      rw [turnsOf_append_of_ne (by omega)]
      exact h.fresh i hi

theorem History.keeps (h : History size history p) : Keeps size history p := by
  induction h with
  | made => exact ⟨rfl, Nat.le_refl _, nofun, fun _ _ => rfl⟩
  | snoc _ hs ih => exact ih.step hs

/-- Unless someone comes or leaves, nothing more can happen. -/
def IsAtRest (p : WorkerPool α) : Prop := ∀ e, e.isOwn = true → p.step e = none

theorem step_turn {free : Nat} {slot : Slot} (hr : p.runs[i]? = some r)
    (hturn : r.turn t = some (r', slot)) (hfree : slot.of p.free = some free) :
    p.step (.turn i t) = some ⟨free, p.runs.set i r'⟩ := by
  simp [step, hr, hturn, hfree]

theorem IsAtRest.turn_eq_none {slot : Slot} {free : Nat} (h : p.IsAtRest) (hr : p.runs[i]? = some r)
    (ht : t.isLeave = false) (hfree : slot.of p.free = some free) : r.turn t ≠ some (r', slot) := by
  intro hturn
  cases (h (.turn i t) (by simp [Event.isOwn, ht])).symm.trans (step_turn hr hturn hfree)

/-- A run of a pool at rest that has a closure to run or a result to bring could go on. -/
theorem IsAtRest.run_cases (h : p.IsAtRest) (hr : p.runs[i]? = some r) :
    r = .queued ∨ (∃ result, r = .served result) ∨ r = .closed := by
  cases r with
  | queued => exact .inl rfl
  | granted => exact absurd rfl (h.turn_eq_none (t := .acquire) hr rfl rfl)
  | acquired isAwaited => exact absurd rfl (h.turn_eq_none (t := .start) hr rfl rfl)
  | running isAwaited =>
    cases isAwaited <;> exact absurd rfl (h.turn_eq_none (t := .finish .crashed) hr rfl rfl)
  | ended e => exact absurd rfl (h.turn_eq_none (t := .serve) hr rfl rfl)
  | served result => exact .inr (.inl ⟨result, rfl⟩)
  | closed => exact .inr (.inr rfl)

theorem IsAtRest.held_eq (h : p.IsAtRest) : p.held = 0 := by
  rw [held, List.countP_eq_zero]
  intro r hmem
  obtain ⟨i, hi, rfl⟩ := List.getElem_of_mem hmem
  rcases h.run_cases (List.getElem?_eq_getElem hi) with hr | ⟨result, hr⟩ | hr <;>
    simp [hr, Run.holdsSlot]

theorem slots_pos (size : Nat) : 0 < slots size := Nat.le_max_right size 1

/-- Where all slots are free, a run that waits for one could have it. -/
theorem Keeps.free_eq (h : Keeps size history p) (hrest : p.IsAtRest) : p.free = slots size := by
  rw [← h.slots_eq, hrest.held_eq, Nat.add_zero]

theorem Keeps.ne_queued (h : Keeps size history p) (hrest : p.IsAtRest) :
    p.runs[i]? ≠ some .queued := by
  intro hr
  have hfree : Slot.taken.of p.free = some (p.free - 1) := by
    rw [Slot.of, if_neg (Nat.ne_of_gt (h.free_eq hrest ▸ slots_pos size))]
  exact hrest.turn_eq_none (t := .grant) hr rfl hfree rfl

theorem Keeps.served (h : Keeps size history p) (hrest : p.IsAtRest) (hi : i < p.runs.length)
    (hstays : Turn.isLeft (turnsOf i history) = false) :
    ∃ e, Turn.endings (turnsOf i history) = [e] ∧ p.runs[i]? = some (.served e.result) := by
  have hr : p.runs[i]? = some p.runs[i] := List.getElem?_eq_getElem hi
  have htells := h.tells i _ hr
  rcases hrest.run_cases hr with hrun | ⟨result, hrun⟩ | hrun
  · exact absurd (hr.trans (congrArg some hrun)) (h.ne_queued hrest)
  · rw [hrun] at hr htells
    obtain ⟨e, hends, rfl⟩ := htells
    exact ⟨e, hends, hr⟩
  · rw [hrun] at htells
    cases hstays.symm.trans htells

theorem remaining_lt_of_step (he : e.isOwn = true) (h : p.step e = some q) :
    q.remaining < p.remaining := by
  rcases step_cases h with ⟨rfl, -⟩ | ⟨i, t, r, r', slot, free, -, hr, hgoes, hfree, rfl⟩
  · cases he
  · have hsum := remaining_set hr free r'
    have hlt := hgoes.remaining_lt
    omega

/-- Turns lead to rest, whichever are taken. -/
theorem exists_isAtRest (p : WorkerPool α) :
    ∃ (later : List (Event α)) (q : WorkerPool α),
      (∀ e ∈ later, e.isOwn = true) ∧ later.foldlM step p = some q ∧ q.IsAtRest := by
  -- a pool that is not at rest takes some step, and every step lowers what remains
  induction hn : p.remaining using Nat.strongRecOn generalizing p with
  | _ n ih =>
    by_cases hrest : p.IsAtRest
    · exact ⟨[], p, nofun, rfl, hrest⟩
    · simp only [IsAtRest, not_forall] at hrest
      obtain ⟨e, he, hstep⟩ := hrest
      obtain ⟨u, hu⟩ := Option.ne_none_iff_exists'.1 hstep
      obtain ⟨later, q, hturns, hlater, hq⟩ := ih _ (hn ▸ remaining_lt_of_step he hu) u rfl
      refine ⟨e :: later, q, List.forall_mem_cons.2 ⟨he, hturns⟩, ?_, hq⟩
      rw [List.foldlM_cons, hu]
      exact hlater

/-- Four runs of one slot: a closure crashes, and the other runs are left while they wait, with a slot set
aside, and with the closure handed over. -/
def bumpy : List (Event Nat) :=
  [.submit, .submit, .submit, .submit, .turn 0 .grant, .turn 0 .acquire, .turn 3 .leave, .turn 0 .start,
    .turn 0 (.finish .crashed), .turn 1 .grant, .turn 1 .leave, .turn 2 .grant, .turn 2 .acquire,
    .turn 2 .leave, .turn 2 .start, .turn 0 .serve, .turn 2 (.finish (.returned (.ok 7)))]

/-- What is left of it. -/
def settled : WorkerPool Nat where
  free := 1
  runs := [.served (.error (.interrupted "running transport worker: <worker error>")), .closed, .closed,
    .closed]

end ConsumerConnector.WorkerPool
