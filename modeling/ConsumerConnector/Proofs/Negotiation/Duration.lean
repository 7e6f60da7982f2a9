import ConsumerConnector.Proofs.Negotiation.Course
import Mathlib.Algebra.Order.Floor.Div

/-!
How long negotiations last by a control plane whose calls take no time, and how often it is asked how
they stand. Looks begin a pause apart until time is up, so a wait costs as many pauses and looks as
fit in its time to live, and a task costs no more than its waits and calls add up to.
-/

namespace ConsumerConnector

open Contract

namespace Program

variable {Op : Type} {Reply : Op → Type} {α β ε : Type}

/-- What operations cost adds up to at most `b`, whatever the replies are. -/
def Within (cost : Op → Nat) : Program Op Reply α → (b : Nat) → Prop
  | .done _, _ => True
  | .perform op next, b => cost op ≤ b ∧ ∀ r, (next r).Within cost (b - cost op)

/-- Everything that a program can come to has a property. -/
def Yields (P : α → Prop) : Program Op Reply α → Prop
  | .done a => P a
  | .perform _ next => ∀ r, (next r).Yields P

namespace Within

variable {cost : Op → Nat} {b b' : Nat}

theorem mono {p : Program Op Reply α} (h : p.Within cost b) (hle : b ≤ b') : p.Within cost b' := by
  induction p generalizing b b' with
  | done => trivial
  | perform op next ih =>
    exact ⟨Nat.le_trans h.1 hle, fun r => ih r (h.2 r) (Nat.sub_le_sub_right hle _)⟩

theorem bind {p : Program Op Reply α} {f : α → Program Op Reply β} (h : p.Within cost b)
    (h' : ∀ a, (f a).Within cost b') : (p.bind f).Within cost (b + b') := by
  induction p generalizing b with
  | done a => exact (h' a).mono (Nat.le_add_left ..)
  | perform op next ih =>
    refine ⟨Nat.le_add_right_of_le h.1, fun r => ?_⟩
    rw [Nat.sub_add_comm h.1]
    exact ih r (h.2 r)

theorem andThen {p : ExceptT ε (Program Op Reply) α} {f : α → ExceptT ε (Program Op Reply) β}
    (h : p.run.Within cost b) (h' : ∀ a, (f a).run.Within cost b') :
    (ExceptT.run (p >>= f)).Within cost (b + b') :=
  bind (p := p.run) h fun
    | .ok a => h' a
    | .error _ => trivial

/-- A measure that no operation raises by more than it costs is not raised by more than `b`. -/
theorem run_le {σ : Type} {answer : (op : Op) → σ → Reply op × σ} (size : σ → Nat)
    (hcost : ∀ op s, size (answer op s).2 ≤ size s + cost op) {p : Program Op Reply α}
    (h : p.Within cost b) (s : σ) : size (p.run answer s).2 ≤ size s + b := by
  induction p generalizing b s with
  | done => exact Nat.le_add_right ..
  | perform op next ih =>
    calc
      size (run answer (.perform op next) s).2 ≤ size (answer op s).2 + (b - cost op) :=
        ih _ (h.2 _) _
      _ ≤ size s + cost op + (b - cost op) := Nat.add_le_add_right (hcost op s) _
      _ = size s + b := by
        have hle := h.1
        omega

end Within

namespace Yields

variable {P : α → Prop}

theorem run {σ : Type} {p : Program Op Reply α} (h : p.Yields P)
    (answer : (op : Op) → σ → Reply op × σ) (s : σ) : P (p.run answer s).1 := by
  induction p generalizing s with
  | done => exact h
  | perform op next ih => exact ih _ (h _) _

end Yields

end Program

namespace Limits

variable {limits : Limits} {w : Wait}

theorem of_make {ttl interval : Nat} (h : Limits.make w ttl interval = .ok limits) :
    limits.ttl = ttl ∧ limits.interval = interval := by
  unfold make Polling.Plan.make at h
  split at h <;> cases h
  exact ⟨rfl, rfl⟩

theorem maxLooks_eq (limits : Limits) :
    limits.maxLooks = limits.ttl ⌈/⌉ Polling.timed limits.interval := rfl

variable {now started k : Nat}

/-- Time is up with the first look that is one too many. -/
theorem isSpent_iff (hnow : now = started + k * (limits.plan w).pause) :
    (limits.plan w).isSpent started now = true ↔ limits.maxLooks ≤ k := by
  rw [hnow, maxLooks_eq, ceilDiv_le_iff_le_mul (Polling.timed_pos limits.interval_pos), Nat.mul_comm]
  simp [Polling.Plan.isSpent, plan, Polling.Plan.pause]

theorem isSpent_eq_false_iff (hnow : now = started + k * (limits.plan w).pause) :
    (limits.plan w).isSpent started now = false ↔ k < limits.maxLooks := by
  rw [← Bool.not_eq_true, isSpent_iff hnow, Nat.not_le]

theorem now_add_pause (hnow : now = started + k * (limits.plan w).pause) :
    now + (limits.plan w).pause = started + (k + 1) * (limits.plan w).pause := by
  rw [hnow, Nat.succ_mul, Nat.add_assoc]

end Limits

namespace Look

variable {α : Type} {c : Call} {f : c.Answer → Look α}

theorem within_call_andThen {cost : Query → Nat} {b : Nat} (h : ∀ a, (f a).run.Within cost b) :
    (ExceptT.run (call c >>= f)).Within cost (cost (.call c) + b) :=
  Program.Within.andThen ⟨Nat.le_refl _, fun _ => True.intro⟩ h

theorem yields_call_andThen {P : Except ClientError α → Prop} (he : ∀ e, P (.error (.transport e)))
    (h : ∀ a, (f a).run.Yields P) : (ExceptT.run (call c >>= f)).Yields P
  | .ok a => h a
  | .error e => he e

end Look

namespace Wait

/-- What a look costs at most. -/
def lookCost (cost : Query → Nat) : Wait → Nat
  | agreement id => cost (.call (.getNegotiationState id)) + cost (.call (.getNegotiation id))
  | transfer id => cost (.call (.getTransferState id)) + cost (.call (.getTransfer id))
  | credential contract since => cost (.stored contract since)

theorem look_within (cost : Query → Nat) (w : Wait) :
    (ExceptT.run w.look).Within cost (w.lookCost cost) := by
  cases w with
  | agreement id =>
    refine Look.within_call_andThen fun report => ?_
    -- The state goes by a text of the report, which would be compared letter by letter.
    generalize report.process = state
    split
    · refine Look.within_call_andThen (b := 0) fun n => ?_
      split <;> exact True.intro
    · split <;> exact True.intro
  | transfer id =>
    refine Look.within_call_andThen fun report => ?_
    generalize report.process = state
    split
    · exact Look.within_call_andThen (b := 0) fun _ => True.intro
    · exact Look.within_call_andThen (b := 0) fun _ => True.intro
    · split <;> exact True.intro
  | credential contract since => exact ⟨Nat.le_refl _, fun _ => True.intro⟩

/-- No look says itself that time is up. -/
theorem look_yields (w : Wait) : (ExceptT.run w.look).Yields
    fun seen => ∀ activity ttl, seen ≠ .error (.timeout activity ttl) := by
  cases w with
  | agreement id =>
    refine Look.yields_call_andThen nofun fun report => ?_
    generalize report.process = state
    split
    · refine Look.yields_call_andThen nofun fun n => ?_
      split <;> exact nofun
    · split <;> exact nofun
  | transfer id =>
    refine Look.yields_call_andThen nofun fun report => ?_
    generalize report.process = state
    split
    · exact Look.yields_call_andThen nofun fun _ => nofun
    · exact Look.yields_call_andThen nofun fun _ => nofun
    · split <;> exact nofun
  | credential contract since => exact nofun

variable {σ : Type} {answer : Answering σ} {limits : Limits} {w : Wait} {started k n : Nat}
  {s s' : Clocked σ} {result : Except ClientError w.Result}

/-- What a wait that began at `started` comes to after so many further looks, the first of which is
due at once. -/
inductive Watched (answer : Answering σ) (limits : Limits) (w : Wait) (started : Nat) :
    Clocked σ → (looks : Nat) → Except ClientError w.Result → Clocked σ → Prop
  | late {s : Clocked σ} (h : (limits.plan w).isSpent started s.now = true) :
      Watched answer limits w started s 0 (.error (limits.plan w).timeout) s
  | found {s : Clocked σ} {a : w.Result} {state : σ}
      (h : (limits.plan w).isSpent started s.now = false)
      (hlook : Program.run answer (ExceptT.run w.look) s.state = (.ok (some a), state)) :
      Watched answer limits w started s 1 (.ok a) ⟨state, s.now⟩
  | failed {s : Clocked σ} {e : ClientError} {state : σ}
      (h : (limits.plan w).isSpent started s.now = false)
      (hlook : Program.run answer (ExceptT.run w.look) s.state = (.error e, state)) :
      Watched answer limits w started s 1 (.error e) ⟨state, s.now⟩
  | again {s s' : Clocked σ} {state : σ} {looks : Nat} {result : Except ClientError w.Result}
      (h : (limits.plan w).isSpent started s.now = false)
      (hlook : Program.run answer (ExceptT.run w.look) s.state = (.ok none, state))
      (h' : Watched answer limits w started ⟨state, s.now + (limits.plan w).pause⟩ looks result s') :
      Watched answer limits w started s (looks + 1) result s'

/-- Enough looks are allowed for time to be up before they run out. -/
theorem exists_watched_watch (answer : Answering σ) (limits : Limits) (w : Wait) (started : Nat)
    {left k : Nat} (hleft : limits.maxLooks ≤ k + left) {s : Clocked σ}
    (hs : s.now = started + k * (limits.plan w).pause) :
    ∃ looks, Watched answer limits w started s looks (watch answer limits w started left s).1
      (watch answer limits w started left s).2 := by
  induction left generalizing k s with
  | zero => exact ⟨0, .late ((Limits.isSpent_iff hs).2 hleft)⟩
  | succ left ih =>
    unfold watch
    cases hspent : (limits.plan w).isSpent started s.now with
    | true => exact ⟨0, .late hspent⟩
    | false =>
      rw [if_neg Bool.false_ne_true]
      generalize hlook : Program.run answer (ExceptT.run w.look) s.state = run
      obtain ⟨e | _ | a, state⟩ := run
      · exact ⟨1, .failed hspent hlook⟩
      · obtain ⟨looks, hrest⟩ := @ih (k + 1) (by omega)
          ⟨state, s.now + (limits.plan w).pause⟩ (Limits.now_add_pause hs)
        exact ⟨looks + 1, .again hspent hlook hrest⟩
      · exact ⟨1, .found hspent hlook⟩

theorem Watched.looks_le (h : Watched answer limits w started s n result s')
    (hs : s.now = started + k * (limits.plan w).pause) (hk : k ≤ limits.maxLooks) :
    k + n ≤ limits.maxLooks := by
  induction h generalizing k with
  | late => exact hk
  | found h | failed h => exact (Limits.isSpent_eq_false_iff hs).1 h
  | again h _ _ ih =>
    rw [Nat.add_comm _ 1, ← Nat.add_assoc]
    exact ih (Limits.now_add_pause hs) ((Limits.isSpent_eq_false_iff hs).1 h)

/-- A run is not cut short by the number of looks that it is allowed. -/
theorem exists_watched_run (answer : Answering σ) (limits : Limits) (w : Wait) (s : Clocked σ) :
    ∃ looks ≤ limits.maxLooks, Watched answer limits w s.now s looks (w.run answer limits s).1
      (w.run answer limits s).2 := by
  have hs : s.now = s.now + 0 * (limits.plan w).pause := by rw [Nat.zero_mul, Nat.add_zero]
  obtain ⟨looks, h⟩ := exists_watched_watch answer limits w s.now (Nat.le_add_left _ 0) hs
  have hle := h.looks_le hs (Nat.zero_le _)
  rw [Nat.zero_add] at hle
  exact ⟨looks, hle, h⟩

namespace Watched

theorem now_le (h : Watched answer limits w started s n result s') :
    s'.now ≤ s.now + n * (limits.plan w).pause := by
  induction h with
  | late | found | failed => exact Nat.le_add_right ..
  | again _ _ _ ih =>
    rw [Nat.succ_mul]
    simp only at ih
    omega

/-- A measure that no look raises by more than it costs is raised as often as looks are taken. -/
theorem size_le (size : σ → Nat) {each : Nat}
    (hlook : ∀ s, size (Program.run answer (ExceptT.run w.look) s).2 ≤ size s + each)
    (h : Watched answer limits w started s n result s') :
    size s'.state ≤ size s.state + n * each := by
  induction h with
  | late => exact Nat.le_add_right ..
  | @found s _ _ _ hrun | @failed s _ _ _ hrun =>
    have hle := hlook s.state
    rw [hrun] at hle
    simpa using hle
  | @again s _ _ _ _ _ hrun _ ih =>
    have hle := hlook s.state
    rw [hrun] at hle
    rw [Nat.succ_mul]
    simp only at hle ih
    omega

/-- A wait whose time is up has looked as often as it can. -/
theorem maxLooks_le (h : Watched answer limits w started s n result s')
    (hresult : result = .error (limits.plan w).timeout)
    (hs : s.now = started + k * (limits.plan w).pause) : limits.maxLooks ≤ k + n := by
  induction h generalizing k with
  | late h => exact (Limits.isSpent_iff hs).1 h
  | found => cases hresult
  | @failed s e _ _ hrun =>
    have hne := w.look_yields.run answer s.state
    rw [hrun] at hne
    exact (hne _ _ (congrArg Except.error (Except.error.inj hresult))).elim
  | again _ _ _ ih =>
    rw [Nat.add_comm _ 1, ← Nat.add_assoc]
    exact ih hresult (Limits.now_add_pause hs)

end Watched

end Wait

namespace Call

def readsNegotiationState : Call → Bool
  | getNegotiationState _ => true
  | _ => false

def readsTransferState : Call → Bool
  | getTransferState _ => true
  | _ => false

end Call

/-- How long an action lasts at most. -/
def Action.time : Action → Nat
  | .call _ => 0
  | .wait w limits => limits.maxLooks * (limits.plan w).pause

def Query.count (p : Call → Bool) : Query → Nat
  | .call c => (p c).toNat
  | .stored .. => 0

/-- How many calls of a kind an action makes at most. -/
def Action.count (p : Call → Bool) : Action → Nat
  | .call c => (p c).toNat
  | .wait w limits => limits.maxLooks * w.lookCost (Query.count p)

def Event.isCall (p : Call → Bool) : Event → Bool
  | sent c _ => p c
  | late _ => false

namespace Task

variable {α : Type} {σ : Type} {cost : Action → Nat} {b : Nat}

theorem now_perform_le (answer : Answering σ) (a : Action) (s : Clocked σ) :
    (perform answer a s).2.now ≤ s.now + a.time := by
  cases a with
  | call c => exact Nat.le_refl _
  | wait w limits =>
    obtain ⟨n, hn, h⟩ := w.exists_watched_run answer limits s
    exact Nat.le_trans h.now_le (Nat.add_le_add_left (Nat.mul_le_mul_right _ hn) _)

theorem count_answer_le (answer : Answering σ) (p : Call → Bool) (q : Query)
    (s : σ × List Event) : (answer.recorded q s).2.2.countP (Event.isCall p) ≤
      s.2.countP (Event.isCall p) + q.count p := by
  cases q with
  | call c =>
    simp only [Answering.recorded, List.countP_append, List.countP_singleton, Event.isCall,
      Query.count]
    by_cases h : p c <;> simp [h]
  | stored contract since => exact Nat.le_refl _

theorem count_perform_le (answer : Answering σ) (p : Call → Bool) (a : Action)
    (s : Clocked (σ × List Event)) :
    (perform answer.recorded a s).2.state.2.countP (Event.isCall p) ≤
      s.state.2.countP (Event.isCall p) + a.count p := by
  cases a with
  | call c => exact count_answer_le answer p (.call c) s.state
  | wait w limits =>
    obtain ⟨n, hn, h⟩ := w.exists_watched_run answer.recorded limits s
    let size := fun s : σ × List Event => s.2.countP (Event.isCall p)
    have hlook := (w.look_within (Query.count p)).run_le size (count_answer_le answer p)
    exact Nat.le_trans (h.size_le size hlook) (Nat.add_le_add_left (Nat.mul_le_mul_right _ hn) _)

theorem now_run_le {t : Task α} (h : (ExceptT.run t).Within Action.time b) (answer : Answering σ)
    (s : Clocked σ) : (t.run answer s).2.now ≤ s.now + b :=
  h.run_le Clocked.now (now_perform_le answer) s

theorem count_run_le {p : Call → Bool} {t : Task α} (h : (ExceptT.run t).Within (Action.count p) b)
    (answer : Answering σ) (s : Clocked (σ × List Event)) :
    (t.run answer.recorded s).2.state.2.countP (Event.isCall p) ≤
      s.state.2.countP (Event.isCall p) + b :=
  h.run_le (fun s => s.state.2.countP (Event.isCall p)) (count_perform_le answer p) s

theorem fail_within (e : ClientError) : (ExceptT.run (fail e : Task α)).Within cost b := True.intro

theorem call_within {c : Call} (h : cost (.call c) ≤ b) : (ExceptT.run (call c)).Within cost b :=
  ⟨h, fun _ => True.intro⟩

theorem await_within {w : Wait} {ttl interval : Nat}
    (h : ∀ limits : Limits, limits.ttl = ttl → limits.interval = interval →
      cost (.wait w limits) ≤ b) : (ExceptT.run (await w ttl interval)).Within cost b := by
  unfold await
  split
  · next limits hmake =>
    obtain ⟨httl, hinterval⟩ := Limits.of_make hmake
    exact ⟨h limits httl hinterval, fun _ => True.intro⟩
  · exact fail_within _

theorem onTimeout_within {t : Task α} {failure : ClientError → ClientError}
    (h : (ExceptT.run t).Within cost b) : (ExceptT.run (t.onTimeout failure)).Within cost b := by
  rw [← Nat.add_zero b]
  refine Program.Within.bind h fun
    | .ok _ => True.intro
    | .error e => ?_
  cases e <;> exact fail_within _

end Task

namespace Negotiation

/-- What the waits of a negotiation cost at most, where nothing else costs anything. -/
structure Priced (cost : Action → Nat) (settings : Settings) (agreement transfer : Nat) : Prop where
  startNegotiation : ∀ q, cost (.call (.startNegotiation q)) = 0
  startTransfer : ∀ q, cost (.call (.startTransfer q)) = 0
  agreement : ∀ id (limits : Limits), limits.ttl = settings.negotiationTtl →
    limits.interval = settings.pollInterval → cost (.wait (.agreement id) limits) ≤ agreement
  transfer : ∀ id (limits : Limits), limits.ttl = settings.transferTtl →
    limits.interval = settings.pollInterval → cost (.wait (.transfer id) limits) ≤ transfer

namespace Priced

variable {cost : Action → Nat} {settings : Settings} {m n : Nat}

theorem contract_within (h : Priced cost settings m n) (address : String) (item : Catalog.Item) :
    (ExceptT.run (contract settings address item)).Within cost m := by
  rw [← Nat.zero_add m]
  exact Program.Within.andThen (Task.call_within (h.startNegotiation _).le) fun created =>
    Task.onTimeout_within (Task.await_within (h.agreement created.id))

theorem transfer_within (h : Priced cost settings m n) (q : TransferRequest) :
    (ExceptT.run (Negotiation.transfer settings q)).Within cost n := by
  rw [← Nat.zero_add n]
  exact Program.Within.andThen (Task.call_within (h.startTransfer _).le) fun created =>
    Task.onTimeout_within (Task.await_within (h.transfer created.id))

theorem negotiate_within (h : Priced cost settings m n) (store : Policy.Store) (now : Timestamp)
    (endpoint : String) (item : Catalog.Item) (status : Credential.Status) (partner : String) :
    (ExceptT.run (negotiate settings store now endpoint item status partner)).Within cost
      (m + n) := by
  cases status with
  | requiredNew =>
    unfold negotiate
    simp only
    split
    · exact True.intro
    · exact Program.Within.andThen (h.contract_within _ item) fun _ => h.transfer_within _
  | expired stale => exact (h.transfer_within _).mono (Nat.le_add_left ..)
  | valid c => exact True.intro

variable (settings)

theorem time :
    let p := Polling.timed settings.pollInterval
    Priced Action.time settings (settings.negotiationTtl ⌈/⌉ p * p)
      (settings.transferTtl ⌈/⌉ p * p) where
  startNegotiation _ := rfl
  startTransfer _ := rfl
  agreement := by
    rintro id ⟨ttl, interval, _⟩ rfl rfl
    exact Nat.le_refl _
  transfer := by
    rintro id ⟨ttl, interval, _⟩ rfl rfl
    exact Nat.le_refl _

theorem negotiationReads : Priced (Action.count Call.readsNegotiationState) settings
    (settings.negotiationTtl ⌈/⌉ Polling.timed settings.pollInterval) 0 where
  startNegotiation _ := rfl
  startTransfer _ := rfl
  agreement := by
    rintro id ⟨ttl, interval, _⟩ rfl rfl
    exact (Nat.mul_one _).le
  transfer _ limits _ _ := (Nat.mul_zero limits.maxLooks).le

theorem transferReads : Priced (Action.count Call.readsTransferState) settings 0
    (settings.transferTtl ⌈/⌉ Polling.timed settings.pollInterval) where
  startNegotiation _ := rfl
  startTransfer _ := rfl
  agreement _ limits _ _ := (Nat.mul_zero limits.maxLooks).le
  transfer := by
    rintro id ⟨ttl, interval, _⟩ rfl rfl
    exact (Nat.mul_one _).le

end Priced

/-- How long the waits of a negotiation last at most. -/
def Settings.duration (settings : Settings) : Nat :=
  let p := Polling.timed settings.pollInterval
  settings.negotiationTtl ⌈/⌉ p * p + settings.transferTtl ⌈/⌉ p * p

/-- A task ends in time, and it does not ask more often than there are pauses how things stand. -/
structure InTime (settings : Settings) (task : Task Transfer) : Prop where
  ends {σ : Type} (answer : Answering σ) (s : Clocked σ) :
    (task.run answer s).2.now ≤ s.now + settings.duration
  negotiationReads {σ : Type} (answer : Answering σ) (s : σ) (time : Nat) :
    (task.run answer.recorded ⟨(s, []), time⟩).2.state.2.countP
        (Event.isCall Call.readsNegotiationState) ≤
      settings.negotiationTtl ⌈/⌉ Polling.timed settings.pollInterval
  transferReads {σ : Type} (answer : Answering σ) (s : σ) (time : Nat) :
    (task.run answer.recorded ⟨(s, []), time⟩).2.state.2.countP
        (Event.isCall Call.readsTransferState) ≤
      settings.transferTtl ⌈/⌉ Polling.timed settings.pollInterval

theorem negotiate_inTime (settings : Settings) (store : Policy.Store) (wall : Timestamp)
    (endpoint : String) (item : Catalog.Item) (status : Credential.Status) (partner : String) :
    InTime settings (negotiate settings store wall endpoint item status partner) where
  ends := Task.now_run_le ((Priced.time settings).negotiate_within ..)
  negotiationReads answer s time := by
    have h := Task.count_run_le ((Priced.negotiationReads settings).negotiate_within store wall
      endpoint item status partner) answer ⟨(s, []), time⟩
    simpa using h
  transferReads answer s time := by
    have h := Task.count_run_le ((Priced.transferReads settings).negotiate_within store wall
      endpoint item status partner) answer ⟨(s, []), time⟩
    simpa using h

end Negotiation

end ConsumerConnector
