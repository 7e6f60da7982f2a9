import ConsumerConnector.Proofs.Acquisition.Retention
import ConsumerConnector.Proofs.Negotiation.Calls
import ConsumerConnector.Proofs.Negotiation.Duration

/-!
When acquisitions end by a control plane whose calls take no time. Whatever else goes on, time passes
for a future only in the pauses of its waits, so none is still at work after the time that its waits
can take together.
-/

namespace ConsumerConnector

open Contract

namespace Configuration

/-- How long a wait may last. -/
def ttl (c : Configuration) : Wait → Nat
  | .agreement _ => c.negotiation.negotiationTtl
  | .transfer _ => c.negotiation.transferTtl
  | .credential .. => c.credentials.requestTtl

variable {c : Configuration}

/-- Every wait of a valid configuration outlasts a pause. -/
theorem pollInterval_lt_ttl (h : c.check = .ok ()) (w : Wait) :
    0 < c.credentials.pollInterval ∧ c.credentials.pollInterval < c.ttl w := by
  simp only [check, Check.andThen_eq_ok, Check.forM_eq_ok, demand_eq_ok, decide_eq_true_eq] at h
  obtain ⟨-, hcredentials, -, -, -, -, hwaits⟩ := h
  constructor
  · simp only [Credentials.check, Bounds.check, Check.andThen_eq_ok, demand_eq_ok,
      Bool.and_eq_true, decide_eq_true_eq] at hcredentials
    exact Nat.lt_of_lt_of_le (by decide) hcredentials.2.1.1
  · simp only [waits, List.forall_mem_cons] at hwaits
    obtain ⟨hrequest, hnegotiation, htransfer, -⟩ := hwaits
    cases w with
    | agreement => exact hnegotiation
    | transfer => exact htransfer
    | credential => exact hrequest

end Configuration

theorem Limits.two_le_maxLooks {limits : Limits} (h : limits.interval < limits.ttl) :
    2 ≤ limits.maxLooks := by
  have hpause : Polling.timed limits.interval < limits.ttl :=
    Nat.lt_of_le_of_lt (Polling.timed_le _) h
  by_contra hfew
  have hle : limits.maxLooks ≤ 1 := by omega
  rw [maxLooks_eq, ceilDiv_le_iff_le_mul (Polling.timed_pos limits.interval_pos)] at hle
  omega

theorem Polling.Plan.due_of_after {α : Type} {p : Plan} {now time : Nat}
    {seen : Except ClientError (Option α)} (h : p.after now ⟨seen, 0⟩ = .due time) :
    time = now + p.pause := by
  unfold after at h
  split at h <;> cases h
  rfl

namespace Acquisition

/-- Negotiates under settings, by whatever policies are accepted at the time. -/
def Setup.Negotiates (setup : Setup) (settings : Negotiation.Settings) : Prop :=
  ∀ o, ∃ store now, setup.negotiator o =
    Negotiation.negotiate settings store now o.endpoint o.item o.status o.partner

theorem Setup.task_within {setup : Setup} {o : Order} {since b e : Nat} {cost : Action → Nat}
    (h : (ExceptT.run (setup.negotiator o)).Within cost b)
    (hwait : ∀ contract (limits : Limits), limits.ttl = setup.requestTtl →
      limits.interval = setup.pollInterval → cost (.wait (.credential contract since) limits) ≤ e) :
    (ExceptT.run (setup.task o since)).Within cost (b + e) := by
  refine Program.Within.andThen h fun t => ?_
  cases awaited o t with
  | ok contract => exact Task.await_within (hwait contract)
  | error e => exact Task.fail_within e

/-- How long acquisitions last at most. -/
def Setup.duration (setup : Setup) (settings : Negotiation.Settings) : Nat :=
  let q := Polling.timed setup.pollInterval
  settings.duration + setup.requestTtl ⌈/⌉ q * q

theorem Setup.task_within_duration {setup : Setup} {settings : Negotiation.Settings}
    (h : setup.Negotiates settings) (o : Order) (since : Nat) :
    (ExceptT.run (setup.task o since)).Within Action.time (setup.duration settings) := by
  obtain ⟨store, now, hnegotiator⟩ := h o
  refine task_within ?_ ?_
  · rw [hnegotiator]
    exact (Negotiation.Priced.time settings).negotiate_within ..
  · rintro contract ⟨ttl, interval, _⟩ rfl rfl
    exact Nat.le_refl _

/-- How far time may go on without being lost for a future: up to the next look if it pauses, and
not at all while its work can go on. -/
def Work.Allows (now ms : Nat) : Work → Prop
  | .pausing _ _ _ due _ => now + ms ≤ due
  | .running (.perform ..) | .looking .. => ms = 0
  | _ => True

/-- No time is lost for a future. -/
def Occurrence.Prompt (f : Nat) (o : Occurrence) : Prop :=
  ∀ ms, o.label = .advance ms → ∀ w, o.state.work? f = some w → w.Allows o.state.now ms

/-- Work that has come to an end, or does so by a deadline if no time is lost. -/
inductive Work.EndsBy (deadline now : Nat) : Work → Prop
  | ended {r : Except ClientError Credential} : EndsBy deadline now (.running (.done r))
  | running {p : TaskTree Credential} {b : Nat} (hp : p.Within Action.time b)
      (hb : now + b ≤ deadline) : EndsBy deadline now (.running p)
  | pausing {w : Wait} {limits : Limits} {started due k b : Nat}
      {next : Except ClientError w.Result → TaskTree Credential}
      (hdue : due = started + k * (limits.plan w).pause) (hk : k ≤ limits.maxLooks)
      (hnow : now ≤ due) (hnext : ∀ r, (next r).Within Action.time b)
      (hb : started + limits.maxLooks * (limits.plan w).pause + b ≤ deadline) :
      EndsBy deadline now (.pausing w limits started due next)
  | looking {w : Wait} {limits : Limits} {started k b : Nat}
      {look : Program Query Query.Reply (Except ClientError (Option w.Result))}
      {next : Except ClientError w.Result → TaskTree Credential}
      (hnow : now = started + k * (limits.plan w).pause) (hk : k < limits.maxLooks)
      (hnext : ∀ r, (next r).Within Action.time b)
      (hb : started + limits.maxLooks * (limits.plan w).pause + b ≤ deadline) :
      EndsBy deadline now (.looking w limits started look next)

theorem Work.EndsBy.advance {deadline now ms : Nat} {w : Work} (h : w.EndsBy deadline now)
    (hallowed : w.Allows now ms) : w.EndsBy deadline (now + ms) := by
  cases h with
  | ended => exact .ended
  | @running p b hp hb =>
    cases p with
    | done r => exact .ended
    | perform op next =>
      obtain rfl : ms = 0 := hallowed
      exact .running hp hb
  | pausing hdue hk _ hnext hb => exact .pausing hdue hk hallowed hnext hb
  | looking hnow hk hnext hb =>
    obtain rfl : ms = 0 := hallowed
    exact .looking hnow hk hnext hb

theorem Work.EndsBy.result_or_le {deadline now : Nat} {w : Work} (h : w.EndsBy deadline now) :
    (∃ r, w.result? = some r) ∨ now ≤ deadline := by
  cases h with
  | @ended r => exact .inl ⟨r, rfl⟩
  | running _ hb => exact .inr (Nat.le_trans (Nat.le_add_right ..) hb)
  | @pausing w limits started due k b _ hdue hk hnow _ hb =>
    have hle := Nat.mul_le_mul_right (limits.plan w).pause hk
    exact .inr (by omega)
  | @looking w limits started k b _ _ hnow hk _ hb =>
    have hle := Nat.mul_le_mul_right (limits.plan w).pause hk.le
    exact .inr (by omega)

namespace System

variable {setup : Setup} {s s' t u : System} {l : Label} {os : List Occurrence} {f deadline : Nat}

theorem due_le_of_look {w : Wait} {limits : Limits} {started due : Nat}
    {next : Except ClientError w.Result → TaskTree Credential} (hs : s.step setup (.look f) = some s')
    (hw : s.work? f = some (.pausing w limits started due next)) : due ≤ s.now := by
  simp only [step, look?, hw] at hs
  split at hs
  · cases hs
  · omega

theorem endsBy_of_progress (hs : s.step setup l = some s') {F : Future} {work : Work}
    (hf : s.futures[f]? = some F) (hl : l.worker? = some f) (hp : Progress s l F.work work)
    (h : F.work.EndsBy deadline s.now) : work.EndsBy deadline s.now := by
  have hw : s.work? f = some F.work := by simp [work?, hf]
  generalize F.work = w at hw hp h
  cases hp with
  | answer =>
    cases h with
    | running hp hb => exact .running (hp.2 _) hb
  | ask =>
    cases h with
    | looking hnow hk hnext hb => exact .looking hnow hk hnext hb
  | pause =>
    cases h with
    | running hp hb =>
      refine .pausing (k := 0) (by simp) (Nat.zero_le _) (Nat.le_refl _) hp.2 ?_
      have hle := hp.1
      simp only [Action.time] at hle ⊢
      omega
  | @late _ w limits =>
    cases h with
    | pausing hdue hk hnow hnext hb =>
      have hle := Nat.mul_le_mul_right (limits.plan w).pause hk
      exact .running (hnext _) (by omega)
  | look hspent =>
    cases hl
    cases h with
    | @pausing _ _ _ _ k _ _ hdue hk hnow hnext hb =>
      have heq := (Nat.le_antisymm hnow (due_le_of_look hs hw)).trans hdue
      exact .looking heq ((Limits.isSpent_eq_false_iff heq).1 hspent) hnext hb
  | inspect =>
    cases h with
    | looking hnow hk hnext hb => exact .looking hnow hk hnext hb
  | again ha =>
    cases h with
    | looking hnow hk hnext hb =>
      obtain rfl := Polling.Plan.due_of_after ha
      exact .pausing (Limits.now_add_pause hnow) hk (Nat.le_add_right ..) hnext hb
  | @decide _ w limits =>
    cases h with
    | looking hnow hk hnext hb =>
      have hle := Nat.mul_le_mul_right (limits.plan w).pause hk.le
      exact .running (hnext _) (by omega)

/-- The clock stands still but for the passing of time. -/
theorem now_of_step (hs : s.step setup l = some s') :
    s'.now = s.now ∨ ∃ ms, l = .advance ms ∧ s'.now = s.now + ms := by
  cases Move.of_step hs with
  | advance ms => exact .inr ⟨ms, rfl, rfl⟩
  | _ => exact .inl rfl

theorem endsBy_of_step (hs : s.step setup l = some s') (hprompt : (Occurrence.mk s l).Prompt f)
    {w : Work} (hw : s.work? f = some w) (h : w.EndsBy deadline s.now) :
    ∃ w', s'.work? f = some w' ∧ w'.EndsBy deadline s'.now := by
  obtain ⟨F, hf, rfl⟩ := Option.map_eq_some_iff.1 hw
  obtain ⟨F', hf', hchange⟩ := exists_change_of_step hs hf
  refine ⟨F'.work, by simp [work?, hf'], ?_⟩
  cases hchange with
  | start => cases h
  | @progress _ _ work hl hp =>
    rcases now_of_step hs with hnow | ⟨ms, rfl, -⟩
    · exact hnow ▸ endsBy_of_progress hs hf hl hp h
    · cases hl
  | idle driver =>
    rcases now_of_step hs with hnow | ⟨ms, rfl, hnow⟩
    · exact hnow ▸ h
    · rw [hnow]
      exact h.advance (hprompt ms rfl _ hw)

theorem History.endsBy (h : History setup t os u) (hprompt : ∀ o ∈ os, o.Prompt f) {w : Work}
    (hw : t.work? f = some w) (hends : w.EndsBy deadline t.now) :
    ∃ w', u.work? f = some w' ∧ w'.EndsBy deadline u.now := by
  induction h with
  | nil => exact ⟨w, hw, hends⟩
  | snoc _ hs ih =>
    obtain ⟨v, hv, hends⟩ := ih fun o ho => hprompt o (List.mem_append_left _ ho)
    exact endsBy_of_step hs (hprompt _ (by simp)) hv hends

/-- From its start on a future ends in time, whatever other callers, futures and drivers do. -/
theorem ended_in_time {settings : Negotiation.Settings} (hsetup : setup.Negotiates settings)
    (hstart : s.step setup (.start f) = some t) (h : History setup t os u)
    (hprompt : ∀ o ∈ os, o.Prompt f) :
    (∃ r, (u.work? f).bind Work.result? = some r) ∨ u.now ≤ s.now + setup.duration settings := by
  cases Move.of_step hstart with
  | work hl => cases hl
  | @start _ key o since driver hf =>
    have hlt : f < s.futures.length := (List.getElem?_eq_some_iff.1 hf).1
    obtain ⟨w, hw, hends⟩ := h.endsBy hprompt
      (by simp only [work?, List.getElem?_set_self hlt, Option.map_some])
      (.running (setup.task_within_duration hsetup o s.instant) (Nat.le_refl _))
    rcases hends.result_or_le with ⟨r, hr⟩ | hle
    · exact .inl ⟨r, by rw [hw, Option.bind_some, hr]⟩
    · exact .inr hle

end System

/-- By a control plane whose calls take no time a negotiation and an acquisition end in time, and a
valid configuration leaves every wait time for a second look. -/
theorem waits_in_time :
    (∀ (settings : Negotiation.Settings) (store : Policy.Store) (wall : Timestamp)
      (endpoint : String) (item : Catalog.Item) (status : Credential.Status) (partner : String),
      Negotiation.InTime settings
        (Negotiation.negotiate settings store wall endpoint item status partner)) ∧
    (∀ (settings : Negotiation.Settings) (setup : Setup), setup.Negotiates settings →
      (∀ (o : Order) (since : Nat) {σ : Type} (answer : Answering σ) (s : Clocked σ),
        ((setup.task o since).run answer s).2.now ≤ s.now + setup.duration settings) ∧
      ∀ (s t u : System) (f : Nat) (os : List Occurrence), s.step setup (.start f) = some t →
        System.History setup t os u → (∀ o ∈ os, o.Prompt f) →
          (∃ r, (u.work? f).bind Work.result? = some r) ∨
            u.now ≤ s.now + setup.duration settings) ∧
    ∀ c : Configuration, c.check = .ok () → ∀ w : Wait, ∃ limits,
      Limits.make w (c.ttl w) c.credentials.pollInterval = .ok limits ∧
      ∀ {σ : Type} (answer : Answering σ) (s : Clocked σ), ∃ looks,
        w.Watched answer limits s.now s looks (w.run answer limits s).1 (w.run answer limits s).2 ∧
        ((w.run answer limits s).1 = .error (limits.plan w).timeout → 2 ≤ looks) := by
  refine ⟨Negotiation.negotiate_inTime, fun settings setup hsetup => ⟨?_, ?_⟩, fun c hc w => ?_⟩
  · exact fun o since _ answer s =>
      Task.now_run_le (Setup.task_within_duration hsetup o since) answer s
  · exact fun _ _ _ _ _ hstart h hprompt => System.ended_in_time hsetup hstart h hprompt
  · obtain ⟨hpos, hlt⟩ := Configuration.pollInterval_lt_ttl hc w
    refine ⟨⟨c.ttl w, c.credentials.pollInterval, hpos⟩, ?_, fun answer s => ?_⟩
    · simp only [Limits.make, Polling.Plan.make, dif_pos hpos]
      rfl
    · obtain ⟨looks, -, h⟩ := w.exists_watched_run answer
        ⟨c.ttl w, c.credentials.pollInterval, hpos⟩ s
      refine ⟨looks, h, fun hlate => ?_⟩
      have hall := h.maxLooks_le (k := 0) hlate (by simp)
      rw [Nat.zero_add] at hall
      exact Nat.le_trans (Limits.two_le_maxLooks hlt) hall

/-- Processes are started, but they do not get on. -/
def stalled : Answering Unit
  | .call (.startNegotiation _), s => (.ok ⟨"negotiation"⟩, s)
  | .call (.getNegotiationState _), s => (.ok ⟨"REQUESTED"⟩, s)
  | .call c, s => (.error (.request c.method), s)
  | .stored .., s => (none, s)

def stalledOrder : Order :=
  ⟨"https://provider", "partner", Negotiation.plainItem, .requiredNew⟩

def stalledSetup (settings : Negotiation.Settings) : Setup where
  negotiator o := Negotiation.negotiate settings Negotiation.anyPurpose (.ofUnix 1) o.endpoint o.item
    o.status o.partner
  requestTtl := 7
  pollInterval := 2

theorem stalledSetup_negotiates (settings : Negotiation.Settings) :
    (stalledSetup settings).Negotiates settings :=
  fun _ => ⟨Negotiation.anyPurpose, .ofUnix 1, rfl⟩

/-- No timer runs as long as these settings ask for. -/
def overlong : Negotiation.Settings :=
  ⟨Polling.longestTimer + 1, 0, Polling.longestTimer + 2, none, ""⟩

/-- A pause that is cut short leaves time for another look, and both pauses together last longer than
one of the full length. -/
theorem negotiate_outlasts_overlong :
    let ended := (((stalledSetup overlong).negotiator stalledOrder).run stalled.recorded
      ⟨((), []), 0⟩).2
    ¬ (ended.now ≤ overlong.negotiationTtl ⌈/⌉ overlong.pollInterval * overlong.pollInterval +
        overlong.transferTtl ⌈/⌉ overlong.pollInterval * overlong.pollInterval) ∧
      ¬ ended.state.2.countP (Event.isCall Call.readsNegotiationState) ≤
        overlong.negotiationTtl ⌈/⌉ overlong.pollInterval := by
  decide +kernel

/-- A look every three milliseconds for ten. -/
def brisk : Negotiation.Settings := ⟨10, 10, 3, none, ""⟩

/-- A future is about to start. -/
def stalledSystem : System :=
  { System.start 10 with futures := [⟨"asset", stalledOrder, 0, .idle, .live⟩] }

/-- A negotiation is started and looked at for the first time. -/
def stalledLook : List Label :=
  let reply (c : Call) := (stalled (.call c) ()).1
  [.answer 0 reply, .pause 0, .look 0, .answer 0 reply, .conclude 0]

/-- How often a brisk negotiation is looked at that does not get on. -/
def stalledReads : Nat :=
  (((stalledSetup brisk).negotiator stalledOrder).run stalled.recorded
    ⟨((), []), 0⟩).2.state.2.countP (Event.isCall Call.readsNegotiationState)

theorem waits_in_time_stalled :
    stalledReads = 4 ∧ stalledReads ≤ 10 ⌈/⌉ 3 ∧
    (∃ t u os, stalledSystem.step (stalledSetup brisk) (.start 0) = some t ∧
      System.History (stalledSetup brisk) t os u ∧ (∀ o ∈ os, o.Prompt 0) ∧
      os.map Occurrence.label = stalledLook ++ [.advance 3] ∧ (u.work? 0).bind Work.result? = none ∧
      u.now ≤ 32) ∧
    System.impatient.check = .ok () ∧
    ∃ limits looks result s,
      Limits.make (.credential "agreement" 0) (System.impatient.ttl (.credential "agreement" 0))
        System.impatient.credentials.pollInterval = .ok limits ∧
      Wait.Watched stalled limits (.credential "agreement" 0) 0 ⟨(), 0⟩ looks result s ∧
      result = .error (limits.plan (.credential "agreement" 0)).timeout ∧ 2 ≤ looks := by
  obtain ⟨hnegotiation, hacquisition, hlooks⟩ := waits_in_time
  refine ⟨by decide +kernel, ?_, ?_, rfl, ?_⟩
  · exact (hnegotiation brisk Negotiation.anyPurpose (.ofUnix 1) "https://provider"
      Negotiation.plainItem .requiredNew "partner").negotiationReads stalled () 0
  · obtain ⟨t, v, hstart, hrun, hnow, w, limits, started, next, hw⟩ :
        ∃ t v, stalledSystem.step (stalledSetup brisk) (.start 0) = some t ∧
          t.run? (stalledSetup brisk) stalledLook = some v ∧ v.now = 0 ∧
          ∃ w limits started next, v.work? 0 = some (.pausing w limits started 3 next) :=
      ⟨_, _, rfl, rfl, rfl, _, _, _, _, rfl⟩
    obtain ⟨os, hlabels, h⟩ := System.History.of_run? hrun
    have hprompt : ∀ o ∈ os ++ [⟨v, .advance 3⟩], o.Prompt 0 := by
      rintro o ho ms hms work hwork
      rcases List.mem_append.1 ho with ho | ho
      · have hlabel := hlabels ▸ List.mem_map_of_mem ho
        simp [stalledLook, hms] at hlabel
      · cases List.mem_singleton.1 ho
        cases hms
        cases hw.symm.trans hwork
        simp [Work.Allows, hnow]
    have hu := h.snoc (rfl : v.step (stalledSetup brisk) (.advance 3) = some _)
    refine ⟨t, _, _, hstart, hu, hprompt, by simp [hlabels], congrArg (·.bind Work.result?) hw, ?_⟩
    rcases (hacquisition brisk _ (stalledSetup_negotiates brisk)).2 _ _ _ 0 _ hstart hu hprompt with
      ⟨r, hr⟩ | hle
    · cases (congrArg (·.bind Work.result?) hw).symm.trans hr
    · exact hle
  · obtain ⟨limits, hmake, h⟩ := hlooks System.impatient rfl (.credential "agreement" 0)
    obtain ⟨looks, hwatched, htwo⟩ := h stalled ⟨(), 0⟩
    cases hmake
    exact ⟨_, looks, _, _, rfl, hwatched, rfl, htwo rfl⟩

end Acquisition

end ConsumerConnector
