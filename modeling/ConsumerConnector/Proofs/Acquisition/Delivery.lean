import ConsumerConnector.Proofs.Acquisition.Provenance

/-!
A future that comes to a credential has found it in the cache: it was written there under the contract
that the negotiation has ended with, and not before the future started. What the credential itself
says, of its token or anything else, plays no part.
-/

namespace ConsumerConnector.Acquisition

open Contract

/-- A credential is waited for under the contract of the transfer, or else of the expired one. -/
def Awaits (o : Order) (t : Transfer) (contract : String) : Prop :=
  (t.contract ≠ "" ∧ contract = t.contract) ∨
    (t.contract = "" ∧ ∃ stale, o.status = .expired stale ∧ contract = stale.contract)

theorem awaited_eq_ok {o : Order} {t : Transfer} {contract : String} :
    awaited o t = .ok contract ↔ Awaits o t contract := by
  unfold awaited Awaits
  by_cases ht : t.contract = ""
  · cases o.status with
    | expired stale => simpa [ht] using eq_comm
    | valid c | requiredNew => simp [ht]
  · simpa [ht] using eq_comm

theorem awaited_eq_error {o : Order} {t : Transfer} (ht : t.contract = "")
    (hs : ∀ stale, o.status ≠ .expired stale) : awaited o t = .error (noContract t) := by
  cases h : awaited o t with
  | ok contract =>
    rcases awaited_eq_ok.1 h with ⟨hne, -⟩ | ⟨-, stale, hstale, -⟩
    · exact (hne ht).elim
    · exact (hs stale hstale).elim
  | error e =>
    unfold awaited at h
    repeat' split at h
    all_goals cases h
    rfl

namespace Setup

/-- What a future does once a transfer is negotiated. -/
def receive (setup : Setup) (o : Order) (since : Nat) (t : Transfer) : Task Credential :=
  match awaited o t with
  | .ok contract => Task.await (.credential contract since) setup.requestTtl setup.pollInterval
  | .error e => Task.fail e

theorem task_eq (setup : Setup) (o : Order) (since : Nat) :
    setup.task o since = setup.negotiator o >>= setup.receive o since := rfl

/-- A credential is waited for once, by the limits of the setup. -/
theorem receive_cases {setup : Setup} {o : Order} {t : Transfer} {contract : String} {since : Nat}
    {rs : List ((a : Action) × a.Reply)} {p : TaskTree Credential}
    (ha : awaited o t = .ok contract) (h : (ExceptT.run (setup.receive o since t)).Follows rs p) :
    (rs = [] ∧ ∃ limits next, p = .perform (.wait (.credential contract since) limits) next ∧
      ∀ r, next r = .done r) ∨
    (∃ limits r, rs = [⟨.wait (.credential contract since) limits, r⟩] ∧ p = .done r) ∨
    (rs = [] ∧ ∃ e, p = .done (.error e)) := by
  simp only [receive, ha, Task.await] at h
  split at h
  · next limits _ =>
    cases h with
    | nil => exact .inl ⟨rfl, limits, _, rfl, fun _ => rfl⟩
    | cons h =>
      obtain ⟨rfl, rfl⟩ := h.of_done
      exact .inr (.inl ⟨limits, _, rfl, rfl⟩)
  · next e _ =>
    obtain ⟨rfl, rfl⟩ := Program.Follows.of_done (a := Except.error e) h
    exact .inr (.inr ⟨rfl, e, rfl⟩)

end Setup

/-- A future has found a credential under a contract, written there last and since an instant. -/
def Delivered (os : List Occurrence) (f : Nat) (contract : String) (since : Nat) (c : Credential) :
    Prop :=
  ∃ before u after w, os = before ++ ⟨u, .inspect f⟩ :: after ∧
    System.lastWrite? before contract = some w ∧
    u.cache.entries.get? contract = some w.entry ∧ w.credential = c ∧ since ≤ w.instant

/-- A look for a credential has not been taken yet, or has found what it has found. -/
def Work.Sees (P : String → Nat → Credential → Prop) : Work → Prop
  | .looking (.credential contract since) _ _ look _ =>
    look = ExceptT.run (Look.stored contract since) ∨ look = .done (.ok none) ∨
      ∃ c, look = .done (.ok (some c)) ∧ P contract since c
  | _ => True

/-- A future has started and its negotiation has ended with a transfer. -/
structure Negotiated (setup : Setup) (os : List Occurrence) (f : Nat) (F : Future) (t : Transfer) :
    Prop where
  started : F.work ≠ .idle
  ended : ∃ early late, performed f os = early ++ late ∧
    (ExceptT.run (setup.negotiator F.order)).Follows early (.done (.ok t))

theorem Delivered.concat {os : List Occurrence} {f : Nat} {contract : String} {since : Nat}
    {c : Credential} (h : Delivered os f contract since c) (o : Occurrence) :
    Delivered (os ++ [o]) f contract since c := by
  obtain ⟨before, u, after, w, rfl, hw⟩ := h
  exact ⟨before, u, after ++ [o], w, by simp, hw⟩

theorem Work.Sees.mono {P Q : String → Nat → Credential → Prop} {w : Work} (h : w.Sees P)
    (himp : ∀ contract since c, P contract since c → Q contract since c) : w.Sees Q := by
  unfold Sees at *
  split
  · rcases h with h | h | ⟨c, h, hc⟩
    · exact .inl h
    · exact .inr (.inl h)
    · exact .inr (.inr ⟨c, h, himp _ _ _ hc⟩)
  · trivial

namespace System

variable {setup : Setup} {storage : Nat} {s s' : System} {l : Label} {os : List Occurrence} {f : Nat}
  {F : Future}

/-- A look at the cache finds what was written last. -/
theorem History.delivered_of_storedSince? (h : History setup (start storage) os s)
    {contract : String} {since : Nat} {c : Credential}
    (hc : s.cache.storedSince? contract since = some c) :
    Delivered (os ++ [⟨s, .inspect f⟩]) f contract since c := by
  obtain ⟨instant, he, hsince⟩ := Credential.Cache.storedSince?_eq_some.1 hc
  obtain ⟨w, hw, heq⟩ := h.lastWrite?_of_entry he
  cases heq
  exact ⟨os, s, [], w, rfl, hw, he, rfl, hsince⟩

/-- Whatever a future sees has been written. -/
theorem History.sees (h : History setup (start storage) os s) (hf : s.futures[f]? = some F) :
    F.work.Sees (Delivered os f) := by
  induction h generalizing F with
  | nil => cases hf
  | @snoc os t u l h hstep ih =>
    rcases origin_of_step hstep hf with ⟨G, hG, hchange⟩ | ⟨i, q, o, -, -, -, rfl⟩
    · have hbefore : G.work.Sees (Delivered (os ++ [⟨t, l⟩]) f) :=
        (ih hG).mono fun _ _ _ hc => hc.concat _
      cases hchange with
      | idle => exact hbefore
      | start => trivial
      | @progress _ _ work hl hp =>
        generalize G.work = w at hp hbefore
        cases hp with
        | answer | pause | late | again | decide => trivial
        | @look _ w =>
          cases w with
          | credential => exact .inl rfl
          | agreement | transfer => trivial
        | @ask _ _ w =>
          cases w with
          | credential => rcases hbefore with h | h | ⟨c, h, -⟩ <;> cases h
          | agreement | transfer => trivial
        | @inspect g w =>
          cases w with
          | credential =>
            cases hl
            rcases hbefore with heq | heq | ⟨c, heq, -⟩
            · cases heq
              cases hc : t.cache.storedSince? _ _ with
              | none => exact .inr (.inl rfl)
              | some c => exact .inr (.inr ⟨c, rfl, h.delivered_of_storedSince? hc⟩)
            · cases heq
            · cases heq
          | agreement | transfer => trivial
    · trivial

/-- A wait for a credential that succeeds does so by a look. -/
theorem looking_of_performed? {w work : Work} {contract : String} {since : Nat} {limits : Limits}
    {c : Credential} (hp : Progress s l w work) (hl : l.worker? = some f)
    (hw : s.work? f = some w) (h : (Occurrence.mk s l).performed? f =
      some ⟨.wait (.credential contract since) limits, .ok c⟩) :
    ∃ started next,
      w = .looking (.credential contract since) limits started (.done (.ok (some c))) next := by
  cases hp with
  | answer | ask | pause | inspect => simp [Occurrence.performed?, hl, hw] at h
  | late hs =>
    simp only [Occurrence.performed?, hl, hw, hs] at h
    cases h
  | look hs => simp [Occurrence.performed?, hl, hw, hs] at h
  | again ha => simp [Occurrence.performed?, hl, hw, ha] at h
  | decide ha =>
    simp only [Occurrence.performed?, hl, hw, ha] at h
    cases h
    have hseen := Polling.Plan.result_of_after ha
    cases hseen
    exact ⟨_, _, rfl⟩

theorem History.delivered_of_performed (h : History setup (start storage) os s) {contract : String}
    {since : Nat} {limits : Limits} {c : Credential}
    (hc : ⟨.wait (.credential contract since) limits, .ok c⟩ ∈ performed f os) :
    Delivered os f contract since c := by
  induction h with
  | nil => cases hc
  | @snoc os t u l h hstep ih =>
    rw [performed_concat, List.mem_append, Option.mem_toList] at hc
    rcases hc with hc | hc
    · exact (ih hc).concat _
    · have hl : l.worker? = some f := Occurrence.worker?_of_performed? hc
      obtain ⟨F, work, hF, hp, -⟩ := progress_of_step hstep hl
      obtain ⟨started, next, hw⟩ := looking_of_performed? hp hl (by simp [work?, hF]) hc
      have hsees := h.sees hF
      rw [hw] at hsees
      rcases hsees with heq | heq | ⟨d, heq, hd⟩
      · cases heq
      · cases heq
      · cases heq
        exact hd.concat _

/-- What is left to do once a transfer is negotiated. -/
theorem History.receiving (h : History setup (start storage) os s) (hf : s.futures[f]? = some F)
    {t : Transfer} (hn : Negotiated setup os f F t) :
    ∃ late p, F.work.program? = some p ∧
      (ExceptT.run (setup.receive F.order F.since t)).Follows late p := by
  have hunder := h.underway f
  rw [hf] at hunder
  obtain ⟨hne, early, late, hperformed, hearly⟩ := hn
  cases hunder with
  | idle hw => exact (hne hw).elim
  | @begun _ _ p _ _ hp hfollows =>
    rw [hperformed, Setup.task_eq] at hfollows
    exact ⟨late, p, hp, hearly.of_andThen_append hfollows⟩

theorem History.negotiated_of_result (h : History setup (start storage) os s)
    (hf : s.futures[f]? = some F) {c : Credential} (hr : F.work.result? = some (.ok c)) :
    ∃ t contract u, Negotiated setup os f F t ∧ awaited F.order t = .ok contract ∧
      ⟨u, .start f⟩ ∈ os ∧ u.instant = F.since ∧ Delivered os f contract F.since c := by
  have hne : F.work ≠ .idle := by
    intro hw
    rw [hw] at hr
    cases hr
  have hunder := h.underway f
  rw [hf] at hunder
  cases hunder with
  | idle hw => exact (hne hw).elim
  | @begun _ u p hstart hu hp hfollows =>
    obtain rfl := Option.some.inj (hp.symm.trans (Work.program?_eq_done.2 hr))
    rw [Setup.task_eq] at hfollows
    obtain ⟨t, early, late, hperformed, hearly, hlate⟩ := hfollows.of_andThen_ok
    have hn : Negotiated setup os f F t := ⟨hne, early, late, hperformed, hearly⟩
    cases ha : awaited F.order t with
    | error e =>
      simp only [Setup.receive, ha] at hlate
      cases (Program.Follows.of_done (a := Except.error e) hlate).2
    | ok contract =>
      rcases Setup.receive_cases ha hlate with
        ⟨-, limits, next, heq, -⟩ | ⟨limits, r, rfl, heq⟩ | ⟨-, e, heq⟩
      · cases heq
      · cases heq
        have hmem : ⟨.wait (.credential contract F.since) limits, .ok c⟩ ∈ performed f os := by
          simp [hperformed]
        exact ⟨t, contract, u, hn, ha, hstart, hu, h.delivered_of_performed hmem⟩
      · cases heq

/-- A look after the negotiation is one at the cache, under the contract of the transfer. -/
theorem History.work?_of_inspect (h : History setup (start storage) os s)
    (hf : s.futures[f]? = some F) {t : Transfer} {contract : String}
    (hn : Negotiated setup os f F t) (ha : awaited F.order t = .ok contract)
    (hs : s.step setup (.inspect f) = some s') :
    ∃ limits started next, s'.work? f = some (.looking (.credential contract F.since) limits started
      (.done (.ok (s.cache.storedSince? contract F.since))) next) ∧ ∀ r, next r = .done r := by
  obtain ⟨late, p, hp, hlate⟩ := h.receiving hf hn
  obtain ⟨G, work, hG, hprogress, rfl⟩ := progress_of_step hs rfl
  cases hf.symm.trans hG
  have hsees := h.sees hf
  generalize hw : F.work = w at hprogress hp hsees
  cases hprogress with
  | inspect =>
    rcases Setup.receive_cases ha hlate with
      ⟨-, limits, next, rfl, hnext⟩ | ⟨limits, r, -, rfl⟩ | ⟨-, e, rfl⟩
    · cases hp
      rcases hsees with heq | heq | ⟨c, heq, -⟩
      · cases heq
        exact ⟨_, _, _, work?_setWork_self hf, hnext⟩
      · cases heq
      · cases heq
    · cases hp
    · cases hp

theorem step_conclude_of_found {w : Wait} {limits : Limits} {started : Nat} {r : w.Result}
    {next : Except ClientError w.Result → TaskTree Credential}
    (hw : s.work? f = some (.looking w limits started (.done (.ok (some r))) next)) :
    s.step setup (.conclude f) = some (s.setWork f (.running (next (.ok r)))) := by
  simp [step, conclude?, hw, Polling.Plan.after]

theorem step_conclude_of_none (setup : Setup) {w : Wait} {limits : Limits} {started : Nat}
    {next : Except ClientError w.Result → TaskTree Credential}
    (hw : s.work? f = some (.looking w limits started (.done (.ok none)) next)) :
    ∃ due, s.step setup (.conclude f) =
      some (s.setWork f (.pausing w limits started due next)) :=
  ⟨s.now + (limits.plan w).pause, by
    simp [step, conclude?, hw, Polling.Plan.after]⟩

/-- A future comes to a credential exactly by a look that finds it stored since the future started,
under the contract of the transfer or else of the expired credential that its caller has found. -/
theorem resolved_by_delivery (h : History setup (start storage) os s)
    (hf : s.futures[f]? = some F) :
    (∀ c, F.work.result? = some (.ok c) →
      ∃ t contract u, Negotiated setup os f F t ∧ Awaits F.order t contract ∧
        ⟨u, .start f⟩ ∈ os ∧ u.instant = F.since ∧ Delivered os f contract F.since c) ∧
    (∃ i q, Registered os i q F.order f ∧ q.key = F.key ∧ Classified os i q F.order.status) ∧
    (∀ t, Negotiated setup os f F t → t.contract = "" →
      (∀ stale, F.order.status ≠ .expired stale) → F.work.result? =
        some (.error (.transferProcess t.id "transfer process carries no contract id"))) ∧
    (∀ t contract s₁ os' s₂, Negotiated setup os f F t → Awaits F.order t contract →
      s.step setup (.inspect f) = some s₁ → History setup s₁ os' s₂ →
      (∀ o ∈ os', o.label.worker? ≠ some f) →
      ∃ s₃, s₂.step setup (.conclude f) = some s₃ ∧
        ∀ c, (s₃.work? f).bind Work.result? = some (.ok c) ↔
          ∃ instant, s.cache.entries.get? contract = some ⟨c, instant⟩ ∧ F.since ≤ instant) := by
  refine ⟨?_, h.registered_of_future hf, ?_, ?_⟩
  · intro c hr
    obtain ⟨t, contract, u, hn, ha, hrest⟩ := h.negotiated_of_result hf hr
    exact ⟨t, contract, u, hn, awaited_eq_ok.1 ha, hrest⟩
  · intro t hn ht hstatus
    obtain ⟨late, p, hp, hlate⟩ := h.receiving hf hn
    simp only [Setup.receive, awaited_eq_error ht hstatus] at hlate
    obtain ⟨-, rfl⟩ := Program.Follows.of_done (a := Except.error (noContract t)) hlate
    exact Work.program?_eq_done.1 hp
  · intro t contract s₁ os' s₂ hn ha hs hos hl
    obtain ⟨limits, started, next, hw, hnext⟩ :=
      h.work?_of_inspect hf hn (awaited_eq_ok.2 ha) hs
    replace hw := hos.work?_eq hl hw nofun
    obtain ⟨G, hG, -⟩ := Option.map_eq_some_iff.1 hw
    simp only [← Credential.Cache.storedSince?_eq_some]
    cases hfound : s.cache.storedSince? contract F.since with
    | none =>
      rw [hfound] at hw
      obtain ⟨due, hconclude⟩ := step_conclude_of_none setup hw
      refine ⟨_, hconclude, fun c => ?_⟩
      simp [work?_setWork_self hG, Work.result?]
    | some d =>
      rw [hfound] at hw
      refine ⟨_, step_conclude_of_found hw, fun c => ?_⟩
      simp [work?_setWork_self hG, Work.result?, hnext]

/-- A transfer under a contract is there at once. -/
def prompt (contract : String) : Setup :=
  ⟨fun _ => pure ⟨"transfer", "STARTED", contract, "asset", none⟩, 10, 1⟩

def tokenless (id : String) : Credential :=
  ⟨id, "agreement", "https://data", "Authorization", none, ∅⟩

/-- One credential comes before the future starts and another one after its first look. -/
def lateDelivery : List Label :=
  [.deliver (.stored "agreement" (tokenless "early")), .elapse 1, .call someRequest, .enter 0,
    .classify 0 (.ofUnix 0), .join 0, .register 0, .start 0, .pause 0, .look 0, .inspect 0,
    .conclude 0, .deliver (.stored "agreement" (tokenless "late")), .advance 1, .look 0, .inspect 0,
    .conclude 0]

theorem resolved_by_delivery_lateDelivery :
    (∃ os s F contract, History (prompt "agreement") (start 10) os s ∧
      os.map Occurrence.label = lateDelivery ∧ s.futures[0]? = some F ∧
      F.work.result? = some (.ok (tokenless "late")) ∧
      Delivered os 0 contract F.since (tokenless "late")) ∧
    ∃ os s F, History (prompt "") (start 10) os s ∧
      os.map Occurrence.label = lateDelivery.take 8 ∧ s.futures[0]? = some F ∧
      F.work.result? =
        some (.error (.transferProcess "transfer" "transfer process carries no contract id")) := by
  constructor
  · obtain ⟨os, hlabels, h⟩ :=
      History.of_run? (rfl : (start 10).run? (prompt "agreement") lateDelivery = some _)
    obtain ⟨t, contract, u, -, -, -, -, hdelivered⟩ :=
      (resolved_by_delivery h (f := 0) rfl).1 (tokenless "late") rfl
    exact ⟨os, _, _, contract, h, hlabels, rfl, rfl, hdelivered⟩
  · obtain ⟨os, hlabels, h⟩ :=
      History.of_run? (rfl : (start 10).run? (prompt "") (lateDelivery.take 8) = some _)
    obtain ⟨-, -, hnone, -⟩ := resolved_by_delivery h (f := 0) rfl
    exact ⟨os, _, _, h, hlabels, rfl, hnone _ ⟨nofun, [], _, rfl, .nil _⟩ rfl nofun⟩

end System

end ConsumerConnector.Acquisition
