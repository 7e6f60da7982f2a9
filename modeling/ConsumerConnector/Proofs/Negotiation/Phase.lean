import ConsumerConnector.Proofs.Negotiation.Course

/-!
The phases of a negotiation. The reply to a first call names the process that is polled from then on,
and every poll but the last leads on to another one.
-/

namespace ConsumerConnector

open Contract

namespace Event

/-- Nothing may follow: a call has failed, what it came to is a failure, or time is up. -/
def Fails : Event → Prop
  | sent (.getNegotiationState _) (some (.ok report))
  | sent (.getTransferState _) (some (.ok report)) => report.process.isFailure
  | sent (.getNegotiation _) (some (.ok n)) => n.agreement.filter (!·.isEmpty) = none
  | sent _ (some (.error _)) | late _ => True
  | sent .. => False

/-- The process that is started. -/
def starts? : Event → Option Wait
  | sent (.startNegotiation _) (some (.ok created)) => some (.agreement created.id)
  | sent (.startTransfer _) (some (.ok created)) => some (.transfer created.id)
  | _ => none

/-- The process that is polled. -/
def polls? : Event → Option Wait
  | sent (.getNegotiationState id) _ | sent (.getNegotiation id) _ => some (.agreement id)
  | sent (.getTransferState id) _ | sent (.getTransfer id) _ => some (.transfer id)
  | sent .. => none
  | late w => some w

end Event

/-- Polls of one process, the last of which may fail unless they come to something. -/
structure Polls (w : Wait) (es : List Event) (succeeded : Prop) : Prop where
  own : ∀ e ∈ es, e.polls? = some w
  stops : es.Pairwise fun e _ => ¬ e.Fails
  sound : succeeded → ∀ e ∈ es, ¬ e.Fails

namespace Polls

variable {w : Wait} {es es' : List Event} {succeeded : Prop}

theorem nil : Polls w [] succeeded := ⟨nofun, .nil, nofun⟩

theorem mono {succeeded' : Prop} (h : Polls w es succeeded) (himp : succeeded' → succeeded) :
    Polls w es succeeded' :=
  ⟨h.own, h.stops, fun hs => h.sound (himp hs)⟩

theorem append (h : Polls w es True) (h' : Polls w es' succeeded) :
    Polls w (es ++ es') succeeded where
  own e he := (List.mem_append.1 he).elim (h.own e) (h'.own e)
  stops := List.pairwise_append.2 ⟨h.stops, h'.stops, fun e he _ _ => h.sound trivial e he⟩
  sound hs e he := (List.mem_append.1 he).elim (h.sound trivial e) (h'.sound hs e)

theorem singleton {e : Event} (hown : e.polls? = some w) (hsound : succeeded → ¬ e.Fails) :
    Polls w [e] succeeded where
  own := by simpa using hown
  stops := List.pairwise_singleton ..
  sound hs := by simpa using hsound hs

theorem cons {e : Event} (hown : e.polls? = some w) (hsound : ¬ e.Fails)
    (h : Polls w es succeeded) : Polls w (e :: es) succeeded :=
  append (singleton hown fun _ => hsound) h

end Polls

/-- A negotiation is found to be finalized, and its agreement is read at once. -/
def Agrees (id agreement : String) (es : List Event) : Prop :=
  ∃ report n, es = [.sent (.getNegotiationState id) (some (.ok report)),
      .sent (.getNegotiation id) (some (.ok n))] ∧
    report.process = .finalized ∧ n.agreement = some agreement ∧ agreement ≠ ""

namespace Look.Course

variable {es : List Event}

theorem agreement_polls (id : String) {result : Option (Except ClientError (Option String))}
    (h : (agreement id).Course es result) :
    Polls (.agreement id) es (Succeeds result) ∧
      ∀ a, result = some (.ok (some a)) → Agrees id a es := by
  have unsuccessful : ∀ {es}, Polls (.agreement id) es False → ¬ Succeeds result →
      Polls (.agreement id) es (Succeeds result) ∧
        ∀ a, result = some (.ok (some a)) → Agrees id a es :=
    fun h hfail => ⟨h.mono hfail, fun a ha => (hfail ⟨_, ha⟩).elim⟩
  rcases of_call_andThen h with ⟨rfl, hfail⟩ | ⟨_, rfl, -, hfail⟩ | ⟨report, rest, rfl, hrest⟩
  · exact unsuccessful .nil hfail
  · exact unsuccessful (.singleton rfl False.elim) hfail
  · split at hrest
    · next hstate =>
      have hgood : ¬ (Event.sent (.getNegotiationState id) (some (.ok report))).Fails := by
        simp [Event.Fails, hstate, ProcessState.isFailure]
      rcases of_call_andThen hrest with ⟨rfl, hfail⟩ | ⟨_, rfl, -, hfail⟩ | ⟨n, late, rfl, hlate⟩
      · exact unsuccessful (.singleton rfl fun _ => hgood) hfail
      · exact unsuccessful (.cons rfl hgood (.singleton rfl False.elim)) hfail
      · split at hlate
        · next found hfound =>
          obtain ⟨rfl, hresult⟩ := Program.Course.of_pure hlate
          have hread : ¬ (Event.sent (.getNegotiation id) (some (.ok n))).Fails := by
            simp [Event.Fails, hfound]
          refine ⟨.cons rfl hgood (.singleton rfl fun _ => hread), fun a ha => ?_⟩
          rcases hresult with rfl | rfl <;> cases ha
          obtain ⟨hn, hfull⟩ := Option.filter_eq_some_iff.1 hfound
          exact ⟨report, n, rfl, hstate, hn, by simpa using hfull⟩
        · obtain ⟨rfl, hfail⟩ := Program.Course.of_throw hlate
          exact unsuccessful (.cons rfl hgood (.singleton rfl False.elim)) hfail
    · split at hrest
      · obtain ⟨rfl, hfail⟩ := Program.Course.of_throw hrest
        exact unsuccessful (.singleton rfl False.elim) hfail
      · next hstate =>
        obtain ⟨rfl, hresult⟩ := Program.Course.of_pure hrest
        refine ⟨.singleton rfl fun _ => hstate, fun a ha => ?_⟩
        rcases hresult with rfl | rfl <;> cases ha

theorem transfer_polls (id : String) {result : Option (Except ClientError (Option Transfer))}
    (h : (transfer id).Course es result) : Polls (.transfer id) es (Succeeds result) := by
  rcases of_call_andThen h with ⟨rfl, -⟩ | ⟨_, rfl, -, hfail⟩ | ⟨report, rest, rfl, hrest⟩
  · exact .nil
  · exact .singleton rfl (absurd · hfail)
  · have read : ¬ report.process.isFailure →
        (call (.getTransfer id) >>= fun t => return some t : Look (Option Transfer)).Course rest
          result → Polls (.transfer id)
            (.sent (.getTransferState id) (some (.ok report)) :: rest) (Succeeds result) := by
      intro hgood hread
      rcases of_call_andThen hread with ⟨rfl, -⟩ | ⟨_, rfl, -, hfail⟩ | ⟨t, late, rfl, hlate⟩
      · exact .singleton rfl fun _ => hgood
      · exact .cons rfl hgood (.singleton rfl (absurd · hfail))
      · obtain ⟨rfl, -⟩ := Program.Course.of_pure hlate
        exact .cons rfl hgood (.singleton rfl fun _ h => h)
    split at hrest
    · next hstate => exact read (by simp [hstate, ProcessState.isFailure]) hrest
    · next hstate => exact read (by simp [hstate, ProcessState.isFailure]) hrest
    · split at hrest
      · obtain ⟨rfl, hfail⟩ := Program.Course.of_throw hrest
        exact .singleton rfl (absurd · hfail)
      · next hgood =>
        obtain ⟨rfl, -⟩ := Program.Course.of_pure hrest
        exact .singleton rfl fun _ => hgood

end Look.Course

namespace Wait.Course

theorem polls {w : Wait} {limits : Limits} {es : List Event}
    {result : Option (Except ClientError w.Result)}
    (hlook : ∀ {es seen}, w.look.Course es seen → Polls w es (Succeeds seen))
    (h : w.Course limits es result) : Polls w es (Succeeds result) := by
  induction h with
  | cut => exact .nil
  | late => exact .singleton rfl nofun
  | caught h => exact (hlook h).mono nofun
  | found h => exact (hlook h).mono fun _ => ⟨_, rfl⟩
  | failed h => exact (hlook h).mono nofun
  | again h _ ih => exact ((hlook h).mono fun _ => ⟨_, rfl⟩).append ih

end Wait.Course

/-- The events of a phase: a process is started, and then it is polled. -/
inductive Phase (c : Call) (w : c.Answer → Wait) (succeeded : Prop) : List Event → Prop
  | unsent (h : ¬ succeeded) : Phase c w succeeded []
  | unstarted {reply : Option c.Reply} (hr : ¬ Succeeds reply) (h : ¬ succeeded) :
      Phase c w succeeded [.sent c reply]
  | started {a : c.Answer} {es : List Event} (h : Polls (w a) es succeeded) :
      Phase c w succeeded (.sent c (some (.ok a)) :: es)

/-- Whatever is polled has been started before. -/
def StartedBefore (es : List Event) : Prop :=
  ∀ before e after w, es = before ++ e :: after → e.polls? = some w →
    ∃ start ∈ before, start.starts? = some w

theorem split_append {es es' before after : List Event} {e : Event}
    (h : es ++ es' = before ++ e :: after) :
    (∃ l, es = before ++ e :: l) ∨ ∃ l, before = es ++ l ∧ es' = l ++ e :: after := by
  rcases List.append_eq_append_iff.1 h with ⟨l, hbefore, hes'⟩ | ⟨l, hes, hafter⟩
  · exact .inr ⟨l, hbefore, hes'⟩
  · cases l with
    | nil => exact .inr ⟨[], by simp [hes], hafter.symm⟩
    | cons d l =>
      obtain ⟨rfl, -⟩ := List.cons.inj hafter
      exact .inl ⟨l, hes⟩

theorem StartedBefore.append {es es' : List Event} (h : StartedBefore es) (h' : StartedBefore es') :
    StartedBefore (es ++ es') := by
  intro before e after w heq hw
  rcases split_append heq with ⟨l, hes⟩ | ⟨l, rfl, hes'⟩
  · exact h before e l w hes hw
  · obtain ⟨start, hmem, hstart⟩ := h' l e after w hes' hw
    exact ⟨start, List.mem_append_right _ hmem, hstart⟩

/-- A reply to the call names the process that it starts. -/
structure Call.Starts (c : Call) (w : c.Answer → Wait) : Prop where
  starts? : ∀ a, (Event.sent c (some (.ok a))).starts? = some (w a)
  polls? : ∀ reply, (Event.sent c reply).polls? = none
  sound : ∀ a, ¬ (Event.sent c (some (.ok a))).Fails

namespace Phase

variable {c : Call} {w : c.Answer → Wait} {succeeded : Prop} {es : List Event}

/-- Every event but the first is a poll of the process that the first one has started. -/
theorem split_cases (h : Phase c w succeeded es) {before after : List Event} {e : Event}
    (heq : es = before ++ e :: after) :
    (before = [] ∧ ∃ reply, e = .sent c reply) ∨
      ∃ a early, before = .sent c (some (.ok a)) :: early ∧ e.polls? = some (w a) := by
  cases h with
  | unsent => simp at heq
  | unstarted =>
    cases before with
    | nil => exact .inl ⟨rfl, _, (List.cons.inj heq).1.symm⟩
    | cons start before => simp at heq
  | @started a polls h =>
    cases before with
    | nil => exact .inl ⟨rfl, _, (List.cons.inj heq).1.symm⟩
    | cons start before =>
      obtain ⟨rfl, rfl⟩ := List.cons.inj heq
      exact .inr ⟨a, before, rfl, h.own e (List.mem_append_right _ (List.mem_cons_self ..))⟩

theorem stops (hc : c.Starts w) (h : Phase c w succeeded es) :
    es.Pairwise fun e _ => ¬ e.Fails := by
  cases h with
  | unsent => exact .nil
  | unstarted => exact List.pairwise_singleton ..
  | started h => exact List.pairwise_cons.2 ⟨fun _ _ => hc.sound _, h.stops⟩

theorem sound (hc : c.Starts w) (h : Phase c w succeeded es) (hs : succeeded) :
    ∀ e ∈ es, ¬ e.Fails := by
  cases h with
  | unsent h => exact (h hs).elim
  | unstarted _ h => exact (h hs).elim
  | started h => exact List.forall_mem_cons.2 ⟨hc.sound _, h.sound hs⟩

theorem startedBefore (hc : c.Starts w) (h : Phase c w succeeded es) : StartedBefore es := by
  intro before e after v heq hv
  rcases h.split_cases heq with ⟨-, reply, rfl⟩ | ⟨a, early, rfl, ha⟩
  · cases (hc.polls? reply).symm.trans hv
  · exact ⟨_, List.mem_cons_self .., (hc.starts? a).trans (ha.symm.trans hv)⟩

theorem countP_le_one (h : Phase c w succeeded es) {p : Event → Bool}
    (hp : ∀ e, p e → e.polls? = none) : es.countP p ≤ 1 := by
  cases h with
  | unsent => exact Nat.zero_le 1
  | unstarted => exact List.countP_le_length
  | @started a polls h =>
    have hpolls : polls.countP p = 0 := by
      refine List.countP_eq_zero.2 fun e he hpe => ?_
      cases (hp e hpe).symm.trans (h.own e he)
    rw [List.countP_cons, hpolls]
    split <;> decide

theorem countP_eq_zero (h : Phase c w succeeded es) {p : Event → Bool}
    (hp : ∀ e, p e → e.polls? = none) (hc : ∀ reply, p (.sent c reply) = false) :
    es.countP p = 0 := by
  refine List.countP_eq_zero.2 fun e he hpe => ?_
  obtain ⟨before, after, heq⟩ := List.append_of_mem he
  rcases h.split_cases heq with ⟨-, reply, rfl⟩ | ⟨a, -, -, ha⟩
  · cases (hc reply).symm.trans hpe
  · cases (hp e hpe).symm.trans ha

end Phase

namespace Task.Course

variable {es : List Event}

theorem of_awaitOrFail {w : Wait} {ttl interval : Nat} {failure : ClientError → ClientError}
    {result : Option (Except ClientError w.Result)}
    (hlook : ∀ {es seen}, w.look.Course es seen → Polls w es (Succeeds seen))
    (h : ((await w ttl interval).onTimeout failure).Course es result) :
    Polls w es (Succeeds result) ∧ ∀ a, result = some (.ok a) →
      ∃ early last, es = early ++ last ∧ w.look.Course last (some (.ok (some a))) := by
  obtain ⟨timely, h, htimely⟩ := of_onTimeout h
  have hmono : Succeeds result → Succeeds timely := fun ⟨a, ha⟩ => ⟨a, htimely a ha⟩
  rcases of_await h with ⟨rfl, hfail⟩ | ⟨limits, waited, h, hwaited⟩
  · exact ⟨.nil, fun a ha => (hfail (hmono ⟨a, ha⟩)).elim⟩
  · refine ⟨(h.polls hlook).mono fun ⟨a, ha⟩ => ⟨a, hwaited a (htimely a ha)⟩, fun a ha => ?_⟩
    rw [hwaited a (htimely a ha)] at h
    exact h.of_found

end Task.Course

namespace Negotiation

variable {settings : Settings} {address : String} {item : Catalog.Item} {es : List Event}

theorem contract_phase {result : Option (Except ClientError String)}
    (h : (contract settings address item).Course es result) :
    Phase (.startNegotiation (negotiationRequest address item)) (fun created => .agreement created.id)
      (Succeeds result) es ∧
      ∀ a, result = some (.ok a) → ∃ id early last, es = early ++ last ∧ Agrees id a last := by
  rcases Task.Course.of_call_andThen h with
    ⟨rfl, hfail⟩ | ⟨_, rfl, hreply, hfail⟩ | ⟨created, polls, rfl, hpolls⟩
  · exact ⟨.unsent hfail, fun a ha => (hfail ⟨a, ha⟩).elim⟩
  · exact ⟨.unstarted hreply hfail, fun a ha => (hfail ⟨a, ha⟩).elim⟩
  · obtain ⟨hpolls, hfound⟩ := Task.Course.of_awaitOrFail (w := .agreement created.id)
      (fun h => (Look.Course.agreement_polls created.id h).1) hpolls
    refine ⟨.started hpolls, fun a ha => ?_⟩
    obtain ⟨early, last, rfl, hlast⟩ := hfound a ha
    exact ⟨created.id, _ :: early, last, rfl, (Look.Course.agreement_polls created.id hlast).2 a rfl⟩

theorem transfer_phase {q : TransferRequest} {result : Option (Except ClientError Transfer)}
    (h : (transfer settings q).Course es result) :
    Phase (.startTransfer q) (fun created => .transfer created.id) (Succeeds result) es := by
  rcases Task.Course.of_call_andThen h with
    ⟨rfl, hfail⟩ | ⟨_, rfl, hreply, hfail⟩ | ⟨created, polls, rfl, hpolls⟩
  · exact .unsent hfail
  · exact .unstarted hreply hfail
  · exact .started (Task.Course.of_awaitOrFail (w := .transfer created.id)
      (Look.Course.transfer_polls created.id) hpolls).1

theorem startNegotiation_starts (q : NegotiationRequest) :
    Call.Starts (.startNegotiation q) fun created => .agreement created.id :=
  ⟨fun _ => rfl, fun _ => rfl, fun _ h => h⟩

theorem startTransfer_starts (q : TransferRequest) :
    Call.Starts (.startTransfer q) fun created => .transfer created.id :=
  ⟨fun _ => rfl, fun _ => rfl, fun _ h => h⟩

end Negotiation

end ConsumerConnector
