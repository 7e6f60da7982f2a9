import ConsumerConnector.Proofs.Negotiation.Sequel

/-!
What is known of the transfer that a negotiation ends with. It was reported to run before it was read in
full, and it is handed on as it was read: whether it still runs is up to the control plane.
-/

namespace ConsumerConnector

open Contract

namespace Contract

/-- A transfer in such a state can be used. -/
def ProcessState.IsRunning (state : ProcessState) : Prop := state = .started ∨ state = .completed

instance (state : ProcessState) : Decidable state.IsRunning :=
  inferInstanceAs (Decidable (state = .started ∨ state = .completed))

def Transfer.process (t : Transfer) : ProcessState := .parse t.state

end Contract

def Event.reads? : Event → Option Transfer
  | sent (.getTransfer _) (some (.ok t)) => some t
  | _ => none

theorem Event.polls?_of_reads? {e : Event} {t : Transfer} (h : e.reads? = some t) :
    ∃ id, e.polls? = some (.transfer id) := by
  unfold reads? at h
  split at h
  · exact ⟨_, rfl⟩
  · cases h

/-- The report that a transfer is running, and the transfer as it is read next. -/
def ReadBack (id : String) (report : StateReport) (t : Transfer) (es : List Event) : Prop :=
  es = [.sent (.getTransferState id) (some (.ok report)), .sent (.getTransfer id) (some (.ok t))] ∧
    report.process.IsRunning

/-- No transfer stops running between a report and the read that follows. -/
def Steady (es : List Event) : Prop :=
  ∀ before id report t last after, es = before ++ last ++ after → ReadBack id report t last →
    t.process.IsRunning

/-- The one transfer that is read is running if and only if none has stopped before it was read. -/
theorem ReadBack.isRunning_iff {id : String} {report : StateReport} {t : Transfer}
    {early last : List Event} (h : ReadBack id report t last)
    (hreads : (early ++ last).filterMap Event.reads? = [t]) :
    t.process.IsRunning ↔ Steady (early ++ last) := by
  constructor
  · rintro hrunning before id' report' t' last' after heq ⟨rfl, -⟩
    -- Only one transfer is read at all, so it is this one wherever the pair stands.
    have hmem : t' ∈ (early ++ last).filterMap Event.reads? := by
      rw [heq]
      simp [Event.reads?]
    rw [hreads, List.mem_singleton] at hmem
    rwa [hmem]
  · intro hsteady
    exact hsteady early id report t last [] (List.append_nil _).symm h

theorem Program.Course.operation_andThen {Op E : Type} {Reply : Op → Type} {α β ε : Type}
    {shows : (op : Op) → List E → Option (Reply op) → Prop} {op : Op} {es es' : List E}
    (read : Reply op → Except ε α) {f : α → ExceptT ε (Program Op Reply) β} {r : Reply op} {a : α}
    {result : Option (Except ε β)} (hr : read r = .ok a) (hop : shows op es (some r))
    (h : Course shows (ExceptT.run (f a)) es' result) :
    Course shows (ExceptT.run (.mk (.perform op fun r => .done (read r)) >>= f)) (es ++ es')
      result := by
  refine Course.step hop ?_
  change Course shows ((Program.done (read r)).bind (ExceptT.bindCont f)) es' result
  rw [hr]
  exact h

namespace Look.Course

variable {β : Type} {es : List Event}

theorem call_andThen {c : Call} {f : c.Answer → Look β} {a : c.Answer}
    {result : Option (Except ClientError β)} (h : (f a).Course es result) :
    (call c >>= f).Course (.sent c (some (.ok a)) :: es) result := by
  have hop : Query.Course (.call c) [.sent c (some (.ok a))] (some (.ok a)) := .sent c _
  change (call c >>= f).Course ([.sent c (some (.ok a))] ++ es) result
  exact Program.Course.operation_andThen (Except.mapError ClientError.transport) rfl hop h

theorem transfer_cases (id : String) {found : Option Transfer}
    (h : (transfer id).Course es (some (.ok found))) :
    ∃ report, (found = none ∧ es = [.sent (.getTransferState id) (some (.ok report))]) ∨
      ∃ t, found = some t ∧ ReadBack id report t es := by
  rcases of_call_andThen h with ⟨-, hfail⟩ | ⟨_, -, -, hfail⟩ | ⟨report, rest, rfl, hrest⟩
  · exact absurd ⟨_, rfl⟩ hfail
  · exact absurd ⟨_, rfl⟩ hfail
  · refine ⟨report, ?_⟩
    have read : report.process.IsRunning →
        (call (.getTransfer id) >>= fun t => return some t : Look (Option Transfer)).Course rest
          (some (.ok found)) →
        ∃ t, found = some t ∧
          ReadBack id report t (.sent (.getTransferState id) (some (.ok report)) :: rest) := by
      intro hrunning hread
      rcases of_call_andThen hread with ⟨-, hfail⟩ | ⟨_, -, -, hfail⟩ | ⟨t, late, rfl, hlate⟩
      · exact absurd ⟨_, rfl⟩ hfail
      · exact absurd ⟨_, rfl⟩ hfail
      · obtain ⟨rfl, hresult⟩ := Program.Course.of_pure hlate
        rcases hresult with hresult | hresult <;> cases hresult
        exact ⟨t, rfl, rfl, hrunning⟩
    split at hrest
    · next hstate => exact .inr (read (.inl hstate) hrest)
    · next hstate => exact .inr (read (.inr hstate) hrest)
    · split at hrest
      · exact absurd ⟨_, rfl⟩ (Program.Course.of_throw hrest).2
      · obtain ⟨rfl, hresult⟩ := Program.Course.of_pure hrest
        rcases hresult with hresult | hresult <;> cases hresult
        exact .inl ⟨rfl, rfl⟩

theorem transfer_reads (id : String) {found : Option Transfer}
    (h : (transfer id).Course es (some (.ok found))) : es.filterMap Event.reads? = found.toList := by
  obtain ⟨report, ⟨rfl, rfl⟩ | ⟨t, rfl, rfl, -⟩⟩ := transfer_cases id h
  · rfl
  · rfl

theorem of_readBack {id : String} {report : StateReport} {t : Transfer}
    (h : ReadBack id report t es) : (transfer id).Course es (some (.ok (some t))) := by
  obtain ⟨rfl, hrunning⟩ := h
  refine call_andThen ?_
  rcases hrunning with hstate | hstate
  · rw [hstate]
    exact call_andThen (.done _)
  · rw [hstate]
    exact call_andThen (.done _)

end Look.Course

theorem Wait.Course.transfer_reads {id : String} {limits : Limits} {es : List Event} {t : Transfer}
    (h : (Wait.transfer id).Course limits es (some (.ok t))) : es.filterMap Event.reads? = [t] := by
  generalize hresult : (some (.ok t) : Option (Except ClientError (Wait.transfer id).Result)) = result
    at h
  induction h with
  | cut | late | caught | failed => cases hresult
  | found h =>
    cases hresult
    exact Look.Course.transfer_reads id h
  | again h _ ih =>
    have hnone := Look.Course.transfer_reads id h
    rw [List.filterMap_append, hnone, ih hresult]
    rfl

namespace Task.Course

variable {β : Type} {es : List Event}

theorem call_andThen {c : Call} {f : c.Answer → Task β} {a : c.Answer}
    {result : Option (Except ClientError β)} (h : (f a).Course es result) :
    (call c >>= f).Course (.sent c (some (.ok a)) :: es) result := by
  have hop : Action.Course (.call c) [.sent c (some (.ok a))] (some (.ok a)) := .sent c _
  change (call c >>= f).Course ([.sent c (some (.ok a))] ++ es) result
  exact Program.Course.operation_andThen (Except.mapError ClientError.transport) rfl hop h

theorem of_awaitOrFail_found {w : Wait} {ttl interval : Nat} {failure : ClientError → ClientError}
    {result : Option (Except ClientError w.Result)} {a : w.Result}
    (h : ((await w ttl interval).onTimeout failure).Course es result)
    (hresult : result = some (.ok a)) : ∃ limits, w.Course limits es (some (.ok a)) := by
  obtain ⟨timely, h, htimely⟩ := of_onTimeout h
  have hfound : timely = some (.ok a) := htimely a hresult
  rcases of_await h with ⟨-, hfail⟩ | ⟨limits, waited, h, hwaited⟩
  · exact absurd ⟨a, hfound⟩ hfail
  · rw [hwaited a hfound] at h
    exact ⟨limits, h⟩

theorem awaitOrFail_found {w : Wait} {ttl interval : Nat} {failure : ClientError → ClientError}
    (hinterval : 0 < interval) {a : w.Result} (h : w.look.Course es (some (.ok (some a)))) :
    ((await w ttl interval).onTimeout failure).Course es (some (.ok a)) := by
  rw [await, Limits.make_eq_ok w hinterval, ← List.append_nil es]
  exact .step (.wait (.found h)) (.done _)

end Task.Course

namespace Negotiation

variable {settings : Settings} {store : Policy.Store} {now : Timestamp} {endpoint : String}
  {item : Catalog.Item} {partner : String} {t : Transfer} {es : List Event}

/-- What is known of a transfer that a course ends with. -/
structure HandedOn (t : Transfer) (es : List Event) : Prop where
  read_back : ∃ id report early last, es = early ++ last ∧ ReadBack id report t last ∧
    ∃ start ∈ early, start.starts? = some (.transfer id)
  read_once : es.filterMap Event.reads? = [t]

theorem transfer_handedOn {q : TransferRequest} {result : Option (Except ClientError Transfer)}
    (h : (transfer settings q).Course es result) (hresult : result = some (.ok t)) :
    HandedOn t es := by
  rcases Task.Course.of_call_andThen h with ⟨-, hfail⟩ | ⟨_, -, -, hfail⟩ | ⟨created, polls, rfl, hpolls⟩
  · exact absurd ⟨t, hresult⟩ hfail
  · exact absurd ⟨t, hresult⟩ hfail
  · obtain ⟨limits, hwait⟩ := Task.Course.of_awaitOrFail_found (w := .transfer created.id) hpolls hresult
    constructor
    case read_back =>
      obtain ⟨early, last, rfl, hlast⟩ := hwait.of_found
      obtain ⟨report, ⟨hnone, -⟩ | ⟨_, hfound, hread⟩⟩ := Look.Course.transfer_cases created.id hlast
      · cases hnone
      · cases hfound
        exact ⟨created.id, report, _ :: early, last, rfl, hread, _, List.mem_cons_self .., rfl⟩
    case read_once => exact hwait.transfer_reads

theorem contract_reads {address : String} {result : Option (Except ClientError String)}
    (h : (contract settings address item).Course es result) : es.filterMap Event.reads? = [] := by
  refine List.filterMap_eq_nil_iff.2 fun e he => ?_
  obtain ⟨before, after, heq⟩ := List.append_of_mem he
  rcases (contract_phase h).1.split_cases heq with ⟨-, reply, rfl⟩ | ⟨created, -, -, hpolls⟩
  · rfl
  · cases hreads : e.reads? with
    | none => rfl
    | some t =>
      obtain ⟨id, hid⟩ := Event.polls?_of_reads? hreads
      cases hpolls.symm.trans hid

theorem HandedOn.append {early late : List Event} (hearly : early.filterMap Event.reads? = [])
    (h : HandedOn t late) : HandedOn t (early ++ late) := by
  obtain ⟨⟨id, report, before, last, rfl, hread, start, hmem, hstart⟩, honce⟩ := h
  constructor
  case read_back =>
    exact ⟨id, report, early ++ before, last, (List.append_assoc ..).symm, hread, start,
      List.mem_append_right _ hmem, hstart⟩
  case read_once => rw [List.filterMap_append, hearly, honce, List.nil_append]

theorem negotiate_handedOn {status : Credential.Status}
    (h : (negotiate settings store now endpoint item status partner).Course es (some (.ok t))) :
    HandedOn t es := by
  cases status with
  | requiredNew =>
    unfold negotiate at h
    simp only at h
    split at h
    · exact absurd ⟨_, rfl⟩ (Task.Course.of_fail_andThen h).2
    · rcases Program.Course.andThen_cases h with ⟨-, hfail⟩ | ⟨_, early, late, rfl, hearly, hlate⟩
      · exact absurd ⟨_, rfl⟩ hfail
      · exact (transfer_handedOn hlate rfl).append (contract_reads hearly)
  | expired stale => exact transfer_handedOn h rfl
  | valid c => exact absurd ⟨_, rfl⟩ (Task.Course.of_fail_andThen h).2

theorem HandedOn.isRunning_iff (h : HandedOn t es) : t.process.IsRunning ↔ Steady es := by
  obtain ⟨id, report, early, last, rfl, hread, -⟩ := h.read_back
  exact hread.isRunning_iff h.read_once

/-- Whatever the control plane does and however long its calls take, a negotiation succeeds with the only
transfer that it has read, right after it was reported to run. That transfer is running if and only if it
has not stopped in between. -/
theorem negotiate_reads_back (settings : Settings) (store : Policy.Store) (now : Timestamp)
    (endpoint : String) (item : Catalog.Item) (given : Option Credential.Status) (partner : String) :
    let task := negotiate settings store now endpoint item (given.getD .requiredNew) partner
    (∀ es t, task.Course es (some (.ok t)) →
      HandedOn t es ∧ (t.process.IsRunning ↔ Steady es)) ∧
    ∀ {σ : Type} (answer : Answering σ) (s : σ) (time : Nat), ∃ es,
      task.Course es (some (task.run answer.recorded ⟨(s, []), time⟩).1) ∧
        (task.run answer.recorded ⟨(s, []), time⟩).2.state.2 = es.filter Event.isSent := by
  refine ⟨fun es t h => ?_, fun answer s time => Task.exists_course answer _ ⟨(s, []), time⟩⟩
  have hhanded : HandedOn t es := negotiate_handedOn h
  exact ⟨hhanded, hhanded.isRunning_iff⟩

def completedTransfer : Transfer := ⟨"transfer", " completed", "agreement", "asset", none⟩

theorem negotiate_reads_back_completed :
    ∃ es, (negotiate .default anyPurpose (.ofUnix 1) "https://provider" plainItem
        (.expired staleCredential) "partner").Course es (some (.ok completedTransfer)) ∧
      HandedOn completedTransfer es ∧ Steady es := by
  let q := transferRequest .default (Address.withSuffix "https://provider" Settings.default.suffix)
    plainItem "agreement"
  let last : List Event := [.sent (.getTransferState "transfer") (some (.ok ⟨"STARTED"⟩)),
    .sent (.getTransfer "transfer") (some (.ok completedTransfer))]
  have hread : ReadBack "transfer" ⟨"STARTED"⟩ completedTransfer last := ⟨rfl, by decide +kernel⟩
  have hlook : (Look.transfer "transfer").Course last (some (.ok (some completedTransfer))) :=
    .of_readBack hread
  have hrunning : completedTransfer.process.IsRunning := by decide +kernel
  have hinterval : 0 < Settings.default.pollInterval := by decide
  have hcourse : (transfer .default q).Course (.sent (.startTransfer q) (some (.ok ⟨"transfer"⟩)) :: last)
      (some (.ok completedTransfer)) :=
    Task.Course.call_andThen (Task.Course.awaitOrFail_found (w := .transfer "transfer") hinterval hlook)
  obtain ⟨hreads, -⟩ := negotiate_reads_back .default anyPurpose (.ofUnix 1) "https://provider"
    plainItem (some (.expired staleCredential)) "partner"
  obtain ⟨hhanded, hsteady⟩ := hreads _ _ hcourse
  exact ⟨_, hcourse, hhanded, hsteady.1 hrunning⟩

/-- A control plane that finalizes every negotiation and reports every transfer to run, whatever is read
then. -/
def showing (t : Transfer) : Answering Unit
  | .call (.startNegotiation _), s => (.ok ⟨"negotiation"⟩, s)
  | .call (.getNegotiationState _), s => (.ok ⟨"FINALIZED"⟩, s)
  | .call (.getNegotiation id), s => (.ok ⟨id, some "agreement", "FINALIZED", none⟩, s)
  | .call (.startTransfer _), s => (.ok ⟨"transfer"⟩, s)
  | .call (.getTransferState _), s => (.ok ⟨"STARTED"⟩, s)
  | .call (.getTransfer _), s => (.ok t, s)
  | .call (.getCatalog _), s => (.error (.request "no catalog"), s)
  | .stored .., s => (none, s)

/-- What the first look finds is what a wait with any time comes to. -/
theorem run_awaitOrFail_of_found {σ : Type} {answer : Answering σ} {w : Wait} {ttl interval : Nat}
    {failure : ClientError → ClientError} (httl : 0 < ttl) (hinterval : 0 < interval) {s : Clocked σ}
    {a : w.Result} {state : σ}
    (h : Program.run answer (ExceptT.run w.look) s.state = (.ok (some a), state)) :
    ((Task.await w ttl interval).onTimeout failure).run answer s = (.ok a, ⟨state, s.now⟩) := by
  have hearly : (Limits.plan ⟨ttl, interval, hinterval⟩ w).isSpent s.now s.now = false := by
    simpa [Polling.Plan.isSpent, Limits.plan, Nat.pos_iff_ne_zero] using httl
  rw [run_onTimeout, run_await answer w hinterval]
  obtain ⟨looks, -, hwatched⟩ := w.exists_watched_run answer ⟨ttl, interval, hinterval⟩ s
  generalize w.run answer ⟨ttl, interval, hinterval⟩ s = ended at hwatched
  obtain ⟨result, s'⟩ := ended
  simp only at hwatched
  cases hwatched with
  | late hspent => cases hspent.symm.trans hearly
  | found _ hlook =>
    cases h.symm.trans hlook
    rfl
  | failed _ hlook => cases h.symm.trans hlook
  | again _ hlook => cases h.symm.trans hlook

theorem run_contract_showing (hinterval : 0 < settings.pollInterval)
    (httl : 0 < settings.negotiationTtl) (address : String) (item : Catalog.Item)
    (s : Clocked Unit) :
    (contract settings address item).run (showing t) s = (.ok "agreement", s) := by
  refine (Program.run_andThen (Task.perform (showing t)) (Task.call _) _ s).trans ?_
  exact run_awaitOrFail_of_found (w := .agreement "negotiation") httl hinterval rfl

theorem run_transfer_showing (hinterval : 0 < settings.pollInterval)
    (httl : 0 < settings.transferTtl) (q : TransferRequest) (s : Clocked Unit) :
    (transfer settings q).run (showing t) s = (.ok t, s) := by
  refine (Program.run_andThen (Task.perform (showing t)) (Task.call _) _ s).trans ?_
  exact run_awaitOrFail_of_found (w := .transfer "transfer") httl hinterval rfl

/-- A negotiation that has a contract hands on whatever transfer it reads. -/
theorem run_negotiate_showing (settings : Settings) (hinterval : 0 < settings.pollInterval)
    (hnegotiation : 0 < settings.negotiationTtl) (htransfer : 0 < settings.transferTtl)
    {given : Option Credential.Status} (hgiven : (∃ stale, given = some (.expired stale)) ∨
      IsNew given ∧ checkPolicy store now item partner = .ok ()) (endpoint : String) (t : Transfer)
    (s : Clocked Unit) :
    (negotiate settings store now endpoint item (given.getD .requiredNew) partner).run (showing t) s =
      (.ok t, s) := by
  rcases hgiven with ⟨stale, rfl⟩ | ⟨hnew, haccepted⟩
  · exact run_transfer_showing hinterval htransfer _ s
  · have hstatus : given.getD .requiredNew = .requiredNew := by rcases hnew with rfl | rfl <;> rfl
    rw [hstatus]
    unfold negotiate
    simp only [haccepted]
    refine (Program.run_andThen (Task.perform (showing t)) (contract ..) _ s).trans ?_
    have hcontract := run_contract_showing (t := t) hinterval hnegotiation
      (Address.withSuffix endpoint settings.suffix) item s
    rw [Task.run] at hcontract
    rw [hcontract]
    exact run_transfer_showing hinterval htransfer _ s

def endedTransfer : Transfer := ⟨"transfer", "TERMINATED", "agreement", "asset", none⟩

theorem ended_transfer_handed_on :
    ((negotiate .default anyPurpose (.ofUnix 1) "https://provider" plainItem .requiredNew
      "partner").run (showing endedTransfer) ⟨(), 0⟩).1 = .ok endedTransfer ∧
    endedTransfer.process = .terminated ∧ ¬ endedTransfer.process.IsRunning := by
  have haccepted : checkPolicy anyPurpose (.ofUnix 1) plainItem "partner" = .ok () := rfl
  have hrun := run_negotiate_showing .default (by decide) (by decide) (by decide)
    (.inr ⟨.inl rfl, haccepted⟩) "https://provider" endedTransfer ⟨(), 0⟩
  exact ⟨congrArg Prod.fst hrun, by decide +kernel, by decide +kernel⟩

end Negotiation

end ConsumerConnector
