import ConsumerConnector.Proofs.Negotiation.Calls
import ConsumerConnector.Proofs.Negotiation.Duration

/-!
What every answer leads to. A table says of each event by itself what is to follow: another call, another
look at the process while there is time for it, or the result. By a control plane whose calls take no
time a negotiation goes from event to event by that table, up to the first one that decides.
-/

namespace ConsumerConnector

open Contract

namespace Program

variable {Op : Type} {Reply : Op → Type} {α β ε σ : Type}

theorem run_andThen (answer : (op : Op) → σ → Reply op × σ) (p : ExceptT ε (Program Op Reply) α)
    (f : α → ExceptT ε (Program Op Reply) β) (s : σ) :
    run answer (ExceptT.run (p >>= f)) s =
      match run answer p.run s with
      | (.ok a, s) => run answer (f a).run s
      | (.error e, s) => (.error e, s) := by
  refine (run_bind answer p.run (ExceptT.bindCont f) s).trans ?_
  generalize run answer p.run s = first
  obtain ⟨e | a, s⟩ := first <;> rfl

end Program

theorem Limits.make_eq_ok (w : Wait) {ttl interval : Nat} (h : 0 < interval) :
    Limits.make w ttl interval = .ok ⟨ttl, interval, h⟩ := by
  rw [Limits.make, Polling.Plan.make, dif_pos h]
  rfl

namespace Negotiation

/-- What is to follow: a call at once, a look at a process unless its time is over, or nothing. -/
inductive Sequel
  | call (c : Call)
  | look (w : Wait) (c : Call)
  | closed (result : Except ClientError Transfer)

/-- What an event leads to, on the way to a transfer for an item of the provider at an address. -/
def sequel? (settings : Settings) (address : String) (item : Catalog.Item) : Event → Option Sequel
  | .sent _ (some (.error e)) => some (.closed (.error (.transport e)))
  | .sent (.startNegotiation _) (some (.ok created)) =>
    some (.look (.agreement created.id) (.getNegotiationState created.id))
  | .sent (.getNegotiationState id) (some (.ok report)) =>
    match report.process with
    | .finalized => some (.call (.getNegotiation id))
    | .terminated => some (.closed (.error (.negotiation id "negotiation ended in state TERMINATED")))
    | .error => some (.closed (.error (.negotiation id "negotiation ended in state ERROR")))
    | _ => some (.look (.agreement id) (.getNegotiationState id))
  | .sent (.getNegotiation id) (some (.ok n)) =>
    match n.agreement with
    | none => some (.closed (.error (.negotiation id "finalized without a contract agreement id")))
    | some agreement =>
      if agreement = "" then
        some (.closed (.error (.negotiation id "finalized without a contract agreement id")))
      else some (.call (.startTransfer (transferRequest settings address item agreement)))
  | .sent (.startTransfer _) (some (.ok created)) =>
    some (.look (.transfer created.id) (.getTransferState created.id))
  | .sent (.getTransferState id) (some (.ok report)) =>
    match report.process with
    | .started | .completed => some (.call (.getTransfer id))
    | .terminated =>
      some (.closed (.error (.transferProcess id "transfer process ended in state TERMINATED")))
    | .error => some (.closed (.error (.transferProcess id "transfer process ended in state ERROR")))
    | _ => some (.look (.transfer id) (.getTransferState id))
  | .sent (.getTransfer _) (some (.ok t)) => some (.closed (.ok t))
  | .late (.agreement id) =>
    let late := ClientError.timeout (Wait.agreement id).activity settings.negotiationTtl
    some (.closed (.error (.negotiation id late.message)))
  | .late (.transfer id) =>
    let late := ClientError.timeout (Wait.transfer id).activity settings.transferTtl
    some (.closed (.error (.transferProcess id late.message)))
  | _ => none

/-- How long a process is looked at. -/
def Settings.ttl (settings : Settings) : Wait → Nat
  | .agreement _ => settings.negotiationTtl
  | .transfer _ => settings.transferTtl
  | .credential .. => 0

/-- How far a negotiation has come, with the pauses made in a wait so far. -/
inductive Stage
  | call (c : Call)
  | look (w : Wait) (c : Call) (pauses : Nat)
  | closed (result : Except ClientError Transfer)

def Sequel.stage (pauses : Nat) : Sequel → Stage
  | call c => .call c
  | look w c => .look w c pauses
  | closed result => .closed result

/-- A result on the way is passed on if it is a failure. -/
def Stage.of {α : Type} (next : α → Stage) : Except ClientError α → Stage
  | .ok a => next a
  | .error e => .closed (.error e)

variable (settings : Settings) (address : String) (item : Catalog.Item)

inductive Step : Stage → Event → Stage → Prop
  | call {c : Call} {reply : c.Reply} {next : Sequel}
      (h : sequel? settings address item (.sent c (some reply)) = some next) :
      Step (.call c) (.sent c (some reply)) (next.stage 0)
  | look {w : Wait} {c : Call} {n : Nat} {reply : c.Reply} {next : Sequel}
      (htime : n * Polling.timed settings.pollInterval < settings.ttl w)
      (h : sequel? settings address item (.sent c (some reply)) = some next) :
      Step (.look w c n) (.sent c (some reply)) (next.stage (n + 1))
  | late {w : Wait} {c : Call} {n : Nat} {next : Sequel}
      (htime : settings.ttl w ≤ n * Polling.timed settings.pollInterval)
      (h : sequel? settings address item (.late w) = some next) :
      Step (.look w c n) (.late w) (next.stage n)

inductive Path : Stage → List Event → Stage → Prop
  | nil (t : Stage) : Path t [] t
  | cons {t u v : Stage} {e : Event} {es : List Event} (h : Step settings address item t e u)
      (h' : Path u es v) : Path t (e :: es) v

variable {settings : Settings} {address : String} {item : Catalog.Item}

theorem Step.exists_sequel {t u : Stage} {e : Event} (h : Step settings address item t e u) :
    ∃ next n, sequel? settings address item e = some next ∧ u = next.stage n := by
  cases h with
  | call h => exact ⟨_, _, h, rfl⟩
  | look _ h => exact ⟨_, _, h, rfl⟩
  | late _ h => exact ⟨_, _, h, rfl⟩

namespace Path

variable {t u v : Stage} {es es' : List Event} {e : Event}

theorem append (h : Path settings address item t es u) (h' : Path settings address item u es' v) :
    Path settings address item t (es ++ es') v := by
  induction h with
  | nil => exact h'
  | cons h _ ih => exact .cons h (ih h')

theorem single (h : Step settings address item t e u) : Path settings address item t [e] u :=
  .cons h (.nil u)

theorem of_closed {r : Except ClientError Transfer} (h : Path settings address item (.closed r) es v) :
    es = [] ∧ v = .closed r := by
  cases h with
  | nil => exact ⟨rfl, rfl⟩
  | cons h => cases h

/-- A path that is not over yet ends with the first event that decides. -/
theorem decided {result : Except ClientError Transfer}
    (h : Path settings address item t es (.closed result)) (ht : ∀ r, t ≠ .closed r) :
    ∃ before last, es = before ++ [last] ∧
      sequel? settings address item last = some (.closed result) ∧
      ∀ e ∈ before, ∀ r, sequel? settings address item e ≠ some (.closed r) := by
  generalize hend : Stage.closed result = v at h
  induction h with
  | nil => exact absurd hend.symm (ht result)
  | @cons t u v e es hstep hrest ih =>
    obtain ⟨next, n, hnext, rfl⟩ := hstep.exists_sequel
    cases next with
    | closed r =>
      obtain ⟨rfl, rfl⟩ := hrest.of_closed
      obtain rfl := Stage.closed.inj hend
      exact ⟨[], e, rfl, hnext, nofun⟩
    | call c | look w c =>
      obtain ⟨before, last, rfl, hlast, hbefore⟩ := ih nofun hend
      refine ⟨e :: before, last, rfl, hlast, List.forall_mem_cons.2 ⟨fun r => ?_, hbefore⟩⟩
      rw [hnext]
      nofun

end Path

/-- At a stage a call is made that leads on to the next one. -/
def Asks (settings : Settings) (address : String) (item : Catalog.Item) (t : Stage) (c : Call)
    (pauses : Nat) : Prop :=
  ∀ {reply : c.Reply} {next : Sequel},
    sequel? settings address item (.sent c (some reply)) = some next →
      Step settings address item t (.sent c (some reply)) (next.stage pauses)

theorem asks_call {c : Call} : Asks settings address item (.call c) c 0 := .call

theorem asks_look {w : Wait} {c : Call} {n : Nat}
    (h : n * Polling.timed settings.pollInterval < settings.ttl w) :
    Asks settings address item (.look w c n) c (n + 1) := .look h

variable {Op : Type} {Reply : Op → Type} {τ α β : Type} {answer : (op : Op) → τ → Reply op × τ}
  {log : τ → List Event} {first : Stage}

/-- All runs of a program go by the table, from a stage to what the result leads to. -/
def Traces (settings : Settings) (address : String) (item : Catalog.Item)
    (answer : (op : Op) → τ → Reply op × τ) (log : τ → List Event)
    (p : ExceptT ClientError (Program Op Reply) α) (first : Stage) (next : α → Stage) : Prop :=
  ∀ s, ∃ es, log (Program.run answer p.run s).2 = log s ++ es.filter Event.isSent ∧
    Path settings address item first es (.of next (Program.run answer p.run s).1)

namespace Traces

theorem pure {a : α} {next : α → Stage} (h : first = next a) :
    Traces settings address item answer log (Pure.pure a) first next := by
  subst h
  exact fun _ => ⟨[], (List.append_nil _).symm, .nil _⟩

theorem throw {e : ClientError} {next : α → Stage} (h : first = .closed (.error e)) :
    Traces settings address item answer log (throw e) first next := by
  subst h
  exact fun _ => ⟨[], (List.append_nil _).symm, .nil _⟩

theorem andThen {p : ExceptT ClientError (Program Op Reply) α}
    {f : α → ExceptT ClientError (Program Op Reply) β} {next : α → Stage} {next' : β → Stage}
    (h : Traces settings address item answer log p first next)
    (h' : ∀ a, Traces settings address item answer log (f a) (next a) next') :
    Traces settings address item answer log (p >>= f) first next' := by
  intro s
  obtain ⟨es, hlog, hpath⟩ := h s
  rw [Program.run_andThen]
  generalize Program.run answer p.run s = ended at hlog hpath ⊢
  obtain ⟨e | a, s'⟩ := ended
  · exact ⟨es, hlog, hpath⟩
  · obtain ⟨es', hlog', hpath'⟩ := h' a s'
    refine ⟨es ++ es', ?_, hpath.append hpath'⟩
    rw [hlog', hlog, List.filter_append, List.append_assoc]

/-- An operation that makes a call is followed by what the table says of its answer. -/
theorem operation_andThen {op : Op} {c : Call} {read : Reply op → Except ClientError c.Answer}
    {f : c.Answer → ExceptT ClientError (Program Op Reply) β} {n : Nat} {next : β → Stage}
    (hanswer : ∀ s, ∃ reply, read (answer op s).1 = reply.mapError .transport ∧
      log (answer op s).2 = log s ++ [.sent c (some reply)])
    (hasks : Asks settings address item first c n)
    (h : ∀ a, ∃ q, sequel? settings address item (.sent c (some (.ok a))) = some q ∧
      Traces settings address item answer log (f a) (q.stage n) next) :
    Traces settings address item answer log (.mk (.perform op fun r => .done (read r)) >>= f) first
      next := by
  intro s
  obtain ⟨reply, hread, hlog⟩ := hanswer s
  rw [Program.run_andThen]
  simp only [ExceptT.run_mk, Program.run, hread]
  cases reply with
  | error e =>
    have hfail : sequel? settings address item (.sent c (some (.error e))) =
        some (.closed (.error (.transport e))) := rfl
    exact ⟨[.sent c (some (.error e))], hlog, .single (hasks hfail)⟩
  | ok a =>
    obtain ⟨q, hq, htraces⟩ := h a
    obtain ⟨es, hlog', hpath⟩ := htraces (answer op s).2
    refine ⟨.sent c (some (.ok a)) :: es, ?_, .cons (hasks hq) hpath⟩
    rw [hlog, List.append_assoc] at hlog'
    exact hlog'

end Traces

section Looks

variable {σ : Type} {w : Wait} {c : Call} {n : Nat} (answer : Answering σ)

/-- What a look leads to: another one after a pause, unless it has found something. -/
def afterLook {α : Type} (w : Wait) (c : Call) (pauses : Nat) (next : α → Stage) : Option α → Stage
  | none => .look w c pauses
  | some a => next a

theorem look_call_andThen {f : c.Answer → Look β} {next : β → Stage}
    (hasks : Asks settings address item first c n)
    (h : ∀ a, ∃ q, sequel? settings address item (.sent c (some (.ok a))) = some q ∧
      Traces settings address item answer.recorded Prod.snd (f a) (q.stage n) next) :
    Traces settings address item answer.recorded Prod.snd (Look.call c >>= f) first next :=
  .operation_andThen (fun _ => ⟨_, rfl, rfl⟩) hasks h

theorem look_agreement (id : String)
    (hn : n * Polling.timed settings.pollInterval < settings.negotiationTtl) :
    Traces settings address item answer.recorded Prod.snd (Look.agreement id)
      (.look (.agreement id) (.getNegotiationState id) n)
      (afterLook (.agreement id) (.getNegotiationState id) (n + 1) fun agreement =>
        .call (.startTransfer (transferRequest settings address item agreement))) := by
  refine look_call_andThen answer (asks_look hn) fun report => ?_
  simp only [sequel?]
  generalize report.process = state
  cases state with
  | finalized =>
    refine ⟨_, rfl, look_call_andThen answer asks_call fun found => ?_⟩
    simp only [sequel?]
    generalize found.agreement = agreement?
    cases agreement? with
    | none => exact ⟨_, rfl, .throw rfl⟩
    | some agreement =>
      by_cases hempty : agreement = ""
      · subst hempty
        exact ⟨_, rfl, .throw rfl⟩
      · have hfull : (!agreement.isEmpty) = true := by simpa using hempty
        simp only [if_neg hempty, Option.filter_some, hfull, if_true]
        exact ⟨_, rfl, .pure rfl⟩
  | terminated | error => exact ⟨_, rfl, .throw rfl⟩
  | requested | started | completed | other => exact ⟨_, rfl, .pure rfl⟩

theorem look_transfer (id : String)
    (hn : n * Polling.timed settings.pollInterval < settings.transferTtl) :
    Traces settings address item answer.recorded Prod.snd (Look.transfer id)
      (.look (.transfer id) (.getTransferState id) n)
      (afterLook (.transfer id) (.getTransferState id) (n + 1) fun t => .closed (.ok t)) := by
  refine look_call_andThen answer (asks_look hn) fun report => ?_
  simp only [sequel?]
  generalize report.process = state
  cases state with
  | started | completed =>
    exact ⟨_, rfl, look_call_andThen answer asks_call fun t => ⟨_, rfl, .pure rfl⟩⟩
  | terminated | error => exact ⟨_, rfl, .throw rfl⟩
  | requested | finalized | other => exact ⟨_, rfl, .pure rfl⟩

end Looks

section Waits

/-- A failure of its own for a result that says that time is up. -/
def overtime (failure : ClientError → ClientError) : Except ClientError α → Except ClientError α
  | .error (.timeout activity ttl) => .error (failure (.timeout activity ttl))
  | result => result

variable {σ : Type} {answer : Answering σ} {w : Wait} {c : Call} {next : w.Result → Stage}
  {failure : ClientError → ClientError}

theorem overtime_of_ne {e : ClientError} (h : ∀ activity ttl, e ≠ .timeout activity ttl) :
    overtime failure (.error e : Except ClientError α) = .error e := by
  cases e with
  | timeout activity ttl => exact absurd rfl (h activity ttl)
  | _ => rfl

/-- Looks at a process, and the pauses between them, are steps by the table. -/
theorem watched_traced (hinterval : 0 < settings.pollInterval)
    (hlook : ∀ n, n * Polling.timed settings.pollInterval < settings.ttl w →
      Traces settings address item answer.recorded Prod.snd w.look (.look w c n)
        (afterLook w c (n + 1) next))
    (hlate : sequel? settings address item (.late w) =
      some (.closed (.error (failure (.timeout w.activity (settings.ttl w))))))
    {started n looks : Nat} {s s' : Clocked (σ × List Event)} {result : Except ClientError w.Result}
    (h : Wait.Watched answer.recorded ⟨settings.ttl w, settings.pollInterval, hinterval⟩ w started s
      looks result s')
    (hs : s.now = started + n * Polling.timed settings.pollInterval) :
    ∃ es, s'.state.2 = s.state.2 ++ es.filter Event.isSent ∧
      Path settings address item (.look w c n) es (.of next (overtime failure result)) := by
  -- Only pauses take time, so their number tells whether time is up.
  have hspent : ∀ {now n : Nat}, now = started + n * Polling.timed settings.pollInterval →
      ((Limits.plan ⟨settings.ttl w, settings.pollInterval, hinterval⟩ w).isSpent started now ↔
        settings.ttl w ≤ n * Polling.timed settings.pollInterval) := by
    rintro now n rfl
    simp [Polling.Plan.isSpent, Limits.plan]
  have hearly : ∀ {now n : Nat}, now = started + n * Polling.timed settings.pollInterval →
      (Limits.plan ⟨settings.ttl w, settings.pollInterval, hinterval⟩ w).isSpent started now = false →
        n * Polling.timed settings.pollInterval < settings.ttl w := by
    intro now n hnow h
    rwa [← Bool.not_eq_true, hspent hnow, Nat.not_le] at h
  induction h generalizing n with
  | late h => exact ⟨[.late w], (List.append_nil _).symm, .single (.late ((hspent hs).1 h) hlate)⟩
  | @found s a state h hrun =>
    obtain ⟨es, hlog, hpath⟩ := hlook n (hearly hs h) s.state
    rw [hrun] at hlog hpath
    exact ⟨es, hlog, hpath⟩
  | @failed s e state h hrun =>
    obtain ⟨es, hlog, hpath⟩ := hlook n (hearly hs h) s.state
    have hne := w.look_yields.run answer.recorded s.state
    rw [hrun] at hlog hpath hne
    rw [overtime_of_ne fun activity ttl he => hne activity ttl (congrArg Except.error he)]
    exact ⟨es, hlog, hpath⟩
  | @again s s' state looks result h hrun _ ih =>
    obtain ⟨es, hlog, hpath⟩ := hlook n (hearly hs h) s.state
    rw [hrun] at hlog hpath
    obtain ⟨es', hlog', hpath'⟩ := @ih (n + 1) (Limits.now_add_pause hs)
    refine ⟨es ++ es', ?_, hpath.append hpath'⟩
    rw [hlog', List.filter_append, ← List.append_assoc]
    exact congrArg (· ++ _) hlog

variable (answer)

theorem run_onTimeout (t : Task α) (s : Clocked σ) :
    (t.onTimeout failure).run answer s =
      (overtime failure (t.run answer s).1, (t.run answer s).2) := by
  refine (Program.run_bind (Task.perform answer) (ExceptT.run t) _ s).trans ?_
  unfold Task.run
  generalize Program.run (Task.perform answer) (ExceptT.run t) s = ended
  obtain ⟨e | a, s'⟩ := ended
  · cases e <;> rfl
  · rfl

theorem run_await (w : Wait) {ttl interval : Nat} (h : 0 < interval) (s : Clocked σ) :
    (Task.await w ttl interval).run answer s = w.run answer ⟨ttl, interval, h⟩ s := by
  rw [Task.await, Limits.make_eq_ok w h]
  rfl

end Waits

section Tasks

variable {σ : Type} (answer : Answering σ)

/-- What a task logs, among the events of a negotiation. -/
abbrev TaskTraces (settings : Settings) (address : String) (item : Catalog.Item)
    (answer : Answering σ) (t : Task α) (first : Stage) (next : α → Stage) : Prop :=
  Traces settings address item (Task.perform answer.recorded) (fun s => s.state.2) t first next

theorem await_traces {w : Wait} {c : Call} {next : w.Result → Stage}
    {failure : ClientError → ClientError} (hinterval : 0 < settings.pollInterval)
    (hlook : ∀ n, n * Polling.timed settings.pollInterval < settings.ttl w →
      Traces settings address item answer.recorded Prod.snd w.look (.look w c n)
        (afterLook w c (n + 1) next))
    (hlate : sequel? settings address item (.late w) =
      some (.closed (.error (failure (.timeout w.activity (settings.ttl w)))))) :
    TaskTraces settings address item answer
      ((Task.await w (settings.ttl w) settings.pollInterval).onTimeout failure) (.look w c 0) next := by
  intro s
  obtain ⟨looks, -, hwatched⟩ := w.exists_watched_run answer.recorded
    ⟨settings.ttl w, settings.pollInterval, hinterval⟩ s
  have hstart : s.now = s.now + 0 * Polling.timed settings.pollInterval := by
    rw [Nat.zero_mul, Nat.add_zero]
  obtain ⟨es, hlog, hpath⟩ := watched_traced hinterval hlook hlate hwatched hstart
  have hrun : Program.run (Task.perform answer.recorded) (ExceptT.run
      ((Task.await w (settings.ttl w) settings.pollInterval).onTimeout failure)) s = _ :=
    run_onTimeout answer.recorded _ s
  rw [run_await answer.recorded w hinterval s] at hrun
  rw [hrun]
  exact ⟨es, hlog, hpath⟩

theorem contract_traces (hinterval : 0 < settings.pollInterval) :
    TaskTraces settings address item answer (contract settings address item)
      (.call (.startNegotiation (negotiationRequest address item))) fun agreement =>
        .call (.startTransfer (transferRequest settings address item agreement)) := by
  refine .operation_andThen (fun _ => ⟨_, rfl, rfl⟩) asks_call fun created => ⟨_, rfl, ?_⟩
  exact await_traces answer hinterval (fun _ => look_agreement answer created.id) rfl

theorem transfer_traces (hinterval : 0 < settings.pollInterval) (address : String)
    (item : Catalog.Item) (q : TransferRequest) :
    TaskTraces settings address item answer (transfer settings q) (.call (.startTransfer q))
      fun t => .closed (.ok t) := by
  refine .operation_andThen (fun _ => ⟨_, rfl, rfl⟩) asks_call fun created => ⟨_, rfl, ?_⟩
  exact await_traces answer hinterval (fun _ => look_transfer answer created.id) rfl

end Tasks

/-- From a call on events go by the table, and the first of them that decides has the result. -/
structure Decides (settings : Settings) (address : String) (item : Catalog.Item) (first : Call)
    (es : List Event) (result : Except ClientError Transfer) : Prop where
  path : Path settings address item (.call first) es (.closed result)
  first_decisive : ∃ before last, es = before ++ [last] ∧
    sequel? settings address item last = some (.closed result) ∧
    ∀ e ∈ before, ∀ r, sequel? settings address item e ≠ some (.closed r)

theorem Traces.decides {t : Task Transfer} {first : Call} {σ : Type} {answer : Answering σ}
    (h : TaskTraces settings address item answer t (.call first) fun t => .closed (.ok t)) (s : σ)
    (time : Nat) :
    ∃ es, (t.run answer.recorded ⟨(s, []), time⟩).2.state.2 = es.filter Event.isSent ∧
      Decides settings address item first es (t.run answer.recorded ⟨(s, []), time⟩).1 := by
  obtain ⟨es, hlog, hpath⟩ := h ⟨(s, []), time⟩
  have hclosed : ∀ r, Stage.of (fun t => .closed (.ok t)) r = .closed r := by
    rintro (e | t) <;> rfl
  rw [hclosed] at hpath
  exact ⟨es, hlog, hpath, hpath.decided nofun⟩

theorem sequel?_ne_timeout (e : Event) (activity : String) (ttl : Nat) :
    sequel? settings address item e ≠ some (.closed (.error (.timeout activity ttl))) := by
  obtain ⟨c, _ | e | a⟩ | w := e
  · cases c <;> nofun
  · nofun
  · cases c with
    | getNegotiationState id | getTransferState id =>
      simp only [sequel?]
      split <;> nofun
    | getNegotiation id =>
      simp only [sequel?]
      split
      · nofun
      · split <;> nofun
    | _ => nofun
  · cases w <;> nofun

theorem Decides.ne_timeout {first : Call} {es : List Event} {result : Except ClientError Transfer}
    (h : Decides settings address item first es result) (activity : String) (ttl : Nat) :
    result ≠ .error (.timeout activity ttl) := by
  rintro rfl
  obtain ⟨-, last, -, hlast, -⟩ := h.first_decisive
  exact sequel?_ne_timeout last activity ttl hlast

theorem checkPolicy_ne_timeout (store : Policy.Store) (now : Timestamp) (item : Catalog.Item)
    (partner activity : String) (ttl : Nat) :
    checkPolicy store now item partner ≠ .error (.timeout activity ttl) := by
  unfold checkPolicy
  split
  · nofun
  · split <;> nofun

/-- A new negotiation whose policy is accepted goes by the table from its first call on. -/
theorem negotiate_traces_new (hinterval : 0 < settings.pollInterval) {store : Policy.Store}
    {now : Timestamp} {partner : String} (haccepted : checkPolicy store now item partner = .ok ())
    (endpoint : String) {σ : Type} (answer : Answering σ) :
    let address := Address.withSuffix endpoint settings.suffix
    TaskTraces settings address item answer
      (negotiate settings store now endpoint item .requiredNew partner)
      (.call (.startNegotiation (negotiationRequest address item))) fun t => .closed (.ok t) := by
  intro address
  unfold negotiate
  simp only [haccepted]
  exact (contract_traces answer hinterval).andThen fun _ =>
    transfer_traces answer hinterval address item _

theorem run_negotiate_of_refused {store : Policy.Store} {now : Timestamp} {partner : String}
    {e : ClientError} (h : checkPolicy store now item partner = .error e) (endpoint : String)
    {σ : Type} (answer : Answering σ) (s : Clocked σ) :
    (negotiate settings store now endpoint item .requiredNew partner).run answer s =
      (.error e, s) := by
  unfold negotiate
  simp only [h]
  rfl

theorem run_negotiate_ne_timeout (hinterval : 0 < settings.pollInterval) (store : Policy.Store)
    (now : Timestamp) (endpoint : String) (status : Credential.Status) (partner : String) {σ : Type}
    (answer : Answering σ) (s : σ) (time : Nat) (activity : String) (ttl : Nat) :
    ((negotiate settings store now endpoint item status partner).run answer.recorded
      ⟨(s, []), time⟩).1 ≠ .error (.timeout activity ttl) := by
  cases status with
  | requiredNew =>
    cases haccepted : checkPolicy store now item partner with
    | ok _ =>
      obtain ⟨es, -, hdecides⟩ :=
        (negotiate_traces_new hinterval haccepted endpoint answer).decides s time
      exact hdecides.ne_timeout activity ttl
    | error e =>
      rw [run_negotiate_of_refused haccepted]
      rintro ⟨⟩
      exact checkPolicy_ne_timeout store now item partner activity ttl haccepted
  | expired stale =>
    obtain ⟨es, -, hdecides⟩ :=
      (transfer_traces answer hinterval (Address.withSuffix endpoint settings.suffix) item _).decides s
        time
    exact hdecides.ne_timeout activity ttl
  | valid _ => nofun

/-- Settings with time for one look at each process. -/
def hasty : Settings := ⟨1000, 1000, 1000, none, ""⟩

def staleCredential : Credential :=
  ⟨"stale", "agreement", "https://data", "Authorization", none, ∅⟩

end Negotiation

end ConsumerConnector
