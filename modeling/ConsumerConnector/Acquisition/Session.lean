import ConsumerConnector.Acquisition.System
import ConsumerConnector.Catalog.Search
import ConsumerConnector.Negotiation.Run

/-!
Acquisitions carried out one after the other. Whatever can go on at a time goes on before time moves,
and time moves straight to the next look that is due. A session changes its system by steps only, and
its clock of instants ticks before each of them.
-/

namespace ConsumerConnector.Acquisition

/-- A control plane that also says what was delivered before it replied. -/
abbrev DeliveringPlane (σ : Type) := (c : Call) → σ → c.Reply × List Credential.Delivery × σ

/-- A plane that collects deliveries in its state hands them over with every reply. -/
def DeliveringPlane.ofPlane {σ : Type} (p : Plane (σ × List Credential.Delivery)) :
    DeliveringPlane σ := fun c s =>
  let (r, s, deliveries) := p c (s, [])
  (r, deliveries, s)

structure Environment (σ : Type) where
  setup : Setup
  catalog : Catalog.Settings
  plane : DeliveringPlane σ
  /-- The date by which tokens expire. -/
  wall : Timestamp
  /-- Longer than any acquisition takes, in milliseconds. -/
  patience : Nat

/-- Whatever a future waits for, it waits no longer than all of its limits together; one more pause
may go by before each of them is noticed. -/
def Environment.make {σ : Type} (negotiation : Negotiation.Settings) (requestTtl : Nat)
    (catalog : Catalog.Settings) (store : Policy.Store) (wall : Timestamp)
    (plane : DeliveringPlane σ) : Environment σ where
  setup := {
    negotiator := fun o =>
      Negotiation.negotiate negotiation store wall o.endpoint o.item o.status o.partner
    requestTtl := requestTtl
    pollInterval := negotiation.pollInterval }
  catalog := catalog
  plane := plane
  wall := wall
  patience := negotiation.negotiationTtl + negotiation.transferTtl + requestTtl +
    3 * negotiation.pollInterval

structure Session (σ : Type) where
  system : System
  plane : σ
  /-- All tickets handed out, in order. -/
  tickets : List (Except ClientError Ticket)

namespace Session

variable {σ : Type}

def start (storage : Nat) (plane : σ) : Session σ := ⟨.start storage, plane, []⟩

variable (env : Environment σ)

/-- Takes a step if it is possible. -/
def take (s : Session σ) (l : Label) : Session σ :=
  let system := { s.system with instant := s.system.instant + 1 }
  { s with system := (system.step env.setup l).getD system }

def takeAll (labels : List Label) (s : Session σ) : Session σ :=
  labels.foldl (·.take env) s

def ask (c : Call) (s : Session σ) : c.Reply × Session σ :=
  let (r, deliveries, plane) := env.plane c s.plane
  (r, takeAll env (deliveries.map .deliver) { s with plane })

/-- The call that a future is at. -/
def consult (f : Nat) (c : Call) (s : Session σ) : c.Reply × Session σ :=
  let (r, later) := ask env c s
  (r, later.take env (.answer f fun c => (env.plane c s.plane).1))

def query (f : Nat) : (q : Query) → Session σ → q.Reply × Session σ
  | .call c, s => consult env f c s
  | .stored contract since, s =>
    (s.system.cache.storedSince? contract since, s.take env (.inspect f))

/-- A look that is due, with the result if it decides. -/
def look (f : Nat) (w : Wait) (limits : Limits) (started : Nat) (s : Session σ) :
    Option (Except ClientError w.Result) × Session σ :=
  let plan := limits.plan w
  let begun := s.take env (.look f)
  if plan.isSpent started s.system.now then (some (.error plan.timeout), begun)
  else
    let (seen, s) := Program.run (query env f) w.look.run begun
    let s := s.take env (.conclude f)
    match plan.after s.system.now ⟨seen, 0⟩ with
    | .due _ => (none, s)
    | .over _ result => (some result, s)

/-- The driver of a future that is resolved does its work. -/
def retire (f : Nat) (s : Session σ) : Session σ :=
  s.takeAll env [.notice f, .store f, .remove f]

/-- Runs a future from a program on, until it has to wait. -/
def run (f : Nat) : TaskTree Credential → Session σ → Session σ
  | .done _, s => s.retire env f
  | .perform (.call c) next, s =>
    let (r, s) := consult env f c s
    run f (next r) s
  | .perform (.wait w limits) next, s =>
    match look env f w limits s.system.now (s.take env (.pause f)) with
    | (none, s) => s
    | (some result, s) => run f (next result) s

def begin (f : Nat) (s : Session σ) : Session σ :=
  if s.system.shutdown then s else s.take env (.start f)

/-- Lets a future go on as far as it can. After a shutdown a look that is due still takes place, but
nothing comes of it. -/
def proceed (f : Nat) (s : Session σ) : Session σ :=
  match s.system.work? f with
  | some (.running p) => if s.system.shutdown then s else run env f p s
  | some (.pausing w limits started due next) =>
    if s.system.now < due then s
    else
      match look env f w limits started s with
      | (none, s) => s
      | (some result, s) => if s.system.shutdown then s else run env f (next result) s
  | _ => s

def settle (s : Session σ) : Session σ :=
  let futures := List.range s.system.futures.length
  futures.foldl (fun s f => s.proceed env f) (futures.foldl (fun s f => s.begin env f) s)

def due? (future : Future) : Option Nat :=
  match future.work with
  | .pausing _ _ _ due _ => some due
  | _ => none

def nextDue? (s : Session σ) : Option Nat :=
  (s.system.futures.filterMap due?).min?

def moveTo (time : Nat) (s : Session σ) : Session σ :=
  s.take env (.advance (time - s.system.now))

/-- Lets time pass until `stop` holds, at most to the time `last`. What is due at that very time is
left for later: whoever let the time pass moves first. Every round moves the time on, so there are no
more of them than milliseconds. -/
def forward (stop : Session σ → Bool) (last : Nat) : (rounds : Nat) → Session σ → Session σ
  | 0, s => s
  | rounds + 1, s =>
    if stop s then s
    else
      match s.nextDue? with
      | some time =>
        if time < last then forward stop last rounds ((s.moveTo env time).settle env)
        else s.moveTo env last
      | none => s.moveTo env last

def passUntil (stop : Session σ → Bool) (ms : Nat) (s : Session σ) : Session σ :=
  let s := s.settle env
  forward env stop (s.system.now + ms) (ms + 1) s

/-- Lets a timer run out. -/
def pass (ms : Nat) (s : Session σ) : Session σ :=
  s.passUntil env (fun _ => false) (Polling.timed ms)

/-- A caller without an item has it looked up. -/
def select (i : Nat) (s : Session σ) : Session σ :=
  match s.system.callers[i]? with
  | some (.selecting q _) =>
    let query := Catalog.filterRequest env.catalog q.endpoint Catalog.assetKey q.asset q.partner
    let (r, s) := ask env (.getCatalog query) s
    s.take env (.supply i r)
  | _ => s

/-- A caller comes and goes while nobody else moves. -/
def call (q : Request) (s : Session σ) : Except ClientError Ticket × Session σ :=
  let i := s.system.callers.length
  let s := s.takeAll env [.call q, .enter i, .classify i env.wall, .join i]
  let s := (s.select env i).take env (.register i)
  match s.system.callers[i]? with
  | some (.returned _ result) => (result, s)
  | _ => (.error isShutDown, s)

def hand (ticket : Except ClientError Ticket) (s : Session σ) : Nat × Session σ :=
  (s.tickets.length, { s with tickets := s.tickets ++ [ticket] })

/-- Gives the number of the ticket. -/
def acquire (q : Request) (s : Session σ) : Except ClientError Nat × Session σ :=
  match s.call env q with
  | (.ok ticket, s) =>
    let (n, s) := s.hand (.ok ticket)
    (.ok n, s)
  | (.error e, s) => (.error e, s)

/-- Acquires for every item from its own connector. What cannot be started gets a ticket too. -/
def acquireAll (endpoint : String) : List Catalog.Item → Session σ → List Nat × Session σ
  | [], s => ([], s)
  | item :: rest, s =>
    let (ticket, s) := s.call env (.ofItem endpoint item item.connector)
    let (n, s) := s.hand ticket
    let (ns, s) := acquireAll endpoint rest s
    (n :: ns, s)

def result? (s : Session σ) : Except ClientError Ticket → Option (Except ClientError Credential)
  | .ok (.ready c) => some (.ok c)
  | .ok (.ongoing f) => (s.system.work? f).bind Work.result?
  | .error e => some (.error e)

/-- An interruption is no failure: there is just nothing to be had. -/
def outcome : Except ClientError Credential → Except ClientError (Option Credential)
  | .ok c => .ok (some c)
  | .error (.interrupted _) => .ok none
  | .error e => .error e

def shutDown (s : Session σ) : Session σ :=
  let labels := (List.range s.system.futures.length).flatMap fun f => [Label.stop f, .remove f]
  s.takeAll env (.shutdown :: labels)

/-- Waits with a ticket. Nobody waits after a shutdown. -/
def await (ticket : Except ClientError Ticket) (s : Session σ) :
    Except ClientError (Option Credential) × Session σ :=
  if s.system.shutdown then (.ok none, s)
  else
    let s := s.passUntil env (fun s => (s.result? ticket).isSome) env.patience
    (((s.result? ticket).map outcome).getD (.ok none), s)

/-- Waits with a ticket while a shutdown comes after some time. -/
def awaitShutDown (ticket : Except ClientError Ticket) (ms : Nat) (s : Session σ) :
    Except ClientError (Option Credential) × Session σ :=
  let late := s.pass env ms
  let result :=
    if s.system.shutdown then .ok none else ((late.result? ticket).map outcome).getD (.ok none)
  (result, late.shutDown env)

def withPlane : Plane (Session σ) := ask env

def catalogItems (endpoint key value partner : String) (s : Session σ) :
    Except ClientError (List Catalog.Item) × Session σ :=
  let (r, s) := Catalog.fetchByFilter (withPlane env) env.catalog endpoint key value partner s
  ((r.mapError .transport).bind (offered endpoint key value), s)

def catalogItem (endpoint asset partner : String) (s : Session σ) :
    Except ClientError Catalog.Item × Session σ :=
  let (r, s) :=
    Catalog.fetchByFilter (withPlane env) env.catalog endpoint Catalog.assetKey asset partner s
  (firstItem endpoint asset r, s)

/-- Turns at most `limit` pages, `none` if they do not suffice. -/
def browse (limit : Nat) (endpoint asset partner : String) (s : Session σ) :
    Option (Except ClientError (List Catalog.Item)) × Session σ :=
  let (r, s) := Catalog.fetchUntilMatch (withPlane env) env.catalog limit endpoint asset partner s
  (r.map fun r => (r.mapError .transport).bind (offered endpoint Catalog.assetKey asset), s)

end Session

end ConsumerConnector.Acquisition
