import ConsumerConnector.Acquisition.Basic
import ConsumerConnector.Credential.Delivery

/-!
Acquisitions as a transition system. Callers come one after the other through a lock to the cache, to
the registry of what is ongoing and to the catalog, and the one that finds nothing registers a future.
A driver stores what its future comes to and then takes it off the registry. Every access to cache or
registry is a step of its own, and steps of all callers, futures and drivers interleave freely.

Credentials are stamped by a clock of instants. Waits are measured in milliseconds.
-/

namespace ConsumerConnector.Acquisition

abbrev TaskTree (α : Type) := Program Action Action.Reply (Except ClientError α)

/-- How far a future is. -/
inductive Work
  | idle
  | running (p : TaskTree Credential)
  /-- The next look is due at a time. -/
  | pausing (w : Wait) (limits : Limits) (started due : Nat)
    (next : Except ClientError w.Result → TaskTree Credential)
  | looking (w : Wait) (limits : Limits) (started : Nat)
    (look : Program Query Query.Reply (Except ClientError (Option w.Result)))
    (next : Except ClientError w.Result → TaskTree Credential)

def Work.result? : Work → Option (Except ClientError Credential)
  | running (.done r) => some r
  | _ => none

/-- How far the driver of a future is. -/
inductive Driver
  | live
  | storing (c : Credential)
  | removing
  | gone

structure Future where
  key : String
  order : Order
  /-- The instant at which it started. -/
  since : Nat
  work : Work
  driver : Driver

inductive Caller
  | queued (q : Request)
  | entered (q : Request)
  | unregistered (q : Request) (status : Credential.Status)
  | selecting (q : Request) (status : Credential.Status)
  | selected (q : Request) (o : Order)
  | returned (q : Request) (result : Except ClientError Ticket)

/-- `lock` names the caller that is past the lock, `instant` and `now` are the two clocks. -/
structure System where
  cache : Credential.Cache
  registry : Dictionary Nat
  futures : List Future
  callers : List Caller
  lock : Option Nat
  shutdown : Bool
  instant : Nat
  now : Nat

inductive Label
  | call (q : Request)
  | enter (caller : Nat)
  | classify (caller : Nat) (wall : Timestamp)
  | join (caller : Nat)
  | supply (caller : Nat) (answer : Except TransportError Catalog)
  | register (caller : Nat)
  | start (future : Nat)
  | answer (future : Nat) (reply : (c : Call) → c.Reply)
  | pause (future : Nat)
  | look (future : Nat)
  | inspect (future : Nat)
  | conclude (future : Nat)
  | notice (future : Nat)
  | store (future : Nat)
  | remove (future : Nat)
  | stop (future : Nat)
  | deliver (d : Credential.Delivery)
  | evict (key : String)
  | clear
  | shutdown
  | elapse (instants : Nat)
  | advance (ms : Nat)

namespace System

def start (storage : Nat) : System := ⟨.empty storage, ∅, [], [], none, false, 0, 0⟩

def setCaller (s : System) (i : Nat) (c : Caller) : System :=
  { s with callers := s.callers.set i c }

/-- A caller that is past the lock returns and gives the lock back. -/
def leave (s : System) (i : Nat) (q : Request) (result : Except ClientError Ticket) : System :=
  { s.setCaller i (.returned q result) with lock := none }

def work? (s : System) (f : Nat) : Option Work :=
  (s.futures[f]?).map (·.work)

def driver? (s : System) (f : Nat) : Option Driver :=
  (s.futures[f]?).map (·.driver)

def setWork (s : System) (f : Nat) (work : Work) : System :=
  { s with futures := s.futures.modify f ({ · with work }) }

def setDriver (s : System) (f : Nat) (driver : Driver) : System :=
  { s with futures := s.futures.modify f ({ · with driver }) }

def call (s : System) (q : Request) : System :=
  { s with
    callers := s.callers ++ [if s.shutdown then .returned q (.error isShutDown) else .queued q] }

def enter? (s : System) (i : Nat) : Option System :=
  match s.callers[i]?, s.lock with
  | some (.queued q), none => some { s.setCaller i (.entered q) with lock := some i }
  | _, _ => none

/-- A valid credential is returned at once. -/
def classify? (s : System) (i : Nat) (wall : Timestamp) : Option System :=
  match s.callers[i]? with
  | some (.entered q) =>
    match s.cache.classify q.key wall with
    | .valid c => some (s.leave i q (.ok (.ready c)))
    | status => some (s.setCaller i (.unregistered q status))
  | _ => none

/-- What is ongoing is shared. -/
def join? (s : System) (i : Nat) : Option System :=
  match s.callers[i]? with
  | some (.unregistered q status) =>
    match s.registry.get? q.key, q.item with
    | some f, _ => some (s.leave i q (.ok (.ongoing f)))
    | none, some item => some (s.setCaller i (.selected q ⟨q.endpoint, q.partner, item, status⟩))
    | none, none => some (s.setCaller i (.selecting q status))
  | _ => none

def supply? (s : System) (i : Nat) (answer : Except TransportError Catalog) : Option System :=
  match s.callers[i]? with
  | some (.selecting q status) =>
    match firstItem q.endpoint q.asset (answer.map Catalog.items) with
    | .ok item => some (s.setCaller i (.selected q ⟨q.endpoint, q.partner, item, status⟩))
    | .error e => some (s.leave i q (.error e))
  | _ => none

def register? (s : System) (i : Nat) : Option System :=
  match s.callers[i]? with
  | some (.selected q o) =>
    let s := s.leave i q (.ok (.ongoing s.futures.length))
    some { s with
      registry := s.registry.insert q.key s.futures.length
      futures := s.futures ++ [⟨q.key, o, 0, .idle, .live⟩] }
  | _ => none

def start? (setup : Setup) (s : System) (f : Nat) : Option System :=
  match s.futures[f]? with
  | some ⟨key, o, _, .idle, driver⟩ =>
    let work := .running (setup.task o s.instant).run
    some { s with futures := s.futures.set f ⟨key, o, s.instant, work, driver⟩ }
  | _ => none

def answer? (s : System) (f : Nat) (reply : (c : Call) → c.Reply) : Option System :=
  match s.work? f with
  | some (.running (.perform (.call c) next)) => some (s.setWork f (.running (next (reply c))))
  | some (.looking w limits started (.perform (.call c) more) next) =>
    some (s.setWork f (.looking w limits started (more (reply c)) next))
  | _ => none

def pause? (s : System) (f : Nat) : Option System :=
  match s.work? f with
  | some (.running (.perform (.wait w limits) next)) =>
    some (s.setWork f (.pausing w limits s.now s.now next))
  | _ => none

/-- A look begins, unless the time for it is up. -/
def look? (s : System) (f : Nat) : Option System :=
  match s.work? f with
  | some (.pausing w limits started due next) =>
    if s.now < due then none
    else if (limits.plan w).isSpent started s.now then
      some (s.setWork f (.running (next (.error (limits.plan w).timeout))))
    else some (s.setWork f (.looking w limits started w.look.run next))
  | _ => none

def inspect? (s : System) (f : Nat) : Option System :=
  match s.work? f with
  | some (.looking w limits started (.perform (.stored contract since) more) next) =>
    some (s.setWork f
      (.looking w limits started (more (s.cache.storedSince? contract since)) next))
  | _ => none

def conclude? (s : System) (f : Nat) : Option System :=
  match s.work? f with
  | some (.looking w limits started (.done seen) next) =>
    match (limits.plan w).after s.now ⟨seen, 0⟩ with
    | .due time => some (s.setWork f (.pausing w limits started time next))
    | .over _ result => some (s.setWork f (.running (next result)))
  | _ => none

/-- A driver learns what its future has come to. -/
def notice? (s : System) (f : Nat) : Option System :=
  match s.driver? f, (s.work? f).bind Work.result? with
  | some .live, some (.ok c) => some (s.setDriver f (.storing c))
  | some .live, some (.error _) => some (s.setDriver f .removing)
  | _, _ => none

def store? (s : System) (f : Nat) : Option System :=
  match s.futures[f]? with
  | some ⟨key, _, _, _, .storing c⟩ =>
    some { s.setDriver f .removing with cache := s.cache.put key c s.instant }
  | _ => none

def remove? (s : System) (f : Nat) : Option System :=
  match s.futures[f]? with
  | some ⟨key, _, _, _, .removing⟩ =>
    some { s.setDriver f .gone with registry := s.registry.erase key }
  | _ => none

def stop? (s : System) (f : Nat) : Option System :=
  match s.driver? f with
  | some .live => if s.shutdown then some (s.setDriver f .removing) else none
  | _ => none

/-- One step, `none` if it is not possible. -/
def step (setup : Setup) (s : System) : Label → Option System
  | .call q => some (s.call q)
  | .enter i => s.enter? i
  | .classify i wall => s.classify? i wall
  | .join i => s.join? i
  | .supply i answer => s.supply? i answer
  | .register i => s.register? i
  | .start f => s.start? setup f
  | .answer f reply => s.answer? f reply
  | .pause f => s.pause? f
  | .look f => s.look? f
  | .inspect f => s.inspect? f
  | .conclude f => s.conclude? f
  | .notice f => s.notice? f
  | .store f => s.store? f
  | .remove f => s.remove? f
  | .stop f => s.stop? f
  | .deliver d => some { s with cache := d.apply s.cache s.instant }
  | .evict key => some { s with cache := s.cache.remove key }
  | .clear => some { s with cache := s.cache.clear }
  | .shutdown => some { s with shutdown := true }
  | .elapse n => some { s with instant := s.instant + n }
  | .advance ms => some { s with now := s.now + ms }

end System

end ConsumerConnector.Acquisition
