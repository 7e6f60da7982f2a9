import ConsumerConnector.Failure.Client

/-!
A pool of workers. A run waits for a slot and hands its closure over together with the slot, which the
closure gives back when it ends, also when it ends by a crash. Whoever waits for a run may leave at any
time. Before the closure is handed over that is the end of the run, and a slot set aside for it is free
again; after that the closure goes on alone.
-/

namespace ConsumerConnector.WorkerPool

/-- How a closure ends. -/
inductive Ending (α : Type)
  | returned (result : Except ClientError α)
  | crashed

def Ending.result {α : Type} : Ending α → Except ClientError α
  | returned r => r
  | crashed => .error (.interrupted "running transport worker: <worker error>")

inductive Run (α : Type)
  | queued
  /-- A slot is set aside, which whoever waits has yet to pick up. -/
  | granted
  /-- The closure is handed over. -/
  | acquired (isAwaited : Bool)
  | running (isAwaited : Bool)
  /-- The closure is over, which whoever waits has yet to learn. -/
  | ended (ending : Ending α)
  | served (result : Except ClientError α)
  /-- Nobody waits, and there is no closure that runs or will. -/
  | closed

inductive Turn (α : Type)
  | grant
  | acquire
  | start
  | finish (ending : Ending α)
  | serve
  /-- Whoever waits for the run leaves. -/
  | leave

/-- What becomes of a slot. -/
inductive Slot
  | taken
  | kept
  | returned

/-- How many are free after that, `none` if one is missing. -/
def Slot.of (free : Nat) : Slot → Option Nat
  | taken => if free = 0 then none else some (free - 1)
  | kept => some free
  | returned => some (free + 1)

namespace Run

variable {α : Type}

def holdsSlot : Run α → Bool
  | granted | acquired _ | running _ => true
  | _ => false

def isRunning : Run α → Bool
  | running _ => true
  | _ => false

def result? : Run α → Option (Except ClientError α)
  | served r => some r
  | _ => none

/-- One turn of a run, `none` if it is not possible. -/
def turn : Run α → Turn α → Option (Run α × Slot)
  | queued, .grant => some (granted, .taken)
  | queued, .leave => some (closed, .kept)
  | granted, .acquire => some (acquired true, .kept)
  | granted, .leave => some (closed, .returned)
  | acquired isAwaited, .start => some (running isAwaited, .kept)
  | acquired true, .leave => some (acquired false, .kept)
  | running true, .finish ending => some (ended ending, .returned)
  | running false, .finish _ => some (closed, .returned)
  | running true, .leave => some (running false, .kept)
  | ended ending, .serve => some (served ending.result, .kept)
  | ended _, .leave => some (closed, .kept)
  | _, _ => none

end Run

inductive Event (α : Type)
  | submit
  | turn (i : Nat) (t : Turn α)

end WorkerPool

structure WorkerPool (α : Type) where
  free : Nat
  runs : List (WorkerPool.Run α)

namespace WorkerPool

variable {α : Type}

def defaultSize : Nat := 20

/-- A pool has at least one slot. -/
def slots (size : Nat) : Nat := max size 1

def make (size : Nat) : WorkerPool α := ⟨slots size, []⟩

/-- One step, `none` if it is not possible. -/
def step (p : WorkerPool α) : Event α → Option (WorkerPool α)
  | .submit => some { p with runs := p.runs ++ [.queued] }
  | .turn i t => do
    let (run, slot) ← (← p.runs[i]?).turn t
    let free ← slot.of p.free
    return ⟨free, p.runs.set i run⟩

def held (p : WorkerPool α) : Nat :=
  p.runs.countP (·.holdsSlot)

def running (p : WorkerPool α) : Nat :=
  p.runs.countP (·.isRunning)

/-- The states that a list of events leads through; impossible events change nothing. -/
def states (p : WorkerPool α) : List (Event α) → List (WorkerPool α)
  | [] => [p]
  | e :: rest => p :: states ((p.step e).getD p) rest

/-- All runs are submitted, as many as fit run at once, and every end lets the next run begin. -/
def eagerly (size : Nat) (endings : List (Ending α)) : List (Event α) :=
  let fit := min (slots size) endings.length
  let begin (i : Nat) : List (Event α) := [.turn i .grant, .turn i .acquire, .turn i .start]
  endings.map (fun _ => .submit) ++ (List.range fit).flatMap begin ++
    endings.zipIdx.flatMap fun (ending, i) =>
      .turn i (.finish ending) :: .turn i .serve ::
        if i + fit < endings.length then begin (i + fit) else []

def results (p : WorkerPool α) : List (Except ClientError α) :=
  p.runs.filterMap (·.result?)

/-- The most closures that ever run at once, and the results of all runs. -/
def runAll (size : Nat) (endings : List (Ending α)) : Nat × List (Except ClientError α) :=
  let passed := (make size : WorkerPool α).states (eagerly size endings)
  ((passed.map running).foldl max 0, ((passed.getLast?.map results).getD []))

end WorkerPool

end ConsumerConnector
