import ConsumerConnector.Failure.Client

/-!
Polling: an action is run again and again, with a pause after every run, until it comes to a decision
or its time is up. Whether time is up is looked at before each run only, so a run that has begun may
still decide. Times are in milliseconds.
-/

namespace ConsumerConnector.Polling

/-- The longest that a timer runs: thirty years of 365 days. -/
def longestTimer : Nat := 30 * 365 * 24 * 60 * 60 * 1000

/-- How long a timer runs that is set to a time. -/
def timed (ms : Nat) : Nat := min ms longestTimer

theorem timed_le (ms : Nat) : timed ms ≤ ms := Nat.min_le_left ..

theorem timed_pos {ms : Nat} (h : 0 < ms) : 0 < timed ms := by
  unfold timed longestTimer
  omega

structure Plan where
  /-- Without it there is no limit. -/
  ttl : Option Nat
  interval : Nat
  /-- What is being waited for, in the words of a message. -/
  activity : String
  interval_pos : 0 < interval

def defaultInterval : Nat := 1000

def defaultActivity : String := "polling"

def Plan.make (ttl : Option Nat) (interval : Nat) (activity : String) : Except ClientError Plan :=
  if h : 0 < interval then .ok ⟨ttl, interval, activity, h⟩
  else .error (.illegalState ("polling job '" ++ activity ++ "' has a zero poll interval"))

def noAction (activity : String) : ClientError :=
  .illegalState ("polling job '" ++ activity ++ "' has no action")

/-- What a run comes to, and how long it takes. -/
structure Outcome (α : Type) where
  result : Except ClientError (Option α)
  takes : Nat

/-- What a run comes to whose time is that of a timer. -/
def Outcome.onTimer {α : Type} (o : Outcome α) : Outcome α :=
  { o with takes := timed o.takes }

/-- Where polling stands: a run is due, or it is over. -/
inductive Standing (α : Type)
  | due (time : Nat)
  | over (time : Nat) (result : Except ClientError α)

namespace Plan

variable {α : Type}

def isSpent (p : Plan) (started now : Nat) : Bool :=
  match p.ttl with
  | none => false
  | some ttl => ttl ≤ now - started

def timeout (p : Plan) : ClientError :=
  .timeout p.activity (p.ttl.getD 0)

/-- The time between two runs. -/
def pause (p : Plan) : Nat := timed p.interval

/-- Where polling stands after a run that began at `now`. -/
def after (p : Plan) (now : Nat) (o : Outcome α) : Standing α :=
  let done := now + o.takes
  match o.result with
  | .ok none => .due (done + p.pause)
  | .ok (some a) => .over done (.ok a)
  | .error e => .over done (.error e)

theorem result_of_after {p : Plan} {now time : Nat} {o : Outcome α} {a : α}
    (h : p.after now o = .over time (.ok a)) : o.result = .ok (some a) := by
  unfold after at h
  split at h
  · cases h
  · next hr =>
    cases h
    exact hr
  · cases h

/-- How many runs at most begin within the time to live. -/
def maxRuns (p : Plan) : Option Nat :=
  p.ttl.map fun ttl => (ttl + p.pause - 1) / p.pause

/-- Polls from the time `now` on, with at most `limit` further runs, of which the next has the number
`n`. Nothing begins at the time `stop` or later. The result holds the times at which runs began. -/
def course (p : Plan) (outcome : Nat → Outcome α) (started : Nat) (stop : Option Nat) :
    (limit n now : Nat) → List Nat × Standing α
  | 0, _, now =>
    ([], if p.isSpent started now then .over now (.error p.timeout) else .due now)
  | limit + 1, n, now =>
    if (stop.map (decide <| · ≤ now)).getD false then ([], .due now)
    else if p.isSpent started now then ([], .over now (.error p.timeout))
    else
      match p.after now (outcome n) with
      | .due next =>
        let (runs, standing) := p.course outcome started stop limit (n + 1) next
        (now :: runs, standing)
      | standing => ([now], standing)

/-- The course of an action that is busy for as long as a timer runs. -/
def follow (p : Plan) (outcome : Nat → Outcome α) (started : Nat) (stop : Option Nat)
    (limit n now : Nat) : List Nat × Standing α :=
  p.course (fun i => (outcome i).onTimer) started stop limit n now

end Plan

/-- The result for someone who cancels at a time and waits afterwards. -/
def cancelled {α : Type} (p : Plan) (time : Nat) : Standing α → Except ClientError α
  | .over t r => if t < time then r else .error (.interrupted p.activity)
  | .due _ => .error (.interrupted p.activity)

end ConsumerConnector.Polling
