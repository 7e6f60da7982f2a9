import ConsumerConnector.Negotiation.Basic

/-!
Tasks run to their end by a control plane whose calls take no time. Time passes in the pauses of waits
only, so it is known beforehand how many looks a wait can take.
-/

namespace ConsumerConnector

/-- A state together with the time in milliseconds. -/
structure Clocked (σ : Type) where
  state : σ
  now : Nat

/-- Answers what looks ask for. -/
abbrev Answering (σ : Type) := (q : Query) → σ → q.Reply × σ

variable {σ : Type}

/-- A control plane alone, to which no credentials are delivered. -/
def Plane.answering (p : Plane σ) : Answering σ
  | .call c, s => p c s
  | .stored .., s => (none, s)

namespace Wait

/-- Looks again and again from the time in `s` on, at most `left` times. -/
def watch (answer : Answering σ) (limits : Limits) (w : Wait) (started : Nat) :
    (left : Nat) → Clocked σ → Except ClientError w.Result × Clocked σ
  | 0, s => (.error (limits.plan w).timeout, s)
  | left + 1, s =>
    if (limits.plan w).isSpent started s.now then (.error (limits.plan w).timeout, s)
    else
      let (seen, state) := Program.run answer w.look.run s.state
      match (limits.plan w).after s.now ⟨seen, 0⟩ with
      | .due next => watch answer limits w started left ⟨state, next⟩
      | .over time result => (result, ⟨state, time⟩)

def run (answer : Answering σ) (limits : Limits) (w : Wait) (s : Clocked σ) :
    Except ClientError w.Result × Clocked σ :=
  watch answer limits w s.now limits.maxLooks s

end Wait

namespace Task

def perform (answer : Answering σ) : (a : Action) → Clocked σ → a.Reply × Clocked σ
  | .call c, s =>
    let (r, state) := answer (.call c) s.state
    (r, { s with state })
  | .wait w limits, s => w.run answer limits s

def run {α : Type} (answer : Answering σ) (t : Task α) (s : Clocked σ) :
    Except ClientError α × Clocked σ :=
  Program.run (perform answer) (ExceptT.run t) s

end Task

end ConsumerConnector
