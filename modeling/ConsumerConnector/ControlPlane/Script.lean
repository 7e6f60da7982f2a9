import ConsumerConnector.ControlPlane.Coding
import ConsumerConnector.Credential.Delivery

/-!
A control plane that answers from prepared queues. A queue serves one call or all calls of a method;
an entry is used a number of times, and the last one of a queue for ever.
-/

namespace ConsumerConnector

structure Script.Entry where
  outcome : Except TransportError Json
  times : Nat
  deliveries : List Credential.Delivery

abbrev Script := Dictionary (List Script.Entry)

namespace Script

/-- The queue that serves a call: its own, else that of its method. -/
def queueName (s : Script) (c : Call) : String :=
  if s.contains c.name then c.name else c.method

/-- Uses the front entry of a queue once. -/
def take : List Entry → Option (Entry × List Entry)
  | [] => none
  | [last] => some (last, [last])
  | e :: rest => some (e, if e.times ≤ 1 then rest else { e with times := e.times - 1 } :: rest)

def reply (c : Call) (outcome : Except TransportError Json) : c.Reply :=
  match outcome with
  | .error e => .error e
  | .ok j => ((c.answerOfTree? j.toTree).map Except.ok).getD (.error (.decode "no such answer"))

def missing (c : Call) : TransportError := .request ("no script for " ++ c.method)

/-- A reply, what is delivered before it, and the queues that are left. -/
def serve (c : Call) (s : Script) : c.Reply × List Credential.Delivery × Script :=
  let queue := s.queueName c
  match take ((s.get? queue).getD []) with
  | none => (.error (missing c), [], s)
  | some (e, rest) => (reply c e.outcome, e.deliveries, s.insert queue rest)

def plane : Plane Script := fun c s =>
  let (r, _, s) := s.serve c
  (r, s)

/-- How many calls at most pass before every queue only repeats its last entry. -/
def horizon (s : Script) : Nat :=
  s.entries.foldl (fun n queue => queue.2.foldl (fun n e => n + e.times + 1) n) 2

end Script

namespace Plane

/-- A plane that also remembers its calls, the last one first. -/
def recorded {σ : Type} (p : Plane σ) : Plane (σ × List Call) := fun c (s, calls) =>
  let (r, s) := p c s
  (r, s, c :: calls)

end Plane

end ConsumerConnector
