import ConsumerConnector.ControlPlane.Call
import ConsumerConnector.ControlPlane.RetryPolicy
import ConsumerConnector.Url.Basic

/-!
A control plane that repeats calls. A call is attempted until it succeeds, fails for good, or has been
attempted as often as the policy of its host allows.
-/

namespace ConsumerConnector.Plane

variable {σ : Type}

/-- The result of a repeated call, with the pauses taken between its attempts. -/
structure Attempts (σ : Type) (c : Call) where
  result : c.Reply
  state : σ
  pauses : List Nat

/-- Attempts a call, with `left` more attempts after this one, which has the number `n`. -/
def attempt (p : Plane σ) (policy : RetryPolicy) (host : String) (c : Call) (n : Nat) :
    Nat → σ → Attempts σ c
  | left, s =>
    match p c s with
    | (.ok a, s) => ⟨.ok a, s, []⟩
    | (.error e, s) =>
      if e.isRetryable then
        match left with
        | 0 => ⟨.error (.retriesExhausted host n e), s, []⟩
        | left + 1 =>
          let later := attempt p policy host c (n + 1) left s
          { later with pauses := policy.delay n :: later.pauses }
      else ⟨.error e, s, []⟩

def attempts (p : Plane σ) (policy : RetryPolicy) (host : String) (c : Call) (s : σ) :
    Attempts σ c :=
  attempt p policy host c 1 (policy.attempts - 1) s

/-- The host whose policy a call runs under. -/
def retryHost (own : String) (c : Call) : String :=
  (c.address?.map Url.hostOf).getD own

/-- The plane `p` of the host `own`, with its calls repeated as a registry says. -/
def retrying (p : Plane σ) (registry : RetryRegistry) (own : String) : Plane σ := fun c s =>
  let host := retryHost own c
  let run := attempts p (registry.policyFor host) host c s
  (run.result, run.state)

end ConsumerConnector.Plane
