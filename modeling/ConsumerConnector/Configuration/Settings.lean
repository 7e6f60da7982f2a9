import ConsumerConnector.Configuration.Validation
import ConsumerConnector.Policy.Store

/-! The settings of each part, taken from a configuration. -/

namespace ConsumerConnector.Configuration

def negotiation (c : Configuration) : Negotiation.Settings where
  negotiationTtl := c.controlPlane.negotiationTtl
  transferTtl := c.controlPlane.transferTtl
  pollInterval := c.credentials.pollInterval
  callback := c.controlPlane.callback
  suffix := c.controlPlane.suffix

def catalog (c : Configuration) : Catalog.Settings :=
  ⟨c.controlPlane.pageSize, c.controlPlane.suffix⟩

def Backoff.policy (b : Backoff) : RetryPolicy :=
  ⟨b.maxAttempts, RetryPolicy.milliseconds b.initialDelay, RetryPolicy.milliseconds b.maxDelay,
    b.multiplier⟩

/-- Hosts are known by their trimmed names in lower case. -/
def retryRegistry (c : Configuration) : RetryRegistry :=
  c.retry.hosts.foldl (fun r h => r.withHost h.name h.backoff.policy) ⟨c.retry.backoff.policy, ∅⟩

def PolicyEntry.accepted (p : PolicyEntry) : AcceptedPolicy :=
  ⟨Text.trim p.id, p.validUntil, none⟩

def policyStore (c : Configuration) : Policy.Store :=
  c.policies.foldl (fun store p => match p.partner with
    | some partner => store.add (Text.trim partner) p.accepted
    | none => store.addDefault p.accepted) (.ofDefaults [])

end ConsumerConnector.Configuration
