import ConsumerConnector.Acquisition.Session
import ConsumerConnector.Configuration.Loading
import ConsumerConnector.Configuration.Settings
import ConsumerConnector.ControlPlane.Retry
import ConsumerConnector.Management.Client

/-! Everything that acquires credentials, put together as a configuration says. -/

namespace ConsumerConnector.Configuration

structure Assembly where
  configuration : Configuration
  client : Management.Client

/-- The parts of an orchestrator, all of which are there before it is put together. -/
def parts : Acquisition.Parts := ⟨true, true, true⟩

def assemble (c : Configuration) : Except ConfigurationError Assembly := do
  let configuration ← c.validate
  let client ← (Management.Client.make c.controlPlane.management).mapError (.invalid <| .client ·)
  (parts.check (.ok ())).mapError (.invalid <| .orchestrator ·)
  return ⟨configuration, client⟩

namespace Assembly

variable {σ : Type}

/-- Calls go through the client and are repeated as the configuration says. -/
def plane (a : Assembly)
    (exchange : Management.HttpRequest → σ →
      Management.Exchange × List Credential.Delivery × σ) :
    Acquisition.DeliveringPlane σ :=
  let transport : Management.Transport (σ × List Credential.Delivery) := fun q (s, delivered) =>
    let (x, deliveries, s) := exchange q s
    (x, s, delivered ++ deliveries)
  .ofPlane ((a.client.plane transport).retrying a.configuration.retryRegistry a.client.host)

def environment (a : Assembly) (store : Policy.Store) (wall : Timestamp)
    (exchange : Management.HttpRequest → σ →
      Management.Exchange × List Credential.Delivery × σ) :
    Acquisition.Environment σ :=
  .make a.configuration.negotiation a.configuration.credentials.requestTtl a.configuration.catalog
    store wall (a.plane exchange)

/-- The session starts with an empty cache. -/
def session (a : Assembly) (s : σ) : Acquisition.Session σ :=
  .start (RetryPolicy.milliseconds a.configuration.credentials.storage) s

end Assembly

end ConsumerConnector.Configuration
