import ConsumerConnector.Credential.Cache
import ConsumerConnector.Credential.Callback

/-! Credentials that arrive while others are waiting for them. -/

namespace ConsumerConnector.Credential

inductive Delivery
  | body (bytes : ByteArray)
  | stored (key : String) (c : Credential)

namespace Callback

/-- A delivered credential is stored under its contract; what cannot be read changes nothing. -/
def handle (cache : Cache) (body : ByteArray) (now : Nat) : Except ClientError String × Cache :=
  match read body with
  | .ok c => (.ok c.contract, cache.put c.contract c now)
  | .error e => (.error e, cache)

end Callback

namespace Delivery

def apply (d : Delivery) (cache : Cache) (now : Nat) : Cache :=
  match d with
  | .body bytes => (Callback.handle cache bytes now).2
  | .stored key c => cache.put key c now

end Delivery

end ConsumerConnector.Credential
