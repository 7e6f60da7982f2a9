import ConsumerConnector.ControlPlane.Call
import ConsumerConnector.LinkedData.Reading
import ConsumerConnector.LinkedData.Writing
import ConsumerConnector.Management.Exchange
import ConsumerConnector.Management.Settings
import ConsumerConnector.Url.Basic

/-!
A client of a management API: every call on the control plane is one exchange. Documents travel as
linked data.
-/

namespace ConsumerConnector.Management

structure Client where
  settings : Settings
  /-- The address of the API without slashes at its end. -/
  base : String

/-- Carries requests out. -/
abbrev Transport (σ : Type) := HttpRequest → σ → Exchange × σ

namespace Client

/-- Tabs, and all octets but controls. -/
def isHeaderValue (s : String) : Bool :=
  s.toList.all fun c => c == '\t' || (32 ≤ c.toNat && c.toNat ≠ 127)

def isHeaderName (s : String) : Bool :=
  !s.isEmpty && s.toList.all fun c =>
    c.isAlphanum || c ∈ ['!', '#', '$', '%', '&', '\'', '*', '+', '-', '.', '^', '_', '\x60', '|', '~']

def checkAddress (url : Url) : Except TransportError Unit :=
  if url.scheme ≠ "http" ∧ url.scheme ≠ "https" then
    .error (.request "unsupported management url scheme")
  else if url.hasCredentials then
    .error (.request "management url credentials are not allowed")
  else if url.host.isNone then .error (.request "management url host required")
  else .ok ()

def make (s : Settings) : Except TransportError Client := do
  let url ← (Url.parse s.url).mapError fun e => .request ("invalid management url: " ++ e.message)
  checkAddress url
  if isHeaderValue s.userAgent then return ⟨s, Text.dropTrailing '/' s.url⟩
  else .error (.request "http client build failed: <build error>")

/-- The host that retries of calls without a provider are counted under. -/
def host (c : Client) : String :=
  match Url.parse c.base with
  | .ok url => url.host.getD ""
  | .error _ => ""

/-- The path of a call, and the document it sends along. -/
def route (s : Settings) : Call → String × Option Json
  | .getCatalog q => (s.catalogPath, some (LinkedData.catalogRequestBody q))
  | .startNegotiation q => (s.negotiationPath, some (LinkedData.negotiationRequestBody q))
  | .getNegotiation id => (s.negotiationPath ++ "/" ++ id, none)
  | .getNegotiationState id => (s.negotiationPath ++ "/" ++ id ++ s.stateSuffix, none)
  | .startTransfer q => (s.transferPath, some (LinkedData.transferRequestBody q))
  | .getTransfer id => (s.transferPath ++ "/" ++ id, none)
  | .getTransferState id => (s.transferPath ++ "/" ++ id ++ s.stateSuffix, none)

def mediaType : String := "application/json"

def headers (s : Settings) (hasBody : Bool) : Dictionary String :=
  .ofList ([("accept", mediaType), ("user-agent", s.userAgent)] ++
    (if hasBody then [("content-type", mediaType)] else []) ++
    (s.apiKey.map fun k => (Text.lowerAscii k.header, k.secret)).toList)

/-- A key that cannot be sent as a header lets no request out. -/
def request (c : Client) (call : Call) : Except TransportError HttpRequest :=
  let (path, body) := route c.settings call
  let keyFits := (c.settings.apiKey.map fun k => isHeaderName k.header && isHeaderValue k.secret)
  match Url.parse (c.base ++ path), keyFits.getD true with
  | .ok url, true =>
    .ok ⟨if body.isSome then "POST" else "GET", url.target, headers c.settings body.isSome, body⟩
  | _, _ => .error (.request exchangeFailure)

/-- The answer to a call in a document. -/
def read : (call : Call) → Json → call.Reply
  | .getCatalog _ => LinkedData.catalog
  | .startNegotiation _ => LinkedData.created
  | .getNegotiation _ => LinkedData.negotiation
  | .getNegotiationState _ => LinkedData.stateReport
  | .startTransfer _ => LinkedData.created
  | .getTransfer _ => LinkedData.transfer
  | .getTransferState _ => LinkedData.stateReport

def plane {σ : Type} (c : Client) (transport : Transport σ) : Plane σ := fun call s =>
  match c.request call with
  | .error e => (.error e, s)
  | .ok request =>
    let (exchange, s) := transport request s
    ((receive c.settings.timeout c.settings.responseLimit exchange).bind (read call), s)

end Client

end ConsumerConnector.Management
