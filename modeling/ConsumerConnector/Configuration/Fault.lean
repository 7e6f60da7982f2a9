import ConsumerConnector.Failure.Client
import ConsumerConnector.Url.Host

/-! What may be wrong with a configuration. -/

namespace ConsumerConnector

namespace Configuration

inductive Fault
  | urlMissing
  | urlUnreadable (field : String) (reason : Url.ParseError)
  | schemeUnsupported (field : String)
  | hostMissing (field : String)
  | credentialsEmbedded (field : String)
  | pathRelative (field : String)
  | pathLong (field : String)
  | pathNotPlain (field : String)
  | above (field : String) (max : Nat)
  /-- Outside of its bounds, which are given with a unit. -/
  | outside (field : String) (min max : Nat) (unit : String)
  | blank (field : String)
  | blankPartner
  | headerName
  | tooMany (field : String) (max : Nat)
  | hostRepeated (name : String)
  | delayOrder (field : String)
  | multiplier (field : String)
  | pollInterval (field : String)
  | locationLong
  | componentLong
  | fileLarge
  | fileNotText
  | client (e : TransportError)
  | orchestrator (e : ClientError)

def Fault.message : Fault → String
  | urlMissing => "controlplane.management_url is required"
  | urlUnreadable field reason => field ++ " is not a valid url: " ++ reason.message
  | schemeUnsupported field => field ++ " must use http or https"
  | hostMissing field => field ++ " must include a host"
  | credentialsEmbedded field => field ++ " must not embed credentials"
  | pathRelative field => field ++ " must start with '/'"
  | pathLong field => field ++ " exceeds max length"
  | pathNotPlain field => field ++ " must be a plain path"
  | above field max => field ++ " must be at most " ++ toString max
  | outside field min max unit =>
    field ++ " must be between " ++ toString min ++ " and " ++ toString max ++ unit
  | blank field => field ++ " must be non-empty"
  | blankPartner => "accepted_policies.bpn must be non-empty when set"
  | headerName => "controlplane.api_key.header must be a valid header name"
  | tooMany field max => field ++ " exceeds " ++ toString max ++ " entries"
  | hostRepeated name => "retry.hosts contains duplicate host " ++ name
  | delayOrder field => field ++ ".initial_delay_ms must be <= max_delay_ms"
  | multiplier field => field ++ ".backoff_multiplier must be a finite number >= 1.0"
  | pollInterval field => "edr.poll_interval_ms must be below " ++ field
  | locationLong => "config path exceeds max length"
  | componentLong => "config path component too long"
  | fileLarge => "config file exceeds size limit"
  | fileNotText => "config file must be utf-8"
  | client e => "controlplane: " ++ e.message
  | orchestrator e => "orchestrator: " ++ e.message

end Configuration

/-- Why there is no configuration. Where a reader of files or of their format failed, it gives the
reason in its own words. -/
inductive ConfigurationError
  | io (reason : String)
  | parse (reason : String)
  | invalid (fault : Configuration.Fault)

namespace ConfigurationError

def label : ConfigurationError → String
  | io _ => "io"
  | parse _ => "parse"
  | invalid _ => "invalid"

def message : ConfigurationError → String
  | io reason => "config io error: " ++ reason
  | parse reason => "config parse error: " ++ reason
  | invalid fault => "invalid config: " ++ fault.message

end ConfigurationError

end ConsumerConnector
