import ConsumerConnector.Text.Description

/-! Where and how a connector is managed. Times are in milliseconds. -/

namespace ConsumerConnector

/-- A header that is sent along with every request. -/
structure ApiKey where
  header : String
  secret : String
  deriving DecidableEq

def ApiKey.describe (k : ApiKey) (name : String) : String :=
  Text.describe name [("header", Text.Quoted.encode k.header), ("secret", Text.redacted)] true

namespace Management

structure Settings where
  url : String
  catalogPath : String
  negotiationPath : String
  transferPath : String
  stateSuffix : String
  apiKey : Option ApiKey
  timeout : Nat
  /-- The most bytes a response may have. -/
  responseLimit : Nat
  userAgent : String

def Settings.default : Settings where
  url := ""
  catalogPath := "/v2/catalog/request"
  negotiationPath := "/v2/contractnegotiations"
  transferPath := "/v2/transferprocesses"
  stateSuffix := "/state"
  apiKey := none
  timeout := 30000
  responseLimit := 8388608
  userAgent := "dataspace-edr/0.1"

end Management

end ConsumerConnector
