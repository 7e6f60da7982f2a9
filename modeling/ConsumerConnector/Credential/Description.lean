import ConsumerConnector.Credential.Basic
import ConsumerConnector.Text.Description

/-! Credentials as logs may show them: the token is left out, and the properties with it. -/

namespace ConsumerConnector.Credential

def describe (c : Credential) : String :=
  Text.describe "EndpointDataReference"
    [("id", Text.Quoted.encode c.id), ("contract_id", Text.Quoted.encode c.contract),
      ("endpoint", Text.Quoted.encode c.endpoint), ("auth_key", Text.Quoted.encode c.authKey),
      ("auth_code", if c.authCode.isSome then "Some(" ++ Text.redacted ++ ")" else "None")]
    false

end ConsumerConnector.Credential
