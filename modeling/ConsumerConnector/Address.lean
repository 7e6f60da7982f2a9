import ConsumerConnector.Text.Segment

/-! Addresses of providers. -/

namespace ConsumerConnector.Address

/-- Where a provider usually listens for protocol messages. -/
def defaultSuffix : String := "/api/v1/dsp"

/-- Appends a path that the address does not end in yet; slashes at its end are dropped before. -/
def withSuffix (address suffix : String) : String :=
  if suffix.isEmpty then address
  else
    let base := Text.dropTrailing '/' address
    if Text.endsWith base suffix then base else base ++ suffix

end ConsumerConnector.Address
