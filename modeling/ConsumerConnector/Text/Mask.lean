/-! Identifiers shortened for messages. -/

namespace ConsumerConnector.Text

/-- How many characters of a long identifier stay visible. -/
def visibleLead : Nat := 6

/-- A long identifier shows its first characters, a short one only its length. -/
def mask (s : String) : String :=
  let cs := s.toList
  if cs.length ≤ visibleLead then String.ofList (List.replicate cs.length '*')
  else String.ofList (cs.take visibleLead ++ ['*', '*', '*'])

end ConsumerConnector.Text
