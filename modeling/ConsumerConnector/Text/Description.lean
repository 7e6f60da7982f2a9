import ConsumerConnector.Text.Quoted

/-! Descriptions of records for logs. -/

namespace ConsumerConnector.Text

/-- What stands in the place of a secret. -/
def redacted : String := Quoted.encode "<redacted>"

/-- A description names a record and its fields; one that leaves fields out says so. -/
def describe (name : String) (fields : List (String × String)) (complete : Bool) : String :=
  let parts := fields.map fun (field, value) => field ++ ": " ++ value
  name ++ " \x7b " ++ String.intercalate ", " (if complete then parts else parts ++ [".."]) ++ " \x7d"

end ConsumerConnector.Text
