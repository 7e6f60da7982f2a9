import ConsumerConnector.Configuration.Reading
import ConsumerConnector.Configuration.Validation
import ConsumerConnector.Text.Segment

/-!
Configurations loaded from a file. The file is named by the caller, else by the environment, else it
has its default name in the working directory. A configuration that was loaded has been checked.
-/

namespace ConsumerConnector.Configuration

def parseFailure : ConfigurationError := .parse "<toml error>"

def ioFailure : ConfigurationError := .io "<os error>"

def validate (c : Configuration) : Except ConfigurationError Configuration :=
  match c.check with
  | .ok () => .ok c
  | .error fault => .error (.invalid fault)

def ofText (s : String) : Except ConfigurationError Configuration :=
  match ofText? s with
  | some c => c.validate
  | none => .error parseFailure

def defaultName : String := "dataspace-edr.toml"

def maxLocationLength : Nat := 4096

def maxComponentLength : Nat := 255

def maxFileSize : Nat := 1048576

/-- The components of a path that lead anywhere. -/
def components (path : String) : List String :=
  ((Text.pieces '/' path.toList).map String.ofList).filter fun c => !c.isEmpty && c != "."

def location (path environment : Option String) : Except Fault String :=
  match path, environment with
  | some p, _ => .ok p
  | none, some e =>
    if maxLocationLength < e.utf8ByteSize then .error .locationLong else .ok e
  | none, none => .ok defaultName

def checkLocation (path : String) : Check := do
  demand (path.utf8ByteSize ≤ maxLocationLength) .locationLong
  demand ((components path).all (·.utf8ByteSize ≤ maxComponentLength)) .componentLong

/-- Files below the working directory, by name. -/
abbrev Files := Dictionary ByteArray

/-- The name of a file that a path leads to; a path from the root or to a directory leads to none. -/
def fileName? (path : String) : Option String :=
  if Text.startsWith path "/" || Text.endsWith path "/" || Text.endsWith path "/." then none
  else some (String.intercalate "/" (components path))

def ofBytes (bytes : ByteArray) : Except ConfigurationError Configuration :=
  if maxFileSize < bytes.size then .error (.invalid .fileLarge)
  else
    match String.fromUTF8? bytes with
    | some s => ofText s
    | none => .error (.invalid .fileNotText)

def load (files : Files) (path environment : Option String) :
    Except ConfigurationError Configuration := do
  let path ← (location path environment).mapError .invalid
  (checkLocation path).mapError .invalid
  match (fileName? path).bind files.get? with
  | some bytes => ofBytes bytes
  | none => .error ioFailure

end ConsumerConnector.Configuration
