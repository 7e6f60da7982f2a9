import ConsumerConnector.Text.Blank
import ConsumerConnector.Url.Host

/-!
Absolute addresses. Schemes of the web take a host after any number of slashes; other schemes take one
only after two. Blanks around an address and line breaks or tabs in it are passed over.
-/

namespace ConsumerConnector

structure Url where
  scheme : String
  hasCredentials : Bool
  host : Option String
  port : Option Nat
  /-- The path in percent-encoded form. -/
  path : String
  query : Option String

namespace Url

inductive SchemeKind
  | web (port : Nat)
  | file
  | other
  deriving DecidableEq

def schemeKind : String → SchemeKind
  | "http" | "ws" => .web 80
  | "https" | "wss" => .web 443
  | "ftp" => .web 21
  | "file" => .file
  | _ => .other

def SchemeKind.isSpecial : SchemeKind → Bool
  | other => false
  | _ => true

def isSlash (special : Bool) (c : Char) : Bool :=
  c == '/' || (special && c == '\\')

/-- Ends the part that names who and where. -/
def endsAuthority (special : Bool) (c : Char) : Bool :=
  isSlash special c || c == '?' || c == '#'

/-- Control characters and the blank. -/
def isOuterBlank (c : Char) : Bool := c.toNat ≤ 32

def isIgnored (c : Char) : Bool := c == '\t' || c == '\n' || c == '\r'

/-- The scheme in lower case, and what follows its colon. -/
def scheme? (cs : List Char) : Option (String × List Char) := do
  let first ← cs.head?
  guard first.isAlpha
  let isPart (c : Char) : Bool := c.isAlphanum || c == '+' || c == '-' || c == '.'
  match cs.dropWhile isPart with
  | ':' :: rest => return (String.ofList ((cs.takeWhile isPart).map Char.toLower), rest)
  | _ => none

/-- A part of an authority before its last `@`, and the host part after it. -/
def splitUser (cs : List Char) : Option (List Char × List Char) :=
  let host := (cs.reverse.takeWhile (· != '@')).reverse
  if host.length = cs.length then none else some (cs.take (cs.length - host.length - 1), host)

/-- A name or a password that is not empty. -/
def isCredential (user : List Char) : Bool :=
  user.any (· != ':') || 2 ≤ user.length

/-- Host and port parts; a colon in brackets belongs to the host. -/
def splitPort (cs : List Char) : List Char × Option (List Char) :=
  let rec go (inside : Bool) : List Char → List Char × Option (List Char)
    | [] => ([], none)
    | c :: rest =>
      if c = ':' ∧ inside = false then ([], some rest)
      else
        let (host, port) := go (if c = '[' then true else if c = ']' then false else inside) rest
        (c :: host, port)
  go false cs

/-- A port; the scheme's own port and an empty one are not kept. -/
def port? (own : Option Nat) (cs : List Char) : Except ParseError (Option Nat) :=
  if cs.all Decimal.isDigit then
    let n := Decimal.ofDigits 10 (cs.filterMap Decimal.digit?)
    if 65536 ≤ n then .error .invalidPort
    else .ok (if cs.isEmpty ∨ own = some n then none else some n)
  else .error .invalidPort

structure Authority where
  hasCredentials : Bool
  host : String
  port : Option Nat
  /-- What follows the port and belongs to the path already. -/
  rest : List Char

/-- Reads who and where. A lone `@` must not be followed by anything. A port ends at a backslash also
where that is no slash. -/
def authority (kind : SchemeKind) (cs : List Char) (isLast : Bool) :
    Except ParseError Authority := do
  let (user, rest) := (splitUser cs).getD ([], cs)
  if (splitUser cs).isSome && user.isEmpty && rest.isEmpty && !isLast then throw .emptyHost
  let (hostPart, portPart) := splitPort rest
  let credentials := isCredential user
  let host ← match kind with
    | .other => Host.parseOpaque hostPart
    | _ => if hostPart.isEmpty then throw .emptyHost else Host.parse hostPart
  if host.isEmpty && (portPart.isSome || credentials) then throw .emptyHost
  let own := match kind with
    | .web p => some p
    | _ => none
  let digits := portPart.map (·.takeWhile (· != '\\'))
  let port ← (digits.map (port? own)).getD (.ok none)
  return ⟨credentials, host, port, (portPart.getD []).dropWhile (· != '\\')⟩

def isHex (cs : List Char) : Bool := cs.all fun c => (Decimal.hexDigit? c).isSome

/-- Octets that a path keeps: visible ASCII without a few marks. -/
def isPathPlain (b : UInt8) : Bool :=
  let c := Char.ofNat b.toNat
  32 < b.toNat && b.toNat < 127 &&
    !(c ∈ ['"', '#', '<', '>', '?', '\x60', '\x7b', '\x7d', '^'])

def encodePath (cs : List Char) : List Char :=
  Text.percentEncode isPathPlain (String.ofList cs).toUTF8.data.toList

/-- A single dot, plain or encoded. -/
def isHere (segment : List Char) : Bool :=
  ["." , "%2e"].contains (String.ofList (segment.map Char.toLower))

def isUp (segment : List Char) : Bool :=
  ["..", ".%2e", "%2e.", "%2e%2e"].contains (String.ofList (segment.map Char.toLower))

/-- A drive of a file system, such as `c:`. -/
def isDrive : List Char → Bool
  | [c, mark] => c.isAlpha && (mark == ':' || mark == '|')
  | _ => false

/-- Goes up by a segment. No way leads up from a drive. -/
def up : List (List Char) → List (List Char)
  | [] => []
  | segment :: kept => if isDrive segment then segment :: kept else kept

/-- Takes the segments of a path in order; `kept` has the last one first. -/
def resolve (kept : List (List Char)) : List (List Char) → List (List Char)
  | [] => kept.reverse
  | [last] =>
    if isUp last then ([] :: up kept).reverse
    else if isHere last then ([] :: kept).reverse
    else (last :: kept).reverse
  | segment :: rest =>
    if isUp segment then resolve (up kept) rest
    else if isHere segment then resolve kept rest
    else resolve (segment :: kept) rest

def renderPath (segments : List (List Char)) : String :=
  String.ofList (segments.flatMap fun s => '/' :: s)

def splitSegments (special : Bool) (cs : List Char) : List (List Char) :=
  Text.pieces '/' (if special then cs.map fun c => if c = '\\' then '/' else c else cs)

/-- The segments of a path, dots resolved. -/
def segmentsOf (special : Bool) (cs : List Char) : List (List Char) :=
  let cs := if (cs.head?.map (isSlash special)).getD false then cs.drop 1 else cs
  resolve [] ((splitSegments special cs).map encodePath)

def pathOf (special : Bool) (cs : List Char) : String :=
  renderPath (segmentsOf special cs)

def isQueryPlain (b : UInt8) : Bool :=
  let c := Char.ofNat b.toNat
  32 < b.toNat && b.toNat < 127 && !(c ∈ ['"', '#', '<', '>', '\''])

/-- What stands before, in and after the query; the fragment is left out. -/
def splitQuery (cs : List Char) : List Char × Option String :=
  let cs := cs.takeWhile (· != '#')
  match cs.dropWhile (· != '?') with
  | [] => (cs, none)
  | _ :: query =>
    (cs.takeWhile (· != '?'), some (String.ofList (Text.percentEncode isQueryPlain
      (String.ofList query).toUTF8.data.toList)))

def withAuthority (scheme : String) (kind : SchemeKind) (cs : List Char) :
    Except ParseError Url := do
  let special := kind.isSpecial
  let after := cs.dropWhile (! endsAuthority special ·)
  let a ← authority kind (cs.takeWhile (! endsAuthority special ·)) after.isEmpty
  let (path, query) := splitQuery (a.rest ++ after)
  let path := if path.isEmpty && !special then "" else pathOf special path
  return ⟨scheme, a.hasCredentials, if a.host.isEmpty then none else some a.host, a.port, path, query⟩

/-- A file has a host after two slashes only. The local host counts as none, and a file on a drive has
none either. -/
def file (cs : List Char) : Except ParseError Url := do
  match cs with
  | a :: b :: rest =>
    if isSlash true a && isSlash true b then
      let hostPart := rest.takeWhile (! endsAuthority true ·)
      if hostPart.isEmpty || isDrive hostPart then return plain rest
      let host ← Host.parse hostPart
      let (path, query) := splitQuery (rest.dropWhile (! endsAuthority true ·))
      let segments := segmentsOf true path
      let isLocal := host = "localhost" || (segments.head?.map isDrive).getD false
      return ⟨"file", false, if isLocal then none else some host, none, renderPath segments, query⟩
    else return plain cs
  | _ => return plain cs
where
  plain (cs : List Char) : Url :=
    let (path, query) := splitQuery cs
    ⟨"file", false, none, none, pathOf true path, query⟩

def parse (s : String) : Except ParseError Url :=
  let cs := (Text.strip isOuterBlank s.toList).filter (! isIgnored ·)
  match scheme? cs with
  | none => .error .relativeWithoutBase
  | some (scheme, rest) =>
    match schemeKind scheme with
    | .file => file rest
    | .web p => withAuthority scheme (.web p) (rest.dropWhile (isSlash true))
    | .other =>
      match rest with
      | '/' :: '/' :: rest => withAuthority scheme .other rest
      | _ =>
        let (path, query) := splitQuery rest
        .ok ⟨scheme, false, none, none,
          if path.head? = some '/' then pathOf false path else String.ofList path, query⟩

/-- The host that an address names, or else the address itself. -/
def hostOf (address : String) : String :=
  match parse address with
  | .ok url => url.host.getD address
  | .error _ => address

/-- What a request for the address asks its host for. -/
def target (url : Url) : String :=
  url.path ++ (url.query.map ("?" ++ ·)).getD ""

end Url

end ConsumerConnector
