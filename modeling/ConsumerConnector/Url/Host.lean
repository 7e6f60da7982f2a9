import ConsumerConnector.Text.FormEncoding
import ConsumerConnector.Url.Domain.Basic
import ConsumerConnector.Url.Ipv4
import ConsumerConnector.Url.Ipv6

/-!
Hosts of addresses. A domain is brought to lower-case ASCII, and one that ends like a number is an
address of 32 bits.
-/

namespace ConsumerConnector.Url

inductive ParseError
  | emptyHost
  | invalidPort
  | relativeWithoutBase
  | invalidDomain
  | invalidIpv4
  | invalidIpv6
  | invalidCharacter
  deriving DecidableEq, Repr

def ParseError.message : ParseError → String
  | emptyHost => "empty host"
  | invalidPort => "invalid port number"
  | relativeWithoutBase => "relative URL without a base"
  | invalidDomain => "invalid international domain name"
  | invalidIpv4 => "invalid IPv4 address"
  | invalidIpv6 => "invalid IPv6 address"
  | invalidCharacter => "invalid domain character"

namespace Host

/-- Octets of a text with percent-encoded ones decoded. -/
def percentDecode : List Char → List UInt8
  | '%' :: a :: b :: rest =>
    match Decimal.hexDigit? a, Decimal.hexDigit? b with
    | some x, some y => .ofNat (x * 16 + y) :: percentDecode rest
    | _, _ => 37 :: percentDecode (a :: b :: rest)
  | c :: rest => (String.singleton c).toUTF8.data.toList ++ percentDecode rest
  | [] => []

def bracketed (cs : List Char) : Option (Except ParseError String) :=
  match cs with
  | '[' :: rest =>
    some (match rest.reverse with
      | ']' :: inner =>
        match Ipv6.parse? inner.reverse with
        | some pieces => .ok ("[" ++ Ipv6.render pieces ++ "]")
        | none => .error .invalidIpv6
      | _ => .error .invalidIpv6)
  | _ => none

/-- The host of an address whose scheme is for the web. -/
def parse (cs : List Char) : Except ParseError String :=
  match bracketed cs with
  | some result => result
  | none =>
    match Domain.ascii? (percentDecode cs) with
    | none => .error .invalidDomain
    | some domain =>
      if domain.isEmpty then .error .emptyHost
      else if Ipv4.endsInNumber domain then
        match Ipv4.parse? domain with
        | some address => .ok (Ipv4.render address)
        | none => .error .invalidIpv4
      else .ok (String.ofList domain)

def isOpaqueForbidden (c : Char) : Bool :=
  ['\x00', '\t', '\n', '\r', ' ', '#', '/', ':', '<', '>', '?', '@', '[', '\\', ']', '^', '|'].contains
    c

/-- The host of any other address, which is kept as it is. -/
def parseOpaque (cs : List Char) : Except ParseError String :=
  match bracketed cs with
  | some result => result
  | none =>
    if cs.any isOpaqueForbidden then .error .invalidCharacter
    else
      .ok (String.ofList (Text.percentEncode (fun b => 32 ≤ b.toNat && b.toNat < 127)
        (String.ofList cs).toUTF8.data.toList))

end Host

end ConsumerConnector.Url
