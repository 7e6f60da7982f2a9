import ConsumerConnector.Decimal.Digits
import ConsumerConnector.Text.Segment

/-!
Addresses of 32 bits. Up to four parts, each decimal, octal or hexadecimal; the last part fills all
octets that are left.
-/

namespace ConsumerConnector.Url.Ipv4

/-- A part with its base told by its first characters; the inner `none` is a number of more than 32
bits. -/
def part? (cs : List Char) : Option (Option Nat) :=
  let read (base : Nat) (ds : List Char) : Option (Option Nat) := do
    let values ← ds.mapM Decimal.hexDigit?
    guard (values.all (· < base))
    let n := Decimal.ofDigits base values
    return if n < Decimal.wordSize 32 then some n else none
  match cs with
  | [] => none
  | '0' :: 'x' :: ds | '0' :: 'X' :: ds => read 16 ds
  | '0' :: d :: ds => read 8 (d :: ds)
  | ds => read 10 ds

/-- The parts of a host; a point at its end is passed over. -/
def parts (cs : List Char) : List (List Char) :=
  match (Text.pieces '.' cs).reverse with
  | [] :: rest => rest.reverse
  | pieces => pieces.reverse

/-- Whether a host ends like a number, and so can only be an address. -/
def endsInNumber (cs : List Char) : Bool :=
  match (parts cs).getLast? with
  | none => false
  | some last => (!last.isEmpty && last.all Decimal.isDigit) || (part? last).isSome

def combine? (numbers : List Nat) : Option Nat := do
  let last ← numbers.getLast?
  let first := numbers.dropLast
  guard (first.length ≤ 3 ∧ first.all (· < 256) ∧ last < Nat.pow 256 (4 - first.length))
  return first.zipIdx.foldl (fun sum (n, i) => sum + n * Nat.pow 256 (3 - i)) last

def parse? (cs : List Char) : Option Nat := do
  combine? (← (parts cs).mapM fun p => (part? p).bind id)

def render (address : Nat) : String :=
  ".".intercalate ([3, 2, 1, 0].map fun i => toString (address / Nat.pow 256 i % 256))

end ConsumerConnector.Url.Ipv4
