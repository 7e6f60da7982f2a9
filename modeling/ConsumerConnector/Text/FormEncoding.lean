/-! Percent-encoding of octets outside a set that is written as it is. -/

namespace ConsumerConnector.Text

def hexDigit (n : Nat) : Char :=
  if n < 10 then Char.ofNat (n + 48) else Char.ofNat (n - 10 + 65)

def percent (b : UInt8) : List Char :=
  ['%', hexDigit (b.toNat / 16), hexDigit (b.toNat % 16)]

def percentEncode (plain : UInt8 → Bool) (bytes : List UInt8) : List Char :=
  bytes.flatMap fun b => if plain b then [Char.ofNat b.toNat] else percent b

/-- Letters, digits and the four marks that a form value keeps. -/
def isFormPlain (b : UInt8) : Bool :=
  let c := Char.ofNat b.toNat
  c.isAlphanum || c = '*' || c = '-' || c = '.' || c = '_'

/-- A form value, with a blank written `%20`. -/
def formEncode (s : String) : String :=
  String.ofList (percentEncode isFormPlain s.toUTF8.data.toList)

end ConsumerConnector.Text
