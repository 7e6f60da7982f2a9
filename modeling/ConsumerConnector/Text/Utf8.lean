/-!
UTF-8 read leniently: octets that form no character are kept as gaps, one for each longest piece
that could still have begun a character.
-/

namespace ConsumerConnector.Text.Utf8

/-- A character whose first octets have been read. The next octet lies between `low` and `high`,
and `more` further ones follow it. -/
structure Pending where
  code : Nat
  low : UInt8
  high : UInt8
  more : Nat

inductive Lead
  | whole (c : Char)
  | opens (p : Pending)
  | stray

def lead (b : UInt8) : Lead :=
  let n := b.toNat
  if n < 0x80 then .whole (Char.ofNat n)
  else if n < 0xC2 then .stray
  else if n < 0xE0 then .opens ⟨n - 0xC0, 0x80, 0xBF, 0⟩
  else if n = 0xE0 then .opens ⟨0, 0xA0, 0xBF, 1⟩
  else if n = 0xED then .opens ⟨0xD, 0x80, 0x9F, 1⟩
  else if n < 0xF0 then .opens ⟨n - 0xE0, 0x80, 0xBF, 1⟩
  else if n = 0xF0 then .opens ⟨0, 0x90, 0xBF, 2⟩
  else if n < 0xF4 then .opens ⟨n - 0xF0, 0x80, 0xBF, 2⟩
  else if n = 0xF4 then .opens ⟨4, 0x80, 0x8F, 2⟩
  else .stray

def begin (b : UInt8) : List (Option Char) × Option Pending :=
  match lead b with
  | .whole c => ([some c], none)
  | .opens p => ([], some p)
  | .stray => ([none], none)

/-- One octet more: what is now known, and what is still open. -/
def step : Option Pending → UInt8 → List (Option Char) × Option Pending
  | none, b => begin b
  | some p, b =>
    if p.low ≤ b ∧ b ≤ p.high then
      let code := p.code * 64 + (b.toNat - 0x80)
      match p.more with
      | 0 => ([some (Char.ofNat code)], none)
      | more + 1 => ([], some ⟨code, 0x80, 0xBF, more⟩)
    else
      let (known, rest) := begin b
      (none :: known, rest)

/-- One octet more, with the characters found so far, the last one first. -/
def advance (s : List (Option Char) × Option Pending) (b : UInt8) :
    List (Option Char) × Option Pending :=
  let (known, p) := step s.2 b
  (known.reverse ++ s.1, p)

/-- A character that is still open at the end is a gap. -/
def scanOctets (bs : List UInt8) : List (Option Char) :=
  let (found, p) := bs.foldl advance ([], none)
  (if p.isSome then none :: found else found).reverse

/-- The characters of an octet sequence, `none` where octets form none. -/
def scan (bytes : ByteArray) : List (Option Char) :=
  match String.fromUTF8? bytes with
  | some s => s.toList.map some
  | none => scanOctets bytes.data.toList

theorem scan_toUTF8 (s : String) : scan s.toUTF8 = s.toList.map some := by
  have h : String.fromUTF8? s.toUTF8 = some s := dif_pos s.isValidUTF8
  rw [scan, h]

/-- The text of an octet sequence, with the replacement character in each gap. -/
def lossy (bytes : ByteArray) : String :=
  String.ofList ((scan bytes).map (·.getD '\uFFFD'))

end ConsumerConnector.Text.Utf8
