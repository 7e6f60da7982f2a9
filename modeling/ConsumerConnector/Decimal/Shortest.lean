/-!
The shortest decimal that reads back as a given double. A finite double is m · 2^q; the decimals that
read back as it fill an interval around it, whose ends belong to it when m is even. Of the grids with
one digit, two digits and so on, the first with a point in the interval is taken.
-/

namespace ConsumerConnector.Decimal

/-- `coefficient` · 10 ^ `exponent`. -/
structure Scientific where
  coefficient : Nat
  exponent : Int
  deriving DecidableEq, Repr

/-- The same decimal without zeros at the end of its coefficient. -/
def Scientific.reduced (s : Scientific) : Scientific :=
  if 0 < s.coefficient ∧ s.coefficient % 10 = 0 then
    Scientific.reduced ⟨s.coefficient / 10, s.exponent + 1⟩
  else s
termination_by s.coefficient

/-- A positive fraction. -/
structure Ratio where
  num : Nat
  den : Nat

namespace Ratio

/-- `n` · `base` ^ `e`. -/
def scaled (n base : Nat) : Int → Ratio
  | .ofNat e => ⟨n * Nat.pow base e, 1⟩
  | .negSucc e => ⟨n, Nat.pow base (e + 1)⟩

def divide (a b : Ratio) : Ratio :=
  ⟨a.num * b.den, a.den * b.num⟩

def floor (a : Ratio) : Nat :=
  a.num / a.den

def le (a b : Ratio) : Bool :=
  a.num * b.den ≤ b.num * a.den

def lt (a b : Ratio) : Bool :=
  a.num * b.den < b.num * a.den

end Ratio

/-- Magnitude of a finite double: `significand` · 2 ^ `exponent`. -/
structure Binary where
  significand : Nat
  exponent : Int
  /-- The next double below is nearer than the one above. -/
  narrowBelow : Bool

/-- The significand of a double that is not tiny begins with this bit. -/
def Binary.leadingBit : Nat := Nat.pow 2 52

def Binary.ofBits (bits : UInt64) : Binary :=
  let fraction : Nat := bits.toNat % leadingBit
  let biased : Nat := bits.toNat / leadingBit % 2048
  if biased = 0 then ⟨fraction, -1074, false⟩
  else ⟨leadingBit + fraction, (biased : Int) - 1075, fraction == 0 && biased != 1⟩

namespace Binary

def value (b : Binary) : Ratio :=
  .scaled b.significand 2 b.exponent

/-- The ends of the interval that reads back as `b`. -/
def low (b : Binary) : Ratio :=
  if b.narrowBelow then .scaled (4 * b.significand - 1) 2 (b.exponent - 2)
  else .scaled (2 * b.significand - 1) 2 (b.exponent - 1)

def high (b : Binary) : Ratio :=
  .scaled (2 * b.significand + 1) 2 (b.exponent - 1)

def readsBack (b : Binary) (x : Ratio) : Bool :=
  if b.significand % 2 = 0 then b.low.le x && x.le b.high else b.low.lt x && x.lt b.high

/-- The power of ten of the first digit. -/
def magnitude (b : Binary) : Int :=
  let guess := (((Nat.log2 b.significand : Nat) + b.exponent) * 30103).fdiv 100000
  if (Ratio.scaled 1 10 (guess + 1)).le b.value then guess + 1 else guess

/-- The point of the grid 10 ^ `e` that reads back as `b`, the nearer one if both neighbours do, and
the even one if they are equally near. -/
def onGrid? (b : Binary) (e : Int) : Option Scientific :=
  let unit := Ratio.scaled 1 10 e
  let below := (b.value.divide unit).floor
  let hit (n : Nat) := b.readsBack (.scaled n 10 e)
  -- twice the value against the sum of its neighbours
  let doubled := Ratio.divide ⟨2 * b.value.num, b.value.den⟩ unit
  let middle : Ratio := ⟨2 * below + 1, 1⟩
  match hit below, hit (below + 1) with
  | true, true =>
    if doubled.lt middle then some ⟨below, e⟩
    else if middle.lt doubled then some ⟨below + 1, e⟩
    else some ⟨below + below % 2, e⟩
  | true, false => some ⟨below, e⟩
  | false, true => some ⟨below + 1, e⟩
  | false, false => none

/-- Seventeen digits always read back. -/
def shortest (b : Binary) : Scientific :=
  ((List.range 17).findSome? fun k : Nat => b.onGrid? (b.magnitude - k)).getD
    ⟨(b.value.divide (.scaled 1 10 (b.magnitude - 16))).floor, b.magnitude - 16⟩

end Binary

/-- The shortest decimal for the magnitude of a finite double other than zero. -/
def shortest (x : Float) : Scientific :=
  (Binary.ofBits x.toBits).shortest.reduced

end ConsumerConnector.Decimal
