import ConsumerConnector.Text.Segment

/-!
Labels of domain names with characters outside ASCII, written in ASCII: the plain characters first,
then for each other character, in order of code, how far it is from the one before.
-/

namespace ConsumerConnector.Url.Punycode

def digitChar (d : Nat) : Char :=
  if d < 26 then Char.ofNat (d + 97) else Char.ofNat (d - 26 + 48)

def digit? (c : Char) : Option Nat :=
  if 'a' ≤ c ∧ c ≤ 'z' then some (c.toNat - 97)
  else if 'A' ≤ c ∧ c ≤ 'Z' then some (c.toNat - 65)
  else if '0' ≤ c ∧ c ≤ '9' then some (c.toNat - 48 + 26)
  else none

/-- The least digit at position `k` that does not end a number. -/
def threshold (k bias : Nat) : Nat :=
  max 1 (min 26 (k - bias))

theorem threshold_bounds (k bias : Nat) : 1 ≤ threshold k bias ∧ threshold k bias ≤ 26 := by
  unfold threshold
  omega

def damp (delta k : Nat) : Nat :=
  if 455 < delta then damp (delta / 35) (k + 36) else k + 36 * delta / (delta + 38)
termination_by delta

def adapt (delta points : Nat) (first : Bool) : Nat :=
  let delta := if first then delta / 700 else delta / 2
  damp (delta + delta / points) 0

/-- A number with its lowest digit first, written so that its end shows. -/
def encodeNumber (bias k n : Nat) : List Char :=
  let t := threshold k bias
  if n < t then [digitChar n]
  else digitChar (t + (n - t) % (36 - t)) :: encodeNumber bias (k + 36) ((n - t) / (36 - t))
termination_by n
decreasing_by
  have := threshold_bounds k bias
  exact Nat.lt_of_le_of_lt (Nat.div_le_self ..) (by omega)

structure Progress where
  written : List Char
  delta : Nat
  bias : Nat
  handled : Nat

def visit (basic code : Nat) (p : Progress) (c : Char) : Progress :=
  if c.toNat < code then { p with delta := p.delta + 1 }
  else if c.toNat = code then
    { written := p.written ++ encodeNumber p.bias 36 p.delta
      delta := 0
      bias := adapt p.delta (p.handled + 1) (p.handled = basic)
      handled := p.handled + 1 }
  else p

/-- Codes in rising order, each once. -/
def risingCodes (cs : List Char) : List Nat :=
  ((cs.map Char.toNat).filter (128 ≤ ·)).mergeSort.eraseReps

def encode (cs : List Char) : List Char :=
  let basic := cs.filter (·.toNat < 128)
  let start : Progress := ⟨[], 0, 72, basic.length⟩
  let (p, _) := (risingCodes cs).foldl (fun (p, last) code =>
    let p := { p with delta := p.delta + (code - last) * (p.handled + 1) }
    let p := cs.foldl (visit basic.length code) p
    ({ p with delta := p.delta + 1 }, code + 1)) (start, 128)
  basic ++ (if basic.isEmpty then [] else ['-']) ++ p.written

/-- Reads one number: its value on top of `sum`, and what follows it. -/
def decodeNumber (bias : Nat) : List Char → Nat → Nat → Nat → Option (Nat × List Char)
  | [], _, _, _ => none
  | c :: rest, k, weight, sum => do
    let d ← digit? c
    let t := threshold k bias
    if d < t then return (sum + d * weight, rest)
    else decodeNumber bias rest (k + 36) (weight * (36 - t)) (sum + d * weight)

theorem length_lt_of_decodeNumber {bias : Nat} {cs : List Char} {k weight sum n : Nat}
    {rest : List Char} (h : decodeNumber bias cs k weight sum = some (n, rest)) :
    rest.length < cs.length := by
  induction cs generalizing k weight sum with
  | nil => simp [decodeNumber] at h
  | cons c cs ih =>
    cases hd : digit? c with
    | none => simp [decodeNumber, hd] at h
    | some d =>
      simp only [decodeNumber, hd, Option.bind_eq_bind, Option.bind_some] at h
      split at h
      · simp only [Option.pure_def, Option.some.injEq, Prod.mk.injEq] at h
        rw [← h.2]
        simp
      · have := ih h
        simp only [List.length_cons]
        omega

def decodeFrom (bias code index : Nat) (known : List Char) (cs : List Char) : Option (List Char) :=
  match cs with
  | [] => some known
  | c :: rest =>
    match _h : decodeNumber bias (c :: rest) 36 1 index with
    | none => none
    | some (next, rest') =>
      let points := known.length + 1
      let code' := code + next / points
      let place := next % points
      if code' < 0x110000 ∧ ¬ (0xD800 ≤ code' ∧ code' < 0xE000) then
        decodeFrom (adapt (next - index) points (index = 0)) code' (place + 1)
          (known.take place ++ Char.ofNat code' :: known.drop place) rest'
      else none
termination_by cs.length
decreasing_by exact length_lt_of_decodeNumber _h

/-- A hyphen at the very beginning delimits nothing, and it is no digit. -/
def decode? (cs : List Char) : Option (List Char) :=
  let tail := (cs.reverse.takeWhile (· != '-')).reverse
  let basic := cs.take (cs.length - tail.length)
  if basic.any (128 ≤ ·.toNat) || basic = ['-'] then none
  else decodeFrom 72 128 0 basic.dropLast tail

end ConsumerConnector.Url.Punycode
