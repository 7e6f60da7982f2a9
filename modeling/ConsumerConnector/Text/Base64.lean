/-!
Base64 in its two alphabets. Reading is strict: no foreign character, no length that leaves a single
character over, and no set bit after the last octet.
-/

namespace ConsumerConnector.Text.Base64

inductive Alphabet
  | standard
  | urlSafe
  deriving DecidableEq

def Alphabet.digit? (a : Alphabet) (c : Char) : Option Nat :=
  if 'A' ≤ c ∧ c ≤ 'Z' then some (c.toNat - 65)
  else if 'a' ≤ c ∧ c ≤ 'z' then some (c.toNat - 97 + 26)
  else if '0' ≤ c ∧ c ≤ '9' then some (c.toNat - 48 + 52)
  else match a with
    | .standard => if c = '+' then some 62 else if c = '/' then some 63 else none
    | .urlSafe => if c = '-' then some 62 else if c = '_' then some 63 else none

def Alphabet.char (a : Alphabet) (n : Nat) : Char :=
  if n < 26 then Char.ofNat (n + 65)
  else if n < 52 then Char.ofNat (n - 26 + 97)
  else if n < 62 then Char.ofNat (n - 52 + 48)
  else match a with
    | .standard => if n = 62 then '+' else '/'
    | .urlSafe => if n = 62 then '-' else '_'

/-- Groups of four digits make three octets; a rest of two or three makes one or two. -/
def octets : List Nat → Option (List UInt8)
  | [] => some []
  | [_] => none
  | [a, b] => if b % 16 = 0 then some [.ofNat (a * 4 + b / 16)] else none
  | [a, b, c] =>
    if c % 4 = 0 then some [.ofNat (a * 4 + b / 16), .ofNat (b % 16 * 16 + c / 4)] else none
  | a :: b :: c :: d :: rest => do
    let tail ← octets rest
    return .ofNat (a * 4 + b / 16) :: .ofNat (b % 16 * 16 + c / 4) :: .ofNat (c % 4 * 64 + d) :: tail

def digits : List UInt8 → List Nat
  | [] => []
  | [x] => [x.toNat / 4, x.toNat % 4 * 16]
  | [x, y] => [x.toNat / 4, x.toNat % 4 * 16 + y.toNat / 16, y.toNat % 16 * 4]
  | x :: y :: z :: rest =>
    x.toNat / 4 :: (x.toNat % 4 * 16 + y.toNat / 16) :: (y.toNat % 16 * 4 + z.toNat / 64) ::
      z.toNat % 64 :: digits rest

/-- Reads text without padding. -/
def decode (a : Alphabet) (cs : List Char) : Option (List UInt8) := do
  octets (← cs.mapM a.digit?)

/-- Writes text without padding. -/
def encode (a : Alphabet) (bytes : List UInt8) : List Char :=
  (digits bytes).map a.char

theorem octets_digits (bytes : List UInt8) : octets (digits bytes) = some bytes := by
  fun_induction digits bytes with
  | case1 => rfl
  | case2 x =>
    have hx := x.toNat_lt
    simp only [octets]
    rw [if_pos (by omega), show x.toNat / 4 * 4 + x.toNat % 4 * 16 / 16 = x.toNat by omega]
    simp
  | case3 x y =>
    have hx := x.toNat_lt
    have hy := y.toNat_lt
    simp only [octets]
    rw [if_pos (by omega),
      show x.toNat / 4 * 4 + (x.toNat % 4 * 16 + y.toNat / 16) / 16 = x.toNat by omega,
      show (x.toNat % 4 * 16 + y.toNat / 16) % 16 * 16 + y.toNat % 16 * 4 / 4 = y.toNat by omega]
    simp
  | case4 x y z rest ih =>
    have hx := x.toNat_lt
    have hy := y.toNat_lt
    have hz := z.toNat_lt
    simp only [octets, ih]
    rw [show x.toNat / 4 * 4 + (x.toNat % 4 * 16 + y.toNat / 16) / 16 = x.toNat by omega,
      show (x.toNat % 4 * 16 + y.toNat / 16) % 16 * 16 + (y.toNat % 16 * 4 + z.toNat / 64) / 4 =
        y.toNat by omega,
      show (y.toNat % 16 * 4 + z.toNat / 64) % 4 * 64 + z.toNat % 64 = z.toNat by omega]
    simp

theorem Alphabet.digit?_char (a : Alphabet) {n : Nat} (h : n < 64) : a.digit? (a.char n) = some n := by
  cases a with
  | standard => exact (by decide : ∀ n < 64, standard.digit? (standard.char n) = some n) n h
  | urlSafe => exact (by decide : ∀ n < 64, urlSafe.digit? (urlSafe.char n) = some n) n h

theorem lt_of_mem_digits {bytes : List UInt8} {n : Nat} (h : n ∈ digits bytes) : n < 64 := by
  fun_induction digits bytes with
  | case1 => cases h
  | case2 x =>
    have hx := x.toNat_lt
    simp only [List.mem_cons, List.not_mem_nil, or_false] at h
    omega
  | case3 x y =>
    have hx := x.toNat_lt
    have hy := y.toNat_lt
    simp only [List.mem_cons, List.not_mem_nil, or_false] at h
    omega
  | case4 x y z rest ih =>
    have hx := x.toNat_lt
    have hy := y.toNat_lt
    have hz := z.toNat_lt
    simp only [List.mem_cons] at h
    rcases h with h | h | h | h | h
    · omega
    · omega
    · omega
    · omega
    · exact ih h

theorem decode_encode (a : Alphabet) (bytes : List UInt8) : decode a (encode a bytes) = some bytes := by
  have hread : ∀ ns : List Nat, (∀ n ∈ ns, n < 64) → (ns.map a.char).mapM a.digit? = some ns := by
    intro ns hns
    induction ns with
    | nil => rfl
    | cons n ns ih =>
      obtain ⟨hn, hns⟩ := List.forall_mem_cons.1 hns
      simp [a.digit?_char hn, ih hns]
  rw [decode, encode, hread _ fun n hn => lt_of_mem_digits hn]
  exact octets_digits bytes

/-- What no digit is does not come up in Base64. -/
theorem ne_of_mem_encode {a : Alphabet} {bytes : List UInt8} {c d : Char} (h : c ∈ encode a bytes)
    (hd : a.digit? d = none) : c ≠ d := by
  rintro rfl
  obtain ⟨n, hn, rfl⟩ := List.mem_map.1 h
  cases hd.symm.trans (a.digit?_char (lt_of_mem_digits hn))

end ConsumerConnector.Text.Base64
