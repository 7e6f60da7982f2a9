/-! Decimal digits: the number a digit string denotes, and the digits of a number. -/

namespace ConsumerConnector.Decimal

/-- The number that digits denote in a base, the highest digit first. -/
def ofDigits (base : Nat) (ds : List Nat) : Nat :=
  ds.foldl (fun n d => n * base + d) 0

/-- How many numbers a word of some bits holds. -/
def wordSize (bits : Nat) : Nat := Nat.pow 2 bits

def digit? (c : Char) : Option Nat :=
  if '0' ≤ c ∧ c ≤ '9' then some (c.toNat - 48) else none

def hexDigit? (c : Char) : Option Nat :=
  if '0' ≤ c ∧ c ≤ '9' then some (c.toNat - 48)
  else if 'a' ≤ c ∧ c ≤ 'f' then some (c.toNat - 87)
  else if 'A' ≤ c ∧ c ≤ 'F' then some (c.toNat - 55)
  else none

def isDigit (c : Char) : Bool :=
  (digit? c).isSome

/-- The digits at the front of a text, and what follows them. -/
def splitDigits (cs : List Char) : List Nat × List Char :=
  ((cs.takeWhile isDigit).filterMap digit?, cs.dropWhile isDigit)

/-- Exactly `n` digits, as the number they denote. -/
def fixed? (n : Nat) (cs : List Char) : Option (Nat × List Char) := do
  guard (n ≤ cs.length)
  let ds ← (cs.take n).mapM digit?
  return (ofDigits 10 ds, cs.drop n)

def toChars (n : Nat) : List Char :=
  Nat.toDigits 10 n

/-- A number with leading zeros up to `width` digits. -/
def padded (width n : Nat) : List Char :=
  let ds := toChars n
  List.replicate (width - ds.length) '0' ++ ds

theorem ofDigits_append (base : Nat) (ds es : List Nat) :
    ofDigits base (ds ++ es) = es.foldl (fun n d => n * base + d) (ofDigits base ds) := by
  simp [ofDigits]

theorem digit?_digitChar {d : Nat} (h : d < 10) : digit? (Nat.digitChar d) = some d :=
  (by decide : ∀ d < 10, digit? (Nat.digitChar d) = some d) d h

theorem isDigit_digitChar {d : Nat} (h : d < 10) : isDigit (Nat.digitChar d) := by
  rw [isDigit, digit?_digitChar h]
  rfl

theorem hexDigit?_digitChar {d : Nat} (h : d < 16) : hexDigit? (Nat.digitChar d) = some d :=
  (by decide : ∀ d < 16, hexDigit? (Nat.digitChar d) = some d) d h

theorem splitDigits_map_digitChar {ds : List Nat} (h : ∀ d ∈ ds, d < 10) :
    splitDigits (ds.map Nat.digitChar) = (ds, []) := by
  have hdigits : ∀ c ∈ ds.map Nat.digitChar, isDigit c := by
    intro c hc
    obtain ⟨d, hd, rfl⟩ := List.mem_map.1 hc
    exact isDigit_digitChar (h d hd)
  have hread : (ds.map Nat.digitChar).filterMap digit? = ds := by
    induction ds with
    | nil => rfl
    | cons d ds ih =>
      obtain ⟨hd, hds⟩ := List.forall_mem_cons.1 h
      rw [List.map_cons, List.filterMap_cons_some (digit?_digitChar hd),
        ih hds fun c hc => hdigits c (List.mem_cons_of_mem _ hc)]
  rw [← List.append_nil (ds.map _), splitDigits, List.takeWhile_append_of_pos hdigits,
    List.dropWhile_append_of_pos hdigits, List.takeWhile_nil, List.append_nil, hread, List.dropWhile_nil]

/-- A number is written with the digits that denote it, and without a leading zero. -/
theorem exists_toChars (n : Nat) : ∃ d ds, toChars n = (d :: ds).map Nat.digitChar ∧
    (∀ e ∈ d :: ds, e < 10) ∧ ofDigits 10 (d :: ds) = n ∧ (d = 0 → ds = []) := by
  induction n using Nat.strongRecOn with
  | _ n ih =>
    by_cases hn : n < 10
    · exact ⟨n, [], Nat.toDigits_of_lt_base hn, by simpa using hn, by simp [ofDigits], fun _ => rfl⟩
    · have hle : 10 ≤ n := Nat.not_lt.1 hn
      obtain ⟨d, ds, hchars, hlt, hdenote, hzero⟩ := ih (n / 10) (Nat.div_lt_self (by omega) (by decide))
      refine ⟨d, ds ++ [n % 10], ?_, ?_, ?_, fun hd => ?_⟩
      · rw [toChars, Nat.toDigits_of_base_le (by decide) hle]
        change toChars (n / 10) ++ _ = _
        rw [hchars]
        simp
      · rw [← List.cons_append]
        simpa [or_imp, forall_and, Nat.mod_lt] using hlt
      · rw [← List.cons_append, ofDigits_append, hdenote]
        simp only [List.foldl_cons, List.foldl_nil]
        omega
      · obtain rfl := hzero hd
        subst hd
        have hsmall : n / 10 = 0 := hdenote.symm
        omega

end ConsumerConnector.Decimal
