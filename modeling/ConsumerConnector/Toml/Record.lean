import ConsumerConnector.Toml.Document

/-!
Records read from TOML. A record is a table with entries of known names or the array of its fields in
order; whatever else there is, is passed over. A date is a record without fields.
-/

namespace ConsumerConnector.Toml

namespace Value

def record? (names : List String) : Value → Option Entries
  | .table _ entries => some entries
  | .scalar .date => some []
  | .array items => some (names.zip items)
  | .tables newestFirst => some (names.zip (newestFirst.reverse.map (.table .headed)))
  | _ => none

/-- A record that is not written as an array. -/
def named? : Value → Option Entries
  | .table _ entries => some entries
  | .scalar .date => some []
  | _ => none

def string? : Value → Option String
  | .string s => some s
  | _ => none

/-- A natural number of at most `bits` bits. -/
def nat? (bits : Nat) : Value → Option Nat
  | .scalar (.integer n) => if 0 ≤ n ∧ n < Decimal.wordSize bits then some n.toNat else none
  | _ => none

/-- An integer counts as a number, too. -/
def float? : Value → Option Float
  | .scalar (.float x) => some x
  | .scalar (.integer n) =>
    let x := Float.ofScientific n.natAbs false 0
    some (if n < 0 then -x else x)
  | _ => none

def list? {α : Type} (read : Value → Option α) : Value → Option (List α)
  | .array items => items.mapM read
  | .tables newestFirst => newestFirst.reverse.mapM fun entries => read (.table .headed entries)
  | _ => none

mutual

/-- Whether all integers in a value take 64 bits at most. -/
def isNarrow : Value → Bool
  | .scalar (.integer n) => -(Decimal.wordSize 63 : Int) ≤ n ∧ n < Decimal.wordSize 64
  | .scalar _ | .string _ => true
  | .array items => areNarrow items
  | .table _ entries => entriesNarrow entries
  | .tables ts => tablesNarrow ts

def areNarrow : List Value → Bool
  | [] => true
  | v :: rest => v.isNarrow && areNarrow rest

def entriesNarrow : List (String × Value) → Bool
  | [] => true
  | (_, v) :: rest => v.isNarrow && entriesNarrow rest

def tablesNarrow : List (List (String × Value)) → Bool
  | [] => true
  | t :: rest => entriesNarrow t && tablesNarrow rest

end

end Value

namespace Entries

variable {α : Type}

def required (es : Entries) (name : String) (read : Value → Option α) : Option α := do
  read (← es.lookup name)

def withDefault (es : Entries) (name : String) (default : α) (read : Value → Option α) : Option α :=
  match es.lookup name with
  | none => some default
  | some v => read v

def optional (es : Entries) (name : String) (read : Value → Option α) : Option (Option α) :=
  match es.lookup name with
  | none => some none
  | some v => (read v).map some

end Entries

end ConsumerConnector.Toml
