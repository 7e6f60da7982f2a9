import ConsumerConnector.Toml.Scalar

/-!
Tables as TOML text builds them up. A table remembers how it came about, because that decides what may
still be added to it and where.
-/

namespace ConsumerConnector.Toml

/-- How a table came about: as a mere part of another one's name, by a key with dots, under a header of
its own, or in braces. -/
inductive Origin
  | implied | dotted | headed | braced
  deriving DecidableEq

inductive Value
  | scalar (s : Scalar)
  | string (s : String)
  | array (items : List Value)
  | table (origin : Origin) (entries : List (String × Value))
  /-- The tables under headers in double brackets, the newest one first. -/
  | tables (newestFirst : List (List (String × Value)))

abbrev Entries := List (String × Value)

namespace Entries

/-- Puts a value in the place of the one under the same key. -/
def replace (key : String) (value : Value) : Entries → Entries
  | [] => []
  | (k, v) :: rest => if k = key then (k, value) :: rest else (k, v) :: replace key value rest

def add (es : Entries) (key : String) (value : Value) : Entries :=
  es ++ [(key, value)]

/-- Changes the table under a path, or the newest one there; missing tables on the way are implied. -/
def within (f : Entries → Option Entries) : (path : List String) → Entries → Option Entries
  | [], es => f es
  | key :: path, es =>
    match es.lookup key with
    | none => do return add es key (.table .implied (← within f path []))
    | some (.table origin inner) =>
      if origin = .braced then none
      else do return replace key (.table origin (← within f path inner)) es
    | some (.tables (newest :: older)) => do
      return replace key (.tables ((← within f path newest) :: older)) es
    | _ => none

/-- Gives a header to the table of a name, which may have been implied so far. -/
def head (key : String) (es : Entries) : Option Entries :=
  match es.lookup key with
  | none => some (add es key (.table .headed []))
  | some (.table .implied inner) => some (replace key (.table .headed inner) es)
  | _ => none

/-- One table more under a name. -/
def extend (key : String) (es : Entries) : Option Entries :=
  match es.lookup key with
  | none => some (add es key (.tables [[]]))
  | some (.tables ts) => some (replace key (.tables ([] :: ts)) es)
  | _ => none

/-- Whether a key with dots may put a value into the table that it has led to. The last table on its
way has to be one that only such keys have named. -/
def isOpen (origin : Origin) (path : List String) : Bool :=
  match origin with
  | .dotted => true
  | .implied => path.length ≠ 1
  | _ => false

/-- Puts a value under a key with dots. -/
def assign (value : Value) : (path : List String) → Entries → Option Entries
  | [], _ => none
  | [key], es => if (es.lookup key).isSome then none else some (add es key value)
  | key :: path, es =>
    match es.lookup key with
    | none => do return add es key (.table .dotted (← assign value path []))
    | some (.table origin inner) =>
      if isOpen origin path then
        do return replace key (.table origin (← assign value path inner)) es
      else none
    | some (.tables (newest :: older)) =>
      if path.length = 1 then none
      else do return replace key (.tables ((← assign value path newest) :: older)) es
    | _ => none

end Entries

end ConsumerConnector.Toml
