/-! Properties of characters as lists of ranges of code points with both ends. -/

namespace ConsumerConnector.Text

def inRanges (ranges : List (Nat × Nat)) (c : Char) : Bool :=
  ranges.any fun (first, last) => first ≤ c.toNat && c.toNat ≤ last

/-- The value that the first range around a character has. -/
def rangeValue? {α : Type} (ranges : List (Nat × Nat × α)) (c : Char) : Option α :=
  (ranges.find? fun (first, last, _) => first ≤ c.toNat && c.toNat ≤ last).map (·.2.2)

theorem inRanges_iff {ranges : List (Nat × Nat)} {c : Char} :
    inRanges ranges c ↔ ∃ r ∈ ranges, r.1 ≤ c.toNat ∧ c.toNat ≤ r.2 := by
  simp [inRanges]

end ConsumerConnector.Text
