/-! Quotients rounded to the nearest integer. -/

namespace ConsumerConnector.Decimal

/-- The nearest integer to a fraction; of two equally near ones the even one. -/
def roundHalfEven (num den : Nat) : Nat :=
  let q := num / den
  let doubled := 2 * (num % den)
  if doubled < den then q
  else if den < doubled then q + 1
  else q + q % 2

theorem roundHalfEven_le (num : Nat) {den : Nat} : roundHalfEven num den ≤ num / den + 1 := by
  unfold roundHalfEven
  grind

theorem le_roundHalfEven (num : Nat) {den : Nat} : num / den ≤ roundHalfEven num den := by
  unfold roundHalfEven
  grind

end ConsumerConnector.Decimal
