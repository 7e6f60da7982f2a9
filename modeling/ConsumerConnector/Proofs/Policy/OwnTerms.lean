import ConsumerConnector.Proofs.Policy.Monotone

/-!
Offers under the very terms of a policy that is accepted. An accepted policy stands for the comparisons
of its terms one by one, not for the way they are joined, so an offer under these terms is judged with
all its comparisons true, and an exclusive choice between them refuses it.
-/

namespace ConsumerConnector.Policy

namespace Constraint

theorem mem_comparisons_join {k : Connective} {parts : List Constraint} {x : Comparison} :
    x ∈ (join k parts).comparisons ↔ ∃ c ∈ parts, x ∈ c.comparisons := by
  rw [comparisons]
  induction parts with
  | nil => simp [allComparisons]
  | cons c rest ih => simp [allComparisons, ih]

theorem eval_congr {holds holds' : Comparison → Bool} {c : Constraint}
    (h : ∀ x ∈ c.comparisons, holds x = holds' x) : c.eval holds = c.eval holds' := by
  induction c with
  | compare c => exact h c (List.mem_singleton_self c)
  | join k parts ih =>
    have hparts : parts.map (·.eval holds) = parts.map (·.eval holds') := by
      apply List.map_congr_left
      intro c hc
      apply ih c hc
      intro x hx
      exact h x (mem_comparisons_join.2 ⟨c, hc, hx⟩)
    cases k <;> simp only [eval, evalParts_eq_map, hparts]

/-- A node that holds once all its parts do. -/
def holdsInFull : Connective → Nat → Bool
  | .and, _ => true
  | .or, parts => 0 < parts
  | .xone, parts => parts = 1

theorem eval_of_holdsInFull {c : Constraint} (hc : c.everyJoin holdsInFull) :
    c.eval fun _ => true := by
  induction c with
  | compare c => rfl
  | join k parts ih =>
    obtain ⟨hk, hparts⟩ := (everyJoin_join holdsInFull k parts).1 hc
    have hall : ∀ c ∈ parts, c.eval fun _ => true := fun c hc => ih c hc (hparts c hc)
    cases k with
    | and => exact (eval_and parts).2 hall
    | or =>
      have hlen : 0 < parts.length := by simpa [holdsInFull] using hk
      have hmem := List.getElem_mem hlen
      exact (eval_or parts).2 ⟨parts[0], hmem, hall _ hmem⟩
    | xone =>
      have hlen : parts.length = 1 := by simpa [holdsInFull] using hk
      rw [eval_xone, List.countP_eq_length.2 hall, hlen]

end Constraint

variable {record : AcceptedPolicy} {terms : Policy} {accepted : List AcceptedPolicy}

theorem isKnown_of_terms (hterms : record.policy = some terms) (hmem : record ∈ accepted)
    {x : Comparison} (hx : x ∈ terms.comparisons) : isKnown accepted x := by
  rw [isKnown_iff]
  refine ⟨record, hmem, x, ?_, x.accepts_self⟩
  simp [acceptedComparisons, hterms, hx]

/-- Within an offer under accepted terms every comparison holds. -/
theorem eval_isKnown_of_terms (hterms : record.policy = some terms) (hmem : record ∈ accepted)
    {permission : Permission} (hperm : permission ∈ terms.permissions) {c : Constraint}
    (hc : c ∈ permission.constraints) :
    c.eval (isKnown accepted) = c.eval fun _ => true := by
  apply Constraint.eval_congr
  intro x hx
  apply isKnown_of_terms hterms hmem
  simp only [comparisons, List.mem_flatMap]
  exact ⟨permission, hperm, c, hc, hx⟩

/-- An offer to use under the terms of an accepted policy is accepted exactly if every offer is or its
constraints hold with all their comparisons true. They do where every alternative has parts and every
exclusive choice has exactly one. -/
theorem isAccepted_own_terms_iff (hterms : record.policy = some terms) (hmem : record ∈ accepted)
    (huse : ∀ p ∈ terms.permissions, p.isUse) :
    (terms.isAccepted accepted ↔ (∃ p ∈ accepted, p.id = wildcard) ∨
      ∀ p ∈ terms.permissions, ∀ c ∈ p.constraints, c.eval fun _ => true) ∧
    (terms.everyJoin Constraint.holdsInFull → terms.isAccepted accepted) := by
  have hiff : terms.isAccepted accepted ↔ (∃ p ∈ accepted, p.id = wildcard) ∨
      ∀ p ∈ terms.permissions, ∀ c ∈ p.constraints, c.eval fun _ => true := by
    rw [isAccepted_iff]
    apply or_congr_right
    rw [and_iff_right (List.ne_nil_of_mem hmem)]
    apply forall₂_congr
    intro p hp
    rw [Permission.isGranted_iff, and_iff_right (huse p hp)]
    apply forall₂_congr
    intro c hc
    rw [eval_isKnown_of_terms hterms hmem hp hc]
  refine ⟨hiff, fun hfull => hiff.2 (.inr fun p hp c hc => ?_)⟩
  simp only [everyJoin, List.all_eq_true] at hfull
  exact Constraint.eval_of_holdsInFull (hfull p hp c hc)

def underTerms (terms : Policy) : AcceptedPolicy := { named "framework" with policy := some terms }

theorem isAccepted_own_terms_iff_nested :
    let terms := toUse [.join .and [.join .or [.equals "Membership" "active", .equals "Region" "EU"],
      .join .xone [.equals purposeOperand "trace"]]]
    (underTerms terms).policy = some terms ∧ underTerms terms ∈ [named "other", underTerms terms] ∧
      (∀ p ∈ terms.permissions, p.isUse) ∧ terms.everyJoin Constraint.holdsInFull ∧
      terms.isAccepted [named "other", underTerms terms] := by
  intro terms
  have hmem : underTerms terms ∈ [named "other", underTerms terms] := by simp
  have huse : ∀ p ∈ terms.permissions, p.isUse := by decide
  have hfull : terms.everyJoin Constraint.holdsInFull := by decide
  exact ⟨rfl, hmem, huse, hfull, (isAccepted_own_terms_iff rfl hmem huse).2 hfull⟩

/-- Terms with an exclusive choice between two purposes. -/
def eitherPurpose : Policy :=
  toUse [.join .xone [.equals purposeOperand "A", .equals purposeOperand "B"]]

theorem eitherPurpose_refused :
    (underTerms eitherPurpose).policy = some eitherPurpose ∧
      (∀ p ∈ eitherPurpose.permissions, p.isUse) ∧
      eitherPurpose.everyJoin (fun k parts => k = .and || 0 < parts) ∧
      ¬ eitherPurpose.isAccepted [underTerms eitherPurpose] := by
  refine ⟨rfl, ?_⟩
  decide

end ConsumerConnector.Policy
