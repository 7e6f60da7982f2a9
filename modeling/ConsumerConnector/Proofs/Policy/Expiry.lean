import ConsumerConnector.Negotiation.Basic
import ConsumerConnector.Proofs.Policy.Monotone

/-!
What expired policies do to an offer. An offer may be negotiated for if it is accepted both by all
policies of the partner and by those that still hold. The first demand is void unless the offer makes
an exclusive choice, as it then follows from the second.
-/

namespace ConsumerConnector.Negotiation

open Policy

variable (store : Policy.Store) (now : Timestamp) (item : Catalog.Item) (partner : String)

theorem checkPolicy_eq_ok_iff :
    checkPolicy store now item partner = .ok () ↔
      item.policy.isAccepted (store.policiesFor partner) ∧
        item.policy.isAccepted (store.validFor partner now) := by
  unfold checkPolicy Store.isExpired Store.isValid
  split
  · next h => simp_all
  · next h =>
    split
    · next h' => simp_all
    · next h' => simp_all

theorem mem_policiesFor_of_mem_validFor {store : Policy.Store} {now : Timestamp} {partner : String}
    {p : AcceptedPolicy} (h : p ∈ store.validFor partner now) : p ∈ store.policiesFor partner :=
  (List.mem_filter.1 h).1

/-- The offers that pass are those accepted by the policies that still hold, exactly as long as no
expired policy undoes such an acceptance. Without an exclusive choice none does; where one does, the
offer is refused in the name of what it has been accepted by. -/
theorem checkPolicy_respects_expiry_iff :
    ((checkPolicy store now item partner = .ok () ↔
        item.policy.isAccepted (store.validFor partner now)) ↔
      (item.policy.isAccepted (store.validFor partner now) →
        item.policy.isAccepted (store.policiesFor partner))) ∧
    (item.policy.everyJoin Constraint.isMonotone →
      (checkPolicy store now item partner = .ok () ↔
        item.policy.isAccepted (store.validFor partner now))) ∧
    (¬ item.policy.isAccepted (store.policiesFor partner) →
      checkPolicy store now item partner = .error (.policyPermission
        ⟨item.asset, item.connector, item.policy, store.validFor item.connector now⟩)) := by
  refine ⟨?_, fun hmono => ?_, fun hno => ?_⟩
  · rw [checkPolicy_eq_ok_iff]
    exact and_iff_right_iff_imp
  · have hkept : item.policy.isAccepted (store.validFor partner now) →
        item.policy.isAccepted (store.policiesFor partner) :=
      isAccepted_mono (fun _ => mem_policiesFor_of_mem_validFor) hmono
    rw [checkPolicy_eq_ok_iff]
    exact and_iff_right_of_imp hkept
  · simp [checkPolicy, Store.isValid, hno]

/-- An offer under exactly one of two purposes, where one of two accepted policies has expired. -/
def choiceOfPurposes : Catalog.Item where
  id := "asset"
  asset := "asset"
  offer := "offer"
  connector := "partner"
  policy := ⟨[⟨"use", [.join .xone [.equals purposeOperand "A", .equals purposeOperand "B"]]⟩],
    [], [], none⟩

def halfExpired : Policy.Store :=
  .ofDefaults [⟨"A", .ofUnix 2, none⟩, ⟨"B", .ofUnix 0, none⟩]

theorem checkPolicy_choiceOfPurposes :
    checkPolicy halfExpired (.ofUnix 1) choiceOfPurposes "partner" ≠ .ok () ∧
      choiceOfPurposes.policy.isAccepted (halfExpired.validFor "partner" (.ofUnix 1)) := by
  rw [Ne, checkPolicy_eq_ok_iff]
  decide +kernel

end ConsumerConnector.Negotiation
