import ConsumerConnector.Policy.Acceptance

/-!
An offer that is accepted stays accepted when more policies are, unless a constraint of it is an
exclusive choice: what makes one more alternative true may make the choice false. In which order policies
are accepted, and how often, never matters.
-/

namespace ConsumerConnector.Policy

namespace Constraint

@[elab_as_elim, induction_eliminator]
theorem induction {motive : Constraint → Prop} (compare : ∀ c, motive (.compare c))
    (join : ∀ k parts, (∀ p ∈ parts, motive p) → motive (.join k parts)) (c : Constraint) :
    motive c :=
  match c with
  | .compare c => compare c
  | .join k parts => join k parts fun p _ => induction compare join p

mutual

/-- A test of connective and number of parts, at every node that joins. -/
def everyJoin (p : Connective → Nat → Bool) : Constraint → Bool
  | .compare _ => true
  | .join k parts => p k parts.length && everyJoinOf p parts

def everyJoinOf (p : Connective → Nat → Bool) : List Constraint → Bool
  | [] => true
  | c :: rest => c.everyJoin p && everyJoinOf p rest

end

theorem everyJoinOf_eq_all (p : Connective → Nat → Bool) (parts : List Constraint) :
    everyJoinOf p parts = parts.all (·.everyJoin p) := by
  induction parts with
  | nil => rfl
  | cons c rest ih => rw [everyJoinOf, ih, List.all_cons]

@[simp] theorem everyJoin_join (p : Connective → Nat → Bool) (k : Connective)
    (parts : List Constraint) :
    (join k parts).everyJoin p ↔ p k parts.length ∧ ∀ c ∈ parts, c.everyJoin p := by
  simp [everyJoin, everyJoinOf_eq_all]

theorem everyJoin_imp {p q : Connective → Nat → Bool} (h : ∀ k parts, p k parts → q k parts)
    (c : Constraint) (hc : c.everyJoin p) : c.everyJoin q := by
  induction c with
  | compare c => rfl
  | join k parts ih =>
    rw [everyJoin_join] at hc ⊢
    exact ⟨h k _ hc.1, fun c hmem => ih c hmem (hc.2 c hmem)⟩

end Constraint

theorem evalParts_eq_map (holds : Comparison → Bool) (parts : List Constraint) :
    evalParts holds parts = parts.map (·.eval holds) := by
  induction parts with
  | nil => rfl
  | cons c rest ih => rw [evalParts, ih, List.map_cons]

namespace Constraint

variable {holds holds' : Comparison → Bool}

@[simp] theorem eval_and (parts : List Constraint) :
    (join .and parts).eval holds ↔ ∀ c ∈ parts, c.eval holds := by
  simp [eval, evalParts_eq_map]

@[simp] theorem eval_or (parts : List Constraint) :
    (join .or parts).eval holds ↔ ∃ c ∈ parts, c.eval holds := by
  simp [eval, evalParts_eq_map]

@[simp] theorem eval_xone (parts : List Constraint) :
    (join .xone parts).eval holds ↔ parts.countP (·.eval holds) = 1 := by
  simp [eval, evalParts_eq_map, List.count_eq_countP, List.countP_map, Function.comp_def]

/-- A choice among at most one alternative is no choice. -/
def isMonotone (k : Connective) (parts : Nat) : Bool :=
  k ≠ .xone || parts ≤ 1

theorem eval_mono (hle : ∀ c, holds c → holds' c) {c : Constraint} (hc : c.everyJoin isMonotone)
    (he : c.eval holds) : c.eval holds' := by
  induction c with
  | compare c => exact hle c he
  | join k parts ih =>
    obtain ⟨hk, hparts⟩ := (everyJoin_join isMonotone k parts).1 hc
    cases k with
    | and =>
      rw [eval_and] at he ⊢
      exact fun c hc => ih c hc (hparts c hc) (he c hc)
    | or =>
      rw [eval_or] at he ⊢
      obtain ⟨c, hc, hec⟩ := he
      exact ⟨c, hc, ih c hc (hparts c hc) hec⟩
    | xone =>
      rw [eval_xone] at he ⊢
      match parts with
      | [] => simp at he
      | [c] => simpa using ih c (by simp) (hparts c (by simp)) (by simpa using he)
      | _ :: _ :: _ => simp [isMonotone] at hk

end Constraint

theorem Permission.isGranted_iff (p : Permission) (holds : Comparison → Bool) :
    p.isGranted holds ↔ p.isUse ∧ ∀ c ∈ p.constraints, c.eval holds := by
  simp [isGranted]

/-- Whether a comparison is one that some accepted policy stands for. -/
def isKnown (accepted : List AcceptedPolicy) (c : Comparison) : Bool :=
  (accepted.flatMap acceptedComparisons).any (·.accepts c)

theorem isKnown_iff (accepted : List AcceptedPolicy) (c : Comparison) :
    isKnown accepted c ↔ ∃ p ∈ accepted, ∃ known ∈ acceptedComparisons p, known.accepts c := by
  simp only [isKnown, List.any_flatMap, List.any_eq_true]

theorem isAccepted_iff (offered : Policy) (accepted : List AcceptedPolicy) :
    offered.isAccepted accepted ↔ (∃ p ∈ accepted, p.id = wildcard) ∨
      (accepted ≠ [] ∧ ∀ p ∈ offered.permissions, p.isGranted (isKnown accepted)) := by
  unfold isAccepted
  split
  · next hwild => exact iff_of_true rfl (.inl (by simpa using hwild))
  · next hwild =>
    have hno : ¬ ∃ p ∈ accepted, p.id = wildcard := by simpa using hwild
    split
    · next hnil => simp_all
    · next hnil =>
      have hne : accepted ≠ [] := by simpa using hnil
      rw [List.all_eq_true]
      exact ⟨fun hall => .inr ⟨hne, hall⟩, fun h => (h.resolve_left hno).2⟩

/-- A test of connective and number of parts, at every node of an offer that joins. -/
def everyJoin (p : Connective → Nat → Bool) (offered : Policy) : Bool :=
  offered.permissions.all fun permission => permission.constraints.all (·.everyJoin p)

theorem everyJoin_imp {p q : Connective → Nat → Bool} (h : ∀ k parts, p k parts → q k parts)
    {offered : Policy} (hoff : offered.everyJoin p) : offered.everyJoin q := by
  simp only [everyJoin, List.all_eq_true] at hoff ⊢
  intro permission hperm c hc
  exact Constraint.everyJoin_imp h c (hoff permission hperm c hc)

theorem isAccepted_mono {offered : Policy} {known more : List AcceptedPolicy}
    (hsub : ∀ p ∈ known, p ∈ more) (hoff : offered.everyJoin Constraint.isMonotone)
    (h : offered.isAccepted known) : offered.isAccepted more := by
  rw [isAccepted_iff] at h ⊢
  obtain ⟨p, hp, hwild⟩ | ⟨hne, hall⟩ := h
  · exact .inl ⟨p, hsub p hp, hwild⟩
  · right
    have hknown : ∀ c, isKnown known c → isKnown more c := by
      simp only [isKnown_iff]
      rintro c ⟨p, hp, hc⟩
      exact ⟨p, hsub p hp, hc⟩
    obtain ⟨p, hp⟩ := List.exists_mem_of_ne_nil known hne
    refine ⟨List.ne_nil_of_mem (hsub p hp), fun permission hperm => ?_⟩
    simp only [everyJoin, List.all_eq_true] at hoff
    rw [Permission.isGranted_iff]
    obtain ⟨huse, hcons⟩ := (Permission.isGranted_iff _ _).1 (hall permission hperm)
    exact ⟨huse, fun c hc => Constraint.eval_mono hknown (hoff permission hperm c hc) (hcons c hc)⟩

theorem isKnown_congr {known more : List AcceptedPolicy} (h : ∀ p, p ∈ known ↔ p ∈ more) :
    isKnown known = isKnown more := by
  funext c
  rw [Bool.eq_iff_iff]
  simp only [isKnown_iff, h]

theorem isAccepted_congr (offered : Policy) {known more : List AcceptedPolicy}
    (h : ∀ p, p ∈ known ↔ p ∈ more) : offered.isAccepted known = offered.isAccepted more := by
  have hnil : known = [] ↔ more = [] := by
    simp only [List.eq_nil_iff_forall_not_mem, h]
  rw [Bool.eq_iff_iff]
  simp only [isAccepted_iff, isKnown_congr h, h, ne_eq, hnil]

/-- Acceptance goes by which policies are accepted, and without an exclusive choice more of them do no
harm. -/
theorem isAccepted_by_members (offered : Policy) (known more : List AcceptedPolicy) :
    (offered.everyJoin (fun k _ => k ≠ .xone) → (∀ p ∈ known, p ∈ more) →
      offered.isAccepted known → offered.isAccepted more) ∧
    ((∀ p, p ∈ known ↔ p ∈ more) → offered.isAccepted known = offered.isAccepted more) := by
  constructor
  · intro hplain hsub
    apply isAccepted_mono hsub
    apply everyJoin_imp ?_ hplain
    intro k parts hk
    have hne : k ≠ .xone := by simpa using hk
    simp [Constraint.isMonotone, hne]
  · exact isAccepted_congr offered

/-- A policy that is accepted by its name alone. -/
def named (id : String) : AcceptedPolicy := ⟨id, .ofUnix 1, none⟩

/-- An offer to use under constraints. -/
def toUse (constraints : List Constraint) : Policy := ⟨[⟨useAction, constraints⟩], [], [], none⟩

theorem isAccepted_by_members_twoNames :
    let offered := toUse [.join .or [.equals purposeOperand "A", .equals purposeOperand "C"]]
    offered.everyJoin (fun k _ => k ≠ .xone) ∧
      (∀ p ∈ [named "A"], p ∈ [named "B", named "A", named "B"]) ∧
      (∀ p, p ∈ [named "B", named "A", named "B"] ↔ p ∈ [named "A", named "B"]) ∧
      offered.isAccepted [named "A"] ∧ offered.isAccepted [named "A", named "B"] := by
  intro offered
  have hplain : offered.everyJoin (fun k _ => k ≠ .xone) := by decide
  have hmore : ∀ p ∈ [named "A"], p ∈ [named "B", named "A", named "B"] := by simp
  have hsame : ∀ p, p ∈ [named "B", named "A", named "B"] ↔ p ∈ [named "A", named "B"] := by
    intro p
    grind
  have hknown : offered.isAccepted [named "A"] := by decide
  have hmost := (isAccepted_by_members offered [named "A"] _).1 hplain hmore hknown
  refine ⟨hplain, hmore, hsame, hknown, ?_⟩
  rw [← (isAccepted_by_members offered _ _).2 hsame]
  exact hmost

end ConsumerConnector.Policy
