import ConsumerConnector.Proofs.LinkedData.Document

/-!
What a policy that was read has of its document. A node of one shape stands for a constraint at its place
in the policy, with all that the node lists or compares. A node of two shapes is read for the first only,
and what it has besides is not in the policy.
-/

namespace ConsumerConnector

open Policy (Constraint Connective)

/-- The constraint at the end of a path of connectives and positions. -/
def Policy.Constraint.partAt? : Constraint → List (Connective × Nat) → Option Constraint
  | c, [] => some c
  | .join k cs, (k', i) :: path => if k = k' then do (← cs[i]?).partAt? path else none
  | .compare _, _ :: _ => none

namespace LinkedData

/-- The node at the end of such a path below a constraint's document. -/
def within? : Json → List (Connective × Nat) → Option Fields
  | .object node, [] => some node
  | .object node, (k, i) :: path => do within? (← (listUnder node (connectiveTerm k))[i]?) path
  | _, _ => none

structure Place where
  permission : Nat
  constraint : Nat
  path : List (Connective × Nat)

def nodeAt? (node : Fields) (place : Place) : Option Fields := do
  let permission ← (← (listUnder node (odrl "permission"))[place.permission]?).object?
  within? (← (listUnder permission (odrl "constraint"))[place.constraint]?) place.path

def partAt? (p : Policy) (place : Place) : Option Constraint := do
  (← (← p.permissions[place.permission]?).constraints[place.constraint]?).partAt? place.path

def Holds (node : Fields) (t : Term) (v : Json) : Prop :=
  ∃ key ∈ t.spellings, (key, v) ∈ node

/-- The terms that give a constraint its shape. -/
def shapes : List Term := [odrl "and", odrl "or", odrl "xone", odrl "leftOperand"]

def Overloaded (node : Fields) : Prop :=
  ∃ t ∈ shapes, ∃ t' ∈ shapes, t ≠ t' ∧ (∃ v, Holds node t v) ∧ ∃ v, Holds node t' v

/-- What a node lists and what it compares is in a constraint. -/
structure Kept (node : Fields) (c? : Option Constraint) : Prop where
  join : ∀ k v, Holds node (connectiveTerm k) v →
    ∃ cs, c? = some (.join k cs) ∧ cs.length = (listed v).length
  compare : ∀ v, Holds node (odrl "leftOperand") v →
    ∃ c, c? = some (.compare c) ∧ text? v = some c.left ∧ comparison node = .ok (.compare c)

theorem shapes_cases {t : Term} (ht : t ∈ shapes) :
    t = odrl "leftOperand" ∨ ∃ k, t = connectiveTerm k := by
  simp only [shapes, List.mem_cons, List.not_mem_nil, or_false] at ht
  rcases ht with rfl | rfl | rfl | rfl
  · exact .inr ⟨.and, rfl⟩
  · exact .inr ⟨.or, rfl⟩
  · exact .inr ⟨.xone, rfl⟩
  · exact .inl rfl

/-- A constraint has one shape only. -/
theorem Kept.not_overloaded {node : Fields} {c? : Option Constraint} (h : Kept node c?) :
    ¬ Overloaded node := by
  rintro ⟨t, ht, t', ht', hne, ⟨v, hv⟩, v', hv'⟩
  rcases shapes_cases ht with rfl | ⟨k, rfl⟩
  · obtain ⟨c, hc, -⟩ := h.compare v hv
    rcases shapes_cases ht' with rfl | ⟨k', rfl⟩
    · exact hne rfl
    · obtain ⟨cs, hcs, -⟩ := h.join k' v' hv'
      simp [hc] at hcs
  · obtain ⟨cs, hcs, -⟩ := h.join k v hv
    rcases shapes_cases ht' with rfl | ⟨k', rfl⟩
    · obtain ⟨c, hc, -⟩ := h.compare v' hv'
      simp [hc] at hcs
    · obtain ⟨cs', hcs', -⟩ := h.join k' v' hv'
      rw [hcs] at hcs'
      cases hcs'
      exact hne rfl

theorem find?_eq_some_iff {node : Fields} {t : Term} {v : Json} (ht : t ∈ respellable)
    (hone : OneSpelling node) : find? node t = some v ↔ Holds node t v := by
  refine ⟨mem_of_find?, fun ⟨key, hkey, hv⟩ => ?_⟩
  have hmem : (key, v) ∈ node.filter fun e => e.1 ∈ t.spellings := by simp [hv, hkey]
  rw [find?_eq_filter ht hone]
  cases hfilter : node.filter fun e => e.1 ∈ t.spellings with
  | nil => simp [hfilter] at hmem
  | cons e rest =>
    have hpairwise := hone.filter fun e => e.1 ∈ t.spellings
    have he : e.1 ∈ t.spellings := by
      have : e ∈ node.filter fun e => e.1 ∈ t.spellings := by simp [hfilter]
      simpa using (List.mem_filter.1 this).2
    rw [hfilter] at hmem hpairwise
    rcases List.mem_cons.1 hmem with rfl | hrest
    · rfl
    · exact absurd (.inr ⟨t, ht, he, hkey⟩) (List.rel_of_pairwise_cons hpairwise hrest)

theorem parts_eq_mapM (v : Json) : parts v = (listed v).mapM constraint := by
  cases v with
  | array items => rw [parts, constraints_eq_mapM, listed]
  | null =>
    rw [parts]
    rfl
  | _ =>
    rw [parts_of_isSingle, parts, constraints_eq_mapM]
    · rfl
    · exact trivial

theorem bind_eq_ok {α β ε : Type} {x : Except ε α} {f : α → Except ε β} {b : β} :
    x >>= f = .ok b ↔ ∃ a, x = .ok a ∧ f a = .ok b := by
  cases x <;> simp [bind, Except.bind]

theorem forall₂_of_mapM {α β ε : Type} {f : α → Except ε β} {xs : List α} {ys : List β}
    (h : xs.mapM f = .ok ys) : List.Forall₂ (fun x y => f x = .ok y) xs ys := by
  induction xs generalizing ys with
  | nil =>
    cases h
    exact .nil
  | cons x xs ih =>
    rw [List.mapM_cons] at h
    obtain ⟨y, hy, h⟩ := bind_eq_ok.1 h
    obtain ⟨ys', hys, h⟩ := bind_eq_ok.1 h
    cases h
    exact .cons hy (ih hys)

theorem getElem?_of_forall₂ {α β : Type} {R : α → β → Prop} {xs : List α} {ys : List β}
    (h : List.Forall₂ R xs ys) {i : Nat} {x : α} (hx : xs[i]? = some x) :
    ∃ y, ys[i]? = some y ∧ R x y := by
  induction h generalizing i with
  | nil => simp at hx
  | cons hhead _ ih =>
    cases i with
    | zero => simp_all
    | succ i => exact ih hx

theorem connectiveTerm_mem (k : Connective) : connectiveTerm k ∈ shapes := by
  cases k <;> decide

theorem connectiveTerm_inj {k k' : Connective} (h : connectiveTerm k = connectiveTerm k') : k = k' := by
  revert h
  cases k <;> cases k' <;> decide

theorem shapes_respellable : ∀ t ∈ shapes, t ∈ respellable := by
  decide

theorem find?_of_not_overloaded {node : Fields} {t t' : Term} {v : Json} (hsingle : ¬ Overloaded node)
    (ht : t ∈ shapes) (ht' : t' ∈ shapes) (hv : Holds node t v) (hne : t' ≠ t) : find? node t' = none := by
  cases hfind : find? node t' with
  | none => rfl
  | some w => exact absurd ⟨t', ht', t, ht, hne, ⟨w, mem_of_find? hfind⟩, v, hv⟩ hsingle

theorem join_of_holds {node : Fields} {k : Connective} {v : Json} {c : Constraint}
    (hone : OneSpelling node) (hsingle : ¬ Overloaded node) (hv : Holds node (connectiveTerm k) v)
    (h : constraint (.object node) = .ok c) :
    ∃ cs, c = .join k cs ∧ List.Forall₂ (fun j c => constraint j = .ok c) (listed v) cs := by
  have hfind : ∀ k', find? node (connectiveTerm k') = if k' = k then some v else none := by
    intro k'
    by_cases hk : k' = k
    · subst hk
      rw [if_pos rfl, find?_eq_some_iff (shapes_respellable _ (connectiveTerm_mem _)) hone]
      exact hv
    · rw [if_neg hk]
      exact find?_of_not_overloaded hsingle (connectiveTerm_mem k) (connectiveTerm_mem k') hv
        fun h => hk (connectiveTerm_inj h)
  rw [constraint_of_join hfind, parts_eq_mapM] at h
  obtain ⟨cs, hcs, h⟩ := bind_eq_ok.1 h
  cases h
  exact ⟨cs, rfl, forall₂_of_mapM hcs⟩

theorem expect_bind_eq_ok {α β : Type} {o : Option α} {message : String} {f : α → Read β} {b : β}
    (h : expect o message >>= f = .ok b) : ∃ a, o = some a ∧ f a = .ok b := by
  cases o with
  | none => cases h
  | some a => exact ⟨a, rfl, h⟩

theorem left_of_comparison {node : Fields} {c : Constraint} (h : comparison node = .ok c) :
    ∃ cmp, c = .compare cmp ∧ textOf? node (odrl "leftOperand") = some cmp.left := by
  obtain ⟨left, hleft, h⟩ := expect_bind_eq_ok h
  obtain ⟨raw, -, h⟩ := expect_bind_eq_ok h
  obtain ⟨operator, -, h⟩ := expect_bind_eq_ok h
  obtain ⟨right, -, h⟩ := expect_bind_eq_ok h
  cases h
  exact ⟨_, rfl, hleft⟩

theorem kept_of_constraint {node : Fields} {c : Constraint} (hone : OneSpelling node)
    (hsingle : ¬ Overloaded node) (h : constraint (.object node) = .ok c) : Kept node (some c) where
  join k v hv := by
    obtain ⟨cs, rfl, hcs⟩ := join_of_holds hone hsingle hv h
    exact ⟨cs, rfl, hcs.length_eq.symm⟩
  compare v hv := by
    have hfind : find? node (odrl "leftOperand") = some v :=
      (find?_eq_some_iff (by decide) hone).2 hv
    have hnone : ∀ k, find? node (connectiveTerm k) = none := fun k =>
      find?_of_not_overloaded hsingle (by decide) (connectiveTerm_mem k) hv (by cases k <;> decide)
    rw [constraint_of_comparison hnone] at h
    obtain ⟨cmp, rfl, hleft⟩ := left_of_comparison h
    rw [textOf?, hfind] at hleft
    exact ⟨cmp, rfl, hleft, h⟩

theorem everyNode_of_find? {P : Fields → Prop} {node : Fields} {t : Term} {v : Json}
    (h : ∀ e ∈ node, e.2.EveryNode P) (hv : find? node t = some v) : v.EveryNode P := by
  obtain ⟨key, -, hmem⟩ := mem_of_find? hv
  exact h _ hmem

theorem everyNode_listed {P : Fields → Prop} {v : Json} (h : v.EveryNode P) :
    ∀ j ∈ listed v, j.EveryNode P := by
  cases v with
  | array items => exact Json.everyNode_array.1 h
  | null => simp [listed]
  | _ => simpa [listed] using h

theorem listUnder_getElem? {node : Fields} {t : Term} {i : Nat} {j : Json}
    (h : (listUnder node t)[i]? = some j) : ∃ v, find? node t = some v ∧ (listed v)[i]? = some j := by
  rw [listUnder] at h
  cases hv : find? node t with
  | none => simp [hv] at h
  | some v => exact ⟨v, rfl, by simpa [hv] using h⟩

/-- What is read of a node stands at the node's place in what is read of a document. -/
theorem part_of_within {path : List (Connective × Nat)} {j : Json} {c : Constraint} {node : Fields}
    (hone : j.EveryNode OneSpelling)
    (hsingle : ∀ path' node', within? j path' = some node' → ¬ Overloaded node')
    (h : constraint j = .ok c) (hnode : within? j path = some node) :
    OneSpelling node ∧ ∃ c', c.partAt? path = some c' ∧ constraint (.object node) = .ok c' := by
  induction path generalizing j c with
  | nil =>
    cases j with
    | object node =>
      simp only [within?, Option.some.injEq] at hnode
      subst hnode
      refine ⟨(Json.everyNode_object.1 hone).1, c, ?_, h⟩
      cases c <;> rfl
    | _ => simp [within?] at hnode
  | cons step path ih =>
    obtain ⟨k, i⟩ := step
    cases j with
    | object top =>
      obtain ⟨htop, hfields⟩ := Json.everyNode_object.1 hone
      simp only [within?, Option.bind_eq_bind, Option.bind_eq_some_iff] at hnode
      obtain ⟨child, hchild, hnode⟩ := hnode
      obtain ⟨v, hv, hitem⟩ := listUnder_getElem? hchild
      obtain ⟨cs, rfl, hcs⟩ := join_of_holds htop (hsingle [] top rfl) (mem_of_find? hv) h
      obtain ⟨c', hc', hread⟩ := getElem?_of_forall₂ hcs hitem
      have hone' := everyNode_listed (everyNode_of_find? hfields hv) child (List.mem_of_getElem? hitem)
      have hpart : ∀ path, (Constraint.join k cs).partAt? ((k, i) :: path) = c'.partAt? path := by
        intro path
        simp [Constraint.partAt?, hc']
      rw [hpart]
      refine ih hone' (fun path' node' hnode' => hsingle ((k, i) :: path') node' ?_) hread hnode
      simp [within?, hchild, hnode']
    | _ => simp [within?] at hnode

theorem everyNode_listUnder {P : Fields → Prop} {node : Fields} {t : Term} {i : Nat} {j : Json}
    (h : ∀ e ∈ node, e.2.EveryNode P) (hj : (listUnder node t)[i]? = some j) : j.EveryNode P := by
  obtain ⟨v, hv, hitem⟩ := listUnder_getElem? hj
  exact everyNode_listed (everyNode_of_find? h hv) j (List.mem_of_getElem? hitem)

theorem permissions_of_policy {node : Fields} {p : Policy} (h : policy node = .ok p) :
    List.Forall₂ (fun j q => permission j = .ok q) (listUnder node (odrl "permission")) p.permissions := by
  obtain ⟨permissions, hpermissions, h⟩ := bind_eq_ok.1 h
  cases h
  exact forall₂_of_mapM hpermissions

theorem constraints_of_permission {node : Fields} {q : Policy.Permission}
    (h : permission (.object node) = .ok q) :
    List.Forall₂ (fun j c => constraint j = .ok c) (listUnder node (odrl "constraint")) q.constraints := by
  rw [permission_object, constraints_eq_mapM] at h
  obtain ⟨cs, hcs, h⟩ := bind_eq_ok.1 h
  cases h
  exact forall₂_of_mapM hcs

section

variable {node n : Fields} {p : Policy} (hone : (Json.object node).EveryNode OneSpelling)
  (h : policy node = .ok p)

include hone h

theorem part_of_nodeAt? {place : Place}
    (hsingle : ∀ place n, nodeAt? node place = some n → ¬ Overloaded n)
    (hn : nodeAt? node place = some n) :
    OneSpelling n ∧ ∃ c, partAt? p place = some c ∧ constraint (.object n) = .ok c := by
  obtain ⟨i, k, path⟩ := place
  simp only [nodeAt?, Option.bind_eq_bind, Option.bind_eq_some_iff] at hn
  obtain ⟨j, hj, fields, hfields, child, hchild, hn⟩ := hn
  cases j with
  | object granted =>
    cases hfields
    obtain ⟨q, hq, hread⟩ := getElem?_of_forall₂ (permissions_of_policy h) hj
    obtain ⟨c, hc, hread⟩ := getElem?_of_forall₂ (constraints_of_permission hread) hchild
    have hgranted := everyNode_listUnder (Json.everyNode_object.1 hone).2 hj
    have hchild' := everyNode_listUnder (Json.everyNode_object.1 hgranted).2 hchild
    obtain ⟨hn', c', hc', hread'⟩ := part_of_within hchild' (fun path' n' hn' =>
      hsingle ⟨i, k, path'⟩ n' (by simp [nodeAt?, hj, Json.object?, hchild, hn'])) hread hn
    exact ⟨hn', c', by simp [partAt?, hq, hc, hc'], hread'⟩
  | _ => cases hfields

/-- All that the constraint nodes of a policy list and compare is in the policy that is read, exactly if
none of them has two shapes. -/
theorem policy_keeps_iff :
    (∀ place n, nodeAt? node place = some n → Kept n (partAt? p place)) ↔
      ∀ place n, nodeAt? node place = some n → ¬ Overloaded n := by
  constructor
  · intro hkept place n hn
    exact (hkept place n hn).not_overloaded
  · intro hsingle place n hn
    obtain ⟨hn', c, hc, hread⟩ := part_of_nodeAt? hone h hsingle hn
    rw [hc]
    exact kept_of_constraint hn' (hsingle place n hn) hread

end

/-- A policy with one constraint. -/
def policyOf (j : Json) : Fields :=
  [("odrl:permission", .object [("odrl:constraint", j)])]

theorem policy_policyOf {j : Json} (hj : listed j = [j]) :
    policy (policyOf j) = (constraint j).map fun c => ⟨[⟨"", [c]⟩], [], [], none⟩ := by
  have hpermissions : listUnder (policyOf j) (odrl "permission") =
      [.object [("odrl:constraint", j)]] := rfl
  have hconstraints : listUnder [("odrl:constraint", j)] (odrl "constraint") = [j] := hj
  rw [policy, hpermissions, mapM_singleton, permission_object, hconstraints, constraints_eq_mapM,
    mapM_singleton]
  cases constraint j <;> rfl

def nestedConstraint : Constraint :=
  .join .and [.equals "PURPOSE" "trace", .join .or [.equals "REGION" "EU", .equals "REGION" "US"]]

theorem policy_keeps_iff_nested :
    let node := policyOf (constraintBody nestedConstraint)
    let p : Policy := ⟨[⟨"", [nestedConstraint]⟩], [], [], none⟩
    (Json.object node).EveryNode OneSpelling ∧ policy node = .ok p ∧
      ((∀ place n, nodeAt? node place = some n → Kept n (partAt? p place)) ↔
        ∀ place n, nodeAt? node place = some n → ¬ Overloaded n) := by
  have hone : (Json.object (policyOf (constraintBody nestedConstraint))).EveryNode OneSpelling := by
    decide +kernel
  have hread : policy (policyOf (constraintBody nestedConstraint)) =
      .ok ⟨[⟨"", [nestedConstraint]⟩], [], [], none⟩ := by
    rw [policy_policyOf rfl, constraint_constraintBody]
    rfl
  exact ⟨hone, hread, policy_keeps_iff hone hread⟩

/-- A node that lists constraints for all of which and for one of which. -/
def twofold : Fields :=
  [("odrl:and", .array [constraintBody (.equals "PURPOSE" "trace")]),
    ("odrl:or", .array [constraintBody (.equals "REGION" "EU")])]

theorem second_list_dropped :
    (Json.object (policyOf (.object twofold))).EveryNode OneSpelling ∧ Overloaded twofold ∧
      policy (policyOf (.object twofold)) =
        .ok ⟨[⟨"", [.join .and [.equals "PURPOSE" "trace"]]⟩], [], [], none⟩ := by
  refine ⟨by decide +kernel, ?_, ?_⟩
  · refine ⟨odrl "and", by decide, odrl "or", by decide, by decide, ⟨_, "odrl:and", ?_, .head _⟩,
      ⟨_, "odrl:or", ?_, .tail _ (.head _)⟩⟩
    · decide +kernel
    · decide +kernel
  · have hread : constraint (.object twofold) = do
        return .join .and (← parts (.array [constraintBody (.equals "PURPOSE" "trace")])) := by
      rw [constraint_object]
      rfl
    rw [policy_policyOf rfl, hread, parts_singleton, constraint_constraintBody]
    rfl

end LinkedData

end ConsumerConnector
