import ConsumerConnector.Management.Client
import ConsumerConnector.Proofs.Negotiation.Calls
import ConsumerConnector.Proofs.Policy.Monotone

/-!
What is written of an offer reads back: its name, and its policy with the target that it is written
for. Writing uses one spelling for every term and lists for all that can be repeated; reading takes
these among others, so the trees of constraints come back node by node.
-/

namespace ConsumerConnector

namespace LinkedData

open Policy (Constraint Connective Operator Permission)

theorem textUnder?_eq (key : String) (node : Fields) :
    textUnder? key node = (Json.field? node key).bind text? := by
  induction node with
  | nil => rfl
  | cons e rest ih =>
    rw [textUnder?, Json.field?, List.lookup_cons]
    by_cases h : e.1 = key
    · simp [h]
    · simp [h, beq_eq_false_iff_ne.2 (Ne.symm h), ih, Json.field?]

theorem partsUnder?_eq (key : String) (node : Fields) :
    partsUnder? key node = (Json.field? node key).map parts := by
  induction node with
  | nil => rw [partsUnder?, Json.field?, List.lookup_nil, Option.map_none]
  | cons e rest ih =>
    rw [partsUnder?, Json.field?, List.lookup_cons]
    by_cases h : e.1 = key
    · simp [h]
    · simp [h, beq_eq_false_iff_ne.2 (Ne.symm h), ih, Json.field?]

theorem findSome?_partsUnder? (node : Fields) (t : Term) :
    t.spellings.findSome? (partsUnder? · node) = (find? node t).map parts := by
  simp [find?, List.map_findSome?, Function.comp_def, partsUnder?_eq]

theorem spellings_odrl (name : String) :
    (odrl name).spellings = ["odrl:" ++ name, name, "http://www.w3.org/ns/odrl/2/" ++ name] := rfl

theorem find?_odrl {node : Fields} {name : String} {j : Json}
    (h : Json.field? node ("odrl:" ++ name) = some j) : find? node (odrl name) = some j := by
  rw [find?, spellings_odrl, List.findSome?_cons, h]

@[simp] theorem text?_reference (id : String) : text? (reference id) = some id := by
  simp [reference, Json.ofFields, text?, textUnder?_eq, List.lookup_cons]

@[simp] theorem parse?_odrlName (o : Operator) : Operator.parse? o.odrlName = some o := by
  cases o <;> rfl

theorem constraint_of_join {node : Fields} {k : Connective} {j : Json}
    (h : ∀ k', find? node (connectiveTerm k') = if k' = k then some j else none) :
    constraint (.object node) = do return .join k (← parts j) := by
  rw [constraint]
  simp only [findSome?_partsUnder?, h]
  cases k <;> rfl

theorem constraint_of_comparison {node : Fields} (h : ∀ k, find? node (connectiveTerm k) = none) :
    constraint (.object node) = comparison node := by
  rw [constraint]
  simp only [findSome?_partsUnder?, h]
  rfl

theorem comparison_eq {node : Fields} {left right : String} {operator : Operator}
    (hl : find? node (odrl "leftOperand") = some (reference left))
    (ho : find? node (odrl "operator") = some (reference operator.odrlName))
    (hr : find? node (odrl "rightOperand") = some (.string right)) :
    comparison node = .ok (.compare ⟨left, operator, right⟩) := by
  simp [comparison, textOf?, hl, ho, hr, expect, operandText?, text?, bind, Except.bind, pure,
    Except.pure]

theorem constraints_constraintBodies {cs : List Constraint}
    (h : ∀ c ∈ cs, constraint (constraintBody c) = .ok c) :
    constraints (constraintBodies cs) = .ok cs := by
  induction cs with
  | nil => rw [constraintBodies, constraints]
  | cons c rest ih =>
    rw [constraintBodies, constraints, h c (List.mem_cons_self ..),
      ih fun c hc => h c (List.mem_cons_of_mem _ hc)]
    rfl

theorem find?_connectiveTerm_comparison {left operator right : Json} (k : Connective) :
    find? (Dictionary.ofList [("@type", Json.string "odrl:Constraint"), ("odrl:leftOperand", left),
      ("odrl:operator", operator), ("odrl:rightOperand", right)]).entries (connectiveTerm k) = none := by
  cases k <;> simp [find?, connectiveTerm, spellings_odrl, List.lookup_cons]

theorem find?_connectiveTerm_join {j : Json} (k k' : Connective) :
    find? (Dictionary.ofList [(connectiveKey k, j)]).entries (connectiveTerm k') =
      if k' = k then some j else none := by
  cases k <;> cases k' <;>
    simp [find?, connectiveTerm, connectiveKey, spellings_odrl, List.lookup_cons]

theorem constraint_constraintBody (c : Constraint) : constraint (constraintBody c) = .ok c := by
  induction c with
  | compare c =>
    rw [constraintBody, Json.ofFields, constraint_of_comparison find?_connectiveTerm_comparison]
    exact comparison_eq (find?_odrl (by simp [List.lookup_cons]))
      (find?_odrl (by simp [List.lookup_cons])) (find?_odrl (by simp))
  | join k cs ih =>
    rw [constraintBody, Json.ofFields, constraint_of_join (find?_connectiveTerm_join k), parts,
      constraints_constraintBodies ih]
    rfl

@[simp] theorem actionName?_reference (action : String) :
    actionName? (reference action) = some action := by
  simp [reference, Json.ofFields, actionName?, id?, textUnder?_eq, text?]

theorem listUnder_odrl {node : Fields} {name : String} {items : List Json}
    (h : Json.field? node ("odrl:" ++ name) = some (.array items)) :
    listUnder node (odrl name) = items := by
  rw [listUnder, find?_odrl h]
  rfl

theorem permission_permissionBody (p : Permission) : permission (permissionBody p) = .ok p := by
  rw [permissionBody, Json.ofFields]
  generalize hnode : (Dictionary.ofList [("odrl:action", reference p.action),
    ("odrl:constraint", .array (constraintBodies p.constraints))]).entries = node
  have haction : find? node (odrl "action") = some (reference p.action) :=
    find?_odrl (by simp [← hnode, List.lookup_cons])
  have hlist : listUnder node (odrl "constraint") = constraintBodies p.constraints :=
    listUnder_odrl (by simp [← hnode])
  have hconstraints : constraints (constraintBodies p.constraints) = .ok p.constraints :=
    constraints_constraintBodies fun c _ => constraint_constraintBody c
  simp [permission, fields, expect, Json.object?, haction, hlist, hconstraints, bind, Except.bind]
  rfl

theorem mapM_permissionBody (ps : List Permission) :
    (ps.map permissionBody).mapM permission = .ok ps := by
  induction ps with
  | nil => rfl
  | cons p rest ih =>
    rw [List.map_cons, List.mapM_cons, permission_permissionBody, ih]
    rfl

theorem exists_offerBody (connector : String) (o : Contract.OfferDescription) :
    ∃ node, offerBody connector o = .object node ∧
      Json.field? node "@id" = some (.string o.offer) ∧
      policy node = .ok (o.policy.withTarget (o.policy.target.getD o.asset)) := by
  refine ⟨_, rfl, by simp [List.lookup_cons], ?_⟩
  generalize hnode : Dictionary.entries _ = node
  have hpermissions : listUnder node (odrl "permission") = o.policy.permissions.map permissionBody :=
    listUnder_odrl (by simp [← hnode, List.lookup_cons])
  have hprohibitions : listUnder node (odrl "prohibition") = o.policy.prohibitions :=
    listUnder_odrl (by simp [← hnode, List.lookup_cons])
  have hobligations : listUnder node (odrl "obligation") = o.policy.obligations :=
    listUnder_odrl (by simp [← hnode])
  have htarget : find? node (odrl "target") =
      some (reference (o.policy.target.getD o.asset)) :=
    find?_odrl (by simp [← hnode, List.lookup_cons])
  rw [policy, hpermissions, mapM_permissionBody, hprohibitions, hobligations, textOf?, htarget,
    Option.bind_some, text?_reference]
  rfl

end LinkedData

theorem Phase.eq_of_sent {c c' : Call} {w : c.Answer → Wait} {succeeded : Prop} {es : List Event}
    {reply : Option c'.Reply} (h : Phase c w succeeded es) (hmem : .sent c' reply ∈ es)
    (hpolls : (Event.sent c' reply).polls? = none) : c' = c := by
  obtain ⟨before, after, heq⟩ := List.append_of_mem hmem
  rcases h.split_cases heq with ⟨-, _, hsent⟩ | ⟨a, -, -, ha⟩
  · cases hsent
    rfl
  · cases hpolls.symm.trans ha

namespace Negotiation

variable {settings : Settings} {store : Policy.Store} {now : Timestamp} {endpoint : String}
  {item : Catalog.Item} {status : Credential.Status} {partner : String} {es : List Event}

/-- The only contract request of a negotiation is the one for its item. -/
theorem eq_negotiationRequest {result : Option (Except ClientError Contract.Transfer)}
    (h : (negotiate settings store now endpoint item status partner).Course es result)
    {q : Contract.NegotiationRequest}
    {reply : Option (Call.startNegotiation q).Reply}
    (hmem : .sent (.startNegotiation q) reply ∈ es) :
    q = negotiationRequest (Address.withSuffix endpoint settings.suffix) item := by
  have hnone : ∀ {tq : Contract.TransferRequest} {succeeded : Prop} {es : List Event},
      Phase (.startTransfer tq) (fun created => .transfer created.id) succeeded es →
      .sent (.startNegotiation q) reply ∉ es := by
    intro tq succeeded es hphase hmem
    cases hphase.eq_of_sent hmem rfl
  cases status with
  | requiredNew =>
    simp only [negotiate] at h
    split at h
    · obtain ⟨rfl, -⟩ := Task.Course.of_fail_andThen h
      cases hmem
    · rcases Program.Course.andThen_cases h with ⟨⟨_, h, -⟩, -⟩ | ⟨_, early, late, rfl, h, h'⟩
      · cases (contract_phase h).1.eq_of_sent hmem rfl
        rfl
      · rcases List.mem_append.1 hmem with hmem | hmem
        · cases (contract_phase h).1.eq_of_sent hmem rfl
          rfl
        · exact (hnone (transfer_phase h') hmem).elim
  | expired stale => exact (hnone (transfer_phase h) hmem).elim
  | valid c =>
    obtain ⟨rfl, -⟩ := Task.Course.of_fail_andThen h
    cases hmem

/-- A contract request reads back to the offer it is for: to the name of the offer, and to its policy
with the policy's own target or else the asset. So whatever a negotiation posts for an item reads back
to the item's offer and to its policy for its asset. -/
theorem requested_offer_reads_back :
    (∀ q : Contract.NegotiationRequest, ∃ node,
      (LinkedData.negotiationRequestBody q).at? ["policy"] = some (.object node) ∧
      Json.field? node "@id" = some (.string q.offer.offer) ∧
      LinkedData.policy node =
        .ok { q.offer.policy with target := some (q.offer.policy.target.getD q.offer.asset) }) ∧
    ∀ (settings : Settings) (store : Policy.Store) (now : Timestamp) (endpoint : String)
      (item : Catalog.Item) (status : Credential.Status) (partner : String) (es : List Event)
      (result : Option (Except ClientError Contract.Transfer)),
      (negotiate settings store now endpoint item status partner).Course es result →
      ∀ q reply, .sent (.startNegotiation q) reply ∈ es → ∀ m : Management.Settings,
        ∃ body offered, (Management.Client.route m (.startNegotiation q)).2 = some body ∧
          body.at? ["policy"] = some offered ∧
          LinkedData.offer offered = .ok ⟨item.offer, item.policy.withTarget item.asset⟩ := by
  have hpolicy : ∀ q : Contract.NegotiationRequest,
      (LinkedData.negotiationRequestBody q).at? ["policy"] =
        some (LinkedData.offerBody q.connector q.offer) := by
    intro q
    simp [LinkedData.negotiationRequestBody, Json.ofFields, Json.at?, Json.object?, List.lookup_cons]
  constructor
  · intro q
    obtain ⟨node, hbody, hread⟩ := LinkedData.exists_offerBody q.connector q.offer
    exact ⟨node, (hpolicy q).trans (congrArg some hbody), hread⟩
  · intro settings store now endpoint item status partner es result h q reply hmem m
    obtain rfl := eq_negotiationRequest h hmem
    obtain ⟨node, hbody, hid, hread⟩ := LinkedData.exists_offerBody item.connector
      ⟨item.offer, item.asset, item.policy.withTarget item.asset⟩
    refine ⟨_, .object node, rfl, (hpolicy _).trans (congrArg some hbody), ?_⟩
    simp [LinkedData.offer, LinkedData.fields, LinkedData.expect, Json.object?, LinkedData.id?,
      LinkedData.textUnder?_eq, hid, hread, LinkedData.text?, bind, Except.bind]
    rfl

/-- One of two purposes, but not both, and rules that are no rules at all. -/
def intricateItem : Catalog.Item where
  id := "item"
  asset := "asset"
  offer := "offer"
  connector := "partner"
  policy := {
    permissions := [⟨"use", [.join .xone [.join .and [.equals "purpose" "a", .join .or []],
      .compare ⟨"purpose", .isNoneOf, ""⟩]]⟩]
    prohibitions := [.null, .array [.bool true]]
    obligations := [.string "none"]
    target := some "elsewhere" }

theorem requested_offer_reads_back_intricateItem :
    ∃ es result q reply body offered,
      (negotiate .default anyPurpose (.ofUnix 1) "https://provider" intricateItem .requiredNew
        "partner").Course es result ∧
      .sent (.startNegotiation q) reply ∈ es ∧
      (Management.Client.route .default (.startNegotiation q)).2 = some body ∧
      body.at? ["policy"] = some offered ∧
      LinkedData.offer offered = .ok ⟨"offer", intricateItem.policy.withTarget "asset"⟩ := by
  obtain ⟨es, hes, hlog⟩ := Task.exists_course leisurely (negotiate .default anyPurpose (.ofUnix 1)
    "https://provider" intricateItem .requiredNew "partner") ⟨(0, []), 0⟩
  have hsome : (es.filter Event.isSent).any Event.isStartNegotiation := by
    rw [← List.nil_append (es.filter _), ← hlog]
    decide +kernel
  obtain ⟨e, hmem, hstart⟩ := List.any_eq_true.1 hsome
  unfold Event.isStartNegotiation at hstart
  split at hstart
  case h_2 => cases hstart
  case h_1 q reply =>
    have hsent := (List.mem_filter.1 hmem).1
    obtain ⟨body, offered, hread⟩ :=
      requested_offer_reads_back.2 _ _ _ _ _ _ _ _ _ hes q reply hsent .default
    exact ⟨es, _, q, reply, body, offered, hes, hsent, hread⟩

end Negotiation

end ConsumerConnector
