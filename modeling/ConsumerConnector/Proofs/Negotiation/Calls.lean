import ConsumerConnector.ControlPlane.Coding
import ConsumerConnector.Proofs.Negotiation.Phase

/-!
Which calls a negotiation makes, and in which order, along every course it can take.
-/

namespace ConsumerConnector

open Contract

namespace Event

def isStartNegotiation : Event → Bool
  | sent (.startNegotiation _) _ => true
  | _ => false

def isStartTransfer : Event → Bool
  | sent (.startTransfer _) _ => true
  | _ => false

theorem polls?_of_isStartNegotiation {e : Event} (h : e.isStartNegotiation) : e.polls? = none := by
  unfold isStartNegotiation at h
  split at h
  · rfl
  · cases h

theorem polls?_of_isStartTransfer {e : Event} (h : e.isStartTransfer) : e.polls? = none := by
  unfold isStartTransfer at h
  split at h
  · rfl
  · cases h

/-- Part of a phase in which a contract is negotiated. -/
def IsNegotiation (e : Event) : Prop :=
  e.isStartNegotiation ∨ ∃ id, e.polls? = some (.agreement id)

end Event

namespace Negotiation

variable {es : List Event}

/-- There is no credential yet. -/
def IsNew (given : Option Credential.Status) : Prop :=
  given = none ∨ given = some .requiredNew

/-- What holds of the events of a negotiation whose policy may be accepted, all the while. -/
structure Lawful (accepted : Prop) (given : Option Credential.Status) (es : List Event) : Prop where
  negotiated_once : es.countP Event.isStartNegotiation ≤ 1
  negotiated : ∀ e ∈ es, e.isStartNegotiation → IsNew given ∧ accepted
  refused : IsNew given → ¬ accepted → es = []
  valid : ∀ c, given = some (.valid c) → es = []
  expired : ∀ stale, given = some (.expired stale) → ∀ e ∈ es, ¬ e.IsNegotiation
  transferred_once : es.countP Event.isStartTransfer ≤ 1
  transferred : ∀ before q reply after, es = before ++ .sent (.startTransfer q) reply :: after →
    (∃ stale, given = some (.expired stale) ∧ q.contract = stale.contract) ∨
      (IsNew given ∧ ∃ id early last, before = early ++ last ∧ Agrees id q.contract last ∧
        ∃ start ∈ early, start.starts? = some (.agreement id))
  started : StartedBefore es
  stops : es.Pairwise fun e _ => ¬ e.Fails

namespace Lawful

variable {accepted : Prop} {given : Option Credential.Status}

theorem nil : Lawful accepted given [] := by
  constructor <;> simp [StartedBefore]

theorem of_transfer {stale : Credential} {q : TransferRequest} {succeeded : Prop}
    (hgiven : given = some (.expired stale)) (hq : q.contract = stale.contract)
    (h : Phase (.startTransfer q) (fun created => .transfer created.id) succeeded es) :
    Lawful accepted given es := by
  have hnone : es.countP Event.isStartNegotiation = 0 :=
    h.countP_eq_zero (fun _ => Event.polls?_of_isStartNegotiation) fun _ => rfl
  constructor
  case negotiated_once => exact hnone ▸ Nat.zero_le 1
  case negotiated => exact fun e he hstart => (List.countP_eq_zero.1 hnone e he hstart).elim
  case refused | valid => simp [IsNew, hgiven]
  case expired =>
    rintro - - e he (hstart | ⟨id, hid⟩)
    · exact List.countP_eq_zero.1 hnone e he hstart
    · obtain ⟨before, after, heq⟩ := List.append_of_mem he
      rcases h.split_cases heq with ⟨-, reply, rfl⟩ | ⟨a, -, -, ha⟩
      · cases hid
      · cases hid.symm.trans ha
  case transferred_once => exact h.countP_le_one fun _ => Event.polls?_of_isStartTransfer
  case transferred =>
    intro before q' reply after heq
    rcases h.split_cases heq with ⟨-, reply', hq'⟩ | ⟨a, -, -, ha⟩
    · cases hq'
      exact .inl ⟨stale, hgiven, hq⟩
    · cases ha
  case started => exact h.startedBefore (startTransfer_starts q)
  case stops => exact h.stops (startTransfer_starts q)

theorem of_contract_transfer {nq : NegotiationRequest} {q : TransferRequest}
    {agreed succeeded : Prop} {es' : List Event} (hgiven : IsNew given) (haccepted : accepted)
    (h : Phase (.startNegotiation nq) (fun created => .agreement created.id) agreed es)
    (h' : Phase (.startTransfer q) (fun created => .transfer created.id) succeeded es')
    (hagrees : es' ≠ [] → agreed ∧ ∃ id early last, es = early ++ last ∧ Agrees id q.contract last) :
    Lawful accepted given (es ++ es') := by
  have hstarted : StartedBefore es := h.startedBefore (startNegotiation_starts nq)
  have hnone : es.countP Event.isStartTransfer = 0 :=
    h.countP_eq_zero (fun _ => Event.polls?_of_isStartTransfer) fun _ => rfl
  constructor
  case negotiated_once =>
    have hle : es.countP Event.isStartNegotiation ≤ 1 :=
      h.countP_le_one fun _ => Event.polls?_of_isStartNegotiation
    have hnone' : es'.countP Event.isStartNegotiation = 0 :=
      h'.countP_eq_zero (fun _ => Event.polls?_of_isStartNegotiation) fun _ => rfl
    rwa [List.countP_append, hnone']
  case negotiated => exact fun _ _ _ => ⟨hgiven, haccepted⟩
  case refused => exact fun _ hrefused => (hrefused haccepted).elim
  case valid | expired => rcases hgiven with rfl | rfl <;> nofun
  case transferred_once =>
    rw [List.countP_append, hnone, Nat.zero_add]
    exact h'.countP_le_one fun _ => Event.polls?_of_isStartTransfer
  case transferred =>
    intro before q' reply after heq
    rcases split_append heq with ⟨l, hes⟩ | ⟨l, rfl, hes'⟩
    · rcases h.split_cases hes with ⟨-, _, hstart⟩ | ⟨_, _, -, hpoll⟩
      · cases hstart
      · cases hpoll
    · rcases h'.split_cases hes' with ⟨rfl, _, hstart⟩ | ⟨_, _, -, hpoll⟩
      · cases hstart
        obtain ⟨-, id, early, last, rfl, hlast⟩ := hagrees (by simp [hes'])
        obtain ⟨report, n, rfl, hagreed⟩ := hlast
        refine .inr ⟨hgiven, id, early, _, List.append_nil _, ⟨report, n, rfl, hagreed⟩, ?_⟩
        exact hstarted early _ _ _ rfl rfl
      · cases hpoll
  case started => exact hstarted.append (h'.startedBefore (startTransfer_starts q))
  case stops =>
    refine List.pairwise_append.2 ⟨h.stops (startNegotiation_starts nq),
      h'.stops (startTransfer_starts q), fun e he _ he' => ?_⟩
    exact h.sound (startNegotiation_starts nq) (hagrees (List.ne_nil_of_mem he')).1 e he

end Lawful

theorem lawful_of_course {settings : Settings} {store : Policy.Store} {now : Timestamp}
    {endpoint : String} {item : Catalog.Item} {given : Option Credential.Status} {partner : String}
    {result : Option (Except ClientError Transfer)}
    (h : (negotiate settings store now endpoint item (given.getD .requiredNew) partner).Course es
      result) : Lawful (checkPolicy store now item partner = .ok ()) given es := by
  have hnew : ∀ {given}, IsNew given →
      (negotiate settings store now endpoint item .requiredNew partner).Course es result →
      Lawful (checkPolicy store now item partner = .ok ()) given es := by
    intro given hgiven h
    unfold negotiate at h
    simp only at h
    split at h
    · rw [(Task.Course.of_fail_andThen h).1]
      exact .nil
    · next haccepted =>
      rcases Program.Course.andThen_cases h with ⟨⟨_, h, hfail⟩, -⟩ | ⟨a, early, late, rfl, h, h'⟩
      · rw [← List.append_nil es]
        exact .of_contract_transfer hgiven haccepted (contract_phase h).1
          (q := transferRequest settings "" item "") (.unsent id) (absurd rfl)
      · obtain ⟨hphase, hagrees⟩ := contract_phase h
        exact .of_contract_transfer hgiven haccepted hphase (transfer_phase h')
          fun _ => ⟨⟨a, rfl⟩, hagrees a rfl⟩
  match given with
  | none => exact hnew (.inl rfl) h
  | some .requiredNew => exact hnew (.inr rfl) h
  | some (.expired stale) => exact .of_transfer rfl rfl (transfer_phase h)
  | some (.valid c) =>
    rw [(Task.Course.of_fail_andThen h).1]
    exact .nil

/-- A negotiation is lawful whatever the control plane does and however long its calls take, and what
any run of it records are the calls of such a course. -/
theorem negotiate_lawful (settings : Settings) (store : Policy.Store) (now : Timestamp)
    (endpoint : String) (item : Catalog.Item) (given : Option Credential.Status) (partner : String) :
    let task := negotiate settings store now endpoint item (given.getD .requiredNew) partner
    (∀ es result, task.Course es result →
      Lawful (checkPolicy store now item partner = .ok ()) given es) ∧
    ∀ {σ : Type} (answer : Answering σ) (s : σ) (time : Nat), ∃ es,
      task.Course es (some (task.run answer.recorded ⟨(s, []), time⟩).1) ∧
        (task.run answer.recorded ⟨(s, []), time⟩).2.state.2 = es.filter Event.isSent :=
  ⟨fun _ _ => lawful_of_course, fun answer s time =>
    Task.exists_course answer _ ⟨(s, []), time⟩⟩

/-- A control plane that finalizes every negotiation at the second look. -/
def leisurely : Answering Nat
  | .call (.startNegotiation _), n => (.ok ⟨"negotiation"⟩, n)
  | .call (.getNegotiationState _), 0 => (.ok ⟨"REQUESTED"⟩, 1)
  | .call (.getNegotiationState _), n => (.ok ⟨"FINALIZED"⟩, n)
  | .call (.getNegotiation id), n => (.ok ⟨id, some "agreement", "FINALIZED", none⟩, n)
  | .call (.startTransfer _), n => (.ok ⟨"transfer"⟩, n)
  | .call (.getTransferState _), n => (.ok ⟨"STARTED"⟩, n)
  | .call (.getTransfer id), n => (.ok ⟨id, "STARTED", "agreement", "asset", none⟩, n)
  | .call (.getCatalog _), n => (.error (.request "no catalog"), n)
  | .stored .., n => (none, n)

def anyPurpose : Policy.Store := .ofDefaults [⟨Policy.wildcard, .ofUnix 2, none⟩]

def plainItem : Catalog.Item := ⟨"item", "asset", "offer", "partner", .empty⟩

theorem negotiate_lawful_leisurely :
    ∃ es, Lawful (checkPolicy anyPurpose (.ofUnix 1) plainItem "partner" = .ok ()) none es ∧
      ((es.filter Event.isSent).map fun
        | .sent c _ => c.method
        | .late _ => "") =
        ["start_negotiation", "get_negotiation_state", "get_negotiation_state", "get_negotiation",
          "start_transfer_process", "get_transfer_process_state", "get_transfer_process"] := by
  obtain ⟨hlawful, hrun⟩ := negotiate_lawful .default anyPurpose (.ofUnix 1) "https://provider"
    plainItem none "partner"
  obtain ⟨es, hes, hlog⟩ := hrun leisurely 0 0
  refine ⟨es, hlawful es _ hes, ?_⟩
  rw [← hlog]
  decide +kernel

end Negotiation

end ConsumerConnector
