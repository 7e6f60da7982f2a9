import ConsumerConnector.Acquisition.Basic

/-!
What an acquisition is about. On the way to a credential only two calls name an asset, the one that
starts a negotiation and the one that starts a transfer, and both name that of the item which was
ordered, whatever the control plane replies.
-/

namespace ConsumerConnector

namespace Program

variable {Op : Type} {Reply : Op → Type} {α β ε : Type} {P : Op → Prop}

/-- Every operation that a program can come to has a property, whatever the replies. -/
def All (P : Op → Prop) : Program Op Reply α → Prop
  | .done _ => True
  | .perform op next => P op ∧ ∀ r, (next r).All P

theorem All.bind {p : Program Op Reply α} {f : α → Program Op Reply β} (h : p.All P)
    (h' : ∀ a, (f a).All P) : (p.bind f).All P := by
  induction p with
  | done a => exact h' a
  | perform op next ih => exact ⟨h.1, fun r => ih r (h.2 r)⟩

theorem All.andThen {p : ExceptT ε (Program Op Reply) α} {f : α → ExceptT ε (Program Op Reply) β}
    (h : p.run.All P) (h' : ∀ a, (f a).run.All P) : (ExceptT.run (p >>= f)).All P := by
  refine All.bind (p := p.run) h fun r => ?_
  cases r with
  | ok a => exact h' a
  | error e => trivial

theorem All.pure (a : α) : (ExceptT.run (pure a : ExceptT ε (Program Op Reply) α)).All P := trivial

theorem All.throw (e : ε) : (ExceptT.run (throw e : ExceptT ε (Program Op Reply) α)).All P := trivial

end Program

/-- The assets that a call negotiates or transfers. -/
def Call.assets : Call → List String
  | startNegotiation q => q.offer.asset :: q.offer.policy.target.toList
  | startTransfer q => [q.asset]
  | _ => []

def Call.IsFor (asset : String) (c : Call) : Prop :=
  ∀ a ∈ c.assets, a = asset

variable {asset : String}

namespace Look

def IsFor (asset : String) : Query → Prop
  | .call c => c.IsFor asset
  | .stored .. => True

theorem all_call {c : Call} (h : c.IsFor asset) : (ExceptT.run (call c)).All (IsFor asset) :=
  ⟨h, fun _ => trivial⟩

theorem agreement_isFor (id asset : String) : (ExceptT.run (agreement id)).All (IsFor asset) := by
  refine .andThen (all_call (List.forall_mem_nil _)) fun report => ?_
  -- The state goes by a text of the report, which would be compared letter by letter.
  generalize report.process = state
  split
  · refine .andThen (all_call (List.forall_mem_nil _)) fun n => ?_
    split
    · exact Program.All.pure _
    · exact Program.All.throw _
  · split
    · exact Program.All.throw _
    · exact Program.All.pure _

theorem transfer_isFor (id asset : String) : (ExceptT.run (transfer id)).All (IsFor asset) := by
  refine .andThen (all_call (List.forall_mem_nil _)) fun report => ?_
  generalize report.process = state
  split
  · exact .andThen (all_call (List.forall_mem_nil _)) fun _ => Program.All.pure _
  · exact .andThen (all_call (List.forall_mem_nil _)) fun _ => Program.All.pure _
  · split
    · exact Program.All.throw _
    · exact Program.All.pure _

end Look

/-- Looks only ask how far something is. -/
theorem Wait.look_isFor (w : Wait) (asset : String) :
    (ExceptT.run w.look).All (Look.IsFor asset) := by
  cases w with
  | agreement id => exact Look.agreement_isFor id asset
  | transfer id => exact Look.transfer_isFor id asset
  | credential contract since => exact ⟨trivial, fun _ => trivial⟩

namespace Task

variable {α β : Type}

def IsFor (asset : String) : Action → Prop
  | .call c => c.IsFor asset
  | .wait .. => True

theorem all_call {c : Call} (h : c.IsFor asset) : (ExceptT.run (call c)).All (IsFor asset) :=
  ⟨h, fun _ => trivial⟩

theorem all_await (w : Wait) (ttl interval : Nat) :
    (ExceptT.run (await w ttl interval)).All (IsFor asset) := by
  unfold await
  split
  · exact ⟨trivial, fun _ => trivial⟩
  · trivial

theorem all_onTimeout {t : Task α} {failure : ClientError → ClientError}
    (h : (ExceptT.run t).All (IsFor asset)) :
    (ExceptT.run (t.onTimeout failure)).All (IsFor asset) := by
  refine Program.All.bind (p := ExceptT.run t) h fun r => ?_
  cases r with
  | ok a => trivial
  | error e => cases e <;> trivial

end Task

namespace Negotiation

open Contract

theorem contract_isFor (settings : Settings) (address : String) (item : Catalog.Item) :
    (ExceptT.run (contract settings address item)).All (Task.IsFor item.asset) := by
  have hrequest : (Call.startNegotiation (negotiationRequest address item)).IsFor item.asset := by
    simp [Call.IsFor, Call.assets, negotiationRequest, Policy.withTarget]
  exact .andThen (Task.all_call hrequest) fun _ => Task.all_onTimeout (Task.all_await ..)

theorem transfer_isFor (settings : Settings) (q : TransferRequest) :
    (ExceptT.run (Negotiation.transfer settings q)).All (Task.IsFor q.asset) :=
  .andThen (Task.all_call (List.forall_mem_singleton.2 rfl)) fun _ =>
    Task.all_onTimeout (Task.all_await ..)

theorem negotiate_isFor (settings : Settings) (store : Policy.Store) (now : Timestamp)
    (endpoint : String) (item : Catalog.Item) (status : Credential.Status) (partner : String) :
    (ExceptT.run (negotiate settings store now endpoint item status partner)).All
      (Task.IsFor item.asset) := by
  cases status with
  | requiredNew =>
    unfold negotiate
    simp only
    split
    · exact True.intro
    · exact .andThen (contract_isFor settings _ item) fun _ => transfer_isFor settings _
  | expired stale => exact transfer_isFor settings (transferRequest settings _ item stale.contract)
  | valid c => exact True.intro

end Negotiation

namespace Acquisition

theorem Setup.task_isFor {setup : Setup} {o : Order}
    (h : (ExceptT.run (setup.negotiator o)).All (Task.IsFor o.item.asset)) (since : Nat) :
    (ExceptT.run (setup.task o since)).All (Task.IsFor o.item.asset) := by
  refine .andThen h fun t => ?_
  split
  · exact Task.all_await ..
  · exact Program.All.throw _

end Acquisition

end ConsumerConnector
