import ConsumerConnector.Acquisition.Session
import ConsumerConnector.Proofs.Acquisition.Registry

/-!
What a call leaves behind when nobody else moves. On its way it only reads: the shutdown signal, the
cache, the registry and perhaps the catalog. All that may turn it back comes before the one step that
writes, so there is nothing to undo.
-/

namespace ConsumerConnector.Acquisition

variable {σ : Type}

/-- Notes the calls, the last one first. -/
def DeliveringPlane.recorded (plane : DeliveringPlane σ) : DeliveringPlane (σ × List Call) :=
  fun c s =>
    let (r, deliveries, state) := plane c s.1
    (r, deliveries, state, c :: s.2)

def Environment.recorded (env : Environment σ) : Environment (σ × List Call) :=
  ⟨env.setup, env.catalog, env.plane.recorded, env.wall, env.patience⟩

/-- The session with a record of the calls from now on. -/
def Session.recorded (s : Session σ) : Session (σ × List Call) := ⟨s.system, (s.plane, []), s.tickets⟩

/-- What a provider is asked by those who come without an item. -/
def Request.lookup (q : Request) (settings : Catalog.Settings) : Catalog.Request :=
  Catalog.filterRequest settings q.endpoint Catalog.assetKey q.asset q.partner

/-- The caller that a step moves on. -/
def Label.caller? : Label → Option Nat
  | .enter i | .classify i _ | .join i | .supply i _ | .register i => some i
  | _ => none

theorem firstItem_eq_error {endpoint asset : String} {answer : Except TransportError Catalog}
    {e : ClientError} (h : firstItem endpoint asset (answer.map Catalog.items) = .error e) :
    (∃ cause, answer = .error cause ∧ e = .transport cause) ∨
      ∃ c, answer = .ok c ∧ c.items = [] ∧
        e = .catalogEmpty endpoint Catalog.assetKey asset := by
  cases answer with
  | error cause => exact .inl ⟨cause, rfl, (Except.error.inj h).symm⟩
  | ok c =>
    cases hitems : c.items with
    | nil =>
      simp only [firstItem, Except.map, hitems, List.head?_nil, Option.elim_none] at h
      exact .inr ⟨c, rfl, hitems, (Except.error.inj h).symm⟩
    | cons item rest => simp [firstItem, Except.map, hitems] at h

theorem firstItem_eq_ok {endpoint asset : String} {answer : Except TransportError Catalog}
    {item : Catalog.Item} (h : firstItem endpoint asset (answer.map Catalog.items) = .ok item) :
    ∃ c, answer = .ok c ∧ c.items.head? = some item := by
  cases answer with
  | error cause => cases h
  | ok c =>
    refine ⟨c, rfl, ?_⟩
    cases hitems : c.items with
    | nil => simp [firstItem, Except.map, hitems] at h
    | cons first rest =>
      simp only [firstItem, Except.map, hitems, List.head?_cons, Option.elim_some] at h
      rw [List.head?_cons, Except.ok.inj h]

namespace System

/-- The system with a newcomer, some instants later. -/
def visited (s : System) (c : Caller) (lock : Option Nat) (instants : Nat) : System :=
  { s with callers := s.callers ++ [c], lock, instant := s.instant + instants }

section

variable (s : System) (c d : Caller) (lock : Option Nat) (n : Nat)

@[simp] theorem getElem?_visited :
    (s.visited c lock n).callers[s.callers.length]? = some c := by
  simp [visited]

@[simp] theorem setCaller_visited :
    (s.visited c lock n).setCaller s.callers.length d = s.visited d lock n := by
  simp [visited, setCaller]

@[simp] theorem leave_visited (q : Request) (result : Except ClientError Ticket) :
    (s.visited c lock n).leave s.callers.length q result =
      s.visited (.returned q result) none n := by
  simp [visited, leave, setCaller]

@[simp] theorem cache_visited : (s.visited c lock n).cache = s.cache := rfl

@[simp] theorem registry_visited : (s.visited c lock n).registry = s.registry := rfl

@[simp] theorem futures_visited : (s.visited c lock n).futures = s.futures := rfl

end

/-- Whoever has returned moves no more. -/
theorem step_of_returned {setup : Setup} {s : System} {l : Label} {i : Nat} {q : Request}
    {result : Except ClientError Ticket} (hc : s.callers[i]? = some (.returned q result))
    (hl : l.caller? = some i) : s.step setup l = none := by
  cases l <;> cases hl <;> simp [step, enter?, classify?, join?, supply?, register?, hc]

end System

namespace Session

variable {env : Environment σ} {s : Session σ} {q : Request}

/-- The session with a newcomer, some instants later. -/
def visited (s : Session σ) (plane : σ) (c : Caller) (lock : Option Nat) (instants : Nat) :
    Session σ :=
  ⟨s.system.visited c lock instants, plane, s.tickets⟩

/-- The session with a newcomer that has registered a future. -/
def registered (s : Session σ) (plane : σ) (q : Request) (o : Order) (instants : Nat) : Session σ :=
  let future := s.system.futures.length
  let t := s.visited plane (.returned q (.ok (.ongoing future))) s.system.lock instants
  { t with
    system := { t.system with
      registry := s.system.registry.insert q.key future
      futures := s.system.futures ++ [⟨q.key, o, 0, .idle, .live⟩] } }

section

variable {plane : σ} {c : Caller} {lock : Option Nat} {n : Nat} {l : Label}

theorem take_of_step {u : System}
    (h : (s.system.visited c lock (n + 1)).step env.setup l = some u) :
    (s.visited plane c lock n).take env l = ⟨u, plane, s.tickets⟩ := by
  show Session.mk (((s.system.visited c lock (n + 1)).step env.setup l).getD _) plane s.tickets = _
  rw [h, Option.getD_some]

theorem take_returned {result : Except ClientError Ticket}
    (hl : l.caller? = some s.system.callers.length) :
    (s.visited plane (.returned q result) lock n).take env l =
      s.visited plane (.returned q result) lock (n + 1) := by
  have hnone : (s.system.visited (.returned q result) lock (n + 1)).step env.setup l = none :=
    System.step_of_returned (System.getElem?_visited ..) hl
  show Session.mk (((s.system.visited _ lock (n + 1)).step env.setup l).getD _) plane s.tickets = _
  rw [hnone, Option.getD_none]
  rfl

theorem take_call : s.take env (.call q) =
    s.visited s.plane
      (if s.system.shutdown then .returned q (.error isShutDown) else .queued q) s.system.lock 1 :=
  rfl

theorem take_enter : (s.visited plane (.queued q) none n).take env (.enter s.system.callers.length) =
    s.visited plane (.entered q) (some s.system.callers.length) (n + 1) :=
  take_of_step (by simp [System.step, System.enter?, System.visited, System.setCaller])

theorem take_classify_valid {cred : Credential}
    (hv : s.system.cache.classify q.key env.wall = .valid cred) :
    (s.visited plane (.entered q) lock n).take env (.classify s.system.callers.length env.wall) =
      s.visited plane (.returned q (.ok (.ready cred))) none (n + 1) :=
  take_of_step (by simp [System.step, System.classify?, hv])

theorem take_classify (hv : ∀ cred, s.system.cache.classify q.key env.wall ≠ .valid cred) :
    (s.visited plane (.entered q) lock n).take env (.classify s.system.callers.length env.wall) =
      s.visited plane (.unregistered q (s.system.cache.classify q.key env.wall)) lock (n + 1) := by
  apply take_of_step (u := s.system.visited _ lock (n + 1))
  cases hs : s.system.cache.classify q.key env.wall with
  | valid cred => exact (hv cred hs).elim
  | expired cred => simp [System.step, System.classify?, hs]
  | requiredNew => simp [System.step, System.classify?, hs]

theorem take_join_ongoing {status : Credential.Status} {f : Nat}
    (hr : s.system.registry.get? q.key = some f) :
    (s.visited plane (.unregistered q status) lock n).take env (.join s.system.callers.length) =
      s.visited plane (.returned q (.ok (.ongoing f))) none (n + 1) :=
  take_of_step (by simp [System.step, System.join?, hr])

theorem take_join_given {status : Credential.Status} {item : Catalog.Item}
    (hr : s.system.registry.get? q.key = none) (hi : q.item = some item) :
    (s.visited plane (.unregistered q status) lock n).take env (.join s.system.callers.length) =
      s.visited plane (.selected q ⟨q.endpoint, q.partner, item, status⟩) lock (n + 1) :=
  take_of_step (by simp [System.step, System.join?, hr, hi])

theorem take_join_missing {status : Credential.Status}
    (hr : s.system.registry.get? q.key = none) (hi : q.item = none) :
    (s.visited plane (.unregistered q status) lock n).take env (.join s.system.callers.length) =
      s.visited plane (.selecting q status) lock (n + 1) :=
  take_of_step (by simp [System.step, System.join?, hr, hi])

theorem take_supply {status : Credential.Status} {answer : Except TransportError Catalog}
    {item : Catalog.Item}
    (ha : firstItem q.endpoint q.asset (answer.map Catalog.items) = .ok item) :
    (s.visited plane (.selecting q status) lock n).take env (.supply s.system.callers.length answer) =
      s.visited plane (.selected q ⟨q.endpoint, q.partner, item, status⟩) lock (n + 1) :=
  take_of_step (by simp [System.step, System.supply?, ha])

theorem take_supply_error {status : Credential.Status} {answer : Except TransportError Catalog}
    {e : ClientError}
    (ha : firstItem q.endpoint q.asset (answer.map Catalog.items) = .error e) :
    (s.visited plane (.selecting q status) lock n).take env (.supply s.system.callers.length answer) =
      s.visited plane (.returned q (.error e)) none (n + 1) :=
  take_of_step (by simp [System.step, System.supply?, ha])

theorem take_register {o : Order} (hfree : s.system.lock = none) :
    (s.visited plane (.selected q o) lock n).take env (.register s.system.callers.length) =
      s.registered plane q o (n + 1) := by
  apply take_of_step
  simp [System.step, System.register?, visited, hfree]

theorem select_returned {result : Except ClientError Ticket} :
    (s.visited plane (.returned q result) lock n).select env s.system.callers.length =
      s.visited plane (.returned q result) lock n := by
  simp [select, visited]

theorem select_selected {o : Order} :
    (s.visited plane (.selected q o) lock n).select env s.system.callers.length =
      s.visited plane (.selected q o) lock n := by
  simp [select, visited]

/-- Whoever has to select an item asks once. -/
theorem select_selecting {status : Credential.Status}
    (hquiet : (env.plane (.getCatalog (q.lookup env.catalog)) plane).2.1 = []) :
    (s.visited plane (.selecting q status) lock n).select env s.system.callers.length =
      (s.visited (env.plane (.getCatalog (q.lookup env.catalog)) plane).2.2 (.selecting q status) lock
        n).take env (.supply s.system.callers.length
          (env.plane (.getCatalog (q.lookup env.catalog)) plane).1) := by
  unfold Request.lookup at *
  simp [select, visited, ask, hquiet, takeAll]

end

section

variable {plane : σ} {lock : Option Nat} {n : Nat}

theorem getElem?_registered {o : Order} :
    (s.registered plane q o n).system.callers[s.system.callers.length]? =
      some (.returned q (.ok (.ongoing s.system.futures.length))) :=
  System.getElem?_visited s.system _ s.system.lock n

theorem call_eq {t u : Session σ} {result : Except ClientError Ticket}
    (ht : s.takeAll env [.call q, .enter s.system.callers.length,
      .classify s.system.callers.length env.wall, .join s.system.callers.length] = t)
    (hu : (t.select env s.system.callers.length).take env (.register s.system.callers.length) = u)
    (hc : u.system.callers[s.system.callers.length]? = some (.returned q result)) :
    s.call env q = (result, u) := by
  simp only [call, ht, hu, hc]

/-- Whoever has an answer by then takes it along. -/
theorem call_of_returned {result : Except ClientError Ticket}
    (h : s.takeAll env [.call q, .enter s.system.callers.length,
      .classify s.system.callers.length env.wall, .join s.system.callers.length] =
        s.visited plane (.returned q result) lock n) :
    s.call env q = (result, s.visited plane (.returned q result) lock (n + 1)) :=
  call_eq h (by rw [select_returned, take_returned rfl]) (System.getElem?_visited ..)

/-- The way to the registry. -/
theorem takeAll_unregistered (hopen : s.system.shutdown = false) (hfree : s.system.lock = none)
    (hv : ∀ c, s.system.cache.classify q.key env.wall ≠ .valid c) (l : Label) :
    s.takeAll env [.call q, .enter s.system.callers.length,
      .classify s.system.callers.length env.wall, l] =
        (s.visited s.plane (.unregistered q (s.system.cache.classify q.key env.wall))
          (some s.system.callers.length) 3).take env l := by
  simp only [takeAll, List.foldl_cons, List.foldl_nil]
  rw [take_call, hopen, if_neg Bool.false_ne_true, hfree, take_enter, take_classify hv]

theorem call_of_shutdown (hs : s.system.shutdown = true) :
    s.call env q = (.error isShutDown,
      s.visited s.plane (.returned q (.error isShutDown)) s.system.lock 5) := by
  apply call_of_returned
  simp only [takeAll, List.foldl_cons, List.foldl_nil]
  rw [take_call, if_pos hs, take_returned rfl, take_returned rfl, take_returned rfl]

theorem call_of_valid {c : Credential} (hopen : s.system.shutdown = false)
    (hfree : s.system.lock = none) (hv : s.system.cache.classify q.key env.wall = .valid c) :
    s.call env q =
      (.ok (.ready c), s.visited s.plane (.returned q (.ok (.ready c))) s.system.lock 5) := by
  apply call_of_returned
  simp only [takeAll, List.foldl_cons, List.foldl_nil]
  rw [take_call, hopen, if_neg Bool.false_ne_true, hfree, take_enter, take_classify_valid hv,
    take_returned rfl]

variable (hopen : s.system.shutdown = false) (hfree : s.system.lock = none)
  (hv : ∀ c, s.system.cache.classify q.key env.wall ≠ .valid c)

include hopen hfree hv

theorem call_of_ongoing {f : Nat} (hr : s.system.registry.get? q.key = some f) :
    s.call env q =
      (.ok (.ongoing f), s.visited s.plane (.returned q (.ok (.ongoing f))) s.system.lock 5) := by
  apply call_of_returned
  rw [takeAll_unregistered hopen hfree hv, take_join_ongoing hr, hfree]

theorem call_of_given {item : Catalog.Item} (hr : s.system.registry.get? q.key = none)
    (hi : q.item = some item) :
    s.call env q = (.ok (.ongoing s.system.futures.length),
      s.registered s.plane q
        ⟨q.endpoint, q.partner, item, s.system.cache.classify q.key env.wall⟩ 5) := by
  apply call_eq (t := s.visited s.plane
    (.selected q ⟨q.endpoint, q.partner, item, s.system.cache.classify q.key env.wall⟩)
    (some s.system.callers.length) 4)
  · rw [takeAll_unregistered hopen hfree hv, take_join_given hr hi]
  · rw [select_selected, take_register hfree]
  · exact getElem?_registered

variable (hr : s.system.registry.get? q.key = none) (hi : q.item = none)
  (hquiet : (env.plane (.getCatalog (q.lookup env.catalog)) s.plane).2.1 = [])

include hr hi hquiet

theorem call_of_found {item : Catalog.Item}
    (ha : firstItem q.endpoint q.asset ((env.plane (.getCatalog (q.lookup env.catalog))
      s.plane).1.map Catalog.items) = .ok item) :
    s.call env q = (.ok (.ongoing s.system.futures.length),
      s.registered (env.plane (.getCatalog (q.lookup env.catalog)) s.plane).2.2 q
        ⟨q.endpoint, q.partner, item, s.system.cache.classify q.key env.wall⟩ 6) := by
  apply call_eq (t := s.visited s.plane
    (.selecting q (s.system.cache.classify q.key env.wall)) (some s.system.callers.length) 4)
  · rw [takeAll_unregistered hopen hfree hv, take_join_missing hr hi]
  · rw [select_selecting hquiet, take_supply ha, take_register hfree]
  · exact getElem?_registered

theorem call_of_not_found {e : ClientError}
    (ha : firstItem q.endpoint q.asset ((env.plane (.getCatalog (q.lookup env.catalog))
      s.plane).1.map Catalog.items) = .error e) :
    s.call env q = (.error e,
      s.visited (env.plane (.getCatalog (q.lookup env.catalog)) s.plane).2.2
        (.returned q (.error e)) s.system.lock 6) := by
  apply call_eq (t := s.visited s.plane
    (.selecting q (s.system.cache.classify q.key env.wall)) (some s.system.callers.length) 4)
  · rw [takeAll_unregistered hopen hfree hv, take_join_missing hr hi]
  · rw [select_selecting hquiet, take_supply_error ha, take_returned rfl, hfree]
  · exact System.getElem?_visited ..

end

/-- A call that fails, or that gets a credential in store or a share in what is ongoing, leaves all but
the list of those who called as it was, and has asked for nothing unless it fails for want of an item.
Any other call adds one future, the one it returns, and registers it under the key of the request; a
request without an item is looked up once. -/
theorem call_registers_or_leaves (env : Environment σ) (q : Request) (s : Session σ)
    (hfree : s.system.shutdown = false → s.system.lock = none)
    (hquiet : q.item = none →
      (env.plane (.getCatalog (q.lookup env.catalog)) s.plane).2.1 = []) :
    let lookup := Call.getCatalog (q.lookup env.catalog)
    let answer := (env.plane (.getCatalog (q.lookup env.catalog)) s.plane).1
    let (result, t) := s.recorded.call env.recorded q
    let left := { s.system with
      callers := s.system.callers ++ [.returned q result], instant := t.system.instant }
    let calls := t.plane.2
    (s.system.shutdown = true → result = .error isShutDown ∧ calls = []) ∧
      match result with
      | .error e => t.system = left ∧
          (s.system.shutdown = true ∧ e = isShutDown ∨
            s.system.shutdown = false ∧ q.item = none ∧ calls = [lookup] ∧
              ((∃ cause, answer = .error cause ∧ e = .transport cause) ∨
                ∃ catalog, answer = .ok catalog ∧ catalog.items = [] ∧
                  e = .catalogEmpty q.endpoint Catalog.assetKey q.asset))
      | .ok (.ready c) => t.system = left ∧ calls = [] ∧
          s.system.cache.classify q.key env.wall = .valid c
      | .ok (.ongoing f) =>
          t.system = left ∧ calls = [] ∧ s.system.registry.get? q.key = some f ∨
            s.system.registry.get? q.key = none ∧ f = s.system.futures.length ∧
              ∃ item : Catalog.Item,
                t.system = { left with
                  registry := s.system.registry.insert q.key f
                  futures := s.system.futures ++ [⟨q.key, ⟨q.endpoint, q.partner, item,
                    s.system.cache.classify q.key env.wall⟩, 0, .idle, .live⟩] } ∧
                (q.item = some item ∧ calls = [] ∨
                  q.item = none ∧ calls = [lookup] ∧
                    ∃ catalog, answer = .ok catalog ∧ catalog.items.head? = some item) := by
  intro lookup answer
  -- The exits in the order in which a call comes by them.
  cases hopen : s.system.shutdown with
  | true =>
    rw [call_of_shutdown (s := s.recorded) hopen]
    exact ⟨fun _ => ⟨rfl, rfl⟩, rfl, .inl ⟨rfl, rfl⟩⟩
  | false =>
    have hlock : s.system.lock = none := hfree hopen
    by_cases hvalid : ∃ c, s.recorded.system.cache.classify q.key env.recorded.wall = .valid c
    · obtain ⟨c, hc⟩ := hvalid
      rw [call_of_valid (s := s.recorded) hopen hlock hc]
      exact ⟨nofun, rfl, rfl, hc⟩
    have hv := not_exists.1 hvalid
    cases hr : s.system.registry.get? q.key with
    | some f =>
      rw [call_of_ongoing (s := s.recorded) hopen hlock hv hr]
      exact ⟨nofun, .inl ⟨rfl, rfl, rfl⟩⟩
    | none =>
      cases hi : q.item with
      | some item =>
        rw [call_of_given (s := s.recorded) hopen hlock hv hr hi]
        exact ⟨nofun, .inr ⟨rfl, rfl, item, rfl, .inl ⟨rfl, rfl⟩⟩⟩
      | none =>
        cases ha : firstItem q.endpoint q.asset (answer.map Catalog.items) with
        | error e =>
          rw [call_of_not_found (s := s.recorded) hopen hlock hv hr hi (hquiet hi) ha]
          exact ⟨nofun, rfl, .inr ⟨rfl, rfl, rfl, firstItem_eq_error ha⟩⟩
        | ok item =>
          rw [call_of_found (s := s.recorded) hopen hlock hv hr hi (hquiet hi) ha]
          exact ⟨nofun, .inr ⟨rfl, rfl, item, rfl, .inr ⟨rfl, rfl, firstItem_eq_ok ha⟩⟩⟩

/-- Offers an item if it is `true`, and refuses otherwise. -/
def reluctant : DeliveringPlane Bool
  | .getCatalog _, false => (.error (.connect "refused"), [], false)
  | .getCatalog _, true =>
    (.ok ⟨"catalog", none, ∅, [⟨"item", ∅, [⟨"offer", .empty⟩]⟩]⟩, [], true)
  | _, s => (.error (.request "not a catalog request"), [], s)

def reluctantly : Environment Bool := ⟨System.hopeless, .default, reluctant, .ofUnix 0, 0⟩

def bareRequest : Request := ⟨"https://provider", "item", "partner", none⟩

def callReluctant (offers : Bool) : Except ClientError Ticket × Session (Bool × List Call) :=
  (Session.start 10 offers).recorded.call reluctantly.recorded bareRequest

/-- A failed lookup leaves the key free, and one that finds an item takes it. -/
theorem call_registers_or_leaves_reluctant :
    (callReluctant false).1 = .error (.transport (.connect "refused")) ∧
      (callReluctant false).2.system.registry = ∅ ∧
      (callReluctant true).1 = .ok (.ongoing 0) ∧
      (callReluctant true).2.system.registry = Dictionary.insert ∅ bareRequest.key 0 := by
  have hrefused : callReluctant false = (.error (.transport (.connect "refused")), _) :=
    call_of_not_found (s := (Session.start 10 false).recorded) rfl rfl nofun rfl rfl rfl rfl
  have hserved : callReluctant true = (.ok (.ongoing 0), _) :=
    call_of_found (s := (Session.start 10 true).recorded) rfl rfl nofun rfl rfl rfl rfl
  have hleft := call_registers_or_leaves reluctantly bareRequest (.start 10 false)
    (fun _ => rfl) (fun _ => rfl)
  have htaken := call_registers_or_leaves reluctantly bareRequest (.start 10 true)
    (fun _ => rfl) (fun _ => rfl)
  unfold callReluctant at *
  rw [hrefused] at hleft
  rw [hserved] at htaken
  rw [hrefused, hserved]
  dsimp only at hleft htaken ⊢
  refine ⟨rfl, congrArg System.registry hleft.2.1, rfl, ?_⟩
  obtain ⟨-, hshared | ⟨-, -, item, hsystem, -⟩⟩ := htaken
  · cases hshared.2.2
  · exact congrArg System.registry hsystem

end Session

end ConsumerConnector.Acquisition
