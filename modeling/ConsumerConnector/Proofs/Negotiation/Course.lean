import ConsumerConnector.Negotiation.Run

/-!
The courses a task can take. A control plane may reply anything to a call, or not reply at all, and
calls may take any time, so a wait may find its time up before any of its looks. A course may be cut
off everywhere: what holds of all courses holds all the while.
-/

namespace ConsumerConnector

inductive Event
  /-- A call, which may still be in flight. -/
  | sent (c : Call) (reply : Option c.Reply)
  | late (w : Wait)

def Event.isSent : Event → Bool
  | sent .. => true
  | late _ => false

/-- A result that is there and no failure. -/
def Succeeds {ε α : Type} (result : Option (Except ε α)) : Prop :=
  ∃ a, result = some (.ok a)

theorem mapError_eq_ok {ε ε' α : Type} {f : ε → ε'} {r : Except ε α} {a : α} :
    r.mapError f = .ok a ↔ r = .ok a := by
  cases r with
  | ok b =>
    constructor
    · intro h
      exact congrArg Except.ok (Except.ok.inj h)
    · intro h
      exact congrArg Except.ok (Except.ok.inj h)
  | error e => exact iff_of_false nofun nofun

theorem succeeds_map_mapError {ε ε' α : Type} {f : ε → ε'} {result : Option (Except ε α)} :
    Succeeds (result.map (·.mapError f)) ↔ Succeeds result := by
  simp [Succeeds, mapError_eq_ok]

namespace Program

variable {Op E : Type} {Reply : Op → Type} {α β ε : Type}

/-- A course of a program, with the result unless it is cut off. What is to be seen of an operation is
left to `shows`. -/
inductive Course (shows : (op : Op) → List E → Option (Reply op) → Prop) :
    Program Op Reply α → List E → Option α → Prop
  | cut (p : Program Op Reply α) : Course shows p [] none
  | done (a : α) : Course shows (.done a) [] (some a)
  | caught {op : Op} {next : Reply op → Program Op Reply α} {es : List E} (h : shows op es none) :
      Course shows (.perform op next) es none
  | step {op : Op} {next : Reply op → Program Op Reply α} {r : Reply op} {es es' : List E}
      {result : Option α} (h : shows op es (some r)) (h' : Course shows (next r) es' result) :
      Course shows (.perform op next) (es ++ es') result

namespace Course

variable {shows : (op : Op) → List E → Option (Reply op) → Prop} {es : List E}

theorem of_done {a : α} {result : Option α}
    (h : Course shows (.done a : Program Op Reply α) es result) :
    es = [] ∧ (result = none ∨ result = some a) := by
  cases h with
  | cut => exact ⟨rfl, .inl rfl⟩
  | done => exact ⟨rfl, .inr rfl⟩

theorem of_pure {a : α} {result : Option (Except ε α)}
    (h : Course shows (ExceptT.run (pure a : ExceptT ε (Program Op Reply) α)) es result) :
    es = [] ∧ (result = none ∨ result = some (.ok a)) := of_done h

theorem of_throw {e : ε} {result : Option (Except ε α)}
    (h : Course shows (ExceptT.run (throw e : ExceptT ε (Program Op Reply) α)) es result) :
    es = [] ∧ ¬ Succeeds result := by
  obtain ⟨rfl, hresult⟩ := of_done h
  refine ⟨rfl, ?_⟩
  rcases hresult with rfl | rfl <;> nofun

theorem bind_cases {p : Program Op Reply α} {f : α → Program Op Reply β} {result : Option β}
    (h : Course shows (p.bind f) es result) :
    (Course shows p es none ∧ result = none) ∨
      ∃ a early late, es = early ++ late ∧ Course shows p early (some a) ∧
        Course shows (f a) late result := by
  induction p generalizing es with
  | done a => exact .inr ⟨a, [], es, rfl, .done a, h⟩
  | perform op next ih =>
    cases h with
    | cut => exact .inl ⟨.cut _, rfl⟩
    | caught h => exact .inl ⟨.caught h, rfl⟩
    | @step _ _ r first rest _ h h' =>
      rcases ih r h' with ⟨hcut, rfl⟩ | ⟨a, early, late, rfl, hearly, hlate⟩
      · exact .inl ⟨.step h hcut, rfl⟩
      · exact .inr ⟨a, first ++ early, late, (List.append_assoc ..).symm, .step h hearly, hlate⟩

/-- What follows a program that may fail is entered only if it succeeds. -/
theorem andThen_cases {p : ExceptT ε (Program Op Reply) α}
    {f : α → ExceptT ε (Program Op Reply) β} {result : Option (Except ε β)}
    (h : Course shows (p >>= f).run es result) :
    (∃ result', Course shows p.run es result' ∧ ¬ Succeeds result') ∧ ¬ Succeeds result ∨
      ∃ a early late, es = early ++ late ∧ Course shows p.run early (some (.ok a)) ∧
        Course shows (f a).run late result := by
  rcases bind_cases h with ⟨hcut, rfl⟩ | ⟨r, early, late, rfl, hearly, hlate⟩
  · exact .inl ⟨⟨none, hcut, nofun⟩, nofun⟩
  · cases r with
    | ok a => exact .inr ⟨a, early, late, rfl, hearly, hlate⟩
    | error e =>
      obtain ⟨rfl, hfail⟩ := of_throw (e := e) hlate
      exact .inl ⟨⟨some (.error e), (List.append_nil early).symm ▸ hearly, nofun⟩, hfail⟩

theorem operation_cases {op : Op} {seen : Option (Reply op) → List E}
    {read : Reply op → Except ε α} {f : α → ExceptT ε (Program Op Reply) β}
    {result : Option (Except ε β)} (hseen : ∀ {es reply}, shows op es reply → es = seen reply)
    (h : Course shows (ExceptT.run (.mk (.perform op fun r => .done (read r)) >>= f)) es result) :
    (es = [] ∧ ¬ Succeeds result) ∨
      (∃ reply, es = seen reply ∧ ¬ Succeeds (reply.map read) ∧ ¬ Succeeds result) ∨
      ∃ r a rest, read r = .ok a ∧ es = seen (some r) ++ rest ∧
        Course shows (ExceptT.run (f a)) rest result := by
  cases h with
  | cut => exact .inl ⟨rfl, nofun⟩
  | caught h => exact .inr (.inl ⟨none, hseen h, nofun, nofun⟩)
  | @step _ _ r _ rest _ h h' =>
    obtain rfl := hseen h
    replace h' : Course shows ((Program.done (read r) : Program Op Reply _).bind
      (ExceptT.bindCont f)) rest result := h'
    cases hr : read r with
    | ok a =>
      rw [hr] at h'
      exact .inr (.inr ⟨r, a, rest, hr, rfl, h'⟩)
    | error e =>
      rw [hr] at h'
      obtain ⟨rfl, hfail⟩ := of_throw (e := e) h'
      refine .inr (.inl ⟨some r, List.append_nil _, ?_, hfail⟩)
      simp [Succeeds, hr]

/-- If every operation logs what is kept of what is to be seen of it, so does a run. -/
theorem of_run {σ : Type} {answer : (op : Op) → σ → Reply op × σ} {keep : E → Bool}
    (log : σ → List E)
    (hanswer : ∀ op s, ∃ es, shows op es (some (answer op s).1) ∧
      log (answer op s).2 = log s ++ es.filter keep) (p : Program Op Reply α) (s : σ) :
    ∃ es, Course shows p es (some (p.run answer s).1) ∧
      log (p.run answer s).2 = log s ++ es.filter keep := by
  induction p generalizing s with
  | done a => exact ⟨[], .done a, (List.append_nil _).symm⟩
  | perform op next ih =>
    obtain ⟨first, hfirst, hlog⟩ := hanswer op s
    obtain ⟨rest, hrest, hlog'⟩ := ih (answer op s).1 (answer op s).2
    refine ⟨first ++ rest, .step hfirst hrest, ?_⟩
    calc
      log (run answer (.perform op next) s).2 = log (answer op s).2 ++ rest.filter keep := hlog'
      _ = log s ++ (first ++ rest).filter keep := by rw [hlog, List.filter_append, List.append_assoc]

end Course

end Program

/-- Remembers all calls with their replies. -/
def Answering.recorded {σ : Type} (answer : Answering σ) : Answering (σ × List Event)
  | .call c, (s, es) =>
    let (r, s) := answer (.call c) s
    (r, s, es ++ [.sent c (some r)])
  | .stored contract since, (s, es) =>
    let (found, s) := answer (.stored contract since) s
    (found, s, es)

/-- What is to be seen of a query: a look at what is stored is not seen. -/
inductive Query.Course : (q : Query) → List Event → Option q.Reply → Prop
  | sent (c : Call) (reply : Option c.Reply) : Course (.call c) [.sent c reply] reply
  | stored (contract : String) (since : Nat) (found : Option Credential) :
      Course (.stored contract since) [] (some found)

namespace Look

variable {α β : Type} {es : List Event}

abbrev Course (l : Look α) : List Event → Option (Except ClientError α) → Prop :=
  Program.Course Query.Course (ExceptT.run l)

theorem Course.of_call_andThen {c : Call} {f : c.Answer → Look β}
    {result : Option (Except ClientError β)} (h : (call c >>= f).Course es result) :
    (es = [] ∧ ¬ Succeeds result) ∨
      (∃ reply, es = [.sent c reply] ∧ ¬ Succeeds reply ∧ ¬ Succeeds result) ∨
      ∃ a rest, es = .sent c (some (.ok a)) :: rest ∧ (f a).Course rest result := by
  have hseen : ∀ {es} {reply : Option c.Reply}, Query.Course (.call c) es reply →
      es = [.sent c reply] := by
    intro es reply h
    cases h
    rfl
  rcases Program.Course.operation_cases hseen h with
    hcut | ⟨reply, rfl, hreply, hresult⟩ | ⟨r, a, rest, hr, rfl, hrest⟩
  · exact .inl hcut
  · exact .inr (.inl ⟨reply, rfl, mt succeeds_map_mapError.2 hreply, hresult⟩)
  · obtain rfl := mapError_eq_ok.1 hr
    exact .inr (.inr ⟨a, rest, rfl, hrest⟩)

theorem exists_course {σ : Type} (answer : Answering σ) (l : Look α) (s : σ × List Event) :
    ∃ es, l.Course es (some (Program.run answer.recorded (ExceptT.run l) s).1) ∧
      (Program.run answer.recorded (ExceptT.run l) s).2.2 = s.2 ++ es.filter Event.isSent := by
  refine Program.Course.of_run Prod.snd (fun q s => ?_) _ s
  cases q with
  | call c => exact ⟨_, .sent c _, rfl⟩
  | stored contract since => exact ⟨[], .stored contract since _, (List.append_nil _).symm⟩

end Look

namespace Wait

/-- Looks that find nothing are followed by others until time is up. -/
inductive Course (w : Wait) (limits : Limits) :
    List Event → Option (Except ClientError w.Result) → Prop
  | cut : Course w limits [] none
  | late : Course w limits [.late w] (some (.error (limits.plan w).timeout))
  | caught {es : List Event} (h : w.look.Course es none) : Course w limits es none
  | found {es : List Event} {a : w.Result} (h : w.look.Course es (some (.ok (some a)))) :
      Course w limits es (some (.ok a))
  | failed {es : List Event} {e : ClientError} (h : w.look.Course es (some (.error e))) :
      Course w limits es (some (.error e))
  | again {es es' : List Event} {result : Option (Except ClientError w.Result)}
      (h : w.look.Course es (some (.ok none))) (h' : Course w limits es' result) :
      Course w limits (es ++ es') result

theorem Course.of_found {w : Wait} {limits : Limits} {es : List Event} {a : w.Result}
    (h : w.Course limits es (some (.ok a))) :
    ∃ early last, es = early ++ last ∧ w.look.Course last (some (.ok (some a))) := by
  generalize hresult : some (Except.ok a) = result at h
  induction h with
  | cut | late | caught | failed => cases hresult
  | found h =>
    cases hresult
    exact ⟨[], _, rfl, h⟩
  | @again es _ _ _ _ ih =>
    obtain ⟨early, last, rfl, hlast⟩ := ih hresult
    exact ⟨es ++ early, last, (List.append_assoc ..).symm, hlast⟩

theorem exists_course {σ : Type} (answer : Answering σ) (limits : Limits) (w : Wait)
    (started left : Nat) (s : Clocked (σ × List Event)) :
    ∃ es, w.Course limits es (some (watch answer.recorded limits w started left s).1) ∧
      (watch answer.recorded limits w started left s).2.state.2 =
        s.state.2 ++ es.filter Event.isSent := by
  induction left generalizing s with
  | zero => exact ⟨[.late w], .late, (List.append_nil _).symm⟩
  | succ left ih =>
    unfold watch
    split
    · exact ⟨[.late w], .late, (List.append_nil _).symm⟩
    · obtain ⟨es, hes, hlog⟩ := w.look.exists_course answer s.state
      generalize Program.run answer.recorded (ExceptT.run w.look) s.state = run at hes hlog ⊢
      obtain ⟨seen, state⟩ := run
      match seen with
      | .ok none =>
        obtain ⟨rest, hrest, hlog'⟩ := ih ⟨state, _⟩
        refine ⟨es ++ rest, .again hes hrest, hlog'.trans ?_⟩
        rw [hlog, List.filter_append, List.append_assoc]
      | .ok (some a) => exact ⟨es, .found hes, hlog⟩
      | .error e => exact ⟨es, .failed hes, hlog⟩

end Wait

inductive Action.Course : (a : Action) → List Event → Option a.Reply → Prop
  | sent (c : Call) (reply : Option c.Reply) : Course (.call c) [.sent c reply] reply
  | wait {w : Wait} {limits : Limits} {es : List Event}
      {reply : Option (Except ClientError w.Result)} (h : w.Course limits es reply) :
      Course (.wait w limits) es reply

namespace Task

variable {α β : Type} {es : List Event}

abbrev Course (t : Task α) : List Event → Option (Except ClientError α) → Prop :=
  Program.Course Action.Course (ExceptT.run t)

namespace Course

theorem of_fail {e : ClientError} {result : Option (Except ClientError α)}
    (h : (fail e : Task α).Course es result) : es = [] ∧ ¬ Succeeds result :=
  Program.Course.of_throw h

theorem of_fail_andThen {e : ClientError} {f : α → Task β} {result : Option (Except ClientError β)}
    (h : (fail e >>= f).Course es result) : es = [] ∧ ¬ Succeeds result :=
  of_fail (e := e) h

theorem of_call_andThen {c : Call} {f : c.Answer → Task β} {result : Option (Except ClientError β)}
    (h : (call c >>= f).Course es result) :
    (es = [] ∧ ¬ Succeeds result) ∨
      (∃ reply, es = [.sent c reply] ∧ ¬ Succeeds reply ∧ ¬ Succeeds result) ∨
      ∃ a rest, es = .sent c (some (.ok a)) :: rest ∧ (f a).Course rest result := by
  have hseen : ∀ {es} {reply : Option c.Reply}, Action.Course (.call c) es reply →
      es = [.sent c reply] := by
    intro es reply h
    cases h
    rfl
  rcases Program.Course.operation_cases hseen h with
    hcut | ⟨reply, rfl, hreply, hresult⟩ | ⟨r, a, rest, hr, rfl, hrest⟩
  · exact .inl hcut
  · exact .inr (.inl ⟨reply, rfl, mt succeeds_map_mapError.2 hreply, hresult⟩)
  · obtain rfl := mapError_eq_ok.1 hr
    exact .inr (.inr ⟨a, rest, rfl, hrest⟩)

theorem of_wait {w : Wait} {limits : Limits} {result : Option (Except ClientError w.Result)}
    (h : (wait w limits).Course es result) :
    ∃ result', w.Course limits es result' ∧ ∀ a, result = some (.ok a) → result' = some (.ok a) := by
  cases h with
  | cut => exact ⟨none, .cut, nofun⟩
  | caught h =>
    cases h with
    | wait h => exact ⟨none, h, nofun⟩
  | @step _ _ r _ _ _ h h' =>
    cases h with
    | wait h =>
      obtain ⟨rfl, hresult⟩ := Program.Course.of_done h'
      refine ⟨some r, (List.append_nil _).symm ▸ h, fun a ha => ?_⟩
      rcases hresult with rfl | rfl
      · cases ha
      · exact ha

theorem of_await {w : Wait} {ttl interval : Nat} {result : Option (Except ClientError w.Result)}
    (h : (await w ttl interval).Course es result) :
    (es = [] ∧ ¬ Succeeds result) ∨
      ∃ limits result', w.Course limits es result' ∧
        ∀ a, result = some (.ok a) → result' = some (.ok a) := by
  unfold await at h
  split at h
  · next limits _ => exact .inr ⟨limits, of_wait h⟩
  · exact .inl (of_fail h)

theorem of_onTimeout {t : Task α} {failure : ClientError → ClientError}
    {result : Option (Except ClientError α)} (h : (t.onTimeout failure).Course es result) :
    ∃ result', t.Course es result' ∧ ∀ a, result = some (.ok a) → result' = some (.ok a) := by
  rcases Program.Course.bind_cases (p := ExceptT.run t) h with
    ⟨hcut, rfl⟩ | ⟨r, early, late, rfl, hearly, hlate⟩
  · exact ⟨none, hcut, nofun⟩
  · refine ⟨some r, ?_⟩
    cases r with
    | ok a =>
      obtain ⟨rfl, hresult⟩ := Program.Course.of_done hlate
      refine ⟨(List.append_nil early).symm ▸ hearly, fun b hb => ?_⟩
      rcases hresult with rfl | rfl
      · cases hb
      · exact hb
    | error e =>
      have hfail : late = [] ∧ ¬ Succeeds result := by
        cases e <;> exact of_fail hlate
      obtain ⟨rfl, hfail⟩ := hfail
      exact ⟨(List.append_nil early).symm ▸ hearly, fun b hb => (hfail ⟨b, hb⟩).elim⟩

end Course

/-- What a run of a task records is one of its courses. -/
theorem exists_course {σ : Type} (answer : Answering σ) (t : Task α) (s : Clocked (σ × List Event)) :
    ∃ es, t.Course es (some (t.run answer.recorded s).1) ∧
      (t.run answer.recorded s).2.state.2 = s.state.2 ++ es.filter Event.isSent := by
  refine Program.Course.of_run (fun s => s.state.2) (fun a s => ?_) _ s
  cases a with
  | call c => exact ⟨_, .sent c _, rfl⟩
  | wait w limits =>
    obtain ⟨es, hes, hlog⟩ := w.exists_course answer limits s.now limits.maxLooks s
    exact ⟨es, .wait hes, hlog⟩

end Task

end ConsumerConnector
