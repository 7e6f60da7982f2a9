import ConsumerConnector.Acquisition.System

/-!
What every step of a system finds and what it changes, and the runs that steps make up. Later modules
go by cases on moves and never look into the step function again.
-/

namespace ConsumerConnector.Acquisition

namespace Work

/-- Started, and not yet done. -/
def IsBusy (w : Work) : Prop :=
  w ≠ .idle ∧ w.result? = none

end Work

/-- The future whose work a step carries on. -/
def Label.worker? : Label → Option Nat
  | .answer f _ | .pause f | .look f | .inspect f | .conclude f => some f
  | _ => none

namespace System

@[simp] theorem getElem?_setWork (s : System) (f : Nat) (work : Work) (g : Nat) :
    (s.setWork f work).futures[g]? =
      if f = g then (s.futures[g]?).map ({ · with work }) else s.futures[g]? := by
  simp only [setWork, List.getElem?_modify]
  split <;> simp

@[simp] theorem getElem?_setDriver (s : System) (f : Nat) (driver : Driver) (g : Nat) :
    (s.setDriver f driver).futures[g]? =
      if f = g then (s.futures[g]?).map ({ · with driver }) else s.futures[g]? := by
  simp only [setDriver, List.getElem?_modify]
  split <;> simp

inductive Move (setup : Setup) (s : System) : Label → System → Prop
  | call (q : Request) : Move setup s (.call q) (s.call q)
  | enter {i : Nat} {q : Request} (hc : s.callers[i]? = some (.queued q)) (hl : s.lock = none) :
      Move setup s (.enter i) { s.setCaller i (.entered q) with lock := some i }
  | hit {i : Nat} {q : Request} {wall : Timestamp} {c : Credential}
      (hc : s.callers[i]? = some (.entered q)) (hv : s.cache.classify q.key wall = .valid c) :
      Move setup s (.classify i wall) (s.leave i q (.ok (.ready c)))
  | miss {i : Nat} {q : Request} {wall : Timestamp} {status : Credential.Status}
      (hc : s.callers[i]? = some (.entered q)) (hs : s.cache.classify q.key wall = status)
      (hv : ∀ c, status ≠ .valid c) :
      Move setup s (.classify i wall) (s.setCaller i (.unregistered q status))
  | share {i : Nat} {q : Request} {status : Credential.Status} {f : Nat}
      (hc : s.callers[i]? = some (.unregistered q status)) (hr : s.registry.get? q.key = some f) :
      Move setup s (.join i) (s.leave i q (.ok (.ongoing f)))
  | bring {i : Nat} {q : Request} {status : Credential.Status} {item : Catalog.Item}
      (hc : s.callers[i]? = some (.unregistered q status)) (hr : s.registry.get? q.key = none)
      (hi : q.item = some item) :
      Move setup s (.join i) (s.setCaller i (.selected q ⟨q.endpoint, q.partner, item, status⟩))
  | search {i : Nat} {q : Request} {status : Credential.Status}
      (hc : s.callers[i]? = some (.unregistered q status)) (hr : s.registry.get? q.key = none)
      (hi : q.item = none) :
      Move setup s (.join i) (s.setCaller i (.selecting q status))
  | supply {i : Nat} {q : Request} {status : Credential.Status}
      {answer : Except TransportError Catalog} {item : Catalog.Item}
      (hc : s.callers[i]? = some (.selecting q status))
      (ha : firstItem q.endpoint q.asset (answer.map Catalog.items) = .ok item) :
      Move setup s (.supply i answer)
        (s.setCaller i (.selected q ⟨q.endpoint, q.partner, item, status⟩))
  | refuse {i : Nat} {q : Request} {status : Credential.Status}
      {answer : Except TransportError Catalog} {e : ClientError}
      (hc : s.callers[i]? = some (.selecting q status))
      (ha : firstItem q.endpoint q.asset (answer.map Catalog.items) = .error e) :
      Move setup s (.supply i answer) (s.leave i q (.error e))
  | register {i : Nat} {q : Request} {o : Order} (hc : s.callers[i]? = some (.selected q o)) :
      Move setup s (.register i) { s.leave i q (.ok (.ongoing s.futures.length)) with
        registry := s.registry.insert q.key s.futures.length
        futures := s.futures ++ [⟨q.key, o, 0, .idle, .live⟩] }
  | start {f : Nat} {key : String} {o : Order} {since : Nat} {driver : Driver}
      (hf : s.futures[f]? = some ⟨key, o, since, .idle, driver⟩) :
      Move setup s (.start f) { s with
        futures := s.futures.set f
          ⟨key, o, s.instant, .running (ExceptT.run (setup.task o s.instant)), driver⟩ }
  | work {l : Label} {f : Nat} {w work : Work} (hl : l.worker? = some f) (hw : s.work? f = some w)
      (hb : w.IsBusy) : Move setup s l (s.setWork f work)
  | succeed {f : Nat} {c : Credential} (hd : s.driver? f = some .live)
      (hr : (s.work? f).bind Work.result? = some (.ok c)) :
      Move setup s (.notice f) (s.setDriver f (.storing c))
  | fail {f : Nat} {e : ClientError} (hd : s.driver? f = some .live)
      (hr : (s.work? f).bind Work.result? = some (.error e)) :
      Move setup s (.notice f) (s.setDriver f .removing)
  | store {f : Nat} {key : String} {o : Order} {since : Nat} {w : Work} {c : Credential}
      (hf : s.futures[f]? = some ⟨key, o, since, w, .storing c⟩) :
      Move setup s (.store f) { s.setDriver f .removing with cache := s.cache.put key c s.instant }
  | remove {f : Nat} {key : String} {o : Order} {since : Nat} {w : Work}
      (hf : s.futures[f]? = some ⟨key, o, since, w, .removing⟩) :
      Move setup s (.remove f) { s.setDriver f .gone with registry := s.registry.erase key }
  | stop {f : Nat} (hd : s.driver? f = some .live) (hs : s.shutdown = true) :
      Move setup s (.stop f) (s.setDriver f .removing)
  | deliver (d : Credential.Delivery) :
      Move setup s (.deliver d) { s with cache := d.apply s.cache s.instant }
  | evict (key : String) : Move setup s (.evict key) { s with cache := s.cache.remove key }
  | clear : Move setup s .clear { s with cache := s.cache.clear }
  | shutdown : Move setup s .shutdown { s with shutdown := true }
  | elapse (n : Nat) : Move setup s (.elapse n) { s with instant := s.instant + n }
  | advance (ms : Nat) : Move setup s (.advance ms) { s with now := s.now + ms }

namespace Move

variable {setup : Setup} {s s' : System}

theorem of_enter {i : Nat} (h : s.enter? i = some s') : Move setup s (.enter i) s' := by
  unfold enter? at h
  split at h
  · next q hc hl => exact Option.some.inj h ▸ .enter hc hl
  · cases h

theorem of_classify {i : Nat} {wall : Timestamp} (h : s.classify? i wall = some s') :
    Move setup s (.classify i wall) s' := by
  unfold classify? at h
  split at h
  · next q hc =>
    split at h
    · next c hv => exact Option.some.inj h ▸ .hit hc hv
    · next hv => exact Option.some.inj h ▸ .miss hc rfl hv
  · cases h

theorem of_join {i : Nat} (h : s.join? i = some s') : Move setup s (.join i) s' := by
  unfold join? at h
  split at h
  · next q status hc =>
    split at h
    · next f hr => exact Option.some.inj h ▸ .share hc hr
    · next item hr hi => exact Option.some.inj h ▸ .bring hc hr hi
    · next hr hi => exact Option.some.inj h ▸ .search hc hr hi
  · cases h

theorem of_supply {i : Nat} {answer : Except TransportError Catalog}
    (h : s.supply? i answer = some s') : Move setup s (.supply i answer) s' := by
  unfold supply? at h
  split at h
  · next q status hc =>
    split at h
    · next item ha => exact Option.some.inj h ▸ .supply hc ha
    · next e ha => exact Option.some.inj h ▸ .refuse hc ha
  · cases h

theorem of_register {i : Nat} (h : s.register? i = some s') : Move setup s (.register i) s' := by
  unfold register? at h
  split at h
  · next q o hc => exact Option.some.inj h ▸ .register hc
  · cases h

theorem of_start {f : Nat} (h : s.start? setup f = some s') : Move setup s (.start f) s' := by
  unfold start? at h
  split at h
  · next hf => exact Option.some.inj h ▸ .start hf
  · cases h

theorem of_answer {f : Nat} {reply : (c : Call) → c.Reply} (h : s.answer? f reply = some s') :
    Move setup s (.answer f reply) s' := by
  unfold answer? at h
  split at h
  · next hw => exact Option.some.inj h ▸ .work rfl hw ⟨nofun, rfl⟩
  · next hw => exact Option.some.inj h ▸ .work rfl hw ⟨nofun, rfl⟩
  · cases h

theorem of_pause {f : Nat} (h : s.pause? f = some s') : Move setup s (.pause f) s' := by
  unfold pause? at h
  split at h
  · next hw => exact Option.some.inj h ▸ .work rfl hw ⟨nofun, rfl⟩
  · cases h

theorem of_look {f : Nat} (h : s.look? f = some s') : Move setup s (.look f) s' := by
  unfold look? at h
  split at h
  · next hw =>
    split at h
    · cases h
    · split at h
      · exact Option.some.inj h ▸ .work rfl hw ⟨nofun, rfl⟩
      · exact Option.some.inj h ▸ .work rfl hw ⟨nofun, rfl⟩
  · cases h

theorem of_inspect {f : Nat} (h : s.inspect? f = some s') : Move setup s (.inspect f) s' := by
  unfold inspect? at h
  split at h
  · next hw => exact Option.some.inj h ▸ .work rfl hw ⟨nofun, rfl⟩
  · cases h

theorem of_conclude {f : Nat} (h : s.conclude? f = some s') : Move setup s (.conclude f) s' := by
  unfold conclude? at h
  split at h
  · next hw =>
    split at h
    · exact Option.some.inj h ▸ .work rfl hw ⟨nofun, rfl⟩
    · exact Option.some.inj h ▸ .work rfl hw ⟨nofun, rfl⟩
  · cases h

theorem of_notice {f : Nat} (h : s.notice? f = some s') : Move setup s (.notice f) s' := by
  unfold notice? at h
  split at h
  · next c hd hr => exact Option.some.inj h ▸ .succeed hd hr
  · next e hd hr => exact Option.some.inj h ▸ .fail hd hr
  · cases h

theorem of_store {f : Nat} (h : s.store? f = some s') : Move setup s (.store f) s' := by
  unfold store? at h
  split at h
  · next hf => exact Option.some.inj h ▸ .store hf
  · cases h

theorem of_remove {f : Nat} (h : s.remove? f = some s') : Move setup s (.remove f) s' := by
  unfold remove? at h
  split at h
  · next hf => exact Option.some.inj h ▸ .remove hf
  · cases h

theorem of_stop {f : Nat} (h : s.stop? f = some s') : Move setup s (.stop f) s' := by
  unfold stop? at h
  split at h
  · next hd =>
    split at h
    · next hs => exact Option.some.inj h ▸ .stop hd hs
    · cases h
  · cases h

theorem of_step {l : Label} (h : s.step setup l = some s') : Move setup s l s' := by
  cases l with
  | call q => exact Option.some.inj h ▸ .call q
  | enter i => exact of_enter h
  | classify i wall => exact of_classify h
  | join i => exact of_join h
  | supply i answer => exact of_supply h
  | register i => exact of_register h
  | start f => exact of_start h
  | answer f reply => exact of_answer h
  | pause f => exact of_pause h
  | look f => exact of_look h
  | inspect f => exact of_inspect h
  | conclude f => exact of_conclude h
  | notice f => exact of_notice h
  | store f => exact of_store h
  | remove f => exact of_remove h
  | stop f => exact of_stop h
  | deliver d => exact Option.some.inj h ▸ .deliver d
  | evict key => exact Option.some.inj h ▸ .evict key
  | clear => exact Option.some.inj h ▸ .clear
  | shutdown => exact Option.some.inj h ▸ .shutdown
  | elapse n => exact Option.some.inj h ▸ .elapse n
  | advance ms => exact Option.some.inj h ▸ .advance ms

end Move

/-- Steps one after the other, each of them allowed where it is taken. -/
inductive Runs (setup : Setup) (allowed : System → Label → System → Prop) (s : System) :
    System → Prop
  | refl : Runs setup allowed s s
  | tail {t u : System} {l : Label} (h : Runs setup allowed s t) (hs : t.step setup l = some u)
      (ha : allowed t l u) : Runs setup allowed s u

/-- What steps of any kind lead to, from an empty cache of the given storage duration on. -/
def Reachable (setup : Setup) (storage : Nat) (s : System) : Prop :=
  Runs setup (fun _ _ _ => True) (start storage) s

namespace Runs

variable {setup : Setup} {allowed : System → Label → System → Prop} {s t u : System}

theorem trans (h : Runs setup allowed s t) (h' : Runs setup allowed t u) :
    Runs setup allowed s u := by
  induction h' with
  | refl => exact h
  | tail _ hs ha ih => exact .tail ih hs ha

theorem invariant {P : System → Prop} (h : Runs setup allowed s t) (hs : P s)
    (hstep : ∀ {s l s'}, P s → Move setup s l s' → allowed s l s' → P s') : P t := by
  induction h with
  | refl => exact hs
  | tail _ hstep' ha ih => exact hstep ih (.of_step hstep') ha

end Runs

/-- Takes steps one after the other, `none` if one of them is not possible. -/
def run? (setup : Setup) (s : System) : List Label → Option System
  | [] => some s
  | l :: ls => (s.step setup l).bind (run? setup · ls)

theorem Runs.of_run? {setup : Setup} {s t : System} {ls : List Label}
    (h : s.run? setup ls = some t) : Runs setup (fun _ _ _ => True) s t := by
  induction ls generalizing s with
  | nil =>
    cases h
    exact .refl
  | cons l ls ih =>
    obtain ⟨u, hu, hrest⟩ := Option.bind_eq_some_iff.1 h
    exact (Runs.tail .refl hu trivial).trans (ih hrest)

end System

end ConsumerConnector.Acquisition
