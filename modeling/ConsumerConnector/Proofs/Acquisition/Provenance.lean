import ConsumerConnector.Proofs.Acquisition.Progress

/-!
Where callers and futures come from. A future is for the key of the caller that registered it and goes
by the status that caller had found; a caller that is given a future is given one for its own key; and
a driver writes under the key of its own future.
-/

namespace ConsumerConnector.Acquisition

/-- What becomes of a caller in a step. -/
inductive Turn (s : System) (i : Nat) : Label → Caller → Prop
  | call {q : Request} {c : Caller}
      (hc : c = if s.shutdown then .returned q (.error isShutDown) else .queued q) :
      Turn s i (.call q) c
  | enter {q : Request} (hc : s.callers[i]? = some (.queued q)) : Turn s i (.enter i) (.entered q)
  | hit {q : Request} {wall : Timestamp} {c : Credential}
      (hc : s.callers[i]? = some (.entered q)) (hv : s.cache.classify q.key wall = .valid c) :
      Turn s i (.classify i wall) (.returned q (.ok (.ready c)))
  | miss {q : Request} {wall : Timestamp} {status : Credential.Status}
      (hc : s.callers[i]? = some (.entered q)) (hs : s.cache.classify q.key wall = status) :
      Turn s i (.classify i wall) (.unregistered q status)
  | share {q : Request} {status : Credential.Status} {f : Nat}
      (hc : s.callers[i]? = some (.unregistered q status)) (hr : s.registry.get? q.key = some f) :
      Turn s i (.join i) (.returned q (.ok (.ongoing f)))
  | bring {q : Request} {status : Credential.Status} {item : Catalog.Item}
      (hc : s.callers[i]? = some (.unregistered q status)) (hi : q.item = some item) :
      Turn s i (.join i) (.selected q ⟨q.endpoint, q.partner, item, status⟩)
  | search {q : Request} {status : Credential.Status}
      (hc : s.callers[i]? = some (.unregistered q status)) : Turn s i (.join i) (.selecting q status)
  | supply {q : Request} {status : Credential.Status} {answer : Except TransportError Catalog}
      {item : Catalog.Item} (hc : s.callers[i]? = some (.selecting q status))
      (ha : firstItem q.endpoint q.asset (answer.map Catalog.items) = .ok item) :
      Turn s i (.supply i answer) (.selected q ⟨q.endpoint, q.partner, item, status⟩)
  | refuse {q : Request} {answer : Except TransportError Catalog} {e : ClientError} :
      Turn s i (.supply i answer) (.returned q (.error e))
  | register {q : Request} {o : Order} (hc : s.callers[i]? = some (.selected q o)) :
      Turn s i (.register i) (.returned q (.ok (.ongoing s.futures.length)))

/-- What a caller has found in the cache for its key, once it has looked. -/
def Caller.status? : Caller → Option Credential.Status
  | .unregistered _ status | .selecting _ status => some status
  | .selected _ o => some o.status
  | _ => none

/-- A caller has found a status for its key. -/
def Classified (os : List Occurrence) (i : Nat) (q : Request) (status : Credential.Status) : Prop :=
  ∃ u wall, ⟨u, .classify i wall⟩ ∈ os ∧ u.callers[i]? = some (.entered q) ∧
    u.cache.classify q.key wall = status

/-- A caller has registered a future. -/
def Registered (os : List Occurrence) (i : Nat) (q : Request) (o : Order) (f : Nat) : Prop :=
  ∃ u, ⟨u, .register i⟩ ∈ os ∧ u.callers[i]? = some (.selected q o) ∧ u.futures.length = f

theorem Classified.mono {os os' : List Occurrence} {i : Nat} {q : Request}
    {status : Credential.Status} (h : Classified os i q status) (hsub : os ⊆ os') :
    Classified os' i q status := by
  obtain ⟨u, wall, hmem, hu⟩ := h
  exact ⟨u, wall, hsub hmem, hu⟩

theorem Registered.mono {os os' : List Occurrence} {i f : Nat} {q : Request} {o : Order}
    (h : Registered os i q o f) (hsub : os ⊆ os') : Registered os' i q o f := by
  obtain ⟨u, hmem, hu⟩ := h
  exact ⟨u, hsub hmem, hu⟩

theorem Occurrence.future_of_write? {o : Occurrence} {w : Write} {f : Nat} (h : o.write? = some w)
    (ha : w.author = some f) : ∃ F, o.state.futures[f]? = some F ∧ F.key = w.key := by
  unfold write? at h
  split at h
  · split at h
    · next hf =>
      cases h
      cases ha
      exact ⟨_, hf, rfl⟩
    · cases h
  · obtain ⟨_, -, heq⟩ := Option.map_eq_some_iff.1 h
    cases heq
    cases ha
  · cases h

namespace System

variable {setup : Setup} {storage : Nat} {s s' : System} {l : Label} {os : List Occurrence}

theorem turn_of_setCaller {i j : Nat} {c d : Caller} (ht : Turn s i l c)
    (hd : (s.setCaller i c).callers[j]? = some d) : s.callers[j]? = some d ∨ Turn s j l d := by
  rcases getElem?_setCaller hd with ⟨rfl, rfl⟩ | ⟨-, hd⟩
  · exact .inr ht
  · exact .inl hd

theorem Move.turn_cases (hm : Move setup s l s') {i : Nat} {c : Caller}
    (hc : s'.callers[i]? = some c) : s.callers[i]? = some c ∨ Turn s i l c := by
  cases hm with
  | call q =>
    rcases getElem?_call hc with hc | rfl
    · exact .inl hc
    · exact .inr (.call rfl)
  | enter h => exact turn_of_setCaller (.enter h) hc
  | hit h hv => exact turn_of_setCaller (.hit h hv) hc
  | miss h hs => exact turn_of_setCaller (.miss h hs) hc
  | share h hr => exact turn_of_setCaller (.share h hr) hc
  | bring h _ hi => exact turn_of_setCaller (.bring h hi) hc
  | search h => exact turn_of_setCaller (.search h) hc
  | supply h ha => exact turn_of_setCaller (.supply h ha) hc
  | refuse => exact turn_of_setCaller .refuse hc
  | register h => exact turn_of_setCaller (.register h) hc
  | start | work | succeed | fail | store | remove | stop => exact .inl hc
  | deliver | evict | clear | shutdown | elapse | advance => exact .inl hc

theorem Change.key_eq {f : Nat} {F F' : Future} (h : Change setup s f l F F') : F'.key = F.key := by
  cases h <;> rfl

theorem Change.order_eq {f : Nat} {F F' : Future} (h : Change setup s f l F F') :
    F'.order = F.order := by
  cases h <;> rfl

namespace History

/-- What a caller goes by is what it has found. -/
theorem classified (h : History setup (start storage) os s) {i : Nat} {c : Caller}
    {status : Credential.Status} (hc : s.callers[i]? = some c) (hs : c.status? = some status) :
    Classified os i c.request status := by
  induction h generalizing c with
  | nil => cases hc
  | @snoc os t u l _ hstep ih =>
    have hsub : os ⊆ os ++ [⟨t, l⟩] := List.subset_append_left ..
    rcases (Move.of_step hstep).turn_cases hc with hc | hturn
    · exact (ih hc hs).mono hsub
    · cases hturn with
      | call hq =>
        subst hq
        split at hs <;> cases hs
      | miss hbefore hstatus =>
        cases hs
        exact ⟨t, _, List.mem_append_right _ (List.mem_singleton.2 rfl), hbefore, hstatus⟩
      | bring hbefore | search hbefore | supply hbefore =>
        cases hs
        exact (ih hbefore rfl).mono hsub
      | enter | hit | share | refuse | register => cases hs

theorem registered_of_future (h : History setup (start storage) os s) {f : Nat} {F : Future}
    (hf : s.futures[f]? = some F) :
    ∃ i q, Registered os i q F.order f ∧ q.key = F.key ∧ Classified os i q F.order.status := by
  induction h generalizing F with
  | nil => cases hf
  | @snoc os t u l h hstep ih =>
    have hsub : os ⊆ os ++ [⟨t, l⟩] := List.subset_append_left ..
    rcases origin_of_step hstep hf with ⟨G, hG, hchange⟩ | ⟨i, q, o, rfl, hc, rfl, rfl⟩
    · obtain ⟨i, q, hr, hk, hs⟩ := ih hG
      rw [hchange.order_eq, hchange.key_eq]
      exact ⟨i, q, hr.mono hsub, hk, hs.mono hsub⟩
    · have hmem : ⟨t, .register i⟩ ∈ os ++ [⟨t, .register i⟩] := by simp
      exact ⟨i, q, ⟨t, hmem, hc, rfl⟩, rfl, (h.classified hc rfl).mono hsub⟩

theorem future_of_registered (h : History setup (start storage) os s) {i f : Nat} {q : Request}
    {o : Order} (hr : Registered os i q o f) :
    ∃ F, s.futures[f]? = some F ∧ F.key = q.key ∧ F.order = o := by
  induction h with
  | nil =>
    obtain ⟨v, hmem, -⟩ := hr
    cases hmem
  | @snoc os t u l h hstep ih =>
    obtain ⟨v, hmem, hc, hlength⟩ := hr
    rcases List.mem_append.1 hmem with hmem | hmem
    · obtain ⟨F, hF, hk, ho⟩ := ih ⟨v, hmem, hc, hlength⟩
      obtain ⟨F', hF', hchange⟩ := exists_change_of_step hstep hF
      exact ⟨F', hF', hchange.key_eq.trans hk, hchange.order_eq.trans ho⟩
    · cases List.mem_singleton.1 hmem
      cases Move.of_step hstep with
      | register hc' =>
        cases hc.symm.trans hc'
        exact ⟨_, hlength ▸ List.getElem?_concat_length, rfl, rfl⟩
      | work hl => cases hl

/-- A caller shares only what is for its own key. -/
theorem future_of_shared (h : History setup (start storage) os s) {i f : Nat} {q : Request}
    (hc : s.callers[i]? = some (.returned q (.ok (.ongoing f)))) :
    ∃ F, s.futures[f]? = some F ∧ F.key = q.key := by
  generalize hd : Caller.returned q (.ok (.ongoing f)) = d at hc
  induction h with
  | nil => cases hc
  | @snoc os t u l h hstep ih =>
    rcases (Move.of_step hstep).turn_cases hc with hbefore | hturn
    · obtain ⟨F, hF, hk⟩ := ih hbefore
      obtain ⟨F', hF', hchange⟩ := exists_change_of_step hstep hF
      exact ⟨F', hF', hchange.key_eq.trans hk⟩
    · cases hturn with
      | call hq =>
        subst hq
        split at hd <;> cases hd
      | share hbefore hr =>
        cases hd
        obtain ⟨F, hF, hk, -⟩ := (Reachable.coordinated h.runs).registered _ _ |>.1 hr
        obtain ⟨F', hF', hchange⟩ := exists_change_of_step hstep hF
        exact ⟨F', hF', hchange.key_eq.trans hk⟩
      | register hbefore =>
        cases hd
        have hreg : Registered (os ++ [⟨t, .register i⟩]) i q _ t.futures.length :=
          ⟨t, by simp, hbefore, rfl⟩
        obtain ⟨F, hF, hk, -⟩ := (h.snoc hstep).future_of_registered hreg
        exact ⟨F, hF, hk⟩
      | enter | hit | miss | bring | search | supply | refuse => cases hd

/-- The credential that a caller is given was the last one written under its key. -/
theorem lastWrite?_of_ready (h : History setup (start storage) os s) {i : Nat} {q : Request}
    {c : Credential} (hc : s.callers[i]? = some (.returned q (.ok (.ready c)))) :
    ∃ before u wall after w, os = before ++ ⟨u, .classify i wall⟩ :: after ∧
      u.callers[i]? = some (.entered q) ∧ lastWrite? before q.key = some w ∧ w.credential = c := by
  generalize hd : Caller.returned q (.ok (.ready c)) = d at hc
  induction h with
  | nil => cases hc
  | @snoc os t u l h hstep ih =>
    rcases (Move.of_step hstep).turn_cases hc with hbefore | hturn
    · obtain ⟨before, u, wall, after, w, rfl, hw⟩ := ih hbefore
      exact ⟨before, u, wall, after ++ [⟨t, l⟩], w, by simp, hw⟩
    · cases hturn with
      | call hq =>
        subst hq
        split at hd <;> cases hd
      | hit hbefore hv =>
        cases hd
        obtain ⟨e, he, hcred⟩ := Option.map_eq_some_iff.1 (Credential.Cache.get?_of_classify hv)
        obtain ⟨w, hw, hentry⟩ := h.lastWrite?_of_entry he
        exact ⟨os, t, _, [], w, rfl, hbefore, hw, by rw [← hcred, hentry, Write.entry]⟩
      | enter | share | miss | bring | search | supply | refuse | register => cases hd

/-- A driver writes under the key of its future. -/
theorem future_of_author (h : History setup (start storage) os s) {w : Write} {f : Nat}
    (hw : w ∈ os.filterMap Occurrence.write?) (ha : w.author = some f) :
    ∃ F, s.futures[f]? = some F ∧ F.key = w.key := by
  induction h with
  | nil => cases hw
  | @snoc os t u l h hstep ih =>
    have hthere : ∃ F, t.futures[f]? = some F ∧ F.key = w.key := by
      rw [List.filterMap_append, List.mem_append] at hw
      rcases hw with hw | hw
      · exact ih hw
      · obtain ⟨o, ho, hw⟩ := List.mem_filterMap.1 hw
        cases List.mem_singleton.1 ho
        exact Occurrence.future_of_write? hw ha
    obtain ⟨F, hF, hk⟩ := hthere
    obtain ⟨F', hF', hchange⟩ := exists_change_of_step hstep hF
    exact ⟨F', hF', hchange.key_eq.trans hk⟩

end History

end System

end ConsumerConnector.Acquisition
