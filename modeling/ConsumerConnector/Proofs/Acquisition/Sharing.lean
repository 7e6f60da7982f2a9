import ConsumerConnector.Proofs.Acquisition.Registry

/-!
Who comes after a future is resolved shares it, or gets the credential from the cache once the driver
has stored it there. The cache is looked at before the registry, and the driver writes them in the
same order, so both looks may come too early for the one and too late for the other.
-/

namespace ConsumerConnector.Acquisition

namespace System

/-- What a driver has done so far for a future that has come to a credential. -/
def Keeps (s : System) (key : String) (c : Credential) : Driver → Prop
  | .live => True
  | .storing d => d = c
  | .removing | .gone => s.cache.get? key = some c

def HasResolved (s : System) (key : String) (f : Nat) (c : Credential) : Prop :=
  ∃ F, s.futures[f]? = some F ∧ F.key = key ∧ F.work.result? = some (.ok c) ∧
    s.Keeps key c F.driver

/-- A caller gets the credential or shares the future, if it has not got anything else so far. -/
def Serves (s : System) (f : Nat) (c : Credential) : Caller → Prop
  | .queued _ | .entered _ => True
  | .unregistered .. => s.driver? f ≠ some .gone
  | .selecting .. | .selected .. => False
  | .returned _ result => result = .ok (.ready c) ∨ result = .ok (.ongoing f)

/-- Steps after which the credential of `f` is still what the cache has for the key, while it is
valid, and of which none takes the key off the registry between the two looks of a caller that has
come as number `n` or later. -/
structure Undisturbed (key : String) (f : Nat) (c : Credential) (n : Nat) (s : System) (l : Label)
    (s' : System) : Prop where
  isOpen : l ≠ .shutdown
  kept : l ≠ .store f → s'.cache.get? key = s.cache.get? key
  unexpired : ∀ i wall, l = .classify i wall → c.status wall = .valid c ∧
    ∀ d, s.cache.classify key wall = .valid d → d = c
  timely : l = .remove f → ∀ i q status, n ≤ i → s.callers[i]? = some (.unregistered q status) →
    q.key ≠ key

structure Settled (key : String) (f : Nat) (c : Credential) (n : Nat) (s : System) : Prop where
  coordinated : Coordinated s
  isOpen : s.shutdown = false
  resolved : s.HasResolved key f c
  served : ∀ i d, n ≤ i → s.callers[i]? = some d → d.request.key = key → s.Serves f c d

variable {setup : Setup} {s s' : System} {l : Label} {key : String} {f n : Nat} {c : Credential}

/-- A future that has come to a credential only changes with its driver. -/
theorem Move.future_cases {F : Future} (hm : Move setup s l s') (hf : s.futures[f]? = some F)
    (hr : F.work.result? = some (.ok c)) :
    (l ≠ .store f ∧ s'.futures[f]? = some F) ∨
      (l = .notice f ∧ s'.futures[f]? = some { F with driver := .storing c }) ∨
      (l = .store f ∧ ∃ d, F.driver = .storing d ∧
        s'.futures[f]? = some { F with driver := .removing } ∧
        s'.cache = s.cache.put F.key d s.instant) ∨
      (l = .remove f ∧ F.driver = .removing ∧ s'.futures[f]? = some { F with driver := .gone }) ∨
      s.shutdown = true := by
  cases hm with
  | call | enter | hit | miss | share | bring | search | supply | refuse => exact .inl ⟨by simp, hf⟩
  | deliver | evict | clear | shutdown | elapse | advance => exact .inl ⟨by simp, hf⟩
  | register =>
    have hlt : f < s.futures.length := (List.getElem?_eq_some_iff.1 hf).1
    exact .inl ⟨by simp, (List.getElem?_append_left hlt).trans hf⟩
  | @start g _ _ _ _ hg =>
    by_cases hgf : g = f
    · subst hgf
      cases hg.symm.trans hf
      cases hr
    · exact .inl ⟨by simp, (List.getElem?_set_ne hgf).trans hf⟩
  | @work _ g w _ hl hw hb =>
    by_cases hgf : g = f
    · subst hgf
      simp only [work?, hf, Option.map_some, Option.some.injEq] at hw
      cases hb.2.symm.trans (hw ▸ hr)
    · refine .inl ⟨?_, by simp [hgf, hf]⟩
      rintro rfl
      cases hl
  | @succeed g d hd hd' =>
    by_cases hgf : g = f
    · subst hgf
      simp only [work?, hf, Option.map_some, Option.bind_some, hr] at hd'
      cases hd'
      exact .inr (.inl ⟨rfl, by simp [hf]⟩)
    · exact .inl ⟨by simp, by simp [hgf, hf]⟩
  | @fail g e hd he =>
    by_cases hgf : g = f
    · subst hgf
      simp only [work?, hf, Option.map_some, Option.bind_some, hr] at he
      cases he
    · exact .inl ⟨by simp, by simp [hgf, hf]⟩
  | @store g _ _ _ _ d hg =>
    by_cases hgf : g = f
    · subst hgf
      cases hg.symm.trans hf
      exact .inr (.inr (.inl ⟨rfl, d, rfl, by simp [hf], rfl⟩))
    · exact .inl ⟨by simpa using hgf, by simp [hgf, hf]⟩
  | @remove g _ _ _ _ hg =>
    by_cases hgf : g = f
    · subst hgf
      cases hg.symm.trans hf
      exact .inr (.inr (.inr (.inl ⟨rfl, rfl, by simp [hf]⟩)))
    · exact .inl ⟨by simp, by simp [hgf, hf]⟩
  | stop _ hs => exact .inr (.inr (.inr (.inr hs)))

namespace Settled

theorem resolved_of_move (h : Settled key f c n s) (hm : Move setup s l s')
    (ha : Undisturbed key f c n s l s') : s'.HasResolved key f c := by
  obtain ⟨F, hf, hkey, hr, hkeeps⟩ := h.resolved
  rcases hm.future_cases hf hr with ⟨hl, hsame⟩ | ⟨rfl, hlater⟩ | ⟨rfl, d, hd, hlater, hcache⟩ |
    ⟨rfl, hd, hlater⟩ | hs
  · refine ⟨F, hsame, hkey, hr, ?_⟩
    cases hdriver : F.driver with
    | live => trivial
    | storing d => simpa only [hdriver, Keeps] using hkeeps
    | removing | gone =>
      simp only [hdriver, Keeps] at hkeeps
      exact (ha.kept hl).trans hkeeps
  · exact ⟨_, hlater, hkey, hr, rfl⟩
  · refine ⟨_, hlater, hkey, hr, ?_⟩
    simp only [hd, Keeps] at hkeeps
    simp only [Keeps, hcache, hkey, hkeeps, Credential.Cache.get?_put_self]
  · refine ⟨_, hlater, hkey, hr, ?_⟩
    simp only [hd, Keeps] at hkeeps
    exact (ha.kept nofun).trans hkeeps
  · cases h.isOpen.symm.trans hs

theorem eq_remove_of_gone (h : Settled key f c n s) (hm : Move setup s l s')
    (hd : s.driver? f ≠ some .gone) (hgone : s'.driver? f = some .gone) : l = .remove f := by
  obtain ⟨F, hf, -, hr, -⟩ := h.resolved
  rcases hm.future_cases hf hr with ⟨-, hsame⟩ | ⟨-, hlater⟩ | ⟨-, d, -, hlater, -⟩ |
    ⟨hl, -, -⟩ | hs
  · simp only [driver?, hf, hsame] at hd hgone
    exact (hd hgone).elim
  · simp [driver?, hlater] at hgone
  · simp [driver?, hlater] at hgone
  · exact hl
  · cases h.isOpen.symm.trans hs

theorem get?_eq (h : Settled key f c n s) (hd : s.driver? f ≠ some .gone) :
    s.registry.get? key = some f := by
  obtain ⟨F, hf, rfl, -, -⟩ := h.resolved
  refine h.coordinated.get? hf fun hgone => hd ?_
  simp [driver?, hf, hgone]

theorem classify_eq (h : Settled key f c n s) (hd : s.driver? f = some .gone) {wall : Timestamp}
    (hv : c.status wall = .valid c) : s.cache.classify key wall = .valid c := by
  obtain ⟨F, hf, -, -, hkeeps⟩ := h.resolved
  simp only [driver?, hf, Option.map_some, Option.some.injEq] at hd
  simp only [hd, Keeps] at hkeeps
  simp only [Credential.Cache.classify, hkeeps, hv]

theorem serves_of_eq (h : Settled key f c n s) (hm : Move setup s l s')
    (ha : Undisturbed key f c n s l s') {i : Nat} {d : Caller} (hi : n ≤ i)
    (hd : s.callers[i]? = some d) (hk : d.request.key = key) : s'.Serves f c d := by
  have hserves := h.served i d hi hd hk
  cases d with
  | unregistered q status =>
    intro hgone
    exact ha.timely (h.eq_remove_of_gone hm hserves hgone) i q status hi hd hk
  | queued | entered | selecting | selected | returned => exact hserves

theorem served_of_move (h : Settled key f c n s) (hm : Move setup s l s')
    (ha : Undisturbed key f c n s l s') (i : Nat) (d : Caller) (hi : n ≤ i)
    (hd : s'.callers[i]? = some d) (hk : d.request.key = key) : s'.Serves f c d := by
  have hstay := h.serves_of_eq hm ha (i := i) (d := d) hi
  cases hm with
  | call q =>
    rcases getElem?_call hd with hd | rfl
    · exact hstay hd hk
    · simp only [h.isOpen, Bool.false_eq_true, if_false]
      trivial
  | enter hc =>
    rcases getElem?_setCaller hd with ⟨rfl, rfl⟩ | ⟨-, hd⟩
    · trivial
    · exact hstay hd hk
  | hit hc hv =>
    rcases getElem?_setCaller hd with ⟨rfl, rfl⟩ | ⟨-, hd⟩
    · obtain rfl := hk
      rw [(ha.unexpired _ _ rfl).2 _ hv]
      exact .inl rfl
    · exact hstay hd hk
  | miss hc hs hv =>
    rcases getElem?_setCaller hd with ⟨rfl, rfl⟩ | ⟨-, hd⟩
    · obtain rfl := hk
      intro hgone
      exact hv c (hs.symm.trans (h.classify_eq hgone (ha.unexpired _ _ rfl).1))
    · exact hstay hd hk
  | share hc hr =>
    rcases getElem?_setCaller hd with ⟨rfl, rfl⟩ | ⟨-, hd⟩
    · obtain rfl := hk
      have hfound := h.get?_eq (h.served _ _ hi hc rfl)
      cases hr.symm.trans hfound
      exact .inr rfl
    · exact hstay hd hk
  | bring hc hr | search hc hr =>
    rcases getElem?_setCaller hd with ⟨rfl, rfl⟩ | ⟨-, hd⟩
    · obtain rfl := hk
      cases hr.symm.trans (h.get?_eq (h.served _ _ hi hc rfl))
    · exact hstay hd hk
  | supply hc | refuse hc | register hc =>
    rcases getElem?_setCaller hd with ⟨rfl, rfl⟩ | ⟨-, hd⟩
    · exact (h.served _ _ hi hc hk).elim
    · exact hstay hd hk
  | start | work | succeed | fail | store | remove | stop => exact hstay hd hk
  | deliver | evict | clear | shutdown | elapse | advance => exact hstay hd hk

theorem move (h : Settled key f c n s) (hm : Move setup s l s')
    (ha : Undisturbed key f c n s l s') : Settled key f c n s' where
  coordinated := h.coordinated.move hm
  isOpen := by
    have hopen := h.isOpen
    cases hm with
    | shutdown => exact (ha.isOpen rfl).elim
    | _ => exact hopen
  resolved := h.resolved_of_move hm ha
  served := h.served_of_move hm ha

end Settled

/-- Once a future has come to a credential, whoever comes later gets that credential or the future
itself, and starts nothing, as long as no driver slips in between the two looks of a caller. -/
theorem later_callers_served {storage : Nat} {s₀ s : System} {F : Future}
    (hreach : Reachable setup storage s₀) (hopen : s₀.shutdown = false)
    (hf : s₀.futures[f]? = some F) (hr : F.work.result? = some (.ok c)) (hd : F.driver = .live)
    (hrun : Runs setup (Undisturbed F.key f c s₀.callers.length) s₀ s) {i : Nat} {d : Caller}
    (hi : s₀.callers.length ≤ i) (hc : s.callers[i]? = some d) (hk : d.request.key = F.key) :
    ¬ d.IsStarting ∧ ∀ q result, d = .returned q result →
      result = .ok (.ready c) ∨ result = .ok (.ongoing f) := by
  have hstart : Settled F.key f c s₀.callers.length s₀ := by
    refine ⟨hreach.coordinated, hopen, ⟨F, hf, rfl, hr, ?_⟩, fun i d hi hd _ => ?_⟩
    · rw [hd]
      trivial
    · cases (List.getElem?_eq_none hi).symm.trans hd
  have hserves : s.Serves f c d :=
    (hrun.invariant hstart fun hs hm ha => hs.move hm ha).served i d hi hc hk
  constructor
  · intro hstarting
    cases d with
    | selecting | selected => exact hserves
    | _ => exact hstarting
  · rintro q result rfl
    exact hserves

def generous : Setup :=
  ⟨fun _ => pure ⟨"transfer", "STARTED", "agreement", "asset", none⟩, 1, 1⟩

/-- Its token expires at the second after the start of the epoch. -/
def shortLived : Credential :=
  ⟨"credential", "agreement", "https://data", "Authorization", some "h.eyJleHAiOjF9.s", ∅⟩

def untilResolved : List Label :=
  [.call someRequest, .enter 0, .classify 0 (.ofUnix 0), .join 0, .register 0, .start 0, .pause 0,
    .look 0, .deliver (.stored "agreement" shortLived), .inspect 0, .conclude 0]

def betweenTwoLooks : List Label :=
  [.call someRequest, .enter 1, .classify 1 (.ofUnix 0), .notice 0, .store 0, .remove 0, .join 1,
    .register 1]

/-- A caller that looks at the cache before the driver stores and at the registry after it has left
starts again, although the credential is valid all the time. -/
theorem overtaken_caller_starts_again :
    ∃ s₀ s, (start 0).run? generous untilResolved = some s₀ ∧
      s₀.run? generous betweenTwoLooks = some s ∧ s₀.callers.length = 1 ∧
      s₀.driver? 0 = some .live ∧ (s₀.work? 0).bind Work.result? = some (.ok shortLived) ∧
      shortLived.status (.ofUnix 0) = .valid shortLived ∧
      s.callers[1]? = some (.returned someRequest (.ok (.ongoing 1))) :=
  ⟨_, _, rfl, rfl, rfl, rfl, rfl, rfl, rfl⟩

end System

end ConsumerConnector.Acquisition
