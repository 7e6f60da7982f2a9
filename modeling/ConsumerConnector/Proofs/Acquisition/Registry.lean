import ConsumerConnector.Proofs.Acquisition.Moves

/-!
One acquisition for a key at a time. Only the caller past the lock registers, and only under a key it
has found free; a driver frees the key of its own future and no other. So the registry holds exactly
the futures whose drivers have not taken them off yet.
-/

namespace ConsumerConnector.Acquisition

namespace Caller

def request : Caller → Request
  | queued q | entered q | unregistered q _ | selecting q _ | selected q _ | returned q _ => q

/-- Past the lock and not yet returned. -/
def IsInside : Caller → Prop
  | entered _ | unregistered .. | selecting .. | selected .. => True
  | queued _ | returned .. => False

/-- About to register, as nothing was ongoing. -/
def IsStarting : Caller → Prop
  | selecting .. | selected .. => True
  | _ => False

theorem IsStarting.isInside {c : Caller} (h : c.IsStarting) : c.IsInside := by
  cases c <;> first | exact h.elim | trivial

end Caller

namespace System

/-- The driver of a future for a key has not taken it off the registry yet. -/
def OnDuty (s : System) (key : String) (f : Nat) : Prop :=
  ∃ F, s.futures[f]? = some F ∧ F.key = key ∧ F.driver ≠ .gone

def Unresolved (s : System) (key : String) (f : Nat) : Prop :=
  ∃ F, s.futures[f]? = some F ∧ F.key = key ∧ F.work.result? = none

/-- What holds between any two steps. -/
structure Coordinated (s : System) : Prop where
  inside : ∀ (i : Nat) (c : Caller), s.callers[i]? = some c → c.IsInside → s.lock = some i
  starting : ∀ (i : Nat) (c : Caller), s.callers[i]? = some c → c.IsStarting →
    s.registry.get? c.request.key = none
  registered : ∀ (k : String) (f : Nat), s.registry.get? k = some f ↔ s.OnDuty k f
  resolved : s.shutdown = false → ∀ (f : Nat) (F : Future), s.futures[f]? = some F →
    F.driver ≠ .live → F.work.result?.isSome

theorem getElem?_set_cases {α : Type} {l : List α} {i j : Nat} {a b : α}
    (h : (l.set i a)[j]? = some b) : (j = i ∧ b = a) ∨ (j ≠ i ∧ l[j]? = some b) := by
  by_cases hij : i = j
  · subst hij
    rw [List.getElem?_set_self', Option.map_eq_map, Option.map_eq_some_iff] at h
    obtain ⟨-, -, rfl⟩ := h
    exact .inl ⟨rfl, rfl⟩
  · rw [List.getElem?_set_ne hij] at h
    exact .inr ⟨Ne.symm hij, h⟩

theorem getElem?_setCaller {s : System} {i j : Nat} {c d : Caller}
    (h : (s.setCaller i c).callers[j]? = some d) :
    (j = i ∧ d = c) ∨ (j ≠ i ∧ s.callers[j]? = some d) :=
  getElem?_set_cases h

theorem modify_eq_set {futures : List Future} {f : Nat} {F : Future} (hf : futures[f]? = some F)
    (change : Future → Future) : futures.modify f change = futures.set f (change F) := by
  have hlt : f < futures.length := (List.getElem?_eq_some_iff.1 hf).1
  apply List.ext_getElem?
  intro g
  by_cases hfg : f = g
  · subst hfg
    simp [List.getElem?_set_self hlt, hf]
  · simp [List.getElem?_set_ne hfg, hfg]

theorem getElem?_call {s : System} {q : Request} {j : Nat} {d : Caller}
    (h : (s.call q).callers[j]? = some d) :
    s.callers[j]? = some d ∨
      d = if s.shutdown then .returned q (.error isShutDown) else .queued q := by
  simp only [call, List.getElem?_append] at h
  split at h
  · exact .inl h
  · exact .inr (List.mem_singleton.1 (List.mem_of_getElem? h))

theorem getElem?_concat {futures : List Future} {F G : Future} {f : Nat}
    (h : (futures ++ [F])[f]? = some G) : futures[f]? = some G ∨ (f = futures.length ∧ G = F) := by
  by_cases hlt : f < futures.length
  · rw [List.getElem?_append_left hlt] at h
    exact .inl h
  · have hle : futures.length ≤ f := Nat.le_of_not_lt hlt
    rw [List.getElem?_append_right hle, List.getElem?_singleton] at h
    split at h
    · next hzero => exact .inr ⟨by omega, (Option.some.inj h).symm⟩
    · cases h

namespace Coordinated

variable {setup : Setup} {s s' : System}

theorem start (storage : Nat) : Coordinated (start storage) := by
  constructor <;> simp [System.start, OnDuty, EmptyCollection.emptyCollection]

theorem get? (h : Coordinated s) {f : Nat} {F : Future} (hf : s.futures[f]? = some F)
    (hd : F.driver ≠ .gone) : s.registry.get? F.key = some f :=
  (h.registered F.key f).2 ⟨F, hf, rfl, hd⟩

theorem withCache (h : Coordinated s) (cache : Credential.Cache) : Coordinated { s with cache } :=
  ⟨h.inside, h.starting, h.registered, h.resolved⟩

theorem setCaller (h : Coordinated s) {i : Nat} {c : Caller}
    (hin : c.IsInside → s.lock = some i)
    (hst : c.IsStarting → s.registry.get? c.request.key = none) : Coordinated (s.setCaller i c) where
  inside j d hd hi := by
    rcases getElem?_setCaller hd with ⟨rfl, rfl⟩ | ⟨-, hd⟩
    · exact hin hi
    · exact h.inside j d hd hi
  starting j d hd hi := by
    rcases getElem?_setCaller hd with ⟨rfl, rfl⟩ | ⟨-, hd⟩
    · exact hst hi
    · exact h.starting j d hd hi
  registered := h.registered
  resolved := h.resolved

theorem outside_of_leave (h : Coordinated s) {i j : Nat} (hl : s.lock = some i) {q : Request}
    {result : Except ClientError Ticket} {d : Caller}
    (hd : (s.leave i q result).callers[j]? = some d) : ¬ d.IsInside := by
  intro hi
  rcases getElem?_setCaller hd with ⟨rfl, rfl⟩ | ⟨hne, hd⟩
  · exact hi
  · exact hne (Option.some.inj ((h.inside j d hd hi).symm.trans hl))

theorem leave (h : Coordinated s) {i : Nat} (hl : s.lock = some i) (q : Request)
    (result : Except ClientError Ticket) : Coordinated (s.leave i q result) where
  inside _ _ hd hi := (h.outside_of_leave hl hd hi).elim
  starting _ _ hd hi := (h.outside_of_leave hl hd hi.isInside).elim
  registered := h.registered
  resolved := h.resolved

theorem enter (h : Coordinated s) {i : Nat} {q : Request} (hl : s.lock = none) :
    Coordinated { s.setCaller i (.entered q) with lock := some i } where
  inside j d hd hi := by
    rcases getElem?_setCaller hd with ⟨rfl, rfl⟩ | ⟨-, hd⟩
    · rfl
    · cases (h.inside j d hd hi).symm.trans hl
  starting j d hd hi := by
    rcases getElem?_setCaller hd with ⟨rfl, rfl⟩ | ⟨-, hd⟩
    · exact hi.elim
    · exact h.starting j d hd hi
  registered := h.registered
  resolved := h.resolved

theorem call (h : Coordinated s) (q : Request) : Coordinated (s.call q) where
  inside j d hd hi := by
    rcases getElem?_call hd with hd | rfl
    · exact h.inside j d hd hi
    · split at hi <;> exact hi.elim
  starting j d hd hi := by
    rcases getElem?_call hd with hd | rfl
    · exact h.starting j d hd hi
    · split at hi <;> exact hi.elim
  registered := h.registered
  resolved := h.resolved

theorem register (h : Coordinated s) {i : Nat} {q : Request} {o : Order}
    (hc : s.callers[i]? = some (.selected q o)) :
    Coordinated { s.leave i q (.ok (.ongoing s.futures.length)) with
      registry := s.registry.insert q.key s.futures.length
      futures := s.futures ++ [⟨q.key, o, 0, .idle, .live⟩] } where
  inside _ _ hd hi := (h.outside_of_leave (h.inside _ _ hc trivial) hd hi).elim
  starting _ _ hd hi := (h.outside_of_leave (h.inside _ _ hc trivial) hd hi.isInside).elim
  registered k f := by
    -- The key was free, so no driver on duty loses its entry to the new one.
    have hfree : s.registry.get? q.key = none := h.starting _ _ hc trivial
    rw [Dictionary.get?_insert]
    split
    · next hk =>
      constructor
      · intro hf
        obtain rfl := Option.some.inj hf
        exact ⟨_, List.getElem?_concat_length, hk.symm, nofun⟩
      · rintro ⟨F, hF, rfl, hd⟩
        rcases getElem?_concat hF with hF | ⟨rfl, -⟩
        · cases hfree.symm.trans (hk ▸ h.get? hF hd)
        · rfl
    · next hk =>
      rw [h.registered]
      constructor
      · rintro ⟨F, hF, hd⟩
        exact ⟨F, List.getElem?_append_left (List.getElem?_eq_some_iff.1 hF).1 ▸ hF, hd⟩
      · rintro ⟨F, hF, hkey, hd⟩
        rcases getElem?_concat hF with hF | ⟨-, rfl⟩
        · exact ⟨F, hF, hkey, hd⟩
        · exact (hk hkey.symm).elim
  resolved hs f F hf hd := by
    rcases getElem?_concat hf with hf | ⟨-, rfl⟩
    · exact h.resolved hs f F hf hd
    · exact (hd rfl).elim

/-- Only the key of a future and whether its driver has left matter to the registry. -/
theorem setFuture (h : Coordinated s) {f : Nat} {F G : Future} (hf : s.futures[f]? = some F)
    (hkey : G.key = F.key) (hgone : G.driver = .gone ↔ F.driver = .gone)
    (hr : s.shutdown = false → G.driver ≠ .live → G.work.result?.isSome) :
    Coordinated { s with futures := s.futures.set f G } where
  inside := h.inside
  starting := h.starting
  registered k g := by
    apply (h.registered k g).trans
    constructor
    · rintro ⟨E, hE, hk, hd⟩
      by_cases hfg : f = g
      · subst hfg
        cases hf.symm.trans hE
        have hlt : f < s.futures.length := (List.getElem?_eq_some_iff.1 hf).1
        exact ⟨G, List.getElem?_set_self hlt, hkey.trans hk, mt hgone.1 hd⟩
      · exact ⟨E, (List.getElem?_set_ne hfg).trans hE, hk, hd⟩
    · rintro ⟨E, hE, hk, hd⟩
      rcases getElem?_set_cases hE with ⟨rfl, rfl⟩ | ⟨-, hE⟩
      · exact ⟨F, hf, hkey.symm.trans hk, mt hgone.2 hd⟩
      · exact ⟨E, hE, hk, hd⟩
  resolved hs g E hg hd := by
    rcases getElem?_set_cases hg with ⟨rfl, rfl⟩ | ⟨-, hg⟩
    · exact hr hs hd
    · exact h.resolved hs g E hg hd

theorem setWork (h : Coordinated s) {f : Nat} {w : Work} (hw : s.work? f = some w)
    (hr : w.result? = none) (work : Work) : Coordinated (s.setWork f work) := by
  obtain ⟨F, hf, rfl⟩ := Option.map_eq_some_iff.1 hw
  unfold System.setWork
  rw [modify_eq_set hf]
  refine h.setFuture hf rfl Iff.rfl fun hs hd => ?_
  cases hr ▸ h.resolved hs f F hf hd

theorem setDriver (h : Coordinated s) {f : Nat} {F : Future} {driver : Driver}
    (hf : s.futures[f]? = some F) (hF : F.driver ≠ .gone) (hd : driver ≠ .gone)
    (hr : s.shutdown = false → F.work.result?.isSome) : Coordinated (s.setDriver f driver) := by
  unfold System.setDriver
  rw [modify_eq_set hf]
  exact h.setFuture hf rfl (iff_of_false hd hF) fun hs _ => hr hs

theorem remove (h : Coordinated s) {f : Nat} {F : Future} (hf : s.futures[f]? = some F)
    (hd : F.driver = .removing) :
    Coordinated { s.setDriver f .gone with registry := s.registry.erase F.key } := by
  unfold System.setDriver
  rw [modify_eq_set hf]
  -- The driver erases by key, and the entry there is its own.
  have hown : s.registry.get? F.key = some f := h.get? hf (by simp [hd])
  constructor
  case inside => exact h.inside
  case starting =>
    intro i c hc hi
    rw [Dictionary.get?_erase, h.starting i c hc hi]
    exact ite_self none
  case registered =>
    intro k g
    rw [Dictionary.get?_erase]
    split
    · next hk =>
      subst hk
      refine iff_of_false nofun ?_
      rintro ⟨E, hE, hk, hE'⟩
      rcases getElem?_set_cases hE with ⟨-, rfl⟩ | ⟨hgf, hE⟩
      · exact hE' rfl
      · exact hgf (Option.some.inj ((hk ▸ h.get? hE hE').symm.trans hown))
    · next hk =>
      apply (h.registered k g).trans
      constructor
      · rintro ⟨E, hE, hkey, hE'⟩
        have hfg : f ≠ g := by
          rintro rfl
          cases hf.symm.trans hE
          exact hk hkey.symm
        exact ⟨E, (List.getElem?_set_ne hfg).trans hE, hkey, hE'⟩
      · rintro ⟨E, hE, hkey, hE'⟩
        rcases getElem?_set_cases hE with ⟨-, rfl⟩ | ⟨-, hE⟩
        · exact (hE' rfl).elim
        · exact ⟨E, hE, hkey, hE'⟩
  case resolved =>
    intro hs g E hg hE
    rcases getElem?_set_cases hg with ⟨rfl, rfl⟩ | ⟨-, hg⟩
    · exact h.resolved hs g F hf (by simp [hd])
    · exact h.resolved hs g E hg hE

theorem move {l : Label} (h : Coordinated s) (hm : Move setup s l s') : Coordinated s' := by
  cases hm with
  | call q => exact h.call q
  | enter _ hl => exact h.enter hl
  | hit hc => exact h.leave (h.inside _ _ hc trivial) _ _
  | miss hc => exact h.setCaller (fun _ => h.inside _ _ hc trivial) nofun
  | share hc => exact h.leave (h.inside _ _ hc trivial) _ _
  | bring hc hr => exact h.setCaller (fun _ => h.inside _ _ hc trivial) fun _ => hr
  | search hc hr => exact h.setCaller (fun _ => h.inside _ _ hc trivial) fun _ => hr
  | supply hc =>
    have hfree := h.starting _ _ hc trivial
    exact h.setCaller (fun _ => h.inside _ _ hc trivial) fun _ => hfree
  | refuse hc => exact h.leave (h.inside _ _ hc trivial) _ _
  | register hc => exact h.register hc
  | start hf =>
    refine h.setFuture hf rfl Iff.rfl fun hs hd => ?_
    cases h.resolved hs _ _ hf hd
  | work _ hw hb => exact h.setWork hw hb.2 _
  | succeed hd hr | fail hd hr =>
    obtain ⟨F, hf, hlive⟩ := Option.map_eq_some_iff.1 hd
    simp only [work?, hf, Option.map_some, Option.bind_some] at hr
    exact h.setDriver hf (by simp [hlive]) nofun fun _ => by simp [hr]
  | store hf =>
    have hset : Coordinated (s.setDriver _ .removing) :=
      h.setDriver hf nofun nofun fun hs => h.resolved hs _ _ hf nofun
    exact hset.withCache _
  | remove hf => exact h.remove hf rfl
  | stop hd hs =>
    obtain ⟨F, hf, hlive⟩ := Option.map_eq_some_iff.1 hd
    exact h.setDriver hf (by simp [hlive]) nofun fun hopen => by simp [hs] at hopen
  | shutdown => exact ⟨h.inside, h.starting, h.registered, nofun⟩
  | deliver | evict | clear => exact h.withCache _
  | elapse | advance => exact ⟨h.inside, h.starting, h.registered, h.resolved⟩

theorem remove_of_lost (h : Coordinated s) {l : Label} (hm : Move setup s l s') {k : String}
    {f : Nat} (hf : s.registry.get? k = some f) (hlost : s'.registry.get? k ≠ some f) :
    l = .remove f := by
  cases hm with
  | @register i q o hc =>
    have hfree : s.registry.get? q.key = none := h.starting _ _ hc trivial
    by_cases hk : k = q.key
    · cases hfree.symm.trans (hk ▸ hf)
    · exact (hlost (by rw [Dictionary.get?_insert, if_neg hk, hf])).elim
  | @remove g key o since w hg =>
    by_cases hk : k = key
    · have hown : s.registry.get? key = some g := h.get? hg nofun
      rw [← hk, hf] at hown
      rw [Option.some.inj hown]
    · exact (hlost (by rw [Dictionary.get?_erase, if_neg hk, hf])).elim
  | _ => exact (hlost hf).elim

end Coordinated

theorem Reachable.coordinated {setup : Setup} {storage : Nat} {s : System}
    (h : Reachable setup storage s) : Coordinated s :=
  h.invariant (.start storage) fun hs hm _ => hs.move hm

/-- In every reachable state the registry lists the futures whose drivers are on duty, one for a key;
only a driver itself takes its entry away; and before a shutdown all other futures are resolved. -/
theorem one_acquisition_per_key {setup : Setup} {storage : Nat} {s : System}
    (h : Reachable setup storage s) :
    (∀ k f g, s.OnDuty k f → s.OnDuty k g → f = g) ∧
    (∀ k f, s.registry.get? k = some f ↔ s.OnDuty k f) ∧
    (∀ l s' k f, s.step setup l = some s' → s.registry.get? k = some f →
      s'.registry.get? k ≠ some f → l = .remove f) ∧
    (s.shutdown = false → ∀ k f g, s.Unresolved k f → s.Unresolved k g → f = g) := by
  have hs := h.coordinated
  have hunique : ∀ k f g, s.OnDuty k f → s.OnDuty k g → f = g := by
    intro k f g hf hg
    exact Option.some.inj (((hs.registered k f).2 hf).symm.trans ((hs.registered k g).2 hg))
  refine ⟨hunique, hs.registered, ?_, ?_⟩
  · intro l s' k f hstep hf hlost
    exact hs.remove_of_lost (.of_step hstep) hf hlost
  · intro hopen k f g hf hg
    have honduty : ∀ f, s.Unresolved k f → s.OnDuty k f := by
      rintro f ⟨F, hF, hkey, hnone⟩
      refine ⟨F, hF, hkey, fun hgone => ?_⟩
      have hsome := hs.resolved hopen f F hF (by simp [hgone])
      simp [hnone] at hsome
    exact hunique k f g (honduty f hf) (honduty g hg)

/-- Nothing can be negotiated. -/
def hopeless : Setup := ⟨fun _ => Task.fail (.client "no transfer"), 1, 1⟩

def someRequest : Request :=
  .ofItem "https://provider" ⟨"item", "asset", "offer", "partner", .empty⟩ "partner"

/-- Two callers share a future that fails, one of them while its driver is about to leave, and a third
one finds the key free again. -/
def twoAttempts : List Label :=
  [.call someRequest, .enter 0, .classify 0 (.ofUnix 0), .join 0, .register 0, .start 0, .notice 0,
    .call someRequest, .enter 1, .classify 1 (.ofUnix 0), .join 1, .remove 0,
    .call someRequest, .enter 2, .classify 2 (.ofUnix 0), .join 2, .register 2]

theorem one_acquisition_per_key_twoAttempts :
    ∃ s, Reachable hopeless 0 s ∧ s.futures.length = 2 ∧
      ∀ f, s.OnDuty someRequest.key f ↔ f = 1 := by
  obtain ⟨s, hs⟩ := Option.isSome_iff_exists.1
    (by decide +kernel : ((start 0).run? hopeless twoAttempts).isSome)
  have hreach : Reachable hopeless 0 s := .of_run? hs
  have hend : ((start 0).run? hopeless twoAttempts).map (fun s =>
      (s.futures.length, s.registry.get? someRequest.key)) = some (2, some 1) := by decide +kernel
  obtain ⟨hlength, hget⟩ := Prod.mk.inj (Option.some.inj (hs ▸ hend))
  obtain ⟨hunique, hregistered, -⟩ := one_acquisition_per_key hreach
  have hone : s.OnDuty someRequest.key 1 := (hregistered _ _).1 hget
  refine ⟨s, hreach, hlength, fun f => ⟨fun hf => hunique _ f 1 hf hone, ?_⟩⟩
  rintro rfl
  exact hone

end System

end ConsumerConnector.Acquisition
