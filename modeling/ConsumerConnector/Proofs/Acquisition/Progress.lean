import ConsumerConnector.Proofs.Acquisition.History
import ConsumerConnector.Proofs.Acquisition.Registry

/-!
How the work of a future goes on. A future performs the operations of its task one after the other, a
wait being one operation however many looks it takes, and what is left to do is what its task goes on
with after the replies it has got.
-/

namespace ConsumerConnector

namespace Program

variable {Op : Type} {Reply : Op → Type} {α β : Type}

/-- What is left of a program after operations with their replies. -/
inductive Follows : Program Op Reply α → List ((op : Op) × Reply op) → Program Op Reply α → Prop
  | nil (p : Program Op Reply α) : Follows p [] p
  | cons {op : Op} {next : Reply op → Program Op Reply α} {r : Reply op}
      {rs : List ((op : Op) × Reply op)} {p : Program Op Reply α} (h : Follows (next r) rs p) :
      Follows (.perform op next) (⟨op, r⟩ :: rs) p

namespace Follows

variable {rs rs' : List ((op : Op) × Reply op)}

theorem snoc {p : Program Op Reply α} {op : Op} {next : Reply op → Program Op Reply α}
    (h : Follows p rs (.perform op next)) (r : Reply op) : Follows p (rs ++ [⟨op, r⟩]) (next r) := by
  generalize hq : Program.perform op next = q at h
  induction h with
  | nil p =>
    subst hq
    exact .cons (.nil _)
  | cons _ ih => exact .cons (ih hq)

theorem of_done {a : α} {q : Program Op Reply α} (h : Follows (.done a) rs q) :
    rs = [] ∧ q = .done a := by
  cases h
  exact ⟨rfl, rfl⟩

/-- A program that is done has been through its first part. -/
theorem of_bind_done {p : Program Op Reply α} {f : α → Program Op Reply β} {b : β}
    (h : Follows (p.bind f) rs (.done b)) :
    ∃ a early late, rs = early ++ late ∧ Follows p early (.done a) ∧
      Follows (f a) late (.done b) := by
  induction p generalizing rs with
  | done a => exact ⟨a, [], rs, rfl, .nil _, h⟩
  | perform op next ih =>
    cases h with
    | @cons _ _ r rest _ h =>
      obtain ⟨a, early, late, rfl, hearly, hlate⟩ := ih r h
      exact ⟨a, ⟨op, r⟩ :: early, late, rfl, .cons hearly, hlate⟩

theorem of_bind_append {p : Program Op Reply α} {f : α → Program Op Reply β}
    {q : Program Op Reply β} {a : α} (h : Follows p rs (.done a))
    (h' : Follows (p.bind f) (rs ++ rs') q) : Follows (f a) rs' q := by
  induction p generalizing rs with
  | done b =>
    obtain ⟨rfl, hab⟩ := h.of_done
    cases hab
    exact h'
  | perform op next ih =>
    cases h with
    | cons h =>
      cases h' with
      | cons h' => exact ih _ h h'

variable {ε : Type}

theorem of_andThen_ok {p : ExceptT ε (Program Op Reply) α} {f : α → ExceptT ε (Program Op Reply) β}
    {b : β} (h : Follows (ExceptT.run (p >>= f)) rs (.done (.ok b))) :
    ∃ a early late, rs = early ++ late ∧ Follows p.run early (.done (.ok a)) ∧
      Follows (f a).run late (.done (.ok b)) := by
  obtain ⟨r, early, late, rfl, hearly, hlate⟩ := of_bind_done (p := p.run) h
  cases r with
  | ok a => exact ⟨a, early, late, rfl, hearly, hlate⟩
  | error e => cases (of_done (a := Except.error e) hlate).2

theorem of_andThen_append {p : ExceptT ε (Program Op Reply) α}
    {f : α → ExceptT ε (Program Op Reply) β} {q : Program Op Reply (Except ε β)} {a : α}
    (h : Follows p.run rs (.done (.ok a))) (h' : Follows (ExceptT.run (p >>= f)) (rs ++ rs') q) :
    Follows (f a).run rs' q :=
  of_bind_append (p := p.run) (f := ExceptT.bindCont f) h h'

end Follows

end Program

namespace Acquisition

/-- What is still to be performed, a wait included that is going on. -/
def Work.program? : Work → Option (TaskTree Credential)
  | .idle => none
  | .running p => some p
  | .pausing w limits _ _ next => some (.perform (.wait w limits) next)
  | .looking w limits _ _ next => some (.perform (.wait w limits) next)

theorem Work.program?_eq_done {w : Work} {r : Except ClientError Credential} :
    w.program? = some (.done r) ↔ w.result? = some r := by
  cases w with
  | running p => cases p <;> simp [program?, result?]
  | idle | pausing | looking => simp [program?, result?]

namespace Occurrence

/-- What a future has come to the end of, with the reply. -/
def performed? (f : Nat) (o : Occurrence) : Option ((a : Action) × a.Reply) :=
  if o.label.worker? = some f then
    match o.label, o.state.work? f with
    | .answer _ reply, some (.running (.perform (.call c) _)) => some ⟨.call c, reply c⟩
    | .look _, some (.pausing w limits started _ _) =>
      if (limits.plan w).isSpent started o.state.now then
        some ⟨.wait w limits, .error (limits.plan w).timeout⟩
      else none
    | .conclude _, some (.looking w limits _ (.done seen) _) =>
      match (limits.plan w).after o.state.now ⟨seen, 0⟩ with
      | .due _ => none
      | .over _ result => some ⟨.wait w limits, result⟩
    | _, _ => none
  else none

theorem worker?_of_performed? {f : Nat} {o : Occurrence} {x : (a : Action) × a.Reply}
    (h : o.performed? f = some x) : o.label.worker? = some f := by
  unfold performed? at h
  split at h
  · assumption
  · cases h

end Occurrence

/-- What a future has performed so far. -/
def performed (f : Nat) (os : List Occurrence) : List ((a : Action) × a.Reply) :=
  os.filterMap (·.performed? f)

theorem performed_concat (f : Nat) (os : List Occurrence) (o : Occurrence) :
    performed f (os ++ [o]) = performed f os ++ (o.performed? f).toList := by
  cases h : o.performed? f <;> simp [performed, List.filterMap_append, h]

theorem performed_concat_of_ne {f : Nat} {o : Occurrence} (h : o.label.worker? ≠ some f)
    (os : List Occurrence) : performed f (os ++ [o]) = performed f os := by
  simp [performed_concat, Occurrence.performed?, h]

/-- What a step makes of the work of a future. -/
inductive Progress (s : System) : Label → Work → Work → Prop
  | answer {f : Nat} {reply : (c : Call) → c.Reply} {c : Call}
      {next : Action.Reply (.call c) → TaskTree Credential} :
      Progress s (.answer f reply) (.running (.perform (.call c) next))
        (.running (next (reply c)))
  | ask {f : Nat} {reply : (c : Call) → c.Reply} {w : Wait} {limits : Limits} {started : Nat}
      {c : Call} {more : Query.Reply (.call c) → Program Query Query.Reply _}
      {next : Except ClientError w.Result → TaskTree Credential} :
      Progress s (.answer f reply) (.looking w limits started (.perform (.call c) more) next)
        (.looking w limits started (more (reply c)) next)
  | pause {f : Nat} {w : Wait} {limits : Limits}
      {next : Action.Reply (.wait w limits) → TaskTree Credential} :
      Progress s (.pause f) (.running (.perform (.wait w limits) next))
        (.pausing w limits s.now s.now next)
  | late {f : Nat} {w : Wait} {limits : Limits} {started due : Nat}
      {next : Except ClientError w.Result → TaskTree Credential}
      (hs : (limits.plan w).isSpent started s.now = true) :
      Progress s (.look f) (.pausing w limits started due next)
        (.running (next (.error (limits.plan w).timeout)))
  | look {f : Nat} {w : Wait} {limits : Limits} {started due : Nat}
      {next : Except ClientError w.Result → TaskTree Credential}
      (hs : (limits.plan w).isSpent started s.now = false) :
      Progress s (.look f) (.pausing w limits started due next)
        (.looking w limits started (ExceptT.run w.look) next)
  | inspect {f : Nat} {w : Wait} {limits : Limits} {started : Nat} {contract : String} {since : Nat}
      {more : Query.Reply (.stored contract since) → Program Query Query.Reply _}
      {next : Except ClientError w.Result → TaskTree Credential} :
      Progress s (.inspect f)
        (.looking w limits started (.perform (.stored contract since) more) next)
        (.looking w limits started (more (s.cache.storedSince? contract since)) next)
  | again {f : Nat} {w : Wait} {limits : Limits} {started time : Nat}
      {seen : Except ClientError (Option w.Result)}
      {next : Except ClientError w.Result → TaskTree Credential}
      (ha : (limits.plan w).after s.now ⟨seen, 0⟩ = .due time) :
      Progress s (.conclude f) (.looking w limits started (.done seen) next)
        (.pausing w limits started time next)
  | decide {f : Nat} {w : Wait} {limits : Limits} {started time : Nat}
      {seen : Except ClientError (Option w.Result)} {result : Except ClientError w.Result}
      {next : Except ClientError w.Result → TaskTree Credential}
      (ha : (limits.plan w).after s.now ⟨seen, 0⟩ = .over time result) :
      Progress s (.conclude f) (.looking w limits started (.done seen) next)
        (.running (next result))

theorem Progress.ne_idle {s : System} {l : Label} {w work : Work} (hp : Progress s l w work) :
    work ≠ .idle := by
  cases hp <;> nofun

theorem Progress.performed_cases {s : System} {l : Label} {f : Nat} {w work : Work}
    (hp : Progress s l w work) (hl : l.worker? = some f) (hw : s.work? f = some w) :
    ((Occurrence.mk s l).performed? f = none ∧ work.program? = w.program?) ∨
      ∃ (a : Action) (r : a.Reply) (next : a.Reply → TaskTree Credential),
        (Occurrence.mk s l).performed? f = some ⟨a, r⟩ ∧
          w.program? = some (.perform a next) ∧ work = .running (next r) := by
  cases hp with
  | answer => exact .inr ⟨_, _, _, by simp [Occurrence.performed?, hl, hw], rfl, rfl⟩
  | late hs => exact .inr ⟨_, _, _, by simp [Occurrence.performed?, hl, hw, hs], rfl, rfl⟩
  | decide ha => exact .inr ⟨_, _, _, by simp [Occurrence.performed?, hl, hw, ha], rfl, rfl⟩
  | ask | pause | inspect => exact .inl ⟨by simp [Occurrence.performed?, hl, hw], rfl⟩
  | look hs => exact .inl ⟨by simp [Occurrence.performed?, hl, hw, hs], rfl⟩
  | again ha => exact .inl ⟨by simp [Occurrence.performed?, hl, hw, ha], rfl⟩

namespace System

variable {setup : Setup} {s s' : System} {l : Label} {f : Nat}

theorem work?_setWork_self {F : Future} {w : Work} (hf : s.futures[f]? = some F) :
    (s.setWork f w).work? f = some w := by
  simp [work?, hf]

theorem progress_of_step (hs : s.step setup l = some s') (hl : l.worker? = some f) :
    ∃ F work, s.futures[f]? = some F ∧ Progress s l F.work work ∧ s' = s.setWork f work := by
  have hwork : ∀ {w}, s.work? f = some w → ∃ F, s.futures[f]? = some F ∧ F.work = w :=
    fun h => Option.map_eq_some_iff.1 h
  cases l with
  | answer g reply =>
    cases hl
    simp only [step, answer?] at hs
    split at hs
    · next hw =>
      obtain ⟨F, hF, hFw⟩ := hwork hw
      exact ⟨F, _, hF, hFw ▸ .answer, (Option.some.inj hs).symm⟩
    · next hw =>
      obtain ⟨F, hF, hFw⟩ := hwork hw
      exact ⟨F, _, hF, hFw ▸ .ask, (Option.some.inj hs).symm⟩
    · cases hs
  | pause g =>
    cases hl
    simp only [step, pause?] at hs
    split at hs
    · next hw =>
      obtain ⟨F, hF, hFw⟩ := hwork hw
      exact ⟨F, _, hF, hFw ▸ .pause, (Option.some.inj hs).symm⟩
    · cases hs
  | look g =>
    cases hl
    simp only [step, look?] at hs
    split at hs
    · next hw =>
      obtain ⟨F, hF, hFw⟩ := hwork hw
      split at hs
      · cases hs
      · split at hs
        · next hspent => exact ⟨F, _, hF, hFw ▸ .late hspent, (Option.some.inj hs).symm⟩
        · next hspent =>
          exact ⟨F, _, hF, hFw ▸ .look (Bool.not_eq_true _ ▸ hspent), (Option.some.inj hs).symm⟩
    · cases hs
  | inspect g =>
    cases hl
    simp only [step, inspect?] at hs
    split at hs
    · next hw =>
      obtain ⟨F, hF, hFw⟩ := hwork hw
      exact ⟨F, _, hF, hFw ▸ .inspect, (Option.some.inj hs).symm⟩
    · cases hs
  | conclude g =>
    cases hl
    simp only [step, conclude?] at hs
    split at hs
    · next hw =>
      obtain ⟨F, hF, hFw⟩ := hwork hw
      split at hs
      · next ha => exact ⟨F, _, hF, hFw ▸ .again ha, (Option.some.inj hs).symm⟩
      · next ha => exact ⟨F, _, hF, hFw ▸ .decide ha, (Option.some.inj hs).symm⟩
    · cases hs
  | _ => cases hl

/-- A future changes with its driver, where it starts, and where its work goes on. -/
inductive Change (setup : Setup) (s : System) (f : Nat) : Label → Future → Future → Prop
  | idle {l : Label} {F : Future} (driver : Driver) (hs : l ≠ .start f) (hl : l.worker? ≠ some f) :
      Change setup s f l F { F with driver }
  | start {key : String} {o : Order} {since : Nat} {driver : Driver} :
      Change setup s f (.start f) ⟨key, o, since, .idle, driver⟩
        ⟨key, o, s.instant, .running (ExceptT.run (setup.task o s.instant)), driver⟩
  | progress {l : Label} {F : Future} {work : Work} (hl : l.worker? = some f)
      (hp : Progress s l F.work work) : Change setup s f l F { F with work }

theorem change_of_setDriver {F : Future} (hf : s.futures[f]? = some F) {g : Nat} (driver : Driver)
    (hs : l ≠ .start f) (hl : l.worker? ≠ some f) :
    ∃ F', (s.setDriver g driver).futures[f]? = some F' ∧ Change setup s f l F F' := by
  rw [getElem?_setDriver]
  split
  · exact ⟨{ F with driver }, by simp [hf], .idle driver hs hl⟩
  · exact ⟨F, hf, .idle F.driver hs hl⟩

theorem exists_change_of_step (hs : s.step setup l = some s') {F : Future}
    (hf : s.futures[f]? = some F) :
    ∃ F', s'.futures[f]? = some F' ∧ Change setup s f l F F' := by
  have hm := Move.of_step hs
  cases hm with
  | call | enter | hit | miss | share | bring | search | supply | refuse =>
    exact ⟨F, hf, .idle F.driver nofun nofun⟩
  | deliver | evict | clear | shutdown | elapse | advance =>
    exact ⟨F, hf, .idle F.driver nofun nofun⟩
  | register =>
    have hlt : f < s.futures.length := (List.getElem?_eq_some_iff.1 hf).1
    exact ⟨F, (List.getElem?_append_left hlt).trans hf, .idle F.driver nofun nofun⟩
  | @start g _ _ _ _ hg =>
    by_cases hgf : g = f
    · subst hgf
      cases hg.symm.trans hf
      exact ⟨_, List.getElem?_set_self (List.getElem?_eq_some_iff.1 hf).1, .start⟩
    · exact ⟨F, (List.getElem?_set_ne hgf).trans hf, .idle F.driver (by simpa using hgf) nofun⟩
  | @work l g _ _ hl =>
    obtain ⟨G, work, hG, hp, heq⟩ := progress_of_step hs hl
    rw [heq, getElem?_setWork]
    by_cases hgf : g = f
    · subst hgf
      cases hf.symm.trans hG
      exact ⟨{ F with work }, by simp [hf], .progress hl hp⟩
    · refine ⟨F, by simp [hgf, hf], .idle F.driver ?_ (by simpa [hl] using hgf)⟩
      rintro rfl
      cases hl
  | succeed => exact change_of_setDriver hf (.storing _) nofun nofun
  | fail => exact change_of_setDriver hf .removing nofun nofun
  | store => exact change_of_setDriver hf .removing nofun nofun
  | remove => exact change_of_setDriver hf .gone nofun nofun
  | stop => exact change_of_setDriver hf .removing nofun nofun

theorem work?_of_step (hs : s.step setup l = some s') (hl : l.worker? ≠ some f) {w : Work}
    (hw : s.work? f = some w) (hne : w ≠ .idle) : s'.work? f = some w := by
  obtain ⟨F, hf, rfl⟩ := Option.map_eq_some_iff.1 hw
  obtain ⟨F', hf', hchange⟩ := exists_change_of_step hs hf
  cases hchange with
  | idle => simp [work?, hf']
  | start => exact (hne rfl).elim
  | progress hl' => exact (hl hl').elim

/-- A future that nobody works on stays where it is. -/
theorem History.work?_eq {os : List Occurrence} (h : History setup s os s')
    (hl : ∀ o ∈ os, o.label.worker? ≠ some f) {w : Work} (hw : s.work? f = some w)
    (hne : w ≠ .idle) : s'.work? f = some w := by
  induction h with
  | nil => exact hw
  | @snoc os t u l _ hs ih =>
    have ht : t.work? f = some w := ih fun o ho => hl o (List.mem_append_left _ ho)
    exact work?_of_step hs (hl ⟨t, l⟩ (by simp)) ht hne

/-- The time at which a future has started stays the same. -/
theorem History.since_eq {os : List Occurrence} (h : History setup s os s') {F : Future} (hf : s.futures[f]? = some F)
    (hne : F.work ≠ .idle) :
    ∃ G, s'.futures[f]? = some G ∧ G.since = F.since ∧ G.work ≠ .idle := by
  induction h with
  | nil => exact ⟨F, hf, rfl, hne⟩
  | snoc _ hs ih =>
    obtain ⟨G, hG, hsince, hwork⟩ := ih
    obtain ⟨G', hG', hchange⟩ := exists_change_of_step hs hG
    cases hchange with
    | idle => exact ⟨_, hG', hsince, hwork⟩
    | start => exact (hwork rfl).elim
    | progress _ hp =>
      exact ⟨_, hG', hsince, hp.ne_idle⟩

/-- A future is there already or is just being registered. -/
theorem origin_of_step (hs : s.step setup l = some s') {F' : Future}
    (hf : s'.futures[f]? = some F') :
    (∃ F, s.futures[f]? = some F ∧ Change setup s f l F F') ∨
      ∃ i q o, l = .register i ∧ s.callers[i]? = some (.selected q o) ∧ f = s.futures.length ∧
        F' = ⟨q.key, o, 0, .idle, .live⟩ := by
  cases hF : s.futures[f]? with
  | some F =>
    obtain ⟨F'', hF'', hchange⟩ := exists_change_of_step hs hF
    cases hf.symm.trans hF''
    exact .inl ⟨F, rfl, hchange⟩
  | none =>
    cases Move.of_step hs with
    | @register i q o hc =>
      rcases getElem?_concat hf with hf | ⟨rfl, rfl⟩
      · cases hF.symm.trans hf
      · exact .inr ⟨i, q, o, rfl, hc, rfl, rfl⟩
    | start =>
      rcases getElem?_set_cases hf with ⟨rfl, -⟩ | ⟨-, hf⟩
      · simp_all
      · cases hF.symm.trans hf
    | _ => simp_all [leave, setCaller, call]

theorem History.since_le {storage : Nat} {os : List Occurrence} {F : Future}
    (h : History setup (start storage) os s) (hf : s.futures[f]? = some F) : F.since ≤ s.instant := by
  induction h generalizing F with
  | nil => cases hf
  | snoc _ hs ih =>
    refine Nat.le_trans ?_ (Move.of_step hs).instant_le
    rcases origin_of_step hs hf with ⟨G, hG, hchange⟩ | ⟨i, q, o, -, -, -, rfl⟩
    · cases hchange with
      | idle | progress => exact (ih hG : G.since ≤ _)
      | start => exact Nat.le_refl _
    · exact Nat.zero_le _

end System

/-- What a future has performed is what its task performs, up to where it stands. -/
inductive Underway (setup : Setup) (os : List Occurrence) (f : Nat) : Option Future → Prop
  | absent (h : performed f os = []) : Underway setup os f none
  | idle {F : Future} (hw : F.work = .idle) (h : performed f os = []) : Underway setup os f (some F)
  | begun {F : Future} {u : System} {p : TaskTree Credential} (hstart : ⟨u, .start f⟩ ∈ os)
      (hu : u.instant = F.since) (hp : F.work.program? = some p)
      (h : (ExceptT.run (setup.task F.order F.since)).Follows (performed f os) p) :
      Underway setup os f (some F)

namespace System

variable {setup : Setup} {storage : Nat} {s s' : System} {l : Label} {os : List Occurrence} {f : Nat}

theorem performed_of_absent (hs : s.step setup l = some s') (hf : s.futures[f]? = none) :
    performed f (os ++ [⟨s, l⟩]) = performed f os := by
  refine performed_concat_of_ne (fun hl => ?_) os
  obtain ⟨F, -, hF, -⟩ := progress_of_step hs hl
  cases hf.symm.trans hF

theorem underway_of_step (hs : s.step setup l = some s')
    (h : Underway setup os f (s.futures[f]?)) :
    Underway setup (os ++ [⟨s, l⟩]) f (s'.futures[f]?) := by
  cases hf : s.futures[f]? with
  | none =>
    rw [hf] at h
    cases h with
    | absent h =>
      have hnone : performed f (os ++ [⟨s, l⟩]) = [] := (performed_of_absent hs hf).trans h
      cases hf' : s'.futures[f]? with
      | none => exact .absent hnone
      | some F' =>
        rcases origin_of_step hs hf' with ⟨F, hF, -⟩ | ⟨i, q, o, -, -, -, rfl⟩
        · cases hf.symm.trans hF
        · exact .idle rfl hnone
  | some F =>
    obtain ⟨F', hf', hchange⟩ := exists_change_of_step hs hf
    rw [hf] at h
    rw [hf']
    cases hchange with
    | idle driver hstart hl =>
      have hsame : performed f (os ++ [⟨s, l⟩]) = performed f os := performed_concat_of_ne hl os
      cases h with
      | idle hw h => exact .idle hw (hsame.trans h)
      | begun hmem hu hp h => exact .begun (List.mem_append_left _ hmem) hu hp (hsame ▸ h)
    | start =>
      cases h with
      | idle hw h =>
        have hsame : performed f (os ++ [⟨s, .start f⟩]) = [] :=
          (performed_concat_of_ne (by simp [Label.worker?]) os).trans h
        refine .begun (u := s) (by simp) rfl rfl ?_
        rw [hsame]
        exact .nil _
      | begun hmem hu hp h => cases hp
    | @progress _ _ work hl hp =>
      cases h with
      | idle hw h =>
        rw [hw] at hp
        cases hp
      | @begun _ u p hmem hu hp' h =>
        have hmem' : ⟨u, .start f⟩ ∈ os ++ [⟨s, l⟩] := List.mem_append_left _ hmem
        have hw : s.work? f = some F.work := by simp [work?, hf]
        rcases hp.performed_cases hl hw with ⟨hnone, hsame⟩ | ⟨a, r, next, hsome, hperform, rfl⟩
        · refine .begun hmem' hu (hsame.trans hp') ?_
          simpa [performed_concat, hnone] using h
        · cases hp'.symm.trans hperform
          refine .begun hmem' hu rfl ?_
          rw [performed_concat, hsome]
          exact h.snoc r

theorem History.underway (h : History setup (start storage) os s) (f : Nat) :
    Underway setup os f (s.futures[f]?) := by
  induction h with
  | nil => exact .absent rfl
  | snoc _ hstep ih => exact underway_of_step hstep ih

end System

end Acquisition

end ConsumerConnector
