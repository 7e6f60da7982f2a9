import ConsumerConnector.Configuration.Settings
import ConsumerConnector.Proofs.Acquisition.Delivery

/-!
Whether a delivered credential is still there when it is looked for. A look may come a poll interval
after the delivery, and meanwhile every write, under whatever key, sweeps out what is older than the
storage duration. Nothing in a configuration keeps these two apart.
-/

namespace ConsumerConnector

open Acquisition Contract

/-- How acquisitions wait, as a configuration says. -/
def Configuration.setup (c : Configuration) (negotiator : Order → Task Transfer) : Setup :=
  ⟨negotiator, c.credentials.requestTtl, c.credentials.pollInterval⟩

/-- How long credentials are kept, in instants. -/
def Configuration.storage (c : Configuration) : Nat :=
  RetryPolicy.milliseconds c.credentials.storage

namespace Acquisition

/-- Once a future has started, a credential is stored under the contract that the future waits for, and
a look of that wait comes later. -/
structure Polled (setup : Setup) (before : List Occurrence) (store : Occurrence)
    (between : List Occurrence) (poll : Occurrence) (f : Nat) (F : Future) (t : Transfer) (d : Write) :
    Prop where
  started : ∃ G, store.state.futures[f]? = some G ∧ G.work ≠ .idle
  stored : store.write? = some d
  polled : poll.label = .inspect f
  future : poll.state.futures[f]? = some F
  negotiated : Negotiated setup (before ++ store :: between) f F t
  awaits : Awaits F.order t d.key

/-- A future has come to a credential, or does so as soon as it concludes its look. -/
def System.ComesTo (setup : Setup) (s : System) (f : Nat) (c : Credential) : Prop :=
  (s.work? f).bind Work.result? = some (.ok c) ∨
    ∃ s', s.step setup (.conclude f) = some s' ∧ (s'.work? f).bind Work.result? = some (.ok c)

/-- Work that cannot but end with a credential. -/
inductive Work.Has (c : Credential) : Work → Prop
  | found {contract : String} {since : Nat} {limits : Limits} {started : Nat}
      {next : Except ClientError Credential → TaskTree Credential} (h : next (.ok c) = .done (.ok c)) :
      Has c (.looking (.credential contract since) limits started (.done (.ok (some c))) next)
  | ended : Has c (.running (.done (.ok c)))

namespace System

variable {setup : Setup} {s s' u : System} {l : Label} {os os' : List Occurrence} {f : Nat}
  {c : Credential}

/-- What was stored at `n` or later stays there as long as no write comes too late for it. -/
theorem Move.entry_kept (hm : Move setup s l s') {key : String} {n : Nat} (hn : n ≤ s.instant)
    (hkeeps : (Occurrence.mk s l).Keeps)
    (htimely : ∀ w, (Occurrence.mk s l).write? = some w → w.instant ≤ n + s.cache.storage)
    (h : ∃ e, s.cache.entries.get? key = some e ∧ n ≤ e.storedAt) :
    ∃ e, s'.cache.entries.get? key = some e ∧ n ≤ e.storedAt := by
  obtain ⟨e, he, hle⟩ := h
  rcases hm.cache_cases with ⟨w, hw, hc⟩ | ⟨-, hc | ⟨key', rfl, -⟩ | ⟨rfl, -⟩⟩
  · have hinstant : w.instant = s.instant := Occurrence.instant_of_write? hw
    have hlate : w.instant ≤ n + s.cache.storage := htimely w hw
    rw [hc, Credential.Cache.get?_entries_put]
    by_cases hk : key = w.key
    · refine ⟨⟨w.credential, w.instant⟩, ?_, hinstant ▸ hn⟩
      rw [if_pos hk, Option.filter_some_pos (by simp)]
    · refine ⟨e, ?_, hle⟩
      have hyoung : w.instant - e.storedAt ≤ s.cache.storage := by omega
      rw [if_neg hk, he, Option.filter_some_pos (by simpa using hyoung)]
  · exact ⟨e, hc ▸ he, hle⟩
  · exact (hkeeps.2 key' rfl).elim
  · exact (hkeeps.1 rfl).elim

theorem History.entry_kept (h : History setup s os s') {key : String} {n : Nat}
    (hn : n ≤ s.instant) (hkeeps : ∀ o ∈ os, o.Keeps)
    (htimely : ∀ o ∈ os, ∀ w, o.write? = some w → w.instant ≤ n + s.cache.storage)
    (he : ∃ e, s.cache.entries.get? key = some e ∧ n ≤ e.storedAt) :
    ∃ e, s'.cache.entries.get? key = some e ∧ n ≤ e.storedAt := by
  induction h with
  | nil => exact he
  | @snoc os t u l h hs ih =>
    have ht := ih (fun o ho => hkeeps o (List.mem_append_left _ ho))
      (fun o ho => htimely o (List.mem_append_left _ ho))
    have hlast : (⟨t, l⟩ : Occurrence) ∈ os ++ [⟨t, l⟩] := by simp
    refine (Move.of_step hs).entry_kept (Nat.le_trans hn h.instant_le) (hkeeps _ hlast) ?_ ht
    rw [h.storage_eq]
    exact htimely _ hlast

theorem entry_of_write (hs : s.step setup l = some s') {w : Write}
    (hw : (Occurrence.mk s l).write? = some w) : s'.cache.entries.get? w.key = some w.entry := by
  rcases (Move.of_step hs).cache_cases with ⟨w', hw', hc⟩ | ⟨hnone, -⟩
  · cases hw.symm.trans hw'
    rw [hc, Credential.Cache.get?_entries_put, if_pos rfl, Option.filter_some_pos (by simp)]
    rfl
  · cases hw.symm.trans hnone

theorem has_of_step (hs : s.step setup l = some s') {w : Work} (hw : s.work? f = some w)
    (h : w.Has c) : ∃ w', s'.work? f = some w' ∧ w'.Has c := by
  obtain ⟨F, hf, rfl⟩ := Option.map_eq_some_iff.1 hw
  obtain ⟨F', hf', hchange⟩ := exists_change_of_step hs hf
  refine ⟨F'.work, by simp [work?, hf'], ?_⟩
  cases hchange with
  | idle => exact h
  | start => cases h
  | @progress _ _ work hl hp =>
    generalize F.work = w at hp h
    cases h with
    | found hnext =>
      cases hp with
      | again ha => cases ha
      | decide ha =>
        cases ha
        rw [hnext]
        exact .ended
    | ended => cases hp

theorem History.has (h : History setup s os s') {w : Work} (hw : s.work? f = some w)
    (hc : w.Has c) : ∃ w', s'.work? f = some w' ∧ w'.Has c := by
  induction h with
  | nil => exact ⟨w, hw, hc⟩
  | snoc _ hs ih =>
    obtain ⟨w', hw', hc'⟩ := ih
    exact has_of_step hs hw' hc'

theorem comesTo_of_has {w : Work} (hw : s.work? f = some w) (h : w.Has c) :
    s.ComesTo setup f c := by
  cases h with
  | found hnext =>
    obtain ⟨F, hF, -⟩ := Option.map_eq_some_iff.1 hw
    refine .inr ⟨_, step_conclude_of_found hw, ?_⟩
    simp [work?_setWork_self hF, Work.result?, hnext]
  | ended => exact .inl (by simp [hw, Work.result?])

/-- A credential that is stored for a future is not lost, as long as no write comes more than the
storage duration after it: the look that follows decides for it, or for a later one. -/
theorem delivered_credential_kept {configuration : Configuration}
    {negotiator : Order → Task Transfer} {before between after : List Occurrence}
    {store poll : Occurrence} {F : Future} {t : Transfer} {d : Write}
    (h : History (configuration.setup negotiator) (start configuration.storage)
      (before ++ store :: (between ++ poll :: after)) s)
    (hp : Polled (configuration.setup negotiator) before store between poll f F t d)
    (hkeeps : ∀ o ∈ between, o.Keeps)
    (htimely : ∀ o ∈ between, ∀ w, o.write? = some w →
      w.instant ≤ d.instant + configuration.storage) :
    ∃ w, lastWrite? (before ++ store :: between) d.key = some w ∧ F.since ≤ w.instant ∧
      s.ComesTo (configuration.setup negotiator) f w.credential := by
  obtain ⟨hbefore, u, hstore, hrest⟩ := h.split
  obtain ⟨hbetween, v, hpoll, hafter⟩ := hrest.split
  have hstart : History (configuration.setup negotiator) (start configuration.storage)
      (before ++ store :: between) poll.state := by
    simpa using (hbefore.snoc hstore).trans hbetween
  have hinstant : d.instant = store.state.instant := Occurrence.instant_of_write? hp.stored
  -- The credential is in the cache when the look comes, or a later one in its place.
  obtain ⟨e, he, hstored⟩ : ∃ e, poll.state.cache.entries.get? d.key = some e ∧
      d.instant ≤ e.storedAt := by
    have hu : u.cache.storage = configuration.storage := (hbefore.snoc hstore).storage_eq
    refine hbetween.entry_kept ?_ hkeeps (hu ▸ htimely) ⟨_, entry_of_write hstore hp.stored, ?_⟩
    · exact hinstant ▸ (Move.of_step hstore).instant_le
    · exact Nat.le_refl _
  obtain ⟨w, hw, rfl⟩ := hstart.lastWrite?_of_entry he
  have hsince : F.since ≤ w.instant := by
    obtain ⟨G, hG, hne⟩ := hp.started
    have hle : G.since ≤ store.state.instant := hbefore.since_le hG
    obtain ⟨G', hG', hsame, -⟩ := (History.nil.snoc hstore |>.trans hbetween).since_eq hG hne
    cases hp.future.symm.trans hG'
    exact hsame ▸ Nat.le_trans hle (hinstant ▸ hstored)
  refine ⟨w, hw, hsince, ?_⟩
  rw [hp.polled] at hpoll
  obtain ⟨limits, started, next, hlook, hnext⟩ :=
    hstart.work?_of_inspect hp.future hp.negotiated (awaited_eq_ok.2 hp.awaits) hpoll
  rw [Credential.Cache.storedSince?_eq_some.2 ⟨w.instant, he, hsince⟩] at hlook
  obtain ⟨work, hwork, hhas⟩ := hafter.has hlook (.found (hnext _))
  exact comesTo_of_has hwork hhas

/-- A delivery and a look amid runs. -/
theorem exists_polled (setup : Setup) (storage : Nat) (ls ls' ls'' : List Label) (key : String)
    (c : Credential) (stored polled : Nat) {s₁ u₁ s₂ u₂ : System} {G F : Future} {t : Transfer}
    (h : (start storage).run? setup ls = some s₁)
    (hd : s₁.step setup (.deliver (.stored key c)) = some u₁) (h' : u₁.run? setup ls' = some s₂)
    (hp : s₂.step setup (.inspect f) = some u₂) (h'' : u₂.run? setup ls'' = some s)
    (hG : s₁.futures[f]? = some G) (hne : G.work ≠ .idle) (hF : s₂.futures[f]? = some F)
    (hn : ∀ os, Negotiated setup os f F t) (ha : Awaits F.order t key)
    (hstored : s₁.instant = stored) (hpolled : s₂.instant = polled) :
    ∃ before between after,
      (before ++ ⟨s₁, .deliver (.stored key c)⟩ :: (between ++ ⟨s₂, .inspect f⟩ :: after)).map
        Occurrence.label = ls ++ .deliver (.stored key c) :: (ls' ++ .inspect f :: ls'') ∧
      History setup (start storage)
        (before ++ ⟨s₁, .deliver (.stored key c)⟩ :: (between ++ ⟨s₂, .inspect f⟩ :: after)) s ∧
      Polled setup before ⟨s₁, .deliver (.stored key c)⟩ between ⟨s₂, .inspect f⟩ f F t
        ⟨key, c, stored, none⟩ ∧
      ∀ o ∈ between, ∀ w, o.write? = some w → w.instant ≤ polled := by
  subst hstored hpolled
  obtain ⟨before, rfl, hbefore⟩ := History.of_run? h
  obtain ⟨between, after, hlabels, hrest⟩ := History.of_run?_amid _ _ _ _ _ h' hp h''
  have hall := (hbefore.snoc hd).trans hrest
  refine ⟨before, between, after, ?_, by simpa using hall, ⟨⟨G, hG, hne⟩, rfl, rfl, hF, hn _, ha⟩,
    fun o ho w hw => ?_⟩
  · rw [List.map_append, List.map_cons, hlabels]
  · rw [Occurrence.instant_of_write? hw]
    exact hrest.split.1.instant_le_of_mem ho

/-- Credentials are kept for a shorter time than passes between two looks. -/
def impatient : Configuration :=
  { Configuration.default with
    controlPlane := { Configuration.ControlPlane.default with
      management := { Management.Settings.default with url := "http://127.0.0.1" } }
    credentials := ⟨2000, 1500, 1000⟩ }

def pass (ms : Nat) : List Label := [.advance ms, .elapse (RetryPolicy.milliseconds ms)]

/-- Some time passes after the first look. -/
def firstLook (ms : Nat) : List Label :=
  [.call someRequest, .enter 0, .classify 0 (.ofUnix 0), .join 0, .register 0, .start 0, .pause 0,
    .look 0, .inspect 0, .conclude 0] ++ pass ms

/-- A credential for someone else comes some time before the next look. -/
def nextLook (ms ms' : Nat) : List Label :=
  pass ms ++ .deliver (.stored "other" (tokenless "other")) :: pass ms' ++ [.look 0]

theorem keeps_of_labels {ls : List Label} (h : os.map Occurrence.label = ls)
    (hls : ∀ l ∈ ls, l ≠ .clear ∧ ∀ key, l ≠ .evict key) : ∀ o ∈ os, o.Keeps := by
  subst h
  exact fun o ho => hls _ (List.mem_map_of_mem ho)

/-- A credential is lost if another one comes more than the storage duration after it. -/
theorem delivered_credential_swept :
    ∃ before between after store poll s F t d,
      impatient.check = .ok () ∧
      History (impatient.setup (prompt "agreement").negotiator) (start impatient.storage)
        (before ++ store :: (between ++ poll :: after)) s ∧
      Polled (impatient.setup (prompt "agreement").negotiator) before store between poll 0 F t d ∧
      (∀ o ∈ before ++ store :: (between ++ poll :: after), o.Keeps) ∧
      (s.work? 0).bind Work.result? = some (.error
        (.timeout (Wait.credential "agreement" 0).activity 2000)) := by
  obtain ⟨before, between, after, hlabels, h, hpolled, -⟩ := exists_polled
    (impatient.setup (prompt "agreement").negotiator) impatient.storage (firstLook 100)
    (nextLook 1200 200) (.conclude 0 :: pass 1500 ++ [.look 0]) "agreement" (tokenless "lost")
    (RetryPolicy.milliseconds 100) (RetryPolicy.milliseconds 1500) (f := 0)
    rfl rfl rfl rfl rfl rfl nofun rfl (fun _ => ⟨nofun, [], _, rfl, .nil _⟩) (.inl ⟨nofun, rfl⟩)
    rfl rfl
  have hkeeps := keeps_of_labels hlabels (by simp [firstLook, nextLook, pass])
  exact ⟨before, between, after, _, _, _, _, _, _, rfl, h, hpolled, hkeeps, rfl⟩

theorem delivered_credential_kept_otherInTime :
    ∃ before between after store poll s F t d w,
      History (impatient.setup (prompt "agreement").negotiator) (start impatient.storage)
        (before ++ store :: (between ++ poll :: after)) s ∧
      (before ++ store :: (between ++ poll :: after)).map Occurrence.label = firstLook 600 ++
        .deliver (.stored "agreement" (tokenless "kept")) ::
          (nextLook 800 100 ++ [.inspect 0, .conclude 0]) ∧
      Polled (impatient.setup (prompt "agreement").negotiator) before store between poll 0 F t d ∧
      lastWrite? (before ++ store :: between) "agreement" = some w ∧ F.since ≤ w.instant ∧
      s.ComesTo (impatient.setup (prompt "agreement").negotiator) 0 w.credential ∧
      (s.work? 0).bind Work.result? = some (.ok (tokenless "kept")) := by
  obtain ⟨before, between, after, hlabels, h, hpolled, htimely⟩ := exists_polled
    (impatient.setup (prompt "agreement").negotiator) impatient.storage (firstLook 600)
    (nextLook 800 100) [.conclude 0] "agreement" (tokenless "kept")
    (RetryPolicy.milliseconds 600) (RetryPolicy.milliseconds 1500) (f := 0)
    rfl rfl rfl rfl rfl rfl nofun rfl (fun _ => ⟨nofun, [], _, rfl, .nil _⟩) (.inl ⟨nofun, rfl⟩)
    rfl rfl
  have hkeeps := keeps_of_labels hlabels (by simp [firstLook, nextLook, pass])
  have hbound : RetryPolicy.milliseconds 1500 ≤ RetryPolicy.milliseconds 600 + impatient.storage := by
    decide
  obtain ⟨w, hw, hsince, hcomes⟩ := delivered_credential_kept h hpolled
    (fun o ho => hkeeps o (by simp [ho])) fun o ho w hw => Nat.le_trans (htimely o ho w hw) hbound
  exact ⟨before, between, after, _, _, _, _, _, _, w, h, hlabels, hpolled, hw, hsince, hcomes, rfl⟩

end System

end Acquisition

end ConsumerConnector
