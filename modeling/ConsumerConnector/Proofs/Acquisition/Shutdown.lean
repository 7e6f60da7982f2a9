import ConsumerConnector.Proofs.Acquisition.History
import ConsumerConnector.Proofs.Acquisition.Registry

/-!
What can still happen after a shutdown. Newcomers are turned away, but a caller looks for the signal
only when it comes: one that had come before may be waiting for the lock or for a catalog and go on to
register a future. So there are no more late futures than callers that were without an answer.
-/

namespace ConsumerConnector.Acquisition

def Caller.isUnanswered : Caller → Bool
  | .returned .. => false
  | _ => true

namespace System

def unanswered (s : System) : Nat := s.callers.countP Caller.isUnanswered

/-- Everyone who has come after so many others has been turned away. -/
def TurnsAway (s : System) (n : Nat) : Prop :=
  ∀ i c, n ≤ i → s.callers[i]? = some c → ∃ q, c = .returned q (.error isShutDown)

variable {setup : Setup} {s s' u : System} {l : Label} {os : List Occurrence} {i n : Nat}
  {c d : Caller}

theorem unanswered_setCaller (hc : s.callers[i]? = some c) (hopen : c.isUnanswered = true)
    (d : Caller) :
    (s.setCaller i d).unanswered + 1 = s.unanswered + if d.isUnanswered then 1 else 0 := by
  obtain ⟨hlt, rfl⟩ := List.getElem?_eq_some_iff.1 hc
  have hpos : 0 < s.callers.countP Caller.isUnanswered :=
    List.countP_pos_iff.2 ⟨_, List.getElem_mem hlt, hopen⟩
  simp only [unanswered, setCaller, List.countP_set hlt, if_pos hopen]
  omega

theorem unanswered_setCaller_le (hc : s.callers[i]? = some c) (hopen : c.isUnanswered = true)
    (d : Caller) : (s.setCaller i d).unanswered ≤ s.unanswered := by
  have h := unanswered_setCaller hc hopen d
  split at h <;> omega

/-- Whoever registers is no longer without an answer. -/
theorem Move.late_le (hm : Move setup s l s') (hs : s.shutdown = true) :
    s'.futures.length + s'.unanswered ≤ s.futures.length + s.unanswered := by
  cases hm with
  | call q => simp [System.call, unanswered, hs, Caller.isUnanswered]
  | enter hc | hit hc | miss hc | share hc | bring hc | search hc | supply hc | refuse hc =>
    exact Nat.add_le_add_left (unanswered_setCaller_le hc rfl _) _
  | @register i q o hc =>
    have h : (s.setCaller i (.returned q (.ok (.ongoing s.futures.length)))).unanswered + 1 =
        s.unanswered := unanswered_setCaller hc rfl _
    rw [List.length_append, List.length_singleton, Nat.add_assoc, Nat.add_comm 1]
    exact Nat.add_le_add_left (Nat.le_of_eq h) _
  | start => simp [unanswered]
  | work | succeed | fail | stop => simp [setWork, setDriver, unanswered]
  | store | remove => simp [setDriver, unanswered]
  | deliver | evict | clear | shutdown | elapse | advance => exact Nat.le_refl _

theorem Move.turnsAway (hm : Move setup s l s') (hs : s.shutdown = true) (h : s.TurnsAway n) :
    s'.TurnsAway n := by
  intro i d hi hd
  cases hm with
  | call q =>
    rcases getElem?_call hd with hd | rfl
    · exact h i d hi hd
    · exact ⟨q, by rw [if_pos hs]⟩
  | enter hc | hit hc | miss hc | share hc | bring hc | search hc | supply hc | refuse hc
  | register hc =>
    rcases getElem?_setCaller hd with ⟨rfl, rfl⟩ | ⟨-, hd⟩
    · obtain ⟨q, hq⟩ := h i _ hi hc
      cases hq
    · exact h i d hi hd
  | start | work | succeed | fail | store | remove | stop => exact h i d hi hd
  | deliver | evict | clear | shutdown | elapse | advance => exact h i d hi hd

theorem Move.shutdown_eq (hm : Move setup s l s') (hs : s.shutdown = true) :
    s'.shutdown = true := by
  cases hm with
  | shutdown => rfl
  | _ => exact hs

/-- After a shutdown newcomers are turned away at once, and no more futures are registered than
callers had come before and were still without an answer. -/
theorem late_futures_bounded (h : History setup s os u) (hs : s.shutdown = true) :
    u.TurnsAway s.callers.length ∧
      u.futures.length + u.unanswered ≤ s.futures.length + s.unanswered := by
  have hrun : u.shutdown = true ∧ u.TurnsAway s.callers.length ∧
      u.futures.length + u.unanswered ≤ s.futures.length + s.unanswered := by
    induction h with
    | nil =>
      refine ⟨hs, fun i c hi hc => ?_, Nat.le_refl _⟩
      cases (List.getElem?_eq_none hi).symm.trans hc
    | snoc _ hstep ih =>
      obtain ⟨hdown, haway, hle⟩ := ih
      have hm := Move.of_step hstep
      exact ⟨hm.shutdown_eq hdown, hm.turnsAway hdown haway, Nat.le_trans (hm.late_le hdown) hle⟩
  exact hrun.2

/-- A caller waits for the lock when everything is shut down. -/
def shutdownAmidCall : List Label :=
  [.call someRequest, .shutdown, .enter 0, .classify 0 (.ofUnix 0), .join 0, .register 0, .start 0]

/-- It registers a future all the same, which may start. -/
theorem waiting_caller_registers_late :
    ∃ s, (start 10).run? hopeless (shutdownAmidCall.take 2) = some s ∧ s.shutdown = true ∧
      s.registry.get? someRequest.key = none ∧
      ∃ u, s.run? hopeless (shutdownAmidCall.drop 2) = some u ∧
        u.callers[0]? = some (.returned someRequest (.ok (.ongoing 0))) ∧
        u.registry.get? someRequest.key = some 0 ∧ (u.work? 0).bind Work.result? ≠ none :=
  ⟨_, rfl, rfl, rfl, _, rfl, rfl, rfl, nofun⟩

end System

end ConsumerConnector.Acquisition
