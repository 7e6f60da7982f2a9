import ConsumerConnector.Management.Client
import ConsumerConnector.Proofs.ControlPlane.Attempts

/-!
Responses with a status that another attempt may improve on. Their size is looked at before their
status is, so the one that is too large is a failure of another kind, and the call is not repeated.
-/

namespace ConsumerConnector.Management

namespace HttpResponse

/-- The size a response is held to: what was announced, else what came. -/
def size (r : HttpResponse) : Nat :=
  r.announced.getD r.body.size

/-- What a response is taken for that reports a failure, in the order in which this is decided. -/
def failure (timeout limit : Nat) (r : HttpResponse) : TransportError :=
  if timeout ≤ r.delay then .timeout exchangeFailure
  else if limit < r.size then tooLarge
  else if r.body.size < r.size then .connect ("failed to read response: " ++ exchangeFailure)
  else .status r.status (excerpt r.body)

end HttpResponse

variable {timeout limit : Nat} {r : HttpResponse}

theorem readBody_eq (limit : Nat) (r : HttpResponse) :
    readBody limit r =
      if limit < r.size then .error tooLarge
      else if r.body.size < r.size then
        .error (.connect ("failed to read response: " ++ exchangeFailure))
      else .ok r.body := by
  cases h : r.announced <;> simp [readBody, HttpResponse.size, h]

theorem receive_of_not_success (h : isSuccess r.status = false) :
    receive timeout limit (.response r) = .error (r.failure timeout limit) := by
  rw [receive, readBody_eq, HttpResponse.failure]
  by_cases hlate : timeout ≤ r.delay
  · simp only [if_pos hlate]
  by_cases hlarge : limit < r.size
  · simp only [if_neg hlate, if_pos hlarge]
    rfl
  by_cases hcut : r.body.size < r.size
  · simp only [if_neg hlate, if_neg hlarge, if_pos hcut]
    rfl
  simp only [if_neg hlate, if_neg hlarge, if_neg hcut]
  simp [bind, Except.bind, h]

theorem isSuccess_of_isRetryableStatus {status : Nat}
    (h : TransportError.isRetryableStatus status = true) : isSuccess status = false := by
  simp only [TransportError.isRetryableStatus, Bool.or_eq_true, decide_eq_true_eq, beq_iff_eq] at h
  simp only [isSuccess, Bool.and_eq_false_iff, decide_eq_false_iff_not]
  omega

theorem isRetryable_failure (timeout limit : Nat) (h : TransportError.isRetryableStatus r.status = true) :
    (r.failure timeout limit).isRetryable = true ↔ timeout ≤ r.delay ∨ r.size ≤ limit := by
  unfold HttpResponse.failure
  split
  case isTrue hlate => exact iff_of_true rfl (.inl hlate)
  split
  case isTrue hlate hlarge => exact iff_of_false nofun (by omega)
  have hsize : timeout ≤ r.delay ∨ r.size ≤ limit := by omega
  split
  · exact iff_of_true rfl hsize
  · exact iff_of_true h hsize

/-- A call that is answered with a passing failure is repeated exactly if the response is late or within
the limit. In time and within the limit, a response that comes in full is passed on with its status. -/
theorem failing_response_repeated_iff {σ : Type} {client : Client} {transport : Transport σ}
    {call : Call} {request : HttpRequest} {s s' : σ}
    (hrequest : client.request call = .ok request)
    (hresponse : transport request s = (.response r, s'))
    (hstatus : TransportError.isRetryableStatus r.status = true) :
    ∃ e, client.plane transport call s = (.error e, s') ∧
      (e.isRetryable = true ↔
        client.settings.timeout ≤ r.delay ∨ r.size ≤ client.settings.responseLimit) ∧
      (e.isRetryable = false → e = tooLarge) ∧
      (r.delay < client.settings.timeout → r.size ≤ client.settings.responseLimit →
        r.size ≤ r.body.size → e = .status r.status (excerpt r.body)) ∧
      ∀ (policy : RetryPolicy) (host : String), 1 < policy.maxAttempts →
        (1 < ((client.plane transport).recorded.attempts policy host call (s, [])).state.2.length ↔
          client.settings.timeout ≤ r.delay ∨ r.size ≤ client.settings.responseLimit) := by
  have hplane : client.plane transport call s =
      (.error (r.failure client.settings.timeout client.settings.responseLimit), s') := by
    simp only [Client.plane, hrequest, hresponse,
      receive_of_not_success (isSuccess_of_isRetryableStatus hstatus)]
    rfl
  have hretry := isRetryable_failure client.settings.timeout client.settings.responseLimit hstatus
  refine ⟨_, hplane, hretry, fun hfinal => ?_, fun htime hsize hwhole => ?_, fun policy host hmost => ?_⟩
  · have hlarge : ¬ (client.settings.timeout ≤ r.delay ∨ r.size ≤ client.settings.responseLimit) := by
      simp [← hretry, hfinal]
    rw [not_or, Nat.not_le, Nat.not_le] at hlarge
    rw [HttpResponse.failure, if_neg (Nat.not_le.2 hlarge.1), if_pos hlarge.2]
  · rw [HttpResponse.failure, if_neg (Nat.not_le.2 htime), if_neg (Nat.not_lt.2 hsize),
      if_neg (Nat.not_lt.2 hwhole)]
  · have hmany : 1 < policy.attempts := Nat.lt_of_lt_of_le hmost (Nat.le_max_right ..)
    rw [Plane.called_again_iff _ _ _ _ _ hmany, ← hretry, not_settles_iff, Plane.outcome]
    simp only [Plane.stateAfter, Function.iterate_zero, id_eq, hplane]
    simp

def modest (limit : Nat) : Client :=
  ⟨{ Settings.default with responseLimit := limit }, "http://host"⟩

def busy : HttpResponse := ⟨503, "busy".toUTF8, some 4, 0⟩

/-- Busy once. -/
def recovering : Transport Bool
  | _, true => (.response busy, false)
  | _, false => (.response ⟨200, "\x7b\"state\":\"FINALIZED\"\x7d".toUTF8, none, 0⟩, false)

/-- With a limit of four bytes. -/
theorem failing_response_repeated_iff_busy :
    let call := Call.getNegotiationState "id"
    let plane := (modest 4).plane recovering
    plane call true = (.error (.status 503 "busy"), false) ∧
      1 < (plane.recorded.attempts (patience 2) "host" call (true, [])).state.2.length := by
  have hrequest : (modest 4).request (.getNegotiationState "id") =
      .ok ⟨"GET", "/v2/contractnegotiations/id/state", Client.headers (modest 4).settings false, none⟩ :=
    rfl
  have hresponse : ∀ request, recovering request true = (.response busy, false) := fun _ => rfl
  obtain ⟨e, hplane, -, -, hstatus, hcalls⟩ :=
    failing_response_repeated_iff hrequest (hresponse _) rfl
  have he : e = .status 503 "busy" := hstatus (by decide) (by decide) (by decide)
  exact ⟨he ▸ hplane, (hcalls (patience 2) "host" (by decide)).2 (.inr (by decide))⟩

/-- With a limit of three bytes the same response is taken for one that no attempt can improve on. -/
theorem oversized_failure_final :
    TransportError.isRetryableStatus busy.status = true ∧ busy.delay < 30000 ∧
      busy.announced = some busy.body.size ∧
      receive 30000 3 (.response busy) = .error tooLarge ∧ tooLarge.isRetryable = false := by
  refine ⟨rfl, ?_, rfl, ?_, rfl⟩
  · decide
  · rfl

end ConsumerConnector.Management
