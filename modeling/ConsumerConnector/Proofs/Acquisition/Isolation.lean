import ConsumerConnector.Proofs.Acquisition.Provenance
import ConsumerConnector.Proofs.Acquisition.Sharing

/-!
Acquisitions for different assets or endpoints are kept apart as far as their keys are. A key is the
asset with the endpoint behind it and nothing in between, so an asset that goes on with the start of
an endpoint takes part in the acquisition of another one.
-/

namespace ConsumerConnector.Acquisition

theorem storageKey_cases {asset endpoint asset' endpoint' : String}
    (h : storageKey asset endpoint = storageKey asset' endpoint') :
    ∃ x, asset' = asset ++ x ∧ endpoint = x ++ endpoint' ∨
      asset = asset' ++ x ∧ endpoint' = x ++ endpoint := by
  have hlists : asset.toList ++ endpoint.toList = asset'.toList ++ endpoint'.toList := by
    simpa [storageKey] using congrArg String.toList h
  rcases List.append_eq_append_iff.1 hlists with ⟨x, hasset, hendpoint⟩ | ⟨x, hasset, hendpoint⟩
  · refine ⟨.ofList x, .inl ?_⟩
    simp [← String.toList_inj, hasset, hendpoint]
  · refine ⟨.ofList x, .inr ?_⟩
    simp [← String.toList_inj, hasset, hendpoint]

namespace Request

/-- What one of the requests has at the end of its asset the other has at the start of its endpoint. -/
def Confused (p q : Request) : Prop :=
  ∃ x, x ≠ "" ∧
    (q.asset = p.asset ++ x ∧ p.endpoint = x ++ q.endpoint ∨
      p.asset = q.asset ++ x ∧ q.endpoint = x ++ p.endpoint)

/-- Two requests have the same key exactly if they are for the same, or confused. -/
theorem key_eq_iff {p q : Request} :
    p.key = q.key ↔ (p.asset = q.asset ∧ p.endpoint = q.endpoint) ∨ p.Confused q := by
  constructor
  · intro h
    obtain ⟨x, hx⟩ := storageKey_cases h
    by_cases hempty : x = ""
    · subst hempty
      left
      rcases hx with ⟨hasset, hendpoint⟩ | ⟨hasset, hendpoint⟩
      · exact ⟨by simpa using hasset.symm, by simpa using hendpoint⟩
      · exact ⟨by simpa using hasset, by simpa using hendpoint.symm⟩
    · exact .inr ⟨x, hempty, hx⟩
  · rintro (⟨hasset, hendpoint⟩ | ⟨x, -, ⟨hasset, hendpoint⟩ | ⟨hasset, hendpoint⟩⟩)
    · rw [key, key, hasset, hendpoint]
    · rw [key, key, storageKey, storageKey, hasset, hendpoint, String.append_assoc]
    · rw [key, key, storageKey, storageKey, hasset, hendpoint, String.append_assoc]

end Request

namespace System

variable {setup : Setup} {storage : Nat} {s : System} {os : List Occurrence}

/-- A caller gets neither the future nor the credential of an acquisition for something else, unless
the two requests are confused. -/
theorem acquisitions_kept_apart (h : History setup (start storage) os s) {i j f : Nat}
    {p q : Request} {o : Order} {result : Except ClientError Ticket} (hr : Registered os i p o f)
    (hc : s.callers[j]? = some (.returned q result))
    (hdistinct : (p.asset, p.endpoint) ≠ (q.asset, q.endpoint)) (hclear : ¬ p.Confused q) :
    result ≠ .ok (.ongoing f) ∧
      ∀ c, result = .ok (.ready c) →
        ∃ before u wall after w, os = before ++ ⟨u, .classify j wall⟩ :: after ∧
          u.callers[j]? = some (.entered q) ∧ lastWrite? before q.key = some w ∧
          w.credential = c ∧ w.author ≠ some f := by
  have hkey : p.key ≠ q.key := by
    intro heq
    rcases Request.key_eq_iff.1 heq with ⟨hasset, hendpoint⟩ | hconfused
    · exact hdistinct (Prod.ext hasset hendpoint)
    · exact hclear hconfused
  obtain ⟨F, hF, hFkey, -⟩ := h.future_of_registered hr
  constructor
  · rintro rfl
    obtain ⟨G, hG, hGkey⟩ := h.future_of_shared hc
    cases hF.symm.trans hG
    exact hkey (hFkey.symm.trans hGkey)
  · rintro c rfl
    obtain ⟨before, u, wall, after, w, rfl, hu, hw, hcred⟩ := h.lastWrite?_of_ready hc
    refine ⟨before, u, wall, after, w, rfl, hu, hw, hcred, fun hauthor => ?_⟩
    have hmem : w ∈ (before ++ ⟨u, .classify j wall⟩ :: after).filterMap Occurrence.write? := by
      rw [List.filterMap_append]
      exact List.mem_append_left _ (mem_of_lastWrite? hw)
    obtain ⟨G, hG, hGkey⟩ := h.future_of_author hmem hauthor
    cases hF.symm.trans hG
    exact hkey (hFkey.symm.trans (hGkey.trans (key_of_lastWrite? hw)))

theorem exists_registered (setup : Setup) (s : System) (ls : List Label) (i : Nat) (ls' : List Label)
    {s₁ u₁ t : System} {q : Request} {o : Order} {f : Nat} (h : s.run? setup ls = some s₁)
    (hs : s₁.step setup (.register i) = some u₁) (h' : u₁.run? setup ls' = some t)
    (hc : s₁.callers[i]? = some (.selected q o)) (hf : s₁.futures.length = f) :
    ∃ os, os.map Occurrence.label = ls ++ .register i :: ls' ∧ History setup s os t ∧
      Registered os i q o f := by
  obtain ⟨before, after, hlabels, hos⟩ := History.of_run?_amid setup s ls (.register i) ls' h hs h'
  exact ⟨_, hlabels, hos, s₁, by simp, hc, hf⟩

def requestFor (asset endpoint : String) : Request :=
  .ofItem endpoint ⟨"item", asset, "offer", "partner", .empty⟩ "partner"

/-- A caller finds out whether there is a credential. -/
def ask (i : Nat) (q : Request) : List Label := [.call q, .enter i, .classify i (.ofUnix 0)]

/-- A future comes to a short-lived credential, and its driver stores it. -/
def untilStored (f : Nat) : List Label :=
  [.start f, .pause f, .look f, .deliver (.stored "agreement" shortLived), .inspect f, .conclude f,
    .notice f, .store f]

theorem acquisitions_kept_apart_twoAssets :
    ∃ os s o, History generous (start 0) os s ∧
      os.map Occurrence.label = ask 0 (requestFor "first" "https://provider") ++
        [.join 0, .register 0] ++ ask 1 (requestFor "second" "https://provider") ++
        [.join 1, .register 1] ++ untilStored 1 ++
        ask 2 (requestFor "second" "https://provider") ∧
      Registered os 0 (requestFor "first" "https://provider") o 0 ∧
      s.callers[2]? = some
        (.returned (requestFor "second" "https://provider") (.ok (.ready shortLived))) ∧
      ∃ before u wall after w, os = before ++ ⟨u, .classify 2 wall⟩ :: after ∧
        lastWrite? before "secondhttps://provider" = some w ∧ w.credential = shortLived ∧
        w.author ≠ some 0 := by
  obtain ⟨os, hlabels, h, hr⟩ := exists_registered generous (start 0)
    (ask 0 (requestFor "first" "https://provider") ++ [.join 0]) 0
    (ask 1 (requestFor "second" "https://provider") ++ [.join 1, .register 1] ++ untilStored 1 ++
      ask 2 (requestFor "second" "https://provider")) rfl rfl rfl rfl rfl
  have hclear : ¬ (requestFor "first" "https://provider").Confused
      (requestFor "second" "https://provider") := by
    intro hconfused
    exact absurd (Request.key_eq_iff.2 (.inr hconfused)) (by decide)
  obtain ⟨-, hready⟩ := acquisitions_kept_apart h hr (j := 2) rfl (by decide) hclear
  obtain ⟨before, u, wall, after, w, hos, -, hw, hcred, hauthor⟩ := hready shortLived rfl
  exact ⟨os, _, _, h, hlabels, hr, rfl, before, u, wall, after, w, hos, hw, hcred, hauthor⟩

def behindProxy : Request :=
  requestFor "asset" "https://proxy.example/https://provider.example"

def directly : Request :=
  requestFor "assethttps://proxy.example/" "https://provider.example"

/-- A caller with a confused request gets the future that the first one has registered, and a later
one the credential that its driver has stored. -/
theorem confused_requests_share :
    ∃ s₀ s, (start 0).run? generous (ask 0 behindProxy ++ [.join 0, .register 0] ++
        ask 1 directly ++ [.join 1]) = some s₀ ∧
      s₀.run? generous (untilStored 0 ++ ask 2 directly) = some s ∧
      (behindProxy.asset, behindProxy.endpoint) ≠ (directly.asset, directly.endpoint) ∧
      s₀.futures.length = 1 ∧
      s₀.callers[0]? = some (.returned behindProxy (.ok (.ongoing 0))) ∧
      s₀.callers[1]? = some (.returned directly (.ok (.ongoing 0))) ∧
      s.callers[2]? = some (.returned directly (.ok (.ready shortLived))) :=
  ⟨_, _, rfl, rfl, by decide, rfl, rfl, rfl, rfl⟩

end System

end ConsumerConnector.Acquisition
