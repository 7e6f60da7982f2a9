import ConsumerConnector.Configuration.Settings
import ConsumerConnector.ControlPlane.Retry
import ConsumerConnector.Proofs.Url.LetterCase
import Mathlib.Data.List.Nodup

/-!
Which policy a host's calls are repeated under. A configuration that passed its check names every host
once, so the order of its entries does not matter, and an address finds the entry of its domain however it
spells it.
-/

namespace ConsumerConnector.Configuration

variable {hosts : List HostBackoff} {r : RetryRegistry} {seen : List String}

theorem nodup_of_checkHosts (h : checkHosts seen hosts = .ok ()) :
    (hosts.map HostBackoff.name).Nodup ∧ ∀ e ∈ hosts, e.name ∉ seen := by
  induction hosts generalizing seen with
  | nil => exact ⟨.nil, nofun⟩
  | cons e rest ih =>
    simp only [checkHosts, Check.andThen_eq_ok, demand_eq_ok, Bool.not_eq_true'] at h
    obtain ⟨-, hnew, -, hrest⟩ := h
    obtain ⟨hnodup, hfresh⟩ := ih hrest
    have hnew : e.name ∉ seen := by simpa using hnew
    refine ⟨?_, List.forall_mem_cons.2 ⟨hnew, fun e' he' hmem => ?_⟩⟩
    · rw [List.map_cons, List.nodup_cons]
      refine ⟨fun hmem => ?_, hnodup⟩
      obtain ⟨e', he', hname⟩ := List.mem_map.1 hmem
      exact hfresh e' he' (by simp [hname])
    · exact hfresh e' he' (List.mem_cons_of_mem _ hmem)

theorem nodup_names {c : Configuration} (h : c.check = .ok ()) :
    (c.retry.hosts.map HostBackoff.name).Nodup := by
  simp only [check, Retry.check, Check.andThen_eq_ok] at h
  exact (nodup_of_checkHosts h.2.2.2.1.2.2).1

/-- A registry once the entries of some hosts have been added. -/
def addHosts (r : RetryRegistry) (hosts : List HostBackoff) : RetryRegistry :=
  hosts.foldl (fun r h => r.withHost h.name h.backoff.policy) r

theorem policyFor_addHosts_of_absent {name : String} (h : name ∉ hosts.map HostBackoff.name) :
    (addHosts r hosts).policyFor name = r.policyFor name := by
  induction hosts generalizing r with
  | nil => rfl
  | cons e rest ih =>
    rw [List.map_cons, List.mem_cons, not_or] at h
    calc
      (addHosts r (e :: rest)).policyFor name
      _ = (r.withHost e.name e.backoff.policy).policyFor name := ih h.2
      _ = r.policyFor name := by rw [RetryRegistry.policyFor_withHost, if_neg h.1]

theorem policyFor_addHosts_of_mem (hnodup : (hosts.map HostBackoff.name).Nodup) {e : HostBackoff}
    (he : e ∈ hosts) : (addHosts r hosts).policyFor e.name = e.backoff.policy := by
  induction hosts generalizing r with
  | nil => cases he
  | cons e' rest ih =>
    rw [List.map_cons, List.nodup_cons] at hnodup
    rcases List.mem_cons.1 he with rfl | he
    · calc
        (addHosts r (e :: rest)).policyFor e.name
        _ = (r.withHost e.name e.backoff.policy).policyFor e.name :=
          policyFor_addHosts_of_absent hnodup.1
        _ = e.backoff.policy := by rw [RetryRegistry.policyFor_withHost, if_pos rfl]
    · exact ih hnodup.2 he

theorem policyFor_addHosts_of_perm {hosts' : List HostBackoff}
    (hnodup : (hosts.map HostBackoff.name).Nodup) (hperm : hosts'.Perm hosts) (name : String) :
    (addHosts r hosts').policyFor name = (addHosts r hosts).policyFor name := by
  have hnames : (hosts'.map HostBackoff.name).Perm (hosts.map HostBackoff.name) := hperm.map _
  by_cases hname : name ∈ hosts.map HostBackoff.name
  · obtain ⟨e, he, rfl⟩ := List.mem_map.1 hname
    rw [policyFor_addHosts_of_mem hnodup he,
      policyFor_addHosts_of_mem (hnames.nodup_iff.2 hnodup) (hperm.mem_iff.2 he)]
  · rw [policyFor_addHosts_of_absent hname, policyFor_addHosts_of_absent (mt hnames.mem_iff.1 hname)]

/-- A host's calls are repeated under the policy of the entry with its name, and those of a host without an
entry under the default, in whatever order the entries come. A call that goes to an address of such a host
finds the entry in any letter case. -/
theorem retries_by_name {c : Configuration} (h : c.check = .ok ()) :
    (∀ e ∈ c.retry.hosts, c.retryRegistry.policyFor e.name = e.backoff.policy) ∧
      (∀ name, name ∉ c.retry.hosts.map HostBackoff.name →
        c.retryRegistry.policyFor name = c.retry.backoff.policy) ∧
      (∀ hosts, hosts.Perm c.retry.hosts → ∀ name,
        ({ c with retry := { c.retry with hosts } }).retryRegistry.policyFor name =
          c.retryRegistry.policyFor name) ∧
      ∀ e ∈ c.retry.hosts, ∀ address, Url.LeadsTo e.name address →
        ∀ (σ : Type) (p : Plane σ) (own : String) (call : Call) (s : σ), call.address? = some address →
          p.retrying c.retryRegistry own call s =
            let run := p.attempts e.backoff.policy e.name call s
            (run.result, run.state) := by
  have hnodup := nodup_names h
  have hof : ∀ e ∈ c.retry.hosts, c.retryRegistry.policyFor e.name = e.backoff.policy :=
    fun e he => policyFor_addHosts_of_mem hnodup he
  refine ⟨hof, fun name hname => policyFor_addHosts_of_absent hname,
    fun hosts hperm name => policyFor_addHosts_of_perm hnodup hperm name, ?_⟩
  intro e he address hleads σ p own call s hcall
  have hhost : Plane.retryHost own call = e.name := by
    rw [Plane.retryHost, hcall, Option.map_some, Option.getD_some, hleads.hostOf_eq]
  simp only [Plane.retrying, hhost, hof e he]

def insistent : Backoff := ⟨5, 0, 0, 1.0⟩

/-- Two hosts of their own, one of them spelled at length. -/
def overridden : Configuration :=
  { Configuration.default with
    controlPlane := { ControlPlane.default with
      management := { Management.Settings.default with url := "https://plane.example/management" } }
    retry := ⟨.default, [⟨" Provider.Example\n", insistent⟩, ⟨"other.example", ⟨1, 0, 0, 1.0⟩⟩]⟩ }

/-- The domain of the first entry in yet another letter case. -/
def spelled : Url.WebAddress where
  scheme := "HTTPS"
  slashes := ['/', '/']
  user := some ['m', 'e']
  domain := "PROVIDER.example"
  port := some ['8', '4', '4', '3']
  rest := "/api/v1/dsp".toList
  isWeb := .inr rfl
  isSlash := List.all_eq_true.1 rfl
  isUser := by
    rintro u hu
    cases hu
    exact List.forall_mem_cons.2 ⟨rfl, List.forall_mem_singleton.2 rfl⟩
  isDomain := by
    have hplain : "PROVIDER.example".toList.all (! Url.Domain.isForbidden ·) := rfl
    exact ⟨List.all_eq_true.1 rfl, fun c hc => by simpa using List.all_eq_true.1 hplain c hc, rfl, _, rfl⟩
  isPort := by
    rintro ds hds
    cases hds
    exact ⟨List.all_eq_true.1 rfl, by decide⟩
  isRest := by
    rintro c hc
    cases hc
    rfl

/-- A plane that is never reached. -/
def cutOff : Plane Unit := fun _ s => (.error (.connect "refused"), s)

def browsing : Call := .getCatalog ⟨"dataspace-protocol-http", spelled.text, "partner", .all⟩

theorem retries_by_name_overridden :
    overridden.check = .ok () ∧
      spelled.text = "HTTPS://me@PROVIDER.example:8443/api/v1/dsp" ∧
      overridden.retryRegistry.policyFor "provider.example" = insistent.policy ∧
      overridden.retryRegistry.policyFor "elsewhere.example" = Backoff.default.policy ∧
      (cutOff.retrying overridden.retryRegistry "plane.example" browsing ()).1 =
        .error (.retriesExhausted "provider.example" 5 (.connect "refused")) := by
  have hcheck : overridden.check = .ok () := rfl
  obtain ⟨hof, helse, -, hcall⟩ := retries_by_name hcheck
  have hfirst : (⟨" Provider.Example\n", insistent⟩ : HostBackoff) ∈ overridden.retry.hosts :=
    List.mem_cons_self
  have hname : (⟨" Provider.Example\n", insistent⟩ : HostBackoff).name = "provider.example" := rfl
  have hdomain : Text.lowerAscii spelled.domain = "provider.example" := rfl
  have hruns := hcall _ hfirst _ (.written spelled (hdomain.trans hname.symm)) Unit cutOff
    "plane.example" browsing () rfl
  have hpolicy := hof _ hfirst
  rw [hname] at hruns hpolicy
  refine ⟨hcheck, rfl, hpolicy, helse _ (by decide), ?_⟩
  rw [hruns]
  rfl

end ConsumerConnector.Configuration
