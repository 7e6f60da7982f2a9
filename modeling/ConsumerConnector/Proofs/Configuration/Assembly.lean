import ConsumerConnector.Configuration.Assembly
import Mathlib.Data.List.TakeWhile
import Mathlib.Tactic.Conv

/-!
Whether what a configuration describes can be put together. Validation reads the management address
without the blanks around it, a client reads the address as it is, and only a client looks at what the
user agent is made of.
-/

namespace ConsumerConnector

namespace Text

/-- The blanks that a text starts with. -/
def lead (s : String) : List Char := s.toList.takeWhile isBlank

/-- The blanks that a text ends in, the last one first. -/
def tail (s : String) : List Char := s.toList.reverse.takeWhile isBlank

variable {p q : Char → Bool} {cs : List Char}

theorem strip_append_left {lead : List Char} (h : ∀ c ∈ lead, p c) :
    strip p (lead ++ cs) = strip p cs := by
  rw [strip, List.dropWhile_append_of_pos h, strip]

theorem strip_append_right {tail : List Char} (h : ∀ c ∈ tail, p c) :
    strip p (cs ++ tail) = strip p cs := by
  rw [strip, strip, List.dropWhile_append]
  cases hcs : cs.dropWhile p with
  | nil => simp [List.dropWhile_eq_nil_iff.2 h]
  | cons c rest =>
    have htail : ∀ c ∈ tail.reverse, p c := fun c hc => h c (List.mem_reverse.1 hc)
    simp [List.dropWhile_append_of_pos htail]

theorem strip_strip (hlead : ∀ c ∈ cs.takeWhile p, q c) (htail : ∀ c ∈ cs.reverse.takeWhile p, q c) :
    strip q (strip p cs) = strip q cs := by
  obtain ⟨lead, tail, hcs, hl, ht⟩ := exists_strip p cs
  conv_rhs => rw [hcs]
  rw [strip_append_right fun c hc => htail c (ht c hc),
    strip_append_left fun c hc => hlead c (hl c hc)]

/-- A character that is kept at the start stays the first one. -/
theorem exists_strip_eq_cons (h : ∃ c ∈ cs.takeWhile p, q c = false) :
    ∃ c rest, strip q cs = c :: rest ∧ p c ∧ q c = false := by
  induction cs with
  | nil => simp at h
  | cons a cs ih =>
    cases hp : p a with
    | false => simp [hp] at h
    | true =>
      cases hq : q a with
      | true =>
        have hstrip : strip q ([a] ++ cs) = strip q cs := strip_append_left (by simpa)
        rw [List.singleton_append] at hstrip
        rw [hstrip]
        exact ih (by simpa [hp, hq] using h)
      | false =>
        refine ⟨a, (cs.reverse.dropWhile q).reverse, ?_, hp, hq⟩
        rw [strip, List.dropWhile_cons_of_neg (by simp [hq]), List.reverse_cons, List.dropWhile_append]
        cases hrest : cs.reverse.dropWhile q with
        | nil => simp [hq]
        | cons b rest => simp

end Text

namespace Url

theorem parse_trim {s : String} (h : ∀ c ∈ Text.lead s ++ Text.tail s, isOuterBlank c) :
    parse (Text.trim s) = parse s := by
  rw [parse, parse, Text.toList_trim, Text.strip_strip]
  · exact fun c hc => h c (List.mem_append_left _ hc)
  · exact fun c hc => h c (List.mem_append_right _ hc)

/-- No scheme starts with a blank. -/
theorem parse_of_wide_blank {s : String}
    (h : ∃ c ∈ Text.lead s, isOuterBlank c = false) :
    parse s = .error .relativeWithoutBase := by
  obtain ⟨c, rest, hstrip, hblank, hwide⟩ := Text.exists_strip_eq_cons h
  have hwide : 32 < c.toNat := by simpa [isOuterBlank] using hwide
  have hignored : isIgnored c = false := by
    simp only [isIgnored, Bool.or_eq_false_iff, beq_eq_false_iff_ne]
    refine ⟨⟨?_, ?_⟩, ?_⟩ <;> rintro rfl <;> exact absurd hwide (by decide)
  have hupper : c.isUpper = decide ('A'.val ≤ c.val ∧ c.val ≤ 'Z'.val) := rfl
  have hlower : c.isLower = (decide ('a'.val ≤ c.val) && decide (c.val ≤ 'z'.val)) := rfl
  have halpha : c.isAlpha = false := by
    have hletter : c.isAlpha = (c.isUpper || c.isLower) := rfl
    simp only [Text.isBlank, Bool.or_eq_true, Bool.and_eq_true, beq_iff_eq, decide_eq_true_eq] at hblank
    rw [← Bool.not_eq_true, hletter, hupper, hlower]
    simp only [UInt32.le_iff_toNat_le, Bool.or_eq_true, Bool.and_eq_true, decide_eq_true_eq]
    simp only [Char.toNat, Char.reduceVal, UInt32.reduceToNat] at *
    omega
  have hscheme : scheme? (c :: rest.filter (! isIgnored ·)) = none := by
    rw [scheme?, List.head?_cons, Option.bind_eq_bind, Option.bind_some, halpha]
    rfl
  rw [parse, hstrip, List.filter_cons_of_pos (by simp [hignored]), hscheme]

end Url

namespace Management.Client

/-- Whether a client takes an address as it stands. -/
def Takes (s : String) : Prop :=
  ∃ url, Url.parse s = .ok url ∧ checkAddress url = .ok ()

theorem make_eq_ok_iff {s : Settings} :
    (∃ c, make s = .ok c) ↔ Takes s.url ∧ isHeaderValue s.userAgent := by
  rw [make, Takes]
  cases hurl : Url.parse s.url with
  | error e => simp [Except.mapError, bind, Except.bind]
  | ok url =>
    cases haddress : checkAddress url with
    | error e => simp [haddress, Except.mapError, bind, Except.bind]
    | ok =>
      cases isHeaderValue s.userAgent <;>
        simp [haddress, Except.mapError, bind, Except.bind, pure, Except.pure]

end Management.Client

namespace Configuration

theorem takes_of_checkUrl {field value : String} (h : checkUrl field value = .ok ()) :
    Management.Client.Takes (Text.trim value) := by
  cases hurl : Url.parse (Text.trim value) with
  | error e =>
    rw [checkUrl, hurl] at h
    cases h
  | ok url =>
    have hdemands : (do
        demand (url.scheme == "http" || url.scheme == "https") (.schemeUnsupported field)
        demand url.host.isSome (.hostMissing field)
        demand (!url.hasCredentials) (.credentialsEmbedded field)) = Except.ok () := by
      rw [checkUrl, hurl] at h
      exact h
    simp only [Check.andThen_eq_ok, demand_eq_ok, Bool.or_eq_true, beq_iff_eq,
      Bool.not_eq_true'] at hdemands
    obtain ⟨hscheme, hhost, hcredentials⟩ := hdemands
    refine ⟨url, hurl, ?_⟩
    rcases hscheme with hscheme | hscheme <;>
      simp [Management.Client.checkAddress, hscheme, hcredentials, ← Option.not_isSome, hhost]

theorem assemble_eq {c : Configuration} (h : c.check = .ok ()) :
    assemble c = ((Management.Client.make c.controlPlane.management).mapError
      (ConfigurationError.invalid <| .client ·)).map (⟨c, ·⟩) := by
  rw [assemble, validate, h]
  cases Management.Client.make c.controlPlane.management <;> rfl

theorem management_url_checked {c : Configuration} (h : c.check = .ok ()) :
    checkUrl "controlplane.management_url" c.controlPlane.management.url = .ok () := by
  simp only [check, ControlPlane.check, Check.andThen_eq_ok] at h
  exact h.1.2.1

/-- A configuration that passed its check is put together exactly if a client takes the address as it
stands and can send the user agent; a client is all that can fail. Blanks around the address are harmless
where they are ASCII, and no address with another blank at its start is taken. -/
theorem assembles_iff {c : Configuration} (h : c.check = .ok ()) :
    let m := c.controlPlane.management
    ((∃ a, assemble c = .ok a) ↔
        Management.Client.Takes m.url ∧ Management.Client.isHeaderValue m.userAgent) ∧
      (∀ e, assemble c = .error e → ∃ cause, e = .invalid (.client cause)) ∧
      ((∀ b ∈ Text.lead m.url ++ Text.tail m.url, Url.isOuterBlank b) →
        Management.Client.Takes m.url) ∧
      ((∃ b ∈ Text.lead m.url, Url.isOuterBlank b = false) → ¬ Management.Client.Takes m.url) := by
  refine ⟨?_, ?_, fun hblank => ?_, ?_⟩
  · rw [← Management.Client.make_eq_ok_iff, assemble_eq h]
    cases Management.Client.make c.controlPlane.management <;> simp [Except.mapError, Except.map]
  · intro e he
    rw [assemble_eq h] at he
    cases hmake : Management.Client.make c.controlPlane.management with
    | error cause =>
      rw [hmake] at he
      cases he
      exact ⟨cause, rfl⟩
    | ok client =>
      rw [hmake] at he
      cases he
  · obtain ⟨url, hurl, haddress⟩ := takes_of_checkUrl (management_url_checked h)
    exact ⟨url, Url.parse_trim hblank ▸ hurl, haddress⟩
  · rintro hblank ⟨url, hurl, -⟩
    rw [Url.parse_of_wide_blank hblank] at hurl
    cases hurl

def reaching (url userAgent : String) : Configuration :=
  { Configuration.default with
    controlPlane := { ControlPlane.default with
      management := { Management.Settings.default with url, userAgent } } }

theorem assembles_iff_spaced :
    (reaching " http://provider.example/management\n" "agent").check = .ok () ∧
      ∃ a, assemble (reaching " http://provider.example/management\n" "agent") = .ok a := by
  have hcheck : (reaching " http://provider.example/management\n" "agent").check = .ok () := rfl
  obtain ⟨hiff, -, htakes, -⟩ := assembles_iff hcheck
  exact ⟨hcheck, hiff.2 ⟨htakes (List.all_eq_true.1 rfl), rfl⟩⟩

/-- Neither an agent with a control character nor a wide blank before the address fails the check. -/
theorem checked_and_refused :
    (reaching "http://provider.example" "agent\x07").check = .ok () ∧
      assemble (reaching "http://provider.example" "agent\x07") =
        .error (.invalid (.client (.request "http client build failed: <build error>"))) ∧
    (reaching "\u00a0http://provider.example" "agent").check = .ok () ∧
      assemble (reaching "\u00a0http://provider.example" "agent") =
        .error (.invalid (.client (.request "invalid management url: relative URL without a base"))) := by
  refine ⟨rfl, rfl, rfl, rfl⟩

end Configuration

end ConsumerConnector
