import ConsumerConnector.Configuration.Validation
import Mathlib.Data.List.DropRight
import Mathlib.Logic.Function.Iterate

/-!
Suffixes of addresses, appended again and again. Slashes at the end of an address are dropped before its
suffix is looked for, so a suffix that ends in slashes itself is never found, unless slashes are all it is.
-/

namespace ConsumerConnector

namespace Text

variable {c : Char} {s t : String}

theorem dropTrailing_dropTrailing : dropTrailing c (dropTrailing c s) = dropTrailing c s := by
  simp [← String.toList_inj, List.dropWhile_idempotent]

theorem length_dropTrailing_le : (dropTrailing c s).length ≤ s.length := by
  have hle := (List.dropWhile_sublist (· == c) (l := s.toList.reverse)).length_le
  simpa [← String.length_toList] using hle

theorem dropTrailing_append (h : dropTrailing c t ≠ "") :
    dropTrailing c (s ++ t) = s ++ dropTrailing c t := by
  have hkept : (t.toList.reverse.dropWhile (· == c)).isEmpty = false := by
    simpa [← String.toList_inj] using h
  simp [← String.toList_inj, List.dropWhile_append, hkept]

theorem dropTrailing_append_of_eq_empty (h : dropTrailing c t = "") :
    dropTrailing c (s ++ t) = dropTrailing c s := by
  have hgone : (t.toList.reverse.dropWhile (· == c)).isEmpty = true := by
    simpa [← String.toList_inj] using h
  simp [← String.toList_inj, List.dropWhile_append, hgone]

theorem endsWith_iff : endsWith s t ↔ ∃ lead, s = lead ++ t := by
  rw [endsWith, List.isSuffixOf_iff_suffix]
  constructor
  · rintro ⟨lead, h⟩
    exact ⟨String.ofList lead, by simp [← String.toList_inj, h]⟩
  · rintro ⟨lead, rfl⟩
    exact ⟨lead.toList, by simp⟩

end Text

namespace Address

open Text (dropTrailing)

/-- Slashes at its end are none of a suffix or all of it. -/
def IsSettled (suffix : String) : Prop :=
  dropTrailing '/' suffix = suffix ∨ dropTrailing '/' suffix = ""

instance (suffix : String) : Decidable (IsSettled suffix) :=
  inferInstanceAs (Decidable (_ ∨ _))

variable {address suffix : String}

theorem withSuffix_of_endsWith (hne : suffix ≠ "")
    (h : Text.endsWith (dropTrailing '/' address) suffix) :
    withSuffix address suffix = dropTrailing '/' address := by
  rw [withSuffix, if_neg (by simpa using hne), if_pos h]

theorem withSuffix_of_not_endsWith (hne : suffix ≠ "")
    (h : ¬ Text.endsWith (dropTrailing '/' address) suffix) :
    withSuffix address suffix = dropTrailing '/' address ++ suffix := by
  rw [withSuffix, if_neg (by simpa using hne), if_neg h]

/-- What has no slashes at its end does not end in what has some there. -/
theorem dropTrailing_of_endsWith (hne : suffix ≠ "")
    (h : Text.endsWith (dropTrailing '/' address) suffix) : dropTrailing '/' suffix = suffix := by
  obtain ⟨lead, hlead⟩ := Text.endsWith_iff.1 h
  have hbare : dropTrailing '/' (lead ++ suffix) = lead ++ suffix := by
    rw [← hlead, Text.dropTrailing_dropTrailing]
  by_cases hgone : dropTrailing '/' suffix = ""
  · have hle : (dropTrailing '/' lead).length ≤ lead.length := Text.length_dropTrailing_le
    rw [← Text.dropTrailing_append_of_eq_empty hgone, hbare, String.length_append] at hle
    exact absurd (String.length_eq_zero_iff.1 (by omega)) hne
  · rwa [Text.dropTrailing_append hgone, String.append_right_inj] at hbare

theorem withSuffix_withSuffix (h : IsSettled suffix) :
    withSuffix (withSuffix address suffix) suffix = withSuffix address suffix := by
  by_cases hne : suffix = ""
  · subst hne
    rfl
  by_cases hends : Text.endsWith (dropTrailing '/' address) suffix
  · rw [withSuffix_of_endsWith hne hends, withSuffix_of_endsWith hne, Text.dropTrailing_dropTrailing]
    rwa [Text.dropTrailing_dropTrailing]
  · rw [withSuffix_of_not_endsWith hne hends]
    rcases h with hkept | hgone
    · have hbare : dropTrailing '/' (dropTrailing '/' address ++ suffix) =
          dropTrailing '/' address ++ suffix := by
        rw [Text.dropTrailing_append (by rwa [hkept]), hkept]
      rw [withSuffix_of_endsWith hne, hbare]
      rw [hbare]
      exact Text.endsWith_iff.2 ⟨_, rfl⟩
    · have hbare : dropTrailing '/' (dropTrailing '/' address ++ suffix) = dropTrailing '/' address := by
        rw [Text.dropTrailing_append_of_eq_empty hgone, Text.dropTrailing_dropTrailing]
      rw [withSuffix_of_not_endsWith hne, hbare]
      rwa [hbare]

/-- A suffix that is not settled comes once more each time, every time but the last without its slashes. -/
theorem iterate_withSuffix (h : ¬ IsSettled suffix) (n : Nat) :
    (withSuffix · suffix)^[n + 1] address = dropTrailing '/' address ++
      String.join (List.replicate n (dropTrailing '/' suffix)) ++ suffix := by
  obtain ⟨hkept, hgone⟩ := not_or.1 h
  have hne : suffix ≠ "" := fun heq => hgone (by rw [heq]; rfl)
  have hends : ∀ a, ¬ Text.endsWith (dropTrailing '/' a) suffix :=
    fun a ha => hkept (dropTrailing_of_endsWith hne ha)
  induction n with
  | zero => simpa using withSuffix_of_not_endsWith hne (hends address)
  | succ n ih =>
    rw [Function.iterate_succ_apply', ih, withSuffix_of_not_endsWith hne (hends _),
      Text.dropTrailing_append hgone, List.replicate_succ']
    simp [String.append_assoc]

/-- Appending a suffix again changes nothing exactly if the suffix is settled; one that is not is appended
again each time, to any address. -/
theorem withSuffix_idempotent_iff (address suffix : String) :
    (withSuffix (withSuffix address suffix) suffix = withSuffix address suffix ↔ IsSettled suffix) ∧
      (¬ IsSettled suffix → ∀ n, (withSuffix · suffix)^[n + 1] address = dropTrailing '/' address ++
        String.join (List.replicate n (dropTrailing '/' suffix)) ++ suffix) := by
  refine ⟨⟨fun h => ?_, withSuffix_withSuffix⟩, iterate_withSuffix⟩
  by_contra hsettled
  have hlonger : withSuffix (withSuffix address suffix) suffix =
      dropTrailing '/' address ++ String.join [dropTrailing '/' suffix] ++ suffix :=
    iterate_withSuffix hsettled 1
  have honce : withSuffix address suffix = dropTrailing '/' address ++ String.join [] ++ suffix :=
    iterate_withSuffix hsettled 0
  rw [hlonger, honce] at h
  have hgone : dropTrailing '/' suffix = "" := by simpa using h
  exact hsettled (.inr hgone)

/-- A configuration that only sets what a provider's address ends in. -/
def ending (suffix : String) : Configuration :=
  { Configuration.default with
    controlPlane := { Configuration.ControlPlane.default with
      management := { Management.Settings.default with url := "https://plane.example/management" }
      suffix } }

/-- A path with a slash at its end passes the check, and an address that ends in it gets it again. -/
theorem checked_suffix_repeated :
    (ending "/api/v1/dsp/").check = .ok () ∧
      withSuffix "https://provider.example" "/api/v1/dsp/" = "https://provider.example/api/v1/dsp/" ∧
      withSuffix "https://provider.example/api/v1/dsp/" "/api/v1/dsp/" =
        "https://provider.example/api/v1/dsp/api/v1/dsp/" :=
  ⟨rfl, rfl, rfl⟩

end Address

end ConsumerConnector
