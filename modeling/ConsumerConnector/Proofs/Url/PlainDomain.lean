import ConsumerConnector.Url.Host

/-!
Domains in ASCII. None of what makes other domains hard applies to them: they are known by their names in
lower case.
-/

namespace ConsumerConnector

namespace Url

namespace Domain

theorem isAscii_cases {P : Char → Prop} (h : ∀ n < 128, P (Char.ofNat n)) {c : Char}
    (hc : isAscii c) : P c := by
  have hn := h c.toNat (of_decide_eq_true hc)
  rwa [Char.ofNat_toNat] at hn

theorem isAscii_toLower {c : Char} (h : isAscii c) : isAscii c.toLower :=
  isAscii_cases (P := fun c => isAscii c.toLower) (by decide) h

theorem joinLabels_eq (labels : List Label) :
    joinLabels labels = ['.'].intercalate (labels.map Label.ascii) := by
  induction labels with
  | nil => rfl
  | cons label rest ih =>
    cases rest with
    | nil => simp [joinLabels]
    | cons next rest =>
      rw [joinLabels, ih, List.map_cons, List.map_cons, List.map_cons, List.intercalate_cons_cons,
        List.append_assoc]
      · rfl
      · simp

theorem ascii_of_ofFolded? {cs : List Char} {label : Label} (h : cs.all isAscii)
    (hlabel : Label.ofFolded? cs = some label) : label.ascii = cs := by
  rw [Label.ofFolded?] at hlabel
  split at hlabel
  · obtain ⟨-, -, hlabel⟩ := Option.bind_eq_some_iff.1 hlabel
    obtain ⟨shown, -, hlabel⟩ := Option.bind_eq_some_iff.1 hlabel
    obtain ⟨-, -, hlabel⟩ := Option.bind_eq_some_iff.1 hlabel
    cases hlabel
    rfl
  · rw [if_pos h] at hlabel
    cases hlabel
    rfl

theorem map_ascii_of_mapM {pieces : List (List Char)} {labels : List Label}
    (h : ∀ p ∈ pieces, p.all isAscii) (hlabels : pieces.mapM Label.ofFolded? = some labels) :
    labels.map Label.ascii = pieces := by
  induction pieces generalizing labels with
  | nil =>
    cases hlabels
    rfl
  | cons p pieces ih =>
    simp only [List.mapM_cons, Option.bind_eq_bind, Option.bind_eq_some_iff, Option.pure_def,
      Option.some.injEq] at hlabels
    obtain ⟨label, hlabel, labels, hrest, rfl⟩ := hlabels
    obtain ⟨hp, hpieces⟩ := List.forall_mem_cons.1 h
    rw [List.map_cons, ascii_of_ofFolded? hp hlabel, ih hpieces hrest]

theorem mapM_fold? {cs : List Char} (h : ∀ c ∈ cs, isAscii c) :
    cs.mapM fold? = some (cs.map fun c => [c.toLower]) := by
  induction cs with
  | nil => rfl
  | cons c cs ih =>
    obtain ⟨hc, hcs⟩ := List.forall_mem_cons.1 h
    simp [fold?, hc, ih hcs]

theorem mapM_id_scan_toUTF8 (s : String) :
    (Text.Utf8.scan ⟨s.toUTF8.data.toList.toArray⟩).mapM id = some s.toList := by
  have hall (cs : List Char) : (cs.map some).mapM id = some cs := by
    induction cs with
    | nil => rfl
    | cons c cs ih => simp [ih]
  rw [Array.toArray_toList, Text.Utf8.scan_toUTF8, hall]

/-- A domain in ASCII comes out in lower case. -/
theorem eq_of_ascii? {cs domain : List Char} (h : ∀ c ∈ cs, isAscii c)
    (hdomain : ascii? (String.ofList cs).toUTF8.data.toList = some domain) :
    domain = cs.map Char.toLower := by
  have hlower : (cs.map Char.toLower).all isAscii := by
    simpa using fun c hc => isAscii_toLower (h c hc)
  have hflat : (cs.map fun c => [c.toLower]).flatten = cs.map Char.toLower := by
    rw [← List.flatMap_def, List.map_eq_flatMap]
  obtain ⟨read, hread, hdomain⟩ := Option.bind_eq_some_iff.1 hdomain
  rw [mapM_id_scan_toUTF8, String.toList_ofList] at hread
  cases hread
  obtain ⟨folded, hfolded, hdomain⟩ := Option.bind_eq_some_iff.1 hdomain
  rw [mapM_fold? h] at hfolded
  cases hfolded
  obtain ⟨-, -, hdomain⟩ := Option.bind_eq_some_iff.1 hdomain
  obtain ⟨labels, hlabels, hdomain⟩ := Option.bind_eq_some_iff.1 hdomain
  rw [hflat, compose_of_ascii hlower] at hlabels
  obtain ⟨-, -, hdomain⟩ := Option.bind_eq_some_iff.1 hdomain
  obtain ⟨-, -, hdomain⟩ := Option.bind_eq_some_iff.1 hdomain
  cases hdomain
  rw [joinLabels_eq, map_ascii_of_mapM _ hlabels, Text.intercalate_pieces]
  intro p hp
  refine List.all_eq_true.2 fun c hc => List.all_eq_true.1 hlower c ?_
  exact (Text.flatten_pieces_sublist '.' _).subset (List.mem_flatten_of_mem hp hc)

end Domain

namespace Host

theorem ne_of_isForbidden {c d : Char} (hc : Domain.isForbidden c = false)
    (hd : Domain.isForbidden d = true) : c ≠ d := by
  rintro rfl
  rw [hc] at hd
  cases hd

theorem percentDecode_of_plain {cs : List Char} (h : ∀ c ∈ cs, c ≠ '%') :
    percentDecode cs = (String.ofList cs).toUTF8.data.toList := by
  induction cs with
  | nil => rfl
  | cons c cs ih =>
    obtain ⟨hc, hcs⟩ := List.forall_mem_cons.1 h
    have hsplit : String.ofList (c :: cs) = String.singleton c ++ String.ofList cs := by
      simp
    rw [percentDecode, ih hcs, hsplit]
    · simp
    · exact fun _ _ _ heq => absurd heq hc

/-- A domain written in ASCII, in any letter case: addresses may have it as their host, and it does not
stand for a number. -/
structure IsDomain (name : String) : Prop where
  isAscii : ∀ c ∈ name.toList, Domain.isAscii c
  isPlain : ∀ c ∈ name.toList, Domain.isForbidden c = false
  isNamed : Ipv4.endsInNumber (Text.lowerAscii name).toList = false
  isTaken : ∃ host, parse name.toList = .ok host

namespace IsDomain

variable {name : String}

theorem bracketed_eq (h : IsDomain name) : bracketed name.toList = none := by
  unfold bracketed
  split
  · next rest heq =>
    exact absurd rfl (ne_of_isForbidden (h.isPlain '[' (by simp [heq])) rfl)
  · rfl

/-- It is known in lower case. -/
theorem parse_eq (h : IsDomain name) : parse name.toList = .ok (Text.lowerAscii name) := by
  have hplain : ∀ c ∈ name.toList, c ≠ '%' := fun c hc => ne_of_isForbidden (h.isPlain c hc) rfl
  have hnamed : Ipv4.endsInNumber (name.toList.map Char.toLower) = false := by
    simpa using h.isNamed
  obtain ⟨host, hhost⟩ := h.isTaken
  rw [parse, h.bracketed_eq, percentDecode_of_plain hplain] at hhost ⊢
  cases hascii : Domain.ascii? (String.ofList name.toList).toUTF8.data.toList with
  | none =>
    rw [hascii] at hhost
    cases hhost
  | some domain =>
    obtain rfl := Domain.eq_of_ascii? h.isAscii hascii
    cases hempty : (name.toList.map Char.toLower).isEmpty with
    | true =>
      simp only [hascii, hempty, if_true] at hhost
      cases hhost
    | false => simp [hempty, hnamed, Text.lowerAscii]

theorem ne_empty (h : IsDomain name) : name ≠ "" := by
  rintro rfl
  obtain ⟨host, hhost⟩ := h.isTaken
  cases hhost

theorem lowerAscii_ne_empty (h : IsDomain name) : Text.lowerAscii name ≠ "" := by
  intro hempty
  have hnil : name.toList.map Char.toLower = [] := by
    rw [← Text.toList_lowerAscii, hempty]
    rfl
  exact h.ne_empty (by simpa using hnil)

end IsDomain

end Host

end Url

end ConsumerConnector
