import ConsumerConnector.Proofs.Policy.Monotone

/-!
Which purposes accepted names admit. A purpose is compared with a name as it is and as a form value,
without the blanks around both and without a mark before either. Every name may also be asked for as
active, so a policy that is named like the operand of purposes admits what is called active.
-/

namespace ConsumerConnector.Policy

theorem localName_marked {mark name : String} (hmark : ':' ∉ mark.toList)
    (haddress : Text.contains [':', '/', '/'] (mark ++ ":" ++ name).toList = false) :
    localName (mark ++ ":" ++ name) = name := by
  have hsplit : Text.splitFirst ':' (mark ++ ":" ++ name) = some (mark, name) := by
    rw [Text.splitFirst_eq_some_iff]
    exact ⟨by simp, hmark⟩
  rw [localName, haddress, hsplit]
  rfl

theorem localName_cases (s : String) :
    localName s = s ∨ ∃ mark, ':' ∉ mark.toList ∧ s = mark ++ ":" ++ localName s := by
  rw [localName]
  split
  · exact .inl rfl
  cases hsplit : Text.splitFirst ':' s with
  | none => exact .inl rfl
  | some parts =>
    obtain ⟨hs, hmark⟩ := Text.splitFirst_eq_some_iff.1 hsplit
    exact .inr ⟨parts.1, hmark, String.toList_inj.1 (by simp [hs])⟩

/-- Blanks aside, a text is a name or it is the name under a mark. -/
def Names (name s : String) : Prop :=
  Text.trim s = name ∨ ∃ mark, ':' ∉ mark.toList ∧ Text.trim s = mark ++ ":" ++ name

theorem names_localName (s : String) : Names (localName (Text.trim s)) s := by
  obtain h | h := localName_cases (Text.trim s)
  · exact .inl h.symm
  · exact .inr h

theorem sameOperand_cases {s operand : String} (h : sameOperand s operand) :
    Text.trim s = Text.trim operand ∨ Names (localName (Text.trim operand)) s := by
  simp only [sameOperand, Bool.or_eq_true, beq_iff_eq] at h
  obtain hsame | hlocal := h
  · exact .inl hsame
  · exact .inr (hlocal ▸ names_localName s)

@[simp] theorem trim_purposeOperand : Text.trim purposeOperand = purposeOperand := by
  decide

@[simp] theorem localName_purposeOperand : localName purposeOperand = purposeOperand := by
  decide

@[simp] theorem trim_activeOperand : Text.trim activeOperand = activeOperand := by
  decide

@[simp] theorem localName_activeOperand : localName activeOperand = activeOperand := by
  decide

theorem mem_nameComparisons {id : String} {c : Comparison} :
    c ∈ nameComparisons id ↔ ∃ s ∈ spellings id,
      c = ⟨purposeOperand, .eq, s⟩ ∨ c = ⟨s, .eq, activeOperand⟩ := by
  simp [nameComparisons]

variable {accepted : List AcceptedPolicy} {offered : Policy} {v : String}

theorem isKnown_purpose_iff (hplain : ∀ p ∈ accepted, p.policy = none) :
    isKnown accepted ⟨purposeOperand, .eq, v⟩ ↔ ∃ p ∈ accepted, ∃ s ∈ spellings p.id,
      sameOperand s v ∨ (sameOperand s purposeOperand ∧ sameOperand activeOperand v) := by
  rw [isKnown_iff]
  apply exists_congr
  intro p
  apply and_congr_right
  intro hp
  have hown : acceptedComparisons p = nameComparisons p.id := by
    simp [acceptedComparisons, hplain p hp]
  rw [hown]
  constructor
  · rintro ⟨c, hc, haccepts⟩
    obtain ⟨s, hs, rfl | rfl⟩ := mem_nameComparisons.1 hc
    · exact ⟨s, hs, .inl (by simpa [Comparison.accepts] using haccepts)⟩
    · exact ⟨s, hs, .inr (by simpa [Comparison.accepts] using haccepts)⟩
  · rintro ⟨s, hs, hsame | ⟨hpurpose, hactive⟩⟩
    · refine ⟨_, mem_nameComparisons.2 ⟨s, hs, .inl rfl⟩, ?_⟩
      simp [Comparison.accepts, hsame]
    · refine ⟨_, mem_nameComparisons.2 ⟨s, hs, .inr rfl⟩, ?_⟩
      simp [Comparison.accepts, hpurpose, hactive]

/-- An offer whose one constraint is a purpose stands or falls with it. -/
theorem isAccepted_purpose_iff (hwild : ∀ p ∈ accepted, p.id ≠ wildcard)
    (hone : offered.permissions.flatMap (·.constraints) = [.equals purposeOperand v]) :
    offered.isAccepted accepted ↔ accepted ≠ [] ∧ (∀ p ∈ offered.permissions, p.isUse) ∧
      isKnown accepted ⟨purposeOperand, .eq, v⟩ := by
  have hno : ¬ ∃ p ∈ accepted, p.id = wildcard := fun ⟨p, hp, h⟩ => hwild p hp h
  have hmem : ∀ c, (∃ p ∈ offered.permissions, c ∈ p.constraints) ↔
      c = .equals purposeOperand v := by
    intro c
    rw [← List.mem_flatMap, hone, List.mem_singleton]
  have hcons : (∀ p ∈ offered.permissions, ∀ c ∈ p.constraints, c.eval (isKnown accepted)) ↔
      isKnown accepted ⟨purposeOperand, .eq, v⟩ := by
    constructor
    · intro h
      obtain ⟨p, hp, hc⟩ := (hmem _).2 rfl
      exact h p hp _ hc
    · intro h p hp c hc
      rw [(hmem c).1 ⟨p, hp, hc⟩]
      exact h
  rw [isAccepted_iff, or_iff_right hno, ← hcons]
  simp only [Permission.isGranted_iff, forall_and]

theorem exists_mark (hmark : ':' ∈ v.toList)
    (haddress : Text.contains [':', '/', '/'] v.toList = false) :
    ∃ mark name, ':' ∉ mark.toList ∧ Text.trim v = mark ++ ":" ++ name ∧
      localName (Text.trim v) = name := by
  have hkept : ':' ∈ (Text.trim v).toList := by
    rw [Text.toList_trim, Text.mem_strip (by decide)]
    exact hmark
  have hbare : Text.contains [':', '/', '/'] (Text.trim v).toList = false := by
    rw [← Bool.not_eq_true, Text.contains_iff] at haddress ⊢
    intro h
    apply haddress
    rw [Text.toList_trim] at h
    exact h.trans (Text.isInfix_strip Text.isBlank v.toList)
  obtain ⟨before, after, hsplit, hfirst⟩ := List.eq_append_cons_of_mem hkept
  have htrim : Text.trim v = String.ofList before ++ ":" ++ String.ofList after :=
    String.toList_inj.1 (by simp [hsplit])
  rw [htrim] at hbare ⊢
  have hfirst : ':' ∉ (String.ofList before).toList := by simpa using hfirst
  exact ⟨_, _, hfirst, rfl, localName_marked hfirst hbare⟩

end ConsumerConnector.Policy
