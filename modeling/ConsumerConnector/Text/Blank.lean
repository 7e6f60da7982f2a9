/-! Blank characters, the Unicode property White_Space, and texts without blanks at their ends. -/

namespace ConsumerConnector.Text

/-- Every character with the property White_Space; the ASCII ones are tab to carriage return and
the space. -/
def isBlank (c : Char) : Bool :=
  let n := c.toNat
  (9 ≤ n && n ≤ 13) || n == 32 || n == 0x85 || n == 0xA0 || n == 0x1680 ||
    (0x2000 ≤ n && n ≤ 0x200A) || n == 0x2028 || n == 0x2029 || n == 0x202F || n == 0x205F ||
    n == 0x3000

/-- Drops characters of a class from both ends. -/
def strip (p : Char → Bool) (cs : List Char) : List Char :=
  ((cs.dropWhile p).reverse.dropWhile p).reverse

def trim (s : String) : String :=
  String.ofList (strip isBlank s.toList)

@[simp] theorem toList_trim (s : String) : (trim s).toList = strip isBlank s.toList := by
  simp [trim]

@[simp] theorem strip_nil (p : Char → Bool) : strip p [] = [] := rfl

/-- What is stripped off at both ends. -/
theorem exists_strip (p : Char → Bool) (cs : List Char) : ∃ lead tail,
    cs = lead ++ strip p cs ++ tail ∧ (∀ c ∈ lead, c ∈ cs.takeWhile p) ∧
      ∀ c ∈ tail, c ∈ cs.reverse.takeWhile p := by
  refine ⟨cs.takeWhile p, ((cs.dropWhile p).reverse.takeWhile p).reverse, ?_, fun c hc => hc, ?_⟩
  · rw [strip, List.append_assoc, ← List.reverse_append, List.takeWhile_append_dropWhile,
      List.reverse_reverse, List.takeWhile_append_dropWhile]
  · intro c hc
    have hsplit : cs.reverse = (cs.dropWhile p).reverse ++ (cs.takeWhile p).reverse := by
      rw [← List.reverse_append, List.takeWhile_append_dropWhile]
    have hmem := List.mem_reverse.1 hc
    rw [hsplit, List.takeWhile_append]
    split
    · exact List.mem_append_left _ ((List.takeWhile_sublist p).subset hmem)
    · exact hmem

theorem isInfix_strip (p : Char → Bool) (cs : List Char) : strip p cs <:+: cs := by
  obtain ⟨lead, tail, hcs, -, -⟩ := exists_strip p cs
  exact ⟨lead, tail, hcs.symm⟩

theorem mem_strip {p : Char → Bool} {cs : List Char} {c : Char} (hc : p c = false) :
    c ∈ strip p cs ↔ c ∈ cs := by
  refine ⟨fun h => (isInfix_strip p cs).subset h, fun h => ?_⟩
  obtain ⟨lead, tail, hcs, hlead, htail⟩ := exists_strip p cs
  have hout : ∀ {ds : List Char}, c ∉ ds.takeWhile p := fun hmem => by
    simpa [hc] using List.all_eq_true.1 List.all_takeWhile c hmem
  rw [hcs] at h
  simp only [List.mem_append] at h
  obtain (h | h) | h := h
  · exact absurd (hlead c h) hout
  · exact h
  · exact absurd (htail c h) hout

theorem isBlank_of_isWhitespace {c : Char} (h : c.isWhitespace) : isBlank c := by
  simp only [Char.isWhitespace, Bool.or_eq_true, decide_eq_true_eq] at h
  rcases h with ((rfl | rfl) | rfl) | rfl <;> decide

end ConsumerConnector.Text
