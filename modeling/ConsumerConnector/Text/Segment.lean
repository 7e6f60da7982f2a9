/-! Pieces of a text: what follows its last separator, what precedes its first, what it ends in. -/

namespace ConsumerConnector.Text

open scoped List

def afterLast (p : Char → Bool) (s : String) : String :=
  String.ofList (s.toList.reverse.takeWhile (! p ·)).reverse

/-- The two sides of the first `c`, if there is one. -/
def splitFirst (c : Char) (s : String) : Option (String × String) :=
  match s.toList.dropWhile (· != c) with
  | [] => none
  | _ :: rest => some (String.ofList (s.toList.takeWhile (· != c)), String.ofList rest)

/-- The pieces between separators; a text without a separator is one piece. -/
def pieces (c : Char) : List Char → List (List Char)
  | [] => [[]]
  | d :: rest =>
    if d = c then [] :: pieces c rest
    else match pieces c rest with
      | [] => [[d]]
      | p :: ps => (d :: p) :: ps

def dropTrailing (c : Char) (s : String) : String :=
  String.ofList (s.toList.reverse.dropWhile (· == c)).reverse

def endsWith (s suffix : String) : Bool :=
  suffix.toList.isSuffixOf s.toList

def startsWith (s lead : String) : Bool :=
  lead.toList.isPrefixOf s.toList

/-- What is left of a text after a lead that it has. -/
def after? (lead : List Char) (cs : List Char) : Option (List Char) :=
  if lead.isPrefixOf cs then some (cs.drop lead.length) else none

def contains (pattern : List Char) : List Char → Bool
  | [] => pattern.isEmpty
  | c :: rest => pattern.isPrefixOf (c :: rest) || contains pattern rest

/-- Lower case for the letters A to Z; all other characters stay. -/
def lowerAscii (s : String) : String :=
  String.ofList (s.toList.map Char.toLower)

def upperAscii (s : String) : String :=
  String.ofList (s.toList.map Char.toUpper)

@[simp] theorem toList_afterLast (p : Char → Bool) (s : String) :
    (afterLast p s).toList = (s.toList.reverse.takeWhile (! p ·)).reverse := by
  simp [afterLast]

@[simp] theorem toList_dropTrailing (c : Char) (s : String) :
    (dropTrailing c s).toList = (s.toList.reverse.dropWhile (· == c)).reverse := by
  simp [dropTrailing]

@[simp] theorem toList_lowerAscii (s : String) :
    (lowerAscii s).toList = s.toList.map Char.toLower := by
  simp [lowerAscii]

@[simp] theorem toList_upperAscii (s : String) :
    (upperAscii s).toList = s.toList.map Char.toUpper := by
  simp [upperAscii]

theorem pieces_ne_nil (c : Char) (cs : List Char) : pieces c cs ≠ [] := by
  cases cs with
  | nil => simp [pieces]
  | cons d rest =>
    rw [pieces]
    split
    · simp
    · split <;> simp

theorem pieces_cons_of_ne {c d : Char} (h : d ≠ c) (cs : List Char) :
    ∃ p ps, pieces c cs = p :: ps ∧ pieces c (d :: cs) = (d :: p) :: ps := by
  obtain ⟨p, ps, hps⟩ := List.exists_cons_of_ne_nil (pieces_ne_nil c cs)
  exact ⟨p, ps, hps, by simp [pieces, h, hps]⟩

theorem pieces_append {c : Char} {lead : List Char} (h : c ∉ lead) (rest : List Char) :
    pieces c (lead ++ c :: rest) = lead :: pieces c rest := by
  induction lead with
  | nil => simp [pieces]
  | cons d lead ih =>
    rw [List.mem_cons, not_or] at h
    rw [List.cons_append, pieces, if_neg (Ne.symm h.1), ih h.2]

theorem flatten_pieces_sublist (c : Char) (cs : List Char) : (pieces c cs).flatten <+ cs := by
  induction cs with
  | nil => exact .slnil
  | cons d rest ih =>
    by_cases h : d = c
    · simpa [pieces, h] using ih.cons c
    · obtain ⟨p, ps, hps, heq⟩ := pieces_cons_of_ne h rest
      rw [hps] at ih
      rw [heq]
      exact ih.cons_cons d

/-- A text is its pieces with separators between them. -/
theorem intercalate_pieces (c : Char) (cs : List Char) : [c].intercalate (pieces c cs) = cs := by
  induction cs with
  | nil => rfl
  | cons d rest ih =>
    by_cases h : d = c
    · obtain ⟨p, ps, hps⟩ := List.exists_cons_of_ne_nil (pieces_ne_nil c rest)
      rw [hps] at ih
      rw [pieces, if_pos h, hps, List.intercalate_cons_cons, ih, h]
      rfl
    · obtain ⟨p, ps, hps, heq⟩ := pieces_cons_of_ne h rest
      rw [hps] at ih
      rw [heq, ← ih]
      cases ps with
      | nil => simp
      | cons q qs => simp [List.intercalate_cons_cons]

theorem splitFirst_eq_some_iff {c : Char} {s before after : String} :
    splitFirst c s = some (before, after) ↔
      s.toList = before.toList ++ c :: after.toList ∧ c ∉ before.toList := by
  constructor
  · intro h
    rw [splitFirst] at h
    cases hdrop : s.toList.dropWhile (· != c) with
    | nil => simp [hdrop] at h
    | cons d rest =>
      have hd : d = c := by
        have := List.head?_dropWhile_not (· != c) s.toList
        simpa [hdrop] using this
      simp only [hdrop, Option.some.injEq, Prod.mk.injEq] at h
      subst hd
      rw [← h.1, ← h.2, String.toList_ofList, String.toList_ofList, ← hdrop,
        List.takeWhile_append_dropWhile]
      refine ⟨rfl, fun hmem => ?_⟩
      simpa using List.all_eq_true.1 List.all_takeWhile d hmem
  · rintro ⟨hs, hfirst⟩
    have hne : ∀ d ∈ before.toList, (d != c) = true := by
      intro d hd
      simpa using fun heq : d = c => hfirst (heq ▸ hd)
    simp [splitFirst, hs, List.dropWhile_append_of_pos hne, List.takeWhile_append_of_pos hne]

theorem contains_iff {pattern cs : List Char} : contains pattern cs ↔ pattern <:+: cs := by
  induction cs with
  | nil => simp [contains]
  | cons c rest ih =>
    rw [contains, Bool.or_eq_true, List.isPrefixOf_iff_prefix, ih, List.infix_cons_iff]

end ConsumerConnector.Text
