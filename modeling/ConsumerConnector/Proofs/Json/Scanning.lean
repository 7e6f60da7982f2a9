import ConsumerConnector.Json.Printer
import ConsumerConnector.Json.Token

/-!
The text of a value, cut into tokens again. A number ends only where something else begins, so what
a text yields is told once a number at its end is taken for finished.
-/

namespace ConsumerConnector.Json

namespace Token

/-- What has been found if the text ends here. -/
def settled? (s : Scanner) : Option (List Token) :=
  match s.mode with
  | .between => some s.found
  | .number text => endNumber text s.found
  | _ => none

theorem finish_eq (s : Scanner) : finish s = (settled? s).map List.reverse := by
  obtain ⟨mode, found⟩ := s
  cases mode <;> rfl

def reads (s : Scanner) (cs : List Char) : Option Scanner := (cs.map some).foldlM step s

variable {s : Scanner} {cs ds : List Char} {c : Char} {ts us : List Token} {t : Token}

theorem reads_cons (s : Scanner) (c : Char) (cs : List Char) :
    reads s (c :: cs) = (step s (some c)).bind (reads · cs) :=
  List.foldlM_cons

theorem reads_append (s : Scanner) (cs ds : List Char) :
    reads s (cs ++ ds) = (reads s cs).bind (reads · ds) := by
  rw [reads, List.map_append, List.foldlM_append]
  rfl

theorem step_of_settled {found : List Token} (h : settled? s = some found)
    (hc : Numeral.isPart c = false) : step s (some c) = start found c := by
  obtain ⟨mode, found'⟩ := s
  cases mode with
  | between =>
    cases h
    rfl
  | number text =>
    have hend : endNumber text found' = some found := h
    simp [step, hc, hend]
  | _ => cases h

/-- A text that is cut into some tokens, whatever comes before it. -/
def Yields (cs : List Char) (ts : List Token) : Prop :=
  ∀ found, ∃ s, reads ⟨.between, found⟩ cs = some s ∧ settled? s = some (ts.reverse ++ found)

namespace Yields

theorem nil : Yields [] [] := fun found => ⟨⟨.between, found⟩, rfl, rfl⟩

/-- A mark stands for a token and ends what is before it. -/
theorem append_mark (h : Yields cs ts) (hc : Numeral.isPart c = false)
    (hmark : ∀ found, start found c = some ⟨.between, t :: found⟩) (h' : Yields ds us) :
    Yields (cs ++ c :: ds) (ts ++ t :: us) := by
  intro found
  obtain ⟨s, hs, hsettled⟩ := h found
  obtain ⟨s', hs', hsettled'⟩ := h' (t :: (ts.reverse ++ found))
  refine ⟨s', ?_, ?_⟩
  · rw [reads_append, hs, Option.bind_some, reads_cons, step_of_settled hsettled hc, hmark,
      Option.bind_some, hs']
  · rw [hsettled']
    simp

theorem scan_eq (h : Yields cs ts) : scan (cs.map some) = some ts := by
  obtain ⟨s, hs, hsettled⟩ := h []
  have hfinish : finish s = some ts := by
    rw [finish_eq, hsettled, Option.map_some, List.append_nil, List.reverse_reverse]
  change (reads ⟨.between, []⟩ cs).bind finish = some ts
  rw [hs, Option.bind_some, hfinish]

end Yields

end Token

open Token

/-- A control character comes back from its code. -/
theorem reads_code {c : Char} (h : c.toNat < 32) (text : List Char) (found : List Token) :
    reads ⟨.string (some text), found⟩
        ['\\', 'u', '0', '0', Nat.digitChar (c.toNat / 16), Nat.digitChar (c.toNat % 16)] =
      some ⟨.string (some (c :: text)), found⟩ := by
  have hlead : reads ⟨.string (some text), found⟩ ['\\', 'u', '0', '0'] =
      some ⟨.code (some text) none 2 0, found⟩ := rfl
  have hhigh : Decimal.hexDigit? (Nat.digitChar (c.toNat / 16)) = some (c.toNat / 16) :=
    Decimal.hexDigit?_digitChar (by omega)
  have hlow : Decimal.hexDigit? (Nat.digitChar (c.toNat % 16)) = some (c.toNat % 16) :=
    Decimal.hexDigit?_digitChar (by omega)
  have hcode : c.toNat / 16 * 16 + c.toNat % 16 = c.toNat := Nat.div_add_mod' ..
  have hend : endCode (some text) none c.toNat = .string (some (c :: text)) := by
    rw [endCode, if_neg (by omega), if_neg (by omega), Char.ofNat_toNat]
    rfl
  change reads _ (['\\', 'u', '0', '0'] ++ [_, _]) = _
  rw [reads_append, hlead, Option.bind_some]
  simp [reads, step, hhigh, hlow, hcode, hend]

theorem reads_escape (c : Char) (text : List Char) (found : List Token) :
    reads ⟨.string (some text), found⟩ (escape c) = some ⟨.string (some (c :: text)), found⟩ := by
  unfold escape
  iterate 7
    split
    · subst_vars
      rfl
  split
  · next hcontrol => exact reads_code hcontrol text found
  · next hquote hslash _ _ _ _ _ hcontrol =>
    simp [reads, step, inString, hquote, hslash, hcontrol, push]

theorem reads_flatMap_escape (cs text : List Char) (found : List Token) :
    reads ⟨.string (some text), found⟩ (cs.flatMap escape) =
      some ⟨.string (some (cs.reverse ++ text)), found⟩ := by
  induction cs generalizing text with
  | nil => rfl
  | cons c cs ih =>
    rw [List.flatMap_cons, reads_append, reads_escape, Option.bind_some, ih]
    simp

theorem toList_renderString (s : String) :
    (renderString s).toList = '"' :: (s.toList.flatMap escape ++ ['"']) := by
  simp [renderString]

theorem yields_renderString (s : String) : Yields (renderString s).toList [.string (some s)] := by
  refine fun found => ⟨⟨.between, .string (some s) :: found⟩, ?_, rfl⟩
  rw [toList_renderString, reads_cons]
  change reads ⟨.string (some []), found⟩ _ = _
  rw [reads_append, reads_flatMap_escape]
  simp [reads, step, inString]

theorem digitChar_ne_minus {d : Nat} (h : d < 10) : Nat.digitChar d ≠ '-' := by
  intro heq
  have hdigit := Decimal.isDigit_digitChar h
  rw [heq] at hdigit
  cases hdigit

/-- Digits without a leading zero are the whole part of a number. -/
theorem ofChars?_digits {d : Nat} {ds : List Nat} (h : ∀ e ∈ d :: ds, e < 10) (hzero : d = 0 → ds = []) :
    Numeral.ofChars? ((d :: ds).map Nat.digitChar) = some ⟨false, d :: ds, [], none⟩ ∧
      Numeral.ofChars? ('-' :: (d :: ds).map Nat.digitChar) = some ⟨true, d :: ds, [], none⟩ := by
  have hsplit := Decimal.splitDigits_map_digitChar h
  have hsign : Numeral.splitSign ((d :: ds).map Nat.digitChar) = (false, (d :: ds).map Nat.digitChar) :=
    Numeral.splitSign_of_ne (digitChar_ne_minus (h d List.mem_cons_self)) _
  -- a leading zero is refused only if digits follow it
  cases d with
  | zero =>
    cases hzero rfl
    exact ⟨rfl, rfl⟩
  | succ d =>
    constructor
    · simp only [Numeral.ofChars?, hsign, hsplit]
      rfl
    · simp only [Numeral.ofChars?, Numeral.splitSign, hsplit]
      rfl

theorem reads_number {cs : List Char} (h : ∀ c ∈ cs, Numeral.isPart c) (text : List Char)
    (found : List Token) :
    reads ⟨.number text, found⟩ cs = some ⟨.number (cs.reverse ++ text), found⟩ := by
  induction cs generalizing text with
  | nil => rfl
  | cons c cs ih =>
    obtain ⟨hc, hcs⟩ := List.forall_mem_cons.1 h
    have hstep : step ⟨.number text, found⟩ (some c) = some ⟨.number (c :: text), found⟩ := by
      simp [step, hc]
    rw [reads_cons, hstep, Option.bind_some, ih hcs]
    simp

theorem yields_number {c : Char} {cs : List Char} {n : Numeral}
    (hstart : ∀ found, start found c = some ⟨.number [c], found⟩) (hpart : ∀ d ∈ cs, Numeral.isPart d)
    (hn : Numeral.ofChars? (c :: cs) = some n) : Yields (c :: cs) [.number n.value?] := by
  refine fun found => ⟨⟨.number (cs.reverse ++ [c]), found⟩, ?_, ?_⟩
  · rw [reads_cons]
    change (start found c).bind _ = _
    rw [hstart, Option.bind_some, reads_number hpart]
  · simp [settled?, endNumber, hn]

theorem start_digitChar {d : Nat} (h : d < 10) (found : List Token) :
    start found (Nat.digitChar d) = some ⟨.number [Nat.digitChar d], found⟩ := by
  have hspace : isSpace (Nat.digitChar d) = false :=
    (by decide : ∀ d < 10, isSpace (Nat.digitChar d) = false) d h
  simp [start, hspace, Decimal.isDigit_digitChar h]

theorem isPart_digitChar {d : Nat} (h : d < 10) : Numeral.isPart (Nat.digitChar d) := by
  simp [Numeral.isPart, Decimal.isDigit_digitChar h]

/-- An integer that a word of 64 bits holds, with a sign or without. -/
def IsWord (n : Int) : Prop := -(Decimal.wordSize 63 : Nat) ≤ n ∧ n < (Decimal.wordSize 64 : Nat)

theorem value?_nonneg {ds : List Nat} (h : Decimal.ofDigits 10 ds < Decimal.wordSize 64) :
    (⟨false, ds, [], none⟩ : Numeral).value? = some (.integer (Decimal.ofDigits 10 ds)) :=
  if_pos ⟨rfl, rfl, rfl, h⟩

theorem value?_neg {ds : List Nat} (hpos : 0 < Decimal.ofDigits 10 ds)
    (h : Decimal.ofDigits 10 ds ≤ Decimal.wordSize 63) :
    (⟨true, ds, [], none⟩ : Numeral).value? = some (.integer (-(Decimal.ofDigits 10 ds : Int))) := by
  rw [Numeral.value?, if_neg (by simp), if_pos ⟨rfl, rfl, rfl, hpos, h⟩]

theorem yields_integer {n : Int} (h : IsWord n) :
    Yields (toString n).toList [.number (some (.integer n))] := by
  obtain ⟨hlow, hhigh⟩ := h
  cases n with
  | ofNat m =>
    have htext : (toString (Int.ofNat m)).toList = Decimal.toChars m := by
      change (Nat.repr m).toList = _
      rw [Nat.repr_eq_ofList_toDigits, String.toList_ofList]
      rfl
    obtain ⟨d, ds, hchars, hdigits, hdenote, hzero⟩ := Decimal.exists_toChars m
    have hvalue : (⟨false, d :: ds, [], none⟩ : Numeral).value? = some (.integer m) := by
      rw [value?_nonneg, hdenote]
      rw [hdenote]
      exact Int.ofNat_lt.1 hhigh
    rw [htext, hchars, List.map_cons, Int.ofNat_eq_natCast, ← hvalue]
    refine yields_number (start_digitChar (hdigits d List.mem_cons_self)) ?_
      (ofChars?_digits hdigits hzero).1
    simpa using fun e he => isPart_digitChar (hdigits e (List.mem_cons_of_mem _ he))
  | negSucc m =>
    have htext : (toString (Int.negSucc m)).toList = '-' :: Decimal.toChars (m + 1) := by
      change ("-" ++ Nat.repr (m + 1)).toList = _
      simp [Nat.repr_eq_ofList_toDigits, Decimal.toChars]
    obtain ⟨d, ds, hchars, hdigits, hdenote, hzero⟩ := Decimal.exists_toChars (m + 1)
    have hvalue : (⟨true, d :: ds, [], none⟩ : Numeral).value? = some (.integer (Int.negSucc m)) := by
      rw [value?_neg, hdenote]
      · rfl
      · omega
      · rw [hdenote]
        omega
    rw [htext, hchars, ← hvalue]
    refine yields_number (fun _ => rfl) ?_ (ofChars?_digits hdigits hzero).2
    simpa using fun e he => isPart_digitChar (hdigits e he)

mutual

/-- What the text of a value is cut into. -/
def tokens : Json → List Token
  | .null => [.null]
  | .bool b => [.bool b]
  | .number n => [.number (some n)]
  | .string s => [.string (some s)]
  | .array items => .openArray :: (itemTokens items ++ [.closeArray])
  | .object fields => .openObject :: (fieldTokens fields ++ [.closeObject])

def itemTokens : List Json → List Token
  | [] => []
  | [item] => item.tokens
  | item :: rest => item.tokens ++ .comma :: itemTokens rest

def fieldTokens : List (String × Json) → List Token
  | [] => []
  | [(key, value)] => .string (some key) :: .colon :: value.tokens
  | (key, value) :: rest =>
    .string (some key) :: .colon :: (value.tokens ++ .comma :: fieldTokens rest)

end

/-- Every number is an integer of a word, and containers are nested at most so deep. -/
inductive Bounded : Nat → Json → Prop
  | null {n : Nat} : Bounded n .null
  | bool {n : Nat} (b : Bool) : Bounded n (.bool b)
  | integer {n : Nat} {k : Int} (h : IsWord k) : Bounded n (.ofInt k)
  | string {n : Nat} (s : String) : Bounded n (.string s)
  | array {n : Nat} {items : List Json} (h : ∀ item ∈ items, Bounded n item) :
    Bounded (n + 1) (.array items)
  | object {n : Nat} {fields : List (String × Json)} (h : ∀ f ∈ fields, Bounded n f.2) :
    Bounded (n + 1) (.object fields)

theorem yields_renderItems {items : List Json}
    (h : ∀ item ∈ items, Yields item.render.toList item.tokens) :
    Yields (renderItems items).toList (itemTokens items) := by
  induction items with
  | nil => exact .nil
  | cons item rest ih =>
    obtain ⟨hitem, hrest⟩ := List.forall_mem_cons.1 h
    cases rest with
    | nil => exact hitem
    | cons next rest =>
      have hlist := hitem.append_mark (c := ',') rfl (fun _ => rfl) (ih hrest)
      simpa [renderItems, itemTokens] using hlist

theorem yields_renderFields {fields : List (String × Json)}
    (h : ∀ f ∈ fields, Yields f.2.render.toList f.2.tokens) :
    Yields (renderFields fields).toList (fieldTokens fields) := by
  induction fields with
  | nil => exact .nil
  | cons field rest ih =>
    obtain ⟨key, value⟩ := field
    obtain ⟨hvalue, hrest⟩ := List.forall_mem_cons.1 h
    have hfield := (yields_renderString key).append_mark (c := ':') rfl (fun _ => rfl) hvalue
    cases rest with
    | nil => simpa [renderFields, fieldTokens] using hfield
    | cons next rest =>
      have hlist := hfield.append_mark (c := ',') rfl (fun _ => rfl) (ih hrest)
      simpa [renderFields, fieldTokens] using hlist

/-- The text of a value is cut into its tokens. -/
theorem Bounded.yields {n : Nat} {j : Json} (h : Bounded n j) : Yields j.render.toList j.tokens := by
  induction h with
  | null => exact fun found => ⟨⟨.between, .null :: found⟩, rfl, rfl⟩
  | bool b => cases b <;> exact fun found => ⟨⟨.between, .bool _ :: found⟩, rfl, rfl⟩
  | integer h => exact yields_integer h
  | string s => exact yields_renderString s
  | array _ ih =>
    have hitems := yields_renderItems ih
    have hclosed := hitems.append_mark (c := ']') rfl (fun _ => rfl) .nil
    have hlist := Yields.nil.append_mark (c := '[') rfl (fun _ => rfl) hclosed
    simpa [render, tokens] using hlist
  | object _ ih =>
    have hfields := yields_renderFields ih
    have hclosed := hfields.append_mark (c := '\x7d') rfl (fun _ => rfl) .nil
    have hlist := Yields.nil.append_mark (c := '\x7b') rfl (fun _ => rfl) hclosed
    simpa [render, tokens] using hlist

end ConsumerConnector.Json
