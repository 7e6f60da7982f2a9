import ConsumerConnector.Proofs.Url.PlainDomain
import ConsumerConnector.Url.Basic
import Mathlib.Data.List.TakeWhile

/-!
Hosts of addresses in any letter case. A domain in ASCII is the host in lower case, however an address of
the web spells it and whatever stands around it.
-/

namespace ConsumerConnector

namespace Url

theorem splitUser_append {host : List Char} (h : '@' ∉ host) (user : Option (List Char)) :
    splitUser (user.elim [] (· ++ ['@']) ++ host) = user.map (·, host) := by
  have hne : ∀ c ∈ host.reverse, (c != '@') = true := by
    intro c hc
    rw [bne_iff_ne]
    rintro rfl
    exact h (List.mem_reverse.1 hc)
  cases user with
  | none => simp [splitUser, List.takeWhile_eq_self_iff.2 hne]
  | some u =>
    have hhost : (u ++ ['@'] ++ host).reverse.takeWhile (· != '@') = host.reverse := by
      rw [List.reverse_append, List.takeWhile_append_of_pos hne]
      simp
    have hlength : u.length + (host.length + 1) - host.length - 1 = u.length := by omega
    have hlonger : host.length ≠ u.length + (host.length + 1) := by omega
    simp only [splitUser, Option.elim_some, hhost]
    simp [hlength, hlonger]

theorem splitPort_append {host : List Char} (h : ∀ c ∈ host, c ≠ ':' ∧ c ≠ '[' ∧ c ≠ ']')
    (port : Option (List Char)) : splitPort (host ++ port.elim [] (':' :: ·)) = (host, port) := by
  rw [splitPort]
  induction host with
  | nil => cases port <;> simp [splitPort.go]
  | cons c host ih =>
    obtain ⟨⟨hcolon, hopen, hclose⟩, hhost⟩ := List.forall_mem_cons.1 h
    simp [splitPort.go, hcolon, hopen, hclose, ih hhost]

/-- Decimal digits of a number of at most 16 bits. -/
def IsPort (ds : List Char) : Prop :=
  (∀ d ∈ ds, Decimal.isDigit d) ∧ Decimal.ofDigits 10 (ds.filterMap Decimal.digit?) < 65536

/-- An address of the web as it may be written: a scheme, a colon and slashes, a name and a password before
an `@`, a domain in ASCII, a colon and a port, and whatever follows. -/
structure WebAddress where
  scheme : String
  slashes : List Char
  user : Option (List Char)
  domain : String
  port : Option (List Char)
  rest : List Char
  isWeb : Text.lowerAscii scheme = "http" ∨ Text.lowerAscii scheme = "https"
  isSlash : ∀ c ∈ slashes, isSlash true c
  isUser : ∀ u ∈ user, ∀ c ∈ u, endsAuthority true c = false
  isDomain : Host.IsDomain domain
  isPort : ∀ ds ∈ port, IsPort ds
  isRest : ∀ c ∈ rest.head?, endsAuthority true c

namespace WebAddress

/-- Who asks, and where. -/
def whoAndWhere (user : Option (List Char)) (domain : String) (port : Option (List Char)) :
    List Char :=
  user.elim [] (· ++ ['@']) ++ (domain.toList ++ port.elim [] (':' :: ·))

def text (a : WebAddress) : String :=
  String.ofList
    (a.scheme.toList ++ ':' :: (a.slashes ++ (whoAndWhere a.user a.domain a.port ++ a.rest)))

end WebAddress

theorem IsPort.ne {ds : List Char} (h : IsPort ds) {c d : Char} (hd : d ∈ ds)
    (hc : Decimal.isDigit c = false) : d ≠ c := by
  rintro rfl
  rw [h.1 d hd] at hc
  cases hc

theorem IsPort.port?_eq_ok {ds : List Char} (h : IsPort ds) (own : Option Nat) :
    ∃ n, port? own ds = .ok n := by
  rw [port?, if_pos (List.all_eq_true.2 h.1)]
  exact ⟨_, if_neg (Nat.not_le.2 h.2)⟩

variable {user : Option (List Char)} {domain : String} {port : Option (List Char)}

theorem authority_whoAndWhere (user : Option (List Char)) (own : Nat) (isLast : Bool)
    (hdomain : Host.IsDomain domain) (hport : ∀ ds ∈ port, IsPort ds) :
    ∃ a, authority (.web own) (WebAddress.whoAndWhere user domain port) isLast = .ok a ∧
      a.host = Text.lowerAscii domain ∧ a.rest = [] := by
  have hplain : ∀ {c d}, c ∈ domain.toList → Domain.isForbidden d = true → c ≠ d :=
    fun hc hd => Host.ne_of_isForbidden (hdomain.isPlain _ hc) hd
  have hlast : '@' ∉ domain.toList ++ port.elim [] (':' :: ·) := by
    intro hmem
    rcases List.mem_append.1 hmem with hmem | hmem
    · exact hplain hmem rfl rfl
    · cases port with
      | none => cases hmem
      | some ds => exact (hport ds rfl).ne ((List.mem_cons.1 hmem).resolve_left (by decide)) rfl rfl
  have hrest : (splitUser (WebAddress.whoAndWhere user domain port)).getD
      ([], WebAddress.whoAndWhere user domain port) =
        (user.getD [], domain.toList ++ port.elim [] (':' :: ·)) := by
    rw [WebAddress.whoAndWhere, splitUser_append hlast]
    cases user <;> rfl
  have hnumber : ∃ n, ((port.map (·.takeWhile (· != '\\'))).map (port? (some own))).getD
      (.ok none) = .ok n ∧ (port.getD []).dropWhile (· != '\\') = [] := by
    cases port with
    | none => exact ⟨none, rfl, rfl⟩
    | some ds =>
      have hne : ∀ d ∈ ds, (d != '\\') = true := fun d hd => bne_iff_ne.2 ((hport ds rfl).ne hd rfl)
      obtain ⟨n, hn⟩ := (hport ds rfl).port?_eq_ok (some own)
      exact ⟨n, by simp [List.takeWhile_eq_self_iff.2 hne, hn], List.dropWhile_eq_nil_iff.2 hne⟩
  have hfound : domain.toList.isEmpty = false := by simpa using hdomain.ne_empty
  have hrestful : (domain.toList ++ port.elim [] (':' :: ·)).isEmpty = false := by
    simp [hdomain.ne_empty]
  obtain ⟨n, hn, hleft⟩ := hnumber
  refine ⟨⟨isCredential (user.getD []), Text.lowerAscii domain, n, []⟩, ?_, rfl, rfl⟩
  simp only [authority, hrest, hrestful, Bool.and_false, Bool.false_and, hfound, hdomain.parse_eq, hn,
    splitPort_append fun c hc => ⟨hplain hc rfl, hplain hc rfl, hplain hc rfl⟩, hleft,
    if_neg Bool.false_ne_true]
  change (if _ then _ else Except.ok _) = _
  rw [if_neg (by simp [hdomain.lowerAscii_ne_empty])]

theorem endsAuthority_iff {c : Char} :
    endsAuthority true c ↔ ((c = '/' ∨ c = '\\') ∨ c = '?') ∨ c = '#' := by
  simp [endsAuthority, isSlash]

theorem not_endsAuthority_of_isForbidden {c : Char} (h : Domain.isForbidden c = false) :
    endsAuthority true c = false := by
  rw [← Bool.not_eq_true, endsAuthority_iff]
  rintro (((rfl | rfl) | rfl) | rfl) <;> cases h

theorem not_endsAuthority_of_isDigit {c : Char} (h : Decimal.isDigit c) :
    endsAuthority true c = false := by
  rw [← Bool.not_eq_true, endsAuthority_iff]
  rintro (((rfl | rfl) | rfl) | rfl) <;> cases h

theorem not_endsAuthority_whoAndWhere (huser : ∀ u ∈ user, ∀ c ∈ u, endsAuthority true c = false)
    (hdomain : Host.IsDomain domain) (hport : ∀ ds ∈ port, IsPort ds) :
    ∀ c ∈ WebAddress.whoAndWhere user domain port, endsAuthority true c = false := by
  simp only [WebAddress.whoAndWhere, List.mem_append]
  rintro c (hc | hc | hc)
  · cases user with
    | none => cases hc
    | some u =>
      rcases List.mem_append.1 hc with hc | hc
      · exact huser u rfl c hc
      · obtain rfl := List.mem_singleton.1 hc
        rfl
  · exact not_endsAuthority_of_isForbidden (hdomain.isPlain c hc)
  · cases port with
    | none => cases hc
    | some ds =>
      rcases List.mem_cons.1 hc with rfl | hc
      · rfl
      · exact not_endsAuthority_of_isDigit ((hport ds rfl).1 c hc)

theorem withAuthority_whoAndWhere (scheme : String) (own : Nat) {rest : List Char}
    (huser : ∀ u ∈ user, ∀ c ∈ u, endsAuthority true c = false)
    (hdomain : Host.IsDomain domain) (hport : ∀ ds ∈ port, IsPort ds)
    (hrest : ∀ c ∈ rest.head?, endsAuthority true c) :
    ∃ url, withAuthority scheme (.web own) (WebAddress.whoAndWhere user domain port ++ rest) = .ok url ∧
      url.scheme = scheme ∧ url.host = some (Text.lowerAscii domain) := by
  have hopen : ∀ c ∈ WebAddress.whoAndWhere user domain port, (! endsAuthority true c) = true := by
    simpa using not_endsAuthority_whoAndWhere huser hdomain hport
  have htake : rest.takeWhile (! endsAuthority true ·) = [] := by
    cases rest with
    | nil => rfl
    | cons c rest => simp [hrest c rfl]
  have hdrop : rest.dropWhile (! endsAuthority true ·) = rest := by
    cases rest with
    | nil => rfl
    | cons c rest => simp [hrest c rfl]
  obtain ⟨a, ha, hhost, hleft⟩ :=
    authority_whoAndWhere user own rest.isEmpty hdomain hport
  simp only [withAuthority, SchemeKind.isSpecial, List.dropWhile_append_of_pos hopen,
    List.takeWhile_append_of_pos hopen, htake, hdrop, List.append_nil, ha]
  refine ⟨_, rfl, rfl, ?_⟩
  simp [hhost, hdomain.lowerAscii_ne_empty]

theorem isAlpha_of_isAlpha_toLower {c : Char} (h : c.toLower.isAlpha) : c.isAlpha := by
  by_cases hupper : 'A'.val ≤ c.val ∧ c.val ≤ 'Z'.val
  · have hletter : c.isUpper = true := decide_eq_true hupper
    change (c.isUpper || c.isLower) = true
    rw [hletter, Bool.true_or]
  · have hkept : c.toLower = c := dif_neg hupper
    rwa [hkept] at h

theorem isAlpha_of_isWeb {scheme : String}
    (h : Text.lowerAscii scheme = "http" ∨ Text.lowerAscii scheme = "https") :
    ∀ c ∈ scheme.toList, c.isAlpha := by
  intro c hc
  have hmem : c.toLower ∈ (Text.lowerAscii scheme).toList := by
    rw [Text.toList_lowerAscii]
    exact List.mem_map_of_mem hc
  refine isAlpha_of_isAlpha_toLower ?_
  rcases h with h | h
  · rw [h] at hmem
    exact List.all_eq_true.1 (by decide : "http".toList.all Char.isAlpha) _ hmem
  · rw [h] at hmem
    exact List.all_eq_true.1 (by decide : "https".toList.all Char.isAlpha) _ hmem

theorem scheme?_append {scheme : String} (hne : scheme ≠ "") (h : ∀ c ∈ scheme.toList, c.isAlpha)
    (rest : List Char) :
    scheme? (scheme.toList ++ ':' :: rest) = some (Text.lowerAscii scheme, rest) := by
  let isPart (c : Char) : Bool := c.isAlphanum || c == '+' || c == '-' || c == '.'
  have hpart : ∀ c ∈ scheme.toList, isPart c = true := by
    intro c hc
    have halnum : c.isAlphanum = (c.isAlpha || c.isDigit) := rfl
    simp [isPart, halnum, h c hc]
  have hcolon : ¬ isPart ':' = true := by decide
  have hdrop : (scheme.toList ++ ':' :: rest).dropWhile isPart = ':' :: rest := by
    rw [List.dropWhile_append_of_pos hpart, List.dropWhile_cons_of_neg hcolon]
  have htake : (scheme.toList ++ ':' :: rest).takeWhile isPart = scheme.toList := by
    rw [List.takeWhile_append_of_pos hpart, List.takeWhile_cons_of_neg hcolon, List.append_nil]
  obtain ⟨c, cs, hcs⟩ := List.exists_cons_of_ne_nil (l := scheme.toList) (by simpa using hne)
  have hhead : (scheme.toList ++ ':' :: rest).head? = some c := by simp [hcs]
  have hguard : (guard c.isAlpha : Option Unit) = some () := if_pos (h c (by simp [hcs]))
  rw [scheme?, hhead, Option.bind_eq_bind, Option.bind_some, hguard, Option.bind_eq_bind, Option.bind_some]
  dsimp only
  split
  · next rest' heq =>
    obtain ⟨-, rfl⟩ := List.cons.inj (hdrop.symm.trans heq)
    exact congrArg (fun cs => some (String.ofList (cs.map Char.toLower), rest)) htake
  · next hnone => exact absurd hdrop (hnone rest)

theorem strip_append {p : Char → Bool} {c : Char} (lead : List Char) {mid : List Char}
    (hc : p c = false) (hne : mid ≠ []) (hmid : ∀ d ∈ mid, p d = false) (rest : List Char) :
    Text.strip p (c :: lead ++ mid ++ rest) =
      c :: lead ++ mid ++ (rest.reverse.dropWhile p).reverse := by
  have hkept : (mid.reverse ++ (c :: lead).reverse).dropWhile p =
      mid.reverse ++ (c :: lead).reverse := by
    obtain ⟨d, ds, hds⟩ := List.exists_cons_of_ne_nil (List.reverse_ne_nil_iff.2 hne)
    have hd : p d = false := hmid d (List.mem_reverse.1 (by simp [hds]))
    rw [hds, List.cons_append, List.dropWhile_cons_of_neg (by simp [hd])]
  have hfirst : (c :: lead ++ mid ++ rest).dropWhile p = c :: lead ++ mid ++ rest := by
    simp [hc]
  rw [Text.strip, hfirst, List.reverse_append, List.dropWhile_append, List.reverse_append, hkept]
  split
  · next hempty =>
    rw [List.isEmpty_iff.1 hempty]
    simp
  · simp

theorem visible_of_isForbidden {c : Char} (h : Domain.isForbidden c = false) : 32 < c.toNat := by
  simp only [Domain.isForbidden, Bool.or_eq_false_iff, decide_eq_false_iff_not] at h
  exact Nat.not_le.1 h.1.1

theorem visible_of_isDigit {c : Char} (h : Decimal.isDigit c) : 32 < c.toNat := by
  rw [Decimal.isDigit, Decimal.digit?] at h
  split at h
  · next hdigit => exact Nat.lt_of_lt_of_le (by decide) (UInt32.le_iff_toNat_le.1 hdigit.1)
  · cases h

theorem isIgnored_of_visible {c : Char} (h : 32 < c.toNat) : isIgnored c = false := by
  rw [← Bool.not_eq_true]
  intro hc
  have hcases : (c = '\t' ∨ c = '\n') ∨ c = '\r' := by simpa [isIgnored] using hc
  rcases hcases with (rfl | rfl) | rfl <;> exact absurd h (by decide)

theorem filter_isIgnored {cs : List Char} (h : ∀ c ∈ cs, 32 < c.toNat) :
    cs.filter (! isIgnored ·) = cs :=
  List.filter_eq_self.2 fun c hc => by simp [isIgnored_of_visible (h c hc)]

theorem visible_place (hdomain : Host.IsDomain domain) (hport : ∀ ds ∈ port, IsPort ds) :
    ∀ c ∈ domain.toList ++ port.elim [] (':' :: ·), 32 < c.toNat := by
  intro c hc
  rcases List.mem_append.1 hc with hc | hc
  · exact visible_of_isForbidden (hdomain.isPlain c hc)
  · cases port with
    | none => cases hc
    | some ds =>
      rcases List.mem_cons.1 hc with rfl | hc
      · decide
      · exact visible_of_isDigit ((hport ds rfl).1 c hc)

/-- What is passed over in an address is never in its domain or its port. -/
theorem filter_whoAndWhere (hdomain : Host.IsDomain domain) (hport : ∀ ds ∈ port, IsPort ds) :
    (WebAddress.whoAndWhere user domain port).filter (! isIgnored ·) =
      WebAddress.whoAndWhere (user.map (·.filter (! isIgnored ·))) domain port := by
  rw [WebAddress.whoAndWhere, List.filter_append, filter_isIgnored (visible_place hdomain hport),
    WebAddress.whoAndWhere]
  cases user with
  | none => rfl
  | some u =>
    have hat : isIgnored '@' = false := rfl
    simp [hat]

theorem head?_dropWhile_reverse {p : Char → Bool} {cs : List Char} {c : Char}
    (h : c ∈ (cs.reverse.dropWhile p).reverse.head?) : c ∈ cs.head? := by
  have hlead : (cs.reverse.dropWhile p).reverse <+: cs := by
    simpa using List.reverse_prefix.2 (List.dropWhile_suffix (l := cs.reverse) p)
  obtain ⟨tail, htail⟩ := hlead
  rw [← htail, List.head?_append, Option.mem_def.1 h]
  rfl

theorem endsAuthority_of_isSlash {c : Char} (h : isSlash true c) : endsAuthority true c := by
  simp [endsAuthority, h]

theorem visible_of_endsAuthority {c : Char} (h : endsAuthority true c) : 32 < c.toNat := by
  rcases endsAuthority_iff.1 h with ((rfl | rfl) | rfl) | rfl <;> decide

theorem visible_of_isAlpha {c : Char} (h : c.isAlpha) : 32 < c.toNat := by
  have hupper : c.isUpper = decide ('A'.val ≤ c.val ∧ c.val ≤ 'Z'.val) := rfl
  have hlower : c.isLower = (decide ('a'.val ≤ c.val) && decide (c.val ≤ 'z'.val)) := rfl
  have hletter : c.isAlpha = (c.isUpper || c.isLower) := rfl
  rw [hletter, hupper, hlower, Bool.or_eq_true, Bool.and_eq_true, decide_eq_true_eq, decide_eq_true_eq,
    decide_eq_true_eq] at h
  rcases h with h | h <;> exact Nat.lt_of_lt_of_le (by decide) (UInt32.le_iff_toNat_le.1 h.1)

namespace WebAddress

variable (a : WebAddress)

theorem scheme_ne_empty : a.scheme ≠ "" := by
  intro hempty
  have hweb := a.isWeb
  rw [hempty] at hweb
  revert hweb
  decide

/-- What is left of it without blanks at its ends and without what is passed over. -/
theorem exists_stripped : ∃ user rest, (∀ u ∈ user, ∀ c ∈ u, endsAuthority true c = false) ∧
    (∀ c ∈ rest.head?, endsAuthority true c) ∧
    (Text.strip isOuterBlank a.text.toList).filter (! isIgnored ·) =
      a.scheme.toList ++ ':' :: (a.slashes ++ (whoAndWhere user a.domain a.port ++ rest)) := by
  have hscheme := isAlpha_of_isWeb a.isWeb
  have hplace := visible_place a.isDomain a.isPort
  have hne : a.domain.toList ++ a.port.elim [] (':' :: ·) ≠ [] := by simp [a.isDomain.ne_empty]
  obtain ⟨c, cs, hcs⟩ := List.exists_cons_of_ne_nil (l := a.scheme.toList)
    (by simpa using a.scheme_ne_empty)
  -- neither the scheme nor the place has blanks, so only what follows the place gets shorter
  let rest := (a.rest.reverse.dropWhile isOuterBlank).reverse
  have hstrip : Text.strip isOuterBlank a.text.toList =
      a.scheme.toList ++ ':' :: (a.slashes ++ (whoAndWhere a.user a.domain a.port ++ rest)) := by
    have hc : isOuterBlank c = false := by
      simpa [isOuterBlank] using visible_of_isAlpha (hscheme c (by simp [hcs]))
    have h := strip_append (cs ++ ':' :: (a.slashes ++ a.user.elim [] (· ++ ['@']))) hc hne
      (fun d hd => by simpa [isOuterBlank] using hplace d hd) a.rest
    simpa [text, whoAndWhere, hcs, rest] using h
  refine ⟨a.user.map (·.filter (! isIgnored ·)), rest.filter (! isIgnored ·), ?_, ?_, ?_⟩
  · intro u hu d hd
    obtain ⟨name, hname, rfl⟩ := Option.map_eq_some_iff.1 hu
    exact a.isUser name hname d ((List.mem_filter.1 hd).1)
  · intro d hd
    cases hrest : rest with
    | nil => simp [hrest] at hd
    | cons e tail =>
      have hfirst : e ∈ (a.rest.reverse.dropWhile isOuterBlank).reverse.head? := by
        change e ∈ rest.head?
        rw [hrest]
        rfl
      have he : endsAuthority true e := a.isRest e (head?_dropWhile_reverse hfirst)
      have hkept : isIgnored e = false := isIgnored_of_visible (visible_of_endsAuthority he)
      rw [hrest, List.filter_cons_of_pos (by simp [hkept]), List.head?_cons, Option.mem_some] at hd
      exact hd ▸ he
  · have hcolon : isIgnored ':' = false := rfl
    rw [hstrip, List.filter_append, filter_isIgnored fun c hc => visible_of_isAlpha (hscheme c hc),
      List.filter_cons_of_pos (by simp [hcolon]), List.filter_append, List.filter_append,
      filter_whoAndWhere a.isDomain a.isPort, filter_isIgnored fun c hc =>
        visible_of_endsAuthority (endsAuthority_of_isSlash (a.isSlash c hc))]

/-- It is an address, of the domain in lower case. -/
theorem parse_text : ∃ url, parse a.text = .ok url ∧ url.scheme = Text.lowerAscii a.scheme ∧
    url.host = some (Text.lowerAscii a.domain) := by
  obtain ⟨user, rest, huser, hrest, hstripped⟩ := a.exists_stripped
  have hdrop : (a.slashes ++ (whoAndWhere user a.domain a.port ++ rest)).dropWhile (Url.isSlash true) =
      whoAndWhere user a.domain a.port ++ rest := by
    obtain ⟨c, cs, hcs⟩ := List.exists_cons_of_ne_nil
      (l := whoAndWhere user a.domain a.port) (by simp [whoAndWhere, a.isDomain.ne_empty])
    have hc : Url.isSlash true c = false := by
      have hends := not_endsAuthority_whoAndWhere huser a.isDomain a.isPort c (by simp [hcs])
      rw [endsAuthority, Bool.or_eq_false_iff, Bool.or_eq_false_iff] at hends
      exact hends.1.1
    rw [List.dropWhile_append_of_pos a.isSlash, hcs, List.cons_append,
      List.dropWhile_cons_of_neg (by simp [hc])]
  have hread (own : Nat) :=
    withAuthority_whoAndWhere (Text.lowerAscii a.scheme) own huser a.isDomain a.isPort hrest
  rw [parse]
  simp only [hstripped, scheme?_append a.scheme_ne_empty (isAlpha_of_isWeb a.isWeb)]
  rcases a.isWeb with h | h
  · rw [h] at hread ⊢
    simpa only [schemeKind, hdrop] using hread 80
  · rw [h] at hread ⊢
    simpa only [schemeKind, hdrop] using hread 443

theorem hostOf_text : hostOf a.text = Text.lowerAscii a.domain := by
  obtain ⟨url, hurl, -, hhost⟩ := a.parse_text
  simp [hostOf, hurl, hhost]

end WebAddress

/-- An address that leads to a host: its host reads so, or it is written with it in any letter case. -/
inductive LeadsTo (name : String) : String → Prop
  | read {address : String} {url : Url} (hurl : parse address = .ok url) (hhost : url.host = some name) :
    LeadsTo name address
  | written (a : WebAddress) (hname : Text.lowerAscii a.domain = name) : LeadsTo name a.text

theorem LeadsTo.hostOf_eq {name address : String} (h : LeadsTo name address) :
    hostOf address = name := by
  cases h with
  | read hurl hhost => simp [hostOf, hurl, hhost]
  | written a hname => rw [a.hostOf_text, hname]

end Url

end ConsumerConnector
