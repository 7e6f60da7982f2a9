import ConsumerConnector.Catalog.Search
import ConsumerConnector.ControlPlane.Script
import Mathlib.Order.Bounds.Basic
import Mathlib.Order.Nat

/-!
Where a search through the pages of a catalog ends, whatever the provider answers. Pages are asked for
by their numbers, so all answers are known before it is known which of them ends the search: the first
one that is an error, holds the target, is not full, or repeats the page before.
-/

namespace ConsumerConnector.Catalog

def Holds (page : Catalog) (target : String) : Prop :=
  ∃ item ∈ page.items, item.asset = target

/-- Nothing is left to look for after the page. -/
def Completes (page : Catalog) (pageSize : Nat) (target : String) : Prop :=
  page.Holds target ∨ page.datasets.length < pageSize

def SameDatasets (a b : Catalog) : Prop :=
  ∀ id, id ∈ Paging.datasetIds a ↔ id ∈ Paging.datasetIds b

theorem any_asset_iff {page : Catalog} {target : String} :
    page.items.any (·.asset == target) = true ↔ page.Holds target := by
  simp [Holds]

theorem sameIds_iff {a b : List String} : Paging.sameIds a b = true ↔ ∀ id, id ∈ a ↔ id ∈ b := by
  simp only [Paging.sameIds, Bool.and_eq_true, List.all_eq_true, List.contains_iff_mem]
  exact ⟨fun h id => ⟨h.1 id, h.2 id⟩, fun h => ⟨fun id => (h id).1, fun id => (h id).2⟩⟩

instance (page : Catalog) (target : String) : Decidable (page.Holds target) :=
  decidable_of_iff _ any_asset_iff

instance (page : Catalog) (pageSize : Nat) (target : String) :
    Decidable (page.Completes pageSize target) :=
  inferInstanceAs (Decidable (_ ∨ _))

instance (a b : Catalog) : Decidable (a.SameDatasets b) :=
  decidable_of_iff _ sameIds_iff

/-- A search of a provider that is in a state. -/
structure Inquiry (σ : Type) where
  plane : Plane σ
  settings : Settings
  endpoint : String
  partner : String
  target : String
  state : σ

namespace Inquiry

variable {σ : Type} (q : Inquiry σ)

/-- The request for the page with a number. -/
def request (k : Nat) : Request :=
  pageRequest q.settings q.endpoint q.partner (k * q.settings.pageSize)

/-- The provider's state once so many pages have been asked for. -/
def stateAfter : Nat → σ
  | 0 => q.state
  | k + 1 => (ask q.plane (q.request k) (stateAfter k)).2

/-- The answer to the request for the page with a number. -/
def answer (k : Nat) : Except TransportError Catalog :=
  (ask q.plane (q.request k) (q.stateAfter k)).1

def calls (n : Nat) : List Call :=
  ((List.range n).map fun k => .getCatalog (q.request k)).reverse

/-- The items of so many pages. -/
def items (n : Nat) : List Item :=
  (List.range n).flatMap fun k => ((q.answer k).toOption.map Catalog.items).getD []

/-- How many datasets there are on so many pages. -/
def received : Nat → Nat
  | 0 => 0
  | n + 1 => received n + ((q.answer n).toOption.map (·.datasets.length)).getD 0

abbrev Completes (page : Catalog) : Prop :=
  page.Completes q.settings.pageSize q.target

def Repeats (k : Nat) (page : Catalog) : Prop :=
  ∃ j previous, k = j + 1 ∧ q.answer j = .ok previous ∧ page.SameDatasets previous

/-- The answer with a number ends a search that has come to it, with a result. -/
inductive Decides (k : Nat) : Except TransportError (List Item) → Prop
  | failure {e : TransportError} (h : q.answer k = .error e) : Decides k (.error e)
  | completion {page : Catalog} (h : q.answer k = .ok page) (hlast : q.Completes page) :
      Decides k (.ok (q.items (k + 1)))
  | repetition {page : Catalog} (h : q.answer k = .ok page) (hlast : ¬ q.Completes page)
      (hrepeats : q.Repeats k page) : Decides k (.ok (q.items k))

/-- A full page without the target, and another one than the page before. -/
def IsOpen (k : Nat) : Prop :=
  ∃ page, q.answer k = .ok page ∧ ¬ q.Completes page ∧ ¬ q.Repeats k page

/-- The search with at most so many requests, which are recorded. -/
def run (limit : Nat) : Option (Except TransportError (List Item)) × σ × List Call :=
  fetchUntilMatch q.plane.recorded q.settings limit q.endpoint q.target q.partner (q.state, [])

variable {q} {k n limit : Nat} {page : Catalog} {r : Except TransportError (List Item)}

theorem isOpen_iff : q.IsOpen k ↔ ∀ r, ¬ q.Decides k r := by
  constructor
  · rintro ⟨page, hpage, hlast, hrepeats⟩ r (⟨h⟩ | ⟨h, hlast'⟩ | ⟨h, -, hrepeats'⟩)
    · cases hpage.symm.trans h
    · cases hpage.symm.trans h
      exact hlast hlast'
    · cases hpage.symm.trans h
      exact hrepeats hrepeats'
  · intro h
    match hanswer : q.answer k with
    | .error e => exact (h _ (.failure hanswer)).elim
    | .ok page =>
      have hlast : ¬ q.Completes page := fun hlast => h _ (.completion hanswer hlast)
      exact ⟨page, hanswer, hlast, fun hrepeats => h _ (.repetition hanswer hlast hrepeats)⟩

theorem not_repeats_zero : ¬ q.Repeats 0 page := by
  rintro ⟨j, -, h, -⟩
  cases h

theorem repeats_succ_iff {previous : Catalog} (h : q.answer k = .ok previous) :
    q.Repeats (k + 1) page ↔ page.SameDatasets previous := by
  constructor
  · rintro ⟨j, previous', hj, h', hsame⟩
    cases hj
    cases h.symm.trans h'
    exact hsame
  · exact fun hsame => ⟨k, previous, rfl, h, hsame⟩

theorem calls_succ : q.calls (n + 1) = .getCatalog (q.request n) :: q.calls n := by
  simp [calls, List.range_succ]

theorem items_succ (h : q.answer k = .ok page) : q.items (k + 1) = q.items k ++ page.items := by
  simp [items, List.range_succ, h, Except.toOption]

theorem received_succ (h : q.answer k = .ok page) :
    q.received (k + 1) = q.received k + page.datasets.length := by
  simp [received, h, Except.toOption]

/-- Where the search stands when it asks for the page with a number. -/
def paging (q : Inquiry σ) (k : Nat) : Paging where
  offset := k * q.settings.pageSize
  previous := match k with
    | 0 => none
    | j + 1 => (q.answer j).toOption.map Paging.datasetIds
  found := q.items k

theorem previous_paging_iff : ((q.paging k).previous.map
    (Paging.sameIds (Paging.datasetIds page))).getD false = true ↔ q.Repeats k page := by
  cases k with
  | zero => simp [paging, not_repeats_zero]
  | succ j =>
    match h : q.answer j with
    | .error e => simp [paging, Repeats, h, Except.toOption]
    | .ok previous =>
      rw [repeats_succ_iff h, SameDatasets, ← sameIds_iff]
      simp [paging, h, Except.toOption]

theorem receive_of_completes (h : q.answer k = .ok page) (hlast : q.Completes page) :
    (q.paging k).receive q.settings.pageSize q.target page = .done (q.items (k + 1)) := by
  rw [Paging.receive, items_succ h]
  by_cases htarget : page.Holds q.target
  · rw [if_pos (any_asset_iff.2 htarget)]
    rfl
  · rw [if_neg (mt any_asset_iff.1 htarget), if_pos (hlast.resolve_left htarget)]
    rfl

theorem receive_of_not_completes (h : q.answer k = .ok page) (hlast : ¬ q.Completes page) :
    (q.Repeats k page →
      (q.paging k).receive q.settings.pageSize q.target page = .done (q.items k)) ∧
    (¬ q.Repeats k page →
      (q.paging k).receive q.settings.pageSize q.target page = .more (q.paging (k + 1))) := by
  obtain ⟨htarget, hfull⟩ := not_or.1 hlast
  rw [Paging.receive, if_neg (mt any_asset_iff.1 htarget), if_neg hfull]
  constructor
  · intro hrepeats
    rw [if_pos (previous_paging_iff.2 hrepeats)]
    rfl
  · intro hrepeats
    rw [if_neg (mt previous_paging_iff.1 hrepeats), paging, items_succ h]
    simp [paging, h, Except.toOption, Nat.succ_mul]

theorem ask_request (q : Inquiry σ) (k : Nat) :
    ask q.plane.recorded (pageRequest q.settings q.endpoint q.partner (q.paging k).offset)
        (q.stateAfter k, q.calls k) =
      (q.answer k, q.stateAfter (k + 1), q.calls (k + 1)) := by
  rw [calls_succ]
  rfl

/-- The search from the page with a number on. -/
def rest (q : Inquiry σ) (k limit : Nat) :
    Option (Except TransportError (List Item)) × σ × List Call :=
  turnPages q.plane.recorded q.settings q.endpoint q.target q.partner limit (q.paging k)
    (q.stateAfter k, q.calls k)

theorem run_eq_rest (hsize : 0 < q.settings.pageSize) : q.run limit = q.rest 0 limit := by
  have hstart : q.paging 0 = .start := by simp [paging, items, Paging.start]
  rw [run, fetchUntilMatch, if_neg (Nat.ne_of_gt hsize), rest, hstart]
  rfl

theorem rest_of_decides (h : q.Decides k r) :
    q.rest k (limit + 1) = (some r, q.stateAfter (k + 1), q.calls (k + 1)) := by
  rw [rest, turnPages, ask_request]
  cases h with
  | failure h => rw [h]
  | completion h hlast =>
    rw [h]
    simp only [receive_of_completes h hlast]
  | repetition h hlast hrepeats =>
    rw [h]
    simp only [(receive_of_not_completes h hlast).1 hrepeats]

theorem rest_of_isOpen (h : q.IsOpen k) : q.rest k (limit + 1) = q.rest (k + 1) limit := by
  obtain ⟨page, hpage, hlast, hrepeats⟩ := h
  rw [rest, turnPages, ask_request, hpage]
  simp only [(receive_of_not_completes hpage hlast).2 hrepeats]
  rfl

/-- Open pages are passed over one after the other. -/
theorem run_add (hsize : 0 < q.settings.pageSize) (h : ∀ k < n, q.IsOpen k) (limit : Nat) :
    q.run (n + limit) = q.rest n limit := by
  induction n generalizing limit with
  | zero => rw [Nat.zero_add, run_eq_rest hsize]
  | succ n ih =>
    rw [Nat.add_assoc, Nat.add_comm 1 limit, ih (fun k hk => h k (Nat.lt_succ_of_lt hk)),
      rest_of_isOpen (h n (Nat.lt_succ_self n))]

theorem run_of_isOpen (hsize : 0 < q.settings.pageSize) (h : ∀ k < limit, q.IsOpen k) :
    q.run limit = (none, q.stateAfter limit, q.calls limit) :=
  run_add hsize h 0

theorem run_of_decides (hsize : 0 < q.settings.pageSize) (h : ∀ j < k, q.IsOpen j)
    (hr : q.Decides k r) (hlimit : k < limit) :
    q.run limit = (some r, q.stateAfter (k + 1), q.calls (k + 1)) := by
  obtain ⟨left, rfl⟩ := Nat.exists_eq_add_of_lt hlimit
  rw [Nat.add_assoc, run_add hsize h, rest_of_decides hr]

theorem isLeast_of_decides (h : ∀ j < k, q.IsOpen j) (hr : q.Decides k r) :
    IsLeast {k | ∃ r, q.Decides k r} k :=
  ⟨⟨r, hr⟩, fun _ ⟨r', hr'⟩ => Nat.le_of_not_lt fun hj => isOpen_iff.1 (h _ hj) r' hr'⟩

theorem exists_first_decision (h : ¬ q.IsOpen k) :
    ∃ i ≤ k, (∀ j < i, q.IsOpen j) ∧ ∃ r, q.Decides i r := by
  induction k using Nat.strong_induction_on with
  | _ k ih =>
    by_cases hbefore : ∀ j < k, q.IsOpen j
    · refine ⟨k, Nat.le_refl k, hbefore, ?_⟩
      simpa [isOpen_iff] using h
    · simp only [not_forall] at hbefore
      obtain ⟨j, hj, hclosed⟩ := hbefore
      obtain ⟨i, hi, hfirst⟩ := ih j hj hclosed
      exact ⟨i, Nat.le_trans hi (Nat.le_of_lt hj), hfirst⟩

theorem isSome_run_iff (hsize : 0 < q.settings.pageSize) :
    (q.run limit).1.isSome = true ↔ ∃ k < limit, ¬ q.IsOpen k := by
  constructor
  · intro hsome
    by_contra hopen
    simp only [not_exists, not_and, not_not] at hopen
    simp [run_of_isOpen hsize hopen] at hsome
  · rintro ⟨k, hk, hclosed⟩
    obtain ⟨i, hi, hopen, r, hr⟩ := exists_first_decision hclosed
    simp [run_of_decides hsize hopen hr (Nat.lt_of_le_of_lt hi hk)]

theorem mul_pageSize_le_received (h : ∀ k < n, q.IsOpen k) :
    n * q.settings.pageSize ≤ q.received n := by
  induction n with
  | zero => simp
  | succ n ih =>
    obtain ⟨page, hpage, hlast, -⟩ := h n (Nat.lt_succ_self n)
    have hfull : q.settings.pageSize ≤ page.datasets.length := Nat.le_of_not_lt (not_or.1 hlast).2
    have hbefore := ih fun k hk => h k (Nat.lt_succ_of_lt hk)
    rw [received_succ hpage, Nat.succ_mul]
    exact Nat.add_le_add hbefore hfull

/-- The next offset is within what has been received, so it fits into a word if that does. -/
theorem uaddOverflow_offset {width : Nat} (h : ∀ k < n, q.IsOpen k)
    (hfits : (BitVec.ofNat width (q.received n)).toNat = q.received n) (hk : k < n) :
    (BitVec.ofNat width (k * q.settings.pageSize)).uaddOverflow
      (BitVec.ofNat width q.settings.pageSize) = false := by
  have hword := (BitVec.ofNat width (q.received n)).isLt
  rw [hfits] at hword
  have hnext :=
    calc k * q.settings.pageSize + q.settings.pageSize
      _ = (k + 1) * q.settings.pageSize := (Nat.succ_mul ..).symm
      _ ≤ n * q.settings.pageSize := Nat.mul_le_mul_right _ hk
      _ ≤ q.received n := mul_pageSize_le_received h
      _ < _ := hword
  rw [BitVec.uaddOverflow, decide_eq_false_iff_not, BitVec.toNat_ofNat, BitVec.toNat_ofNat,
    Nat.mod_eq_of_lt (by omega), Nat.mod_eq_of_lt (by omega)]
  exact Nat.not_le.2 hnext

end Inquiry

/-- The first answer that decides a search ends it, and without one it goes on for ever. Up to there the
pages are asked for one after the other, none of them at an offset beyond what has been received, so an
offset in machine words does not overflow as long as the number of datasets fits. -/
theorem fetchUntilMatch_decided {σ : Type} (q : Inquiry σ) (hsize : 0 < q.settings.pageSize) :
    (∀ i r, IsLeast {k | ∃ r, q.Decides k r} i → q.Decides i r → ∀ limit,
      fetchUntilMatch q.plane.recorded q.settings limit q.endpoint q.target q.partner (q.state, []) =
        if i < limit then (some r, q.stateAfter (i + 1), q.calls (i + 1))
        else (none, q.stateAfter limit, q.calls limit)) ∧
    ((∀ k r, ¬ q.Decides k r) → ∀ limit,
      fetchUntilMatch q.plane.recorded q.settings limit q.endpoint q.target q.partner (q.state, []) =
        (none, q.stateAfter limit, q.calls limit)) ∧
    (∀ k, (q.request k).query = ⟨k * q.settings.pageSize, some q.settings.pageSize, none⟩) ∧
    ∀ n, (∀ k < n, ∀ r, ¬ q.Decides k r) →
      n * q.settings.pageSize ≤ q.received n ∧
      ∀ width, (BitVec.ofNat width (q.received n)).toNat = q.received n → ∀ k < n,
        (BitVec.ofNat width (k * q.settings.pageSize)).uaddOverflow
          (BitVec.ofNat width q.settings.pageSize) = false := by
  refine ⟨fun i r hleast hr limit => ?_, fun h limit => ?_, fun _ => rfl, fun n h => ?_⟩
  · have hopen : ∀ k < i, q.IsOpen k := fun k hk =>
      Inquiry.isOpen_iff.2 fun r hr => Nat.not_le_of_lt hk (hleast.2 ⟨r, hr⟩)
    by_cases hlimit : i < limit
    · rw [if_pos hlimit]
      exact Inquiry.run_of_decides hsize hopen hr hlimit
    · rw [if_neg hlimit]
      exact Inquiry.run_of_isOpen hsize fun k hk => hopen k (by omega)
  · exact Inquiry.run_of_isOpen hsize fun k _ => Inquiry.isOpen_iff.2 (h k)
  · have hopen : ∀ k < n, q.IsOpen k := fun k hk => Inquiry.isOpen_iff.2 (h k hk)
    exact ⟨Inquiry.mul_pageSize_le_received hopen,
      fun width hfits k hk => Inquiry.uaddOverflow_offset hopen hfits hk⟩

/-- Says what it has to say, whatever it is asked for. -/
def reciting (answers : Nat → Except TransportError Catalog) : Plane Nat
  | .getCatalog _, n => (answers n, n + 1)
  | _, n => (.error (.request "not a catalog request"), n)

namespace Inquiry

def reciting (answers : Nat → Except TransportError Catalog) (settings : Settings)
    (endpoint partner target : String) : Inquiry Nat :=
  ⟨Catalog.reciting answers, settings, endpoint, partner, target, 0⟩

variable {answers : Nat → Except TransportError Catalog} {settings : Settings}
  {endpoint partner target : String} {k : Nat}

theorem stateAfter_reciting :
    (reciting answers settings endpoint partner target).stateAfter k = k := by
  induction k with
  | zero => rfl
  | succ k ih =>
    rw [stateAfter, ih]
    rfl

/-- Every sequence of answers is that of some provider. -/
@[simp] theorem answer_reciting :
    (reciting answers settings endpoint partner target).answer k = answers k := by
  rw [answer, stateAfter_reciting]
  rfl

end Inquiry

/-- A page of datasets that are all offered. -/
def shelf (ids : List String) : Catalog :=
  ⟨"catalog", none, ∅, ids.map fun id => ⟨id, ∅, [⟨"offer", .empty⟩]⟩⟩

/-- The last of these pages repeats the one before in another order. -/
def disorder : Nat → Except TransportError Catalog
  | 0 => .ok (shelf ["a", "b"])
  | 1 => .ok (shelf ["c", "a"])
  | 2 => .ok (shelf ["a", "c"])
  | _ => .error (.connect "refused")

theorem fetchUntilMatch_decided_disorder :
    let q := Inquiry.reciting disorder ⟨2, ""⟩ "https://provider" "partner" "wanted"
    IsLeast {k | ∃ r, q.Decides k r} 2 ∧
    ∃ items, fetchUntilMatch q.plane.recorded q.settings 3 q.endpoint q.target q.partner
        (q.state, []) = (some (.ok items), 3, q.calls 3) ∧ items.map (·.id) = ["a", "b", "c", "a"] := by
  intro q
  have hanswer : ∀ k, q.answer k = disorder k := fun _ => Inquiry.answer_reciting
  have hfirst : q.IsOpen 0 := ⟨_, hanswer 0, by decide, Inquiry.not_repeats_zero⟩
  have hsecond : q.IsOpen 1 :=
    ⟨_, hanswer 1, by decide, mt (Inquiry.repeats_succ_iff (hanswer 0)).1 (by decide)⟩
  have hthird : q.Decides 2 (.ok (q.items 2)) :=
    .repetition (hanswer 2) (by decide) ((Inquiry.repeats_succ_iff (hanswer 1)).2 (by decide))
  have hleast : IsLeast {k | ∃ r, q.Decides k r} 2 := by
    apply Inquiry.isLeast_of_decides _ hthird
    intro k hk
    match k with
    | 0 => exact hfirst
    | 1 => exact hsecond
  have hrun := (fetchUntilMatch_decided q (by decide)).1 2 _ hleast hthird 3
  rw [if_pos (by decide), Inquiry.stateAfter_reciting] at hrun
  exact ⟨hleast, q.items 2, hrun, by decide⟩

end ConsumerConnector.Catalog
