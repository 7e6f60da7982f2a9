import ConsumerConnector.Catalog.Search
import ConsumerConnector.ControlPlane.Script
import Mathlib.Data.List.Basic

/-!
Paging through the catalog of a provider that keeps to what it is asked for. The search ends with the
page that holds the target, or else with the first page that is not full, so it is known beforehand
how many pages are asked for and what is found on them.
-/

namespace ConsumerConnector

namespace Plane

variable {σ : Type}

/-- Every page of the datasets can be had, under a head that may be another one for every request. -/
def Offers (plane : Plane σ) (datasets : List Dataset) (head : Catalog.Request → Catalog) : Prop :=
  ∀ (q : Catalog.Request) (limit : Nat) (s : σ), q.query.limit = some limit →
    q.query.filter = none → (plane (.getCatalog q) s).1 =
      .ok { head q with datasets := (datasets.drop q.query.offset).take limit }

end Plane

/-- There is an offer for the target. -/
def Dataset.isOffered (target : String) (d : Dataset) : Bool :=
  !d.offers.isEmpty && d.asset == target

namespace Catalog

/-- Part of a list: of the pieces of a size, all but the last of them full, the one with a number. -/
def piece {α : Type} (size : Nat) (l : List α) (k : Nat) : List α :=
  (l.drop (k * size)).take size

section Piece

variable {α : Type} {size k : Nat} {l : List α}

theorem take_append_piece (size : Nat) (l : List α) (k : Nat) :
    l.take (k * size) ++ piece size l k = l.take ((k + 1) * size) := by
  rw [piece, Nat.succ_mul, List.take_add]

theorem length_piece_lt_iff (hsize : 0 < size) :
    (piece size l k).length < size ↔ l.length < (k + 1) * size := by
  rw [piece, List.length_take, List.length_drop, Nat.succ_mul]
  omega

theorem piece_subset_take (size : Nat) (l : List α) (k : Nat) :
    piece size l k ⊆ l.take ((k + 1) * size) := by
  rw [← take_append_piece]
  exact List.subset_append_right ..

/-- Nothing that is looked for is on a piece before that of the first place where it is. -/
theorem any_piece_eq_false {p : α → Bool} (h : (k + 1) * size ≤ l.findIdx p) :
    (piece size l k).any p = false := by
  refine List.any_eq_false.2 fun a ha => ?_
  obtain ⟨i, hi, rfl⟩ := List.mem_take_iff_getElem.1 (piece_subset_take size l k ha)
  have hlt : i < l.findIdx p := by omega
  simpa using List.not_of_lt_findIdx hlt

theorem any_piece_findIdx {p : α → Bool} (hsize : 0 < size) (h : l.findIdx p < l.length) :
    (piece size l (l.findIdx p / size)).any p = true := by
  refine List.any_eq_true.2 ⟨l[l.findIdx p], ?_, List.findIdx_getElem⟩
  rw [piece, List.mem_take_iff_getElem]
  have hmod : l.findIdx p % size < size := Nat.mod_lt _ hsize
  have hdiv : l.findIdx p / size * size + l.findIdx p % size = l.findIdx p := Nat.div_add_mod' ..
  refine ⟨l.findIdx p % size, ?_, ?_⟩
  · rw [List.length_drop]
    omega
  · rw [List.getElem_drop]
    simp only [hdiv]

end Piece

theorem any_items_asset (page : Catalog) (target : String) :
    page.items.any (·.asset == target) = page.datasets.any (·.isOffered target) := by
  rw [Catalog.items, List.any_filterMap]
  congr 1
  funext d
  cases h : d.offers <;> simp [Dataset.item?, Dataset.isOffered, h]

/-- Pages without a dataset in common differ. -/
theorem sameIds_eq_false {a b : List String} (hne : a ≠ []) (h : ∀ id ∈ a, id ∉ b) :
    Paging.sameIds a b = false := by
  obtain ⟨id, hid⟩ := List.exists_mem_of_ne_nil a hne
  rw [Paging.sameIds, Bool.and_eq_false_iff]
  exact .inl (List.all_eq_false.2 ⟨id, hid, by simpa using h id hid⟩)

/-- The items of the first datasets, each under the connector of its page. -/
def itemsUpTo (connector : Nat → String) (size : Nat) (datasets : List Dataset) (n : Nat) :
    List Item :=
  (datasets.take n).zipIdx.filterMap fun (d, i) => d.item? (connector (i / size))

theorem itemsUpTo_succ (connector : Nat → String) {size : Nat} {datasets : List Dataset} {k : Nat}
    (h : k * size ≤ datasets.length) :
    itemsUpTo connector size datasets ((k + 1) * size) =
      itemsUpTo connector size datasets (k * size) ++
        (piece size datasets k).filterMap (·.item? (connector k)) := by
  rw [itemsUpTo, ← take_append_piece, List.zipIdx_append, List.filterMap_append, ← itemsUpTo]
  congr 1
  rw [List.length_take, Nat.min_eq_left h, Nat.zero_add]
  calc
    _ = ((piece size datasets k).zipIdx (k * size)).filterMap fun (d, _) => d.item? (connector k) := by
      refine List.filterMap_congr fun (d, i) hi => ?_
      obtain ⟨hle, hlt, -⟩ := List.mem_zipIdx hi
      have hlength : (piece size datasets k).length ≤ size := List.length_take_le ..
      have hpage : i / size = k := Nat.div_eq_of_lt_le hle (by rw [Nat.succ_mul]; omega)
      simp only [hpage]
    _ = (((piece size datasets k).zipIdx (k * size)).map Prod.fst).filterMap
        (·.item? (connector k)) := by rw [List.filterMap_map]; rfl
    _ = _ := by rw [List.zipIdx_map_fst]

section Search

variable {σ : Type} {plane : Plane σ} {settings : Settings} {datasets : List Dataset}
  {head : Request → Catalog} {endpoint partner target : String}

/-- The page with a number. -/
def page (settings : Settings) (datasets : List Dataset) (head : Request → Catalog)
    (endpoint partner : String) (k : Nat) : Catalog :=
  { head (pageRequest settings endpoint partner (k * settings.pageSize)) with
    datasets := piece settings.pageSize datasets k }

@[simp] theorem datasets_page (k : Nat) : (page settings datasets head endpoint partner k).datasets =
    piece settings.pageSize datasets k := rfl

/-- Where a search stands that has gone on to the page with a number. -/
def pagingAt (settings : Settings) (datasets : List Dataset) (head : Request → Catalog)
    (endpoint partner : String) (k : Nat) : Paging where
  offset := k * settings.pageSize
  previous := match k with
    | 0 => none
    | k + 1 => some (Paging.datasetIds (page settings datasets head endpoint partner k))
  found := itemsUpTo (fun k => (page settings datasets head endpoint partner k).connector)
    settings.pageSize datasets (k * settings.pageSize)

@[simp] theorem pagingAt_offset (k : Nat) :
    (pagingAt settings datasets head endpoint partner k).offset = k * settings.pageSize := rfl

theorem pagingAt_zero : pagingAt settings datasets head endpoint partner 0 = .start := by
  simp [pagingAt, Paging.start, itemsUpTo]

theorem found_append_items {k : Nat} (h : k * settings.pageSize ≤ datasets.length) :
    (pagingAt settings datasets head endpoint partner k).found ++
        (page settings datasets head endpoint partner k).items =
      (pagingAt settings datasets head endpoint partner (k + 1)).found := by
  simp only [pagingAt, itemsUpTo_succ _ h]
  rfl

/-- No full page repeats the one before. -/
theorem previous_differs (hsize : 0 < settings.pageSize) (hids : (datasets.map (·.id)).Nodup)
    {k : Nat} (h : (k + 1) * settings.pageSize ≤ datasets.length) :
    ((pagingAt settings datasets head endpoint partner k).previous.map
      (Paging.sameIds (Paging.datasetIds (page settings datasets head endpoint partner k)))).getD
        false = false := by
  cases k with
  | zero => rfl
  | succ k =>
    refine sameIds_eq_false ?_ fun id hid hid' => ?_
    · have hfull : ¬ (piece settings.pageSize datasets (k + 1)).length < settings.pageSize := by
        rw [length_piece_lt_iff hsize]
        omega
      rw [← List.length_pos_iff, Paging.datasetIds, List.length_map]
      exact Nat.lt_of_lt_of_le hsize (Nat.le_of_not_lt hfull)
    · have hboth := ((List.take_sublist ((k + 2) * settings.pageSize) datasets).map
        Dataset.id).nodup hids
      rw [← take_append_piece, List.map_append] at hboth
      exact (List.nodup_append.1 hboth).2.2 id
        (List.map_subset _ (piece_subset_take ..) hid') id hid rfl

theorem receive_last {k : Nat} (hsize : 0 < settings.pageSize)
    (h : k = datasets.findIdx (·.isOffered target) / settings.pageSize) :
    (pagingAt settings datasets head endpoint partner k).receive settings.pageSize target
        (page settings datasets head endpoint partner k) =
      .done (pagingAt settings datasets head endpoint partner (k + 1)).found := by
  have hle : datasets.findIdx (·.isOffered target) ≤ datasets.length := List.findIdx_le_length
  have hbefore : k * settings.pageSize ≤ datasets.length :=
    Nat.le_trans (h ▸ Nat.div_mul_le_self ..) hle
  rw [Paging.receive, any_items_asset, found_append_items hbefore, datasets_page]
  rcases Nat.lt_or_eq_of_le hle with hlt | heq
  · have hany := any_piece_findIdx hsize hlt
    rw [← h] at hany
    rw [if_pos hany]
  · have hshort : (piece settings.pageSize datasets k).length < settings.pageSize := by
      rw [length_piece_lt_iff hsize, ← heq, h]
      exact Nat.mul_comm .. ▸ Nat.lt_mul_div_succ _ hsize
    rw [if_pos hshort, ite_self]

theorem receive_earlier {k : Nat} (hsize : 0 < settings.pageSize)
    (hids : (datasets.map (·.id)).Nodup)
    (h : (k + 1) * settings.pageSize ≤ datasets.findIdx (·.isOffered target)) :
    (pagingAt settings datasets head endpoint partner k).receive settings.pageSize target
        (page settings datasets head endpoint partner k) =
      .more (pagingAt settings datasets head endpoint partner (k + 1)) := by
  have hle : (k + 1) * settings.pageSize ≤ datasets.length := Nat.le_trans h List.findIdx_le_length
  have hfull : ¬ (piece settings.pageSize datasets k).length < settings.pageSize := by
    rw [length_piece_lt_iff hsize]
    omega
  have hbefore : k * settings.pageSize ≤ datasets.length :=
    Nat.le_trans (Nat.mul_le_mul_right _ (Nat.le_succ k)) hle
  have hnone : ¬ (piece settings.pageSize datasets k).any (·.isOffered target) :=
    Bool.not_eq_true _ ▸ any_piece_eq_false h
  rw [Paging.receive, any_items_asset, found_append_items hbefore, datasets_page, if_neg hnone,
    if_neg hfull, previous_differs hsize hids hle]
  simp only [Bool.false_eq_true, if_false, pagingAt, Nat.succ_mul]

theorem ask_page (hplane : plane.Offers datasets head) (settings : Settings)
    (endpoint partner : String) (k : Nat) (s : σ) (calls : List Call) :
    ∃ s', ask plane.recorded (pageRequest settings endpoint partner (k * settings.pageSize))
        (s, calls) =
      (.ok (page settings datasets head endpoint partner k), s',
        .getCatalog (pageRequest settings endpoint partner (k * settings.pageSize)) :: calls) := by
  have hpage := hplane (pageRequest settings endpoint partner (k * settings.pageSize))
    settings.pageSize s rfl rfl
  exact ⟨_, Prod.ext hpage rfl⟩

/-- A search that has gone on to a page asks for all pages up to that with the target. -/
theorem turnPages_pagingAt (hsize : 0 < settings.pageSize) (hids : (datasets.map (·.id)).Nodup)
    (hplane : plane.Offers datasets head) (endpoint partner : String) (left : Nat) {k : Nat}
    (h : k + left = datasets.findIdx (·.isOffered target) / settings.pageSize) (s : σ)
    (calls : List Call) :
    ∃ s', ∀ limit, left < limit →
      turnPages plane.recorded settings endpoint target partner limit
          (pagingAt settings datasets head endpoint partner k) (s, calls) =
        (some (.ok (pagingAt settings datasets head endpoint partner (k + left + 1)).found),
          s', ((List.range' k (left + 1)).map fun k => Call.getCatalog
            (pageRequest settings endpoint partner (k * settings.pageSize))).reverse ++ calls) := by
  induction left generalizing k s calls with
  | zero =>
    obtain ⟨s', hask⟩ := ask_page hplane settings endpoint partner k s calls
    refine ⟨s', fun limit hlimit => ?_⟩
    obtain ⟨limit, rfl⟩ := Nat.exists_eq_succ_of_ne_zero (Nat.ne_of_gt hlimit)
    rw [turnPages]
    simp only [pagingAt_offset, hask, receive_last (k := k) hsize h]
    rfl
  | succ left ih =>
    obtain ⟨s₁, hask⟩ := ask_page hplane settings endpoint partner k s calls
    obtain ⟨s', hrest⟩ := ih (k := k + 1) (by omega) s₁
      (.getCatalog (pageRequest settings endpoint partner (k * settings.pageSize)) :: calls)
    refine ⟨s', fun limit hlimit => ?_⟩
    obtain ⟨limit, rfl⟩ := Nat.exists_eq_succ_of_ne_zero (Nat.ne_of_gt (Nat.zero_lt_of_lt hlimit))
    have hearlier : (k + 1) * settings.pageSize ≤ datasets.findIdx (·.isOffered target) := by
      rw [← Nat.le_div_iff_mul_le hsize]
      omega
    rw [turnPages]
    simp only [pagingAt_offset, hask, receive_earlier hsize hids hearlier]
    rw [hrest limit (Nat.lt_of_succ_lt_succ hlimit), Nat.succ_add_eq_add_succ k,
      List.range'_succ (n := left + 1), List.map_cons, List.reverse_cons, List.append_assoc]
    rfl

/-- The items are those of the datasets with offers, in their order. -/
theorem ids_itemsUpTo (connector : Nat → String) (size : Nat) (datasets : List Dataset) (n : Nat) :
    (itemsUpTo connector size datasets n).map (·.id) =
      ((datasets.take n).filter (!·.offers.isEmpty)).map (·.id) := by
  have hitem : ∀ (d : Dataset) (c : String), (d.item? c).map (·.id) =
      if !d.offers.isEmpty then some d.id else none := by
    intro d c
    cases h : d.offers <;> simp [Dataset.item?, h]
  calc
    _ = (((datasets.take n).zipIdx.map Prod.fst).filterMap fun d =>
        if !d.offers.isEmpty then some d.id else none) := by
      rw [itemsUpTo, List.map_filterMap, List.filterMap_map]
      simp only [hitem]
      rfl
    _ = _ := by
      rw [List.zipIdx_map_fst, ← List.filterMap_eq_map, List.filterMap_filter]
      simp only [Function.comp_apply]

/-- A search of a provider that keeps to what it is asked for ends with the page of the first dataset
that is offered for the target, or else with the first page that is not full. -/
theorem fetchUntilMatch_offered (hsize : 0 < settings.pageSize)
    (hids : (datasets.map (·.id)).Nodup) (hplane : plane.Offers datasets head) (s : σ) :
    let place := (datasets.findIdx? (·.isOffered target)).getD datasets.length
    let pages := place / settings.pageSize + 1
    let connector := fun k => (page settings datasets head endpoint partner k).connector
    let items := itemsUpTo connector settings.pageSize datasets (pages * settings.pageSize)
    (∃ s', ∀ limit, pages ≤ limit →
      fetchUntilMatch plane.recorded settings limit endpoint target partner (s, []) =
        (some (.ok items), s', ((List.range pages).map fun k => Call.getCatalog
          (pageRequest settings endpoint partner (k * settings.pageSize))).reverse)) ∧
    (items.map (·.id)).Nodup ∧
    (datasets.findIdx? (·.isOffered target) = none →
      items = itemsUpTo connector settings.pageSize datasets datasets.length) := by
  intro place pages connector items
  have hplace : place = datasets.findIdx (·.isOffered target) := List.findIdx_eq_getD_findIdx?.symm
  refine ⟨?_, ?_, fun hnone => ?_⟩
  · obtain ⟨s', hturn⟩ := turnPages_pagingAt hsize hids hplane endpoint partner
      (place / settings.pageSize) (k := 0) (by rw [Nat.zero_add, hplace]) s []
    refine ⟨s', fun limit hlimit => ?_⟩
    rw [fetchUntilMatch, if_neg (Nat.ne_of_gt hsize)]
    rw [← pagingAt_zero, hturn limit hlimit, List.range_eq_range', List.append_nil, Nat.zero_add]
    rfl
  · rw [ids_itemsUpTo]
    have hsub : ((datasets.take (pages * settings.pageSize)).filter
        (!·.offers.isEmpty)).Sublist datasets :=
      List.filter_sublist.trans (List.take_sublist ..)
    exact (hsub.map _).nodup hids
  · have hall : datasets.length ≤ pages * settings.pageSize := by
      have hlength : place = datasets.length := by simp only [place, hnone, Option.getD_none]
      rw [← hlength, Nat.mul_comm]
      exact Nat.le_of_lt (Nat.lt_mul_div_succ _ hsize)
    simp only [items, itemsUpTo, List.take_of_length_le hall, List.take_length]

end Search

/-- Two full pages, with a dataset on the first that is not offered. -/
def stock : List Dataset :=
  let offers : List Offer := [⟨"offer", .empty⟩]
  [⟨"first", ∅, offers⟩, ⟨"withheld", ∅, []⟩, ⟨"second", ∅, offers⟩, ⟨"third", ∅, offers⟩]

/-- Answers page requests only. -/
def stocked : Plane Unit
  | .getCatalog q, s =>
    (.ok ⟨"catalog", none, ∅, (stock.drop q.query.offset).take (q.query.limit.getD 0)⟩, s)
  | _, s => (.error (.request "not a catalog request"), s)

theorem stocked_offers : stocked.Offers stock fun _ => ⟨"catalog", none, ∅, []⟩ := by
  intro q limit s hlimit _
  simp [stocked, hlimit]

def searchStock (target : String) : Option (Except TransportError (List Item)) × Unit × List Call :=
  fetchUntilMatch stocked.recorded ⟨2, ""⟩ 3 "https://provider" target "partner" ((), [])

/-- An offered target ends the search on its page; for one that is not offered a page after the last
is asked for too. -/
theorem fetchUntilMatch_offered_stock :
    (stock.map (·.id)).Nodup ∧ stocked.Offers stock (fun _ => ⟨"catalog", none, ∅, []⟩) ∧
      (∃ items calls, searchStock "second" = (some (.ok items), (), calls) ∧
        items.map (·.id) = ["first", "second", "third"] ∧ calls.length = 2) ∧
      ∃ items calls, searchStock "withheld" = (some (.ok items), (), calls) ∧
        items.map (·.id) = ["first", "second", "third"] ∧ calls.length = 3 := by
  have hids : (stock.map (·.id)).Nodup := by decide
  have h := fun target => @fetchUntilMatch_offered Unit stocked ⟨2, ""⟩ stock _ "https://provider"
    "partner" target (by decide) hids stocked_offers ()
  obtain ⟨⟨_, hsecond⟩, -⟩ := h "second"
  obtain ⟨⟨_, hwithheld⟩, -⟩ := h "withheld"
  exact ⟨hids, stocked_offers, ⟨_, _, hsecond 3 (by decide), by decide, by decide⟩,
    ⟨_, _, hwithheld 3 (by decide), by decide, by decide⟩⟩

end Catalog

end ConsumerConnector
