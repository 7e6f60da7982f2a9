import ConsumerConnector.Proofs.Catalog.Ending

/-!
Searches of a provider that has only some pages to show, in whatever order. A page is compared with
the one before and with no other, so a search ends at once if all pages that leave it open are alike, and
two of them that differ, shown in turn, keep it going for ever.
-/

namespace ConsumerConnector

/-- Whatever is asked for, the answer is one of the pages. -/
def Plane.Draws {σ : Type} (plane : Plane σ) (pages : List Catalog) : Prop :=
  ∀ (q : Catalog.Request) (s : σ), ∃ page ∈ pages, (plane (.getCatalog q) s).1 = .ok page

namespace Catalog

/-- The pages that leave a search open have the same datasets. -/
def Alike (pages : List Catalog) (pageSize : Nat) (target : String) : Prop :=
  ∀ a ∈ pages, ∀ b ∈ pages, ¬ a.Completes pageSize target → ¬ b.Completes pageSize target →
    a.SameDatasets b

instance (pages : List Catalog) (pageSize : Nat) (target : String) :
    Decidable (Alike pages pageSize target) :=
  inferInstanceAs (Decidable (∀ a ∈ pages, ∀ b ∈ pages, _ → _ → _))

theorem SameDatasets.symm {a b : Catalog} (h : a.SameDatasets b) : b.SameDatasets a :=
  fun id => (h id).symm

namespace Inquiry

variable {σ : Type} {q : Inquiry σ} {pages : List Catalog}

theorem exists_page (h : q.plane.Draws pages) (k : Nat) : ∃ page ∈ pages, q.answer k = .ok page :=
  h (q.request k) (q.stateAfter k)

/-- The second of two pages ends the search if the first does not. -/
theorem exists_closed (h : q.plane.Draws pages)
    (halike : Alike pages q.settings.pageSize q.target) : ∃ k < 2, ¬ q.IsOpen k := by
  by_cases hfirst : q.IsOpen 0
  · refine ⟨1, by decide, ?_⟩
    rintro ⟨page, hpage, hlast, hrepeats⟩
    obtain ⟨first, hanswer, hfirst, -⟩ := hfirst
    obtain ⟨a, ha, hanswer'⟩ := exists_page h 0
    obtain ⟨b, hb, hpage'⟩ := exists_page h 1
    cases hanswer.symm.trans hanswer'
    cases hpage.symm.trans hpage'
    exact hrepeats ((repeats_succ_iff hanswer).2 (halike page hb first ha hlast hfirst))
  · exact ⟨0, by decide, hfirst⟩

theorem isOpen_iff_of_draws (h : q.plane.Draws pages) {k : Nat} :
    ¬ q.IsOpen k ↔ ∃ page, q.answer k = .ok page ∧ (q.Completes page ∨ q.Repeats k page) := by
  obtain ⟨page, -, hpage⟩ := exists_page h k
  simp [IsOpen, hpage, or_iff_not_imp_left]

end Inquiry

/-- One of two pages and the other in turn. -/
def inTurn (a b : Catalog) (k : Nat) : Except TransportError Catalog :=
  .ok (if k % 2 = 0 then a else b)

theorem draws_reciting {answers : Nat → Except TransportError Catalog} {pages : List Catalog}
    (h : ∀ n, ∃ page ∈ pages, answers n = .ok page) : (reciting answers).Draws pages :=
  fun _ n => h n

theorem draws_inTurn {a b : Catalog} {pages : List Catalog} (ha : a ∈ pages) (hb : b ∈ pages) :
    (reciting (inTurn a b)).Draws pages := by
  apply draws_reciting
  intro n
  refine ⟨_, ?_, rfl⟩
  split
  · exact ha
  · exact hb

theorem isOpen_inTurn {a b : Catalog} {settings : Settings} {endpoint partner target : String}
    (ha : ¬ a.Completes settings.pageSize target) (hb : ¬ b.Completes settings.pageSize target)
    (hdiffer : ¬ a.SameDatasets b) (k : Nat) :
    (Inquiry.reciting (inTurn a b) settings endpoint partner target).IsOpen k := by
  have hlast : ∀ k : Nat, ¬ (if k % 2 = 0 then a else b).Completes settings.pageSize target := by
    intro k
    split
    · exact ha
    · exact hb
  refine ⟨_, Inquiry.answer_reciting, hlast k, ?_⟩
  cases k with
  | zero => exact Inquiry.not_repeats_zero
  | succ k =>
    rw [Inquiry.repeats_succ_iff Inquiry.answer_reciting]
    rcases Nat.mod_two_eq_zero_or_one k with hk | hk
    · rw [if_neg (by omega), if_pos hk]
      exact mt SameDatasets.symm hdiffer
    · rw [if_pos (by omega), if_neg (by omega)]
      exact hdiffer

theorem run_inTurn {a b : Catalog} {settings : Settings} {endpoint partner target : String}
    (hsize : 0 < settings.pageSize) (ha : ¬ a.Completes settings.pageSize target)
    (hb : ¬ b.Completes settings.pageSize target) (hdiffer : ¬ a.SameDatasets b) (limit : Nat) :
    ((Inquiry.reciting (inTurn a b) settings endpoint partner target).run limit).1 = none := by
  rw [Inquiry.run_of_isOpen hsize fun k _ => isOpen_inTurn ha hb hdiffer k]

/-- A search of a provider with a choice of pages ends exactly if there is an answer that holds the
target, is not full, or repeats the one before. If the pages that leave it open are alike, two requests
are always enough, and otherwise there is a provider with this choice that keeps it going for ever. -/
theorem drawn_search_ends_iff (pages : List Catalog) :
    (∀ {σ : Type} (q : Inquiry σ), 0 < q.settings.pageSize → q.plane.Draws pages →
      ((∃ limit, (q.run limit).1.isSome = true) ↔
        ∃ k page, q.answer k = .ok page ∧ (q.Completes page ∨ q.Repeats k page)) ∧
      (Alike pages q.settings.pageSize q.target → (q.run 2).1.isSome = true)) ∧
    ∀ (settings : Settings) (endpoint partner target : String), 0 < settings.pageSize →
      ¬ Alike pages settings.pageSize target →
        ∃ q : Inquiry Nat, q.settings = settings ∧ q.endpoint = endpoint ∧ q.partner = partner ∧
          q.target = target ∧ q.plane.Draws pages ∧ ∀ limit, (q.run limit).1 = none := by
  constructor
  · intro σ q hsize hdraws
    constructor
    · simp only [Inquiry.isSome_run_iff hsize, Inquiry.isOpen_iff_of_draws hdraws]
      constructor
      · rintro ⟨-, k, -, hdecided⟩
        exact ⟨k, hdecided⟩
      · rintro ⟨k, hdecided⟩
        exact ⟨k + 1, k, Nat.lt_succ_self k, hdecided⟩
    · exact fun halike => (Inquiry.isSome_run_iff hsize).2 (Inquiry.exists_closed hdraws halike)
  · intro settings endpoint partner target hsize hunlike
    simp only [Alike, not_forall] at hunlike
    obtain ⟨a, ha, b, hb, halast, hblast, hdiffer⟩ := hunlike
    exact ⟨.reciting (inTurn a b) settings endpoint partner target, rfl, rfl, rfl, rfl,
      draws_inTurn ha hb, run_inTurn hsize halast hblast hdiffer⟩

theorem drawn_search_ends_iff_twoOrders :
    let pages := [shelf ["a", "b"], shelf ["b", "a"]]
    let q := Inquiry.reciting (inTurn (shelf ["a", "b"]) (shelf ["b", "a"])) ⟨2, ""⟩ "https://provider"
      "partner" "wanted"
    q.plane.Draws pages ∧ Alike pages 2 "wanted" ∧ (q.run 2).1.isSome = true := by
  intro pages q
  have hdraws : q.plane.Draws pages :=
    draws_inTurn List.mem_cons_self (List.mem_cons_of_mem _ List.mem_cons_self)
  have halike : Alike pages 2 "wanted" := by decide
  exact ⟨hdraws, halike, ((drawn_search_ends_iff pages).1 q (by decide) hdraws).2 halike⟩

/-- Two full pages in turn, each with a dataset of its own. -/
theorem turning_pages_never_end :
    let q := Inquiry.reciting (inTurn (shelf ["a"]) (shelf ["b"])) ⟨1, ""⟩ "https://provider" "partner"
      "wanted"
    q.plane.Draws [shelf ["a"], shelf ["b"]] ∧ ∀ limit, (q.run limit).1 = none := by
  constructor
  · exact draws_inTurn (by simp) (by simp)
  · exact run_inTurn (by decide) (by decide) (by decide) (by decide)

end Catalog

end ConsumerConnector
