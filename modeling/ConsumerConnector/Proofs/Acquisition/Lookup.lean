import ConsumerConnector.Proofs.Acquisition.Frame
import ConsumerConnector.Proofs.Acquisition.Isolation
import ConsumerConnector.Proofs.Negotiation.Calls
import ConsumerConnector.Proofs.Negotiation.Subject

/-!
Acquisitions whose item is looked up. The provider is asked for an asset, the first item of its answer
is taken, whatever asset that is for, and all that follows is about the asset of the item. So what is
acquired is what was asked for exactly if the provider offers it first.
-/

namespace ConsumerConnector

namespace Catalog

/-- The first dataset that has an offer. -/
def offered? (c : Catalog) : Option Dataset :=
  c.datasets.find? fun d => !d.offers.isEmpty

/-- What is offered first, if anything, is an asset. -/
def Leads (c : Catalog) (asset : String) : Prop :=
  ∀ d, c.offered? = some d → d.asset = asset

theorem item?_eq_none {connector : String} {d : Dataset} :
    d.item? connector = none ↔ d.offers.isEmpty := by
  simp [Dataset.item?]

theorem asset_of_item? {connector : String} {d : Dataset} {item : Item}
    (h : d.item? connector = some item) : item.asset = d.asset := by
  obtain ⟨offer, -, rfl⟩ := Option.map_eq_some_iff.1 h
  rfl

theorem head?_items (c : Catalog) : c.items.head? = c.offered?.bind (·.item? c.connector) := by
  rw [items, List.head?_filterMap, offered?]
  induction c.datasets with
  | nil => rfl
  | cons d rest ih =>
    rw [List.findSome?_cons, List.find?_cons]
    cases h : d.item? c.connector with
    | none => simp [item?_eq_none.1 h, ih]
    | some item =>
      have hoffers : d.offers.isEmpty = false := by
        rw [← Bool.not_eq_true, ← item?_eq_none, h]
        nofun
      simp [hoffers, h]

/-- An item comes first exactly if the first dataset with an offer is for its asset. -/
theorem leads_iff_of_head? {c : Catalog} {item : Item} (h : c.items.head? = some item)
    (asset : String) : item.asset = asset ↔ c.Leads asset := by
  rw [head?_items] at h
  obtain ⟨d, hd, hitem⟩ := Option.bind_eq_some_iff.1 h
  rw [asset_of_item? hitem, Leads, hd]
  constructor
  · rintro rfl d' hd'
    rw [Option.some.inj hd']
  · exact fun h => h d rfl

theorem exists_head?_items {c : Catalog} {d : Dataset} (h : c.offered? = some d) :
    ∃ item, c.items.head? = some item := by
  rw [head?_items, h, Option.bind_some]
  have hoffers : d.offers.isEmpty = false := by simpa using List.find?_some h
  cases hitem : d.item? c.connector with
  | none => cases hoffers.symm.trans (item?_eq_none.1 hitem)
  | some item => exact ⟨item, rfl⟩

end Catalog

namespace Acquisition

namespace Work

/-- The call that a future waits for an answer to. -/
def call? : Work → Option Call
  | .running (.perform (.call c) _) => some c
  | .looking _ _ _ (.perform (.call c) _) _ => some c
  | _ => none

/-- All calls that a future can still come to are about an asset. -/
def IsFor (asset : String) : Work → Prop
  | .idle => True
  | .running p => p.All (Task.IsFor asset)
  | .pausing _ _ _ _ next => ∀ r, (next r).All (Task.IsFor asset)
  | .looking _ _ _ look next => look.All (Look.IsFor asset) ∧ ∀ r, (next r).All (Task.IsFor asset)

theorem IsFor.call? {asset : String} {w : Work} (h : w.IsFor asset) {c : Call}
    (hc : w.call? = some c) : c.IsFor asset := by
  unfold Work.call? at hc
  split at hc
  · cases hc
    exact h.1
  · cases hc
    exact h.1.1
  · cases hc

end Work

theorem Progress.isFor {s : System} {l : Label} {w work : Work} (hp : Progress s l w work)
    {asset : String} (h : w.IsFor asset) : work.IsFor asset := by
  cases hp with
  | answer => exact h.2 _
  | ask => exact ⟨h.1.2 _, h.2⟩
  | pause => exact h.2
  | late => exact h _
  | @look _ w => exact ⟨w.look_isFor asset, h⟩
  | inspect => exact ⟨h.1.2 _, h.2⟩
  | again => exact h.2
  | decide => exact h.2 _

/-- A caller without an item has got a catalog with an item at its head. -/
def Supplied (os : List Occurrence) (i : Nat) (q : Request) (c : Catalog) (item : Catalog.Item) :
    Prop :=
  ∃ u status, ⟨u, .supply i (.ok c)⟩ ∈ os ∧ u.callers[i]? = some (.selecting q status) ∧
    c.items.head? = some item

theorem Supplied.mono {os os' : List Occurrence} {i : Nat} {q : Request} {c : Catalog}
    {item : Catalog.Item} (h : Supplied os i q c item) (hsub : os ⊆ os') :
    Supplied os' i q c item := by
  obtain ⟨u, status, hmem, hu⟩ := h
  exact ⟨u, status, hsub hmem, hu⟩

namespace System.History

variable {setup : Setup} {storage : Nat} {s : System} {os : List Occurrence}

theorem work_isFor
    (hsetup : ∀ o, (ExceptT.run (setup.negotiator o)).All (Task.IsFor o.item.asset))
    (h : History setup (start storage) os s) {f : Nat} {F : Future} (hf : s.futures[f]? = some F) :
    F.work.IsFor F.order.item.asset := by
  induction h generalizing F with
  | nil => cases hf
  | snoc _ hstep ih =>
    rcases origin_of_step hstep hf with ⟨G, hG, hchange⟩ | ⟨i, q, o, -, -, -, rfl⟩
    · cases hchange with
      | idle => exact (ih hG : G.work.IsFor G.order.item.asset)
      | start => exact Setup.task_isFor (hsetup _) _
      | progress _ hp => exact hp.isFor (ih hG)
    · trivial

/-- Who came without an item goes by the first one of the catalog it has got. -/
theorem supplied (h : History setup (start storage) os s) {i : Nat} {q : Request} {o : Order}
    (hc : s.callers[i]? = some (.selected q o)) (hitem : q.item = none) :
    ∃ c, Supplied os i q c o.item := by
  generalize hd : Caller.selected q o = d at hc
  induction h with
  | nil => cases hc
  | @snoc os t u l h hstep ih =>
    rcases (Move.of_step hstep).turn_cases hc with hbefore | hturn
    · obtain ⟨c, hs⟩ := ih hbefore
      exact ⟨c, hs.mono (List.subset_append_left ..)⟩
    · cases hturn with
      | call hq =>
        subst hq
        split at hd <;> cases hd
      | bring _ hi =>
        cases hd
        cases hitem.symm.trans hi
      | supply hbefore ha =>
        cases hd
        obtain ⟨c, rfl, hhead⟩ := firstItem_eq_ok ha
        exact ⟨c, t, _, by simp, hbefore, hhead⟩
      | enter | hit | miss | share | search | refuse | register => cases hd

theorem supplied_of_registered (h : History setup (start storage) os s) {i f : Nat} {q : Request}
    {o : Order} (hr : Registered os i q o f) (hitem : q.item = none) :
    ∃ c, Supplied os i q c o.item := by
  obtain ⟨u, hmem, hc, -⟩ := hr
  obtain ⟨before, after, rfl⟩ := List.append_of_mem hmem
  obtain ⟨c, hs⟩ := h.split.1.supplied hc hitem
  exact ⟨c, hs.mono (List.subset_append_left ..)⟩

end System.History

namespace Session

variable {σ : Type}

theorem catalogItem_fst (env : Environment σ) (endpoint asset partner : String) (t : Session σ) :
    (t.catalogItem env endpoint asset partner).1 = firstItem endpoint asset
      ((env.plane (.getCatalog
        (Catalog.filterRequest env.catalog endpoint Catalog.assetKey asset partner)) t.plane).1.map
          Catalog.items) := rfl

/-- An item that is looked up is for the asset that was asked for, whatever the provider, exactly where
the answer leads with that asset. Nothing checks it later: all that an acquisition negotiates and
transfers is the asset of the item. -/
theorem looked_up_asset_iff (settings : Negotiation.Settings) (requestTtl : Nat)
    (catalog : Catalog.Settings) (store : Policy.Store) (wall : Timestamp)
    (plane : DeliveringPlane σ) :
    let env := Environment.make settings requestTtl catalog store wall plane
    (∀ endpoint asset partner (t : Session σ),
      (∀ item, (t.catalogItem env endpoint asset partner).1 = .ok item → item.asset = asset) ↔
        ∀ c, (plane (.getCatalog
          (Catalog.filterRequest catalog endpoint Catalog.assetKey asset partner)) t.plane).1 = .ok c →
            c.Leads asset) ∧
    ∀ {storage os s i q o f}, System.History env.setup (.start storage) os s →
      Registered os i q o f → q.item = none →
        ∃ c, Supplied os i q c o.item ∧ (o.item.asset = q.asset ↔ c.Leads q.asset) ∧
          ∀ call, (s.work? f).bind Work.call? = some call → ∀ a ∈ call.assets, a = o.item.asset := by
  intro env
  constructor
  · intro endpoint asset partner t
    simp only [catalogItem_fst]
    constructor
    · intro h c hc d hd
      obtain ⟨item, hitem⟩ := Catalog.exists_head?_items hd
      refine (Catalog.leads_iff_of_head? hitem asset).1 (h item ?_) d hd
      simp [env, Environment.make, hc, Except.map, firstItem, hitem]
    · intro h item hitem
      obtain ⟨c, hc, hhead⟩ := firstItem_eq_ok hitem
      exact (Catalog.leads_iff_of_head? hhead asset).2 (h c hc)
  · intro storage os s i q o f h hr hitem
    obtain ⟨c, hs⟩ := h.supplied_of_registered hr hitem
    obtain ⟨-, -, -, -, hhead⟩ := id hs
    refine ⟨c, hs, Catalog.leads_iff_of_head? hhead q.asset, fun call hcall => ?_⟩
    obtain ⟨F, hF, -, rfl⟩ := h.future_of_registered hr
    obtain ⟨w, hw, hwcall⟩ := Option.bind_eq_some_iff.1 hcall
    obtain ⟨F', hF', rfl⟩ := Option.map_eq_some_iff.1 hw
    cases hF.symm.trans hF'
    have hsetup : ∀ o, (ExceptT.run (env.setup.negotiator o)).All (Task.IsFor o.item.asset) :=
      fun o => Negotiation.negotiate_isFor ..
    exact (h.work_isFor hsetup hF).call? hwcall

def offering (asset : String) : Dataset := ⟨asset, ∅, [⟨"offer", .empty⟩]⟩

/-- An answer with datasets for assets, in this order. -/
def answering (assets : List String) : Catalog := ⟨"partner", none, ∅, assets.map offering⟩

/-- A provider that answers every query for its catalog with all that it has. -/
def careless (assets : List String) : DeliveringPlane Unit
  | .getCatalog _, s => (.ok (answering assets), [], s)
  | _, s => (.error (.connect "refused"), [], s)

def carelessly (assets : List String) : Environment Unit :=
  .make .default 1 .default Negotiation.anyPurpose (.ofUnix 1) (careless assets)

def wanting : Request := ⟨"https://provider", "wanted", "partner", none⟩

/-- A caller has the item looked up. -/
def lookingUp (assets : List String) : List Label :=
  [.call wanting, .enter 0, .classify 0 (.ofUnix 0), .join 0, .supply 0 (.ok (answering assets))]

theorem looked_up_asset_iff_wantedFirst :
    ∃ os s o call, System.History (carelessly ["wanted", "other"]).setup (.start 0) os s ∧
      os.map Occurrence.label = lookingUp ["wanted", "other"] ++ [.register 0, .start 0] ∧
      Registered os 0 wanting o 0 ∧ (s.work? 0).bind Work.call? = some call ∧
      call.assets = ["wanted", "wanted"] ∧ o.item.asset = "wanted" := by
  obtain ⟨os, hlabels, h, hr⟩ := System.exists_registered
    (carelessly ["wanted", "other"]).setup (.start 0) (lookingUp ["wanted", "other"]) 0 [.start 0]
    rfl rfl rfl rfl rfl
  obtain ⟨-, hacquired⟩ := looked_up_asset_iff .default 1 .default Negotiation.anyPurpose (.ofUnix 1)
    (careless ["wanted", "other"])
  obtain ⟨c, -, -, hcalls⟩ := hacquired h hr rfl
  refine ⟨os, _, _, _, h, hlabels, hr, rfl, rfl, ?_⟩
  exact (hcalls _ rfl "wanted" (List.mem_cons_self ..)).symm

/-- The item taken is for another asset than the one asked for, which is offered too, and that other
asset is negotiated for under the key of the one that was asked for. -/
theorem first_item_for_other_asset :
    (∃ item, ((Session.start 0 ()).catalogItem (carelessly ["other", "wanted"]) "https://provider"
      "wanted" "partner").1 = .ok item ∧ item.asset = "other") ∧
    ∃ s, (System.start 0).run? (carelessly ["other", "wanted"]).setup
        (lookingUp ["other", "wanted"] ++ [.register 0, .start 0]) = some s ∧
      (s.futures[0]?).map (·.key) = some wanting.key ∧
      ((s.work? 0).bind Work.call?).map Call.assets = some ["other", "other"] :=
  ⟨⟨_, rfl, rfl⟩, _, rfl, rfl, rfl⟩

end Session

end Acquisition

end ConsumerConnector
