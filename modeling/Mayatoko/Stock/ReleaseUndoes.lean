import Mayatoko.Stock.Sources

/-!
# A release undoes a reservation

In every state that is reached from warehouse-level stock the reserved quantities back the reservations. So a
source without rows takes only what no row holds, and the rows of a source can be released whatever the others
have done in between.
-/

namespace Mayatoko.Stock

open Core Db TableOf

variable {db db' : Db} {w p : ℕ} {q : ℤ} {source : StockSource}

/-! ### Preparation -/

/-- What a preparation does to the balances: it may make the first one of a stock from its aggregate. -/
structure Opened (s : ℕ × ℕ) (db t : Db) : Prop where
  reservations : t.reservations = db.reservations
  aggregate : t.aggregate s = db.aggregate s
  located : db.Located s → t.Located s
  balances : ∀ k, t.balanceAt k = db.balanceAt k ∨ ¬ db.Located s ∧ t.balanceAt k = db.aggregate s

lemma Opened.trans {s : ℕ × ℕ} {db₁ db₂ db₃ : Db} (h : Opened s db₁ db₂) (h' : Opened s db₂ db₃) :
    Opened s db₁ db₃ := by
  refine ⟨h'.reservations.trans h.reservations, h'.aggregate.trans h.aggregate,
    fun hl => h'.located (h.located hl), fun k => ?_⟩
  rcases h'.balances k with hsame | ⟨hno, hfirst⟩
  · rcases h.balances k with hk | ⟨hno, hk⟩
    · exact .inl (hsame.trans hk)
    · exact .inr ⟨hno, hsame.trans hk⟩
  · exact .inr ⟨fun hl => hno (h.located hl), hfirst.trans h.aggregate⟩

lemma Opened.of_eq {s : ℕ × ℕ} {t : Db} (hr : t.reservations = db.reservations)
    (hi : t.inventory = db.inventory) (hb : t.locationBalances = db.locationBalances) : Opened s db t := by
  refine ⟨hr, by rw [Db.aggregate, Db.aggregate, hi], fun hl => by rwa [Located, hb], fun k => .inl ?_⟩
  rw [balanceAt, balanceAt, hb]

lemma prepareLocationInventory_opened {a : Option Inventory × WarehouseLocation}
    (h : Commits (prepareLocationInventory w p) db a db') : Opened (w, p) db db' := by
  simp only [prepareLocationInventory, commits_bind, commits_get, commits_ite] at h
  obtain ⟨_, _, ⟨rfl, rfl⟩, h⟩ := h
  rcases h with ⟨hnil, l, t, hl, h⟩ | ⟨_, _, _, hreq, l, t, hl, h⟩
  · rw [balancesOf_eq_nil] at hnil
    obtain ⟨locs, n, rfl⟩ := (defaultLocation_commits hl).frame
    cases hagg : db.inventory.find? (w, p) with
    | none =>
      rw [hagg] at h
      obtain ⟨_, rfl⟩ := commits_pure.mp h
      exact Opened.of_eq rfl rfl rfl
    | some i =>
      rw [hagg] at h
      simp only [commits_bind, commits_upsert, commits_pure] at h
      obtain ⟨b, _, ⟨hb, rfl⟩, _, rfl⟩ := h
      refine ⟨rfl, rfl, fun hl => absurd hl hnil, fun k => ?_⟩
      by_cases hk : k = b.key
      · refine .inr ⟨hnil, ?_⟩
        rw [aggregate, hagg]
        refine (balanceAt_put _ b k).trans ((if_pos hk).trans ?_)
        change b = (db.locationBalances.find? (l.id, p)).elim _ _ at hb
        cases hfind : db.locationBalances.find? (l.id, p) with
        | none =>
          rw [hfind, Option.elim_none] at hb
          subst hb
          rfl
        | some o =>
          rw [hfind, Option.elim_some] at hb
          subst hb
          rfl
      · exact .inl ((balanceAt_put _ b k).trans (if_neg hk))
  · obtain ⟨_, rfl⟩ := commits_require.mp hreq
    obtain ⟨_, rfl⟩ := commits_pure.mp h
    obtain ⟨locs, n, rfl⟩ := (defaultLocation_commits hl).frame
    exact Opened.of_eq rfl rfl rfl

lemma prepareConditionInventory_opened {u : Unit}
    (h : Commits (prepareConditionInventory w p) db u db') : Opened (w, p) db db' := by
  obtain ⟨a, t, hprep, hframe⟩ := prepareConditionInventory_frame h
  refine (prepareLocationInventory_opened hprep).trans ?_
  rw [hframe]
  exact Opened.of_eq rfl rfl rfl

lemma orderedAvailableBalances_opened {rows : List InventoryLocationBalance}
    (h : Commits (orderedAvailableBalances w p) db rows db') : Opened (w, p) db db' := by
  simp only [orderedAvailableBalances, commits_steps] at h
  obtain ⟨_, _, hprep, _, _, hcond, rfl, rfl⟩ := h
  exact (prepareLocationInventory_opened hprep).trans (prepareConditionInventory_opened hcond)

/-- What the `ACTIVE` rows of a source hold of a product at a location. -/
def Db.heldBy (db : Db) (source : StockSource) (productId locationId : ℕ) : ℤ :=
  ((db.activeReservations source productId).map (InventoryReservation.holding (locationId, productId))).sum

/-- The rows of a source on a product do not depend on those of another source or product. -/
lemma spares_activeRows {s : StockSource} {p' : ℕ} (hne : ¬ (s = source ∧ p' = p))
    (rows : List InventoryReservation) :
    Spares s p' fun t => t.findMany (activeOn source [p]) = rows := by
  intro t r hfor hp hrows
  have hnot {x : InventoryReservation} (hx : x.isFor s = true) (hxp : x.productId = p') :
      activeOn source [p] x = false := by
    refine Bool.eq_false_iff.mpr fun h => hne ?_
    simp only [activeOn, cond_iff, List.contains_iff_mem, mem_singleton] at h
    obtain ⟨⟨hxs, hxp'⟩, _⟩ := h
    obtain ⟨htype, hid⟩ := isFor_iff.mp hx
    obtain ⟨htype', hid'⟩ := isFor_iff.mp hxs
    obtain ⟨sourceType, sourceId⟩ := s
    obtain ⟨sourceType', sourceId'⟩ := source
    exact ⟨congrArg₂ StockSource.mk (htype.symm.trans htype') (hid.symm.trans hid'), hxp.symm.trans hxp'⟩
  rw [← hrows]
  cases hfind : t.find? r.key with
  | some o =>
    obtain ⟨ho, hkey⟩ := find?_eq_some.mp hfind
    obtain ⟨htype, hkey'⟩ := Prod.mk.inj hkey
    obtain ⟨hid, hkey'⟩ := Prod.mk.inj hkey'
    have hofor : o.isFor s = true := by
      obtain ⟨htype', hid'⟩ := isFor_iff.mp hfor
      exact isFor_iff.mpr ⟨htype.trans htype', hid.trans hid'⟩
    exact Table.findMany_put_of_not ho hkey (hnot hofor ((Prod.mk.inj hkey').2.trans hp)) (hnot hfor hp)
  | none =>
    have hfresh : r.key ∉ t.rows.map InventoryReservation.key := fun hmem => by
      obtain ⟨x, hx, hkey⟩ := mem_map.mp hmem
      exact find?_eq_none.mp hfind x hx hkey
    rw [Table.findMany, Table.rows_put_of_not_mem hfresh, filter_append, List.filter_singleton, hnot hfor hp]
    exact append_nil _

variable {r : InventoryReservation}

lemma heldBy_put {t : Table InventoryReservation.key}
    (ht : db'.reservations = t.put r) (hnew : t.find? r.key = none) (hfor : r.isFor source = true)
    (hp : r.productId = p) (hactive : r.status = .active) (hdb : db.reservations = t) (l : ℕ) :
    db'.heldBy source p l = db.heldBy source p l + r.holding (l, p) := by
  have hfresh : r.key ∉ t.rows.map InventoryReservation.key := fun hmem => by
    obtain ⟨x, hx, hkey⟩ := mem_map.mp hmem
    exact find?_eq_none.mp hnew x hx hkey
  have hactiveOn : activeOn source [p] r = true := by
    rw [activeOn, hfor, hp, hactive]
    simp
  rw [heldBy, heldBy, activeReservations_eq, activeReservations_eq, ht, hdb, Table.findMany,
    Table.rows_put_of_not_mem hfresh, filter_append, List.filter_singleton, hactiveOn,
    map_append, List.sum_append, Table.findMany]
  simp

/-! ### Reserving and releasing -/

/-- From `db` to `db'` free stock of a product became reserved, at each location as much as `amount` says. -/
def Reserves (productId : ℕ) (amount : ℕ → ℤ) (db db' : Db) : Prop := ∀ l p, db'.balanceAt (l, p) =
  db.balanceAt (l, p) + if p = productId then (0, amount l, -amount l) else 0

variable {as : List LocationAllocation}

/-- A reservation without earlier rows reserves what its rows hold. -/
lemma reserveLocationStock_reserves
    (hnone : db.activeReservations source p = [])
    (h : Commits (reserveLocationStock w p q source) db as db') :
    ∃ t, Opened (w, p) db t ∧ Reserves p (db'.heldBy source p) t db' := by
  simp only [reserveLocationStock, commits_steps, commits_ite] at h
  obtain ⟨_, ⟨_, rows, t, hrows, res, t', halloc, _, _, rfl⟩ | ⟨hsome, _⟩⟩ := h
  swap
  · exact absurd hnone hsome
  have hopened := orderedAvailableBalances_opened hrows
  have hproduct := orderedAvailableBalances_rows hrows
  have hzero (l : ℕ) : t.heldBy source p l = 0 := by
    rw [heldBy, show t.activeReservations source p = db.activeReservations source p by
      rw [activeReservations, activeReservations, hopened.reservations], hnone]
    rfl
  refine ⟨t, hopened, ?_⟩
  refine halloc.allocate (I := fun _ st => Reserves p (st.heldBy source p) t st)
    (fun row hrow n st taken st' hn hI hstep => ?_) fun l p' => ?_
  · obtain ⟨rfl, o, ho, hkey, b, r, rfl, hb, _, hcounts, hfor, hactive, hplace, hquantity, hnew⟩ :=
      reserveAt_writes hstep
    intro l p'
    have hheld : Db.heldBy { st with
        locationBalances := st.locationBalances.put b, reservations := st.reservations.put r } source p l =
        st.heldBy source p l + r.holding (l, p) :=
      heldBy_put rfl hnew hfor (Prod.mk.inj hplace).2 hactive rfl l
    refine (balanceAt_writeBalance ho hb hcounts (l, p')).trans ?_
    rw [hI l p', hheld, hkey]
    have hrowKey : row.key = (row.locationId, p) := Prod.ext rfl (hproduct row hrow).1
    rw [hrowKey]
    by_cases hp : p' = p
    · subst hp
      rw [if_pos rfl, if_pos rfl, add_assoc]
      by_cases hl : l = row.locationId
      · subst hl
        rw [if_pos rfl, holding_of_active hplace hactive, hquantity]
        simp only [Prod.mk_add_mk, add_zero, neg_add]
      · rw [if_neg fun h => hl (Prod.mk.inj h).1, holding_of_ne fun h => hl ?_]
        · simp
        · exact ((Prod.mk.inj h).1.symm.trans (Prod.mk.inj hplace).1)
    · rw [if_neg hp, if_neg fun h => hp (Prod.mk.inj h).2, if_neg hp, add_zero]
  · rw [hzero]
    simp

lemma Reserves.trans {a b : ℕ → ℤ} {db₁ db₂ db₃ : Db} (h : Reserves p a db₁ db₂) (h' : Reserves p b db₂ db₃) :
    Reserves p (fun l => a l + b l) db₁ db₃ := by
  intro l p'
  rw [h' l p', h l p', add_assoc]
  by_cases hp : p' = p
  · simp only [if_pos hp, Prod.mk_add_mk, add_zero, neg_add]
  · simp only [if_neg hp, add_zero]

lemma Closes.reserves (hp : r.productId = p) (hactive : r.status = .active)
    (h : Closes r .released (reservedDelta false r.quantity) db db') :
    Reserves p (fun l => -r.holding (l, p)) db db' := by
  obtain ⟨o, ho, hkey, b, t, rfl, hb, _, hcounts⟩ := h
  intro l p'
  refine (balanceAt_writeBalance ho hb hcounts (l, p')).trans ?_
  rw [hkey, hp]
  by_cases hp' : p' = p
  · subst hp'
    rw [if_pos rfl]
    by_cases hl : l = r.locationId
    · subst hl
      have hholds : r.holding (r.locationId, p') = r.quantity := by
        refine holding_of_active ?_ hactive
        rw [hp]
      simp only [if_pos, hholds, neg_neg]
      rfl
    · have hnone : r.holding (l, p') = 0 := holding_of_ne fun h => hl (Prod.mk.inj h).1.symm
      rw [if_neg fun h => hl (Prod.mk.inj h).1]
      simp only [hnone, neg_zero]
      rfl
  · rw [if_neg hp', if_neg fun h => hp' (Prod.mk.inj h).2]

lemma releaseReservation_succeeds (hdb : Backed db) (hmem : r ∈ db.reservations)
    (hactive : r.status = .active) : ∃ db', Commits (releaseReservation r) db () db' := by
  have hcovered := hdb.quantity_le hmem hactive
  have hpositive := hdb.held r hmem
  cases hfind : db.locationBalances.find? (r.locationId, r.productId) with
  | none =>
    rw [reservedAt, balanceAt, hfind] at hcovered
    change r.quantity ≤ 0 at hcovered
    omega
  | some o =>
    rw [reservedAt, balanceAt, hfind] at hcovered
    obtain ⟨ho, hkey⟩ := find?_eq_some.mp hfind
    refine ⟨_, commits_bind.mpr ⟨db.now, db, commits_currentTime.mpr ⟨rfl, rfl⟩, commits_bind.mpr ⟨(), _,
      commits_updateOne_of_mem ho fun x hx => ?_, commits_bind.mpr ⟨_, _,
        commits_update.mpr ⟨r, find?_of_mem hmem, rfl, rfl⟩, commits_pure.mpr ⟨rfl, rfl⟩⟩⟩⟩⟩
    simp only [cond_iff]
    constructor
    · exact fun h => eq_of_key_eq hx ho (h.1.trans hkey.symm)
    · rintro rfl
      exact ⟨hkey, hcovered⟩

lemma releaseReservations_succeed {rows : List InventoryReservation} (hdb : Holding (fun _ => True) db)
    (hrows : ∀ r ∈ rows, r ∈ db.reservations ∧ r.isFor source = true ∧ r.productId = p ∧ r.status = .active)
    (hnodup : (rows.map InventoryReservation.key).Nodup) :
    ∃ db', Commits (rows.forM releaseReservation) db () db' ∧
      Reserves p (fun l => -(rows.map (InventoryReservation.holding (l, p))).sum) db db' := by
  induction rows generalizing db with
  | nil => exact ⟨db, commits_forM_nil.mpr rfl, fun l p' => by simp⟩
  | cons r rs ih =>
    obtain ⟨hmem, hfor, hp, hactive⟩ := hrows r mem_cons_self
    obtain ⟨hfresh, hnodup⟩ := nodup_cons.mp hnodup
    obtain ⟨st, hst⟩ := releaseReservation_succeeds hdb.1 hmem hactive
    have hcloses := releaseReservation_closes hmem hst
    have hholding := hcloses.holding hdb (fun _ _ _ _ _ => trivial) hmem hactive (by decide) hfor hp rfl
    obtain ⟨db', hloop, hreserves⟩ := ih hholding (fun x hx => by
      obtain ⟨hxm, hrest⟩ := hrows x (mem_cons_of_mem r hx)
      obtain ⟨_, _, _, _, _, rfl, _⟩ := hcloses
      have hne : x.key ≠ r.key := fun hkey => hfresh (mem_map.mpr ⟨x, hx, hkey⟩)
      exact ⟨mem_put.mpr (Or.inr ⟨hxm, hne⟩), hrest⟩) hnodup
    refine ⟨db', commits_forM_cons.mpr ⟨st, hst, hloop⟩, ?_⟩
    have hboth := (hcloses.reserves hp hactive).trans hreserves
    simpa only [map_cons, sum_cons, neg_add] using hboth

lemma releaseLocationReservations_succeeds (hdb : Backed db)
    (hsum : ((db.activeReservations source p).map InventoryReservation.quantity).sum = q)
    (hsome : db.activeReservations source p ≠ []) :
    ∃ as db', Commits (releaseLocationReservations source w p q) db as db' ∧
      Reserves p (fun l => -db.heldBy source p l) db db' := by
  obtain ⟨db', hloop, hreserves⟩ := releaseReservations_succeed ⟨hdb, trivial⟩
    (fun r hr => mem_activeReservations.mp hr) nodup_activeReservations
  refine ⟨(db.activeReservations source p).map fun r => ⟨r.locationId, r.quantity⟩, db',
    commits_bind.mpr ⟨db, db, commits_get.mpr ⟨rfl, rfl⟩, ?_⟩, hreserves⟩
  rw [if_neg hsome]
  exact commits_bind.mpr ⟨(), db, commits_require.mpr ⟨hsum, rfl⟩, commits_bind.mpr ⟨(), db', hloop,
    commits_pure.mpr ⟨rfl, rfl⟩⟩⟩

lemma sum_activeReservations (hnone : db.activeReservations source p = [])
    (h : Commits (reserveLocationStock w p q source) db as db') :
    ((db'.activeReservations source p).map InventoryReservation.quantity).sum = q ∧ 0 < q := by
  rw [activeReservations_eq] at hnone ⊢
  obtain ⟨added, hrows, hnew, hsum⟩ := reserveLocationStock_rows hnone h
  have hadded : added.filter (activeOn source [p]) = added := by
    refine List.filter_eq_self.mpr fun r hr => ?_
    obtain ⟨hfor, hactive, hp⟩ := hnew r hr
    rw [activeOn, hfor, hactive, mem_singleton.mp hp]
    simp
  rw [Table.findMany] at hnone
  rw [Table.findMany, hrows, filter_append, hnone, hadded, nil_append]
  refine ⟨hsum, ?_⟩
  obtain ⟨_, _, hreq, _⟩ := commits_bind.mp h
  exact (commits_require.mp hreq).1

/-! ### Runs -/

lemma WarehouseLevelOnly.backed (h : WarehouseLevelOnly db) : Backed db := by
  have hb (b) : ¬ b ∈ db.locationBalances := fun hb => not_mem_empty b (h.locationBalances ▸ hb)
  have hr (r) : ¬ r ∈ db.reservations := fun hr => not_mem_empty r (h.reservations ▸ hr)
  refine ⟨fun b hm => absurd hm (hb b), fun i hi => (h.inventory i hi).2.1, fun r hm => absurd hm (hr r),
    fun k => ?_⟩
  rw [tracked, h.reservations, reservedAt, balanceAt, h.locationBalances]
  exact le_refl 0

lemma OperationStep.holding {op : StockOperation} {J : Table InventoryReservation.key → Prop}
    (hdb : Holding J db) (hJ : ∀ s p, op.Concerns db s p → Spares s p J) (h : OperationStep db op db') :
    Holding J db' := by
  subst h
  rcases execute_cases op.tx db with ⟨u, _, hc⟩ | ⟨_, _, hsame⟩
  · exact StockOperation.holding hdb hJ hc
  · exact hsame.symm ▸ hdb

/-- In every state that is reached from warehouse-level stock the reserved quantity of a location is at least
what its `ACTIVE` reservations hold. There, a release or fulfilment for a source without such rows uses at no
location more than what is reserved above them; and after a reservation for it and whatever the others do, a
release of the same source, product and quantity commits and gives back at each location what was reserved. -/
theorem reservations_backed {db₀ : Db} (h₀ : WarehouseLevelOnly db₀) {ops : List StockOperation}
    (h : Run OperationStep db₀ ops db) :
    (∀ l p, db.tracked l p ≤ db.reservedAt (l, p)) ∧
    ∀ source w p q, db.activeReservations source p = [] →
      (∀ as db', Commits (releaseLocationReservations source w p q) db as db' →
        ∃ t used, Opened (w, p) db t ∧ UsesLegacy false p used t db') ∧
      (∀ as db', Commits (consumeLocationReservations source w p q) db as db' →
        ∃ t used, Opened (w, p) db t ∧ UsesLegacy true p used t db') ∧
      ∀ as db₁, Commits (reserveLocationStock w p q source) db as db₁ →
        (∃ t, Opened (w, p) db t ∧ Reserves p (db₁.heldBy source p) t db₁) ∧
        ∀ db₂ others db₃, (db₂ = db₁ ∨ Commits (reserveInventory w p q) db₁ () db₂) →
          Run (Guarded (fun st op => ¬ op.Concerns st source p) OperationStep) db₂ others db₃ →
          ∀ w', ∃ as' db₄, Commits (releaseLocationReservations source w' p q) db₃ as' db₄ ∧
            Reserves p (fun l => -db₁.heldBy source p l) db₃ db₄ := by
  have hdb : Holding (fun _ => True) db := h.invariant
    (fun _ _ _ hs hstep => hstep.holding hs fun _ _ _ _ _ _ _ _ => trivial) ⟨h₀.backed, trivial⟩
  refine ⟨fun l p => hdb.1.backed (l, p), fun source w p q hnone => ⟨fun as db' hc => ?_, fun as db' hc => ?_,
    fun as db₁ hc => ⟨reserveLocationStock_reserves hnone hc, fun db₂ others db₃ hsettle hrun w' => ?_⟩⟩⟩
  · simp only [releaseLocationReservations, commits_steps, commits_ite] at hc
    obtain ⟨_, hc⟩ | ⟨hsome, _⟩ := hc
    · obtain ⟨_, a, t, used, hprep, huses⟩ := mutateLegacyReservedStock_uses hdb hc
      exact ⟨t, used, prepareLocationInventory_opened hprep, huses⟩
    · exact absurd hnone hsome
  · simp only [consumeLocationReservations, commits_steps, commits_ite] at hc
    obtain ⟨_, t', hcond, hc⟩ := hc
    have hopened := prepareConditionInventory_opened hcond
    have ht' := maintains_prepareConditionInventory _ _ _ hdb hcond
    have hnone' : t'.activeReservations source p = [] := by
      rw [activeReservations, hopened.reservations]
      exact hnone
    rw [hnone'] at hc
    obtain ⟨_, hc⟩ | ⟨hsome, _⟩ := hc
    · obtain ⟨_, a, t, used, hprep, huses⟩ := mutateLegacyReservedStock_uses ht' hc
      exact ⟨t, used, hopened.trans (prepareLocationInventory_opened hprep), huses⟩
    · exact absurd rfl hsome
  · -- the rows of the reservation stay as they are, whatever the others do
    let J : Table InventoryReservation.key → Prop :=
      fun t => t.findMany (activeOn source [p]) = db₁.activeReservations source p
    have h₁ : Holding J db₁ :=
      ⟨(maintains_reserveLocationStock (fun _ _ _ _ _ => trivial) _ _ _ hdb hc).1, activeReservations_eq.symm⟩
    have h₂ : Holding J db₂ := by
      rcases hsettle with rfl | hsettle
      · exact h₁
      · refine maintains_updateInventory (fun i _ hi => ?_) _ _ _ h₁ hsettle
        have hq := (sum_activeReservations hnone hc).2
        change 0 ≤ i.reserved + q
        omega
    have h₃ : Holding J db₃ := by
      refine hrun.invariant (fun st op st' hst hstep => hstep.2.holding hst fun s p' hop => ?_) h₂
      refine spares_activeRows (fun heq => hstep.1 ?_) _
      rw [← heq.1, ← heq.2]
      exact hop
    have hrows : db₃.activeReservations source p = db₁.activeReservations source p :=
      activeReservations_eq.trans h₃.2
    have hsum := (sum_activeReservations hnone hc)
    have hsome : db₃.activeReservations source p ≠ [] := by
      intro hnil
      rw [← hrows, hnil, List.map_nil, List.sum_nil] at hsum
      omega
    have hheld : db₃.heldBy source p = db₁.heldBy source p := by
      funext l
      rw [heldBy, heldBy, hrows]
    rw [← hheld]
    exact releaseLocationReservations_succeeds h₃.1 (hrows ▸ hsum.1) hsome

def project : StockSource := ⟨"Project", 5⟩

def sold : Db := (execute (StockCommand.createSale 1 [⟨1, 3⟩]).tx warehouseStock).2

def reservedFor (source : StockSource) : Db := (execute (reserveLocationStock 1 1 2 source) sold).2

theorem reservations_backed_project : ∃ as db₃ as' db₄,
    Commits (reserveLocationStock 1 1 2 project) sold as (reservedFor project) ∧
    Run OperationStep (execute (reserveInventory 1 1 2) (reservedFor project)).2
      [.document (.shipOrder 7)] db₃ ∧
    Commits (releaseLocationReservations project 1 1 2) db₃ as' db₄ ∧
    Reserves 1 (fun l => -(reservedFor project).heldBy project 1 l) db₃ db₄ := by
  have hsold : Run OperationStep warehouseStock [.document (.createSale 1 [⟨1, 3⟩])] sold :=
    Run.cons rfl (Run.nil _)
  have hnone : sold.activeReservations project 1 = [] := by decide +kernel
  have hreserve : Commits (reserveLocationStock 1 1 2 project) sold [⟨1, 2⟩] (reservedFor project) :=
    commits_of_execute (by decide +kernel)
  have hsettle : Commits (reserveInventory 1 1 2) (reservedFor project) ()
      (execute (reserveInventory 1 1 2) (reservedFor project)).2 := commits_of_execute (by decide +kernel)
  have hother : ¬ (StockOperation.document (.shipOrder 7)).Concerns
      (execute (reserveInventory 1 1 2) (reservedFor project)).2 project 1 := by
    change ¬ project = orderSource 7
    decide
  obtain ⟨_, hsources⟩ := reservations_backed warehouseStock_warehouseLevelOnly hsold
  obtain ⟨_, hundoes⟩ := (hsources project 1 1 2 hnone).2.2 _ _ hreserve
  obtain ⟨as', db₄, hrelease, hreserves⟩ := hundoes _ _ _ (Or.inr hsettle)
    (Run.cons ⟨hother, rfl⟩ (Run.nil _)) 1
  exact ⟨_, _, as', db₄, hreserve, Run.cons rfl (Run.nil _), hrelease, hreserves⟩

end Mayatoko.Stock
