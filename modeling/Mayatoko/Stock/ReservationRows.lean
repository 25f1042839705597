import Mayatoko.Core.Tally
import Mayatoko.Stock.Documents
import Mayatoko.Stock.LocationFrame

/-!
# What happens to the reservation rows

A reservation appends `ACTIVE` rows of its source and product that add up to the reserved quantity. A
release or a fulfilment closes every `ACTIVE` row of its source and product and touches no other. The
legacy branch, which handles reserved stock without rows, leaves the rows alone.
-/

namespace Mayatoko.Stock

open Core TableOf

variable {db db' : Db} {source : StockSource} {w p : ℕ} {q : ℤ}

def InventoryReservation.isFor (source : StockSource) (r : InventoryReservation) : Bool :=
  r.sourceType = source.sourceType && r.sourceId = source.sourceId

/-- The row with its status changed, where `c` says so. -/
def InventoryReservation.close (c : InventoryReservation → Bool) (status : ReservationStatus)
    (r : InventoryReservation) : InventoryReservation :=
  if c r then { r with status } else r

/-- The row is an `ACTIVE` one of the source, on one of the products. -/
def activeOn (source : StockSource) (products : List ℕ) (r : InventoryReservation) : Bool :=
  r.isFor source && products.contains r.productId && r.status = .active

variable {r : InventoryReservation}

lemma isFor_iff : r.isFor source = true ↔ r.sourceType = source.sourceType ∧ r.sourceId = source.sourceId := by
  simp [InventoryReservation.isFor]

lemma isFor_order_iff {id : ℕ} :
    r.isFor (orderSource id) = true ↔ r.sourceType = "Order" ∧ r.sourceId = id :=
  isFor_iff

variable {c : InventoryReservation → Bool} {status : ReservationStatus}

@[simp] lemma close_isFor : (r.close c status).isFor source = r.isFor source := by
  unfold InventoryReservation.close
  split <;> rfl

@[simp] lemma close_productId : (r.close c status).productId = r.productId := by
  unfold InventoryReservation.close
  split <;> rfl

@[simp] lemma close_quantity : (r.close c status).quantity = r.quantity := by
  unfold InventoryReservation.close
  split <;> rfl

lemma activeReservations_eq :
    db.activeReservations source p = db.reservations.findMany (activeOn source [p]) := by
  unfold Db.activeReservations
  congr 1
  funext r
  simp [activeOn, InventoryReservation.isFor, Bool.and_assoc]

/-! ### Closing -/

variable {f : InventoryReservation → StockTx Unit}

lemma closeRows
    (hf : ∀ r st st', Commits (f r) st () st' → st'.reservations.rows =
      st.reservations.rows.map (InventoryReservation.close (·.key = r.key) status))
    {rows : List InventoryReservation} {u : Unit} (h : Commits (rows.forM f) db u db') :
    db'.reservations.rows = db.reservations.rows.map
      (InventoryReservation.close (fun x => (rows.map InventoryReservation.key).contains x.key)
        status) := by
  induction rows generalizing db with
  | nil =>
    rw [← commits_forM_nil.mp h]
    conv_lhs => rw [← List.map_id db.reservations.rows]
    exact map_congr_left fun x _ => by simp [InventoryReservation.close]
  | cons r rs ih =>
    obtain ⟨st, hr, hrs⟩ := commits_forM_cons.mp h
    rw [ih hrs, hf r db st hr, map_map]
    refine map_congr_left fun x _ => ?_
    by_cases hx : x.key = r.key
    · have hkey (y : InventoryReservation) : ({ y with status } : InventoryReservation).key = y.key :=
        rfl
      simp [InventoryReservation.close, hx, hkey]
    · simp [InventoryReservation.close, hx]

lemma closeFound
    (hf : ∀ r st st', Commits (f r) st () st' → st'.reservations.rows =
      st.reservations.rows.map (InventoryReservation.close (·.key = r.key) status))
    {c : InventoryReservation → Bool} {rows : List InventoryReservation} {u : Unit}
    (hrows : ∀ r, r ∈ rows ↔ r ∈ db.reservations ∧ c r = true)
    (h : Commits (rows.forM f) db u db') :
    db'.reservations.rows = db.reservations.rows.map (InventoryReservation.close c status) := by
  rw [closeRows hf h]
  refine map_congr_left fun x hx => ?_
  have hiff : (rows.map InventoryReservation.key).contains x.key = c x := by
    rw [Bool.eq_iff_iff, List.contains_iff_mem, mem_map]
    constructor
    · rintro ⟨y, hy, hkey⟩
      obtain ⟨hmem, hc⟩ := (hrows y).mp hy
      rwa [← eq_of_key_eq hmem hx hkey]
    · intro hc
      exact ⟨x, (hrows x).mpr ⟨hx, hc⟩, rfl⟩
  rw [InventoryReservation.close, InventoryReservation.close, hiff]

lemma close_of_none
    (h : db.reservations.findMany c = []) :
    db.reservations.rows.map (InventoryReservation.close c status) = db.reservations.rows := by
  conv_rhs => rw [← List.map_id db.reservations.rows]
  refine map_congr_left fun x hx => ?_
  have hx' : ¬ c x = true := fun hc => not_mem_nil (h ▸ mem_findMany.mpr ⟨hx, hc⟩)
  rw [InventoryReservation.close, if_neg hx']
  rfl

lemma closeReservation_rows {k : String × ℕ × ℕ × ℕ}
    (h : Commits (Db.inventoryReservation.update k (fun r => { r with status })
      Failure.recordNotFound) db r db') :
    db'.reservations.rows =
      db.reservations.rows.map (InventoryReservation.close (·.key = k) status) := by
  obtain ⟨o, ho, rfl, rfl⟩ := commits_update.mp h
  have hkey : o.key = k := (find?_eq_some.mp ho).2
  refine (Table.rows_put_of_find (f := fun r => { r with status }) ho hkey).trans (map_congr_left fun x _ => ?_)
  simp [InventoryReservation.close]

lemma offBalances_reservations : OffBalances Db.reservations := ⟨fun _ _ _ _ _ => rfl⟩

variable {u : Unit}

lemma releaseReservation_rows
    (h : Commits (releaseReservation r) db u db') :
    db'.reservations.rows =
      db.reservations.rows.map (InventoryReservation.close (·.key = r.key) .released) := by
  simp only [releaseReservation, commits_steps] at h
  obtain ⟨_, st, hnow, _, st', hbalance, _, _, hclose, _, rfl⟩ := h
  have hsame : st'.reservations = db.reservations :=
    (offBalances_reservations.balance.updateOne _ _ _ hbalance).trans
      (OffBalances.currentTime _ _ _ hnow)
  rw [closeReservation_rows hclose, hsame]

lemma consumeReservation_rows
    (h : Commits (consumeReservation r) db u db') :
    db'.reservations.rows =
      db.reservations.rows.map (InventoryReservation.close (·.key = r.key) .consumed) := by
  simp only [consumeReservation, commits_steps] at h
  obtain ⟨_, st, hnow, _, st', hbalance, _, st'', hcondition, _, _, hclose, _, rfl⟩ := h
  have hsame : st''.reservations = db.reservations :=
    (offBalances_reservations.condition.updateOne _ _ _ hcondition).trans
      ((offBalances_reservations.balance.updateOne _ _ _ hbalance).trans
        (OffBalances.currentTime _ _ _ hnow))
  rw [closeReservation_rows hclose, hsame]

variable {as : List LocationAllocation}

lemma releaseLocationReservations_rows
    (h : Commits (releaseLocationReservations source w p q) db as db') :
    db'.reservations.rows =
      db.reservations.rows.map (InventoryReservation.close (activeOn source [p]) .released) := by
  simp only [releaseLocationReservations, commits_steps, commits_ite] at h
  obtain ⟨hnone, h⟩ | ⟨_, _, _, _, hloop, _, rfl⟩ := h
  · rw [activeReservations_eq] at hnone
    rw [offBalances_reservations.mutateLegacyReservedStock _ _ _ h, close_of_none hnone]
  · refine closeFound (fun _ _ _ => releaseReservation_rows) (fun r => ?_) hloop
    rw [activeReservations_eq]
    exact mem_findMany

lemma consumeLocationReservations_rows
    (h : Commits (consumeLocationReservations source w p q) db as db') :
    db'.reservations.rows =
      db.reservations.rows.map (InventoryReservation.close (activeOn source [p]) .consumed) := by
  simp only [consumeLocationReservations, commits_steps, commits_ite] at h
  obtain ⟨_, st, hprep, h⟩ := h
  have hsame : st.reservations = db.reservations :=
    offBalances_reservations.prepareConditionInventory _ _ _ hprep
  rw [← hsame]
  obtain ⟨hnone, h⟩ | ⟨_, _, _, _, hloop, _, rfl⟩ := h
  · have hperm := List.perm_insertionSort (fun a b => a.createdAt ≤ b.createdAt)
      (st.activeReservations source p)
    rw [hnone, activeReservations_eq] at hperm
    have hnone := hperm.nil_eq.symm
    rw [offBalances_reservations.mutateLegacyReservedStock _ _ _ h, close_of_none hnone]
  · refine closeFound (fun _ _ _ => consumeReservation_rows) (fun r => ?_) hloop
    rw [List.mem_insertionSort, activeReservations_eq]
    exact mem_findMany

/-! ### Reserving -/

/-- New rows for a source: all `ACTIVE`, on these products. -/
def NewRows (source : StockSource) (products : List ℕ) (added : List InventoryReservation) : Prop :=
  ∀ r ∈ added, r.isFor source = true ∧ r.status = .active ∧ r.productId ∈ products

def heldOf (rows : List InventoryReservation) (p : ℕ) : ℤ :=
  totalOf InventoryReservation.productId InventoryReservation.quantity rows p

lemma reserveAt_rows {row : InventoryLocationBalance} {n taken : ℤ}
    (h : Commits (reserveAt w p source row n) db taken db') :
    ∃ r, db'.reservations.rows = db.reservations.rows ++ [r] ∧ NewRows source [p] [r] ∧
      r.quantity = taken ∧ taken ≤ n := by
  simp only [reserveAt, commits_bind, commits_pure, commits_create] at h
  obtain ⟨_, st, hnow, _, st', hbalance, _, _, ⟨hfresh, rfl⟩, rfl, rfl⟩ := h
  have hsame : st'.reservations = db.reservations :=
    (offBalances_reservations.balance.updateOne _ _ _ hbalance).trans
      (OffBalances.currentTime _ _ _ hnow)
  have hrows := Table.rows_put_of_not_mem fun hmem => by
    obtain ⟨x, hx, hkey⟩ := mem_map.mp hmem
    exact find?_eq_none.mp hfresh x hx hkey
  refine ⟨_, hrows.trans (congrArg (·.rows ++ _) hsame), fun r hr => ?_, rfl, min_le_right _ _⟩
  obtain rfl := mem_singleton.mp hr
  simp [InventoryReservation.isFor]

/-- A reservation without earlier rows appends rows that add up to the quantity. -/
lemma reserveLocationStock_rows
    (hnone : db.reservations.findMany (activeOn source [p]) = [])
    (h : Commits (reserveLocationStock w p q source) db as db') :
    ∃ added, db'.reservations.rows = db.reservations.rows ++ added ∧ NewRows source [p] added ∧
      (added.map InventoryReservation.quantity).sum = q := by
  simp only [reserveLocationStock, commits_steps, commits_ite, activeReservations_eq] at h
  obtain ⟨hq, ⟨_, rows, st, hprep, res, _, halloc, hdone, _, rfl⟩ | ⟨hsome, _⟩⟩ := h
  swap
  · exact absurd hnone hsome
  have hsame : st.reservations = db.reservations :=
    offBalances_reservations.orderedAvailableBalances _ _ _ hprep
  have hI := halloc.allocate (I := fun n st' => 0 ≤ n ∧ ∃ added,
      st'.reservations.rows = st.reservations.rows ++ added ∧ NewRows source [p] added ∧
        (added.map InventoryReservation.quantity).sum = q - n)
    (fun row _ n st₁ taken st₂ hn hI hstep => ?_) ⟨hq.le, [], by simp [NewRows]⟩
  · obtain ⟨hn, added, hrows, hnew, hsum⟩ := hI
    refine ⟨added, hsame ▸ hrows, hnew, ?_⟩
    rw [hsum, le_antisymm hdone hn, sub_zero]
  · obtain ⟨_, added, hrows, hnew, hsum⟩ := hI
    obtain ⟨r, hrow, hnewRow, rfl, htaken⟩ := reserveAt_rows hstep
    refine ⟨by omega, added ++ [r], by rw [hrow, hrows, append_assoc], fun x hx => ?_, ?_⟩
    · rcases mem_append.mp hx with hx | hx
      · exact hnew x hx
      · exact hnewRow x hx
    · rw [map_append, List.sum_append, hsum, List.map_singleton, List.sum_singleton]
      omega

lemma heldOf_of_newRows {added : List InventoryReservation} (h : NewRows source [p] added) (p' : ℕ) :
    heldOf added p' = if p = p' then (added.map InventoryReservation.quantity).sum else 0 := by
  split
  next hp =>
    subst hp
    rw [heldOf, totalOf]
    congr 1
    exact map_congr_left fun r hr => if_pos (mem_singleton.mp (h r hr).2.2)
  next hp =>
    refine totalOf_eq_zero fun r hr hr' => hp ?_
    rw [← hr', mem_singleton.mp (h r hr).2.2]

lemma heldOf_append (a b : List InventoryReservation) (p : ℕ) :
    heldOf (a ++ b) p = heldOf a p + heldOf b p := by
  simp [heldOf, totalOf]

/-! ### Orders -/

lemma quantitiesByProduct_eq (items : List OrderItem) :
    quantitiesByProduct items = tally OrderItem.productId OrderItem.quantity items := rfl

lemma mem_quantitiesByProduct {items : List OrderItem} :
    p ∈ (quantitiesByProduct items).rows.map Prod.fst ↔ p ∈ items.map OrderItem.productId := by
  rw [quantitiesByProduct_eq]
  constructor
  · intro h
    obtain ⟨line, hline, rfl⟩ := mem_map.mp h
    have hfind := @find?_of_mem _ _ Prod.fst _ (tally OrderItem.productId OrderItem.quantity items) line hline
    by_contra hnot
    rw [find?_tally, if_neg hnot] at hfind
    cases hfind
  · intro h
    obtain ⟨item, hitem, rfl⟩ := mem_map.mp h
    exact mem_map.mpr ⟨_, mem_tally hitem, rfl⟩

lemma totalOf_quantitiesByProduct (items : List OrderItem) (p : ℕ) :
    totalOf Prod.fst Prod.snd (quantitiesByProduct items).rows p =
      totalOf OrderItem.productId OrderItem.quantity items p := by
  rw [quantitiesByProduct_eq]
  change (tally OrderItem.productId OrderItem.quantity items).sumBy Prod.fst Prod.snd p = _
  by_cases hp : p ∈ items.map OrderItem.productId
  · obtain ⟨item, hitem, rfl⟩ := mem_map.mp hp
    exact Table.sumBy_key (mem_tally hitem) rfl _
  · rw [Table.sumBy_eq_zero, totalOf_eq_zero]
    · intro item hitem hkey
      exact hp (mem_map.mpr ⟨item, hitem, hkey⟩)
    · intro line hline hkey
      refine hp (mem_quantitiesByProduct.mp ?_)
      exact mem_map.mpr ⟨line, hline, hkey⟩

lemma inventory_apart : Db.inventoryRow.Apart Db.reservations := ⟨fun _ _ => rfl⟩

/-- The rows of a new order hold what its lines say. -/
lemma reserveOrderProducts_rows {orderId : ℕ} {lines : List (ℕ × ℕ)} (hnodup : (lines.map Prod.fst).Nodup)
    (hnone : ∀ r ∈ db.reservations, r.isFor (orderSource orderId) = true →
      r.productId ∉ lines.map Prod.fst)
    (h : Commits (lines.forM (reserveOrderProduct orderId w)) db u db') :
    ∃ added, db'.reservations.rows = db.reservations.rows ++ added ∧
      NewRows (orderSource orderId) (lines.map Prod.fst) added ∧
      ∀ p, heldOf added p = totalOf Prod.fst (fun l : ℕ × ℕ => (l.2 : ℤ)) lines p := by
  induction lines generalizing db with
  | nil => exact ⟨[], by simp [(commits_forM_nil.mp h).symm], by simp [NewRows], fun _ => rfl⟩
  | cons line rest ih =>
    obtain ⟨st, hline, hrest⟩ := commits_forM_cons.mp h
    simp only [reserveOrderProduct, commits_bind] at hline
    obtain ⟨_, st', hreserve, hinv⟩ := hline
    obtain ⟨hfirst, hnodup⟩ := nodup_cons.mp hnodup
    obtain ⟨a, hrows, hnew, hsum⟩ := reserveLocationStock_rows (by
      refine List.eq_nil_iff_forall_not_mem.mpr fun r hr => ?_
      obtain ⟨hmem, hr⟩ := mem_findMany.mp hr
      simp only [activeOn, Bool.and_eq_true, List.contains_iff_mem, mem_singleton] at hr
      exact hnone r hmem hr.1.1 (hr.1.2 ▸ mem_cons_self)) hreserve
    have hst : st.reservations.rows = db.reservations.rows ++ a := by
      rw [inventory_apart.updateOne _ _ _ hinv, hrows]
    obtain ⟨b, hrows', hnew', hsum'⟩ := ih hnodup (by
      intro r hr hfor hmem
      rcases mem_append.mp (hst ▸ mem_rows.mp hr) with hr | hr
      · exact hnone r hr hfor (mem_cons_of_mem _ hmem)
      · have hp := mem_singleton.mp (hnew r hr).2.2
        exact hfirst (hp ▸ hmem)) hrest
    refine ⟨a ++ b, by rw [hrows', hst, append_assoc], fun r hr => ?_, fun p => ?_⟩
    · rcases mem_append.mp hr with hr | hr
      · obtain ⟨hfor, hactive, hp⟩ := hnew r hr
        exact ⟨hfor, hactive, (mem_singleton.mp hp).symm ▸ mem_cons_self⟩
      · obtain ⟨hfor, hactive, hp⟩ := hnew' r hr
        exact ⟨hfor, hactive, mem_cons_of_mem _ hp⟩
    · rw [heldOf_append, hsum', heldOf_of_newRows hnew, hsum, totalOf_cons]

/-- Closing the rows of one product after the other. -/
lemma closeProducts {f : ℕ × ℕ → StockTx Unit} (hstatus : status ≠ .active)
    (hf : ∀ line st st', Commits (f line) st () st' → st'.reservations.rows =
      st.reservations.rows.map (InventoryReservation.close (activeOn source [line.1]) status))
    {lines : List (ℕ × ℕ)} {u : Unit} (h : Commits (lines.forM f) db u db') :
    db'.reservations.rows = db.reservations.rows.map
      (InventoryReservation.close (activeOn source (lines.map Prod.fst)) status) := by
  induction lines generalizing db with
  | nil =>
    rw [← commits_forM_nil.mp h]
    conv_lhs => rw [← List.map_id db.reservations.rows]
    exact map_congr_left fun x _ => by simp [InventoryReservation.close, activeOn]
  | cons line rest ih =>
    obtain ⟨st, hline, hrest⟩ := commits_forM_cons.mp h
    rw [ih hrest, hf line db st hline, map_map]
    refine map_congr_left fun x _ => ?_
    by_cases hx : activeOn source [line.1] x = true
    · have hall : activeOn source (line.1 :: rest.map Prod.fst) x = true := by
        simp_all [activeOn]
      have hclosed : activeOn source (rest.map Prod.fst) { x with status } = false := by
        simp [activeOn, hstatus]
      simp [InventoryReservation.close, hx, hall, hclosed]
    · have hrest : activeOn source (line.1 :: rest.map Prod.fst) x = activeOn source (rest.map Prod.fst) x := by
        rw [Bool.eq_iff_iff]
        simp only [activeOn, Bool.and_eq_true, List.contains_iff_mem, mem_cons, not_mem_nil, or_false] at hx ⊢
        constructor
        · rintro ⟨⟨hfor, hp | hp⟩, hactive⟩
          · exact absurd ⟨⟨hfor, hp⟩, hactive⟩ hx
          · exact ⟨⟨hfor, hp⟩, hactive⟩
        · rintro ⟨⟨hfor, hp⟩, hactive⟩
          exact ⟨⟨hfor, .inr hp⟩, hactive⟩
      simp [InventoryReservation.close, hx, hrest]

lemma releaseOrderProduct_rows {order : Order} {line : ℕ × ℕ}
    (h : Commits (releaseOrderProduct order line) db u db') :
    db'.reservations.rows = db.reservations.rows.map
      (InventoryReservation.close (activeOn (orderSource order.id) [line.1]) .released) := by
  simp only [releaseOrderProduct, commits_steps] at h
  obtain ⟨_, st, hrelease, hinv⟩ := h
  rw [inventory_apart.updateOne _ _ _ hinv, releaseLocationReservations_rows hrelease]

lemma shipOrderProduct_rows {order : Order} {line : ℕ × ℕ}
    (h : Commits (shipOrderProduct order line) db u db') :
    db'.reservations.rows = db.reservations.rows.map
      (InventoryReservation.close (activeOn (orderSource order.id) [line.1]) .consumed) := by
  simp only [shipOrderProduct, commits_steps] at h
  obtain ⟨_, st, hconsume, _, st', hinv, _, _, hmove⟩ := h
  have hmoved : db'.reservations = st'.reservations := by rw [← commits_modify.mp hmove]
  rw [hmoved, inventory_apart.updateOne _ _ _ hinv, consumeLocationReservations_rows hconsume]

end Mayatoko.Stock
