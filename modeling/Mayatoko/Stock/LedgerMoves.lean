import Mayatoko.Stock.Ledger

/-!
# Moves on the stock ledgers

What a write to a balance, to a condition, to the aggregate or to a reservation does to `Sound`
and `Owes`. A stock movement writes a balance and its `AVAILABLE` condition together
(`Owes.writeStock`); a reservation or a release moves between reserved and available only
(`Owes.shift`); the aggregate settles what is owed (`Owes.settle`).
-/

namespace Mayatoko.Stock.Db

open Core

variable {db : Db} {s : ℕ × ℕ} {δ : Counts}

/-! ### Writing a balance -/

section WriteBalance

variable {b : InventoryLocationBalance}
  (hw : ∀ x ∈ db.locationBalances, x.key = b.key → x.warehouseId = b.warehouseId)

include hw

lemma stock_eq_of_key_eq {x : InventoryLocationBalance} (hx : x ∈ db.locationBalances)
    (hk : x.key = b.key) : x.stock = b.stock := by
  have hwx := hw x hx hk
  simp only [InventoryLocationBalance.key, Prod.mk.injEq] at hk
  rw [InventoryLocationBalance.stock, hwx, hk.2, InventoryLocationBalance.stock]

lemma located_writeBalance {k : ℕ × ℕ} :
    ({ db with locationBalances := db.locationBalances.put b } : Db).Located k ↔
      db.Located k ∨ k = b.stock := by
  constructor
  · rintro ⟨x, hx, rfl⟩
    rcases mem_put.mp hx with rfl | ⟨hx, _⟩
    · exact .inr rfl
    · exact .inl ⟨x, hx, rfl⟩
  · rintro (⟨x, hx, rfl⟩ | rfl)
    · by_cases hk : x.key = b.key
      · exact ⟨b, mem_put_self _ _, (stock_eq_of_key_eq hw hx hk).symm⟩
      · exact ⟨x, mem_put.mpr (Or.inr ⟨hx, hk⟩), rfl⟩
    · exact ⟨b, mem_put_self _ _, rfl⟩

lemma Stocked.writeBalance {k : ℕ × ℕ} {w : ℕ} (h : db.Stocked k w) :
    ({ db with locationBalances := db.locationBalances.put b } : Db).Stocked k w := by
  obtain ⟨x, hx, hk, hxw⟩ := h
  by_cases hkb : x.key = b.key
  · exact ⟨b, mem_put_self _ _, hkb.symm.trans hk, (hw x hx hkb).symm.trans hxw⟩
  · exact ⟨x, mem_put.mpr (Or.inr ⟨hx, hkb⟩), hk, hxw⟩

lemma totals_writeBalance : ({ db with locationBalances := db.locationBalances.put b } : Db).totals =
      db.totals + Pi.single b.stock (b.counts - db.balanceAt b.key) := by
  cases hb : db.locationBalances.find? b.key with
  | none =>
    simp only [totals, balanceAt, hb, Option.elim_none, sub_zero]
    exact Table.sumBy_put_of_not_mem (find?_eq_none.mp hb) _ _
  | some x =>
    obtain ⟨hx, hk⟩ := find?_eq_some.mp hb
    simp only [totals, balanceAt, hb, Option.elim_some]
    exact Table.sumBy_put_of_mem hx hk (stock_eq_of_key_eq hw hx hk) _

lemma Owes.totals_writeBalance (h : Owes s δ db) (hs : b.stock = s)
    (hnew : ¬ db.Located s → db.aggregate s = 0) (k : ℕ × ℕ)
    (hk : ({ db with locationBalances := db.locationBalances.put b } : Db).Located k) :
    ({ db with locationBalances := db.locationBalances.put b } : Db).totals k =
      db.aggregate k + if k = s then δ + (b.counts - db.balanceAt b.key) else 0 := by
  rw [located_writeBalance hw, hs] at hk
  rw [Db.totals_writeBalance hw, Pi.add_apply, hs]
  by_cases hks : k = s
  · subst hks
    simp only [Pi.single_eq_same, if_true]
    by_cases hl : db.Located k
    · rw [h.totals k hl, if_pos rfl]
      abel
    · rw [totals_eq_zero hl, hnew hl, h.settled hl]
      abel
  · rw [Pi.single_eq_of_ne hks, if_neg hks, h.totals k (hk.resolve_right hks), if_neg hks]
    abel

lemma Sound.replace (h : Sound db) (t : Table InventoryConditionBalance.key)
    (hloc : db.Holds b.locationId b.warehouseId)
    (hfree : 0 ≤ b.reserved ∧ 0 ≤ b.available) {db' : Db}
    (hdb' : db' = { db with
      locationBalances := db.locationBalances.put b, conditionBalances := t })
    (hplaced : ∀ c ∈ t, db'.Stocked c.place c.warehouseId)
    (hclassified : ∀ s, db'.Classed s → db'.Classified s)
    (hunclassified : ∀ x ∈ db'.locationBalances, ¬ db'.Classed x.stock →
      x.quantity = x.reserved + x.available) : Sound db' := by
  subst hdb'
  refine ⟨fun x hx => ?_, hplaced, fun x hx => ?_, hclassified, hunclassified,
    fun i hi hl => ?_, fun r hr => ?_, h.ordered⟩
  · rcases mem_put.mp hx with rfl | ⟨hx, _⟩
    · exact hloc
    · exact h.located x hx
  · rcases mem_put.mp hx with rfl | ⟨hx, _⟩
    · exact hfree
    · exact h.free x hx
  · exact h.unlocated i hi fun hl' => hl ((located_writeBalance hw).mpr (Or.inl hl'))
  · obtain ⟨hq, hst⟩ := h.held r hr
    exact ⟨hq, Stocked.writeBalance hw hst⟩

end WriteBalance

section Shift

variable {b₀ b : InventoryLocationBalance} (hb₀ : b₀ ∈ db.locationBalances) (hk : b.key = b₀.key)
  (hwh : b.warehouseId = b₀.warehouseId)

include hb₀ hk hwh

lemma warehouse_of_key_eq (x : InventoryLocationBalance) (hx : x ∈ db.locationBalances)
    (hxk : x.key = b.key) : x.warehouseId = b.warehouseId := by
  rw [hwh, eq_of_key_eq hx hb₀ (hxk.trans hk)]

lemma stock_eq_of_replaced : b.stock = b₀.stock :=
  (stock_eq_of_key_eq (warehouse_of_key_eq hb₀ hk hwh) hb₀ hk.symm).symm

lemma Sound.shift (h : Sound db) (hq : b.quantity = b₀.quantity)
    (hra : b.reserved + b.available = b₀.reserved + b₀.available)
    (hfree : 0 ≤ b.reserved ∧ 0 ≤ b.available) :
    Sound { db with locationBalances := db.locationBalances.put b } := by
  have hw := warehouse_of_key_eq hb₀ hk hwh
  have hst := stock_eq_of_replaced hb₀ hk hwh
  have hlid : b.locationId = b₀.locationId := congrArg Prod.fst hk
  refine Sound.replace hw h db.conditionBalances ?_ hfree rfl ?_ ?_ ?_
  · rw [hlid, hwh]
    exact h.located b₀ hb₀
  · exact fun c hc => Stocked.writeBalance hw (h.placed c hc)
  · intro s hs x hx hxs
    rcases mem_put.mp hx with rfl | ⟨hx, _⟩
    · obtain ⟨hcl, hse⟩ := h.classified s hs b₀ hb₀ (hst.symm.trans hxs)
      refine ⟨?_, ?_⟩
      · rw [hk, hq]
        exact hcl
      · rw [hk]
        change db.sellable b₀.key - x.reserved = x.available
        omega
    · exact h.classified s hs x hx hxs
  · intro x hx hcl
    rcases mem_put.mp hx with rfl | ⟨hx, _⟩
    · rw [hst] at hcl
      have := h.unclassified b₀ hb₀ hcl
      omega
    · exact h.unclassified x hx hcl

lemma Owes.shift (h : Owes s δ db) (hs : b₀.stock = s) (hq : b.quantity = b₀.quantity)
    (hra : b.reserved + b.available = b₀.reserved + b₀.available)
    (hfree : 0 ≤ b.reserved ∧ 0 ≤ b.available) :
    Owes s (δ + (b.counts - b₀.counts))
      { db with locationBalances := db.locationBalances.put b } := by
  have hw := warehouse_of_key_eq hb₀ hk hwh
  have hl : db.Located s := ⟨b₀, hb₀, hs⟩
  have hold : db.balanceAt b.key = b₀.counts := by
    rw [balanceAt, hk, find?_of_mem hb₀]
    rfl
  have hbs : b.stock = s := (stock_eq_of_replaced hb₀ hk hwh).trans hs
  refine ⟨h.toSound.shift hb₀ hk hwh hq hra hfree, fun k hk' => ?_, fun hl' => ?_⟩
  · rw [h.totals_writeBalance hw hbs (fun hnl => absurd hl hnl) k hk', hold]
    rfl
  · exact absurd ((located_writeBalance hw).mpr (Or.inl hl)) hl'

end Shift

section WriteCondition

variable {c : InventoryConditionBalance} (hc : c.condition = .available)

include hc

lemma key_of_place {k : ℕ × ℕ} (hk : c.place = k) : c.key = (k.1, k.2, .available) := by
  rw [← hk, InventoryConditionBalance.key, hc, InventoryConditionBalance.place]

lemma classified_writeCondition :
    ({ db with conditionBalances := db.conditionBalances.put c } : Db).classified =
      db.classified + Pi.single c.place (c.quantity - db.sellable c.place) := by
  cases h : db.conditionBalances.find? c.key with
  | none =>
    rw [key_of_place hc rfl] at h
    simp only [classified, sellable, h, Option.elim_none, sub_zero]
    rw [← key_of_place hc rfl] at h
    exact Table.sumBy_put_of_not_mem (find?_eq_none.mp h) _ _
  | some x =>
    obtain ⟨hx, hk⟩ := find?_eq_some.mp h
    have hplace : x.place = c.place := by
      simp only [InventoryConditionBalance.key, Prod.mk.injEq] at hk
      rw [InventoryConditionBalance.place, hk.1, hk.2.1, InventoryConditionBalance.place]
    rw [key_of_place hc rfl] at h
    simp only [classified, sellable, h, Option.elim_some]
    exact Table.sumBy_put_of_mem hx hk hplace _

lemma sellable_writeCondition (k : ℕ × ℕ) :
    ({ db with conditionBalances := db.conditionBalances.put c } : Db).sellable k =
      if k = c.place then c.quantity else db.sellable k := by
  simp only [sellable, Table.find?_put, key_of_place hc rfl]
  by_cases hk : k = c.place
  · subst hk
    simp
  · have hne : (k.1, k.2, InventoryCondition.available) ≠ (c.place.1, c.place.2, .available) := by
      intro he
      simp only [Prod.mk.injEq, and_true] at he
      exact hk (Prod.ext he.1 he.2)
    rw [if_neg hne, if_neg hk]

omit hc in
lemma classed_writeCondition
    (hcw : ∀ x ∈ db.conditionBalances, x.key = c.key → x.warehouseId = c.warehouseId)
    {s : ℕ × ℕ} : ({ db with conditionBalances := db.conditionBalances.put c } : Db).Classed s ↔
      db.Classed s ∨ s = c.stock := by
  constructor
  · rintro ⟨x, hx, rfl⟩
    rcases mem_put.mp hx with rfl | ⟨hx, _⟩
    · exact .inr rfl
    · exact .inl ⟨x, hx, rfl⟩
  · rintro (⟨x, hx, rfl⟩ | rfl)
    · by_cases hk : x.key = c.key
      · refine ⟨c, mem_put_self _ _, ?_⟩
        have hxw := hcw x hx hk
        simp only [InventoryConditionBalance.key, Prod.mk.injEq] at hk
        rw [InventoryConditionBalance.stock, InventoryConditionBalance.stock, hxw, hk.2.1]
      · exact ⟨x, mem_put.mpr (Or.inr ⟨hx, hk⟩), rfl⟩
    · exact ⟨c, mem_put_self _ _, rfl⟩

end WriteCondition

/-! ### Writing a balance with its condition -/

section WriteStock

variable {b : InventoryLocationBalance} {c : InventoryConditionBalance} {d : ℤ}

/-- The balance and the condition rows of the place `b.key` both move by the quantity `d`. -/
structure StockWrite (db : Db) (b : InventoryLocationBalance) (c : InventoryConditionBalance)
    (d : ℤ) : Prop where
  located : db.Holds b.locationId b.warehouseId
  free : 0 ≤ b.reserved ∧ 0 ≤ b.available
  place : c.place = b.key
  condition : c.condition = .available
  warehouse : c.warehouseId = b.warehouseId
  quantity : b.quantity = (db.balanceAt b.key).1 + d
  split : b.reserved + b.available = (db.balanceAt b.key).2.1 + (db.balanceAt b.key).2.2 + d
  sellable : c.quantity = db.sellable b.key + d

def writeStock (db : Db) (b : InventoryLocationBalance) (c : InventoryConditionBalance) : Db :=
  { db with
    locationBalances := db.locationBalances.put b
    conditionBalances := db.conditionBalances.put c }

lemma StockWrite.same_warehouse (hwr : StockWrite db b c d) (h : Sound db)
    (x : InventoryLocationBalance) (hx : x ∈ db.locationBalances) (hk : x.key = b.key) :
    x.warehouseId = b.warehouseId := by
  obtain ⟨l, hl, hid, hw⟩ := hwr.located
  rw [← hw]
  exact h.warehouse_eq hx hl ((congrArg Prod.fst hk).trans hid.symm)

lemma StockWrite.same_condition_warehouse (hwr : StockWrite db b c d) (h : Sound db)
    (x : InventoryConditionBalance) (hx : x ∈ db.conditionBalances) (hk : x.key = c.key) :
    x.warehouseId = c.warehouseId := by
  obtain ⟨y, hy, hyk, hyw⟩ := h.placed x hx
  have hplace : x.place = c.place := by
    simp only [InventoryConditionBalance.key, Prod.mk.injEq] at hk
    rw [InventoryConditionBalance.place, hk.1, hk.2.1, InventoryConditionBalance.place]
  rw [← hyw, hwr.warehouse]
  exact hwr.same_warehouse h y hy (hyk.trans (hplace.trans hwr.place))

lemma StockWrite.agree (hwr : StockWrite db b c d) (h : Sound db) (hcl : db.Classified b.stock) :
    db.classified b.key = (db.balanceAt b.key).1 ∧
      db.sellable b.key - (db.balanceAt b.key).2.1 = (db.balanceAt b.key).2.2 := by
  cases hx : db.locationBalances.find? b.key with
  | none =>
    obtain ⟨h₁, h₂⟩ := h.classified_eq_zero hx
    simp [balanceAt, hx, h₁, h₂]
  | some x =>
    obtain ⟨hxm, hxk⟩ := find?_eq_some.mp hx
    have hagree := hcl x hxm (stock_eq_of_key_eq (hwr.same_warehouse h) hxm hxk)
    simp only [balanceAt, hx, Option.elim_some, InventoryLocationBalance.counts]
    rw [← hxk]
    exact hagree

lemma StockWrite.conditionsAgree (hwr : StockWrite db b c d) (h : Sound db)
    (hcl : db.Classified b.stock) : (db.writeStock b c).ConditionsAgree b := by
  obtain ⟨h₁, h₂⟩ := hwr.agree h hcl
  have hq := hwr.quantity
  have hsp := hwr.split
  have hse := hwr.sellable
  refine ⟨?_, ?_⟩
  · change ({ db with conditionBalances := db.conditionBalances.put c } : Db).classified b.key = _
    rw [classified_writeCondition hwr.condition, Pi.add_apply, hwr.place, Pi.single_eq_same]
    omega
  · change ({ db with conditionBalances := db.conditionBalances.put c } : Db).sellable b.key - _ = _
    rw [sellable_writeCondition hwr.condition, if_pos hwr.place.symm]
    omega

lemma StockWrite.conditionsAgree_of_ne (hwr : StockWrite db b c d) {x : InventoryLocationBalance}
    (hx : x.key ≠ b.key) (h : db.ConditionsAgree x) : (db.writeStock b c).ConditionsAgree x := by
  refine ⟨?_, ?_⟩
  · change ({ db with conditionBalances := db.conditionBalances.put c } : Db).classified x.key = _
    rw [classified_writeCondition hwr.condition, Pi.add_apply, hwr.place, Pi.single_eq_of_ne hx, add_zero]
    exact h.1
  · change ({ db with conditionBalances := db.conditionBalances.put c } : Db).sellable x.key - _ = _
    rw [sellable_writeCondition hwr.condition, hwr.place, if_neg hx]
    exact h.2

lemma StockWrite.stock_eq (hwr : StockWrite db b c d) : c.stock = b.stock := by
  rw [InventoryConditionBalance.stock, hwr.warehouse, InventoryLocationBalance.stock,
    show c.productId = b.productId from congrArg Prod.snd hwr.place]

lemma StockWrite.classified (hwr : StockWrite db b c d) (h : Sound db)
    (hcl : db.Classified b.stock) (s : ℕ × ℕ) (hs : (db.writeStock b c).Classed s) :
    (db.writeStock b c).Classified s := by
  intro x hx hxs
  rcases mem_put.mp hx with rfl | ⟨hx, hk⟩
  · exact hwr.conditionsAgree h hcl
  · refine hwr.conditionsAgree_of_ne hk ?_
    rcases (classed_writeCondition (hwr.same_condition_warehouse h)).mp hs with hs | hs
    · exact h.classified s hs x hx hxs
    · exact hcl x hx (hxs.trans (hs.trans hwr.stock_eq))

lemma Sound.writeStock (h : Sound db) (hwr : StockWrite db b c d) (hcl : db.Classified b.stock) :
    Sound (db.writeStock b c) ∧ (db.writeStock b c).Classified b.stock := by
  have hw := hwr.same_warehouse h
  have hclassed : (db.writeStock b c).Classed b.stock :=
    ⟨c, mem_put_self _ _, hwr.stock_eq⟩
  refine ⟨Sound.replace hw h (db.conditionBalances.put c) hwr.located hwr.free rfl ?_
    (hwr.classified h hcl) ?_, hwr.classified h hcl _ hclassed⟩
  · intro x hx
    rcases mem_put.mp hx with rfl | ⟨hx, _⟩
    · rw [hwr.place, hwr.warehouse]
      exact ⟨b, mem_put_self _ _, rfl, rfl⟩
    · exact Stocked.writeBalance hw (h.placed x hx)
  · intro x hx hnc
    rcases mem_put.mp hx with rfl | ⟨hx, _⟩
    · exact absurd hclassed hnc
    · refine h.unclassified x hx fun hs => hnc ?_
      exact (classed_writeCondition (hwr.same_condition_warehouse h)).mpr (Or.inl hs)

lemma Owes.writeStock (h : Owes s δ db) (hwr : StockWrite db b c d) (hs : b.stock = s)
    (hcl : db.Classified s) (hnew : ¬ db.Located s → db.aggregate s = 0) :
    Owes s (δ + (b.counts - db.balanceAt b.key)) (db.writeStock b c) ∧
      (db.writeStock b c).Classified s := by
  subst hs
  have hw := hwr.same_warehouse h.toSound
  obtain ⟨hsound, hcl'⟩ := h.toSound.writeStock hwr hcl
  refine ⟨⟨hsound, fun k hk => ?_, fun hnl => ?_⟩, hcl'⟩
  · exact h.totals_writeBalance hw rfl hnew k hk
  · exact absurd ⟨b, mem_put_self _ _, rfl⟩ hnl

end WriteStock

section Materialise

variable {b : InventoryLocationBalance}

/-- The first balance of a stock takes over its aggregate. -/
lemma Consistent.writeFirstBalance (h : Consistent db) (hno : ¬ db.Located b.stock)
    (hloc : db.Holds b.locationId b.warehouseId) {i : Inventory}
    (hi : db.inventory.find? b.stock = some i) (hb : b.counts = i.counts) :
    Consistent { db with locationBalances := db.locationBalances.put b } := by
  obtain ⟨him, hik⟩ := find?_eq_some.mp hi
  have hw : ∀ x ∈ db.locationBalances, x.key = b.key → x.warehouseId = b.warehouseId := by
    intro x hx hk
    obtain ⟨l, hl, hid, hlw⟩ := hloc
    rw [← hlw]
    exact h.warehouse_eq hx hl ((congrArg Prod.fst hk).trans hid.symm)
  obtain ⟨hr, ha, hq⟩ := h.unlocated i him (by rwa [hik])
  simp only [InventoryLocationBalance.counts, Inventory.counts, Prod.mk.injEq] at hb
  have hclassed : ¬ db.Classed b.stock := by
    rintro ⟨c, hc, hcs⟩
    obtain ⟨x, hx, hxk, hxw⟩ := h.placed c hc
    refine hno ⟨x, hx, ?_⟩
    rw [InventoryLocationBalance.stock, hxw, show x.productId = c.productId from congrArg Prod.snd hxk]
    exact hcs
  refine ⟨Sound.replace hw h.toSound db.conditionBalances hloc ⟨by omega, by omega⟩ rfl
    (fun c hc => Stocked.writeBalance hw (h.placed c hc)) ?_ ?_, ?_⟩
  · intro s hs x hx hxs
    rcases mem_put.mp hx with rfl | ⟨hx, _⟩
    · exact absurd (hxs ▸ hs) hclassed
    · exact h.classified s hs x hx hxs
  · intro x hx hnc
    rcases mem_put.mp hx with rfl | ⟨hx, _⟩
    · omega
    · exact h.unclassified x hx hnc
  · intro k hk
    rw [located_writeBalance hw] at hk
    have hnone : db.balanceAt b.key = 0 := by
      cases hx : db.locationBalances.find? b.key with
      | none => simp [balanceAt, hx]
      | some x =>
        obtain ⟨hxm, hxk⟩ := find?_eq_some.mp hx
        exact absurd ⟨x, hxm, stock_eq_of_key_eq hw hxm hxk⟩ hno
    rw [totals_writeBalance hw, hnone, Pi.add_apply, sub_zero]
    change _ = db.aggregate k
    by_cases hks : k = b.stock
    · subst hks
      rw [totals_eq_zero hno, Pi.single_eq_same, zero_add, aggregate, hi]
      simp [InventoryLocationBalance.counts, Inventory.counts, hb]
    · rw [Pi.single_eq_of_ne hks, add_zero]
      exact h.totals k (hk.resolve_right hks)

end Materialise

lemma Owes.settle (h : Owes s δ db) {i : Inventory} (hk : i.key = s) (hi : i.counts = db.aggregate s + δ) :
    Consistent { db with inventory := db.inventory.put i } := by
  subst hk
  have hagg : ∀ k, ({ db with inventory := db.inventory.put i } : Db).aggregate k =
      if k = i.key then i.counts else db.aggregate k := by
    intro k
    simp only [aggregate, Table.find?_put]
    split <;> rfl
  refine ⟨⟨h.located, h.placed, h.free, h.classified, h.unclassified, fun j hj hl => ?_, h.held,
    h.ordered⟩, fun k hkl => ?_⟩
  · rcases mem_put.mp hj with rfl | ⟨hj, _⟩
    · rw [h.settled hl, add_zero] at hi
      cases hf : db.inventory.find? j.key with
      | none =>
        simp only [aggregate, hf, Option.elim_none, Inventory.counts, Prod.mk_eq_zero] at hi
        omega
      | some o =>
        obtain ⟨ho, hok⟩ := find?_eq_some.mp hf
        have := h.unlocated o ho (by rwa [hok])
        simp only [aggregate, hf, Option.elim_some, Inventory.counts, Prod.mk.injEq] at hi
        omega
    · exact h.unlocated j hj hl
  · rw [hagg]
    have htot := h.totals k hkl
    change db.totals k = _
    rw [htot]
    split
    next hks => rw [hks, hi]
    next hks => rw [add_zero]

lemma Owes.writeReservation (h : Owes s δ db) {r : InventoryReservation} (hq : 0 ≤ r.quantity)
    (hst : db.Stocked (r.locationId, r.productId) r.warehouseId)
    (ho : r.sourceType = "Order" →
      ∃ o ∈ db.orders, o.id = r.sourceId ∧ o.warehouseId = r.warehouseId) :
    Owes s δ { db with reservations := db.reservations.put r } := by
  refine ⟨⟨h.located, h.placed, h.free, h.classified, h.unclassified, h.unlocated,
    fun x hx => ?_, fun x hx => ?_⟩, h.totals, h.settled⟩
  · rcases mem_put.mp hx with rfl | ⟨hx, _⟩
    · exact ⟨hq, hst⟩
    · exact h.held x hx
  · rcases mem_put.mp hx with rfl | ⟨hx, _⟩
    · exact ho
    · exact h.ordered x hx

lemma Consistent.writeLocations (h : Consistent db) {t : Table WarehouseLocation.id} {n : ℕ}
    (ht : ∀ l w, db.Holds l w → ({ db with locations := t, nextId := n } : Db).Holds l w) :
    Consistent { db with locations := t, nextId := n } :=
  ⟨⟨fun b hb => ht _ _ (h.located b hb), h.placed, h.free, h.classified, h.unclassified,
    h.unlocated, h.held, h.ordered⟩, h.totals⟩

end Mayatoko.Stock.Db
