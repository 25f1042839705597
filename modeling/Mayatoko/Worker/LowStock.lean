import Mayatoko.Core.Best
import Mayatoko.Worker.Schema

/-!
# Events for stock that runs low

The pass of `emitAutomationSourceEvents` over the inventory. It reads the five hundred rows of active products
that have not changed for the longest time, and only then looks which of them are low and have no event since
their last change. The clock by which the database stamps events says when the pass comes to a row.
-/

namespace Mayatoko.Worker

open Core

structure StockedProduct where
  id : String
  companyId : Option ℕ
  (sku name : String)
  minStock : ℤ
  isActive : Bool := true

structure StockPlace where
  (id branchId : String)
  companyId : ℕ

structure StockRow where
  id : String
  product : StockedProduct
  warehouse : StockPlace
  (available reserved : ℤ)
  updatedAt : ℕ

structure Outbox where
  events : Table EventOutbox.id
  nextId : ℕ
  fresh : ∀ e ∈ events, e.id < nextId

namespace Outbox

variable {o : Outbox} {e : EventOutbox} {data : ℕ → EventOutbox}

def create (o : Outbox) (data : ℕ → EventOutbox) (hid : ∀ id, (data id).id = id) : Outbox where
  events := o.events.put (data o.nextId)
  nextId := o.nextId + 1
  fresh e he := by
    rcases mem_put.mp he with rfl | ⟨he, _⟩
    · exact (hid _).trans_lt (Nat.lt_succ_self _)
    · exact Nat.lt_succ_of_lt (o.fresh e he)

lemma mem_create (hid : ∀ id, (data id).id = id) :
    e ∈ (o.create data hid).events ↔ e = data o.nextId ∨ e ∈ o.events := by
  refine mem_put.trans (or_congr_right (and_iff_left_of_imp fun he => ?_))
  rw [hid]
  exact (o.fresh e he).ne

end Outbox

/-! ### The pass -/

def lowStock (inventory : Table StockRow.id) : List StockRow :=
  (inventory.findSorted (fun r => r.product.isActive) fun a b => a.updatedAt ≤ b.updatedAt).take 500

def changeOf (companyId : ℕ) (row : StockRow) (e : EventOutbox) : Bool :=
  e.companyId = some companyId && e.eventType = "inventory.balance.changed" && e.aggregateType = "Inventory" &&
    e.aggregateId = row.id

def latestChange (o : Outbox) (companyId : ℕ) (row : StockRow) : Option EventOutbox :=
  o.events.findFirst (changeOf companyId row) fun a b => b.createdAt ≤ a.createdAt

def balanceChanged (companyId : ℕ) (row : StockRow) (now id : ℕ) : EventOutbox where
  id := id
  companyId := some companyId
  eventType := "inventory.balance.changed"
  aggregateType := "Inventory"
  aggregateId := row.id
  payload := .obj
    [("companyId", .str (toString companyId)), ("branchId", .str row.warehouse.branchId),
      ("warehouseId", .str row.warehouse.id), ("productId", .str row.product.id),
      ("available", .num row.available),
      ("reserved", .num row.reserved),
      ("product", .obj [("sku", .str row.product.sku), ("name", .str row.product.name),
        ("minStock", .num row.product.minStock)]),
      ("observedAt", .str (toString now))]
  availableAt := now
  createdAt := now

lemma balanceChanged_id {companyId : ℕ} {row : StockRow} {now : ℕ} (id : ℕ) :
    (balanceChanged companyId row now id).id = id := rfl

def emitLowStock (now : ℕ) (o : Outbox) (row : StockRow) : Outbox :=
  match row.product.companyId with
  | none => o
  | some companyId =>
    if companyId ≠ row.warehouse.companyId ∨ row.product.minStock ≤ 0 ∨
        row.product.minStock < row.available then o
    else if (latestChange o companyId row).any fun latest => row.updatedAt ≤ latest.createdAt then o
    else o.create (balanceChanged companyId row now) balanceChanged_id

/-- One pass, which comes to a row when `clock` says. -/
def lowStockPass (inventory : Table StockRow.id) (clock : StockRow → ℕ) (o : Outbox) : Outbox :=
  (lowStock inventory).foldl (fun o row => emitLowStock (clock row) o row) o

/-! ### What a pass tells -/

section

variable {row row' : StockRow} {o : Outbox} {now : ℕ} {rows : List StockRow} {clock : StockRow → ℕ}
  {inventory : Table StockRow.id}

def Low (row : StockRow) : Prop :=
  row.product.companyId = some row.warehouse.companyId ∧ 0 < row.product.minStock ∧
    row.available ≤ row.product.minStock

def Due (row : StockRow) : Prop := row.product.isActive = true ∧ Low row

/-- Whether there is an event since the last change of the row. -/
def Told (o : Outbox) (row : StockRow) : Prop :=
  ∃ e ∈ o.events, changeOf row.warehouse.companyId row e = true ∧ row.updatedAt ≤ e.createdAt

lemma latestChange_any {companyId : ℕ} :
    (latestChange o companyId row).any (fun latest => row.updatedAt ≤ latest.createdAt) = true ↔
      ∃ e ∈ o.events, changeOf companyId row e = true ∧ row.updatedAt ≤ e.createdAt := by
  rw [Option.any_eq_true]
  constructor
  · rintro ⟨e, he, hle⟩
    obtain ⟨hmem, hchange⟩ := Table.mem_of_findFirst he
    exact ⟨e, hmem, hchange, of_decide_eq_true hle⟩
  · rintro ⟨e, he, hchange, hle⟩
    cases hlatest : latestChange o companyId row with
    | none => exact absurd hchange (Table.findFirst_eq_none.mp hlatest e he)
    | some latest =>
      have : Std.Total fun a b : EventOutbox => decide (b.createdAt ≤ a.createdAt) = true :=
        ⟨fun a b => by simpa only [decide_eq_true_eq] using Nat.le_total _ _⟩
      have : IsTrans EventOutbox fun a b => decide (b.createdAt ≤ a.createdAt) = true :=
        ⟨fun a b c hab hbc => decide_eq_true ((of_decide_eq_true hbc).trans (of_decide_eq_true hab))⟩
      have hfirst := Table.le_of_findFirst _ hlatest he hchange
      refine ⟨latest, rfl, decide_eq_true ?_⟩
      obtain rfl | hfirst := hfirst
      · exact hle
      · exact hle.trans (of_decide_eq_true hfirst)

lemma emitLowStock_of_told (hlow : Low row) (htold : Told o row) : emitLowStock now o row = o := by
  rw [emitLowStock, hlow.1]
  refine (if_neg ?_).trans (if_pos (latestChange_any.mpr htold))
  rintro (h | h | h)
  · exact h rfl
  · exact absurd h hlow.2.1.not_ge
  · exact absurd h hlow.2.2.not_gt

lemma emitLowStock_of_not_told (hlow : Low row) (htold : ¬ Told o row) :
    emitLowStock now o row = o.create (balanceChanged row.warehouse.companyId row now) balanceChanged_id := by
  rw [emitLowStock, hlow.1]
  refine (if_neg ?_).trans (if_neg fun h => htold (latestChange_any.mp h))
  rintro (h | h | h)
  · exact h rfl
  · exact absurd h hlow.2.1.not_ge
  · exact absurd h hlow.2.2.not_gt

lemma emitLowStock_of_not_low (hlow : ¬ Low row) : emitLowStock now o row = o := by
  unfold emitLowStock
  split
  · rfl
  · rename_i companyId hcompany
    refine if_pos ?_
    by_contra! h
    exact hlow ⟨h.1 ▸ hcompany, h.2⟩

lemma told_emit_self (hlow : Low row) :
    Told (emitLowStock now o row) row ↔ Told o row ∨ row.updatedAt ≤ now := by
  by_cases htold : Told o row
  · rw [emitLowStock_of_told hlow htold]
    exact (or_iff_left_of_imp fun _ => htold).symm
  · rw [emitLowStock_of_not_told hlow htold, Told]
    simp only [Outbox.mem_create, or_and_right, exists_or, exists_eq_left]
    rw [or_comm]
    refine or_congr Iff.rfl (and_iff_right ?_)
    simp [changeOf, balanceChanged]

lemma told_emit_of_ne (hid : row'.id ≠ row.id) : Told (emitLowStock now o row') row ↔ Told o row := by
  by_cases hlow : Low row'
  · by_cases htold : Told o row'
    · rw [emitLowStock_of_told hlow htold]
    · rw [emitLowStock_of_not_told hlow htold, Told]
      simp only [Outbox.mem_create, or_and_right, exists_or, exists_eq_left]
      refine or_iff_right fun h => hid ?_
      have hchange := h.1
      simp only [changeOf, balanceChanged, cond_iff] at hchange
      exact of_decide_eq_true hchange.2
  · rw [emitLowStock_of_not_low hlow]

lemma told_pass_rows (hlow : Low row) (hkeys : ∀ r ∈ rows, r.id = row.id → r = row) :
    Told (rows.foldl (fun o r => emitLowStock (clock r) o r) o) row ↔
      Told o row ∨ row ∈ rows ∧ row.updatedAt ≤ clock row := by
  induction rows generalizing o with
  | nil => simp
  | cons r rows ih =>
    obtain ⟨hr, hrows⟩ := forall_mem_cons.mp hkeys
    rw [List.foldl_cons, ih hrows]
    by_cases hid : r.id = row.id
    · obtain rfl := hr hid
      rw [told_emit_self hlow]
      simp only [mem_cons, true_or, true_and]
      tauto
    · rw [told_emit_of_ne hid, mem_cons, or_iff_right (fun h => hid (congrArg StockRow.id h).symm)]

lemma told_pass (hrow : row ∈ inventory) (hlow : Low row) : Told (lowStockPass inventory clock o) row ↔
      Told o row ∨ row ∈ lowStock inventory ∧ row.updatedAt ≤ clock row :=
  told_pass_rows hlow fun _ hr hid =>
    eq_of_key_eq (Table.mem_findSorted.mp (List.mem_of_mem_take hr)).1 hrow hid

lemma pass_rows_eq_self (hrows : ∀ r ∈ rows, emitLowStock (clock r) o r = o) :
    rows.foldl (fun o r => emitLowStock (clock r) o r) o = o := by
  induction rows with
  | nil => rfl
  | cons r rows ih =>
    obtain ⟨hr, hrest⟩ := forall_mem_cons.mp hrows
    rw [List.foldl_cons, hr, ih hrest]

lemma lowStockPass_eq_self (htold : ∀ row ∈ inventory, Due row → Told o row) :
    lowStockPass inventory clock o = o := by
  refine pass_rows_eq_self fun row hrow => ?_
  obtain ⟨hmem, hactive⟩ := Table.mem_findSorted.mp (List.mem_of_mem_take hrow)
  by_cases hlow : Low row
  · exact emitLowStock_of_told hlow (htold row hmem ⟨hactive, hlow⟩)
  · exact emitLowStock_of_not_low hlow

end

def PassCovers (inventory : Table StockRow.id) (clock : StockRow → ℕ) (o : Outbox) : Prop :=
  (∀ row ∈ inventory, Due row → Told (lowStockPass inventory clock o) row) ∧
    ∀ inventory' : Table StockRow.id, inventory'.rows.Perm inventory.rows → ∀ clock',
      lowStockPass inventory' clock' (lowStockPass inventory clock o) = lowStockPass inventory clock o

theorem passCovers_iff (inventory : Table StockRow.id) (clock : StockRow → ℕ) (o : Outbox) :
    PassCovers inventory clock o ↔
      ∀ row ∈ inventory, Due row → Told o row ∨ row ∈ lowStock inventory ∧ row.updatedAt ≤ clock row := by
  have hfirst : (∀ row ∈ inventory, Due row → Told (lowStockPass inventory clock o) row) ↔
      ∀ row ∈ inventory, Due row → Told o row ∨ row ∈ lowStock inventory ∧ row.updatedAt ≤ clock row :=
    forall₂_congr fun row hrow => imp_congr_right fun hdue => told_pass hrow hdue.2
  rw [PassCovers, hfirst, and_iff_left_iff_imp]
  refine fun htold inventory' hperm clock' => lowStockPass_eq_self fun row hrow hdue => ?_
  exact hfirst.mpr htold row (hperm.mem_iff.mp hrow) hdue

/-! ### A row that waits behind others -/

def shelf (available : ℤ) (n : ℕ) : StockRow where
  id := String.ofList (List.replicate n 'x')
  product := { id := "p", companyId := some 1, sku := "P", name := "Paku", minStock := 5 }
  warehouse := { id := "w", branchId := "b", companyId := 1 }
  available := available
  reserved := 0
  updatedAt := n

def shelves (k : ℕ) : List StockRow := (List.range k).map (shelf 9) ++ [shelf 3 k]

lemma shelf_inj {a b : ℤ} {m n : ℕ} (h : (shelf a m).id = (shelf b n).id) : m = n := by
  have hlist := congrArg (fun s => s.toList.length) h
  simpa [shelf] using hlist

lemma shelf_ne_of_mem {k : ℕ} {row : StockRow} (h : row ∈ (List.range k).map (shelf 9)) :
    row.id ≠ (shelf 3 k).id := by
  obtain ⟨n, hn, rfl⟩ := mem_map.mp h
  exact fun hid => absurd (shelf_inj hid) (List.mem_range.mp hn).ne

lemma nodup_shelves (k : ℕ) : ((shelves k).map StockRow.id).Nodup := by
  rw [shelves, map_append, map_map, List.nodup_append]
  refine ⟨List.nodup_range.map fun _ _ h => shelf_inj h, List.nodup_singleton _, ?_⟩
  intro id hid id' hid'
  rw [mem_singleton.mp hid', ← map_map] at *
  obtain ⟨row, hrow, rfl⟩ := mem_map.mp hid
  exact shelf_ne_of_mem hrow

lemma pairwise_shelves (k : ℕ) : (shelves k).Pairwise fun a b => a.updatedAt ≤ b.updatedAt := by
  rw [shelves, List.pairwise_append, List.pairwise_map]
  refine ⟨List.pairwise_le_range, List.pairwise_singleton _ _, fun row hrow last hlast => ?_⟩
  obtain ⟨n, hn, rfl⟩ := mem_map.mp hrow
  rw [mem_singleton.mp hlast]
  exact (List.mem_range.mp hn).le

lemma low_shelf (k : ℕ) : Low (shelf 3 k) :=
  ⟨rfl, (by decide : (0 : ℤ) < 5), (by decide : (3 : ℤ) ≤ 5)⟩

def storeroom : Table StockRow.id := ⟨shelves 500, nodup_shelves 500⟩

lemma not_mem_lowStock_storeroom : shelf 3 500 ∉ lowStock storeroom := by
  have hactive : storeroom.findMany (fun r => r.product.isActive) = shelves 500 := by
    refine List.filter_eq_self.mpr fun row hrow => ?_
    rcases mem_append.mp hrow with hrow | hrow
    · obtain ⟨n, -, rfl⟩ := mem_map.mp hrow
      rfl
    · rw [mem_singleton.mp hrow]
      rfl
  have hsorted : (shelves 500).Pairwise fun a b => decide (a.updatedAt ≤ b.updatedAt) = true :=
    (pairwise_shelves 500).imp fun h => decide_eq_true h
  rw [lowStock, Table.findSorted, hactive, List.Pairwise.insertionSort_eq hsorted, shelves,
    List.take_left' (by rw [length_map, List.length_range])]
  exact fun h => shelf_ne_of_mem h rfl

theorem not_passCovers_storeroom :
    ¬ PassCovers storeroom (fun _ => 1000) ⟨.empty, 0, fun e he => absurd he (not_mem_empty e)⟩ := by
  rintro ⟨hcovers, -⟩
  have hrow : shelf 3 500 ∈ storeroom := List.mem_concat_self
  rcases (told_pass hrow (low_shelf 500)).mp (hcovers _ hrow ⟨rfl, low_shelf 500⟩) with ⟨e, he, _⟩ | ⟨hmem, _⟩
  · exact not_mem_empty e he
  · exact not_mem_lowStock_storeroom hmem

end Mayatoko.Worker
