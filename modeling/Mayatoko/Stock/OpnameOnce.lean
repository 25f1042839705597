import Mayatoko.Stock.LocationFrame
import Mayatoko.Stock.Opname

/-!
# A stock opname is completed once

Nothing but the opname calls themselves writes an opname row, and `createOpname` only inserts
one. So a completed opname stays completed, and is not completed again, unless it is submitted
again, which `submitOpname` does not refuse.
-/

namespace Mayatoko.Stock

open Core Db TableOf

variable {db db' : Db} {id : ℕ}

/-! ### What leaves the opnames alone -/

lemma offLocations_opnames : OffLocations Db.opnames := ⟨fun _ _ _ _ _ _ => rfl⟩

lemma apart_opnameItem_opnames : stockOpnameItem.Apart Db.opnames := ⟨fun _ _ => rfl⟩

lemma apart_batch_opnames : inventoryBatch.Apart Db.opnames := ⟨fun _ _ => rfl⟩

lemma apart_inventory_opnames : inventoryRow.Apart Db.opnames := ⟨fun _ _ => rfl⟩

lemma snapshotInventory_opnames {inventory : Inventory} : Leaves Db.opnames (snapshotInventory inventory) := by
  apply leaves_get.bind
  intro db
  apply Leaves.ite
  · exact leaves_require.bind fun _ => leaves_pure
  · exact leaves_pure

variable {inventories : List Inventory}

lemma snapshotWarehouse_opnames : Leaves Db.opnames (snapshotWarehouse inventories) := by
  induction inventories with
  | nil => exact leaves_pure
  | cons inventory rest ih =>
    exact snapshotInventory_opnames.bind fun _ => ih.bind fun _ => leaves_pure

variable {w : ℕ}

lemma snapshot_opnames {l : Option ℕ} : Leaves Db.opnames (snapshot w l inventories) := by
  cases l with
  | none => exact snapshotWarehouse_opnames
  | some l => exact leaves_get.bind fun _ => leaves_pure

lemma prepareWarehouse_opnames : Leaves Db.opnames (prepareWarehouse w inventories) :=
  Leaves.forM fun _ => offLocations_opnames.prepareLocationInventory.bind fun _ => leaves_pure

lemma createOpnameItem_opnames {item : SnapshotItem} : Leaves Db.opnames (createOpnameItem id item) :=
  offLocations_opnames.freshId.bind fun _ => apart_opnameItem_opnames.create

lemma countOpnameItem_opnames {input : CountStockOpnameItem} : Leaves Db.opnames (countOpnameItem id input) :=
  leaves_get.bind fun _ => leaves_orThrow.bind fun _ => leaves_require.bind fun _ =>
    apart_opnameItem_opnames.update.bind fun _ => leaves_pure

variable {item : StockOpnameItem}

lemma adjustOpnameBatch_opnames {d : ℤ} : Leaves Db.opnames (adjustOpnameBatch w item d) := by
  unfold adjustOpnameBatch
  split
  · exact leaves_pure
  · exact leaves_get.bind fun _ => leaves_orThrow.bind fun _ => leaves_require.bind fun _ =>
      apart_batch_opnames.update.bind fun _ => leaves_pure

variable {opname : StockOpname}

lemma adjustOpnameLocations_opnames {p : ℕ} {d : ℤ} : Leaves Db.opnames (adjustOpnameLocations opname p d) := by
  unfold adjustOpnameLocations
  split
  · exact offLocations_opnames.adjustLocationStock.bind fun _ => leaves_pure
  · apply Leaves.ite
    · exact offLocations_opnames.depositLocationStock.bind fun _ => leaves_pure
    · exact offLocations_opnames.consumeAvailableLocationStock

lemma completeOpnameItem_opnames : Leaves Db.opnames (completeOpnameItem opname item) := by
  refine leaves_pure.ite (adjustOpnameBatch_opnames.bind fun _ =>
    adjustOpnameLocations_opnames.bind fun _ => Leaves.bind ?_ fun inventory => ?_)
  · exact leaves_get.bind fun _ => leaves_require.bind fun _ => apart_inventory_opnames.upsert
  · intro db u db' h
    rw [← commits_modify.mp h]

/-! ### What each call does to the opnames -/

def Completed (db : Db) (id : ℕ) : Prop :=
  ∃ o ∈ db.opnames, o.id = id ∧ o.status = .completed

lemma Completed.of_eq (h : Completed db id) (ho : db'.opnames = db.opnames) : Completed db' id := by
  rw [Completed, ho]
  exact h

lemma Completed.put {o : StockOpname} (h : Completed db id) (ho : o.id ≠ id)
    (hput : db'.opnames = db.opnames.put o) : Completed db' id := by
  obtain ⟨x, hx, rfl, hstatus⟩ := h
  refine ⟨x, ?_, rfl, hstatus⟩
  rw [hput]
  exact mem_put.mpr (Or.inr ⟨hx, ho.symm⟩)

lemma createOpname_commits {l : Option ℕ} (h : Commits (createOpname w l) db () db') :
    ∃ o, db.opnames.find? o.id = none ∧ db'.opnames = db.opnames.put o := by
  simp only [createOpname, commits_bind, commits_get, commits_require, commits_create] at h
  obtain ⟨_, _, ⟨rfl, rfl⟩, _, _, ⟨_, rfl⟩, _, t₁, hprep, _, t₂, hsnap, newId, t₃, hid, _, _,
    ⟨hfree, rfl⟩, hitems⟩ := h
  have hprep := prepareWarehouse_opnames _ _ _ hprep
  have hsnap := snapshot_opnames _ _ _ hsnap
  have hid := offLocations_opnames.freshId _ _ _ hid
  have hitems := Leaves.forM (fun _ => createOpnameItem_opnames) _ _ _ hitems
  have hsame : t₃.opnames = db.opnames := hid.trans (hsnap.trans hprep)
  refine ⟨{ id := newId, warehouseId := w, locationId := l, status := .counting }, ?_, ?_⟩
  · rw [← hsame]
    exact hfree
  · rw [hitems, ← hsame]
    rfl

lemma countOpname_commits {inputs : List CountStockOpnameItem}
    (h : Commits (countOpname id inputs) db () db') : db'.opnames = db.opnames := by
  have hquiet : Leaves Db.opnames (countOpname id inputs) :=
    leaves_get.bind fun _ => leaves_orThrow.bind fun _ => leaves_require.bind fun _ =>
      Leaves.forM fun _ => countOpnameItem_opnames
  exact hquiet _ _ _ h

lemma submitOpname_commits (h : Commits (submitOpname id) db () db') : ∃ o, db.opnames.find? id = some o ∧
      db'.opnames = db.opnames.put { o with status := .waitingApproval } := by
  simp only [submitOpname, commits_steps, findOpname, commits_update] at h
  obtain ⟨_, _, _, _, _, ⟨o, ho, rfl, rfl⟩, _, rfl⟩ := h
  exact ⟨o, ho, rfl⟩

lemma completeOpname_commits (h : Commits (completeOpname id) db () db') :
    ∃ o, db.opnames.find? id = some o ∧ o.status = .waitingApproval ∧
      db'.opnames = db.opnames.put { o with status := .completed } := by
  simp only [completeOpname, commits_steps, findOpname, commits_update] at h
  obtain ⟨o, ho, hstatus, _, _, t, hitems, _, _, ⟨o', ho', rfl, rfl⟩, _, rfl⟩ := h
  have hsame := Leaves.forM (fun _ => completeOpnameItem_opnames) _ _ _ hitems
  change t.opnames.find? id = some o' at ho'
  rw [hsame, ho] at ho'
  obtain rfl := Option.some.inj ho'
  refine ⟨o, ho, hstatus, ?_⟩
  rw [← hsame]
  rfl

/-! ### Histories -/

inductive OpnameCall
  | create (warehouseId : ℕ) (locationId : Option ℕ)
  | count (id : ℕ) (inputs : List CountStockOpnameItem)
  | submit (id : ℕ)
  | complete (id : ℕ)
  deriving DecidableEq

def OpnameCall.tx : OpnameCall → StockTx Unit
  | create w l => createOpname w l
  | count id inputs => countOpname id inputs
  | submit id => submitOpname id
  | complete id => completeOpname id

def OpnameStep (db : Db) (c : OpnameCall) (db' : Db) : Prop := Commits c.tx db () db'

/-- The call does not submit an opname that has been completed. -/
def NoResubmission (db : Db) (c : OpnameCall) : Prop :=
  ∀ id, c = .submit id → ¬ Completed db id

lemma not_completed_of_find? {o : StockOpname} (ho : db.opnames.find? id = some o)
    (hstatus : o.status ≠ .completed) : ¬ Completed db id := by
  rintro ⟨x, hx, rfl, hx'⟩
  obtain rfl := mem_unique (find?_of_mem hx) ho
  exact hstatus hx'

lemma OpnameStep.complete (h : OpnameStep db (.complete id) db') : ¬ Completed db id ∧ Completed db' id := by
  obtain ⟨o, ho, hstatus, hput⟩ := completeOpname_commits h
  refine ⟨not_completed_of_find? ho (by simp [hstatus]), { o with status := .completed }, ?_, ?_⟩
  · rw [hput]
    exact mem_put_self _ _
  · exact ⟨(find?_eq_some.mp ho).2, rfl⟩

lemma OpnameStep.completed {c : OpnameCall} (hc : Completed db id) (hg : NoResubmission db c)
    (h : OpnameStep db c db') : Completed db' id := by
  cases c with
  | create w l =>
    obtain ⟨o, hfree, hput⟩ := createOpname_commits h
    refine hc.put ?_ hput
    rintro rfl
    obtain ⟨x, hx, hid, _⟩ := hc
    exact find?_eq_none.mp hfree x hx hid
  | count id' inputs => exact hc.of_eq (countOpname_commits h)
  | submit id' =>
    obtain ⟨o, ho, hput⟩ := submitOpname_commits h
    refine hc.put ?_ hput
    rintro rfl
    exact hg id' rfl ((find?_eq_some.mp ho).2 ▸ hc)
  | complete id' =>
    obtain ⟨o, ho, hstatus, hput⟩ := completeOpname_commits h
    refine hc.put ?_ hput
    rintro rfl
    obtain ⟨hnot, _⟩ := OpnameStep.complete h
    exact hnot ((find?_eq_some.mp ho).2 ▸ hc)

lemma count_complete_eq_zero {calls : List OpnameCall} (hc : Completed db id)
    (h : Run (Guarded NoResubmission OpnameStep) db calls db') :
    calls.count (.complete id) = 0 := by
  induction h with
  | nil => rfl
  | @cons s t u c calls hstep hrun ih =>
    obtain ⟨hg, hs⟩ := hstep
    have hne : c ≠ .complete id := by
      rintro rfl
      exact (OpnameStep.complete hs).1 hc
    rw [List.count_cons_of_ne hne]
    exact ih (OpnameStep.completed hc hg hs)

/-- In a history in which no completed opname is submitted again, every opname is completed at most
once. -/
theorem completedOnce_of_run {db₀ : Db} {calls : List OpnameCall}
    (h : Run (Guarded NoResubmission OpnameStep) db₀ calls db) (id : ℕ) :
    calls.count (.complete id) ≤ 1 := by
  induction h with
  | nil => exact Nat.zero_le 1
  | @cons s t u c calls hstep hrun ih =>
    by_cases hc : c = .complete id
    · subst hc
      obtain ⟨_, hdone⟩ := OpnameStep.complete hstep.2
      rw [List.count_cons_self, count_complete_eq_zero hdone hrun]
    · rw [List.count_cons_of_ne hc]
      exact ih

def tenInStock : Db :=
  { Db.empty with
    products := Table.empty.put { id := 1, name := "Beras" }
    inventory := Table.empty.put
      { warehouseId := 1, productId := 1, quantity := 10, available := 10 } }

def countTwelve : List OpnameCall :=
  [.create 1 none, .count 1 [⟨2, 12, none⟩], .submit 1, .complete 1]

def countTwelveTwice : List OpnameCall := countTwelve ++ [.submit 1, .complete 1]

/-- Submitted again, the opname is completed again and its difference of two units applied twice. -/
theorem completedTwice_afterResubmission : ∃ db, Run OpnameStep tenInStock countTwelveTwice db ∧
      countTwelveTwice.count (.complete 1) = 2 ∧
      (db.inventory.find? (1, 1)).map Inventory.quantity = some 14 := by
  have hc : Commits (countTwelveTwice.forM OpnameCall.tx) tenInStock ()
      (execute (countTwelveTwice.forM OpnameCall.tx) tenInStock).2 :=
    commits_of_execute (by decide +kernel)
  exact ⟨_, commits_forM_iff_run.mp hc, by decide +kernel, by decide +kernel⟩

def countedTwelve : Db := (execute ((countTwelve.take 2).forM OpnameCall.tx) tenInStock).2

theorem completedOnce_countTwelve : (countTwelve.drop 2).count (.complete 1) ≤ 1 := by
  have hc : Commits ((countTwelve.drop 2).forM OpnameCall.tx) countedTwelve ()
      (execute ((countTwelve.drop 2).forM OpnameCall.tx) countedTwelve).2 :=
    commits_of_execute (by decide +kernel)
  obtain ⟨t, hsubmit, hrest⟩ := Run.cons_iff.mp (commits_forM_iff_run.mp hc)
  obtain ⟨u, hcomplete, hnil⟩ := Run.cons_iff.mp hrest
  have hopen : ¬ Completed countedTwelve 1 :=
    not_completed_of_find? (o := { id := 1, warehouseId := 1, status := .counting })
      (by decide +kernel) (by decide)
  refine completedOnce_of_run (Run.cons ⟨?_, hsubmit⟩ (Run.cons ⟨?_, hcomplete⟩ (Run.nil u))) 1
  · rintro id ⟨⟩
    exact hopen
  · rintro id ⟨⟩

end Mayatoko.Stock
