import Mayatoko.Core.Frame
import Mayatoko.Stock.LocationInventory

/-!
# What the location operations leave alone

The location operations write locations, balances, conditions, reservations and the id sequence,
and nothing else.
-/

namespace Mayatoko.Stock

open Core

variable {τ : Type} {f : Db → τ}

/-- `f` does not look at locations, balances, conditions and the id sequence. -/
structure OffBalances (f : Db → τ) : Prop where
  frame : ∀ db t n b c, f { db with
    locations := t, nextId := n, locationBalances := b, conditionBalances := c } = f db

/-- `f` does not look at what the location operations write. -/
structure OffLocations (f : Db → τ) : Prop where
  frame : ∀ db t n b c r, f { db with
    locations := t, nextId := n, locationBalances := b, conditionBalances := c,
    reservations := r } = f db

namespace OffBalances

lemma currentTime : Leaves f currentTime := leaves_get.bind fun _ => leaves_pure

variable {w : ℕ}

lemma assertLocation {id : ℕ} : Leaves f (assertLocation w id) :=
  leaves_get.bind fun _ => leaves_orThrow.bind fun _ => leaves_require.bind fun _ => leaves_pure

lemma chooseLocation {id : Option ℕ} {l : WarehouseLocation} : Leaves f (chooseLocation w id l) := by
  cases id with
  | none => exact leaves_pure
  | some id => exact assertLocation

variable (hf : OffBalances f)

include hf

lemma location : Db.warehouseLocation.Apart f := ⟨fun _ _ => hf.frame _ _ _ _ _⟩

lemma balance : Db.inventoryLocationBalance.Apart f := ⟨fun _ _ => hf.frame _ _ _ _ _⟩

lemma condition : Db.inventoryConditionBalance.Apart f := ⟨fun _ _ => hf.frame _ _ _ _ _⟩

lemma freshId : Leaves f freshId := by
  intro db id db' h
  simp only [Stock.freshId, commits_steps, commits_set] at h
  obtain ⟨_, _, rfl, rfl, rfl⟩ := h
  exact hf.frame _ _ _ _ _

lemma defaultLocation : Leaves f (defaultLocation w) := by
  refine leaves_get.bind fun db => ?_
  split
  · exact leaves_pure
  · split
    · exact hf.location.updateMany.bind fun _ => hf.location.update
    · refine hf.freshId.bind fun _ => leaves_get.bind fun _ => leaves_require.bind fun _ => ?_
      exact hf.location.create.bind fun _ => leaves_pure

variable {p : ℕ}

lemma prepareLocationInventory : Leaves f (prepareLocationInventory w p) := by
  refine leaves_get.bind fun db => Leaves.ite (hf.defaultLocation.bind fun _ => ?_) ?_
  · split
    · exact leaves_pure
    · exact hf.balance.upsert.bind fun _ => leaves_pure
  · exact leaves_require.bind fun _ => hf.defaultLocation.bind fun _ => leaves_pure

lemma prepareConditionInventory : Leaves f (prepareConditionInventory w p) := by
  refine hf.prepareLocationInventory.bind fun _ => leaves_get.bind fun _ => Leaves.ite ?_ ?_
  · exact Leaves.forM fun _ => leaves_pure.ite hf.condition.create
  · refine (Leaves.forM fun _ => ?_).bind fun _ => leaves_require
    exact leaves_require.bind fun _ => leaves_require

lemma orderedAvailableBalances : Leaves f (orderedAvailableBalances w p) :=
  hf.prepareLocationInventory.bind fun _ => hf.prepareConditionInventory.bind fun _ =>
    leaves_get.bind fun _ => leaves_pure

variable {q : ℤ}

lemma mutateLegacyReservedStock {c : Bool} : Leaves f (mutateLegacyReservedStock w p q c) := by
  refine hf.prepareLocationInventory.bind fun _ => leaves_get.bind fun _ => ?_
  refine (Leaves.allocate fun _ _ => ?_).bind fun _ => leaves_require.bind fun _ => leaves_pure
  refine leaves_get.bind fun _ => leaves_pure.ite (hf.balance.updateOne.bind fun _ => ?_)
  exact (hf.condition.updateOne.ite leaves_pure).bind fun _ => leaves_pure

lemma subtractAvailable {l : ℕ} {e : Failure} : Leaves f (subtractAvailable l p q e) :=
  currentTime.bind fun _ => hf.balance.updateOne.bind fun _ => hf.condition.updateOne

lemma addAvailable {l : ℕ} : Leaves f (addAvailable w l p q) :=
  currentTime.bind fun _ => hf.balance.upsert.bind fun _ =>
    hf.condition.upsert.bind fun _ => leaves_pure

lemma depositLocationStock {l : Option ℕ} : Leaves f (depositLocationStock w p q l) :=
  leaves_require.bind fun _ => hf.prepareLocationInventory.bind fun _ =>
    hf.prepareConditionInventory.bind fun _ => chooseLocation.bind fun _ =>
    hf.addAvailable.bind fun _ => leaves_pure

lemma consumeAvailableLocationStock : Leaves f (consumeAvailableLocationStock w p q) := by
  refine leaves_require.bind fun _ => hf.orderedAvailableBalances.bind fun _ => ?_
  refine (Leaves.allocate fun _ _ => ?_).bind fun _ => leaves_require.bind fun _ => leaves_pure
  exact hf.subtractAvailable.bind fun _ => leaves_pure

lemma adjustLocationStock {d : ℤ} {l : Option ℕ} : Leaves f (adjustLocationStock w p d l) := by
  refine leaves_pure.ite (hf.prepareLocationInventory.bind fun _ => ?_)
  refine chooseLocation.bind fun _ => ?_
  exact (hf.depositLocationStock.bind fun _ => leaves_pure).ite (hf.subtractAvailable.bind fun _ => leaves_pure)

end OffBalances

namespace OffLocations

variable (hf : OffLocations f)

include hf

lemma offBalances : OffBalances f := ⟨fun db t n b c => hf.frame db t n b c db.reservations⟩

lemma balance : Db.inventoryLocationBalance.Apart f := hf.offBalances.balance

lemma condition : Db.inventoryConditionBalance.Apart f := hf.offBalances.condition

lemma reservation : Db.inventoryReservation.Apart f := ⟨fun _ _ => hf.frame _ _ _ _ _ _⟩

lemma freshId : Leaves f freshId := hf.offBalances.freshId

variable {w p : ℕ}

lemma prepareLocationInventory : Leaves f (prepareLocationInventory w p) :=
  hf.offBalances.prepareLocationInventory

lemma prepareConditionInventory : Leaves f (prepareConditionInventory w p) :=
  hf.offBalances.prepareConditionInventory

variable {q : ℤ}

lemma mutateLegacyReservedStock {c : Bool} :
    Leaves f (mutateLegacyReservedStock w p q c) := hf.offBalances.mutateLegacyReservedStock

lemma depositLocationStock {l : Option ℕ} :
    Leaves f (depositLocationStock w p q l) := hf.offBalances.depositLocationStock

lemma consumeAvailableLocationStock :
    Leaves f (consumeAvailableLocationStock w p q) := hf.offBalances.consumeAvailableLocationStock

variable {source : StockSource}

lemma consumeLocationReservations : Leaves f (consumeLocationReservations source w p q) := by
  refine hf.prepareConditionInventory.bind fun _ => leaves_get.bind fun _ => ?_
  refine hf.mutateLegacyReservedStock.ite (leaves_require.bind fun _ => ?_)
  refine (Leaves.forM fun _ => ?_).bind fun _ => leaves_pure
  exact OffBalances.currentTime.bind fun _ => hf.balance.updateOne.bind fun _ =>
    hf.condition.updateOne.bind fun _ => hf.reservation.update.bind fun _ => leaves_pure

lemma adjustLocationStock {d : ℤ} {l : Option ℕ} :
    Leaves f (adjustLocationStock w p d l) := hf.offBalances.adjustLocationStock

end OffLocations

end Mayatoko.Stock
