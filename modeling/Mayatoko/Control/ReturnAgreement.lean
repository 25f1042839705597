import Mayatoko.Control.InspectionMoves

/-!
# The inspection of an order return

A completion checks every item of the return by the first row of its code, stores all rows, and the
confirmation of the return decides by the last one. The two agree exactly if no later row of the code differs
from the first.
-/

namespace Mayatoko.Control

open Core Procurement Finance ControlDb
open Transit (TenantScope)

/-! ### What is claimed -/

/-- The row that the confirmation uses, if the rows are stored in the order in which they were sent. -/
def lastResult (results : List InspectionResult) (item : OrderReturnItem) : Option InspectionResult :=
  (results.filter fun r => r.code = returnItemCode item).getLast?

/-- What a row says of an item of which `quantity` pieces came back: expected, accepted, rejected, damaged. -/
def InspectionResult.quantities (r : InspectionResult) (quantity : ℕ) : ℤ × ℤ × ℤ × ℤ :=
  (r.expectedQty.getD quantity, r.accepted, r.rejected, r.damaged)

def storedQuantities (r : InspectionResultItem) (quantity : ℕ) : ℤ × ℤ × ℤ × ℤ :=
  (r.expectedQty.getD quantity, r.acceptedQty.getD 0, r.rejectedQty.getD 0, r.damagedQty.getD 0)

/-- The confirmation decides an item by the quantities for which its row was validated: it does not reject the
item, and puts it back into stock only if none of it was rejected. -/
structure DecidedAsValidated (db : FinanceDb) (inspectionId : ℕ) (results : List InspectionResult)
    (item : OrderReturnItem) (used : InspectionResultItem) (validated : InspectionResult) : Prop where
  stored : db.inspectionResult inspectionId (returnItemCode item) = some used
  sent : validatedResult results item = some validated
  same : storedQuantities used item.quantity = validated.quantities item.quantity
  complete : used.expectedQty.getD item.quantity = item.quantity ∧
    used.acceptedQty.getD 0 + used.rejectedQty.getD 0 = used.expectedQty.getD item.quantity
  damaged : used.damagedQty.getD 0 ≤ used.acceptedQty.getD 0
  restocks : used.restocks item.quantity = true → validated.rejected = 0

/-- The last row of an item says the same of its quantities as the first. -/
def LastAgrees (results : List InspectionResult) (item : OrderReturnItem) : Prop :=
  (lastResult results item).map (·.quantities item.quantity) =
    (validatedResult results item).map (·.quantities item.quantity)

/-! ### The calls one after the other -/

section

variable {α : Type} {x : InspectionService α} {d d' : ControlDb} {a : α} {scope : TenantScope} {id : ℕ}
  {dto : CompleteInspection} {u : Unit}

lemma Looks.alone (hx : Looks x) (h : Alone x d a d') : d' = d := Does.alone (fun _ _ _ h => h.2) hx h

lemma transaction_alone {l : InspectionLabel} {t : ControlTx α} :
    Alone (transaction l t) d a d' ↔ Commits t d a d' := Core.alone_atomically

lemma Looks.alone_bind {β : Type} {k : α → InspectionService β} {b : β} (hx : Looks x)
    (h : Alone (x >>= k) d b d') : ∃ a, Alone x d a d ∧ Alone (k a) d b d' := by
  obtain ⟨a, t, hfirst, hrest⟩ := Core.alone_bind.mp h
  obtain rfl := hx.alone hfirst
  exact ⟨a, hfirst, hrest⟩

lemma scopedOperationalInspection_looks : Looks (scopedOperationalInspection scope id) := find_looks

lemma scoped_alone {i : OperationalInspection} (h : Alone (scopedOperationalInspection scope id) d i d) :
    d.inspections.find? id = some i := by
  obtain ⟨found, hquery, hexpect⟩ := query_looks.alone_bind h
  obtain ⟨rfl, _⟩ := alone_lookup.mp hquery
  exact (Option.filter_eq_some_iff.mp (alone_expect.mp hexpect).1).1

structure ItemValidated (results : List InspectionResult) (item : OrderReturnItem) (r : InspectionResult) :
    Prop where
  found : validatedResult results item = some r
  expected : r.expectedQty.getD item.quantity = item.quantity
  total : r.accepted + r.rejected = item.quantity
  damaged : r.damaged ≤ r.accepted

lemma checkReturnItem_alone {results : List InspectionResult} {item : OrderReturnItem}
    (h : Alone (checkReturnItem results item) d u d') : ∃ r, ItemValidated results item r := by
  obtain ⟨r, _, hfound, h⟩ := Core.alone_bind.mp h
  obtain ⟨_, _, hvalid, h⟩ := Core.alone_bind.mp h
  obtain ⟨_, _, htotal, _⟩ := Core.alone_bind.mp h
  obtain ⟨hfound, _⟩ := alone_expect.mp hfound
  obtain ⟨⟨hexpected, _⟩, _⟩ := alone_check.mp hvalid
  obtain ⟨⟨htotal, _, _, hdamaged⟩, _⟩ := alone_check.mp htotal
  exact ⟨r, hfound, hexpected, htotal, hdamaged⟩

lemma checkReturn_alone {returnId : ℕ} {results : List InspectionResult}
    (h : Alone (checkReturn scope returnId results) d u d') :
    ∃ row, d.finance.orderReturns.find? returnId = some row ∧
      ∀ item ∈ row.items, ∃ r, ItemValidated results item r := by
  obtain ⟨found, hquery, h⟩ := query_looks.alone_bind h
  obtain ⟨rfl, _⟩ := alone_lookup.mp hquery
  obtain ⟨row, _, hexpect, h⟩ := Core.alone_bind.mp h
  obtain ⟨hfound, _⟩ := alone_expect.mp hexpect
  exact ⟨row, (Option.filter_eq_some_iff.mp hfound).1,
    Alone.forM (fun _ _ _ hitem => checkReturnItem_alone hitem) h⟩

lemma completeInspection_alone (h : Alone (completeInspection scope id dto) d u d') :
    ∃ i persisted template, d.inspections.find? id = some i ∧
      (∃ v, Alone (checkSource scope i dto.results) d v d) ∧
      Commits (writeCompletion id persisted template dto) d u d' := by
  obtain ⟨i, hscoped, h⟩ := scopedOperationalInspection_looks.alone_bind h
  obtain ⟨_, _, h⟩ := Looks.alone_bind does_check h
  obtain ⟨_, _, h⟩ := enforceInspectionEvidencePolicy_looks.alone_bind h
  obtain ⟨persisted, _, h⟩ := query_looks.alone_bind h
  obtain ⟨_, _, h⟩ := checkTemplateItems_looks.alone_bind h
  obtain ⟨template, _, h⟩ := query_looks.alone_bind h
  obtain ⟨_, _, h⟩ := checkChecklist_looks.alone_bind h
  obtain ⟨v, hsource, h⟩ := checkSource_looks.alone_bind h
  exact ⟨i, persisted, template, scoped_alone hscoped, ⟨v, hsource⟩, transaction_alone.mp h⟩

lemma approveInspection_alone (h : Alone (approveInspection scope id) d u d') : d'.results = d.results := by
  obtain ⟨i, _, h⟩ := scopedOperationalInspection_looks.alone_bind h
  obtain ⟨_, _, h⟩ := Looks.alone_bind does_check h
  obtain ⟨i, _, _, rfl⟩ := writeDecision_commits (transaction_alone.mp h)
  rfl

end

/-! ### The row that is used -/

section

variable {id : ℕ} {persisted : List InspectionResultItem} {results : List InspectionResult}
  {new : List InspectionResultItem}

lemma RowsFor.filter (h : RowsFor id persisted results new) (code : String) :
    RowsFor id persisted (results.filter fun r => r.code = code) (new.filter fun row => row.code = code) := by
  induction h with
  | nil => exact .nil
  | @cons r row results new hrow _ ih =>
    obtain ⟨k, rfl⟩ := hrow
    have hsame : (r.row persisted id k).code = r.code := rfl
    rw [List.filter_cons, List.filter_cons, hsame]
    split
    · exact .cons ⟨k, rfl⟩ ih
    · exact ih

lemma RowsFor.getLast? (h : RowsFor id persisted results new) {r : InspectionResult}
    (hr : results.getLast? = some r) : ∃ k, new.getLast? = some (r.row persisted id k) := by
  induction h with
  | nil => cases hr
  | @cons r' row results new hrow hrest ih =>
    cases hrest with
    | nil =>
      obtain ⟨k, rfl⟩ := hrow
      obtain rfl := Option.some.inj hr
      exact ⟨k, rfl⟩
    | cons _ _ =>
      rw [List.getLast?_cons_cons] at hr ⊢
      exact ih hr

lemma inspectionResult_eq {db : FinanceDb} {item : OrderReturnItem} {r : InspectionResult}
    (h : RowsFor id persisted results new)
    (hrows : (db.inspectionResults.findMany fun row => row.inspectionId = id) = new)
    (hr : lastResult results item = some r) :
    ∃ k, db.inspectionResult id (returnItemCode item) = some (r.row persisted id k) := by
  obtain ⟨k, hk⟩ := (h.filter (returnItemCode item)).getLast? hr
  refine ⟨k, ?_⟩
  rw [FinanceDb.inspectionResult, ← hk, ← hrows]
  unfold Table.findMany
  rw [List.filter_filter]
  simp only [Bool.and_comm]

end

section

variable {d d₁ d₂ : ControlDb} {scope : TenantScope} {id : ℕ} {dto : CompleteInspection} {u v : Unit}
  {row : OrderReturn}

variable {item : OrderReturnItem} {r : InspectionResult}

lemma exists_lastResult {results : List InspectionResult}
    (h : validatedResult results item = some r) : ∃ last, lastResult results item = some last := by
  unfold validatedResult at h
  have hcode : r.code = returnItemCode item := by simpa using List.find?_some h
  have hmem : r ∈ results.filter fun r => r.code = returnItemCode item :=
    mem_filter.mpr ⟨List.mem_of_find?_eq_some h, decide_eq_true hcode⟩
  exact Option.isSome_iff_exists.mp (List.getLast?_isSome.mpr (List.ne_nil_of_mem hmem))

lemma decidedAsValidated_of_same {db : FinanceDb} {used : InspectionResultItem}
    {results : List InspectionResult}
    (hstored : db.inspectionResult id (returnItemCode item) = some used) (hr : ItemValidated results item r)
    (hsame : storedQuantities used item.quantity = r.quantities item.quantity) :
    DecidedAsValidated db id results item used r := by
  obtain ⟨hexpected, haccepted, hrejected, hdamaged⟩ :
      used.expectedQty.getD item.quantity = r.expectedQty.getD item.quantity ∧
        used.acceptedQty.getD 0 = r.accepted ∧ used.rejectedQty.getD 0 = r.rejected ∧
          used.damagedQty.getD 0 = r.damaged := by
    simpa only [storedQuantities, InspectionResult.quantities, Prod.mk.injEq] using hsame
  refine ⟨hstored, hr.found, hsame, ⟨?_, ?_⟩, ?_, fun hrestocks => ?_⟩
  · rw [hexpected, hr.expected]
  · rw [haccepted, hrejected, hexpected, hr.total, hr.expected]
  · rw [haccepted, hdamaged]
    exact hr.damaged
  · simp only [InspectionResultItem.restocks, cond_iff] at hrestocks
    rw [← hrejected]
    exact hrestocks.1.1.2

/-- Let the inspection of an order return be completed and then approved. The confirmation decides every item of
the return from exactly the quantities that were validated for it if and only if, for every item, the last row
of its code says the same of them as the first. -/
theorem decided_as_validated_iff {i : OperationalInspection} (hreturn : row ∈ d.finance.orderReturns)
    (hi : d.inspections.find? id = some i) (htype : i.sourceType = "OrderReturn") (hsource : i.sourceId = row.id)
    (hcomplete : Alone (completeInspection scope id dto) d u d₁)
    (happrove : Alone (approveInspection scope id) d₁ v d₂) :
    (∀ item ∈ row.items, ∃ used validated,
        DecidedAsValidated d₂.finance id dto.results item used validated) ↔
      ∀ item ∈ row.items, LastAgrees dto.results item := by
  obtain ⟨j, persisted, template, hj, ⟨w, hcheck⟩, hwrite⟩ := completeInspection_alone hcomplete
  obtain rfl := mem_unique hi hj
  rw [checkSource, if_neg (by rw [htype]; decide), if_pos htype, hsource] at hcheck
  obtain ⟨row', hrow', hvalid⟩ := checkReturn_alone hcheck
  obtain rfl := mem_unique (find?_of_mem hreturn) hrow'
  obtain ⟨_, _, hid, n, t, new, hnew, hrows, rfl⟩ := writeCompletion_commits hwrite
  have hstored : (d₂.finance.inspectionResults.findMany fun r => r.inspectionId = id) = new := by
    have hresults : d₂.finance.inspectionResults = t := approveInspection_alone happrove
    rw [hresults, hnew.findMany hrows, if_pos rfl]
  refine forall₂_congr fun item hitem => ?_
  obtain ⟨r, hr⟩ := hvalid item hitem
  obtain ⟨last, hlast⟩ := exists_lastResult hr.found
  obtain ⟨k, hused⟩ := inspectionResult_eq hnew hstored hlast
  rw [LastAgrees, hlast, hr.found, Option.map_some, Option.map_some, Option.some.injEq]
  constructor
  · rintro ⟨used, validated, h⟩
    obtain rfl := mem_unique hused h.stored
    obtain rfl := mem_unique hr.found h.sent
    exact h.same
  · exact fun hsame => ⟨_, r, decidedAsValidated_of_same hused hr hsame⟩

end

/-! Two pieces come back. -/

def backItem : OrderReturnItem where
  id := 1
  orderItemId := 1
  productId := 7
  quantity := 2
  netAmount := 20
  taxAmount := 0
  grossAmount := 20

def twoBack : OrderReturn where
  id := 1
  companyId := 1
  branchId := 1
  orderId := 1
  warehouseId := 1
  status := .inspection
  inspectionId := some 1
  items := [backItem]

def returnInspection : OperationalInspection where
  id := 1
  companyId := 1
  branchId := some 1
  sourceType := "OrderReturn"
  sourceId := 1
  status := .inProgress

def returning : ControlDb :=
  { ControlDb.empty with
    finance :=
      { FinanceDb.empty with
        procurement := { FinanceDb.empty.procurement with inspections := Table.empty.put returnInspection }
        orderReturns := Table.empty.put twoBack } }

def pieces (accepted rejected : ℤ) : InspectionResult where
  code := "ORDER_RETURN_ITEM:1"
  result := .pass
  expectedQty := some 2
  acceptedQty := some accepted
  rejectedQty := some rejected

def leaves {α : Type} (x : InspectionService α) (d : ControlDb) : ControlDb := (x.run.solo d).2

lemma alone_leaves {x : InspectionService Unit} {d : ControlDb} (h : (x.run.solo d).1.isOk = true) :
    Alone x d () (leaves x d) := by
  unfold Alone leaves
  cases hx : x.run.solo d with
  | mk r d' =>
    rw [hx] at h
    cases r with
    | ok u => rfl
    | error e => cases h

def completed (results : List InspectionResult) : ControlDb :=
  leaves (completeInspection ⟨1, 1⟩ 1 { results }) returning

def approvedAfter (results : List InspectionResult) : ControlDb :=
  leaves (approveInspection ⟨1, 1⟩ 1) (completed results)

theorem decided_as_validated_pieces :
    (approvedAfter [pieces 2 0]).inspections.rows.map OperationalInspection.status = [.approved] ∧
      (∀ item ∈ twoBack.items, LastAgrees [pieces 2 0] item) ∧
      ∀ item ∈ twoBack.items, ∃ used validated,
        DecidedAsValidated (approvedAfter [pieces 2 0]).finance 1 [pieces 2 0] item used validated := by
  have hcomplete : Alone (completeInspection ⟨1, 1⟩ 1 { results := [pieces 2 0] }) returning ()
      (completed [pieces 2 0]) := alone_leaves (by decide +kernel)
  have happrove : Alone (approveInspection ⟨1, 1⟩ 1) (completed [pieces 2 0]) ()
      (approvedAfter [pieces 2 0]) := alone_leaves (by decide +kernel)
  have hreturn : twoBack ∈ returning.finance.orderReturns := mem_put_self _ _
  have hagrees : ∀ item ∈ twoBack.items, LastAgrees [pieces 2 0] item := by
    intro item hitem
    obtain rfl := mem_singleton.mp hitem
    unfold LastAgrees
    decide +kernel
  refine ⟨by decide +kernel, hagrees, ?_⟩
  exact (decided_as_validated_iff hreturn (i := returnInspection) rfl rfl rfl hcomplete happrove).mpr hagrees

/-- A first row rejects both pieces, and a second one of the same code accepts them: the inspection is approved,
and the pieces go back into stock. -/
theorem rejected_pieces_restocked :
    (approvedAfter [pieces 0 2, pieces 2 0]).inspections.rows.map OperationalInspection.status = [.approved] ∧
      restocked (approvedAfter [pieces 0 2, pieces 2 0]).finance 1 backItem = true ∧
      validatedResult [pieces 0 2, pieces 2 0] backItem = some (pieces 0 2) ∧
      ¬ ∃ used validated, DecidedAsValidated (approvedAfter [pieces 0 2, pieces 2 0]).finance 1
        [pieces 0 2, pieces 2 0] backItem used validated := by
  have hrestocked : restocked (approvedAfter [pieces 0 2, pieces 2 0]).finance 1 backItem = true := by
    decide +kernel
  have hfirst : validatedResult [pieces 0 2, pieces 2 0] backItem = some (pieces 0 2) := by decide +kernel
  refine ⟨by decide +kernel, hrestocked, hfirst, ?_⟩
  rintro ⟨used, validated, h⟩
  obtain rfl := mem_unique hfirst h.sent
  have hused : (approvedAfter [pieces 0 2, pieces 2 0]).finance.inspectionResult 1 "ORDER_RETURN_ITEM:1" =
      some used := h.stored
  have hcode : s!"ORDER_RETURN_ITEM:{backItem.id}" = "ORDER_RETURN_ITEM:1" := by decide +kernel
  rw [restocked, hcode, hused, Option.any_some] at hrestocked
  have hzero : (pieces 0 2).rejected = 0 := h.restocks hrestocked
  cases hzero

end Mayatoko.Control
