import Mayatoko.Returns.SaleReturn

/-!
# Sale returns stay within the sale

The cumulative check of `createSaleReturn` is made on the returns read at the start of the call.
No more is ever returned than was sold exactly if it would also pass on the returns that are there
when the call writes; it does when no other return of the sale was written in between.
-/

namespace Mayatoko.Returns

open Core

variable {db db' : ReturnsDb} {s s' : ReturnSystem} {p : PendingReturn}

def WithinSold (s : ReturnSystem) : Prop :=
  ∀ sale ∈ s.db.sales, ∀ item ∈ sale.items,
    alreadyReturned (s.db.previousReturns sale.id) item.id ≤ item.quantity

def ReturnStepOf (s : ReturnSystem) (e : ReturnEvent) (s' : ReturnSystem) : Prop := s' = s.step e

def StillReturnable (s : ReturnSystem) (e : ReturnEvent) : Prop :=
  ∀ client p, e = .write client → s.pending client = some p →
    checkReturnable p.sale (s.db.previousReturns p.sale.id) p.dto.items = .ok ()

structure ReturnSystem.Valid (s : ReturnSystem) : Prop where
  fresh : ∀ r ∈ s.db.saleReturns, r.id < s.db.nextId
  sale : ∀ client p, s.pending client = some p → p.sale ∈ s.db.sales
  checked : ∀ client p, s.pending client = some p →
    checkReturnable p.sale p.previousReturns p.dto.items = .ok ()
  rows : ∀ client p, s.pending client = some p →
    returnRows p.sale (saleAllocation p.previousReturns) p.dto.items = .ok p.rows

variable {items : List ReturnInput}

lemma checkReturnable_eq_ok {sale : Sale} {previous : List SaleReturn} :
    checkReturnable sale previous items = .ok () ↔
      ∀ input ∈ items, ∃ original, sale.items.find? input.saleItemId = some original ∧
        0 < requestedNow items input.saleItemId ∧
        alreadyReturned previous input.saleItemId + requestedNow items input.saleItemId ≤
          original.quantity := by
  rw [checkReturnable, forM_eq_ok]
  refine forall₂_congr fun input _ => ?_
  unfold checkRequested
  cases sale.items.find? input.saleItemId with
  | none => simp
  | some original =>
    simp only [ite_eq_ok, throw_ne_ok, and_false, pure_eq_ok, false_or, and_true, not_or, not_le,
      not_lt, Option.some.injEq, exists_eq_left']

lemma itemQuantity_returnRows {sale : Sale} {allocation : ℕ → HistoricalReturnState}
    {rows : List SaleReturnItem}
    (h : returnRows sale allocation items = .ok rows) (saleItemId : ℕ) :
    itemQuantity saleItemId rows = requestedNow items saleItemId := by
  induction items generalizing allocation rows with
  | nil =>
    obtain rfl := pure_eq_ok.mp h
    rfl
  | cons input rest ih =>
    rw [returnRows] at h
    cases hfind : sale.items.find? input.saleItemId with
    | none => simp [hfind] at h
    | some original =>
      obtain ⟨_, hid⟩ := find?_eq_some.mp hfind
      simp only [hfind, ite_eq_ok, throw_ne_ok, and_false, false_or, bind_eq_ok, pure_eq_ok] at h
      obtain ⟨_, ⟨a, taken⟩, _, tail, htail, rfl⟩ := h
      have htail := ih htail
      simp only [itemQuantity, requestedNow, map_cons, sum_cons, Option.some.injEq, hid] at htail ⊢
      rw [htail]

lemma requestedNow_eq_zero {saleItemId : ℕ}
    (h : ∀ input ∈ items, input.saleItemId ≠ saleItemId) : requestedNow items saleItemId = 0 := by
  induction items with
  | nil => rfl
  | cons input rest ih =>
    rw [forall_mem_cons] at h
    have hrest := ih h.2
    simp only [requestedNow, map_cons, sum_cons, if_neg h.1, zero_add] at hrest ⊢
    exact hrest

lemma alreadyReturned_eq_sum (db : ReturnsDb) (saleId saleItemId : ℕ) :
    alreadyReturned (db.previousReturns saleId) saleItemId = db.saleReturns.sum fun r =>
      if r.saleId = saleId && r.status.counted then itemQuantity saleItemId r.items else 0 :=
  Table.sum_findMany db.saleReturns _ _

/-! ### The statements -/

def PendingReturn.row (p : PendingReturn) (id : ℕ) : SaleReturn where
  id := id
  saleId := p.sale.id
  warehouseId := p.dto.warehouseId
  status := .requested
  refundAmount := (p.rows.map SaleReturnItem.grossAmount).sum
  items := p.rows

lemma execute_writeSaleReturn (hfresh : ∀ r ∈ db.saleReturns, r.id < db.nextId) :
    (execute (writeSaleReturn p) db).2 =
      { db with nextId := db.nextId + 1, saleReturns := db.saleReturns.put (p.row db.nextId) } := by
  have hfree : db.saleReturns.find? db.nextId = none := by
    rw [find?_eq_none]
    intro r hr hid
    exact absurd (hfresh r hr) (by omega)
  have hc : Commits (writeSaleReturn p) db () { db with
      nextId := db.nextId + 1, saleReturns := db.saleReturns.put (p.row db.nextId) } := by
    simp only [writeSaleReturn, commits_bind, commits_get, commits_set]
    exact ⟨db, db, ⟨rfl, rfl⟩, (), _, rfl, TableOf.commits_create.mpr ⟨hfree, rfl⟩⟩
  rw [execute_of_commits hc]

lemma alreadyReturned_write (hfresh : ∀ r ∈ db.saleReturns, r.id < db.nextId) (saleId saleItemId : ℕ) :
    alreadyReturned ((execute (writeSaleReturn p) db).2.previousReturns saleId) saleItemId =
      alreadyReturned (db.previousReturns saleId) saleItemId +
        if p.sale.id = saleId then itemQuantity saleItemId p.rows else 0 := by
  have hnew : ∀ r ∈ db.saleReturns, r.id ≠ db.nextId := by
    intro r hr hid
    exact absurd (hfresh r hr) (by omega)
  rw [execute_writeSaleReturn hfresh, alreadyReturned_eq_sum, alreadyReturned_eq_sum]
  change (db.saleReturns.put (p.row db.nextId)).sum _ = _
  rw [Table.sum_put_of_not_mem hnew]
  by_cases hs : p.sale.id = saleId <;> simp [PendingReturn.row, hs]

lemma confirmSaleReturn_cases (id : ℕ) (db : ReturnsDb) : (execute (confirmSaleReturn id) db).2 = db ∨
      ∃ r ∈ db.saleReturns, r.status.counted = true ∧ (execute (confirmSaleReturn id) db).2 =
        { db with saleReturns := db.saleReturns.put { r with status := .completed } } := by
  rcases execute_cases (confirmSaleReturn id) db with ⟨u, _, hc⟩ | ⟨e, _, hs⟩
  · right
    simp only [confirmSaleReturn, commits_steps, TableOf.commits_update] at hc
    obtain ⟨r, hr, hstatus, _, _, ⟨r', hr', rfl, rfl⟩, _, hdb⟩ := hc
    obtain rfl := mem_unique hr hr'
    refine ⟨r, (find?_eq_some.mp hr).1, ?_, hdb.symm⟩
    rcases hstatus with hstatus | hstatus <;> rw [hstatus] <;> rfl
  · exact .inl hs

lemma alreadyReturned_confirm (id saleId saleItemId : ℕ) :
    alreadyReturned ((execute (confirmSaleReturn id) db).2.previousReturns saleId) saleItemId =
      alreadyReturned (db.previousReturns saleId) saleItemId := by
  rcases confirmSaleReturn_cases id db with hdb | ⟨r, hr, hcounted, hdb⟩
  · rw [hdb]
  · rw [hdb, alreadyReturned_eq_sum, alreadyReturned_eq_sum]
    change (db.saleReturns.put { r with status := .completed }).sum _ = _
    rw [Table.sum_put_of_mem hr (by rfl)]
    simp [hcounted]

/-! ### One step -/

lemma readSaleReturn_ok {dto : CreateSaleReturn} (h : readSaleReturn db dto = .ok p) :
    p.sale ∈ db.sales ∧ p.previousReturns = db.previousReturns p.sale.id ∧
      checkReturnable p.sale p.previousReturns p.dto.items = .ok () ∧
      returnRows p.sale (saleAllocation p.previousReturns) p.dto.items = .ok p.rows := by
  unfold readSaleReturn at h
  cases hsale : db.sales.find? dto.saleId with
  | none => simp [hsale] at h
  | some sale =>
    simp only [hsale, ite_eq_ok, throw_ne_ok, and_false, false_or, bind_eq_ok, pure_eq_ok] at h
    obtain ⟨_, _, _, hcheck, rows, hrows, rfl⟩ := h
    exact ⟨(find?_eq_some.mp hsale).1, rfl, hcheck, hrows⟩

lemma step_db (hfresh : ∀ r ∈ s.db.saleReturns, r.id < s.db.nextId) (e : ReturnEvent) :
    (∀ r ∈ (s.step e).db.saleReturns, r.id < (s.step e).db.nextId) ∧
      (s.step e).db.sales = s.db.sales := by
  cases e with
  | read client dto => exact ⟨hfresh, rfl⟩
  | write client =>
    cases hp : s.pending client with
    | none =>
      rw [ReturnSystem.step_write_of_none hp]
      exact ⟨hfresh, rfl⟩
    | some p =>
      rw [ReturnSystem.step_write_of_some hp, execute_writeSaleReturn hfresh]
      refine ⟨fun r hr => ?_, rfl⟩
      rcases mem_put.mp hr with rfl | ⟨hr, _⟩
      · exact Nat.lt_succ_self _
      · exact (hfresh r hr).trans (Nat.lt_succ_self _)
  | confirm id =>
    have hstep : (s.step (.confirm id)).db = (execute (confirmSaleReturn id) s.db).2 := rfl
    rw [hstep]
    rcases confirmSaleReturn_cases id s.db with hdb | ⟨o, ho, _, hdb⟩
    · rw [hdb]
      exact ⟨hfresh, rfl⟩
    · rw [hdb]
      refine ⟨fun r hr => ?_, rfl⟩
      rcases mem_put.mp hr with rfl | ⟨hr, _⟩
      · exact hfresh o ho
      · exact hfresh r hr

variable {client : ℕ}

lemma pending_step {e : ReturnEvent} (h : (s.step e).pending client = some p) :
    s.pending client = some p ∨ ∃ dto, readSaleReturn s.db dto = .ok p := by
  cases e with
  | read c dto =>
    simp only [ReturnSystem.step, Function.update_apply] at h
    split at h
    · right
      refine ⟨dto, ?_⟩
      cases hr : readSaleReturn s.db dto with
      | error e => simp [hr, Except.toOption] at h
      | ok q =>
        rw [hr] at h
        rw [Option.some.inj h]
    · exact .inl h
  | write c =>
    cases hp : s.pending c with
    | none =>
      rw [ReturnSystem.step_write_of_none hp] at h
      exact .inl h
    | some q =>
      rw [ReturnSystem.step_write_of_some hp] at h
      simp only [Function.update_apply] at h
      split at h
      · cases h
      · exact .inl h
  | confirm id => exact .inl h

lemma ReturnSystem.Valid.step (h : s.Valid) (e : ReturnEvent) : (s.step e).Valid := by
  obtain ⟨hfresh, hsales⟩ := step_db h.fresh e
  refine ⟨hfresh, ?_, ?_, ?_⟩
  · intro client p hp
    rw [hsales]
    rcases pending_step hp with hp | ⟨dto, hread⟩
    · exact h.sale client p hp
    · exact (readSaleReturn_ok hread).1
  · intro client p hp
    rcases pending_step hp with hp | ⟨dto, hread⟩
    · exact h.checked client p hp
    · exact (readSaleReturn_ok hread).2.2.1
  · intro client p hp
    rcases pending_step hp with hp | ⟨dto, hread⟩
    · exact h.rows client p hp
    · exact (readSaleReturn_ok hread).2.2.2

/-- An insert keeps the returns within the sales exactly if it still passes the cumulative check. -/
lemma withinSold_write_iff (hv : s.Valid) (hw : WithinSold s) (hp : s.pending client = some p) :
    WithinSold (s.step (.write client)) ↔
      checkReturnable p.sale (s.db.previousReturns p.sale.id) p.dto.items = .ok () := by
  have hsale := hv.sale client p hp
  have hrows := itemQuantity_returnRows (hv.rows client p hp)
  have hchecked := checkReturnable_eq_ok.mp (hv.checked client p hp)
  have hsales : (s.step (.write client)).db.sales = s.db.sales := (step_db hv.fresh _).2
  have hdb : (s.step (.write client)).db = (execute (writeSaleReturn p) s.db).2 := by
    rw [ReturnSystem.step_write_of_some hp]
  rw [checkReturnable_eq_ok]
  constructor
  · intro hw' input hinput
    obtain ⟨original, hfind, hpos, _⟩ := hchecked input hinput
    obtain ⟨hitem, hid⟩ := find?_eq_some.mp hfind
    refine ⟨original, hfind, hpos, ?_⟩
    have hle := hw' p.sale (hsales ▸ hsale) original hitem
    rw [hdb, alreadyReturned_write hv.fresh, if_pos rfl, hrows, hid] at hle
    exact hle
  · intro hcheck sale hmem item hitem
    rw [hsales] at hmem
    rw [hdb, alreadyReturned_write hv.fresh]
    have hbefore := hw sale hmem item hitem
    split
    next hid =>
      obtain rfl := eq_of_key_eq hsale hmem hid
      rw [hrows]
      by_cases hreq : ∃ input ∈ p.dto.items, input.saleItemId = item.id
      · obtain ⟨input, hinput, hi⟩ := hreq
        obtain ⟨original, hfind, _, hle⟩ := hcheck input hinput
        rw [hi, find?_of_mem hitem] at hfind
        obtain rfl := Option.some.inj hfind
        rwa [hi] at hle
      · push Not at hreq
        rw [requestedNow_eq_zero hreq, add_zero]
        exact hbefore
    next => rwa [add_zero]

lemma withinSold_confirm (hv : s.Valid) (hw : WithinSold s) (id : ℕ) : WithinSold (s.step (.confirm id)) := by
  intro sale hsale item hitem
  rw [(step_db hv.fresh _).2] at hsale
  change alreadyReturned ((execute (confirmSaleReturn id) s.db).2.previousReturns _) _ ≤ _
  rw [alreadyReturned_confirm]
  exact hw sale hsale item hitem

lemma withinSold_step_iff {e : ReturnEvent} (hv : s.Valid) (hw : WithinSold s) :
    WithinSold (s.step e) ↔ StillReturnable s e := by
  cases e with
  | read client dto =>
    refine iff_of_true hw ?_
    rintro c p ⟨⟩
  | write client =>
    cases hp : s.pending client with
    | none =>
      refine iff_of_true ?_ ?_
      · rw [ReturnSystem.step_write_of_none hp]
        exact hw
      · rintro c p ⟨⟩ hp'
        rw [hp] at hp'
        cases hp'
    | some p =>
      rw [withinSold_write_iff hv hw hp]
      constructor
      · rintro hcheck c q ⟨⟩ hq
        obtain rfl := mem_unique hp hq
        exact hcheck
      · intro hstill
        exact hstill client p rfl hp
  | confirm id =>
    refine iff_of_true (withinSold_confirm hv hw id) ?_
    rintro c p ⟨⟩

/-! ### Interleavings -/

/-- Whatever the order of the clients' steps, the returns stay within the sales exactly if every call
still passes the cumulative check when it writes. -/
theorem withinSold_iff {events : List ReturnEvent} (hv : s.Valid) (hw : WithinSold s) :
    Run (Landing WithinSold ReturnStepOf) s events s' ↔
      Run (Guarded StillReturnable ReturnStepOf) s events s' := by
  refine Run.landing_iff_guarded_of_invariant (J := ReturnSystem.Valid) ?_ ?_ hv hw
  · rintro t e _ ht rfl
    exact ht.step e
  · rintro t e _ ht hwt rfl
    exact withinSold_step_iff ht hwt

lemma stillReturnable_of_unchanged (hv : s.Valid) (hp : s.pending client = some p)
    (hsame : s.db.previousReturns p.sale.id = p.previousReturns) :
    StillReturnable s (.write client) := by
  rintro c q ⟨⟩ hq
  obtain rfl := mem_unique hp hq
  rw [hsame]
  exact hv.checked client p hp

lemma stillReturnable_after_read (hv : s.Valid) (client : ℕ) (dto : CreateSaleReturn) :
    StillReturnable (s.step (.read client dto)) (.write client) := by
  rintro c p ⟨⟩ hp
  refine stillReturnable_of_unchanged (hv.step _) hp ?_ client p rfl hp
  cases hread : readSaleReturn s.db dto with
  | error e => simp [ReturnSystem.step, hread, Except.toOption] at hp
  | ok q =>
    simp only [ReturnSystem.step, hread, Except.toOption, Function.update_self, Option.some.injEq] at hp
    subst hp
    exact (readSaleReturn_ok hread).2.1.symm

def startSystem (sales : Table Sale.id) : ReturnSystem where
  db := { nextId := 1, sales, saleReturns := .empty }
  pending := fun _ => none

lemma startSystem_valid (sales : Table Sale.id) : (startSystem sales).Valid := by
  refine ⟨?_, ?_, ?_, ?_⟩
  · intro r hr
    exact absurd hr (not_mem_empty r)
  all_goals
    intro client p hp
    cases hp

def soldUnit : SaleItem where
  id := 1
  productId := 1
  quantity := 1
  netSubtotal := 10
  taxAmount := 0
  grossSubtotal := 10

def oneSold : Table Sale.id := Table.empty.put ⟨1, 1, Table.empty.put soldUnit⟩

lemma startSystem_withinSold : WithinSold (startSystem oneSold) := by
  intro sale hsale item hitem
  rcases mem_put.mp hsale with rfl | ⟨hsale, _⟩
  · rcases mem_put.mp hitem with rfl | ⟨hitem, _⟩
    · decide
    · exact absurd hitem (not_mem_empty item)
  · exact absurd hsale (not_mem_empty sale)

def returnOne : CreateSaleReturn := ⟨1, 1, [⟨1, 1, none, none⟩]⟩

def bothRead : List ReturnEvent :=
  [.read 1 returnOne, .read 2 returnOne, .write 1, .write 2, .confirm 1, .confirm 2]

lemma run_foldl (s : ReturnSystem) (events : List ReturnEvent) :
    Run ReturnStepOf s events (events.foldl ReturnSystem.step s) := by
  induction events generalizing s with
  | nil => exact Run.nil s
  | cons e events ih => exact Run.cons rfl (ih _)

lemma sales_foldl (hv : s.Valid) (events : List ReturnEvent) :
    (events.foldl ReturnSystem.step s).db.sales = s.db.sales := by
  induction events generalizing s with
  | nil => rfl
  | cons e events ih => exact (ih (hv.step e)).trans (step_db hv.fresh e).2

theorem bothRead_exceeds : (startSystem oneSold).Valid ∧ WithinSold (startSystem oneSold) ∧
      Run ReturnStepOf (startSystem oneSold) bothRead
        (bothRead.foldl ReturnSystem.step (startSystem oneSold)) ∧
      ¬ WithinSold (bothRead.foldl ReturnSystem.step (startSystem oneSold)) := by
  refine ⟨startSystem_valid _, startSystem_withinSold, run_foldl _ _, fun h => ?_⟩
  have htwo : alreadyReturned
      ((bothRead.foldl ReturnSystem.step (startSystem oneSold)).db.previousReturns 1) 1 = 2 := by
    decide +kernel
  have hsale : (⟨1, 1, Table.empty.put soldUnit⟩ : Sale) ∈
      (bothRead.foldl ReturnSystem.step (startSystem oneSold)).db.sales := by
    rw [sales_foldl (startSystem_valid _)]
    exact mem_put_self _ _
  have hle := h _ hsale soldUnit (mem_put_self _ _)
  exact absurd (htwo.symm.trans_le hle) (by decide)

theorem withinSold_oneByOne : Run (Landing WithinSold ReturnStepOf) (startSystem oneSold)
      [.read 1 returnOne, .write 1, .confirm 1]
      ([.read 1 returnOne, .write 1, .confirm 1].foldl ReturnSystem.step (startSystem oneSold)) := by
  have hv := startSystem_valid oneSold
  refine (withinSold_iff hv startSystem_withinSold).mpr (Run.cons ⟨?_, rfl⟩
    (Run.cons ⟨stillReturnable_after_read hv 1 returnOne, rfl⟩ (Run.cons ⟨?_, rfl⟩ (Run.nil _))))
  · rintro c p ⟨⟩
  · rintro c p ⟨⟩

end Mayatoko.Returns
