import Mayatoko.Finance.Transactions

/-!
# What the calls on finance transactions do

Each committed call writes at most one transaction. A new one is not settled and has passed the
check of its type; a posted one has passed the recheck in the state it was posted in. What is settled
of a document is a sum over the transactions, which only a posting changes.
-/

namespace Mayatoko.Finance

open Core Accounting Transit Procurement FinanceDb

variable {db db' : FinanceDb} {scope : TenantScope} {id : ℕ} {t t' : FinanceTransaction}
  {dto : CreateFinanceTransaction} {tax : TaxedAmount} {u : Unit} {p : FinanceTransaction → Bool}

lemma FinanceTransaction.settles_iff {type : FinanceTransactionType} {referenceType : String} :
    t.settles type referenceType id = true ↔
      t.type = type ∧ t.referenceType = some referenceType ∧ t.referenceId = some id := by
  simp only [settles, cond_iff, and_assoc]

/-! ### Checks only look -/

lemma readOnly_findReceipt {e : Failure} : ReadOnly (findReceipt scope id e) :=
  leaves_get.bind fun _ => leaves_orThrow

lemma readOnly_findSupplier : ReadOnly (findSupplier scope id) :=
  leaves_get.bind fun _ => leaves_orThrow

variable {exclude : Option ℕ}

lemma readOnly_supplierPayableSnapshot : ReadOnly (supplierPayableSnapshot scope id exclude) := by
  refine Leaves.bind (Part.readOnly_lift (fun _ => rfl) readOnly_findReceipt) fun _ => ?_
  exact Leaves.bind leaves_require fun _ => leaves_get.bind fun _ => leaves_pure

lemma readOnly_assetPayableSnapshot : ReadOnly (assetPayableSnapshot scope id exclude) :=
  leaves_get.bind fun _ => leaves_orThrow.bind fun _ => leaves_orThrow.bind fun _ =>
    readOnly_findSupplier.bind fun _ => leaves_orThrow.bind fun _ => leaves_pure

variable {type : String}

lemma readOnly_findCreditDocument : ReadOnly (findCreditDocument scope type id) := by
  refine Leaves.ite ?_ ?_
  · exact leaves_get.bind fun _ => leaves_orThrow.bind fun _ => leaves_orThrow.bind fun _ => leaves_pure
  · exact leaves_get.bind fun _ => leaves_orThrow.bind fun _ => leaves_orThrow.bind fun _ => leaves_pure

lemma readOnly_operationalCreditPayableSnapshot :
    ReadOnly (operationalCreditPayableSnapshot scope type id exclude) :=
  readOnly_findCreditDocument.bind fun _ => readOnly_findSupplier.bind fun _ =>
    leaves_get.bind fun _ => leaves_orThrow.bind fun _ => leaves_pure

lemma readOnly_supplierPayableReferenceSnapshot :
    ReadOnly (supplierPayableReferenceSnapshot scope type id exclude) :=
  Leaves.ite readOnly_supplierPayableSnapshot (Leaves.ite readOnly_assetPayableSnapshot
    (Leaves.ite readOnly_operationalCreditPayableSnapshot leaves_throw))

lemma readOnly_supplierRefundSnapshot : ReadOnly (supplierRefundSnapshot scope id exclude) :=
  leaves_get.bind fun _ => leaves_orThrow.bind fun _ => leaves_orThrow.bind fun _ =>
    readOnly_findSupplier.bind fun _ => leaves_pure

lemma readOnly_customerReceivableSnapshot : ReadOnly (customerReceivableSnapshot scope id exclude) :=
  leaves_get.bind fun _ => leaves_orThrow.bind fun _ => leaves_orThrow.bind fun _ =>
    leaves_require.bind fun _ => leaves_pure

lemma readOnly_payrollLiabilitySnapshot {code : String} :
    ReadOnly (payrollLiabilitySnapshot scope id code exclude) :=
  Leaves.bind leaves_require fun _ => leaves_get.bind fun _ => leaves_orThrow.bind fun _ =>
    leaves_require.bind fun _ => leaves_pure

lemma readOnly_requireAsset {code message : String} :
    ReadOnly (CreateFinanceTransaction.requireAsset scope code message) :=
  leaves_get.bind fun _ => leaves_require

lemma readOnly_requireAvailable {q : Position ℚ} {positive exceeds : String} :
    ReadOnly (CreateFinanceTransaction.requireAvailable tax q positive exceeds) :=
  Leaves.bind leaves_require fun _ => leaves_require

lemma readOnly_checkNew : ReadOnly (dto.checkNew tax scope) := by
  unfold CreateFinanceTransaction.checkNew
  split
  · exact Leaves.bind leaves_require fun _ => leaves_orThrow.bind fun _ => leaves_require.bind fun _ =>
      readOnly_customerReceivableSnapshot.bind fun _ => leaves_require.bind fun _ =>
        readOnly_requireAsset.bind fun _ => readOnly_requireAvailable
  · exact leaves_orThrow.bind fun _ => leaves_orThrow.bind fun _ => leaves_require.bind fun _ =>
      leaves_require.bind fun _ => leaves_require.bind fun _ => readOnly_requireAsset.bind fun _ =>
        readOnly_supplierPayableReferenceSnapshot.bind fun _ => leaves_require.bind fun _ =>
          readOnly_requireAvailable
  · exact Leaves.bind leaves_require fun _ => leaves_orThrow.bind fun _ => leaves_require.bind fun _ =>
      leaves_require.bind fun _ => readOnly_requireAsset.bind fun _ =>
        readOnly_supplierRefundSnapshot.bind fun _ => leaves_require.bind fun _ =>
          readOnly_requireAvailable
  · exact Leaves.bind leaves_require fun _ => leaves_orThrow.bind fun _ => leaves_require.bind fun _ =>
      leaves_require.bind fun _ => readOnly_requireAsset.bind fun _ =>
        readOnly_payrollLiabilitySnapshot.bind fun _ => readOnly_requireAvailable
  · exact Leaves.bind leaves_require fun _ => leaves_get.bind fun _ => leaves_require.bind fun _ =>
      readOnly_requireAsset.bind fun _ => leaves_require
  · exact leaves_pure

lemma readOnly_customerReceivable : ReadOnly (t.customerReceivable scope) :=
  Leaves.ite (Leaves.bind leaves_require fun _ => leaves_orThrow.bind fun _ =>
    readOnly_customerReceivableSnapshot.bind fun _ => leaves_require.bind fun _ =>
      leaves_require.bind fun _ => leaves_pure) leaves_pure

lemma readOnly_recheck : ReadOnly (t.recheck scope) := by
  unfold FinanceTransaction.recheck
  split
  · exact leaves_orThrow.bind fun _ => leaves_orThrow.bind fun _ => leaves_require.bind fun _ =>
      readOnly_supplierPayableReferenceSnapshot.bind fun _ => leaves_require
  · exact Leaves.bind leaves_require fun _ => leaves_orThrow.bind fun _ =>
      readOnly_supplierRefundSnapshot.bind fun _ => leaves_require
  · exact Leaves.bind leaves_require fun _ => leaves_orThrow.bind fun _ => leaves_require.bind fun _ =>
      leaves_get.bind fun _ => leaves_require.bind fun _ =>
        readOnly_payrollLiabilitySnapshot.bind fun _ => leaves_require
  · exact leaves_get.bind fun _ => leaves_require
  · exact leaves_pure

/-! ### What a call writes -/

structure Created (scope : TenantScope) (dto : CreateFinanceTransaction) (db : FinanceDb)
    (tax : TaxedAmount) (t : FinanceTransaction) (db' : FinanceDb) : Prop where
  checked : Commits (dto.checkNew tax scope) db () db
  fresh : db.transactions.find? t.id = none
  row : ∃ id transactionDate, t = dto.row tax scope id transactionDate
  writes : db' = { db with nextId := db.nextId + 1, transactions := db.transactions.put t }

lemma create_commits (h : Commits (create scope dto) db t db') :
    db = db' ∨ ∃ tax, Created scope dto db tax t db' := by
  simp only [create, commits_steps] at h
  obtain ⟨tax, _, htax, _, h⟩ := h
  obtain rfl := ReadOnly.eq (Part.readOnly_lift (fun _ => rfl) leaves_calculateTax) htax
  cases hkey : db.transactionOfKey scope.companyId dto.idempotencyKey with
  | some existing =>
    simp only [hkey, commits_steps] at h
    obtain ⟨_, _, _, rfl⟩ := h
    exact .inl rfl
  | none =>
    simp only [hkey, insertNew, freshId, commits_steps, commits_set, TableOf.commits_create] at h
    obtain ⟨_, _, hchk, _, _, ⟨_, _, ⟨rfl, rfl⟩, _, _, rfl, rfl, rfl⟩, _, _, ⟨hnone, rfl⟩, rfl, rfl⟩ :=
      h
    obtain rfl := readOnly_checkNew.eq hchk
    exact .inr ⟨tax, hchk, hnone, ⟨_, _, rfl⟩, rfl⟩

lemma scopedTransaction_commits (h : Commits (scopedTransaction scope id) db t db') :
    db = db' ∧ t ∈ db.transactions ∧ t.id = id ∧ t.companyId = scope.companyId ∧
      t.branchId = scope.branchId := by
  simp only [scopedTransaction, commits_steps] at h
  obtain ⟨hfind, rfl⟩ := h
  obtain ⟨hfind, hscope⟩ := Option.filter_eq_some_iff.mp hfind
  simp only [cond_iff] at hscope
  obtain ⟨hmem, hid⟩ := find?_eq_some.mp hfind
  exact ⟨rfl, hmem, hid, hscope⟩

variable {source : List FinanceTransactionStatus} {target : FinanceTransactionStatus}
  {message : FinanceTransactionStatus → String}

lemma moveTo_commits
    (h : Commits (moveTo scope id source target message) db t' db') :
    ∃ t ∈ db.transactions, t.status ∈ source ∧
      db' = { db with transactions := db.transactions.put { t with status := target } } := by
  simp only [moveTo, commits_steps, TableOf.commits_update] at h
  obtain ⟨t, _, hrow, hstatus, o, ho, _, rfl⟩ := h
  obtain ⟨rfl, hmem, _⟩ := scopedTransaction_commits hrow
  obtain rfl := mem_unique ho (find?_of_mem hmem)
  exact ⟨o, hmem, hstatus, rfl⟩

def FinanceTransaction.asPosted (t : FinanceTransaction) (eventKey : ℕ × String) :
    FinanceTransaction :=
  { t with status := .posted, accountingEventId := some eventKey }

def FinanceDb.methodOf (db : FinanceDb) (orderId : ℕ) : Option String :=
  (db.paymentOf orderId).map Payment.method

structure PostedTransaction (scope : TenantScope) (db : FinanceDb) (t : FinanceTransaction)
    (db' : FinanceDb) : Prop where
  found : t ∈ db.transactions
  company : t.companyId = scope.companyId
  branch : t.branchId = scope.branchId
  status : t.status = .draft ∨ t.status = .approved
  receivable : ∃ r, Commits (t.customerReceivable scope) db r db
  rechecked : Commits (t.recheck scope) db () db
  writes : ∃ eventKey ledger payments, db' = { db with
    transactions := db.transactions.put (t.asPosted eventKey)
    procurement.ledger := ledger
    payments := payments }
  methods : db'.methodOf = db.methodOf

lemma methodOf_put {o : Payment} {status : PaymentStatus} (ho : o ∈ db.payments)
    (hwrites : db'.payments = db.payments.put { o with status }) : db'.methodOf = db.methodOf := by
  funext k
  have hmap := Table.map_findMany_put (r := { o with status }) (f := Payment.method)
    (p := fun p => decide (p.orderId = k)) ho rfl rfl rfl
  rw [methodOf, paymentOf, hwrites, ← List.head?_map, hmap, List.head?_map]
  rfl

lemma settleOrderPayment_commits {receivable : Option CustomerReceivable} {gross : ℚ}
    (h : Commits (settleOrderPayment receivable gross) db u db') :
    (∃ payments, db' = { db with payments := payments }) ∧ db'.methodOf = db.methodOf := by
  cases receivable with
  | none =>
    obtain ⟨_, rfl⟩ := commits_pure.mp h
    exact ⟨⟨db.payments, rfl⟩, rfl⟩
  | some r =>
    simp only [settleOrderPayment, commits_ite, commits_steps, TableOf.commits_update] at h
    obtain ⟨_, _, _, ⟨o, ho, _, rfl⟩, _, rfl⟩ | ⟨_, _, rfl⟩ := h
    · exact ⟨⟨_, rfl⟩, methodOf_put (find?_eq_some.mp ho).1 rfl⟩
    · exact ⟨⟨db.payments, rfl⟩, rfl⟩

lemma post_commits (h : Commits (post scope id) db t' db') :
    ∃ t, t.id = id ∧ PostedTransaction scope db t db' := by
  simp only [post, commits_steps, Part.commits_lift, TableOf.commits_update] at h
  obtain ⟨t, _, hrow, hstatus, receivable, _, hreceivable, _, _, hrecheck, event, _, ⟨ledger, _, rfl⟩, _, _,
    ⟨o, ho, _, rfl⟩, _, _, hpay, _, rfl⟩ := h
  obtain ⟨rfl, hmem, hid, hcompany, hbranch⟩ := scopedTransaction_commits hrow
  obtain rfl := readOnly_customerReceivable.eq hreceivable
  obtain rfl := readOnly_recheck.eq hrecheck
  obtain rfl := mem_unique ho (find?_of_mem hmem)
  obtain ⟨⟨payments, rfl⟩, hmethods⟩ := settleOrderPayment_commits hpay
  refine ⟨o, hid, hmem, hcompany, hbranch, by simpa using hstatus, ⟨_, hreceivable⟩, hrecheck, ?_, hmethods⟩
  exact ⟨event.key, ledger, payments, rfl⟩

/-! ### What is settled -/

def FinanceTransaction.settledAmount (t : FinanceTransaction) : ℚ :=
  if t.status.settled then t.grossAmount else 0

/-- What the transactions that meet `p` have settled. -/
def FinanceDb.settledSum (db : FinanceDb) (p : FinanceTransaction → Bool) : ℚ :=
  db.transactions.sum fun t => if p t then t.settledAmount else 0

lemma settled_position {total : ℚ} (hscope : ∀ t ∈ db.transactions, p t = true → t.status.settled = true →
      t.companyId = scope.companyId ∧ t.branchId = scope.branchId)
    (hexclude : ∀ t ∈ db.transactions, exclude = some t.id → t.status.settled = false) :
    (position total (db.settlements scope p exclude)).settled = db.settledSum p := by
  rw [position, settlements, Table.findMany, List.filter_filter]
  refine (Table.sum_findMany db.transactions _ _).trans (Table.sum_congr fun t ht => ?_)
  by_cases hp : p t = true
  · by_cases hs : t.status.settled = true
    · obtain ⟨hc, hb⟩ := hscope t ht hp hs
      have hne : t.status ≠ .cancelled := by
        intro he
        rw [he] at hs
        cases hs
      have hex : exclude.all (fun i => !decide (t.id = i)) = true := by
        rw [Option.all_eq_true]
        rintro i rfl
        by_cases hid : t.id = i
        · rw [hexclude t ht (by rw [hid])] at hs
          cases hs
        · simp [hid]
      simp [hp, hs, hc, hb, hne, hex, FinanceTransaction.settledAmount]
    · simp [hp, hs, FinanceTransaction.settledAmount]
  · simp [hp]

lemma pending_position_nonneg {total : ℚ} (h : ∀ t ∈ db.transactions, p t = true → 0 ≤ t.grossAmount) :
    0 ≤ (position total (db.settlements scope p exclude)).pending := by
  refine List.sum_nonneg fun x hx => ?_
  obtain ⟨t, ht, rfl⟩ := mem_map.mp hx
  obtain ⟨ht, hp⟩ := mem_findMany.mp (List.mem_of_mem_filter ht)
  simp only [Bool.and_eq_true] at hp
  exact h t ht hp.1.1.2

lemma settledSum_put {t r : FinanceTransaction} (ht : t ∈ db.transactions) (hid : r.id = t.id)
    (hwrites : db'.transactions = db.transactions.put r) :
    db'.settledSum p = db.settledSum p +
      ((if p r then r.settledAmount else 0) - if p t then t.settledAmount else 0) := by
  rw [settledSum, hwrites, Table.sum_put_of_mem ht hid.symm]
  rfl

lemma Created.settledSum (h : Created scope dto db tax t db') : db'.settledSum p = db.settledSum p := by
  obtain ⟨id, date, hrow⟩ := h.row
  have hzero : t.settledAmount = 0 := by
    rw [hrow, FinanceTransaction.settledAmount, CreateFinanceTransaction.row]
    dsimp only
    split <;> rfl
  rw [FinanceDb.settledSum, h.writes]
  refine (Table.sum_put_of_not_mem (find?_eq_none.mp h.fresh) _).trans ?_
  rw [hzero, ite_self, add_zero]
  rfl

/-! ### All calls -/

inductive Wrote (scope : TenantScope) (posts : Option ℕ) (db : FinanceDb) : FinanceDb → Prop
  | nothing : Wrote scope posts db db
  | created {dto : CreateFinanceTransaction} {tax : TaxedAmount} {t : FinanceTransaction}
      {db' : FinanceDb} : Created scope dto db tax t db' → Wrote scope posts db db'
  | moved {t : FinanceTransaction} {target : FinanceTransactionStatus} : t ∈ db.transactions →
      t.status.settled = false → target.settled = false →
      Wrote scope posts db
        { db with transactions := db.transactions.put { t with status := target } }
  | posted {t : FinanceTransaction} {db' : FinanceDb} : posts = some t.id →
      PostedTransaction scope db t db' → Wrote scope posts db db'

variable {posts : Option ℕ}

lemma moveTo_wrote (hsource : ∀ s ∈ source, s.settled = false)
    (htarget : target.settled = false) (h : Commits (moveTo scope id source target message) db t db') :
    Wrote scope posts db db' := by
  obtain ⟨t, ht, hstatus, rfl⟩ := moveTo_commits h
  exact .moved ht (hsource _ hstatus) htarget

lemma FinanceCall.wrote {c : FinanceCall} (h : Commits c.tx db t db') : Wrote c.scope c.posts db db' := by
  cases c with
  | create scope dto =>
    rcases create_commits h with rfl | ⟨tax, hc⟩
    · exact .nothing
    · exact .created hc
  | approve scope id =>
    rw [FinanceCall.tx, Finance.approve] at h
    exact moveTo_wrote (by decide) rfl h
  | reject scope id =>
    rw [FinanceCall.tx, Finance.reject] at h
    exact moveTo_wrote (by decide) rfl h
  | cancel scope id =>
    rw [FinanceCall.tx, Finance.cancel] at h
    exact moveTo_wrote (by decide) rfl h
  | post scope id =>
    obtain ⟨t, rfl, hp⟩ := post_commits h
    exact .posted rfl hp

namespace Wrote

lemma exists_eq (h : Wrote scope posts db db') : ∃ nextId transactions ledger payments, db' = { db with
    nextId := nextId
    transactions := transactions
    procurement.ledger := ledger
    payments := payments } := by
  cases h with
  | nothing => exact ⟨_, _, _, _, rfl⟩
  | created hc => exact ⟨_, _, _, _, hc.writes⟩
  | moved => exact ⟨_, _, _, _, rfl⟩
  | posted _ hp =>
    obtain ⟨_, _, _, hwrites⟩ := hp.writes
    exact ⟨_, _, _, _, hwrites⟩

lemma methodOf (h : Wrote scope posts db db') : db'.methodOf = db.methodOf := by
  cases h with
  | nothing => rfl
  | created hc =>
    rw [hc.writes]
    rfl
  | moved => rfl
  | posted _ hp => exact hp.methods

lemma forall_rows {P : FinanceTransaction → Prop}
    (hP : ∀ t s e, P t → P { t with status := s, accountingEventId := e })
    (hnew : ∀ dto tax t, Created scope dto db tax t db' → P t) (h : Wrote scope posts db db')
    (hdb : ∀ t ∈ db.transactions, P t) : ∀ t ∈ db'.transactions, P t := by
  intro x hx
  cases h with
  | nothing => exact hdb x hx
  | @created dto tax t _ hc =>
    rw [hc.writes] at hx
    obtain rfl | ⟨hx, _⟩ := mem_put.mp hx
    · exact hnew dto tax x hc
    · exact hdb x hx
  | @moved t target ht =>
    obtain rfl | ⟨hx, _⟩ := mem_put.mp hx
    · exact hP t target t.accountingEventId (hdb t ht)
    · exact hdb x hx
  | @posted t _ _ hp =>
    obtain ⟨key, _, _, hwrites⟩ := hp.writes
    rw [hwrites] at hx
    obtain rfl | ⟨hx, _⟩ := mem_put.mp hx
    · exact hP t .posted (some key) (hdb t hp.found)
    · exact hdb x hx

end Wrote

lemma FinanceTransactionStatus.settled_eq_false {s : FinanceTransactionStatus}
    (h : s = .draft ∨ s = .approved) : s.settled = false := by
  rcases h with rfl | rfl <;> rfl

lemma PostedTransaction.settledSum (h : PostedTransaction scope db t db')
    (hp : ∀ s e, p { t with status := s, accountingEventId := e } = p t) :
    db'.settledSum p = db.settledSum p + if p t then t.grossAmount else 0 := by
  obtain ⟨key, ledger, payments, hwrites⟩ := h.writes
  rw [settledSum_put (r := t.asPosted key) h.found rfl (by rw [hwrites])]
  have hopen := FinanceTransactionStatus.settled_eq_false h.status
  have hsame : p (t.asPosted key) = p t := hp .posted (some key)
  rw [hsame, FinanceTransaction.settledAmount, FinanceTransaction.settledAmount, hopen]
  split <;> simp [FinanceTransaction.asPosted, FinanceTransactionStatus.settled]

lemma Wrote.settledSum (h : Wrote scope posts db db')
    (hp : ∀ t s e, p { t with status := s, accountingEventId := e } = p t) :
    db'.settledSum p = db.settledSum p ∨ ∃ t, posts = some t.id ∧ PostedTransaction scope db t db' ∧
      p t = true ∧ db'.settledSum p = db.settledSum p + t.grossAmount := by
  cases h with
  | nothing => exact .inl rfl
  | created hc => exact .inl hc.settledSum
  | @moved t target ht hopen htarget =>
    have hid : ({ t with status := target } : FinanceTransaction).id = t.id := rfl
    refine .inl ((settledSum_put ht hid rfl).trans ?_)
    simp [FinanceTransaction.settledAmount, hopen, htarget]
  | @posted t _ hposts hpost =>
    have hsum := hpost.settledSum (hp t)
    by_cases hpt : p t = true
    · rw [if_pos hpt] at hsum
      exact .inr ⟨t, hposts, hpost, hpt, hsum⟩
    · rw [if_neg hpt, add_zero] at hsum
      exact .inl hsum

lemma PostedTransaction.fits (h : PostedTransaction scope db t db') {total : ℚ}
    (hscope : ∀ x ∈ db.transactions, p x = true →
      x.companyId = scope.companyId ∧ x.branchId = scope.branchId)
    (hnonneg : ∀ x ∈ db.transactions, p x = true → 0 ≤ x.grossAmount) (hpos : 0 < t.grossAmount)
    (hle : t.grossAmount ≤ (position total (db.settlements scope p (some t.id))).available) :
    t.grossAmount ≤ rest total (db.settledSum p) := by
  have hsettled : (position total (db.settlements scope p (some t.id))).settled = db.settledSum p := by
    apply settled_position
    · exact fun x hx hp _ => hscope x hx hp
    · intro x hx hid
      obtain rfl := eq_of_key_eq h.found hx (Option.some.inj hid)
      exact FinanceTransactionStatus.settled_eq_false h.status
  have hout := Position.le_outstanding hpos (pending_position_nonneg hnonneg) hle
  rwa [Position.outstanding, hsettled] at hout

end Mayatoko.Finance
