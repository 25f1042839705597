import Mathlib.Algebra.Order.BigOperators.Group.List
import Mayatoko.Loyalty.Ledger

/-!
# What returns take back

A return of a sale or an order takes points back by the rate of the program that is active when it is
confirmed. A return of an order takes at most what is left of the points that the order has earned, but
subtracts only what was taken from the same account; a return of a sale does not look up what the sale has
earned. Confirmed returns take back at most what was earned exactly if every one of them stays within what
is left.
-/

namespace Mayatoko.Loyalty

open Core TableOf LoyaltyDb

variable {db db' : LoyaltyDb} {companyId : ℕ} {t : LoyaltyTransaction} {ts new : List LoyaltyTransaction}
  {p : LoyaltyTransaction → Bool}

/-! ### Points earned and points taken back -/

def LoyaltyTransaction.isOf (t : LoyaltyTransaction) (type : LoyaltyTransactionType)
    (referenceType : String) : Bool :=
  t.type = type && t.referenceType = referenceType

def ofSale (r : Records) (saleId : ℕ) (t : LoyaltyTransaction) : Bool :=
  t.isOf .refund "SaleReturn" && (r.saleReturns.find? t.referenceId).any fun x => x.saleId = some saleId

def ofOrder (r : Records) (orderId : ℕ) (t : LoyaltyTransaction) : Bool :=
  t.isOf .refund "OrderReturn" && (r.orderReturns.find? t.referenceId).any fun x => x.orderId = orderId

def earns (referenceType : String) (id : ℕ) (t : LoyaltyTransaction) : Bool :=
  t.isOf .earn referenceType && t.referenceId = id

def pointsWhere (p : LoyaltyTransaction → Bool) (ts : List LoyaltyTransaction) : ℤ :=
  ((ts.filter p).map LoyaltyTransaction.points).sum

def earnedOf (db : LoyaltyDb) (referenceType : String) (id : ℕ) : ℤ :=
  pointsWhere (earns referenceType id) db.transactions

def revokedOfSale (db : LoyaltyDb) (saleId : ℕ) : ℤ := -pointsWhere (ofSale db.records saleId) db.transactions

def revokedOfOrder (db : LoyaltyDb) (orderId : ℕ) : ℤ :=
  -pointsWhere (ofOrder db.records orderId) db.transactions

structure WithinEarned (db : LoyaltyDb) : Prop where
  sale : ∀ saleId, revokedOfSale db saleId ≤ earnedOf db "Sale" saleId
  order : ∀ orderId, revokedOfOrder db orderId ≤ earnedOf db "Order" orderId

def leftOfSale (db : LoyaltyDb) (saleId : ℕ) : ℤ := earnedOf db "Sale" saleId - revokedOfSale db saleId

def leftOfOrder (db : LoyaltyDb) (orderId : ℕ) : ℤ := earnedOf db "Order" orderId - revokedOfOrder db orderId

def revokedElsewhere (db : LoyaltyDb) (accountId : AccountKey) (orderId : ℕ) : ℤ :=
  -pointsWhere (fun t => ofOrder db.records orderId t && t.accountId ≠ accountId) db.transactions

@[simp] lemma pointsWhere_nil : pointsWhere p [] = 0 := rfl

lemma pointsWhere_append : pointsWhere p (ts ++ new) = pointsWhere p ts + pointsWhere p new := by
  simp [pointsWhere]

lemma pointsWhere_cons : pointsWhere p (t :: ts) = (if p t = true then t.points else 0) + pointsWhere p ts := by
  by_cases h : p t = true
  · simp [pointsWhere, h]
  · simp [pointsWhere, h]

lemma pointsWhere_congr {q : LoyaltyTransaction → Bool} (h : ∀ t ∈ ts, p t = q t) :
    pointsWhere p ts = pointsWhere q ts := by
  rw [pointsWhere, filter_congr h, pointsWhere]

lemma pointsWhere_eq_zero (h : ∀ t ∈ ts, p t = false) : pointsWhere p ts = 0 := by
  rw [pointsWhere_congr h]
  simp [pointsWhere]

lemma pointsWhere_nonneg (h : ∀ t ∈ ts, p t = true → 0 ≤ t.points) : 0 ≤ pointsWhere p ts := by
  apply List.sum_nonneg
  intro x hx
  obtain ⟨t, ht, rfl⟩ := mem_map.mp hx
  exact h t (List.mem_of_mem_filter ht) (List.of_mem_filter ht)

lemma pointsWhere_nonpos (h : ∀ t ∈ ts, p t = true → t.points ≤ 0) : pointsWhere p ts ≤ 0 := by
  induction ts with
  | nil => exact le_rfl
  | cons t ts ih =>
    have htail := ih fun x hx => h x (mem_cons_of_mem _ hx)
    have hhead := h t mem_cons_self
    rw [pointsWhere_cons]
    split_ifs with hp
    · have := hhead hp
      omega
    · omega

lemma pointsWhere_split (q : LoyaltyTransaction → Bool) : pointsWhere p ts =
    pointsWhere (fun t => p t && q t) ts + pointsWhere (fun t => p t && !q t) ts := by
  induction ts with
  | nil => rfl
  | cons t ts ih =>
    simp only [pointsWhere_cons, ih]
    cases p t <;> cases q t <;> simp <;> ring

/-! ### What the transactions refer to -/

structure RefundsKnown (db : LoyaltyDb) : Prop where
  sale : ∀ t ∈ db.transactions, t.isOf .refund "SaleReturn" = true →
    ∃ row, db.records.saleReturns.find? t.referenceId = some row ∧ row.status = .completed
  order : ∀ t ∈ db.transactions, t.isOf .refund "OrderReturn" = true → t.points ≤ 0 ∧
    ∃ row, db.records.orderReturns.find? t.referenceId = some row ∧ row.status = .completed
  once : ∀ id, (db.transactions.filter (earns "Order" id)).length ≤ 1

structure KeepsReturns (r r' : Records) : Prop where
  sale : ∀ id row, r.saleReturns.find? id = some row → row.status = .completed →
    ∃ row', r'.saleReturns.find? id = some row' ∧ row'.status = .completed ∧ row'.saleId = row.saleId
  order : ∀ id row, r.orderReturns.find? id = some row → row.status = .completed →
    ∃ row', r'.orderReturns.find? id = some row' ∧ row'.status = .completed ∧ row'.orderId = row.orderId

lemma KeepsReturns.refl (r : Records) : KeepsReturns r r :=
  ⟨fun _ row h hdone => ⟨row, h, hdone, rfl⟩, fun _ row h hdone => ⟨row, h, hdone, rfl⟩⟩

lemma RefundsKnown.ofSale_eq (h : RefundsKnown db) {r' : Records} (hkeeps : KeepsReturns db.records r')
    (ht : t ∈ db.transactions) (saleId : ℕ) : ofSale r' saleId t = ofSale db.records saleId t := by
  cases hof : t.isOf .refund "SaleReturn" with
  | false => simp [ofSale, hof]
  | true =>
    obtain ⟨row, hfind, hdone⟩ := h.sale t ht hof
    obtain ⟨row', hfind', _, hlink⟩ := hkeeps.sale _ row hfind hdone
    simp [ofSale, hfind, hfind', hlink]

lemma RefundsKnown.ofOrder_eq (h : RefundsKnown db) {r' : Records} (hkeeps : KeepsReturns db.records r')
    (ht : t ∈ db.transactions) (orderId : ℕ) : ofOrder r' orderId t = ofOrder db.records orderId t := by
  cases hof : t.isOf .refund "OrderReturn" with
  | false => simp [ofOrder, hof]
  | true =>
    obtain ⟨row, hfind, hdone⟩ := (h.order t ht hof).2
    obtain ⟨row', hfind', _, hlink⟩ := hkeeps.order _ row hfind hdone
    simp [ofOrder, hfind, hfind', hlink]

structure Appended (new : List LoyaltyTransaction) (db db' : LoyaltyDb) : Prop where
  returns : KeepsReturns db.records db'.records
  transactions : db'.transactions = db.transactions ++ new

namespace Appended

lemma earnedOf_eq (h : Appended new db db') (referenceType : String) (id : ℕ) : earnedOf db' referenceType id =
      earnedOf db referenceType id + pointsWhere (earns referenceType id) new := by
  rw [earnedOf, h.transactions, pointsWhere_append, earnedOf]

lemma revokedOfSale_eq (h : Appended new db db') (hknown : RefundsKnown db) (saleId : ℕ) :
    revokedOfSale db' saleId =
      revokedOfSale db saleId - pointsWhere (ofSale db'.records saleId) new := by
  have hold := pointsWhere_congr fun t ht => hknown.ofSale_eq h.returns ht saleId
  rw [revokedOfSale, h.transactions, pointsWhere_append, hold, revokedOfSale]
  ring

lemma revokedOfOrder_eq (h : Appended new db db') (hknown : RefundsKnown db) (orderId : ℕ) :
    revokedOfOrder db' orderId =
      revokedOfOrder db orderId - pointsWhere (ofOrder db'.records orderId) new := by
  have hold := pointsWhere_congr fun t ht => hknown.ofOrder_eq h.returns ht orderId
  rw [revokedOfOrder, h.transactions, pointsWhere_append, hold, revokedOfOrder]
  ring

lemma refundsKnown (h : Appended new db db') (hknown : RefundsKnown db)
    (hsale : ∀ t ∈ new, t.isOf .refund "SaleReturn" = true →
      ∃ row, db'.records.saleReturns.find? t.referenceId = some row ∧ row.status = .completed)
    (horder : ∀ t ∈ new, t.isOf .refund "OrderReturn" = true → t.points ≤ 0 ∧
      ∃ row, db'.records.orderReturns.find? t.referenceId = some row ∧ row.status = .completed)
    (honce : ∀ id, (db.transactions.filter (earns "Order" id)).length ≤ 1 →
      ((db.transactions ++ new).filter (earns "Order" id)).length ≤ 1) : RefundsKnown db' := by
  constructor
  case sale =>
    intro t ht hof
    rw [h.transactions] at ht
    rcases mem_append.mp ht with ht | ht
    · obtain ⟨row, hfind, hdone⟩ := hknown.sale t ht hof
      obtain ⟨row', hfind', hdone', _⟩ := h.returns.sale _ row hfind hdone
      exact ⟨row', hfind', hdone'⟩
    · exact hsale t ht hof
  case order =>
    intro t ht hof
    rw [h.transactions] at ht
    rcases mem_append.mp ht with ht | ht
    · obtain ⟨hpoints, row, hfind, hdone⟩ := hknown.order t ht hof
      obtain ⟨row', hfind', hdone', _⟩ := h.returns.order _ row hfind hdone
      exact ⟨hpoints, row', hfind', hdone'⟩
    · exact horder t ht hof
  case once =>
    intro id
    rw [h.transactions]
    exact honce id (hknown.once id)

end Appended

structure Gained (new : List LoyaltyTransaction) (db db' : LoyaltyDb) : Prop extends Appended new db db' where
  noRefund : ∀ t ∈ new, t.isOf .refund "SaleReturn" = false ∧ t.isOf .refund "OrderReturn" = false
  gain : ∀ t ∈ new, t.isOf .earn "Sale" = true ∨ t.isOf .earn "Order" = true → 0 ≤ t.points
  once : ∀ id, (db.transactions.filter (earns "Order" id)).length ≤ 1 →
    ((db.transactions ++ new).filter (earns "Order" id)).length ≤ 1

lemma Gained.of_records (hkeeps : KeepsReturns db.records db'.records)
    (htransactions : db'.transactions = db.transactions) : Gained [] db db' := by
  constructor
  case toAppended => exact ⟨hkeeps, by rw [htransactions, append_nil]⟩
  case noRefund => simp
  case gain => simp
  case once => simp

lemma Gained.refundsKnown (h : Gained new db db') (hknown : RefundsKnown db) : RefundsKnown db' := by
  apply h.toAppended.refundsKnown hknown
  · intro t ht hof
    rw [(h.noRefund t ht).1] at hof
    cases hof
  · intro t ht hof
    rw [(h.noRefund t ht).2] at hof
    cases hof
  · exact h.once

lemma Gained.withinEarned (h : Gained new db db') (hknown : RefundsKnown db) (hwithin : WithinEarned db) :
    WithinEarned db' := by
  have hearned (referenceType : String) (hkind : referenceType = "Sale" ∨ referenceType = "Order") (id : ℕ) :
      0 ≤ pointsWhere (earns referenceType id) new := by
    refine pointsWhere_nonneg fun t ht hearns => h.gain t ht ?_
    have hof : t.isOf .earn referenceType = true := Bool.and_elim_left hearns
    rcases hkind with rfl | rfl
    · exact .inl hof
    · exact .inr hof
  constructor
  case sale =>
    intro saleId
    have hnone : pointsWhere (ofSale db'.records saleId) new = 0 :=
      pointsWhere_eq_zero fun t ht => by simp [ofSale, (h.noRefund t ht).1]
    rw [h.revokedOfSale_eq hknown, h.earnedOf_eq, hnone]
    have := hearned "Sale" (Or.inl rfl) saleId
    have := hwithin.sale saleId
    omega
  case order =>
    intro orderId
    have hnone : pointsWhere (ofOrder db'.records orderId) new = 0 :=
      pointsWhere_eq_zero fun t ht => by simp [ofOrder, (h.noRefund t ht).2]
    rw [h.revokedOfOrder_eq hknown, h.earnedOf_eq, hnone]
    have := hearned "Order" (Or.inr rfl) orderId
    have := hwithin.order orderId
    omega

/-! ### What the services append -/

lemma post_rows {f : LoyaltyAccount → LoyaltyAccount} (h : Commits (post t f) db () db') :
    db'.records = db.records ∧ db'.transactions = db.transactions ++ [t] := by
  simp only [post, commits_bind, commits_update, commits_modify] at h
  obtain ⟨_, _, ⟨_, _, _, rfl⟩, rfl⟩ := h
  exact ⟨rfl, rfl⟩

variable {customerId : ℕ}

lemma openAccount_rows {programId : ℕ} {account : LoyaltyAccount}
    (h : Commits (openAccount programId customerId) db account db') :
    db'.records = db.records ∧ db'.transactions = db.transactions := by
  obtain ⟨_, rfl⟩ := commits_upsert.mp h
  exact ⟨rfl, rfl⟩

variable {saleId : ℕ}

lemma redeem_rows {n : ℕ} {found : Option LoyaltyAccount} {balance : ℤ}
    (h : Commits (redeem saleId n found) db balance db') :
    db'.records = db.records ∧ ∃ new, db'.transactions = db.transactions ++ new ∧
      ∀ t ∈ new, t.type = .redeem := by
  cases found with
  | none =>
    obtain ⟨_, rfl⟩ := commits_pure.mp h
    exact ⟨rfl, [], (append_nil _).symm, by simp⟩
  | some account =>
    simp only [redeem, commits_ite, commits_steps] at h
    obtain ⟨_, _, _, hpost, _, rfl⟩ | ⟨_, _, rfl⟩ := h
    · obtain ⟨hrecords, htransactions⟩ := post_rows hpost
      exact ⟨hrecords, _, htransactions, by simp⟩
    · exact ⟨rfl, [], (append_nil _).symm, by simp⟩

variable {program : LoyaltyProgram}

lemma earn_rows {points balance : ℤ} (h : Commits (earn program saleId customerId points balance) db () db') :
    db'.records = db.records ∧ ∃ new, db'.transactions = db.transactions ++ new ∧
      ∀ t ∈ new, t.type = .earn ∧ t.referenceType = "Sale" ∧ 0 ≤ t.points := by
  simp only [earn, commits_ite, commits_steps] at h
  obtain ⟨hpos, _, _, hopen, hpost⟩ | ⟨_, _, rfl⟩ := h
  · obtain ⟨hrecords, htransactions⟩ := openAccount_rows hopen
    obtain ⟨hrecords', htransactions'⟩ := post_rows hpost
    refine ⟨hrecords'.trans hrecords, _, htransactions ▸ htransactions', ?_⟩
    simp [hpos.le]
  · exact ⟨rfl, [], (append_nil _).symm, by simp⟩

/-- A sale appends at most what it redeems and what it earns. -/
lemma createSale_gained {dto : SaleRequest} {checkout : ℚ → Except Failure ℚ}
    (h : Commits (createSale companyId dto checkout) db () db') : ∃ new, Gained new db db' := by
  simp only [createSale, commits_steps, commits_liftExcept] at h
  obtain ⟨_, _, res, s, hlookup, total, _, hpoints⟩ := h
  have hs : s = db := by
    obtain ⟨found, discount⟩ := res
    rcases Nat.eq_zero_or_pos dto.redeemPoints with hzero | hpos
    · rw [hzero] at hlookup
      exact (lookupRedemption_zero.mp hlookup).2.symm
    · cases hprogram : db.saleProgram companyId dto with
      | none =>
        rw [hprogram] at hlookup
        exact (commits_pure.mp hlookup).2.symm
      | some pc =>
        rw [hprogram] at hlookup
        obtain ⟨_, _, _, _, rfl⟩ := lookupRedemption_pos hpos hlookup
        rfl
  subst hs
  cases hprogram : s.saleProgram companyId dto with
  | none =>
    rw [hprogram] at hpoints
    obtain ⟨_, rfl⟩ := commits_pure.mp hpoints
    exact ⟨[], Gained.of_records (KeepsReturns.refl _) rfl⟩
  | some pc =>
    obtain ⟨program, customerId⟩ := pc
    simp only [hprogram, commits_bind] at hpoints
    obtain ⟨_, _, hredeem, hearn⟩ := hpoints
    obtain ⟨hrecords, redeemed, htransactions, hredeemed⟩ := redeem_rows hredeem
    obtain ⟨hrecords', earned, htransactions', hearned⟩ := earn_rows hearn
    refine ⟨redeemed ++ earned, ?_⟩
    constructor
    case toAppended =>
      constructor
      · rw [hrecords', hrecords]
        exact KeepsReturns.refl _
      · rw [htransactions', htransactions, append_assoc]
    case noRefund =>
      intro t ht
      rcases mem_append.mp ht with ht | ht
      · simp [LoyaltyTransaction.isOf, hredeemed t ht]
      · simp [LoyaltyTransaction.isOf, (hearned t ht).1]
    case gain =>
      intro t ht hof
      rcases mem_append.mp ht with ht | ht
      · simp [LoyaltyTransaction.isOf, hredeemed t ht] at hof
      · exact (hearned t ht).2.2
    case once =>
      intro id honce
      have hnone : (redeemed ++ earned).filter (earns "Order" id) = [] := by
        rw [filter_eq_nil_iff]
        intro t ht
        rcases mem_append.mp ht with ht | ht
        · simp [earns, LoyaltyTransaction.isOf, hredeemed t ht]
        · simp [earns, LoyaltyTransaction.isOf, (hearned t ht).2.1]
      rwa [filter_append, hnone, append_nil]

lemma earnOrder_gained {order : Order} {now : ℤ}
    (h : Commits (earnOrder program order customerId now) db () db') : ∃ new, Gained new db db' := by
  simp only [earnOrder, commits_steps, commits_ite] at h
  obtain ⟨⟨hexisting, hpos⟩, _, _, hopen, hpost⟩ | ⟨_, _, rfl⟩ := h
  · obtain ⟨hrecords, htransactions⟩ := openAccount_rows hopen
    obtain ⟨hrecords', htransactions'⟩ := post_rows hpost
    rw [htransactions] at htransactions'
    refine ⟨_, ⟨⟨?_, htransactions'⟩, ?_, ?_, ?_⟩⟩
    · rw [hrecords', hrecords]
      exact KeepsReturns.refl _
    · simp [LoyaltyTransaction.isOf]
    · intro t ht _
      rw [mem_singleton.mp ht]
      exact hpos.le
    · intro id honce
      rw [filter_append]
      by_cases hid : order.id = id
      · subst hid
        have hnone : db.transactions.filter (earns "Order" order.id) = [] := by
          rw [filter_eq_nil_iff]
          intro t ht hearns
          have := List.any_eq_false.mp hexisting t ht
          exact this (by simpa [earns, LoyaltyTransaction.isOf] using hearns)
        rw [hnone]
        exact List.length_filter_le _ _
      · simpa [earns, hid] using honce
  · exact ⟨[], Gained.of_records (KeepsReturns.refl _) rfl⟩

lemma Gained.of_same {s : LoyaltyDb} (h : Gained new s db') (htransactions : s.transactions = db.transactions)
    (hsales : s.records.saleReturns = db.records.saleReturns)
    (horders : s.records.orderReturns = db.records.orderReturns) : Gained new db db' := by
  constructor
  case toAppended =>
    constructor
    · exact ⟨hsales ▸ h.returns.sale, horders ▸ h.returns.order⟩
    · exact htransactions ▸ h.transactions
  case noRefund => exact h.noRefund
  case gain => exact h.gain
  case once => exact htransactions ▸ h.once

lemma deliver_gained {id : ℕ} {now : ℤ} (h : Commits (deliver companyId id now) db () db') :
    ∃ new, Gained new db db' := by
  simp only [deliver, commits_steps, commits_ite, commits_update] at h
  obtain ⟨order, _, ⟨_, _, rfl⟩ | ⟨_, _, _, _, _, ⟨_, _, rfl, rfl⟩, _, _, ⟨_, _, rfl, rfl⟩, hearn⟩⟩ := h
  · exact ⟨[], Gained.of_records (KeepsReturns.refl _) rfl⟩
  · split at hearn
    · obtain ⟨new, hgained⟩ := earnOrder_gained hearn
      exact ⟨new, hgained.of_same rfl rfl rfl⟩
    · obtain ⟨_, rfl⟩ := commits_pure.mp hearn
      exact ⟨[], (Gained.of_records (KeepsReturns.refl _) rfl).of_same rfl rfl rfl⟩

/-! ### Corrections -/

def refundRow (account : LoyaltyAccount) (points : ℤ) (referenceType : String) (referenceId : ℕ)
    (notes : String) : LoyaltyTransaction :=
  { accountId := account.key, type := .refund, points := -points, balanceAfter := account.points - points,
    referenceType, referenceId, notes := some notes }

variable {referenceType : String}

lemma revoke_rows {account : LoyaltyAccount} {points : ℤ} {notes : String} {referenceId : ℕ}
    (h : Commits (revoke account points referenceType referenceId notes) db () db') :
    db'.records = db.records ∧ db'.transactions = db.transactions ++
      if 0 < points then [refundRow account points referenceType referenceId notes] else [] := by
  simp only [revoke, commits_ite, commits_pure] at h
  obtain ⟨hpos, hpost⟩ | ⟨hpos, _, rfl⟩ := h
  · rw [if_pos hpos]
    exact post_rows hpost
  · rw [if_neg hpos, append_nil]
    exact ⟨rfl, rfl⟩

/-- What a sale return takes back, and from which account: nothing where no account is found. -/
inductive SaleCorrection (companyId : ℕ) (db : LoyaltyDb) (row : SaleReturn) :
    List LoyaltyTransaction → Prop
  | none (h : ∀ saleId program account, row.saleId = some saleId → db.activeProgram companyId = some program →
      db.accountOfSale program saleId ≠ some account) : SaleCorrection companyId db row []
  | revoked {saleId : ℕ} {program : LoyaltyProgram} {account : LoyaltyAccount} (hsale : row.saleId = some saleId)
      (hprogram : db.activeProgram companyId = some program)
      (haccount : db.accountOfSale program saleId = some account) :
      SaleCorrection companyId db row
        (if 0 < min ⌊row.gross * program.earnRate⌋ account.points then
          [refundRow account (min ⌊row.gross * program.earnRate⌋ account.points) "SaleReturn" row.id
            s!"Koreksi poin karena retur {row.number}"] else [])

inductive OrderCorrection (companyId : ℕ) (db : LoyaltyDb) (row : OrderReturn) :
    List LoyaltyTransaction → Prop
  | none (h : ∀ customerId program account, row.customerId = some customerId →
      db.activeProgram companyId = some program → db.accounts.find? (program.id, customerId) ≠ some account) :
      OrderCorrection companyId db row []
  | revoked {customerId : ℕ} {program : LoyaltyProgram} {account : LoyaltyAccount}
      (hcustomer : row.customerId = some customerId) (hprogram : db.activeProgram companyId = some program)
      (haccount : db.accounts.find? (program.id, customerId) = some account) :
      OrderCorrection companyId db row
        (if 0 < db.orderRevocation program row account then
          [refundRow account (db.orderRevocation program row account) "OrderReturn" row.id
            s!"Koreksi poin karena retur order {row.number}"] else [])

lemma revokeSale_rows {row : SaleReturn} (h : Commits (revokeSale db companyId row) db () db') :
    db'.records = db.records ∧ ∃ new, SaleCorrection companyId db row new ∧
      db'.transactions = db.transactions ++ new := by
  unfold revokeSale at h
  split at h
  next saleId program hsale hprogram =>
    split at h
    next account haccount =>
      obtain ⟨hrecords, htransactions⟩ := revoke_rows h
      exact ⟨hrecords, _, .revoked hsale hprogram haccount, htransactions⟩
    next hnone =>
      obtain ⟨_, rfl⟩ := commits_pure.mp h
      refine ⟨rfl, [], .none ?_, (append_nil _).symm⟩
      intro saleId' program' account hsale' hprogram' haccount
      obtain rfl := mem_unique hsale hsale'
      obtain rfl := mem_unique hprogram hprogram'
      rw [hnone] at haccount
      cases haccount
  next hnone =>
    obtain ⟨_, rfl⟩ := commits_pure.mp h
    refine ⟨rfl, [], .none ?_, (append_nil _).symm⟩
    intro saleId program account hsale hprogram
    exact absurd hprogram (hnone saleId program hsale)

lemma revokeOrder_rows {row : OrderReturn} (h : Commits (revokeOrder db companyId row) db () db') :
    db'.records = db.records ∧ ∃ new, OrderCorrection companyId db row new ∧
      db'.transactions = db.transactions ++ new := by
  unfold revokeOrder at h
  split at h
  next customerId program hcustomer hprogram =>
    split at h
    next account haccount =>
      obtain ⟨hrecords, htransactions⟩ := revoke_rows h
      exact ⟨hrecords, _, .revoked hcustomer hprogram haccount, htransactions⟩
    next hnone =>
      obtain ⟨_, rfl⟩ := commits_pure.mp h
      refine ⟨rfl, [], .none ?_, (append_nil _).symm⟩
      intro customerId' program' account hcustomer' hprogram' haccount
      obtain rfl := mem_unique hcustomer hcustomer'
      obtain rfl := mem_unique hprogram hprogram'
      rw [hnone] at haccount
      cases haccount
  next hnone =>
    obtain ⟨_, rfl⟩ := commits_pure.mp h
    refine ⟨rfl, [], .none ?_, (append_nil _).symm⟩
    intro customerId program account hcustomer hprogram
    exact absurd hprogram (hnone customerId program hcustomer)

/-- A confirmation of a sale return completes the return and corrects the points. -/
lemma confirmSaleReturn_rows {id : ℕ} (h : Commits (confirmSaleReturn companyId id) db () db') :
    ∃ row new, db.records.saleReturns.find? id = some row ∧ SaleCorrection companyId db row new ∧
      Appended new db db' ∧
      db'.records.saleReturns.find? id = some { row with status := .completed } := by
  simp only [confirmSaleReturn, commits_steps, commits_update] at h
  obtain ⟨row, hrow, _, _, s, hrevoke, _, _, ⟨row', hrow', rfl, rfl⟩, _, rfl⟩ := h
  obtain ⟨hrecords, new, hcorrection, htransactions⟩ := revokeSale_rows hrevoke
  have hsame : s.records.saleReturns = db.records.saleReturns := by rw [hrecords]
  have hstill : s.records.saleReturns.find? id = some row := by rw [hsame, hrow]
  obtain rfl : row' = row := mem_unique hrow' hstill
  have hkey : row'.id = id := (find?_eq_some.mp hrow).2
  have hself : (s.records.saleReturns.put { row' with status := .completed }).find? id =
      some { row' with status := .completed } := hkey ▸ find?_put_self _ _
  refine ⟨row', new, hrow, hcorrection, ⟨⟨?_, ?_⟩, htransactions⟩, hself⟩
  · intro k r hr hdone
    by_cases hk : k = id
    · subst hk
      obtain rfl := mem_unique hrow hr
      exact ⟨_, hself, rfl, rfl⟩
    · have hother := find?_put_of_ne s.records.saleReturns (r := { row' with status := .completed }) (hkey ▸ hk)
      exact ⟨r, hother.trans (hsame ▸ hr), hdone, rfl⟩
  · intro k r hr hdone
    refine ⟨r, ?_, hdone, rfl⟩
    change s.records.orderReturns.find? k = some r
    rw [hrecords, hr]

/-- A confirmation of a return of an order does the same, unless the return is completed already. -/
lemma confirmOrderReturn_rows {id : ℕ} (h : Commits (confirmOrderReturn companyId id) db () db') :
    ∃ row, db.records.orderReturns.find? id = some row ∧ (row.status = .completed ∧ db' = db ∨
      row.status ≠ .completed ∧ ∃ new, OrderCorrection companyId db row new ∧ Appended new db db' ∧
        db'.records.orderReturns.find? id = some { row with status := .completed }) := by
  simp only [confirmOrderReturn, commits_steps, commits_ite, commits_update] at h
  obtain ⟨row, hrow, ⟨hdone, _, rfl⟩ | ⟨hopen, _, _, s, hrevoke, _, _, ⟨row', hrow', rfl, rfl⟩, _, rfl⟩⟩ := h
  · exact ⟨row, hrow, .inl ⟨hdone, rfl⟩⟩
  · obtain ⟨hrecords, new, hcorrection, htransactions⟩ := revokeOrder_rows hrevoke
    have hsame : s.records.orderReturns = db.records.orderReturns := by rw [hrecords]
    have hstill : s.records.orderReturns.find? id = some row := by rw [hsame, hrow]
    obtain rfl : row' = row := mem_unique hrow' hstill
    have hkey : row'.id = id := (find?_eq_some.mp hrow).2
    have hself : (s.records.orderReturns.put { row' with status := .completed }).find? id =
        some { row' with status := .completed } := hkey ▸ find?_put_self _ _
    refine ⟨row', hrow, .inr ⟨hopen, new, hcorrection, ⟨⟨?_, ?_⟩, htransactions⟩, hself⟩⟩
    · intro k r hr hdone
      refine ⟨r, ?_, hdone, rfl⟩
      change s.records.saleReturns.find? k = some r
      rw [hrecords, hr]
    · intro k r hr hdone
      by_cases hk : k = id
      · subst hk
        obtain rfl := mem_unique hrow hr
        exact ⟨_, hself, rfl, rfl⟩
      · have hother := find?_put_of_ne s.records.orderReturns (r := { row' with status := .completed })
          (hkey ▸ hk)
        exact ⟨r, hother.trans (hsame ▸ hr), hdone, rfl⟩

/-! ### One correction -/

variable {account : LoyaltyAccount} {points : ℤ} {notes : String} {id : ℕ}

@[simp] lemma not_earns_refundRow {kind : String} {i : ℕ} :
    earns kind i (refundRow account points referenceType id notes) = false := by
  simp [earns, LoyaltyTransaction.isOf, refundRow]

@[simp] lemma not_ofOrder_refundRow {r : Records} {orderId : ℕ} :
    ofOrder r orderId (refundRow account points "SaleReturn" id notes) = false := by
  simp [ofOrder, LoyaltyTransaction.isOf, refundRow]

@[simp] lemma not_ofSale_refundRow {r : Records} :
    ofSale r saleId (refundRow account points "OrderReturn" id notes) = false := by
  simp [ofSale, LoyaltyTransaction.isOf, refundRow]

lemma pointsWhere_refund : pointsWhere p
    (if 0 < points then [refundRow account points referenceType id notes] else []) =
      if p (refundRow account points referenceType id notes) = true then -max 0 points else 0 := by
  by_cases hpos : 0 < points
  · rw [if_pos hpos, pointsWhere_cons, pointsWhere_nil, add_zero, max_eq_right hpos.le]
    rfl
  · rw [if_neg hpos, pointsWhere_nil, max_eq_left (not_lt.mp hpos), neg_zero, ite_self]

lemma leftOfSale_nonneg (h : WithinEarned db) (saleId : ℕ) : 0 ≤ leftOfSale db saleId :=
  sub_nonneg.mpr (h.sale saleId)

lemma leftOfOrder_nonneg (h : WithinEarned db) (orderId : ℕ) : 0 ≤ leftOfOrder db orderId :=
  sub_nonneg.mpr (h.order orderId)

/-- Where a row is appended for a return of a sale, the returns stay within what was earned exactly if it is
within what was left. -/
lemma Appended.within_iff_sale {row : SaleReturn} (h : Appended
      (if 0 < points then [refundRow account points "SaleReturn" id notes] else []) db db')
    (hknown : RefundsKnown db) (hwithin : WithinEarned db)
    (hafter : db'.records.saleReturns.find? id = some row) (hsale : row.saleId = some saleId) :
    WithinEarned db' ↔ points ≤ leftOfSale db saleId := by
  have hrevoked (s : ℕ) :
      revokedOfSale db' s = revokedOfSale db s + if s = saleId then max 0 points else 0 := by
    have hof : ofSale db'.records s (refundRow account points "SaleReturn" id notes) = decide (s = saleId) := by
      simp [ofSale, LoyaltyTransaction.isOf, refundRow, hafter, hsale, eq_comm]
    rw [h.revokedOfSale_eq hknown, pointsWhere_refund, hof]
    split_ifs <;> simp_all
  have hsame (orderId : ℕ) : revokedOfOrder db' orderId = revokedOfOrder db orderId := by
    rw [h.revokedOfOrder_eq hknown, pointsWhere_refund]
    simp
  have hearned (kind : String) (i : ℕ) : earnedOf db' kind i = earnedOf db kind i := by
    rw [h.earnedOf_eq, pointsWhere_refund]
    simp
  have hleft := leftOfSale_nonneg hwithin saleId
  rw [leftOfSale] at hleft ⊢
  constructor
  · intro h'
    have := h'.sale saleId
    rw [hrevoked, hearned, if_pos rfl] at this
    omega
  · intro hle
    constructor
    case sale =>
      intro s
      have := hwithin.sale s
      rw [hrevoked, hearned]
      split_ifs with hs
      · subst hs
        omega
      · omega
    case order =>
      intro orderId
      rw [hsame, hearned]
      exact hwithin.order orderId

/-- The same for a return of an order. -/
lemma Appended.within_iff_order {row : OrderReturn} (h : Appended
      (if 0 < points then [refundRow account points "OrderReturn" id notes] else []) db db')
    (hknown : RefundsKnown db) (hwithin : WithinEarned db)
    (hafter : db'.records.orderReturns.find? id = some row) :
    WithinEarned db' ↔ points ≤ leftOfOrder db row.orderId := by
  have hrevoked (o : ℕ) :
      revokedOfOrder db' o = revokedOfOrder db o + if o = row.orderId then max 0 points else 0 := by
    have hof : ofOrder db'.records o (refundRow account points "OrderReturn" id notes) =
        decide (o = row.orderId) := by
      simp [ofOrder, LoyaltyTransaction.isOf, refundRow, hafter, eq_comm]
    rw [h.revokedOfOrder_eq hknown, pointsWhere_refund, hof]
    split_ifs <;> simp_all
  have hsame (saleId : ℕ) : revokedOfSale db' saleId = revokedOfSale db saleId := by
    rw [h.revokedOfSale_eq hknown, pointsWhere_refund]
    simp
  have hearned (kind : String) (i : ℕ) : earnedOf db' kind i = earnedOf db kind i := by
    rw [h.earnedOf_eq, pointsWhere_refund]
    simp
  have hleft := leftOfOrder_nonneg hwithin row.orderId
  rw [leftOfOrder] at hleft ⊢
  constructor
  · intro h'
    have := h'.order row.orderId
    rw [hrevoked, hearned, if_pos rfl] at this
    omega
  · intro hle
    constructor
    case sale =>
      intro saleId
      rw [hsame, hearned]
      exact hwithin.sale saleId
    case order =>
      intro o
      have := hwithin.order o
      rw [hrevoked, hearned]
      split_ifs with ho
      · subst ho
        omega
      · omega

/-! ### What an order has left -/

def previousReturnIds (db : LoyaltyDb) (row : OrderReturn) : List ℕ :=
  (db.records.orderReturns.findMany fun r =>
    r.orderId = row.orderId && r.id ≠ row.id && r.status = .completed).map OrderReturn.id

lemma mem_previousReturnIds {row r : OrderReturn} {k : ℕ} (hrow : db.records.orderReturns.find? id = some row)
    (hopen : row.status ≠ .completed) (hr : db.records.orderReturns.find? k = some r)
    (hdone : r.status = .completed) : k ∈ previousReturnIds db row ↔ r.orderId = row.orderId := by
  obtain ⟨hmem, hkey⟩ := find?_eq_some.mp hr
  rw [previousReturnIds, mem_map]
  constructor
  · rintro ⟨r', hr', hid⟩
    obtain ⟨hmem', hcond⟩ := mem_findMany.mp hr'
    obtain rfl := eq_of_key_eq hmem hmem' (hkey.trans hid.symm)
    simp only [cond_iff] at hcond
    exact hcond.1.1
  · intro horder
    have hne : r.id ≠ row.id := by
      intro hsame
      obtain rfl := eq_of_key_eq hmem (find?_eq_some.mp hrow).1 hsame
      exact hopen hdone
    refine ⟨r, mem_findMany.mpr ⟨hmem, ?_⟩, hkey⟩
    simp [horder, hdone, hne]

lemma previous_eq {row : OrderReturn} {account : LoyaltyAccount} (hknown : RefundsKnown db)
    (hrow : db.records.orderReturns.find? id = some row) (hopen : row.status ≠ .completed) :
    (db.transactions.filter fun t => t.accountId = account.key && t.type = .refund &&
      t.referenceType = "OrderReturn" && t.referenceId ∈ previousReturnIds db row) =
      db.transactions.filter fun t => ofOrder db.records row.orderId t && !decide (t.accountId ≠ account.key) := by
  apply filter_congr
  intro t ht
  cases hof : t.isOf .refund "OrderReturn" with
  | false =>
    rw [LoyaltyTransaction.isOf] at hof
    rw [Bool.and_assoc (decide (t.accountId = account.key)), hof]
    simp [ofOrder, LoyaltyTransaction.isOf, hof]
  | true =>
    obtain ⟨_, r, hr, hdone⟩ := hknown.order t ht hof
    have hmatch := mem_previousReturnIds hrow hopen hr hdone
    simp only [LoyaltyTransaction.isOf, cond_iff] at hof
    simp [ofOrder, LoyaltyTransaction.isOf, hof.1, hof.2, hr, hmatch, Bool.and_comm]

lemma revokedOfOrder_split (accountId : AccountKey) (orderId : ℕ) : revokedOfOrder db orderId =
    revokedElsewhere db accountId orderId -
      pointsWhere (fun t => ofOrder db.records orderId t && !decide (t.accountId ≠ accountId))
        db.transactions := by
  rw [revokedOfOrder, pointsWhere_split fun t => decide (t.accountId ≠ accountId), revokedElsewhere]
  ring

lemma RefundsKnown.ofOrder_nonpos (h : RefundsKnown db) (orderId : ℕ) (q : LoyaltyTransaction → Bool) :
    pointsWhere (fun t => ofOrder db.records orderId t && q t) db.transactions ≤ 0 := by
  refine pointsWhere_nonpos fun t ht hof => (h.order t ht ?_).1
  simp only [ofOrder, Bool.and_eq_true] at hof
  exact hof.1.1

lemma RefundsKnown.earnedOf_order (h : RefundsKnown db) (orderId : ℕ) : earnedOf db "Order" orderId =
    (db.transactions.find? fun t => t.type = .earn && t.referenceType = "Order" && t.referenceId = orderId).elim
      0 LoyaltyTransaction.points := by
  have honce := h.once orderId
  rw [← List.head?_filter, earnedOf, pointsWhere]
  change _ = (db.transactions.filter (earns "Order" orderId)).head?.elim 0 LoyaltyTransaction.points
  match hrows : db.transactions.filter (earns "Order" orderId) with
  | [] => rfl
  | [t] => simp
  | t :: u :: rest =>
    rw [hrows] at honce
    simp at honce

/-- A return of an order takes no more than is left exactly if the points for its amount, or those of the
account, are no more than is left, or nothing was taken elsewhere. -/
lemma orderRevocation_le_left {row : OrderReturn} {account : LoyaltyAccount}
    (hknown : RefundsKnown db) (hwithin : WithinEarned db)
    (hrow : db.records.orderReturns.find? id = some row) (hopen : row.status ≠ .completed) :
    db.orderRevocation program row account ≤ leftOfOrder db row.orderId ↔
      ⌊row.gross * program.earnRate⌋ ≤ leftOfOrder db row.orderId ∨
        account.points ≤ leftOfOrder db row.orderId ∨ revokedElsewhere db account.key row.orderId = 0 := by
  have hleft := leftOfOrder_nonneg hwithin row.orderId
  have hearned := hknown.earnedOf_order row.orderId
  have hsplit := @revokedOfOrder_split db account.key row.orderId
  have hhere := hknown.ofOrder_nonpos row.orderId fun t => !decide (t.accountId ≠ account.key)
  have helsewhere : 0 ≤ revokedElsewhere db account.key row.orderId :=
    neg_nonneg.mpr (hknown.ofOrder_nonpos _ _)
  rw [orderRevocation]
  cases hfound : db.transactions.find? fun t =>
      t.type = .earn && t.referenceType = "Order" && t.referenceId = row.orderId with
  | none =>
    rw [hfound, Option.elim_none] at hearned
    rw [leftOfOrder] at hleft ⊢
    simp only [hleft, true_iff]
    omega
  | some earned =>
    have hprevious := @previous_eq db id row account hknown hrow hopen
    rw [hfound, Option.elim_some] at hearned
    change min (min _ (max 0 (earned.points - (((db.transactions.filter fun t =>
      t.accountId = account.key && t.type = .refund && t.referenceType = "OrderReturn" &&
        t.referenceId ∈ previousReturnIds db row).map LoyaltyTransaction.points).sum.natAbs : ℤ)))) _ ≤ _ ↔ _
    rw [hprevious]
    rw [pointsWhere] at hhere hsplit
    rw [leftOfOrder] at hleft ⊢
    omega

/-! ### Histories -/

/-- Any other operation. It may move the points of every account, but its rows do not refer to what a sale or
order earns, or to a return. -/
structure Outside (db db' : LoyaltyDb) : Prop where
  returns : KeepsReturns db.records db'.records
  transactions : ∃ new, db'.transactions = db.transactions ++ new ∧ ∀ t ∈ new,
    t.isOf .earn "Sale" = false ∧ t.isOf .earn "Order" = false ∧
      t.isOf .refund "SaleReturn" = false ∧ t.isOf .refund "OrderReturn" = false

def PointsStep (companyId : ℕ) (db : LoyaltyDb) (e : LoyaltyEvent) (db' : LoyaltyDb) : Prop :=
  match e with
  | .elsewhere records => db'.records = records ∧ Outside db db'
  | .sell _ _ | .deliver _ _ | .confirmSaleReturn _ | .confirmOrderReturn _ => LoyaltyStep companyId db e db'

/-- A confirmation is for an amount whose points, by the rate of now, are no more than is left, or the account
does not hold more. For an order it is enough that nothing was taken elsewhere. -/
def RevokesWithin (companyId : ℕ) (db : LoyaltyDb) : LoyaltyEvent → Prop
  | .confirmSaleReturn id => ∀ row saleId program account, db.records.saleReturns.find? id = some row →
      row.saleId = some saleId → db.activeProgram companyId = some program →
      db.accountOfSale program saleId = some account →
      ⌊row.gross * program.earnRate⌋ ≤ leftOfSale db saleId ∨ account.points ≤ leftOfSale db saleId
  | .confirmOrderReturn id => ∀ row customerId program account, db.records.orderReturns.find? id = some row →
      row.status ≠ .completed → row.customerId = some customerId → db.activeProgram companyId = some program →
      db.accounts.find? (program.id, customerId) = some account →
      ⌊row.gross * program.earnRate⌋ ≤ leftOfOrder db row.orderId ∨
        account.points ≤ leftOfOrder db row.orderId ∨ revokedElsewhere db account.key row.orderId = 0
  | .sell _ _ | .deliver _ _ | .elsewhere _ => True

lemma Outside.gained (h : Outside db db') : ∃ new, Gained new db db' := by
  obtain ⟨new, htransactions, hnew⟩ := h.transactions
  refine ⟨new, ⟨⟨h.returns, htransactions⟩, ?_, ?_, ?_⟩⟩
  · intro t ht
    exact (hnew t ht).2.2
  · intro t ht hof
    obtain ⟨hsale, horder, _⟩ := hnew t ht
    simp [hsale, horder] at hof
  · intro i honce
    have hnone : new.filter (earns "Order" i) = [] := by
      rw [filter_eq_nil_iff]
      intro t ht
      simp [earns, (hnew t ht).2.1]
    rwa [filter_append, hnone, append_nil]

lemma Gained.within_iff {e : LoyaltyEvent} (h : Gained new db db') (hknown : RefundsKnown db)
    (hwithin : WithinEarned db) (hguard : RevokesWithin companyId db e) :
    WithinEarned db' ↔ RevokesWithin companyId db e :=
  iff_of_true (h.withinEarned hknown hwithin) hguard

lemma mem_refund
    (ht : t ∈ if 0 < points then [refundRow account points referenceType id notes] else []) :
    t = refundRow account points referenceType id notes ∧ 0 < points := by
  split_ifs at ht with hpos
  · exact ⟨mem_singleton.mp ht, hpos⟩
  · cases ht

lemma not_earns_of_refund {i : ℕ} : (db.transactions ++
    if 0 < points then [refundRow account points referenceType id notes] else []).filter (earns "Order" i) =
      db.transactions.filter (earns "Order" i) := by
  have hnone : (if 0 < points then [refundRow account points referenceType id notes] else []).filter
      (earns "Order" i) = [] := by
    rw [filter_eq_nil_iff]
    intro t ht
    rw [(mem_refund ht).1]
    simp
  rw [filter_append, hnone, append_nil]

lemma confirmSaleReturn_step (hknown : RefundsKnown db)
    (h : Commits (confirmSaleReturn companyId id) db () db') : RefundsKnown db' ∧
      (WithinEarned db → (WithinEarned db' ↔ RevokesWithin companyId db (.confirmSaleReturn id))) := by
  obtain ⟨row, new, hrow, hcorrection, happended, hafter⟩ := confirmSaleReturn_rows h
  have hkey : row.id = id := (find?_eq_some.mp hrow).2
  subst hkey
  cases hcorrection with
  | none hnone =>
    have hgained := Gained.of_records happended.returns (happended.transactions.trans (append_nil _))
    refine ⟨hgained.refundsKnown hknown, fun hwithin => hgained.within_iff hknown hwithin ?_⟩
    intro row' saleId program account hrow' hsale hprogram haccount
    obtain rfl := mem_unique hrow hrow'
    exact absurd haccount (hnone saleId program account hsale hprogram)
  | @revoked saleId program account hsale hprogram haccount =>
    constructor
    · apply happended.refundsKnown hknown
      · intro t ht _
        rw [(mem_refund ht).1]
        exact ⟨_, hafter, rfl⟩
      · intro t ht hof
        rw [(mem_refund ht).1] at hof
        simp [LoyaltyTransaction.isOf, refundRow] at hof
      · intro i honce
        rwa [not_earns_of_refund]
    · intro hwithin
      rw [happended.within_iff_sale hknown hwithin hafter hsale, min_le_iff]
      constructor
      · intro hle row' saleId' program' account' hrow' hsale' hprogram' haccount'
        obtain rfl := mem_unique hrow hrow'
        obtain rfl := mem_unique hsale hsale'
        obtain rfl := mem_unique hprogram hprogram'
        obtain rfl := mem_unique haccount haccount'
        exact hle
      · intro hguard
        exact hguard row saleId program account hrow hsale hprogram haccount

lemma confirmOrderReturn_step (hknown : RefundsKnown db)
    (h : Commits (confirmOrderReturn companyId id) db () db') : RefundsKnown db' ∧
      (WithinEarned db → (WithinEarned db' ↔ RevokesWithin companyId db (.confirmOrderReturn id))) := by
  obtain ⟨row, hrow, ⟨hdone, rfl⟩ | ⟨hopen, new, hcorrection, happended, hafter⟩⟩ :=
    confirmOrderReturn_rows h
  · refine ⟨hknown, fun hwithin => iff_of_true hwithin ?_⟩
    intro row' customerId program account hrow' hopen
    obtain rfl := mem_unique hrow hrow'
    exact absurd hdone hopen
  have hkey : row.id = id := (find?_eq_some.mp hrow).2
  subst hkey
  cases hcorrection with
  | none hnone =>
    have hgained := Gained.of_records happended.returns (happended.transactions.trans (append_nil _))
    refine ⟨hgained.refundsKnown hknown, fun hwithin => hgained.within_iff hknown hwithin ?_⟩
    intro row' customerId program account hrow' _ hcustomer hprogram haccount
    obtain rfl := mem_unique hrow hrow'
    exact absurd haccount (hnone customerId program account hcustomer hprogram)
  | @revoked customerId program account hcustomer hprogram haccount =>
    constructor
    · apply happended.refundsKnown hknown
      · intro t ht hof
        rw [(mem_refund ht).1] at hof
        simp [LoyaltyTransaction.isOf, refundRow] at hof
      · intro t ht _
        obtain ⟨rfl, hpos⟩ := mem_refund ht
        exact ⟨neg_nonpos.mpr hpos.le, _, hafter, rfl⟩
      · intro i honce
        rwa [not_earns_of_refund]
    · intro hwithin
      rw [happended.within_iff_order hknown hwithin hafter]
      change _ ≤ leftOfOrder db row.orderId ↔ _
      rw [orderRevocation_le_left hknown hwithin hrow hopen]
      constructor
      · intro hle row' customerId' program' account' hrow' _ hcustomer' hprogram' haccount'
        obtain rfl := mem_unique hrow hrow'
        obtain rfl := mem_unique hcustomer hcustomer'
        obtain rfl := mem_unique hprogram hprogram'
        obtain rfl := mem_unique haccount haccount'
        exact hle
      · intro hguard
        exact hguard row customerId program account hrow hopen hcustomer hprogram haccount

lemma points_step {e : LoyaltyEvent} (hknown : RefundsKnown db) (h : PointsStep companyId db e db') :
    RefundsKnown db' ∧ (WithinEarned db → (WithinEarned db' ↔ RevokesWithin companyId db e)) := by
  cases e with
  | sell dto checkout =>
    obtain ⟨new, hgained⟩ := createSale_gained h
    exact ⟨hgained.refundsKnown hknown, fun hwithin => hgained.within_iff hknown hwithin trivial⟩
  | deliver id now =>
    obtain ⟨new, hgained⟩ := deliver_gained h
    exact ⟨hgained.refundsKnown hknown, fun hwithin => hgained.within_iff hknown hwithin trivial⟩
  | confirmSaleReturn id => exact confirmSaleReturn_step hknown h
  | confirmOrderReturn id => exact confirmOrderReturn_step hknown h
  | elsewhere records =>
    obtain ⟨new, hgained⟩ := h.2.gained
    exact ⟨hgained.refundsKnown hknown, fun hwithin => hgained.within_iff hknown hwithin trivial⟩

def requestedReturn : SaleReturn := { id := 7, number := "SR-1", saleId := some 1, gross := 100, status := .requested }

def requested (db : LoyaltyDb) (earnRate : ℚ) : Records :=
  { db.records with
    programs := Table.empty.put { id := 1, companyId := 1, earnRate, createdAt := 0 }
    sales := Table.empty.put { id := 1, customerId := some 5 }
    saleReturns := Table.empty.put requestedReturn }

def afterSales : LoyaltyDb := (execute (twoSales.forM (LoyaltyEvent.tx 1)) newCustomer).2

def beforeReturn (earnRate : ℚ) : LoyaltyDb := { afterSales with records := requested afterSales earnRate }

def afterReturn (earnRate : ℚ) : LoyaltyDb := (execute (confirmSaleReturn 1 7) (beforeReturn earnRate)).2

def saleReturned (earnRate : ℚ) : List LoyaltyEvent :=
  twoSales ++ [.elsewhere (requested afterSales earnRate), .confirmSaleReturn 7]

lemma run_twoSales : Run (PointsStep 1) newCustomer twoSales afterSales := by
  have hfirst : Run (LoyaltyStep 1) newCustomer twoSales afterSales := run_of_execute (by decide +kernel)
  obtain ⟨db₁, h₁, hrest⟩ := Run.cons_iff.mp hfirst
  obtain ⟨db₂, h₂, hnil⟩ := Run.cons_iff.mp hrest
  exact Run.cons h₁ (Run.cons h₂ (Run.nil_iff.mp hnil ▸ Run.nil _))

lemma outside_beforeReturn (earnRate : ℚ) : Outside afterSales (beforeReturn earnRate) := by
  have hsales : afterSales.records.saleReturns.rows = [] := by decide +kernel
  have horders : afterSales.records.orderReturns.rows = [] := by decide +kernel
  refine ⟨⟨?_, ?_⟩, [], (append_nil _).symm, by simp⟩
  · intro id row hrow
    simp [Table.find?, hsales] at hrow
  · intro id row hrow
    simp [Table.find?, horders] at hrow

lemma refundsKnown_newCustomer : RefundsKnown newCustomer :=
  ⟨by simp [newCustomer], by simp [newCustomer], by simp [newCustomer]⟩

lemma withinEarned_newCustomer : WithinEarned newCustomer := ⟨fun _ => le_rfl, fun _ => le_rfl⟩

end Mayatoko.Loyalty
