import Mayatoko.Core.Tally
import Mayatoko.Loyalty.Points

/-!
# The ledger of a loyalty account

The points of an account are the sum of its transactions and never negative, and every transaction
has the points right after it. Each service posts at most a redemption and one further transaction;
all balances come out right except that of a sale which earns without redeeming: it starts from
zero instead of the points of the account.
-/

namespace Mayatoko.Loyalty

open Core TableOf LoyaltyDb

variable {db db' : LoyaltyDb} {companyId : ℕ}

/-- The points of an account, none when it has not been opened. -/
def pointsOf (db : LoyaltyDb) (key : AccountKey) : ℤ :=
  (db.accounts.find? key).elim 0 LoyaltyAccount.points

def entriesOf (db : LoyaltyDb) (key : AccountKey) : List LoyaltyTransaction :=
  db.transactions.filter fun t => t.accountId = key

/-- What a ledger has to satisfy. As the points are the sum of the transactions whenever one has been
posted, a running balance is the points right after its transaction. -/
structure LedgerRight (db : LoyaltyDb) : Prop where
  sum : ∀ key, pointsOf db key = ((entriesOf db key).map LoyaltyTransaction.points).sum
  nonneg : ∀ key, 0 ≤ pointsOf db key
  running : ∀ key, RunningBalances LoyaltyTransaction.points LoyaltyTransaction.balanceAfter
    (entriesOf db key)

/-! ### Postings -/

/-- The account of `t` moves by the points of `t`, and `t` is appended. -/
structure Posted (t : LoyaltyTransaction) (db db' : LoyaltyDb) : Prop where
  account : pointsOf db' t.accountId = pointsOf db t.accountId + t.points
  others : ∀ key, key ≠ t.accountId → pointsOf db' key = pointsOf db key
  transactions : db'.transactions = db.transactions ++ [t]

lemma LedgerRight.congr (h : LedgerRight db) (hpoints : ∀ key, pointsOf db' key = pointsOf db key)
    (htransactions : db'.transactions = db.transactions) : LedgerRight db' := by
  have hentries (key : AccountKey) : entriesOf db' key = entriesOf db key := by
    rw [entriesOf, htransactions, entriesOf]
  constructor
  case sum =>
    intro key
    rw [hpoints, hentries]
    exact h.sum key
  case nonneg =>
    intro key
    rw [hpoints]
    exact h.nonneg key
  case running =>
    intro key
    rw [hentries]
    exact h.running key

lemma Posted.right_iff {t : LoyaltyTransaction} (hp : Posted t db db') (h : LedgerRight db) :
    LedgerRight db' ↔ t.balanceAfter = pointsOf db' t.accountId ∧ 0 ≤ pointsOf db' t.accountId := by
  have hself : entriesOf db' t.accountId = entriesOf db t.accountId ++ [t] := by
    simp [entriesOf, hp.transactions]
  have hother {key : AccountKey} (hne : key ≠ t.accountId) : entriesOf db' key = entriesOf db key := by
    simp [entriesOf, hp.transactions, hne.symm]
  constructor
  · intro h'
    have hrunning := h'.running t.accountId
    rw [hself, runningBalances_append_singleton, ← h.sum] at hrunning
    exact ⟨hrunning.2.trans hp.account.symm, h'.nonneg t.accountId⟩
  · rintro ⟨hbalance, hnonneg⟩
    constructor
    case sum =>
      intro key
      by_cases hkey : key = t.accountId
      · subst hkey
        rw [hp.account, hself, h.sum]
        simp
      · rw [hp.others key hkey, hother hkey]
        exact h.sum key
    case nonneg =>
      intro key
      by_cases hkey : key = t.accountId
      · rwa [hkey]
      · rw [hp.others key hkey]
        exact h.nonneg key
    case running =>
      intro key
      by_cases hkey : key = t.accountId
      · rw [hkey, hself, runningBalances_append_singleton, ← h.sum, ← hp.account]
        exact ⟨h.running t.accountId, hbalance⟩
      · rw [hother hkey]
        exact h.running key

variable {account : LoyaltyAccount}

lemma posted_of_write {t : LoyaltyTransaction} (hkey : account.key = t.accountId)
    (hpoints : account.points = pointsOf db t.accountId + t.points)
    (haccounts : db'.accounts = db.accounts.put account)
    (htransactions : db'.transactions = db.transactions ++ [t]) : Posted t db db' := by
  constructor
  case account =>
    rw [pointsOf, haccounts, ← hkey, find?_put_self, hkey, ← hpoints]
    rfl
  case others =>
    intro key hne
    rw [pointsOf, haccounts, find?_put_of_ne _ (hkey ▸ hne)]
    rfl
  case transactions => exact htransactions

lemma pointsOf_eq {key : AccountKey}
    (h : db.accounts.find? key = some account) : pointsOf db key = account.points := by
  rw [pointsOf, h]
  rfl

lemma LedgerRight.posted {t : LoyaltyTransaction} (h : LedgerRight db) (hp : Posted t db db')
    (hbalance : t.balanceAfter = pointsOf db t.accountId + t.points)
    (hnonneg : 0 ≤ pointsOf db t.accountId + t.points) : LedgerRight db' := by
  rw [hp.right_iff h, hp.account]
  exact ⟨hbalance, hnonneg⟩

/-! ### What the services post -/

variable {customerId : ℕ}

lemma openAccount_commits {programId : ℕ} (h : Commits (openAccount programId customerId) db account db') :
    account.key = (programId, customerId) ∧ db'.accounts.find? account.key = some account ∧
      (∀ key, pointsOf db' key = pointsOf db key) ∧ db'.transactions = db.transactions := by
  obtain ⟨haccount, rfl⟩ := commits_upsert.mp h
  change account = (Table.find? db.accounts (programId, customerId)).elim _ id at haccount
  have hkey : account.key = (programId, customerId) ∧ account.points = pointsOf db (programId, customerId) := by
    cases hfind : db.accounts.find? (programId, customerId) with
    | none =>
      rw [hfind] at haccount
      subst haccount
      exact ⟨rfl, by simp [pointsOf, hfind]⟩
    | some old =>
      rw [hfind] at haccount
      subst haccount
      exact ⟨(find?_eq_some.mp hfind).2, (pointsOf_eq hfind).symm⟩
  refine ⟨hkey.1, find?_put_self _ _, fun key => ?_, rfl⟩
  by_cases hk : key = account.key
  · subst hk
    rw [pointsOf_eq (find?_put_self _ _), hkey.1, hkey.2]
  · exact congrArg (Option.elim · 0 LoyaltyAccount.points) (find?_put_of_ne _ hk)

variable {s : LoyaltyDb}

lemma Posted.of_same {t : LoyaltyTransaction} (h : Posted t s db')
    (hpoints : ∀ key, pointsOf s key = pointsOf db key)
    (htransactions : s.transactions = db.transactions) : Posted t db db' := by
  constructor
  case account => rw [h.account, hpoints]
  case others =>
    intro key hne
    rw [h.others key hne, hpoints]
  case transactions => rw [h.transactions, htransactions]

lemma post_commits {f : LoyaltyAccount → LoyaltyAccount}
    {t : LoyaltyTransaction} (h : Commits (post t f) db () db')
    (hfind : db.accounts.find? t.accountId = some account) (hkey : (f account).key = account.key)
    (hpoints : (f account).points = account.points + t.points) : Posted t db db' := by
  simp only [post, commits_bind, commits_update, commits_modify] at h
  obtain ⟨_, _, ⟨old, hold, rfl, rfl⟩, rfl⟩ := h
  obtain rfl := mem_unique hfind hold
  have hid : account.key = t.accountId := (find?_eq_some.mp hfind).2
  apply @posted_of_write _ _ (f account)
  · exact hkey.trans hid
  · rw [hpoints, pointsOf_eq hfind]
  · rfl
  · rfl

variable {saleId : ℕ}

lemma redeem_commits {n : ℕ} {balance : ℤ} (hn : 0 < n) (hfind : db.accounts.find? account.key = some account)
    (h : Commits (redeem saleId n (some account)) db balance db') :
    ∃ t, Posted t db db' ∧ t.accountId = account.key ∧ t.points = -n ∧
      t.balanceAfter = account.points - n ∧ balance = account.points - n := by
  simp only [redeem, if_pos hn, commits_steps] at h
  obtain ⟨_, _, hpost, rfl, rfl⟩ := h
  exact ⟨_, post_commits hpost hfind rfl (sub_eq_add_neg _ _), rfl, rfl, rfl, rfl⟩

variable {program : LoyaltyProgram}

lemma earn_commits {points balance : ℤ}
    (h : Commits (earn program saleId customerId points balance) db () db') :
    points ≤ 0 ∧ db = db' ∨ 0 < points ∧ ∃ t, Posted t db db' ∧
      t.accountId = (program.id, customerId) ∧ t.points = points ∧
      t.balanceAfter = balance + points := by
  simp only [earn, commits_ite, commits_steps] at h
  rcases h with ⟨hpos, account, s, hopen, hpost⟩ | ⟨hpos, _, rfl⟩
  · right
    obtain ⟨hkey, hfind, hsame, htransactions⟩ := openAccount_commits hopen
    have hposted := post_commits hpost hfind rfl rfl
    exact ⟨hpos, _, hposted.of_same hsame htransactions, hkey, rfl, rfl⟩
  · exact .inl ⟨not_lt.mp hpos, rfl⟩

lemma earnOrder_ledgerRight {order : Order} {now : ℤ}
    (hright : LedgerRight db) (h : Commits (earnOrder program order customerId now) db () db') :
    LedgerRight db' := by
  simp only [earnOrder, commits_steps, commits_ite] at h
  obtain ⟨⟨_, hpos⟩, account, s, hopen, hpost⟩ | ⟨_, _, rfl⟩ := h
  · obtain ⟨hkey, hfind, hsame, htransactions⟩ := openAccount_commits hopen
    have hposted := post_commits hpost hfind rfl rfl
    have hs : LedgerRight s := hright.congr hsame htransactions
    apply hs.posted hposted
    · rw [pointsOf_eq hfind]
    · exact add_nonneg (hs.nonneg _) hpos.le
  · exact hright

lemma revoke_ledgerRight {points : ℤ} {referenceType notes : String} {referenceId : ℕ} (hright : LedgerRight db)
    (hfind : db.accounts.find? account.key = some account) (hle : points ≤ account.points)
    (h : Commits (revoke account points referenceType referenceId notes) db () db') :
    LedgerRight db' := by
  simp only [revoke, commits_ite, commits_pure] at h
  obtain ⟨_, hpost⟩ | ⟨_, _, rfl⟩ := h
  · apply hright.posted (post_commits hpost hfind rfl (sub_eq_add_neg _ _))
    · rw [pointsOf_eq hfind]
      exact sub_eq_add_neg _ _
    · rw [pointsOf_eq hfind]
      change 0 ≤ account.points + -points
      omega
  · exact hright

/-! ### Sales -/

@[simp] lemma commits_liftExcept {α : Type} {x : Except Failure α} {a : α} :
    Commits (liftExcept x) db a db' ↔ x = .ok a ∧ db = db' := by
  cases x <;> simp [liftExcept]

variable {res : Option LoyaltyAccount × ℚ}

lemma lookupRedemption_zero {program : Option (LoyaltyProgram × ℕ)} :
    Commits (lookupRedemption s program 0) db res db' ↔ (none, 0) = res ∧ db = db' := by
  cases program <;> simp [lookupRedemption]

lemma lookupRedemption_pos {n : ℕ} (hn : 0 < n)
    (h : Commits (lookupRedemption s (some (program, customerId)) n) db res db') :
    ∃ account, res.1 = some account ∧ s.accounts.find? (program.id, customerId) = some account ∧
      n ≤ account.points ∧ db = db' := by
  simp only [lookupRedemption, if_pos hn, commits_steps] at h
  obtain ⟨account, hfind, hpoints, _, _, rfl, rfl⟩ := h
  exact ⟨account, rfl, hfind, hpoints, rfl⟩

/-- A sale without redemption that earns points is made when the customer has none. -/
def EarnsFromZero (companyId : ℕ) (dto : SaleRequest) (checkout : ℚ → Except Failure ℚ)
    (db : LoyaltyDb) : Prop :=
  dto.redeemPoints = 0 → ∀ program customerId, db.saleProgram companyId dto =
    some (program, customerId) → ∀ total, checkout 0 = .ok total →
      0 < ⌊total * program.earnRate⌋ → pointsOf db (program.id, customerId) = 0

variable {checkout : ℚ → Except Failure ℚ}

/-- A sale that redeems keeps the ledger right. -/
lemma createSale_of_redeem {dto : SaleRequest} (hright : LedgerRight db) (hredeem : 0 < dto.redeemPoints)
    (h : Commits (createSale companyId dto checkout) db () db') : LedgerRight db' := by
  simp only [createSale, commits_steps, commits_liftExcept] at h
  obtain ⟨_, _, res, _, hlookup, total, htotal, hpoints⟩ := h
  cases hprogram : db.saleProgram companyId dto with
  | none =>
    rw [hprogram] at hlookup hpoints
    obtain ⟨_, rfl⟩ := commits_pure.mp hlookup
    obtain ⟨_, rfl⟩ := commits_pure.mp hpoints
    exact hright
  | some pc =>
    obtain ⟨program, customerId⟩ := pc
    rw [hprogram] at hlookup hpoints
    obtain ⟨account, hres, hfind, hle, rfl⟩ := lookupRedemption_pos hredeem hlookup
    simp only [hres, commits_bind] at hpoints
    obtain ⟨balance, s, hs, hearn⟩ := hpoints
    have hkey : account.key = (program.id, customerId) := (find?_eq_some.mp hfind).2
    rw [← hkey] at hfind
    obtain ⟨t, hposted, hid, ht, hbalance, rfl⟩ := redeem_commits hredeem hfind hs
    have hpointsOf : pointsOf db t.accountId = account.points := by rw [hid, pointsOf_eq hfind]
    have hright' : LedgerRight s := by
      apply hright.posted hposted
      · rw [hpointsOf, hbalance, ht, sub_eq_add_neg]
      · rw [hpointsOf, ht]
        omega
    obtain ⟨_, rfl⟩ | ⟨hpos, t', hposted', hid', ht', hbalance'⟩ := earn_commits hearn
    · exact hright'
    · have hleft : pointsOf s t'.accountId = account.points - dto.redeemPoints := by
        rw [hid', ← hkey, ← hid, hposted.account, hpointsOf, ht, sub_eq_add_neg]
      apply hright'.posted hposted'
      · rw [hleft, hbalance', ht']
      · rw [hleft, ht']
        omega

/-- A sale without redemption keeps the ledger right if and only if the customer had no points, or
nothing is earned. -/
lemma createSale_iff {dto : SaleRequest}
    (hright : LedgerRight db) (h : Commits (createSale companyId dto checkout) db () db') :
    LedgerRight db' ↔ EarnsFromZero companyId dto checkout db := by
  rcases Nat.eq_zero_or_pos dto.redeemPoints with hzero | hpos
  · simp only [createSale, commits_bind, commits_get, commits_require, commits_liftExcept, hzero,
      lookupRedemption_zero] at h
    obtain ⟨_, _, ⟨rfl, rfl⟩, _, _, ⟨_, rfl⟩, _, _, ⟨_, rfl⟩, _, _, ⟨rfl, rfl⟩, total, _,
      ⟨htotal, rfl⟩, hpoints⟩ := h
    cases hprogram : db.saleProgram companyId dto with
    | none =>
      rw [hprogram] at hpoints
      obtain ⟨_, rfl⟩ := commits_pure.mp hpoints
      simp [hright, EarnsFromZero, hprogram]
    | some pc =>
      obtain ⟨program, customerId⟩ := pc
      simp only [hprogram, commits_bind, redeem, commits_pure] at hpoints
      obtain ⟨_, _, ⟨rfl, rfl⟩, hearn⟩ := hpoints
      obtain ⟨hle, rfl⟩ | ⟨hpos, t, hposted, hid, ht, hbalance⟩ := earn_commits hearn
      · simp only [hright, true_iff]
        intro _ program' customerId' hprogram' total' htotal' hpos
        obtain ⟨rfl, rfl⟩ := Prod.mk.inj (mem_unique hprogram hprogram')
        obtain rfl := Except.ok.inj (htotal.symm.trans htotal')
        exact absurd hpos (not_lt.mpr hle)
      · have hafter : pointsOf db' t.accountId =
            pointsOf db (program.id, customerId) + ⌊total * program.earnRate⌋ := by
          rw [hposted.account, hid, ht]
        have hnonneg := hright.nonneg (program.id, customerId)
        rw [hposted.right_iff hright, hafter, hbalance]
        constructor
        · rintro ⟨hzero', _⟩ _ program' customerId' hprogram' _ _ _
          obtain ⟨rfl, rfl⟩ := Prod.mk.inj (mem_unique hprogram hprogram')
          omega
        · intro hzero'
          rw [hzero' hzero program customerId hprogram total htotal hpos]
          omega
  · simp [createSale_of_redeem hright hpos h, EarnsFromZero, hpos.ne']

/-! ### Orders and returns -/

lemma LedgerRight.of_records (h : LedgerRight db) (haccounts : db'.accounts = db.accounts)
    (htransactions : db'.transactions = db.transactions) : LedgerRight db' := by
  refine h.congr (fun key => ?_) htransactions
  rw [pointsOf, haccounts, pointsOf]

lemma deliver_ledgerRight {id : ℕ} {now : ℤ} (hright : LedgerRight db)
    (h : Commits (deliver companyId id now) db () db') : LedgerRight db' := by
  simp only [deliver, commits_steps, commits_ite, commits_update] at h
  obtain ⟨order, _, ⟨_, _, rfl⟩ | ⟨_, _, _, _, _, ⟨_, _, rfl, rfl⟩, _, _, ⟨_, _, rfl, rfl⟩, hearn⟩⟩ := h
  · exact hright
  · split at hearn
    · refine earnOrder_ledgerRight ?_ hearn
      exact hright.of_records rfl rfl
    · obtain ⟨_, rfl⟩ := commits_pure.mp hearn
      exact hright.of_records rfl rfl

lemma accountOfSale_found
    (h : db.accountOfSale program saleId = some account) :
    db.accounts.find? account.key = some account := by
  obtain ⟨sale, _, hsale⟩ := Option.bind_eq_some_iff.mp h
  obtain ⟨customerId, _, hfind⟩ := Option.bind_eq_some_iff.mp hsale
  exact (find?_eq_some.mp hfind).2 ▸ hfind

lemma confirmSaleReturn_ledgerRight {id : ℕ} (hright : LedgerRight db)
    (h : Commits (confirmSaleReturn companyId id) db () db') : LedgerRight db' := by
  simp only [confirmSaleReturn, commits_steps, commits_update] at h
  obtain ⟨row, _, _, _, s, hrevoke, _, _, ⟨_, _, rfl, rfl⟩, _, rfl⟩ := h
  have hs : LedgerRight s := by
    unfold revokeSale at hrevoke
    split at hrevoke
    · split at hrevoke
      next account haccount =>
        exact revoke_ledgerRight hright (accountOfSale_found haccount) (min_le_right _ _) hrevoke
      next => exact (commits_pure.mp hrevoke).2 ▸ hright
    · exact (commits_pure.mp hrevoke).2 ▸ hright
  exact hs.of_records rfl rfl

lemma orderRevocation_le {row : OrderReturn} (hnonneg : 0 ≤ account.points) :
    db.orderRevocation program row account ≤ account.points := by
  unfold orderRevocation
  dsimp only
  split
  · exact hnonneg
  · exact min_le_right _ _

lemma confirmOrderReturn_ledgerRight {id : ℕ} (hright : LedgerRight db)
    (h : Commits (confirmOrderReturn companyId id) db () db') : LedgerRight db' := by
  simp only [confirmOrderReturn, commits_steps, commits_ite, commits_update] at h
  obtain ⟨row, _, ⟨_, _, rfl⟩ | ⟨_, _, _, s, hrevoke, _, _, ⟨_, _, rfl, rfl⟩, _, rfl⟩⟩ := h
  · exact hright
  · have hs : LedgerRight s := by
      unfold revokeOrder at hrevoke
      split at hrevoke
      · split at hrevoke
        next account haccount =>
          have hnonneg := pointsOf_eq haccount ▸ hright.nonneg _
          have hkey := (find?_eq_some.mp haccount).2
          exact revoke_ledgerRight hright (hkey ▸ haccount) (orderRevocation_le hnonneg) hrevoke
        next => exact (commits_pure.mp hrevoke).2 ▸ hright
      · exact (commits_pure.mp hrevoke).2 ▸ hright
    exact hs.of_records rfl rfl

/-! ### Histories -/

/-- An operation on the points of customers, or any other operation, which leaves accounts and
transactions alone. -/
inductive LoyaltyEvent
  | sell (dto : SaleRequest) (checkout : ℚ → Except Failure ℚ)
  | deliver (id : ℕ) (now : ℤ)
  | confirmSaleReturn (id : ℕ)
  | confirmOrderReturn (id : ℕ)
  | elsewhere (records : Records)

def LoyaltyEvent.tx (companyId : ℕ) : LoyaltyEvent → LoyaltyTx Unit
  | sell dto checkout => createSale companyId dto checkout
  | deliver id now => Loyalty.deliver companyId id now
  | confirmSaleReturn id => Loyalty.confirmSaleReturn companyId id
  | confirmOrderReturn id => Loyalty.confirmOrderReturn companyId id
  | elsewhere records => modify fun db => { db with records }

def LoyaltyStep (companyId : ℕ) (db : LoyaltyDb) (e : LoyaltyEvent) (db' : LoyaltyDb) : Prop :=
  Commits (e.tx companyId) db () db'

/-- A sale of the step meets `EarnsFromZero`. -/
def EarnsRight (companyId : ℕ) (db : LoyaltyDb) (e : LoyaltyEvent) : Prop :=
  ∀ dto checkout, e = .sell dto checkout → EarnsFromZero companyId dto checkout db

lemma ledgerRight_step {e : LoyaltyEvent} (hright : LedgerRight db)
    (h : LoyaltyStep companyId db e db') : LedgerRight db' ↔ EarnsRight companyId db e := by
  cases e with
  | sell dto checkout =>
    rw [createSale_iff hright h]
    constructor
    · rintro hzero _ _ ⟨⟩
      exact hzero
    · intro hzero
      exact hzero dto checkout rfl
  | deliver id now => simp [deliver_ledgerRight hright h, EarnsRight]
  | confirmSaleReturn id => simp [confirmSaleReturn_ledgerRight hright h, EarnsRight]
  | confirmOrderReturn id => simp [confirmOrderReturn_ledgerRight hright h, EarnsRight]
  | elsewhere records =>
    have hright' : LedgerRight db' := by
      rw [← commits_modify.mp h]
      exact hright.of_records rfl rfl
    simp [hright', EarnsRight]

/-- From a right ledger, all ledgers of a history are right if and only if every sale that earns
without redeeming is made when its customer has no points. -/
theorem ledgerRight_iff {db₀ : LoyaltyDb} {events : List LoyaltyEvent} (hright : LedgerRight db₀) :
    Run (Landing LedgerRight (LoyaltyStep companyId)) db₀ events db ↔
      Run (Guarded (EarnsRight companyId) (LoyaltyStep companyId)) db₀ events db :=
  Run.landing_iff_guarded (fun _ _ _ hs hstep => ledgerRight_step hs hstep) hright

/-! ### Concrete histories -/

def newCustomer : LoyaltyDb where
  records :=
    { programs := Table.empty.put { id := 1, companyId := 1, createdAt := 0 }
      customers := Table.empty.put { id := 5, companyId := 1 }
      sales := Table.empty
      saleReturns := Table.empty
      orders := Table.empty
      shipments := Table.empty
      orderReturns := Table.empty }
  accounts := Table.empty
  transactions := []

lemma ledgerRight_newCustomer : LedgerRight newCustomer := by
  constructor
  case sum => exact fun _ => rfl
  case nonneg => exact fun _ => le_rfl
  case running => exact fun _ => runningBalances_nil

def twoSales : List LoyaltyEvent :=
  [.sell { saleId := 1, customerId := some 5 } fun _ => .ok 100,
    .sell { saleId := 2, customerId := some 5 } fun _ => .ok 50]

def sellThenRedeem : List LoyaltyEvent :=
  [.sell { saleId := 1, customerId := some 5 } fun _ => .ok 100,
    .sell { saleId := 2, customerId := some 5, redeemPoints := 40 } fun d => .ok (50 - d)]

lemma run_of_execute {db₀ : LoyaltyDb} {events : List LoyaltyEvent}
    (h : (execute (events.forM (LoyaltyEvent.tx companyId)) db₀).1 = .ok ()) :
    Run (LoyaltyStep companyId) db₀ events
      (execute (events.forM (LoyaltyEvent.tx companyId)) db₀).2 :=
  commits_forM_iff_run.mp (commits_of_execute h)

/-- After the second sale the account has 150 points, its last transaction a balance of 50. -/
theorem twoSales_notRight : ∃ db, Run (LoyaltyStep 1) newCustomer twoSales db ∧ pointsOf db (1, 5) = 150 ∧
      (entriesOf db (1, 5)).map LoyaltyTransaction.balanceAfter = [100, 50] ∧
      ¬ LedgerRight db := by
  have hbalances : (entriesOf (execute (twoSales.forM (LoyaltyEvent.tx 1)) newCustomer).2
      (1, 5)).map LoyaltyTransaction.balanceAfter = [100, 50] := by decide +kernel
  have hpoints : (entriesOf (execute (twoSales.forM (LoyaltyEvent.tx 1)) newCustomer).2
      (1, 5)).map LoyaltyTransaction.points = [100, 50] := by decide +kernel
  refine ⟨_, run_of_execute (by decide +kernel), by decide +kernel, hbalances, fun hright => ?_⟩
  have hrunning := hright.running (1, 5)
  obtain ⟨t₁, rest, heq, h₁, hrest⟩ := List.map_eq_cons_iff.mp hbalances
  obtain ⟨t₂, rest', rfl, h₂, hnil⟩ := List.map_eq_cons_iff.mp hrest
  obtain rfl := List.map_eq_nil_iff.mp hnil
  rw [heq] at hrunning hpoints
  have hlast := hrunning [t₁] t₂ [] rfl
  simp only [map_cons, List.map_nil, List.cons.injEq, and_true] at hpoints
  simp [h₂, hpoints.1, hpoints.2] at hlast

theorem ledgerRight_sellThenRedeem :
    ∃ db, Run (Landing LedgerRight (LoyaltyStep 1)) newCustomer sellThenRedeem db ∧
      pointsOf db (1, 5) = 70 := by
  obtain ⟨db₁, hfirst, hrest⟩ := Run.cons_iff.mp
    (show Run (LoyaltyStep 1) newCustomer sellThenRedeem _ from run_of_execute (by decide +kernel))
  obtain ⟨db₂, hsecond, hnil⟩ := Run.cons_iff.mp hrest
  refine ⟨db₂, (ledgerRight_iff ledgerRight_newCustomer).mpr
    (Run.cons ⟨?_, hfirst⟩ (Run.cons ⟨?_, hsecond⟩ (Run.nil db₂))), ?_⟩
  · rintro _ _ ⟨⟩ _ _ _ _ _ _ _
    rfl
  · rintro _ _ ⟨⟩ hzero
    cases hzero
  · rw [Run.nil_iff.mp hnil]
    decide +kernel

end Mayatoko.Loyalty
