import Mayatoko.Core.Fifo
import Mayatoko.Loyalty.Ledger

/-!
# Expiry of loyalty points

`processLoyaltyExpiries` of the worker and `loyaltyTransaction` of `ExtensionsService`. The job replays
the ledger of an account, in which debits are taken from the oldest grant that has points left, and takes
what is left of the grants that are due. Its own debits are replayed like any other: they are charged to
older grants that are not due, if there are any, and the due points are taken again.
-/

namespace Mayatoko.Loyalty

open Core TableOf LoyaltyDb

/-! ### The job -/

def buckets (ledger : List LoyaltyTransaction) : List (Lot (Option ℤ) ℤ) :=
  ledger.foldl (fun buckets row =>
    if 0 < row.points then buckets ++ [⟨row.expiresAt, row.points⟩]
    else takeLots buckets |row.points|) []

def isDue (now : ℤ) (expiresAt : Option ℤ) : Bool := expiresAt.any (· ≤ now)

/-- Take points that expired from an account. The row also names the grants that were due, but the replay
does not read their names. -/
def postExpiry (account : LoyaltyAccount) (expiring : ℤ) : LoyaltyTx ℤ := do
  let nextBalance := account.points - expiring
  post
    { accountId := account.key, type := .expire, points := -expiring, balanceAfter := nextBalance,
      referenceType := "LoyaltyExpiry", referenceId := 0,
      notes := some s!"Poin kedaluwarsa otomatis: {expiring}" }
    fun a => { a with points := nextBalance }
  pure expiring

def expiringPoints (ledger : List LoyaltyTransaction) (points now : ℤ) : ℤ :=
  let due := (buckets ledger).filter fun bucket => 0 < bucket.remaining && isDue now bucket.label
  min (due.map Lot.remaining).sum points

def expireAccount (account : LoyaltyAccount) (now : ℤ) : LoyaltyTx ℤ := do
  let db ← get
  let expiring := expiringPoints (entriesOf db account.key) account.points now
  if expiring ≤ 0 then pure 0 else postExpiry account expiring

def expirePoints (accountId : AccountKey) (now : ℤ) : LoyaltyTx ℤ := do
  let db ← get
  match (db.accounts.find? accountId).filter (fun a => 0 < a.points) with
  | none => pure 0
  | some account =>
    match db.records.programs.find? account.programId with
    | none => pure 0
    | some _ => expireAccount account now

def LoyaltyDb.expiryCandidates (db : LoyaltyDb) (now : ℤ) : List AccountKey :=
  ((db.transactions.filter fun t => 0 < t.points && isDue now t.expiresAt).map
    LoyaltyTransaction.accountId).eraseDups.take 100

def processLoyaltyExpiries (now : ℤ) (db : LoyaltyDb) : LoyaltyDb :=
  (db.expiryCandidates now).foldl (fun db accountId => (execute (expirePoints accountId now) db).2) db

structure LoyaltyTransactionDto where
  (programId customerId : ℕ)
  type : LoyaltyTransactionType
  points : ℤ
  referenceType : Option String := none
  referenceId : Option ℕ := none
  notes : Option String := none

def loyaltyTransaction (companyId : ℕ) (dto : LoyaltyTransactionDto) : LoyaltyTx Unit := do
  let db ← get
  let program ← orThrow ((db.records.programs.find? dto.programId).filter fun p =>
    p.companyId = companyId && p.isActive) (tenantAccessDenied "LoyaltyProgram")
  let _ ← orThrow ((db.records.customers.find? dto.customerId).filter fun c =>
    c.companyId = companyId) (.notFound "Pelanggan tidak ditemukan.")
  let account ← openAccount program.id dto.customerId
  let next := account.points + dto.points
  require (0 ≤ next) (.badRequest "Poin pelanggan tidak mencukupi.")
  post
    { accountId := account.key, type := dto.type, points := dto.points, balanceAfter := next,
      referenceType := dto.referenceType.getD "", referenceId := dto.referenceId.getD 0,
      notes := dto.notes }
    fun a => { a with
      points := next
      lifetimePoints := if 0 < dto.points then a.lifetimePoints + dto.points else a.lifetimePoints }

/-! ### Buckets -/

variable {db db' : LoyaltyDb} {ledger : List LoyaltyTransaction} {row : LoyaltyTransaction}
  {p : Option ℤ → Bool}

/-- The points that were granted with a time of expiry that meets `p`. -/
def granted (p : Option ℤ → Bool) (ledger : List LoyaltyTransaction) : ℤ :=
  ((ledger.filter fun row => 0 < row.points && p row.expiresAt).map LoyaltyTransaction.points).sum

@[simp] lemma buckets_nil : buckets [] = [] := rfl

lemma buckets_append_singleton : buckets (ledger ++ [row]) =
    if 0 < row.points then buckets ledger ++ [⟨row.expiresAt, row.points⟩]
    else takeLots (buckets ledger) |row.points| := by
  rw [buckets, List.foldl_append]
  rfl

lemma granted_append_singleton : granted p (ledger ++ [row]) =
    granted p ledger + if 0 < row.points ∧ p row.expiresAt = true then row.points else 0 := by
  rw [granted, filter_append, map_append, List.sum_append]
  congr 1
  split_ifs with h
  · simp [h]
  · simp [h]

lemma stocked_buckets : Stocked (buckets ledger) := by
  induction ledger using List.reverseRecOn with
  | nil => exact nofun
  | append_singleton ledger row ih =>
    rw [buckets_append_singleton]
    split_ifs with hpos
    · intro lot hlot
      rcases mem_append.mp hlot with hlot | hlot
      · exact ih lot hlot
      · rw [mem_singleton.mp hlot]
        exact hpos.le
    · exact ih.takeLots (abs_nonneg _)

lemma exists_grant {lot : Lot (Option ℤ) ℤ} (h : lot ∈ buckets ledger) :
    ∃ row ∈ ledger, 0 < row.points ∧ row.expiresAt = lot.label := by
  have hlabel : lot.label ∈ (buckets ledger).map Lot.label := mem_map_of_mem h
  clear h
  induction ledger using List.reverseRecOn with
  | nil => cases hlabel
  | append_singleton ledger row ih =>
    rw [buckets_append_singleton] at hlabel
    have hold : lot.label ∈ (buckets ledger).map Lot.label →
        ∃ x ∈ ledger ++ [row], 0 < x.points ∧ x.expiresAt = lot.label := by
      intro hmem
      obtain ⟨x, hx, hgrant⟩ := ih hmem
      exact ⟨x, List.mem_append_left _ hx, hgrant⟩
    split_ifs at hlabel with hpos
    · rw [map_append, mem_append] at hlabel
      rcases hlabel with hmem | hmem
      · exact hold hmem
      · exact ⟨row, by simp, hpos, by simpa [eq_comm] using hmem⟩
    · rw [map_label_takeLots] at hlabel
      exact hold hlabel

/-! ### What the job takes -/

variable {now : ℤ}

lemma due_eq_held {lots : List (Lot (Option ℤ) ℤ)} (h : Stocked lots) :
    ((lots.filter fun lot => 0 < lot.remaining && isDue now lot.label).map Lot.remaining).sum =
      held (isDue now) lots := by
  induction lots with
  | nil => rfl
  | cons lot lots ih =>
    obtain ⟨hlot, hlots⟩ := stocked_cons.mp h
    rw [List.filter_cons, held_cons, ← ih hlots]
    cases hdue : isDue now lot.label with
    | false => simp
    | true =>
      rcases hlot.eq_or_lt with hzero | hpos
      · simp [← hzero]
      · simp [hpos]

variable {points : ℤ}

lemma expiringPoints_eq :
    expiringPoints ledger points now = min (held (isDue now) (buckets ledger)) points := by
  rw [expiringPoints, due_eq_held stocked_buckets]

structure Expired (accountId : AccountKey) (now amount : ℤ) (db db' : LoyaltyDb) : Prop where
  pos : 0 < amount
  account : ∃ account, db.accounts.find? accountId = some account ∧
    amount = min (held (isDue now) (buckets (entriesOf db accountId))) account.points ∧
    db'.accounts.find? accountId = some { account with points := account.points - amount }
  transactions : ∃ t, t.accountId = accountId ∧ t.points = -amount ∧
    db'.transactions = db.transactions ++ [t]

variable {accountId : AccountKey} {amount : ℤ}

lemma expirePoints_commits
    (h : Commits (expirePoints accountId now) db amount db') :
    amount = 0 ∧ db' = db ∨ Expired accountId now amount db db' := by
  simp only [expirePoints, commits_steps] at h
  obtain h := h
  split at h
  next =>
    obtain ⟨rfl, rfl⟩ := commits_pure.mp h
    exact .inl ⟨rfl, rfl⟩
  next account haccount =>
    obtain ⟨hfind, _⟩ := Option.filter_eq_some_iff.mp haccount
    have hkey : account.key = accountId := (find?_eq_some.mp hfind).2
    split at h
    next =>
      obtain ⟨rfl, rfl⟩ := commits_pure.mp h
      exact .inl ⟨rfl, rfl⟩
    next =>
      simp only [expireAccount, postExpiry, post, commits_steps, commits_ite, commits_update, commits_modify,
        hkey, expiringPoints_eq] at h
      obtain ⟨_, rfl, rfl⟩ | ⟨hpos, _, _, ⟨_, _, ⟨a, ha, rfl, rfl⟩, rfl⟩, rfl, rfl⟩ := h
      · exact .inl ⟨rfl, rfl⟩
      · obtain rfl := mem_unique hfind ha
        refine .inr ⟨not_le.mp hpos, ⟨account, hfind, rfl, ?_⟩, _, rfl, rfl, rfl⟩
        exact hkey ▸ find?_put_self _ _

variable {rows : List LoyaltyTransaction}

lemma entriesOf_append
    (h : db'.transactions = db.transactions ++ rows) : entriesOf db' accountId =
      entriesOf db accountId ++ rows.filter fun t => t.accountId = accountId := by
  rw [entriesOf, h, filter_append]
  rfl

lemma Expired.entriesOf
    (h : Expired accountId now amount db db') :
    ∃ t, t.points = -amount ∧ entriesOf db' accountId = entriesOf db accountId ++ [t] := by
  obtain ⟨t, hid, hpoints, htransactions⟩ := h.transactions
  refine ⟨t, hpoints, ?_⟩
  rw [entriesOf_append htransactions]
  simp [hid]

lemma Expired.buckets
    (h : Expired accountId now amount db db') : buckets (Loyalty.entriesOf db' accountId) =
      takeLots (Loyalty.buckets (Loyalty.entriesOf db accountId)) amount := by
  obtain ⟨t, hpoints, hentries⟩ := h.entriesOf
  have hpos := h.pos
  rw [hentries, buckets_append_singleton, if_neg (by omega), hpoints, abs_neg, abs_of_pos hpos]

/-! ### Running the job again -/

def SameDue (ledger : List LoyaltyTransaction) (now later : ℤ) : Prop :=
  ∀ row ∈ ledger, 0 < row.points → isDue later row.expiresAt = isDue now row.expiresAt

def ExpiresNoMore (accountId : AccountKey) (now : ℤ) (db : LoyaltyDb) : Prop :=
  ∀ later, now ≤ later → SameDue (entriesOf db accountId) now later → ∀ amount db',
    Commits (expirePoints accountId later) db amount db' → amount = 0

lemma SameDue.held_eq {later : ℤ} (h : SameDue ledger now later) :
    held (isDue later) (buckets ledger) = held (isDue now) (buckets ledger) := by
  refine held_congr fun lot hlot => ?_
  obtain ⟨row, hrow, hpos, heq⟩ := exists_grant hlot
  exact heq ▸ h row hrow hpos

lemma SameDue.commits {later : ℤ} (h : SameDue (entriesOf db accountId) now later)
    (hc : Commits (expirePoints accountId later) db amount db') :
    Commits (expirePoints accountId now) db amount db' := by
  simp only [expirePoints, commits_bind, commits_get] at hc ⊢
  obtain ⟨_, _, ⟨rfl, rfl⟩, hc⟩ := hc
  refine ⟨_, _, ⟨rfl, rfl⟩, ?_⟩
  cases haccount : (db.accounts.find? accountId).filter (fun a => 0 < a.points) with
  | none =>
    rw [haccount] at hc
    exact hc
  | some account =>
    rw [haccount] at hc
    dsimp only at hc ⊢
    have hfind := (Option.filter_eq_some_iff.mp haccount).1
    have hkey : account.key = accountId := (find?_eq_some.mp hfind).2
    cases hprogram : db.records.programs.find? account.programId with
    | none =>
      rw [hprogram] at hc
      exact hc
    | some program =>
      rw [hprogram] at hc
      simp only [expireAccount, commits_bind, commits_get, hkey, expiringPoints_eq] at hc ⊢
      obtain ⟨_, _, ⟨rfl, rfl⟩, hc⟩ := hc
      exact ⟨_, _, ⟨rfl, rfl⟩, h.held_eq ▸ hc⟩

lemma expiresNoMore_of_oldestFirst
    (hfirst : OldestFirst (isDue now) (buckets (entriesOf db accountId)))
    (h : Commits (expirePoints accountId now) db amount db') : ExpiresNoMore accountId now db' := by
  intro later hlater hsame amount' db'' hagain
  obtain ⟨rfl, rfl⟩ | hexpired := expirePoints_commits h
  · have heq := h.symm.trans (hsame.commits hagain)
    exact (Prod.mk.inj (Except.ok.inj heq)).1.symm
  · obtain ⟨hzero, _⟩ | hexpired' := expirePoints_commits (hsame.commits hagain)
    · exact hzero
    · obtain ⟨account, _, hamount, hafter⟩ := hexpired.account
      obtain ⟨account', hfind, hamount', _⟩ := hexpired'.account
      obtain rfl := mem_unique hafter hfind
      have hle : amount ≤ held (isDue now) (buckets (entriesOf db accountId)) :=
        hamount ▸ min_le_left _ _
      have hpos := hexpired'.pos
      rw [hexpired.buckets,
        stocked_buckets.held_takeLots hfirst (fun _ _ h => h) hexpired.pos.le hle] at hamount'
      -- either the due points or the points of the account are used up
      dsimp only at hamount'
      omega

/-! ### Other operations -/

/-- The transaction only adds rows to the ledgers. -/
def Appends {α : Type} (x : LoyaltyTx α) : Prop :=
  ∀ db a db', Commits x db a db' → db.transactions <+: db'.transactions

namespace Appends

variable {α β : Type}

lemma of_leaves {x : LoyaltyTx α} (h : Leaves LoyaltyDb.transactions x) : Appends x := by
  intro db a db' hc
  exact (h db a db' hc).symm ▸ List.prefix_rfl

lemma bind {x : LoyaltyTx α} {f : α → LoyaltyTx β} (hx : Appends x) (hf : ∀ a, Appends (f a)) :
    Appends (x >>= f) := by
  intro db b db' h
  obtain ⟨a, t, h₁, h₂⟩ := commits_bind.mp h
  exact (hx db a t h₁).trans (hf a t b db' h₂)

lemma ite {c : Prop} [Decidable c] {x y : LoyaltyTx α} (hx : Appends x) (hy : Appends y) :
    Appends (if c then x else y) := by
  split
  · exact hx
  · exact hy

lemma pure {a : α} : Appends (Pure.pure a) := of_leaves leaves_pure

lemma get_bind {f : LoyaltyDb → LoyaltyTx α} (hf : ∀ db, Appends (f db)) : Appends (MonadState.get >>= f) :=
  bind (of_leaves leaves_get) hf

lemma require_bind {c : Prop} [Decidable c] {e : Failure} {f : Unit → LoyaltyTx α}
    (hf : ∀ u, Appends (f u)) : Appends (require c e >>= f) :=
  bind (of_leaves leaves_require) hf

lemma orThrow_bind {o : Option β} {e : Failure} {f : β → LoyaltyTx α} (hf : ∀ b, Appends (f b)) :
    Appends (orThrow o e >>= f) :=
  bind (of_leaves leaves_orThrow) hf

lemma update_bind {ρ κ : Type} {key : ρ → κ} [DecidableEq κ] {T : TableOf LoyaltyDb key}
    (hT : T.Apart LoyaltyDb.transactions) {k : κ} {g : ρ → ρ} {e : Failure} {f : ρ → LoyaltyTx α}
    (hf : ∀ r, Appends (f r)) : Appends (T.update k g e >>= f) :=
  bind (of_leaves hT.update) hf

end Appends

lemma post_appends {t : LoyaltyTransaction} {f : LoyaltyAccount → LoyaltyAccount} : Appends (post t f) := by
  intro db u db' h
  simp only [post, commits_bind, commits_update, commits_modify] at h
  obtain ⟨_, _, ⟨_, _, _, rfl⟩, rfl⟩ := h
  exact List.prefix_append _ _

variable {customerId : ℕ}

lemma openAccount_appends {programId : ℕ} : Appends (openAccount programId customerId) := by
  have haccounts : loyaltyAccount.Apart LoyaltyDb.transactions := ⟨fun _ _ => rfl⟩
  exact .of_leaves haccounts.upsert

variable {program : LoyaltyProgram}

lemma earn_appends {saleId : ℕ} {balance : ℤ} : Appends (earn program saleId customerId points balance) :=
  (openAccount_appends.bind fun _ => post_appends).ite .pure

lemma redeem_appends {saleId n : ℕ} {account : Option LoyaltyAccount} : Appends (redeem saleId n account) := by
  cases account with
  | none => exact .pure
  | some account => exact (post_appends.bind fun _ => .pure).ite .pure

variable {s : LoyaltyDb}

lemma lookupRedemption_appends {program : Option (LoyaltyProgram × ℕ)} {n : ℕ} :
    Appends (lookupRedemption s program n) := by
  cases program with
  | none => exact .pure
  | some pc =>
    exact (Appends.orThrow_bind fun _ => .require_bind fun _ => .require_bind fun _ =>
      .require_bind fun _ => .pure).ite .pure

variable {companyId : ℕ}

lemma createSale_appends {dto : SaleRequest} {checkout : ℚ → Except Failure ℚ} :
    Appends (createSale companyId dto checkout) := by
  refine .get_bind fun _ => .require_bind fun _ => .require_bind fun _ =>
    lookupRedemption_appends.bind fun _ => Appends.bind ?_ fun _ => ?_
  · intro db a db' h
    obtain ⟨_, rfl⟩ := commits_liftExcept.mp h
    exact List.prefix_rfl
  · split
    · exact .pure
    · exact redeem_appends.bind fun _ => earn_appends

lemma earnOrder_appends {order : Order} : Appends (earnOrder program order customerId now) :=
  .get_bind fun _ => (openAccount_appends.bind fun _ => post_appends).ite .pure

variable {id : ℕ}

lemma deliver_appends : Appends (deliver companyId id now) := by
  have hshipment : shipment.Apart LoyaltyDb.transactions := ⟨fun _ _ => rfl⟩
  have horder : order.Apart LoyaltyDb.transactions := ⟨fun _ _ => rfl⟩
  refine .get_bind fun _ => .orThrow_bind fun _ => Appends.pure.ite ?_
  refine .require_bind fun _ => .require_bind fun _ => .update_bind hshipment fun _ =>
    .update_bind horder fun _ => ?_
  split
  · exact earnOrder_appends
  · exact .pure

lemma revoke_appends {account : LoyaltyAccount} {type notes : String} :
    Appends (revoke account points type id notes) :=
  post_appends.ite .pure

lemma revokeSale_appends {row : SaleReturn} : Appends (revokeSale s companyId row) := by
  unfold revokeSale
  split
  · split
    · exact revoke_appends
    · exact .pure
  · exact .pure

lemma revokeOrder_appends {row : OrderReturn} : Appends (revokeOrder s companyId row) := by
  unfold revokeOrder
  split
  · split
    · exact revoke_appends
    · exact .pure
  · exact .pure

lemma confirmSaleReturn_appends : Appends (confirmSaleReturn companyId id) := by
  have hreturns : saleReturn.Apart LoyaltyDb.transactions := ⟨fun _ _ => rfl⟩
  exact .get_bind fun _ => .orThrow_bind fun _ => .require_bind fun _ =>
    revokeSale_appends.bind fun _ => .update_bind hreturns fun _ => .pure

lemma confirmOrderReturn_appends : Appends (confirmOrderReturn companyId id) := by
  have hreturns : orderReturn.Apart LoyaltyDb.transactions := ⟨fun _ _ => rfl⟩
  exact .get_bind fun _ => .orThrow_bind fun _ => Appends.pure.ite (.require_bind fun _ =>
    revokeOrder_appends.bind fun _ => .update_bind hreturns fun _ => .pure)

lemma loyaltyTransaction_appends {dto : LoyaltyTransactionDto} : Appends (loyaltyTransaction companyId dto) :=
  .get_bind fun _ => .orThrow_bind fun _ => .orThrow_bind fun _ =>
    openAccount_appends.bind fun _ => .require_bind fun _ => post_appends

lemma LoyaltyEvent.appends {e : LoyaltyEvent} : Appends (e.tx companyId) := by
  cases e with
  | sell dto checkout => exact createSale_appends
  | deliver id now => exact deliver_appends
  | confirmSaleReturn id => exact confirmSaleReturn_appends
  | confirmOrderReturn id => exact confirmOrderReturn_appends
  | elsewhere records =>
    intro db u db' h
    obtain rfl := commits_modify.mp h
    exact List.prefix_rfl

/-! ### Runs -/

inductive ExpiryCall
  | expire (accountId : AccountKey) (now amount : ℤ)
  | loyaltyTransaction (companyId : ℕ) (dto : LoyaltyTransactionDto)
  | service (companyId : ℕ) (e : LoyaltyEvent)

inductive ExpiryStep : LoyaltyDb → ExpiryCall → LoyaltyDb → Prop
  | expire {db db' : LoyaltyDb} {accountId : AccountKey} {now amount : ℤ} :
      Commits (expirePoints accountId now) db amount db' →
        ExpiryStep db (.expire accountId now amount) db'
  | loyaltyTransaction {db db' : LoyaltyDb} {companyId : ℕ} {dto : LoyaltyTransactionDto} :
      Commits (Loyalty.loyaltyTransaction companyId dto) db () db' →
        ExpiryStep db (.loyaltyTransaction companyId dto) db'
  | service {db db' : LoyaltyDb} {companyId : ℕ} {e : LoyaltyEvent} :
      LoyaltyStep companyId db e db' → ExpiryStep db (.service companyId e) db'

lemma run_processLoyaltyExpiries : ∃ calls, Run ExpiryStep db calls (processLoyaltyExpiries now db) ∧
      ∀ c ∈ calls, ∃ accountId amount, c = .expire accountId now amount := by
  rw [processLoyaltyExpiries]
  generalize db.expiryCandidates now = candidates
  induction candidates generalizing db with
  | nil => exact ⟨[], Run.nil db, nofun⟩
  | cons accountId candidates ih =>
    obtain ⟨calls, hrun, hcalls⟩ := @ih (execute (expirePoints accountId now) db).2
    rcases execute_cases (expirePoints accountId now) db with ⟨amount, _, hc⟩ | ⟨_, _, hsame⟩
    · refine ⟨.expire accountId now amount :: calls, Run.cons (.expire hc) hrun, ?_⟩
      exact forall_mem_cons.mpr ⟨⟨accountId, amount, rfl⟩, hcalls⟩
    · rw [hsame] at hrun
      rw [List.foldl_cons, hsame]
      exact ⟨calls, hrun, hcalls⟩

def TakesOldest (db : LoyaltyDb) : ExpiryCall → Prop
  | .expire accountId now _ => OldestFirst (isDue now) (buckets (entriesOf db accountId))
  | _ => True

instance (db : LoyaltyDb) (c : ExpiryCall) : Decidable (TakesOldest db c) := by
  unfold TakesOldest
  split <;> infer_instance

def Settles : ExpiryCall → LoyaltyDb → Prop
  | .expire accountId now _, db' => ExpiresNoMore accountId now db'
  | _, _ => True

def ExpiryCall.takenFrom (accountId : AccountKey) : ExpiryCall → ℤ
  | expire key _ amount => if key = accountId then amount else 0
  | _ => 0

def takenFrom (accountId : AccountKey) (calls : List ExpiryCall) : ℤ :=
  (calls.map (ExpiryCall.takenFrom accountId)).sum

def ExpiryCall.Until (accountId : AccountKey) (time : ℤ) : ExpiryCall → Prop
  | expire key now _ => key = accountId → now ≤ time
  | _ => True

/-- What was granted until a time and is not there any more. -/
def spent (ledger : List LoyaltyTransaction) (p : Option ℤ → Bool) : ℤ :=
  granted p ledger - held p (buckets ledger)

lemma spent_le_append_singleton : spent ledger p ≤ spent (ledger ++ [row]) p := by
  rw [spent, spent, granted_append_singleton, buckets_append_singleton]
  split_ifs with hgrant hpos hpos
  · rw [held_append, held_cons, held_nil, if_pos hgrant.2]
    dsimp only
    omega
  · exact absurd hgrant.1 hpos
  · rw [held_append, held_cons, held_nil]
    split_ifs with hp
    · exact absurd ⟨hpos, hp⟩ hgrant
    · omega
  · have hle : held p (takeLots (buckets ledger) |row.points|) ≤ held p (buckets ledger) :=
      stocked_buckets.held_takeLots_le (abs_nonneg row.points)
    omega

lemma spent_le_append : spent ledger p ≤ spent (ledger ++ rows) p := by
  induction rows using List.reverseRecOn with
  | nil => rw [append_nil]
  | append_singleton rows row ih =>
    rw [← append_assoc]
    exact ih.trans spent_le_append_singleton

lemma spent_nonneg : 0 ≤ spent ledger p := by
  have h : spent [] p ≤ spent ([] ++ ledger) p := spent_le_append
  simpa [spent, granted] using h

variable {time : ℤ}

lemma Expired.spent_le
    (hfirst : OldestFirst (isDue now) (Loyalty.buckets (Loyalty.entriesOf db accountId)))
    (htime : now ≤ time) (h : Expired accountId now amount db db') :
    spent (Loyalty.entriesOf db accountId) (isDue time) + amount ≤
      spent (Loyalty.entriesOf db' accountId) (isDue time) := by
  obtain ⟨t, hpoints, hentries⟩ := h.entriesOf
  obtain ⟨account, _, hamount, _⟩ := h.account
  have hpos := h.pos
  have hdue : ∀ lot ∈ Loyalty.buckets (Loyalty.entriesOf db accountId),
      isDue now lot.label = true → isDue time lot.label = true := by
    intro lot _ hlot
    obtain ⟨expiresAt, heq, hle⟩ := (Option.any_eq_true _ _).mp hlot
    refine (Option.any_eq_true _ _).mpr ⟨expiresAt, heq, ?_⟩
    exact decide_eq_true ((of_decide_eq_true hle).trans htime)
  have htake := stocked_buckets.held_takeLots hfirst hdue hpos.le (hamount ▸ min_le_left _ _)
  rw [spent, spent, h.buckets, htake, hentries, granted_append_singleton, if_neg (by omega)]
  omega

lemma Appends.spent_le {α : Type} {x : LoyaltyTx α} {a : α} (hx : Appends x) (h : Commits x db a db') :
    spent (entriesOf db accountId) p ≤ spent (entriesOf db' accountId) p := by
  obtain ⟨rows, hrows⟩ := hx db a db' h
  rw [entriesOf_append hrows.symm]
  exact spent_le_append

lemma spent_le_of_step {c : ExpiryCall}
    (hfirst : TakesOldest db c) (htime : c.Until accountId time) (h : ExpiryStep db c db') :
    spent (entriesOf db accountId) (isDue time) + c.takenFrom accountId ≤
      spent (entriesOf db' accountId) (isDue time) := by
  cases h with
  | @expire _ key now amount hc =>
    obtain ⟨rfl, rfl⟩ | hexpired := expirePoints_commits hc
    · simp [ExpiryCall.takenFrom]
    · rw [ExpiryCall.takenFrom]
      split_ifs with hkey
      · subst hkey
        exact hexpired.spent_le hfirst (htime rfl)
      · obtain ⟨t, hid, _, htransactions⟩ := hexpired.transactions
        rw [entriesOf_append htransactions, add_zero]
        exact spent_le_append
  | loyaltyTransaction hc => exact (add_zero _).le.trans (loyaltyTransaction_appends.spent_le hc)
  | service hc => exact (add_zero _).le.trans (LoyaltyEvent.appends.spent_le hc)

lemma spent_le_of_run {calls : List ExpiryCall} (hrun : Run (Guarded TakesOldest ExpiryStep) db calls db')
    (htime : ∀ c ∈ calls, c.Until accountId time) :
    spent (entriesOf db accountId) (isDue time) + takenFrom accountId calls ≤
      spent (entriesOf db' accountId) (isDue time) := by
  induction hrun with
  | nil => simp [takenFrom]
  | cons hstep _ ih =>
    obtain ⟨hfirst, hrest⟩ := forall_mem_cons.mp htime
    have hone := spent_le_of_step hstep.1 hfirst hstep.2
    have hmore := ih hrest
    simp only [takenFrom, map_cons, sum_cons] at hmore ⊢
    omega

/-- In every run, from any ledgers, in which the due grants are the oldest with points left whenever the
job takes points, running the job again takes nothing until a further grant expires, and the job takes
from an account at most the grants that have expired. -/
theorem expiries_of_guarded {calls : List ExpiryCall}
    (hrun : Run (Guarded TakesOldest ExpiryStep) db calls db') :
    Run (fun s c s' => ExpiryStep s c s' ∧ Settles c s') db calls db' ∧
      ∀ accountId time, (∀ c ∈ calls, c.Until accountId time) →
        takenFrom accountId calls ≤ granted (isDue time) (entriesOf db' accountId) := by
  constructor
  · refine hrun.mono fun s c s' hstep => ⟨hstep.2, ?_⟩
    obtain ⟨hfirst, hstep⟩ := hstep
    cases hstep with
    | expire hc => exact expiresNoMore_of_oldestFirst hfirst hc
    | loyaltyTransaction _ => trivial
    | service _ => trivial
  · intro accountId time htime
    have hspent := spent_le_of_run hrun htime
    have hstart : 0 ≤ spent (entriesOf db accountId) (isDue time) := spent_nonneg
    have hheld : 0 ≤ held (isDue time) (buckets (entriesOf db' accountId)) :=
      stocked_buckets.held_nonneg
    rw [spent, spent] at hspent
    rw [spent] at hstart
    omega

def grantedCustomer (grants : List (ℤ × Option ℤ)) : LoyaltyDb :=
  { newCustomer with
    accounts := Table.empty.put
      { programId := 1, customerId := 5, points := (grants.map Prod.fst).sum }
    transactions := grants.map fun (points, expiresAt) =>
      { accountId := (1, 5), type := .adjustment, points, balanceAfter := points, expiresAt,
        referenceType := "", referenceId := 0 } }

def mixedGrants : LoyaltyDb := grantedCustomer [(100, none), (50, some 1000)]

def expiringFirst : LoyaltyDb := grantedCustomer [(50, some 1000), (100, none)]

lemma expires_of_execute
    (h : (execute (expirePoints accountId now) db).1 = .ok amount) :
    Run ExpiryStep db [.expire accountId now amount] (execute (expirePoints accountId now) db).2 :=
  .cons (.expire (commits_of_execute h)) (.nil _)

/-- The expired points are taken again at the same time, so that more is taken than has expired. -/
theorem mixedGrants_expireAgain : pointsOf mixedGrants (1, 5) =
        ((entriesOf mixedGrants (1, 5)).map LoyaltyTransaction.points).sum ∧
      ∃ db₁ db₂, Run ExpiryStep mixedGrants [.expire (1, 5) 2000 50] db₁ ∧
        ¬ ExpiresNoMore (1, 5) 2000 db₁ ∧ Run ExpiryStep db₁ [.expire (1, 5) 2000 50] db₂ ∧
        granted (isDue 2000) (entriesOf db₂ (1, 5)) <
          takenFrom (1, 5) [.expire (1, 5) 2000 50, .expire (1, 5) 2000 50] := by
  have hfirst : (execute (expirePoints (1, 5) 2000) mixedGrants).1 = .ok 50 := by decide +kernel
  have hagain : (execute (expirePoints (1, 5) 2000)
      (execute (expirePoints (1, 5) 2000) mixedGrants).2).1 = .ok 50 := by decide +kernel
  refine ⟨by decide +kernel, _, _, expires_of_execute hfirst, ?_, expires_of_execute hagain, by decide +kernel⟩
  intro hnone
  have hzero := hnone 2000 le_rfl (fun _ _ _ => rfl) _ _ (commits_of_execute hagain)
  cases hzero

theorem expiringFirst_expireOnce : takenFrom (1, 5) [.expire (1, 5) 2000 50, .expire (1, 5) 2000 0] ≤ 50 := by
  have hfirst : (execute (expirePoints (1, 5) 2000) expiringFirst).1 = .ok 50 := by decide +kernel
  have hagain : (execute (expirePoints (1, 5) 2000)
      (execute (expirePoints (1, 5) 2000) expiringFirst).2).1 = .ok 0 := by decide +kernel
  have hrun : Run (Guarded TakesOldest ExpiryStep) expiringFirst
      [.expire (1, 5) 2000 50, .expire (1, 5) 2000 0] _ :=
    .cons ⟨by decide +kernel, .expire (commits_of_execute hfirst)⟩
      (.cons ⟨by decide +kernel, .expire (commits_of_execute hagain)⟩ (.nil _))
  refine ((expiries_of_guarded hrun).2 (1, 5) 2000 ?_).trans (by decide +kernel)
  intro c hc
  rcases List.mem_pair.mp hc with rfl | rfl <;> exact fun _ => le_rfl

end Mayatoko.Loyalty
