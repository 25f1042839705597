import Mathlib.Data.List.Pairwise
import Mayatoko.Offline.Intake

/-!
# Every offline transaction is stored once

The transactions of a device have different local ids and different sequences. A batch stores or recognises all
that it brings or changes nothing, and recognises what is stored already up to the order of keys. This needs
that `localeCompare` tells the keys of every object apart: it does not for keys that are canonically
equivalent, and then a transaction that is sent again may be refused.
-/

namespace Mayatoko.Offline

open Core OfflineDb

variable {host : Host} {scope : TenantScope} {deviceId : String}

/-! ### Payloads -/

/-- `localeCompare` tells the keys apart. -/
def Host.TellsApart (host : Host) (keys : List String) : Prop :=
  keys.Pairwise fun k l => host.localeCompare k l ≠ .eq

instance (host : Host) (keys : List String) : Decidable (host.TellsApart keys) :=
  inferInstanceAs (Decidable (List.Pairwise _ keys))

def Told (host : Host) (payload : Json) : Prop := payload.EveryKeys host.TellsApart

lemma ownFields_perm (fields : List (String × Json)) : (ownFields fields).Perm fields := by
  have hsort := List.perm_insertionSort
    (fun f g : String × Json => (arrayIndex? f.1).getD 0 ≤ (arrayIndex? g.1).getD 0)
    (fields.filter fun f => (arrayIndex? f.1).isSome)
  refine (hsort.append_right _).trans ?_
  have hrest : (fields.filter fun f => (arrayIndex? f.1).isNone) =
      fields.filter fun f => !(arrayIndex? f.1).isSome := by simp
  rw [hrest]
  exact List.filter_append_perm _ fields

lemma sortedFields_perm (fields : List (String × Json)) : (sortedFields host fields).Perm fields :=
  (ownFields_perm _).trans ((List.perm_insertionSort _ _).trans (ownFields_perm fields))

lemma localeCompare_eq_comm {k l : String} : host.localeCompare k l = .eq ↔ host.localeCompare l k = .eq := by
  have := host.consistent
  exact Std.OrientedCmp.eq_comm

lemma tellsApart_of_perm (ks ks' : List String) (hperm : ks.Perm ks') (h : host.TellsApart ks) :
    host.TellsApart ks' := by
  exact (hperm.pairwise_iff fun hkl hlk => hkl (localeCompare_eq_comm.mp hlk)).mp h

/-- Fields with keys that are told apart are sorted in one way. -/
lemma sortedFields_eq_of_perm (fs gs : List (String × Json)) (h : host.TellsApart (fs.map Prod.fst))
    (hperm : fs.Perm gs) : sortedFields host fs = sortedFields host gs := by
  have := host.consistent
  let le : String × Json → String × Json → Prop := fun f g => host.localeCompare f.1 g.1 ≠ .gt
  have htotal : Std.Total le := ⟨fun f g => by
    by_cases hgt : host.localeCompare f.1 g.1 = .gt
    · right
      change host.localeCompare g.1 f.1 ≠ .gt
      rw [Std.OrientedCmp.lt_of_gt hgt]
      decide
    · exact .inl hgt⟩
  have htrans : IsTrans (String × Json) le := ⟨fun f g k hfg hgk => by
    have hle := Std.TransCmp.isLE_trans (Ordering.ne_gt_iff_isLE.mp hfg) (Ordering.ne_gt_iff_isLE.mp hgk)
    exact Ordering.ne_gt_iff_isLE.mpr hle⟩
  have hapart : fs.Pairwise fun f g => host.localeCompare f.1 g.1 ≠ .eq := List.pairwise_map.mp h
  have hsymm : Std.Symm fun f g : String × Json => host.localeCompare f.1 g.1 ≠ .eq :=
    ⟨fun _ _ hfg hgf => hfg (localeCompare_eq_comm.mp hgf)⟩
  refine congrArg ownFields (List.Perm.eq_of_pairwise ?_ (List.pairwise_insertionSort le _)
    (List.pairwise_insertionSort le _) ?_)
  · intro f g hf hg hfg hgf
    have hfs : f ∈ fs := (ownFields_perm fs).mem_iff.mp ((List.mem_insertionSort _).mp hf)
    have hgs : g ∈ fs := hperm.mem_iff.mpr ((ownFields_perm gs).mem_iff.mp ((List.mem_insertionSort _).mp hg))
    by_contra hne
    refine hapart.forall hfs hgs hne ?_
    exact Std.OrientedCmp.isLE_antisymm (Ordering.ne_gt_iff_isLE.mp hfg) (Ordering.ne_gt_iff_isLE.mp hgf)
  · refine (List.perm_insertionSort le _).trans ?_
    refine ((ownFields_perm fs).trans hperm).trans ?_
    exact ((List.perm_insertionSort le _).trans (ownFields_perm gs)).symm

lemma stableJson_eq_iff {v w : Json} (h : Told host v) : stableJson host v = stableJson host w ↔ v.Same w := by
  rw [stableJson, stableJson, Json.stringify_injective.eq_iff,
    Json.same_iff_arranged_eq tellsApart_of_perm sortedFields_perm sortedFields_eq_of_perm h]

/-! ### One item -/

/-- An item that names no other tenant. -/
def OfTenant (scope : TenantScope) (item : OfflineTransactionItem) : Prop :=
  (∀ id ∈ payloadField item.payload "companyId", id = scope.companyId) ∧
    ∀ id ∈ payloadField item.payload "branchId", id = scope.branchId

/-- The stored transaction is that of the item: its payload, the fields of the tenant set in it, is the same up
to the order of keys. -/
structure Matches (scope : TenantScope) (item : OfflineTransactionItem) (row : OfflineTransaction) : Prop where
  localId : row.localId = item.localId
  sequence : row.sequence = item.sequence
  transactionType : row.transactionType = item.transactionType
  payload : row.payload.Same (tenantPayload scope item.payload)

structure Keyed (db : OfflineDb) : Prop where
  different : ∀ r ∈ db.transactions, ∀ r' ∈ db.transactions, r.deviceId = r'.deviceId →
    r.localId = r'.localId ∨ r.sequence = r'.sequence → r = r'
  fresh : ∀ r ∈ db.transactions, r.id < db.nextId

def OfflineDb.stored (db : OfflineDb) (host : Host) (scope : TenantScope) (deviceId : String)
    (item : OfflineTransactionItem) : OfflineDb :=
  { db with
    nextId := db.nextId + 1
    transactions := db.transactions.put (db.newTransaction host scope deviceId item) }

variable {item : OfflineTransactionItem} {items : List OfflineTransactionItem} {db db' : OfflineDb}
  {row : OfflineTransaction} {rows : List OfflineTransaction}

lemma submitItem_commits (h : Commits (submitItem host scope deviceId item) db row db') : OfTenant scope item ∧
      (row ∈ db.transactions ∧ Shares deviceId item row ∧ row.localId = item.localId ∧
          row.sequence = item.sequence ∧ row.transactionType = item.transactionType ∧
          stableJson host row.payload = stableJson host (tenantPayload scope item.payload) ∧ db' = db ∨
        (∀ r ∈ db.transactions, ¬ Shares deviceId item r) ∧
          row = db.newTransaction host scope deviceId item ∧ db' = db.stored host scope deviceId item) := by
  simp only [submitItem, commits_bind, commits_require, commits_get] at h
  obtain ⟨_, _, ⟨hcompany, rfl⟩, _, _, ⟨hbranch, rfl⟩, _, _, ⟨rfl, rfl⟩, h⟩ := h
  refine ⟨⟨hcompany, hbranch⟩, ?_⟩
  split at h
  next existing hexisting =>
    simp only [commits_bind, commits_require, commits_pure] at h
    obtain ⟨_, _, ⟨⟨hlocal, hsequence, htype, htext⟩, rfl⟩, rfl, rfl⟩ := h
    obtain ⟨hmem, hshares⟩ := mem_findMany.mp (List.mem_of_mem_head? hexisting)
    exact .inl ⟨hmem, of_decide_eq_true hshares, hlocal, hsequence, htype, htext, rfl⟩
  next hnone =>
    simp only [commits_bind, commits_set, commits_pure, TableOf.commits_create] at h
    obtain ⟨_, _, rfl, _, _, ⟨_, rfl⟩, rfl, rfl⟩ := h
    refine .inr ⟨fun r hr hshares => ?_, rfl, rfl⟩
    rw [List.head?_eq_none_iff] at hnone
    have hmem : r ∈ db.transactions.findMany fun r => Shares deviceId item r :=
      mem_findMany.mpr ⟨hr, decide_eq_true hshares⟩
    rw [hnone] at hmem
    cases hmem

lemma submitItem_outcome (htold : Told host (tenantPayload scope item.payload)) (hkeyed : Keyed db)
    (h : Commits (submitItem host scope deviceId item) db row db') :
    OfTenant scope item ∧ Matches scope item row ∧ Shares deviceId item row ∧
      (∀ r ∈ db.transactions, Shares deviceId item r → r = row) ∧
      (db' = db ∧ row ∈ db.transactions ∨
        row = db.newTransaction host scope deviceId item ∧ db' = db.stored host scope deviceId item) := by
  obtain ⟨htenant, ⟨hmem, hshares, hlocal, hsequence, htype, htext, rfl⟩ | ⟨hnone, rfl, rfl⟩⟩ :=
    submitItem_commits h
  · have hsame := (stableJson_eq_iff htold).mp htext.symm
    refine ⟨htenant, ⟨hlocal, hsequence, htype, hsame.symm⟩, hshares, ?_, .inl ⟨rfl, hmem⟩⟩
    intro r hr ⟨hdevice, hkeys⟩
    refine hkeyed.different r hr row hmem (hdevice.trans hshares.1.symm) ?_
    rwa [hlocal, hsequence]
  · refine ⟨htenant, ⟨rfl, rfl, rfl, host.column_same _⟩, ⟨rfl, .inl rfl⟩, ?_, .inr ⟨rfl, rfl⟩⟩
    exact fun r hr hshares => absurd hshares (hnone r hr)

lemma mem_stored (hkeyed : Keyed db) {r : OfflineTransaction} :
    r ∈ (db.stored host scope deviceId item).transactions ↔
      r = db.newTransaction host scope deviceId item ∨ r ∈ db.transactions := by
  rw [OfflineDb.stored, mem_put]
  refine or_congr_right ⟨fun hr => hr.1, fun hr => ⟨hr, ?_⟩⟩
  exact (hkeyed.fresh r hr).ne

lemma Keyed.stored (hkeyed : Keyed db) (hnone : ∀ r ∈ db.transactions, ¬ Shares deviceId item r) :
    Keyed (db.stored host scope deviceId item) where
  different := by
    intro r hr r' hr' hdevice hkeys
    rcases (mem_stored hkeyed).mp hr with rfl | hr <;> rcases (mem_stored hkeyed).mp hr' with rfl | hr'
    · rfl
    · exact absurd ⟨hdevice.symm, hkeys.imp Eq.symm Eq.symm⟩ (hnone r' hr')
    · exact absurd ⟨hdevice, hkeys⟩ (hnone r hr)
    · exact hkeyed.different r hr r' hr' hdevice hkeys
  fresh := by
    intro r hr
    rcases (mem_stored hkeyed).mp hr with rfl | hr
    · exact Nat.lt_succ_self _
    · exact (hkeyed.fresh r hr).trans (Nat.lt_succ_self _)

lemma submitItem_keyed (h : Commits (submitItem host scope deviceId item) db row db') (hkeyed : Keyed db) :
    Keyed db' := by
  obtain ⟨_, ⟨_, _, _, _, _, _, rfl⟩ | ⟨hnone, _, rfl⟩⟩ := submitItem_commits h
  · exact hkeyed
  · exact hkeyed.stored hnone

/-- An item commits if it is of the tenant and the stored transactions that share a key with it are its own. -/
lemma submitItem_runs (htold : Told host (tenantPayload scope item.payload)) (hkeyed : Keyed db)
    (htenant : OfTenant scope item)
    (hmatch : ∀ r ∈ db.transactions, Shares deviceId item r → Matches scope item r) :
    ∃ row db', Commits (submitItem host scope deviceId item) db row db' := by
  simp only [submitItem, commits_bind, commits_require, commits_get]
  cases hfind : (db.transactions.findMany fun r => Shares deviceId item r).head? with
  | some existing =>
    obtain ⟨hmem, hshares⟩ := mem_findMany.mp (List.mem_of_mem_head? hfind)
    obtain ⟨hlocal, hsequence, htype, hsame⟩ := hmatch existing hmem (of_decide_eq_true hshares)
    have htext := ((stableJson_eq_iff htold).mpr hsame.symm).symm
    refine ⟨existing, db, (), db, ⟨htenant.1, rfl⟩, (), db, ⟨htenant.2, rfl⟩, db, db, ⟨rfl, rfl⟩, ?_⟩
    rw [hfind]
    refine commits_bind.mpr ⟨(), db, commits_require.mpr ⟨?_, rfl⟩, commits_pure.mpr ⟨rfl, rfl⟩⟩
    exact ⟨hlocal, hsequence, htype, htext⟩
  | none =>
    refine ⟨db.newTransaction host scope deviceId item, db.stored host scope deviceId item, (), db,
      ⟨htenant.1, rfl⟩, (), db, ⟨htenant.2, rfl⟩, db, db, ⟨rfl, rfl⟩, ?_⟩
    rw [hfind]
    refine commits_bind.mpr ⟨(), _, commits_set.mpr rfl, commits_bind.mpr
      ⟨(), db.stored host scope deviceId item, ?_, ?_⟩⟩
    · refine TableOf.commits_create.mpr ⟨?_, rfl⟩
      exact find?_eq_none.mpr fun r hr => (hkeyed.fresh r hr).ne
    · exact commits_pure.mpr ⟨rfl, rfl⟩

/-! ### A batch -/

def Agree (scope : TenantScope) (a b : OfflineTransactionItem) : Prop :=
  a.localId = b.localId ∨ a.sequence = b.sequence →
    a.localId = b.localId ∧ a.sequence = b.sequence ∧ a.transactionType = b.transactionType ∧
      (tenantPayload scope a.payload).Same (tenantPayload scope b.payload)

/-- The items of a batch are of the tenant, and those that share a key with a stored transaction, or with one
another, are that transaction. -/
structure Acceptable (scope : TenantScope) (deviceId : String) (items : List OfflineTransactionItem)
    (db : OfflineDb) : Prop where
  ofTenant : ∀ item ∈ items, OfTenant scope item
  stored : ∀ item ∈ items, ∀ r ∈ db.transactions, Shares deviceId item r → Matches scope item r
  agree : items.Pairwise (Agree scope)

lemma submitItems_keyed (h : Commits (submitItems host scope deviceId items) db rows db') (hkeyed : Keyed db) :
    Keyed db' := by
  induction items generalizing db rows with
  | nil =>
    obtain ⟨_, rfl⟩ := commits_pure.mp h
    exact hkeyed
  | cons item items ih =>
    obtain ⟨row, t, hitem, hrest⟩ := commits_bind.mp h
    obtain ⟨_, hitems, _⟩ := commits_bind_pure.mp hrest
    exact ih hitems (submitItem_keyed hitem hkeyed)

/-- What a batch does: every item has become a stored transaction of its own, what was stored is there still,
and what is new is one of the results. -/
structure Taken (scope : TenantScope) (deviceId : String) (items : List OfflineTransactionItem)
    (rows : List OfflineTransaction) (db db' : OfflineDb) : Prop where
  results : List.Forall₂ (fun item row => row ∈ db'.transactions ∧ Shares deviceId item row ∧
    Matches scope item row) items rows
  kept : ∀ r ∈ db.transactions, r ∈ db'.transactions
  new : ∀ r ∈ db'.transactions, r ∈ db.transactions ∨ r ∈ rows ∧ r.status = .pending
  acceptable : Acceptable scope deviceId items db

lemma Matches.symm_trans {a b : OfflineTransactionItem} (ha : Matches scope a row) (hb : Matches scope b row) :
    a.localId = b.localId ∧ a.sequence = b.sequence ∧ a.transactionType = b.transactionType ∧
      (tenantPayload scope a.payload).Same (tenantPayload scope b.payload) :=
  ⟨ha.localId.symm.trans hb.localId, ha.sequence.symm.trans hb.sequence,
    ha.transactionType.symm.trans hb.transactionType, ha.payload.symm.trans hb.payload⟩

lemma submitItems_taken (htold : ∀ item ∈ items, Told host (tenantPayload scope item.payload))
    (hkeyed : Keyed db) (h : Commits (submitItems host scope deviceId items) db rows db') :
    Taken scope deviceId items rows db db' := by
  induction items generalizing db rows with
  | nil =>
    obtain ⟨rfl, rfl⟩ := commits_pure.mp h
    exact ⟨.nil, fun _ hr => hr, fun _ hr => .inl hr, ⟨fun _ hi => absurd hi not_mem_nil,
      fun _ hi => absurd hi not_mem_nil, .nil⟩⟩
  | cons item items ih =>
    obtain ⟨row, t, hitem, hrest⟩ := commits_bind.mp h
    obtain ⟨rest, hitems, rfl⟩ := commits_bind_pure.mp hrest
    obtain ⟨htoldItem, htoldItems⟩ := forall_mem_cons.mp htold
    have hafter := ih htoldItems (submitItem_keyed hitem hkeyed) hitems
    obtain ⟨htenant, hmatches, hshares, hown, hstate⟩ := submitItem_outcome htoldItem hkeyed hitem
    have hrow : row ∈ t.transactions := by
      rcases hstate with ⟨rfl, hmem⟩ | ⟨rfl, rfl⟩
      · exact hmem
      · exact mem_put_self _ _
    have hkept : ∀ r ∈ db.transactions, r ∈ t.transactions := by
      rcases hstate with ⟨rfl, _⟩ | ⟨rfl, rfl⟩
      · exact fun r hr => hr
      · exact fun r hr => (mem_stored hkeyed).mpr (Or.inr hr)
    have hnew : ∀ r ∈ t.transactions, r ∈ db.transactions ∨ r = row ∧ r.status = .pending := by
      rcases hstate with ⟨rfl, _⟩ | ⟨rfl, rfl⟩
      · exact fun r hr => .inl hr
      · intro r hr
        refine ((mem_stored hkeyed).mp hr).symm.imp_right ?_
        rintro rfl
        exact ⟨rfl, rfl⟩
    refine ⟨.cons ⟨hafter.kept row hrow, hshares, hmatches⟩ hafter.results,
      fun r hr => hafter.kept r (hkept r hr), ?_, ?_, ?_, ?_⟩
    · intro r hr
      rcases hafter.new r hr with hr | ⟨hr, hpending⟩
      · refine (hnew r hr).imp_right ?_
        rintro ⟨rfl, hpending⟩
        exact ⟨mem_cons_self, hpending⟩
      · exact .inr ⟨mem_cons_of_mem _ hr, hpending⟩
    · exact forall_mem_cons.mpr ⟨htenant, hafter.acceptable.ofTenant⟩
    · refine forall_mem_cons.mpr ⟨fun r hr hr' => hown r hr hr' ▸ hmatches, ?_⟩
      exact fun b hb r hr => hafter.acceptable.stored b hb r (hkept r hr)
    · refine List.pairwise_cons.mpr ⟨fun b hb hkeys => ?_, hafter.acceptable.agree⟩
      have hsharesRow : Shares deviceId b row := by
        refine ⟨hshares.1, ?_⟩
        rwa [hmatches.localId, hmatches.sequence]
      exact hmatches.symm_trans (hafter.acceptable.stored b hb row hrow hsharesRow)

lemma submitItems_runs (htold : ∀ item ∈ items, Told host (tenantPayload scope item.payload))
    (hkeyed : Keyed db) (h : Acceptable scope deviceId items db) :
    ∃ rows db', Commits (submitItems host scope deviceId items) db rows db' := by
  induction items generalizing db with
  | nil => exact ⟨[], db, commits_pure.mpr ⟨rfl, rfl⟩⟩
  | cons item items ih =>
    obtain ⟨htoldItem, htoldItems⟩ := forall_mem_cons.mp htold
    obtain ⟨htenant, htenants⟩ := forall_mem_cons.mp h.ofTenant
    obtain ⟨hstored, hstoreds⟩ := forall_mem_cons.mp h.stored
    obtain ⟨hagree, hagrees⟩ := List.pairwise_cons.mp h.agree
    obtain ⟨row, t, hitem⟩ := submitItem_runs htoldItem hkeyed htenant hstored
    obtain ⟨_, hmatches, hshares, _, hstate⟩ := submitItem_outcome htoldItem hkeyed hitem
    have hafter : Acceptable scope deviceId items t := by
      refine ⟨htenants, fun b hb r hr hsharesB => ?_, hagrees⟩
      have hold : r ∈ db.transactions ∨ r = row := by
        rcases hstate with ⟨rfl, _⟩ | ⟨rfl, rfl⟩
        · exact .inl hr
        · exact ((mem_stored hkeyed).mp hr).symm
      rcases hold with hr | rfl
      · exact hstoreds b hb r hr hsharesB
      · have hkeys : item.localId = b.localId ∨ item.sequence = b.sequence := by
          rw [← hmatches.localId, ← hmatches.sequence]
          exact hsharesB.2
        obtain ⟨hlocal, hsequence, htype, hsame⟩ := hagree b hb hkeys
        exact ⟨hmatches.localId.trans hlocal, hmatches.sequence.trans hsequence,
          hmatches.transactionType.trans htype, hmatches.payload.trans hsame⟩
    obtain ⟨rows, db', hitems⟩ := ih htoldItems (submitItem_keyed hitem hkeyed) hafter
    refine ⟨row :: rows, db', commits_bind.mpr ⟨row, t, hitem, commits_bind.mpr ⟨rows, db', hitems, ?_⟩⟩⟩
    exact commits_pure.mpr ⟨rfl, rfl⟩

/-! ### The intake as a whole -/

def Submits (host : Host) (db : OfflineDb) (batch : TenantScope × String × SubmitOfflineTransactions)
    (db' : OfflineDb) : Prop :=
  ∃ res, Commits (submitOfflineTransactions host batch.1 batch.2.1 batch.2.2) db res db'

variable {dto : SubmitOfflineTransactions}

lemma submitOfflineTransactions_commits {res : Submitted} :
    Commits (submitOfflineTransactions host scope deviceId dto) db res db' ↔
      ∃ device rows t, db.sender scope deviceId = some device ∧
        Commits (submitItems host scope device.id dto.transactions) db rows t ∧
        (∃ d, t.devices.find? device.id = some d ∧
          db' = OfflineDb.device.write t { d with lastSeenAt := some db.now }) ∧
        res = { deviceId := device.id, accepted := rows.length, transactions := rows } := by
  simp only [submitOfflineTransactions, commits_bind, commits_get, commits_orThrow, commits_pure,
    TableOf.commits_update]
  constructor
  · rintro ⟨_, _, ⟨rfl, rfl⟩, device, _, ⟨hsender, rfl⟩, rows, t, hrows, _, _, ⟨d, hd, _, rfl⟩, rfl, rfl⟩
    exact ⟨device, rows, t, hsender, hrows, ⟨d, hd, rfl⟩, rfl⟩
  · rintro ⟨device, rows, t, hsender, hrows, ⟨d, hd, rfl⟩, rfl⟩
    exact ⟨db, db, ⟨rfl, rfl⟩, device, db, ⟨hsender, rfl⟩, rows, t, hrows, _, _, ⟨d, hd, rfl, rfl⟩, rfl, rfl⟩

lemma submits_keyed {batch : TenantScope × String × SubmitOfflineTransactions} (hkeyed : Keyed db)
    (h : Submits host db batch db') : Keyed db' := by
  obtain ⟨_, h⟩ := h
  obtain ⟨_, _, t, _, hrows, ⟨_, _, rfl⟩, _⟩ := submitOfflineTransactions_commits.mp h
  have ht := submitItems_keyed hrows hkeyed
  exact ⟨ht.different, ht.fresh⟩

lemma submitItems_devices (h : Commits (submitItems host scope deviceId items) db rows db') :
    db'.devices = db.devices := by
  induction items generalizing db rows with
  | nil =>
    obtain ⟨_, rfl⟩ := commits_pure.mp h
    rfl
  | cons item items ih =>
    obtain ⟨row, t, hitem, hrest⟩ := commits_bind.mp h
    obtain ⟨_, hitems, _⟩ := commits_bind_pure.mp hrest
    rw [ih hitems]
    obtain ⟨_, ⟨_, _, _, _, _, _, rfl⟩ | ⟨_, _, rfl⟩⟩ := submitItem_commits hitem
    · rfl
    · rfl

/-- A batch is taken in whole or not at all. -/
structure TakenOnce (host : Host) (scope : TenantScope) (deviceId : String) (dto : SubmitOfflineTransactions)
    (db : OfflineDb) : Prop where
  /-- It commits exactly if the device is one of the tenant and its items are acceptable. -/
  commits_iff : (∃ res db', Commits (submitOfflineTransactions host scope deviceId dto) db res db') ↔
    (db.sender scope deviceId).isSome ∧ Acceptable scope deviceId dto.transactions db
  /-- Then every item has become a stored transaction of its own, -/
  taken : ∀ res db', Commits (submitOfflineTransactions host scope deviceId dto) db res db' →
    res.deviceId = deviceId ∧ res.accepted = dto.transactions.length ∧
      Taken scope deviceId dto.transactions res.transactions db db'
  /-- the one that was stored before if it shares a key with it. -/
  recognised : ∀ res db', Commits (submitOfflineTransactions host scope deviceId dto) db res db' →
    ∀ (i : ℕ) (item : OfflineTransactionItem), dto.transactions[i]? = some item →
      ∀ r ∈ db.transactions, Shares deviceId item r → res.transactions[i]? = some r
  /-- Otherwise nothing changes. -/
  unchanged : ∀ e, (execute (submitOfflineTransactions host scope deviceId dto) db).1 = .error e →
    (execute (submitOfflineTransactions host scope deviceId dto) db).2 = db

lemma sender_id {device : Device} (h : db.sender scope deviceId = some device) :
    device.id = deviceId ∧ db.devices.find? deviceId = some device := by
  obtain ⟨hfind, _⟩ := Option.filter_eq_some_iff.mp h
  exact ⟨(find?_eq_some.mp hfind).2, hfind⟩

lemma submitOfflineTransactions_taken {res : Submitted} (hkeyed : Keyed db)
    (htold : ∀ item ∈ dto.transactions, Told host (tenantPayload scope item.payload))
    (h : Commits (submitOfflineTransactions host scope deviceId dto) db res db') :
    res.deviceId = deviceId ∧ res.accepted = dto.transactions.length ∧
      Taken scope deviceId dto.transactions res.transactions db db' := by
  obtain ⟨device, rows, t, hsender, hrows, ⟨_, _, rfl⟩, rfl⟩ := submitOfflineTransactions_commits.mp h
  obtain ⟨rfl, _⟩ := sender_id hsender
  have htaken := submitItems_taken htold hkeyed hrows
  exact ⟨rfl, htaken.results.length_eq.symm, htaken.results, htaken.kept, htaken.new, htaken.acceptable⟩

lemma submitOfflineTransactions_runs {device : Device} (hkeyed : Keyed db)
    (htold : ∀ item ∈ dto.transactions, Told host (tenantPayload scope item.payload))
    (hsender : db.sender scope deviceId = some device)
    (hacceptable : Acceptable scope deviceId dto.transactions db) :
    ∃ res db', Commits (submitOfflineTransactions host scope deviceId dto) db res db' := by
  obtain ⟨rfl, hfind⟩ := sender_id hsender
  obtain ⟨rows, t, hrows⟩ := submitItems_runs htold hkeyed hacceptable
  have hdevice : t.devices.find? device.id = some device := by rw [submitItems_devices hrows, hfind]
  exact ⟨⟨device.id, rows.length, rows⟩, OfflineDb.device.write t { device with lastSeenAt := some db.now },
    submitOfflineTransactions_commits.mpr ⟨device, rows, t, hsender, hrows, ⟨device, hdevice, rfl⟩, rfl⟩⟩

lemma Taken.recognised {rows : List OfflineTransaction} (h : Taken scope deviceId items rows db db')
    (hafter : Keyed db') {i : ℕ} (hitem : items[i]? = some item) {r : OfflineTransaction}
    (hr : r ∈ db.transactions) (hshares : Shares deviceId item r) : rows[i]? = some r := by
  obtain ⟨hi, rfl⟩ := List.getElem?_eq_some_iff.mp hitem
  have hi' : i < rows.length := h.results.length_eq ▸ hi
  obtain ⟨hmem, hsharesRow, hmatches⟩ : rows[i] ∈ db'.transactions ∧ Shares deviceId items[i] rows[i] ∧
      Matches scope items[i] rows[i] := h.results.get hi hi'
  rw [List.getElem?_eq_getElem hi', Option.some.injEq]
  refine hafter.different _ hmem r (h.kept r hr) (hsharesRow.1.trans hshares.1.symm) ?_
  rw [hmatches.localId, hmatches.sequence]
  exact hshares.2.imp Eq.symm Eq.symm

lemma takenOnce_of_told (hkeyed : Keyed db)
    (htold : ∀ item ∈ dto.transactions, Told host (tenantPayload scope item.payload)) :
    TakenOnce host scope deviceId dto db := by
  constructor
  · constructor
    · rintro ⟨res, db', h⟩
      obtain ⟨_, _, htaken⟩ := submitOfflineTransactions_taken hkeyed htold h
      obtain ⟨device, _, _, hsender, _⟩ := submitOfflineTransactions_commits.mp h
      exact ⟨Option.isSome_iff_exists.mpr ⟨device, hsender⟩, htaken.acceptable⟩
    · rintro ⟨hsome, hacceptable⟩
      obtain ⟨device, hsender⟩ := Option.isSome_iff_exists.mp hsome
      exact submitOfflineTransactions_runs hkeyed htold hsender hacceptable
  · exact fun res db' h => submitOfflineTransactions_taken hkeyed htold h
  · intro res db' h i item hitem r hr hshares
    obtain ⟨_, _, htaken⟩ := submitOfflineTransactions_taken hkeyed htold h
    have hstep : Submits host db (scope, deviceId, dto) db' := ⟨res, h⟩
    exact htaken.recognised (submits_keyed hkeyed hstep) hitem hr hshares
  · exact fun e he => execute_state_of_error he

/-- After every run of batches, of any tenants and devices, the stored transactions of a device have different
local ids and different sequences, and the next batch is taken in once if `localeCompare` tells the keys of
every object in its payloads apart. -/
theorem taken_once (host : Host) (db db' : OfflineDb)
    (batches : List (TenantScope × String × SubmitOfflineTransactions)) (hkeyed : Keyed db)
    (h : Run (Submits host) db batches db') :
    Keyed db' ∧ ∀ (scope : TenantScope) (deviceId : String) (dto : SubmitOfflineTransactions),
      (∀ item ∈ dto.transactions, Told host (tenantPayload scope item.payload)) →
        TakenOnce host scope deviceId dto db' := by
  have hafter : Keyed db' := h.invariant (fun _ _ _ hs hstep => submits_keyed hs hstep) hkeyed
  exact ⟨hafter, fun _ _ _ htold => takenOnce_of_told hafter htold⟩

def decomposed (s : String) : List ℕ :=
  s.toList.flatMap fun c => if c = '\u00e5' then [0x61, 0x30a] else [c.toNat]

def decomposing : Host where
  numbers := .ratio
  localeCompare := compareOn decomposed
  consistent := inferInstance
  column := id
  column_same := .refl

def jakarta : TenantScope := ⟨"toko", "jakarta"⟩

def kasir : OfflineDb where
  nextId := 1
  now := 0
  devices := Table.empty.put { id := "kasir", companyId := "toko", branchId := some "jakarta" }
  transactions := Table.empty

def noteOf (fields : List (String × Json)) : SubmitOfflineTransactions :=
  ⟨[⟨"a", 1, "SALE", some (.obj fields)⟩]⟩

lemma commits_of_toBool {σ ε α : Type} {x : Tx σ ε α} {s : σ} (h : (execute x s).1.toBool = true) :
    ∃ a, Commits x s a (execute x s).2 := by
  cases hx : (execute x s).1 with
  | ok a => exact ⟨a, commits_of_execute hx⟩
  | error e =>
    rw [hx] at h
    cases h

lemma keyed_kasir : Keyed kasir :=
  ⟨fun _ hr => absurd hr not_mem_nil, fun _ hr => absurd hr not_mem_nil⟩

def OfflineDb.after (db : OfflineDb) (dto : SubmitOfflineTransactions) : OfflineDb :=
  (execute (submitOfflineTransactions decomposing jakarta "kasir" dto) db).2

lemma run_after (fields : List (String × Json))
    (h : (execute (submitOfflineTransactions decomposing jakarta "kasir" (noteOf fields))
      kasir).1.toBool = true) :
    Run (Submits decomposing) kasir [(jakarta, "kasir", noteOf fields)] (kasir.after (noteOf fields)) :=
  Run.cons (commits_of_toBool h) (Run.nil _)

theorem taken_once_note :
    TakenOnce decomposing jakarta "kasir" (noteOf [("b", .str "1"), ("a", .str "2")])
      (kasir.after (noteOf [("a", .str "2"), ("b", .str "1")])) := by
  have hrun := run_after [("a", .str "2"), ("b", .str "1")] (by decide +kernel)
  refine (taken_once decomposing _ _ _ keyed_kasir hrun).2 _ _ _ ?_
  intro item hitem
  obtain rfl := mem_singleton.mp hitem
  exact ⟨by decide +kernel, trivial, trivial, trivial, trivial, trivial⟩

/-- Two keys that are canonically equivalent are not told apart: the sale is refused with its keys in the other
order. -/
theorem not_taken_once_composed :
    ¬ ∀ (host : Host) (db db' : OfflineDb) (batches : List (TenantScope × String × SubmitOfflineTransactions)),
      Keyed db → Run (Submits host) db batches db' →
        Keyed db' ∧ ∀ (scope : TenantScope) (deviceId : String) (dto : SubmitOfflineTransactions),
          TakenOnce host scope deviceId dto db' := by
  intro h
  let first : List (String × Json) := [("\u00e5", .str "1"), ("a\u030a", .str "2")]
  let again : List (String × Json) := [("a\u030a", .str "2"), ("\u00e5", .str "1")]
  have hrun := run_after first (by decide +kernel)
  have htaken := (h decomposing _ _ _ keyed_kasir hrun).2 jakarta "kasir" (noteOf again)
  have hrefused : (execute (submitOfflineTransactions decomposing jakarta "kasir" (noteOf again))
      (kasir.after (noteOf first))).1.toBool = false := by decide +kernel
  have hacceptable : Acceptable jakarta "kasir" (noteOf again).transactions (kasir.after (noteOf first)) := by
    refine ⟨?_, ?_, List.pairwise_singleton _ _⟩
    · intro item hitem
      obtain rfl := mem_singleton.mp hitem
      constructor <;> decide +kernel
    · intro item hitem r hr _
      obtain rfl := mem_singleton.mp hitem
      have hstored : (kasir.after (noteOf first)).transactions.rows =
          [kasir.newTransaction decomposing jakarta "kasir" ⟨"a", 1, "SALE", some (.obj first)⟩] := by rfl
      rw [mem_rows, hstored] at hr
      obtain rfl := mem_singleton.mp hr
      exact ⟨rfl, rfl, rfl, .fields (List.Perm.swap _ _ _)⟩
  obtain ⟨res, db', hcommits⟩ := htaken.commits_iff.mpr ⟨by decide +kernel, hacceptable⟩
  rw [execute_of_commits hcommits] at hrefused
  cases hrefused

end Mayatoko.Offline
