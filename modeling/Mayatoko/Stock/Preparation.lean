import Mayatoko.Stock.LedgerMoves

/-!
# Preparing a stock

Every location operation first prepares its stock. From a consistent state a committed preparation
leaves a consistent one, also where it materialises the first balance or the first conditions
(`Prepared`); after `prepareConditionInventory` the stock is classified.
-/

namespace Mayatoko.Stock

open Core Db TableOf

variable {db db' : Db}

@[simp] lemma commits_currentTime {t : ℕ} : Commits currentTime db t db' ↔ db.now = t ∧ db = db' := by
  simp [currentTime, and_comm]

/-! ### The default location -/

/-- Choosing the default location only rewrites flags or adds a location. -/
structure Relocated (warehouseId : ℕ) (db : Db) (l : WarehouseLocation) (db' : Db) : Prop where
  frame : ∃ t n, db' = { db with locations := t, nextId := n }
  holds : ∀ id w, db.Holds id w → db'.Holds id w
  chosen : db'.Holds l.id warehouseId

variable {w : ℕ}

lemma holds_put {r : WarehouseLocation} {id : ℕ}
    (hr : ∀ l ∈ db.locations, l.id = r.id → l.warehouseId = r.warehouseId) (h : db.Holds id w) :
    ({ db with locations := db.locations.put r } : Db).Holds id w := by
  obtain ⟨l, hl, rfl, rfl⟩ := h
  by_cases hid : l.id = r.id
  · exact ⟨r, mem_put_self _ _, hid.symm, (hr l hl hid).symm⟩
  · exact ⟨l, mem_put.mpr (Or.inr ⟨hl, hid⟩), rfl, rfl⟩

lemma holds_clearDefault {p : WarehouseLocation → Bool} {hf} {id w : ℕ} (h : db.Holds id w) :
    ({ db with locations :=
        (db.locations.updateMany p (fun l => { l with isDefault := false }) hf).1 } : Db).Holds
      id w := by
  obtain ⟨l, hl, rfl, rfl⟩ := h
  refine ⟨_, (Table.mem_updateMany hf).mpr ⟨l, hl, rfl⟩, ?_, ?_⟩ <;> split <;> rfl

variable {l : WarehouseLocation}

lemma createDefaultLocation_commits
    (h : Commits (createDefaultLocation w) db l db') : Relocated w db l db' := by
  simp only [createDefaultLocation, freshId, commits_bind, commits_get, commits_set, commits_pure,
    commits_require, commits_create] at h
  obtain ⟨_, _, ⟨_, _, ⟨rfl, rfl⟩, _, _, rfl, rfl, rfl⟩, _, _, ⟨rfl, rfl⟩, _, _, ⟨_, rfl⟩, _, _,
    ⟨hfree, rfl⟩, rfl, rfl⟩ := h
  have hfree := find?_eq_none.mp hfree
  refine ⟨⟨_, _, rfl⟩, fun id w hid => ?_, ⟨_, mem_put_self _ _, rfl, rfl⟩⟩
  exact holds_put (fun l hl hlid => absurd hlid (hfree l hl)) hid

lemma makeDefaultLocation_commits {existing : WarehouseLocation}
    (hex : existing ∈ db.locations) (hw : existing.warehouseId = w)
    (h : Commits (makeDefaultLocation w existing) db l db') : Relocated w db l db' := by
  simp only [makeDefaultLocation, commits_bind, commits_updateMany, commits_update] at h
  obtain ⟨_, t, ⟨rfl, rfl⟩, r, hr, rfl, rfl⟩ := h
  obtain ⟨hrm, hrid⟩ := find?_eq_some.mp hr
  have hrw : r.warehouseId = w := by
    obtain ⟨l, hl, rfl⟩ := (Table.mem_updateMany fun l => by rfl).mp hrm
    have hl' : l = existing := by
      refine eq_of_key_eq hl hex ?_
      split at hrid <;> exact hrid
    subst hl'
    split <;> exact hw
  refine ⟨⟨_, db.nextId, rfl⟩, fun id w' hid => ?_, ⟨_, mem_put_self _ _, rfl, hrw⟩⟩
  refine holds_put (fun l hl hlid => ?_) (holds_clearDefault hid)
  rw [eq_of_key_eq hl hrm hlid]

lemma defaultLocation_commits
    (h : Commits (defaultLocation w) db l db') : Relocated w db l db' := by
  simp only [defaultLocation, commits_steps] at h
  obtain h := h
  split at h
  next location hfound =>
    obtain ⟨rfl, rfl⟩ := commits_pure.mp h
    obtain ⟨hl, hp⟩ := Table.mem_of_findFirst hfound
    simp only [cond_iff] at hp
    exact ⟨⟨db.locations, db.nextId, rfl⟩, fun _ _ hid => hid, ⟨location, hl, rfl, hp.1.1⟩⟩
  next =>
    split at h
    next existing hfound =>
      obtain ⟨hl, hp⟩ := Table.mem_of_findFirst hfound
      simp only [cond_iff] at hp
      exact makeDefaultLocation_commits hl hp.1 h
    next => exact createDefaultLocation_commits h

lemma Relocated.consistent (h : Relocated w db l db') (hdb : Consistent db) : Consistent db' := by
  obtain ⟨t, n, rfl⟩ := h.frame
  exact hdb.writeLocations h.holds

lemma Relocated.keeps (h : Relocated w db l db') : Keeps db db' := by
  obtain ⟨t, n, rfl⟩ := h.frame
  exact ⟨rfl, h.holds, fun _ _ hk => hk⟩

lemma assertLocation_commits {id : ℕ}
    (h : Commits (assertLocation w id) db l db') : db' = db ∧ l.id = id ∧ db.Holds id w := by
  simp only [assertLocation, commits_steps] at h
  obtain ⟨_, hl, hw, rfl, rfl⟩ := h
  obtain ⟨hlm, hid⟩ := find?_eq_some.mp hl
  exact ⟨rfl, hid, _, hlm, hid, hw.1⟩

/-! ### Balances -/

/-- The state after a preparation of the stock `s`. -/
structure Prepared (s : ℕ × ℕ) (db db' : Db) : Prop extends Keeps db db' where
  consistent : Consistent db'
  reservations : db'.reservations = db.reservations
  vacant : ¬ db'.Located s → db'.aggregate s = 0

variable {p : ℕ} {b : InventoryLocationBalance}

lemma mem_balancesOf : b ∈ db.balancesOf w p ↔ b ∈ db.locationBalances ∧ b.stock = (w, p) := by
  simp [balancesOf, mem_findMany, InventoryLocationBalance.stock]

lemma mem_conditionsOf {c : InventoryConditionBalance} :
    c ∈ db.conditionsOf w p ↔ c ∈ db.conditionBalances ∧ c.stock = (w, p) := by
  simp [conditionsOf, mem_findMany, InventoryConditionBalance.stock]

lemma balancesOf_eq_nil : db.balancesOf w p = [] ↔ ¬ db.Located (w, p) := by
  simp [List.eq_nil_iff_forall_not_mem, mem_balancesOf, Located]

lemma conditionsOf_eq_nil : db.conditionsOf w p = [] ↔ ¬ db.Classed (w, p) := by
  simp [List.eq_nil_iff_forall_not_mem, mem_conditionsOf, Classed]

lemma Db.Sound.find?_of_not_located (h : Sound db) {id w p : ℕ} (hid : db.Holds id w)
    (hno : ¬ db.Located (w, p)) : db.locationBalances.find? (id, p) = none := by
  rw [find?_eq_none]
  intro b hb hk
  obtain ⟨l, hl, rfl, rfl⟩ := hid
  refine hno ⟨b, hb, ?_⟩
  rw [InventoryLocationBalance.stock, h.warehouse_eq hb hl (congrArg Prod.fst hk)]
  exact Prod.ext rfl (show b.productId = p from congrArg Prod.snd hk)

lemma prepareLocationInventory_commits {a : Option Inventory × WarehouseLocation}
    (hdb : Consistent db) (h : Commits (prepareLocationInventory w p) db a db') :
    Prepared (w, p) db db' ∧ db'.Holds a.2.id w := by
  simp only [prepareLocationInventory, commits_bind, commits_get, commits_ite] at h
  obtain ⟨_, _, ⟨rfl, rfl⟩, h⟩ := h
  rcases h with ⟨hnil, l, t, hl, h⟩ | ⟨hnil, _, _, hreq, l, t, hl, h⟩
  · rw [balancesOf_eq_nil] at hnil
    have hrel := defaultLocation_commits hl
    have hcons := hrel.consistent hdb
    obtain ⟨locs, n, rfl⟩ := hrel.frame
    cases hagg : db.inventory.find? (w, p) with
    | none =>
      rw [hagg] at h
      obtain ⟨rfl, rfl⟩ := commits_pure.mp h
      refine ⟨⟨hrel.keeps, hcons, rfl, fun _ => ?_⟩, hrel.chosen⟩
      simp [aggregate, hagg]
    | some i =>
      rw [hagg] at h
      simp only [commits_bind, commits_upsert, commits_pure] at h
      obtain ⟨b, _, ⟨hb, rfl⟩, rfl, rfl⟩ := h
      have hfree := hcons.toSound.find?_of_not_located hrel.chosen hnil
      change b = (db.locationBalances.find? (l.id, p)).elim _ _ at hb
      rw [show db.locationBalances.find? (l.id, p) = none from hfree, Option.elim_none] at hb
      have hstock : b.stock = (w, p) := by rw [hb]; rfl
      have hkey : b.key = (l.id, p) := by rw [hb]; rfl
      have hnew := hcons.writeFirstBalance (b := b) (by rw [hstock]; exact hnil)
        (by rw [hb]; exact hrel.chosen) (by rw [hstock]; exact hagg) (by rw [hb]; rfl)
      refine ⟨⟨hrel.keeps.trans ⟨rfl, fun _ _ hid => hid, fun k w' hk => ?_⟩, hnew, rfl,
        fun hno => absurd ⟨b, mem_put_self _ _, hstock⟩ hno⟩, hrel.chosen⟩
      refine Stocked.writeBalance (fun x hx hxk => ?_) hk
      exact absurd (hxk.trans hkey) (find?_eq_none.mp hfree x hx)
  · rw [balancesOf_eq_nil, not_not] at hnil
    obtain ⟨_, rfl⟩ := commits_require.mp hreq
    obtain ⟨rfl, rfl⟩ := commits_pure.mp h
    have hrel := defaultLocation_commits hl
    have hcons := hrel.consistent hdb
    obtain ⟨locs, n, rfl⟩ := hrel.frame
    exact ⟨⟨hrel.keeps, hcons, rfl, fun hno => absurd hnil hno⟩, hrel.chosen⟩

/-! ### Conditions -/

/-- Half way through the first classification of the stock `s`: the balances of `rest` still have
to be put in condition `AVAILABLE`. -/
structure Classing (s : ℕ × ℕ) (db : Db) (rest : List InventoryLocationBalance) (db' : Db) :
    Prop where
  frame : db' = { db with conditionBalances := db'.conditionBalances }
  old : ∀ c ∈ db.conditionBalances, c ∈ db'.conditionBalances
  new : ∀ c ∈ db'.conditionBalances, c ∈ db.conditionBalances ∨
    c.stock = s ∧ db.Stocked c.place c.warehouseId
  other : ∀ k, (∀ b ∈ db.locationBalances, b.stock = s → b.key ≠ k) →
    db'.classified k = db.classified k ∧ db'.sellable k = db.sellable k
  done : ∀ b ∈ db.locationBalances, b.stock = s → b ∉ rest → db'.ConditionsAgree b
  todo : ∀ b ∈ rest, db'.classified b.key = 0 ∧ db'.sellable b.key = 0
  pending : ∀ b ∈ rest, b ∈ db.locationBalances ∧ b.stock = s
  nodup : rest.Nodup

lemma Classing.init (h : Sound db) {w p : ℕ} (hno : ¬ db.Classed (w, p)) :
    Classing (w, p) db (db.balancesOf w p) db := by
  refine ⟨rfl, fun _ hc => hc, fun _ hc => .inl hc, fun _ _ => ⟨rfl, rfl⟩,
    fun b hb hs hnb => absurd (mem_balancesOf.mpr ⟨hb, hs⟩) hnb, fun b hb => ?_,
    fun b hb => mem_balancesOf.mp hb, ?_⟩
  · obtain ⟨hbm, hbs⟩ := mem_balancesOf.mp hb
    have hfree : ∀ c ∈ db.conditionBalances, c.place ≠ b.key := by
      intro c hc hplace
      obtain ⟨x, hx, hxk, hxw⟩ := h.placed c hc
      refine hno ⟨c, hc, ?_⟩
      rw [← hbs, InventoryConditionBalance.stock, ← hxw, eq_of_key_eq hx hbm (hxk.trans hplace),
        show c.productId = b.productId from congrArg Prod.snd hplace]
      rfl
    refine ⟨Table.sumBy_eq_zero hfree _, ?_⟩
    have hnone : db.conditionBalances.find? (b.key.1, b.key.2, .available) = none := by
      rw [find?_eq_none]
      intro c hc hck
      simp only [InventoryConditionBalance.key, Prod.mk.injEq] at hck
      exact hfree c hc (Prod.ext hck.1 hck.2.1)
    rw [sellable, hnone]
    rfl
  · exact (List.Nodup.of_map _ db.locationBalances.nodup).filter _

lemma Classing.skip (h : Sound db) {s : ℕ × ℕ} (hno : ¬ db.Classed s)
    {x : InventoryLocationBalance} {xs : List InventoryLocationBalance}
    (hI : Classing s db (x :: xs) db') (hq : x.quantity ≤ 0) : Classing s db xs db' := by
  obtain ⟨hxm, hxs⟩ := hI.pending x mem_cons_self
  obtain ⟨hr, ha⟩ := h.free x hxm
  have hu := h.unclassified x hxm (by rwa [hxs])
  obtain ⟨hc₀, hs₀⟩ := hI.todo x mem_cons_self
  refine { hI with
    done := fun b hb hs hnb => ?_
    todo := fun b hb => hI.todo b (mem_cons_of_mem x hb)
    pending := fun b hb => hI.pending b (mem_cons_of_mem x hb)
    nodup := (nodup_cons.mp hI.nodup).2 }
  by_cases hbx : b = x
  · subst hbx
    exact ⟨by omega, by omega⟩
  · exact hI.done b hb hs (by simp [hbx, hnb])

lemma Classing.create (h : Sound db) {s : ℕ × ℕ} (hno : ¬ db.Classed s)
    {x : InventoryLocationBalance} {xs : List InventoryLocationBalance}
    (hI : Classing s db (x :: xs) db') {c : InventoryConditionBalance}
    (hc : c.condition = .available) (hplace : c.place = x.key) (hcw : c.warehouseId = x.warehouseId)
    (hcq : c.quantity = x.quantity) (hnone : db'.conditionBalances.find? c.key = none) :
    Classing s db xs { db' with conditionBalances := db'.conditionBalances.put c } := by
  obtain ⟨hxm, hxs⟩ := hI.pending x mem_cons_self
  have hu := h.unclassified x hxm (by rwa [hxs])
  obtain ⟨hc₀, hs₀⟩ := hI.todo x mem_cons_self
  have hcstock : c.stock = s := by
    rw [← hxs, InventoryConditionBalance.stock, hcw,
      show c.productId = x.productId from congrArg Prod.snd hplace]
    rfl
  have hne : ∀ k, k ≠ x.key →
      ({ db' with conditionBalances := db'.conditionBalances.put c } : Db).classified k =
        db'.classified k ∧
      ({ db' with conditionBalances := db'.conditionBalances.put c } : Db).sellable k =
        db'.sellable k := by
    intro k hk
    rw [classified_writeCondition hc, sellable_writeCondition hc, hplace, Pi.add_apply,
      Pi.single_eq_of_ne hk, if_neg hk, add_zero]
    exact ⟨rfl, rfl⟩
  have hkey : ∀ b ∈ db.locationBalances, b ≠ x → b.key ≠ x.key := fun b hb hbx hk =>
    hbx (eq_of_key_eq hb hxm hk)
  refine ⟨?_, fun y hy => ?_, fun y hy => ?_, fun k hk => ?_, fun b hb hs hnb => ?_, fun b hb => ?_,
    fun b hb => hI.pending b (mem_cons_of_mem x hb), (nodup_cons.mp hI.nodup).2⟩
  · rw [hI.frame]
  · refine mem_put.mpr (Or.inr ⟨hI.old y hy, ?_⟩)
    exact find?_eq_none.mp hnone y (hI.old y hy)
  · rcases mem_put.mp hy with rfl | ⟨hy, _⟩
    · exact .inr ⟨hcstock, x, hxm, hplace.symm, hcw.symm⟩
    · exact hI.new y hy
  · obtain ⟨h₁, h₂⟩ := hne k (hk x hxm hxs).symm
    obtain ⟨h₃, h₄⟩ := hI.other k hk
    exact ⟨h₁.trans h₃, h₂.trans h₄⟩
  · by_cases hbx : b = x
    · subst hbx
      refine ⟨?_, ?_⟩
      · rw [classified_writeCondition hc, hplace, Pi.add_apply, Pi.single_eq_same]
        omega
      · rw [sellable_writeCondition hc, hplace, if_pos rfl]
        omega
    · obtain ⟨h₁, h₂⟩ := hne b.key (hkey b hb hbx)
      obtain ⟨h₃, h₄⟩ := hI.done b hb hs (by simp [hbx, hnb])
      exact ⟨h₁.trans h₃, by rw [h₂]; exact h₄⟩
  · have hbx : b ≠ x := fun hbx => (nodup_cons.mp hI.nodup).1 (hbx ▸ hb)
    obtain ⟨h₁, h₂⟩ := hne b.key (hkey b (hI.pending b (mem_cons_of_mem x hb)).1 hbx)
    obtain ⟨h₃, h₄⟩ := hI.todo b (mem_cons_of_mem x hb)
    exact ⟨h₁.trans h₃, h₂.trans h₄⟩

lemma Classing.finish (h : Consistent db) {s : ℕ × ℕ} (hI : Classing s db [] db') :
    Consistent db' ∧ db'.Classified s := by
  obtain ⟨t, rfl⟩ : ∃ t, db' = { db with conditionBalances := t } := ⟨_, hI.frame⟩
  have hdone : ({ db with conditionBalances := t } : Db).Classified s := fun b hb hs =>
    hI.done b hb hs not_mem_nil
  refine ⟨⟨⟨h.located, fun c hc => ?_, h.free, fun k hk b hb hbk => ?_, fun b hb hnc => ?_,
    h.unlocated, h.held, h.ordered⟩, h.totals⟩, hdone⟩
  · rcases hI.new c hc with hc | ⟨_, hst⟩
    · exact h.placed c hc
    · exact hst
  · by_cases hks : k = s
    · exact hdone b hb (hbk.trans hks)
    · obtain ⟨c, hc, hck⟩ := hk
      have hold : c ∈ db.conditionBalances := by
        rcases hI.new c hc with hc | ⟨hcs, _⟩
        · exact hc
        · exact absurd (hck.symm.trans hcs) hks
      obtain ⟨h₁, h₂⟩ := h.classified k ⟨c, hold, hck⟩ b hb hbk
      obtain ⟨h₃, h₄⟩ := hI.other b.key fun x hx hxs hxk => hks (by
        rw [← hbk, ← hxs, eq_of_key_eq hx hb hxk])
      exact ⟨h₃.trans h₁, by rw [h₄]; exact h₂⟩
  · exact h.unclassified b hb fun ⟨c, hc, hs⟩ => hnc ⟨c, hI.old c hc, hs⟩

lemma checkConditions_commits {existing : List InventoryConditionBalance} {u : Unit}
    (h : Commits (checkConditions existing b) db u db') : db' = db := by
  simp only [checkConditions, commits_steps] at h
  obtain ⟨_, _, rfl⟩ := h
  rfl

lemma prepareConditionInventory_commits {u : Unit} (hdb : Consistent db)
    (h : Commits (prepareConditionInventory w p) db u db') :
    Prepared (w, p) db db' ∧ db'.Classified (w, p) := by
  simp only [prepareConditionInventory, commits_bind, commits_get, commits_ite] at h
  obtain ⟨a, t, hprep, _, _, ⟨rfl, rfl⟩, h⟩ := h
  obtain ⟨hp, -⟩ := prepareLocationInventory_commits hdb hprep
  rcases h with ⟨hnil, h⟩ | ⟨hnil, _, _, hcheck, hreq⟩
  · rw [conditionsOf_eq_nil] at hnil
    have hsound := hp.consistent.toSound
    have hI := Commits.forM (I := Classing (w, p) t) (fun x xs st st' hI hx => by
      rcases commits_ite.mp hx with ⟨hq, hx⟩ | ⟨_, hx⟩
      · obtain ⟨_, rfl⟩ := commits_pure.mp hx
        exact hI.skip hsound hnil hq
      · obtain ⟨hnone, rfl⟩ := commits_create.mp hx
        obtain ⟨_, hxs⟩ := hI.pending x mem_cons_self
        have hpx : p = x.productId := (congrArg Prod.snd hxs).symm
        exact hI.create hsound hnil rfl (Prod.ext rfl hpx) (congrArg Prod.fst hxs).symm rfl hnone)
      h (Classing.init hsound hnil)
    obtain ⟨hcons, hcl⟩ := hI.finish hp.consistent
    refine ⟨⟨hp.toKeeps.trans ?_, hcons, ?_, ?_⟩, hcl⟩
    · rw [hI.frame]
      exact ⟨rfl, fun _ _ hid => hid, fun _ _ hk => hk⟩
    · rw [hI.frame]
      exact hp.reservations
    · rw [hI.frame]
      exact hp.vacant
  · rw [conditionsOf_eq_nil, not_not] at hnil
    obtain ⟨_, rfl⟩ := commits_require.mp hreq
    have hsame := Commits.forM (I := fun _ st => st = t)
      (fun x xs st st' hI hx => (checkConditions_commits hx).trans hI) hcheck rfl
    subst hsame
    exact ⟨hp, hp.consistent.classified _ hnil⟩

lemma Prepared.trans {s : ℕ × ℕ} {db₁ db₂ db₃ : Db} (h : Prepared s db₁ db₂)
    (h' : Prepared s db₂ db₃) : Prepared s db₁ db₃ :=
  ⟨h.toKeeps.trans h'.toKeeps, h'.consistent, h'.reservations.trans h.reservations, h'.vacant⟩

lemma orderedAvailableBalances_commits {rows : List InventoryLocationBalance}
    (hdb : Consistent db) (h : Commits (orderedAvailableBalances w p) db rows db') :
    Prepared (w, p) db db' ∧ db'.Classified (w, p) ∧
      ∀ b ∈ rows, b ∈ db'.locationBalances ∧ b.stock = (w, p) := by
  simp only [orderedAvailableBalances, commits_steps] at h
  obtain ⟨a, t, hloc, _, t', hcond, rfl, rfl⟩ := h
  obtain ⟨hp, -⟩ := prepareLocationInventory_commits hdb hloc
  obtain ⟨hp', hcl⟩ := prepareConditionInventory_commits hp.consistent hcond
  refine ⟨hp.trans hp', hcl, fun b hb => ?_⟩
  rcases mem_append.mp hb with hb | hb
  all_goals
    obtain ⟨hbm, hp⟩ := Table.mem_findSorted.mp (List.mem_of_mem_filter hb)
    simp only [cond_iff] at hp
    exact ⟨hbm, Prod.ext hp.1.1 hp.1.2⟩

end Mayatoko.Stock
