import Mayatoko.Stock.StockFrame
import Mayatoko.Stock.TransferPosting

/-!
# A transfer is shipped once

Shipment takes a transfer from `APPROVED` to `SHIPPED` and a receipt keeps it past that. The only
way back is an approval that writes after its transfer has been shipped, on the strength of a status
that it read before. A transfer is shipped at most once, and never `APPROVED` again after it was
shipped, exactly if no approval writes so late.
-/

namespace Mayatoko.Transit

open Core Accounting Stock

/-- The tables, the approvals that have read and not yet written, and the shipments so far. -/
structure TransferSystem where
  db : TransitDb
  pending : List ℕ := []
  shipped : List ℕ := []

inductive TransferEvent
  | readApproval (scope : TenantScope) (id : ℕ)
  | writeApproval (id : ℕ)
  | ship (scope : TenantScope) (id : ℕ)
  | receive (scope : TenantScope) (id : ℕ) (inputs : List ReceiveStockTransferItem)
  | elsewhere (db : TransitDb)

/-- One step of any client. Transactions that throw are no steps; whatever does not write transfers
may happen in between. -/
inductive TransferStep : TransferSystem → TransferEvent → TransferSystem → Prop
  | readApproval {s : TransferSystem} {scope : TenantScope} {id : ℕ} {db : TransitDb} :
      Commits (readForApproval scope id) s.db () db →
      TransferStep s (.readApproval scope id) { s with db, pending := id :: s.pending }
  | writeApproval {s : TransferSystem} {id : ℕ} {db : TransitDb} :
      id ∈ s.pending → Commits (Transit.writeApproval id) s.db () db →
      TransferStep s (.writeApproval id) { s with db, pending := s.pending.erase id }
  | ship {s : TransferSystem} {scope : TenantScope} {id : ℕ} {db : TransitDb} :
      Commits (shipTransfer scope id) s.db () db →
      TransferStep s (.ship scope id) { s with db, shipped := id :: s.shipped }
  | receive {s : TransferSystem} {scope : TenantScope} {id : ℕ}
      {inputs : List ReceiveStockTransferItem} {db : TransitDb} :
      Commits (receiveTransfer scope id inputs) s.db () db →
      TransferStep s (.receive scope id inputs) { s with db }
  | elsewhere {s : TransferSystem} {db : TransitDb} :
      db.stock.transfers = s.db.stock.transfers → TransferStep s (.elsewhere db) { s with db }

def TransitDb.statusOf (db : TransitDb) (id : ℕ) : Option StockTransferStatus :=
  (db.stock.transfers.find? id).map StockTransfer.status

def TransitDb.UnderWay (db : TransitDb) (id : ℕ) : Prop :=
  db.statusOf id = some .shipped ∨ db.statusOf id = some .partiallyReceived ∨
    db.statusOf id = some .received

instance (db : TransitDb) (id : ℕ) : Decidable (db.UnderWay id) := by
  unfold TransitDb.UnderWay
  infer_instance

/-- No transfer was shipped twice, and none that was shipped is `APPROVED`. -/
def ShippedOnce (s : TransferSystem) : Prop :=
  s.shipped.Nodup ∧ ∀ id ∈ s.shipped, s.db.statusOf id ≠ some .approved

/-- An approval writes to a transfer that has not been shipped. -/
def NotYetShipped (s : TransferSystem) (e : TransferEvent) : Prop :=
  ∀ id, e = .writeApproval id → ¬ s.db.UnderWay id

def Tracked (s : TransferSystem) : Prop :=
  ∀ id, (s.db.UnderWay id → id ∈ s.shipped) ∧
    (id ∈ s.shipped → s.db.UnderWay id ∨ s.db.statusOf id = some .approved)

variable {db db' : TransitDb} {scope : TenantScope} {id : ℕ} {s s' : TransferSystem}
  {e : TransferEvent}

/-! ### What the transactions do to the status -/

lemma offStock_transfers : OffStock Db.transfers := ⟨fun _ _ _ _ _ _ _ _ _ _ => rfl⟩

/-- The transaction writes the status of the transfer and of no other. -/
def SetsStatus (id : ℕ) (status : StockTransferStatus) (db db' : TransitDb) : Prop :=
  db'.statusOf id = some status ∧ ∀ other, other ≠ id → db'.statusOf other = db.statusOf other

variable {status : StockTransferStatus}

lemma setsStatus_of_put {t : StockTransfer} (ht : db.stock.transfers.find? id = some t)
    (h : db'.stock.transfers = db.stock.transfers.put { t with status }) :
    SetsStatus id status db db' := by
  obtain ⟨_, rfl⟩ := find?_eq_some.mp ht
  unfold SetsStatus TransitDb.statusOf
  rw [h]
  constructor
  · rw [show t.id = ({ t with status } : StockTransfer).id from rfl, find?_put_self]
    rfl
  · intro other hother
    have hsame := find?_put_of_ne db.stock.transfers (r := { t with status }) hother
    rw [hsame]

lemma findTransfer_commits {ofSource : Bool} {r : StockTransfer × Warehouse × Warehouse}
    (h : Commits (findTransfer scope id ofSource) db r db') :
    db.stock.transfers.find? id = some r.1 ∧ db = db' := by
  simp only [findTransfer, findWarehouse, commits_bind, commits_get, commits_orThrow, commits_pure] at h
  obtain ⟨_, _, ⟨rfl, rfl⟩, row, _, ⟨hrow, rfl⟩, _, _, ⟨_, _, ⟨rfl, rfl⟩, _, rfl⟩, _, _,
    ⟨_, _, ⟨rfl, rfl⟩, _, rfl⟩, rfl, rfl⟩ := h
  exact ⟨hrow, rfl⟩

variable {u : Unit}

lemma readForApproval_commits (h : Commits (readForApproval scope id) db u db') : db = db' := by
  simp only [readForApproval, commits_steps] at h
  obtain ⟨_, _, hfind, _, rfl⟩ := h
  exact (findTransfer_commits hfind).2

lemma writeApproval_commits (h : Commits (writeApproval id) db u db') : SetsStatus id .approved db db' := by
  simp only [writeApproval, Part.commits_lift, commits_steps, TableOf.commits_update] at h
  obtain ⟨_, ⟨_, _, ⟨t, ht, rfl, rfl⟩, _, rfl⟩, rfl⟩ := h
  exact setsStatus_of_put ht rfl

lemma stock_shipTransfer_commits {st st' : Db} (h : Commits (Stock.shipTransfer id) st u st') :
    ∃ t, st.transfers.find? id = some t ∧ t.status = .approved ∧
      st'.transfers = st.transfers.put { t with status := .shipped } := by
  simp only [Stock.shipTransfer, commits_steps, TableOf.commits_update] at h
  obtain ⟨t, ht, hstatus, _, mid, hloop, _, _, _, ⟨t', ht', rfl, rfl⟩, _, rfl⟩ := h
  have hquiet := Leaves.forM (fun item => offStock_transfers.shipTransferItem
    (TableOf.Apart.update ⟨fun _ _ => rfl⟩)) _ _ _ hloop
  change mid.transfers.find? id = some t' at ht'
  rw [hquiet] at ht'
  obtain rfl := mem_unique ht ht'
  refine ⟨t, ht, hstatus, ?_⟩
  change mid.transfers.put _ = _
  rw [hquiet]

variable {inputs : List ReceiveStockTransferItem}

lemma stock_receiveTransfer_commits {st st' : Db} (h : Commits (Stock.receiveTransfer id inputs) st u st') :
    ∃ t, ∃ complete : Bool, st.transfers.find? id = some t ∧
      (t.status = .shipped ∨ t.status = .partiallyReceived) ∧
      st'.transfers = st.transfers.put
        { t with status := if complete then .received else .partiallyReceived } := by
  simp only [Stock.receiveTransfer, commits_steps, TableOf.commits_update] at h
  obtain ⟨t, ht, hstatus, _, mid, hloop, _, _, _, ⟨t', ht', rfl, rfl⟩, _, rfl⟩ := h
  have hquiet := Leaves.forM (fun input => offStock_transfers.receiveTransferEntry
    fun _ => TableOf.Apart.update ⟨fun _ _ => rfl⟩) _ _ _ hloop
  change mid.transfers.find? id = some t' at ht'
  rw [hquiet] at ht'
  obtain rfl := mem_unique ht ht'
  refine ⟨t, (mid.itemsOfTransfer id).all fun i => i.shippedQty ≤ i.receivedQty, ht, hstatus, ?_⟩
  change mid.transfers.put _ = _
  rw [hquiet]

lemma posting_stock {c : Prop} [Decidable c] {input : PostOperationalEventInput} {u : Unit}
    (h : Commits (if c then (do
        let _ ← ledgerPart.lift (postOperationalEvent input)) else pure () : TransitTx Unit)
      db u db') : db'.stock = db.stock := by
  have hquiet : ledgerPart.Apart TransitDb.stock := ⟨fun _ _ => rfl⟩
  exact Leaves.ite (hquiet.lift.bind fun _ => leaves_pure) leaves_pure db u db' h

lemma shipTransfer_commits (h : Commits (shipTransfer scope id) db u db') :
    db.statusOf id = some .approved ∧ SetsStatus id .shipped db db' := by
  simp only [shipTransfer, commits_steps] at h
  obtain ⟨_, _, hfind, _, mid, hship, hpost⟩ := h
  obtain ⟨_, rfl⟩ := findTransfer_commits hfind
  obtain ⟨st, hstock, rfl⟩ := Part.commits_lift.mp hship
  obtain ⟨t, ht, hstatus, hput⟩ := stock_shipTransfer_commits hstock
  have hsame := posting_stock hpost
  refine ⟨?_, setsStatus_of_put ht ?_⟩
  · rw [TransitDb.statusOf, show db.stock.transfers.find? id = some t from ht, Option.map_some, hstatus]
  · rw [hsame]
    exact hput

lemma receiveTransfer_commits
    (h : Commits (receiveTransfer scope id inputs) db u db') :
    db.UnderWay id ∧ db'.UnderWay id ∧
      ∀ other, other ≠ id → db'.statusOf other = db.statusOf other := by
  simp only [receiveTransfer, commits_steps] at h
  obtain ⟨_, _, hfind, _, mid, hrec, hpost⟩ := h
  obtain ⟨_, rfl⟩ := findTransfer_commits hfind
  obtain ⟨st, hstock, rfl⟩ := Part.commits_lift.mp hrec
  obtain ⟨t, complete, ht, hbefore, hput⟩ := stock_receiveTransfer_commits hstock
  have hsame := posting_stock hpost
  have hwritten : db'.stock.transfers = _ := (congrArg Db.transfers hsame).trans hput
  obtain ⟨hstatus, hothers⟩ := setsStatus_of_put ht hwritten
  refine ⟨?_, ?_, hothers⟩
  · have hnow : db.statusOf id = some t.status := by
      rw [TransitDb.statusOf, show db.stock.transfers.find? id = some t from ht, Option.map_some]
    rcases hbefore with hb | hb
    · exact .inl (hnow.trans (by rw [hb]))
    · exact .inr (Or.inl (hnow.trans (by rw [hb])))
  · cases complete with
    | true => exact .inr (Or.inr hstatus)
    | false => exact .inr (Or.inl hstatus)

/-! ### Histories -/

lemma underWay_congr (h : db'.statusOf id = db.statusOf id) : db'.UnderWay id ↔ db.UnderWay id := by
  unfold TransitDb.UnderWay
  rw [h]

lemma SetsStatus.underWay_iff (h : SetsStatus id status db db')
    {other : ℕ} (hother : other ≠ id) : db'.UnderWay other ↔ db.UnderWay other :=
  underWay_congr (h.2 other hother)

lemma not_underWay_of_approved (h : db.statusOf id = some .approved) : ¬ db.UnderWay id := by
  unfold TransitDb.UnderWay
  rw [h]
  simp

lemma tracked_of_step (h : Tracked s) (hstep : TransferStep s e s') : Tracked s' := by
  cases hstep with
  | readApproval hc =>
    obtain rfl := readForApproval_commits hc
    exact h
  | @writeApproval id db _ hc =>
    have hset := writeApproval_commits hc
    intro other
    by_cases hother : other = id
    · subst hother
      exact ⟨fun hway => absurd hway (not_underWay_of_approved hset.1), fun _ => .inr hset.1⟩
    · rw [hset.underWay_iff hother, hset.2 other hother]
      exact h other
  | @ship scope id db hc =>
    obtain ⟨_, hset⟩ := shipTransfer_commits hc
    intro other
    by_cases hother : other = id
    · subst hother
      exact ⟨fun _ => mem_cons_self, fun _ => .inl (Or.inl hset.1)⟩
    · rw [hset.underWay_iff hother, hset.2 other hother, mem_cons]
      simp only [hother, false_or]
      exact h other
  | @receive scope id inputs db hc =>
    obtain ⟨hbefore, hafter, hothers⟩ := receiveTransfer_commits hc
    intro other
    by_cases hother : other = id
    · subst hother
      exact ⟨fun _ => (h other).1 hbefore, fun _ => .inl hafter⟩
    · rw [underWay_congr (hothers other hother), hothers other hother]
      exact h other
  | @elsewhere db hsame =>
    intro other
    have hstatus : db.statusOf other = s.db.statusOf other := by
      rw [TransitDb.statusOf, TransitDb.statusOf, hsame]
    rw [underWay_congr hstatus, hstatus]
    exact h other

lemma Tracked.underWay (h : Tracked s) (h₁ : ShippedOnce s) (hid : id ∈ s.shipped) : s.db.UnderWay id := by
  rcases (h id).2 hid with hway | happroved
  · exact hway
  · exact absurd happroved (h₁.2 id hid)

/-- A step keeps `ShippedOnce` exactly if it is not an approval of a transfer that is under way. -/
lemma shippedOnce_iff_of_step (h : Tracked s) (h₁ : ShippedOnce s) (hstep : TransferStep s e s') :
    ShippedOnce s' ↔ NotYetShipped s e := by
  cases hstep with
  | readApproval hc =>
    obtain rfl := readForApproval_commits hc
    exact iff_of_true h₁ (by rintro _ ⟨⟩)
  | @writeApproval id db _ hc =>
    have hset := writeApproval_commits hc
    constructor
    · rintro hland _ ⟨⟩ hway
      exact hland.2 id ((h id).1 hway) hset.1
    · intro hguard
      refine ⟨h₁.1, fun other hother => ?_⟩
      have hne : other ≠ id := by
        rintro rfl
        exact hguard other rfl (h.underWay h₁ hother)
      rw [hset.2 other hne]
      exact h₁.2 other hother
  | @ship scope id db hc =>
    obtain ⟨happroved, hset⟩ := shipTransfer_commits hc
    refine iff_of_true ⟨nodup_cons.mpr ⟨fun hmem => h₁.2 id hmem happroved, h₁.1⟩, ?_⟩ (by rintro _ ⟨⟩)
    intro other hother
    by_cases hne : other = id
    · subst hne
      rw [hset.1]
      simp
    · rw [hset.2 other hne]
      exact h₁.2 other ((mem_cons.mp hother).resolve_left hne)
  | @receive scope id inputs db hc =>
    obtain ⟨_, hafter, hothers⟩ := receiveTransfer_commits hc
    refine iff_of_true ⟨h₁.1, fun other hother => ?_⟩ (by rintro _ ⟨⟩)
    by_cases hne : other = id
    · subst hne
      exact fun happroved => not_underWay_of_approved happroved hafter
    · rw [hothers other hne]
      exact h₁.2 other hother
  | @elsewhere db hsame =>
    refine iff_of_true ⟨h₁.1, fun other hother => ?_⟩ (by rintro _ ⟨⟩)
    rw [TransitDb.statusOf, hsame]
    exact h₁.2 other hother

/-- No transfer is shipped twice or `APPROVED` after its shipment, in any interleaving, exactly if
every approval that writes finds its transfer not yet shipped. -/
theorem shippedOnce_iff {es : List TransferEvent} (h : Tracked s) (h₁ : ShippedOnce s) :
    Run (Landing ShippedOnce TransferStep) s es s' ↔
      Run (Guarded NotYetShipped TransferStep) s es s' := by
  refine Run.landing_iff_guarded_of_invariant (J := Tracked) ?_ ?_ h h₁
  · exact fun _ _ _ ht hstep => tracked_of_step ht hstep
  · exact fun _ _ _ ht hs hstep => shippedOnce_iff_of_step ht hs hstep

def branchOne : TenantScope := ⟨1, 1⟩

def after (x : TransitTx Unit) (db : TransitDb) : TransitDb := (execute x db).2

lemma commits_after {x : TransitTx Unit} (h : (execute x db).1 = .ok ()) : Commits x db () (after x db) :=
  commits_of_execute h

def requested : TransferSystem := { db := tenUnits }

lemma statusOf_tenUnits (id : ℕ) : tenUnits.statusOf id = if id = 1 then some .requested else none := by
  rw [TransitDb.statusOf, tenUnits]
  simp only [Table.find?_put, Table.find?_empty]
  split <;> rfl

lemma requested_tracked : Tracked requested := by
  intro id
  constructor
  · intro hway
    change tenUnits.UnderWay id at hway
    simp only [TransitDb.UnderWay, statusOf_tenUnits] at hway
    split at hway <;> simp at hway
  · intro hmem
    cases hmem

lemma requested_shippedOnce : ShippedOnce requested :=
  ⟨List.nodup_nil, fun _ hmem => by cases hmem⟩

def approvedUnits : TransitDb := after (writeApproval 1) tenUnits

def shippedUnits : TransitDb := after (shipTransfer branchOne 1) approvedUnits

def lateApproval : List TransferEvent :=
  [.readApproval branchOne 1, .readApproval branchOne 1, .writeApproval 1, .ship branchOne 1,
    .writeApproval 1, .ship branchOne 1]

theorem lateApproval_shipsTwice : Tracked requested ∧ ShippedOnce requested ∧
      ∃ s, Run TransferStep requested lateApproval s ∧ ¬ ShippedOnce s := by
  have hread : Commits (readForApproval branchOne 1) tenUnits () tenUnits :=
    commits_after (by decide +kernel)
  have hwrite : Commits (writeApproval 1) tenUnits () approvedUnits :=
    commits_after (by decide +kernel)
  have hship : Commits (shipTransfer branchOne 1) approvedUnits () shippedUnits :=
    commits_after (by decide +kernel)
  have hagain : Commits (writeApproval 1) shippedUnits () (after (writeApproval 1) shippedUnits) :=
    commits_after (by decide +kernel)
  have htwice : Commits (shipTransfer branchOne 1) (after (writeApproval 1) shippedUnits) ()
      (after (shipTransfer branchOne 1) (after (writeApproval 1) shippedUnits)) :=
    commits_after (by decide +kernel)
  refine ⟨requested_tracked, requested_shippedOnce, _, .cons (.readApproval hread) (.cons (.readApproval hread)
      (.cons (.writeApproval mem_cons_self hwrite) (.cons (.ship hship)
        (.cons (.writeApproval mem_cons_self hagain) (.cons (.ship htwice) (.nil _)))))), ?_⟩
  rintro ⟨hnodup, _⟩
  revert hnodup
  decide

theorem shippedOnce_inTurn : ∃ s, Run (Landing ShippedOnce TransferStep) requested
      [.readApproval branchOne 1, .writeApproval 1, .ship branchOne 1] s := by
  have hread : Commits (readForApproval branchOne 1) tenUnits () tenUnits :=
    commits_after (by decide +kernel)
  have hwrite : Commits (writeApproval 1) tenUnits () approvedUnits :=
    commits_after (by decide +kernel)
  have hship : Commits (shipTransfer branchOne 1) approvedUnits () shippedUnits :=
    commits_after (by decide +kernel)
  have hfresh : ¬ tenUnits.UnderWay 1 := by decide +kernel
  refine ⟨_, (shippedOnce_iff requested_tracked requested_shippedOnce).mpr
    (.cons ⟨?_, .readApproval hread⟩ (.cons ⟨?_, .writeApproval mem_cons_self hwrite⟩
      (.cons ⟨?_, .ship hship⟩ (.nil _))))⟩
  · rintro _ ⟨⟩
  · rintro _ ⟨⟩
    exact hfresh
  · rintro _ ⟨⟩

end Mayatoko.Transit
