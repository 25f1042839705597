import Mayatoko.Control.InspectionMoves

/-!
# The scans of a shipment

Scans are counted on the result rows of an inspection, one row for each, while a completion replaces all of
its rows and takes the counters from what it has read before. The counters go on adding up to the scans
exactly if those that a completion stores add up to those that are there.
-/

namespace Mayatoko.Control

open Core Procurement Finance ControlDb
open Transit (TenantScope)
open Orders (Shipment)

/-! ### What is claimed -/

def source (i : OperationalInspection) : String × ℕ := (i.sourceType, i.sourceId)

def ControlDb.sourceOf (d : ControlDb) (id : ℕ) : Option (String × ℕ) := (d.inspections.find? id).map source

def ControlDb.counted (d : ControlDb) (id productId : ℕ) : ℤ :=
  ((d.results.findMany fun r => r.inspectionId = id && r.productId = some productId).map fun r =>
    r.scannedQty.getD 0).sum

def InspectionEvidence.isScan (productId : ℕ) (e : InspectionEvidence) : Bool :=
  e.evidenceType = "BARCODE" && !e.legacyUnverified && e.productId = some productId

def ControlDb.scans (d : ControlDb) (id productId : ℕ) : ℕ :=
  d.evidence.countP fun e => e.isScan productId && e.inspectionId = id

def ControlDb.shipmentScans (d : ControlDb) (shipmentId productId : ℕ) : ℕ :=
  d.evidence.countP fun e => e.isScan productId && d.sourceOf e.inspectionId = some ("Shipment", shipmentId)

def reservedFor (shipmentId productId : ℕ) (s : Stock.InventorySerial) : Bool :=
  s.status = .reserved && s.referenceType = some "Shipment" && s.referenceId = some (toString shipmentId) &&
    s.productId = productId

def ControlDb.reservedSerials (d : ControlDb) (shipmentId productId : ℕ) : ℕ :=
  (d.serials.findMany (reservedFor shipmentId productId)).length

/-- In the inspection of a shipment the counters of a product add up to its scans, and none is more than what
is expected; of a product with serial numbers as many are reserved as were scanned. -/
structure ScansAddUp (d : ControlDb) : Prop where
  counted : ∀ i ∈ d.inspections, i.sourceType = "Shipment" → ∀ productId,
    d.counted i.id productId = d.scans i.id productId
  within : ∀ i ∈ d.inspections, i.sourceType = "Shipment" → ∀ row ∈ d.resultsOf i.id,
    row.productId.isSome = true → row.scannedQty.getD 0 ≤ row.expectedQty.getD 0
  reserved : ∀ p ∈ d.products, p.trackSerial = true → ∀ shipmentId,
    d.shipmentScans shipmentId p.id = d.reservedSerials shipmentId p.id

def storedCounter (persisted : List InspectionResultItem) (r : InspectionResult) : ℤ :=
  (scanCounter persisted r).getD 0

def productsAt (d : ControlDb) (id : ℕ) (results : List InspectionResult) : List ℕ :=
  (d.resultsOf id).filterMap InspectionResultItem.productId ++ results.filterMap InspectionResult.productId

/-- The counters that a completion has read add up to those that are there now, and none is more than what is
expected. -/
def CountersHold (d : ControlDb) : Option InspectionLabel → Prop
  | some (.completed id persisted results) =>
    ∀ i ∈ d.inspections.rows, i.id = id → i.sourceType = "Shipment" →
      (∀ productId ∈ productsAt d id results,
        ((rowsOf results productId).map (storedCounter persisted)).sum = d.counted id productId) ∧
      ∀ r ∈ results, r.productId.isSome = true → storedCounter persisted r ≤ r.expectedQty.getD 0
  | some .looked | some (.evidenced _ _ _) | some (.approved _ _) | none => True

/-- What the rest of the system may do meanwhile: no result row, no evidence, and no reservation changes, nor
does what an inspection is about, and how a product is tracked. -/
structure OutsideScans (d d' : ControlDb) : Prop where
  results : d'.results = d.results
  evidence : d'.evidence = d.evidence
  sources : ∀ id, d'.sourceOf id = d.sourceOf id
  products : d'.products = d.products
  owners : ∀ s' ∈ d'.serials, ∃ s ∈ d.serials, s.serialNumber = s'.serialNumber ∧ s.productId = s'.productId
  reserved : ∀ shipmentId productId, d'.reservedSerials shipmentId productId = d.reservedSerials shipmentId productId

/-! ### What stays true of what was read -/

structure SameCatalogue (d₀ d : ControlDb) : Prop where
  sources : ∀ id, d.sourceOf id = d₀.sourceOf id
  products : d.products = d₀.products
  owners : ∀ s ∈ d.serials, ∃ s₀ ∈ d₀.serials, s₀.serialNumber = s.serialNumber ∧ s₀.productId = s.productId

lemma SameCatalogue.refl (d : ControlDb) : SameCatalogue d d :=
  ⟨fun _ => rfl, rfl, fun s hs => ⟨s, hs, rfl, rfl⟩⟩

structure Resolved (d₀ : ControlDb) (i : OperationalInspection) (scan : Scan) : Prop where
  source : d₀.sourceOf i.id = some (source i)
  untracked : scan.serialNumber = none → i.sourceType = "Shipment" →
    ∀ p ∈ d₀.products, p.id = scan.productId → p.trackSerial = false
  serial : ∀ n, scan.serialNumber = some n → i.sourceType = "Shipment" ∧
    ∀ s ∈ d₀.serials, s.serialNumber = n → s.productId = scan.productId

section

variable {d₀ : ControlDb} {scope : TenantScope} {id : ℕ} {value : String}
  {R : OperationalInspection → Scan → Prop}

def OldProducts (d₀ : ControlDb) (products : List Stock.Product) : Prop := ∀ p ∈ products, p ∈ d₀.products

lemma mem_productsOf {d : ControlDb} {ids : List ℕ} {p : Stock.Product} (h : p ∈ d.productsOf ids) :
    p ∈ d.products := by
  obtain ⟨k, _, hk⟩ := List.mem_filterMap.mp h
  exact (find?_eq_some.mp hk).1

variable {products : List Stock.Product}

lemma scanProduct_assures (hproducts : OldProducts d₀ products) :
    Assures (SameCatalogue d₀) (InspectionMove R) (fun scan => scan.serialNumber = none ∧
      ∀ p ∈ d₀.products, p.id = scan.productId → p.trackSerial = false) (scanProduct products value) := by
  refine assures_expect.bind fun matched hmatched => assures_pure ⟨rfl, fun p hp hid => ?_⟩
  obtain rfl : p = matched :=
    eq_of_key_eq hp (hproducts matched (List.mem_of_find?_eq_some hmatched)) hid
  have := List.find?_some hmatched
  simp only [Bool.and_eq_true, Bool.not_eq_true'] at this
  exact this.1

lemma scanSerial_assures {shipment : Shipment} {s : Stock.InventorySerial}
    (hs : ∃ s₀ ∈ d₀.serials, s₀.serialNumber = s.serialNumber ∧ s₀.productId = s.productId) :
    Assures (SameCatalogue d₀) (InspectionMove R) (fun scan => ∃ n, scan.serialNumber = some n ∧
      ∀ s ∈ d₀.serials, s.serialNumber = n → s.productId = scan.productId)
      (scanSerial shipment products s) := by
  refine assures_expect.bind fun _ _ => assures_check.bind fun _ _ => assures_check.bind fun _ _ => ?_
  refine assures_check.bind fun _ _ => assures_pure ⟨s.serialNumber, rfl, fun x hx hnumber => ?_⟩
  obtain ⟨s₀, hs₀, hkey, hproduct⟩ := hs
  obtain rfl := eq_of_key_eq hx hs₀ (hnumber.trans hkey.symm)
  exact hproduct

lemma scanShipment_assures : Assures (SameCatalogue d₀) (InspectionMove R)
    (fun scan => scan.serialNumber = none ∧
        (∀ p ∈ d₀.products, p.id = scan.productId → p.trackSerial = false) ∨
      ∃ n, scan.serialNumber = some n ∧ ∀ s ∈ d₀.serials, s.serialNumber = n → s.productId = scan.productId)
    (scanShipment scope id value) := by
  refine shippedOrder_looks.assures.bind fun _ _ => ?_
  refine Assures.bind (R := OldProducts d₀) (assures_lookup fun d hd => ⟨.looks, fun p hp => ?_⟩)
    fun products hproducts => ?_
  · exact hd.products ▸ mem_productsOf hp
  refine Assures.bind (R := fun found => ∀ s, found = some s →
      ∃ s₀ ∈ d₀.serials, s₀.serialNumber = s.serialNumber ∧ s₀.productId = s.productId)
    (assures_lookup fun d hd => ⟨.looks, fun s hs => ?_⟩) fun serial hserial => ?_
  · exact hd.owners s (find?_eq_some.mp hs).1
  cases serial with
  | none => exact (scanProduct_assures hproducts).mono fun _ h => .inl h
  | some s => exact (scanSerial_assures (hserial s rfl)).mono fun _ h => .inr h

lemma scanReceipt_assures : Assures (SameCatalogue d₀) (InspectionMove R)
    (fun scan => scan.serialNumber = none) (scanReceipt scope id value) := by
  refine query_looks.assures.bind fun _ _ => assures_expect.bind fun _ _ => ?_
  exact assures_expect.bind fun _ _ => assures_pure rfl

lemma scanReturn_assures : Assures (SameCatalogue d₀) (InspectionMove R)
    (fun scan => scan.serialNumber = none) (scanReturn scope id value) := by
  refine query_looks.assures.bind fun _ _ => assures_expect.bind fun _ _ => ?_
  exact assures_expect.bind fun _ _ => assures_pure rfl

lemma resolved_of_other {i : OperationalInspection} {scan : Scan} (hsource : d₀.sourceOf i.id = some (source i))
    (hnone : scan.serialNumber = none) (htype : i.sourceType ≠ "Shipment") : Resolved d₀ i scan :=
  ⟨hsource, fun _ h => absurd h htype, by simp [hnone]⟩

lemma sourceOf_of_readFrom {i : OperationalInspection} (h : ReadFrom (SameCatalogue d₀) i) :
    d₀.sourceOf i.id = some (source i) := by
  obtain ⟨d, hd, hi⟩ := h
  rw [← hd.sources, sourceOf, find?_of_mem hi, Option.map_some]

lemma resolveScan_assures {i : OperationalInspection} (hread : ReadFrom (SameCatalogue d₀) i) :
    Assures (SameCatalogue d₀) (InspectionMove R) (fun scan => ∀ s, scan = some s → Resolved d₀ i s)
      (resolveScan scope i value) := by
  have hsource := sourceOf_of_readFrom hread
  unfold resolveScan
  refine Assures.ite (fun htype => ?_) fun _ => Assures.ite (fun htype => ?_) fun _ =>
    Assures.ite (fun htype => ?_) fun _ => assures_pure (by simp)
  · refine scanReceipt_assures.bind fun scan hnone => assures_pure fun s hs => ?_
    obtain rfl := Option.some.inj hs
    exact resolved_of_other hsource hnone (by rw [htype]; decide)
  · refine scanReturn_assures.bind fun scan hnone => assures_pure fun s hs => ?_
    obtain rfl := Option.some.inj hs
    exact resolved_of_other hsource hnone (by rw [htype]; decide)
  · refine scanShipment_assures.bind fun scan hscan => assures_pure fun s hs => ?_
    obtain rfl := Option.some.inj hs
    obtain ⟨hnone, huntracked⟩ | ⟨n, hn, howner⟩ := hscan
    · exact ⟨hsource, fun _ _ => huntracked, by simp [hnone]⟩
    · refine ⟨hsource, by simp [hn], fun m hm => ⟨htype, ?_⟩⟩
      obtain rfl := mem_unique hn hm
      exact howner

end

/-! ### One step -/

variable {d₀ d d' : ControlDb} {i : OperationalInspection}

lemma mem_of_sourceOf (h : ∀ id, d'.sourceOf id = d.sourceOf id) (hi : i ∈ d'.inspections) :
    ∃ j ∈ d.inspections, j.id = i.id ∧ source j = source i := by
  have hsource := h i.id
  rw [sourceOf, find?_of_mem hi, Option.map_some] at hsource
  obtain ⟨j, hj, hsame⟩ := Option.map_eq_some_iff.mp hsource.symm
  obtain ⟨hmem, hid⟩ := find?_eq_some.mp hj
  exact ⟨j, hmem, hid, hsame⟩

lemma sourceOf_put (j : OperationalInspection) (hi : i ∈ d.inspections) (hid : j.id = i.id)
    (hsource : source j = source i) (h : d'.inspections = d.inspections.put j) (id : ℕ) :
    d'.sourceOf id = d.sourceOf id := by
  unfold sourceOf
  rw [h, Table.find?_put]
  split
  next hkey =>
    rw [hkey, hid, find?_of_mem hi, Option.map_some, Option.map_some, hsource]
  next => rfl

lemma shipmentScans_congr (hevidence : d'.evidence = d.evidence)
    (hsources : ∀ id, d'.sourceOf id = d.sourceOf id)
    (shipmentId productId : ℕ) : d'.shipmentScans shipmentId productId = d.shipmentScans shipmentId productId := by
  unfold shipmentScans
  rw [hevidence]
  simp only [hsources]

lemma ScansAddUp.of_frame (hI : ScansAddUp d) (hresults : d'.results = d.results)
    (hscans : ∀ id productId, d'.scans id productId = d.scans id productId)
    (hshipments : ∀ s productId, d'.shipmentScans s productId = d.shipmentScans s productId)
    (hsources : ∀ id, d'.sourceOf id = d.sourceOf id) (hproducts : d'.products = d.products)
    (hreserved : ∀ s productId, d'.reservedSerials s productId = d.reservedSerials s productId) :
    ScansAddUp d' := by
  constructor
  · intro i hi htype productId
    obtain ⟨j, hj, hid, hsource⟩ := mem_of_sourceOf hsources hi
    rw [hscans, ← hid, ← hI.counted j hj ((congrArg Prod.fst hsource).trans htype), ControlDb.counted,
      ControlDb.counted, hresults]
  · intro i hi htype row hrow
    obtain ⟨j, hj, hid, hsource⟩ := mem_of_sourceOf hsources hi
    refine hI.within j hj ((congrArg Prod.fst hsource).trans htype) row ?_
    rwa [resultsOf, hresults, ← hid] at hrow
  · intro p hp htracked s
    rw [hshipments, hreserved]
    exact hI.reserved p (hproducts ▸ hp) htracked s

lemma ScansAddUp.outside (hI : ScansAddUp d) (h : OutsideScans d d') : ScansAddUp d' := by
  refine hI.of_frame h.results (fun id productId => ?_) (shipmentScans_congr h.evidence h.sources) h.sources
    h.products h.reserved
  rw [scans, scans, h.evidence]

lemma ScansAddUp.approval (hI : ScansAddUp d) {id : ℕ} {status : InspectionStatus}
    (h : Commits (writeDecision id status) d () d') : ScansAddUp d' := by
  obtain ⟨i, hi, _, rfl⟩ := writeDecision_commits h
  have hsources : ∀ id, sourceOf (inspection.write d (decideAs status i)) id = d.sourceOf id :=
    sourceOf_put (decideAs status i) hi rfl rfl rfl
  exact hI.of_frame rfl (fun _ _ => rfl) (shipmentScans_congr rfl hsources) hsources rfl fun _ _ => rfl

lemma countP_append_of_no_scan {e : List InspectionEvidence} {more : List InspectionEvidence} {productId : ℕ}
    (h : ∀ x ∈ more, x.productId = none) (c : InspectionEvidence → Bool) :
    (e ++ more).countP (fun x => x.isScan productId && c x) = e.countP fun x => x.isScan productId && c x := by
  rw [List.countP_append, Nat.add_eq_left, List.countP_eq_zero]
  intro x hx
  simp [InspectionEvidence.isScan, h x hx]

lemma ScansAddUp.note (hI : ScansAddUp d) {type : EvidenceType}
    (h : Commits (writeEvidence i type none) d () d') : ScansAddUp d' := by
  obtain ⟨e, hc, rfl⟩ := writeEvidence_commits.mp h
  obtain ⟨_, rfl⟩ := commits_pure.mp hc
  have hnone : ∀ x ∈ [evidenceRow i type none], x.productId = none := by simp [evidenceRow]
  refine hI.of_frame rfl (fun _ _ => ?_) (fun _ _ => ?_) (fun _ => rfl) rfl fun _ _ => rfl
  · exact countP_append_of_no_scan hnone _
  · exact countP_append_of_no_scan hnone _

/-! ### A scan -/

section

variable {type : EvidenceType} {scan : Scan} {row : InspectionResultItem}

lemma Counted.counted_eq (h : Counted i type scan row d d') (id productId : ℕ) : d'.counted id productId =
      d.counted id productId + if i.id = id ∧ scan.productId = productId then 1 else 0 := by
  obtain ⟨n, hn⟩ := Option.isSome_iff_exists.mp h.counted
  have hsum := Table.sum_put_of_mem h.mem (r := countScan row row) rfl fun r =>
    if (decide (r.inspectionId = id) && decide (r.productId = some productId)) = true then
      r.scannedQty.getD 0 else 0
  rw [← h.results, ← Table.sum_findMany, ← Table.sum_findMany] at hsum
  rw [ControlDb.counted, ControlDb.counted, hsum]
  simp only [countScan, h.inspection, h.product, hn, Option.some.injEq, cond_iff, Option.map_some, Option.getD_some]
  split <;> omega

lemma Counted.countP_eq (h : Counted i .barcode scan row d d') (productId : ℕ) (c : InspectionEvidence → Bool) :
    d'.evidence.countP (fun e => e.isScan productId && c e) =
      d.evidence.countP (fun e => e.isScan productId && c e) +
        if scan.productId = productId ∧ c (evidenceRow i .barcode (some scan)) = true then 1 else 0 := by
  rw [h.evidence, List.countP_append, List.countP_singleton]
  refine congrArg (_ + ·) (if_congr ?_ rfl rfl)
  simp [InspectionEvidence.isScan, evidenceRow, EvidenceType.text]

lemma Counted.within (h : Counted i type scan row d d') {x : OperationalInspection} {r : InspectionResultItem}
    (hold : ∀ r ∈ d.resultsOf x.id, r.productId.isSome = true → r.scannedQty.getD 0 ≤ r.expectedQty.getD 0)
    (hr : r ∈ d'.resultsOf x.id) (hproduct : r.productId.isSome = true) :
    r.scannedQty.getD 0 ≤ r.expectedQty.getD 0 := by
  obtain ⟨hmem, hid⟩ := mem_findMany.mp hr
  rw [h.results] at hmem
  obtain rfl | ⟨hmem, _⟩ := mem_put.mp hmem
  · obtain ⟨n, hn⟩ := Option.isSome_iff_exists.mp h.counted
    have hbelow := h.below
    simp only [countScan, hn, Option.map_some, Option.getD_some] at hbelow ⊢
    omega
  · exact hold r (mem_findMany.mpr ⟨hmem, hid⟩) hproduct

lemma reservedSerials_put {s : Stock.InventorySerial} {sourceId : ℕ} (hs : s ∈ d.serials)
    (havailable : s.status = .available) (h : d'.serials = d.serials.put (reserveSerial sourceId s))
    (shipmentId productId : ℕ) :
    d'.reservedSerials shipmentId productId = d.reservedSerials shipmentId productId +
      if sourceId = shipmentId ∧ s.productId = productId then 1 else 0 := by
  have hnot : reservedFor shipmentId productId s = false := by simp [reservedFor, havailable]
  have hput := Table.length_findMany_put (r := reserveSerial sourceId s) hs rfl hnot
  rw [reservedSerials, reservedSerials, h, hput]
  have hrepr : sourceId.repr = shipmentId.repr ↔ sourceId = shipmentId := toString_nat_injective.eq_iff
  refine congrArg (_ + ·) (if_congr ?_ rfl rfl)
  simp [reservedFor, reserveSerial, hrepr]

lemma Counted.shipmentScans_eq (h : Counted i .barcode scan row d d')
    (hsource : d.sourceOf i.id = some (source i))
    (shipmentId productId : ℕ) :
    d'.shipmentScans shipmentId productId = d.shipmentScans shipmentId productId +
      if scan.productId = productId ∧ source i = ("Shipment", shipmentId) then 1 else 0 := by
  have hsources : ∀ id, d'.sourceOf id = d.sourceOf id := fun id => by rw [sourceOf, sourceOf, h.inspections]
  unfold shipmentScans
  simp only [hsources]
  rw [h.countP_eq]
  refine congrArg (_ + ·) (if_congr ?_ rfl rfl)
  simp [evidenceRow, hsource]

lemma Counted.reserved_eq (h : Counted i .barcode scan row d d') (hcatalogue : SameCatalogue d₀ d)
    (hscan : Resolved d₀ i scan) {p : Stock.Product} (hp : p ∈ d.products) (htracked : p.trackSerial = true)
    (shipmentId : ℕ) :
    d'.reservedSerials shipmentId p.id = d.reservedSerials shipmentId p.id +
      if scan.productId = p.id ∧ source i = ("Shipment", shipmentId) then 1 else 0 := by
  have hserials := h.serials
  cases hserial : scan.serialNumber with
  | none =>
    rw [hserial] at hserials
    rw [if_neg, reservedSerials, reservedSerials, (hserials : d'.serials = d.serials), Nat.add_zero]
    rintro ⟨hproduct, hsource⟩
    have hp := hscan.untracked hserial (congrArg Prod.fst hsource) p (hcatalogue.products ▸ hp) hproduct.symm
    rw [htracked] at hp
    cases hp
  | some n =>
    rw [hserial] at hserials
    obtain ⟨s, hs, rfl, havailable, hput⟩ := hserials
    obtain ⟨htype, howner⟩ := hscan.serial _ hserial
    obtain ⟨s₀, hs₀, hnumber, hproduct⟩ := hcatalogue.owners s hs
    rw [reservedSerials_put hs havailable hput]
    refine congrArg (_ + ·) (if_congr ?_ rfl rfl)
    rw [← hproduct, howner s₀ hs₀ hnumber]
    simp only [source, htype, Prod.mk.injEq, true_and]
    exact And.comm

lemma ScansAddUp.of_counted (hI : ScansAddUp d) (hcatalogue : SameCatalogue d₀ d) (hscan : Resolved d₀ i scan)
    (h : Counted i .barcode scan row d d') : ScansAddUp d' := by
  have hsource : d.sourceOf i.id = some (source i) := (hcatalogue.sources i.id).trans hscan.source
  constructor
  · intro x hx htype productId
    rw [h.inspections] at hx
    rw [h.counted_eq, hI.counted x hx htype, ControlDb.scans, ControlDb.scans, h.countP_eq]
    push_cast
    exact congrArg (_ + ·) (if_congr (and_comm.trans (and_congr_right' decide_eq_true_iff.symm)) rfl rfl)
  · intro x hx htype r hr hproduct
    rw [h.inspections] at hx
    exact h.within (hI.within x hx htype) hr hproduct
  · intro p hp htracked shipmentId
    rw [h.products] at hp
    rw [h.shipmentScans_eq hsource, h.reserved_eq hcatalogue hscan hp htracked, hI.reserved p hp htracked]

end

/-! ### A completion -/

section

variable {id : ℕ} {persisted : List InspectionResultItem} {template : List InspectionTemplateItem}
  {dto : CompleteInspection} {results : List InspectionResult} {new : List InspectionResultItem}

lemma counted_eq_filter (d : ControlDb) (id productId : ℕ) : d.counted id productId =
    (((d.resultsOf id).filter fun r => r.productId = some productId).map fun r => r.scannedQty.getD 0).sum := by
  unfold ControlDb.counted resultsOf Table.findMany
  rw [List.filter_filter]
  simp only [Bool.and_comm]

lemma RowsFor.sum (h : RowsFor id persisted results new) (productId : ℕ) :
    ((new.filter fun r => r.productId = some productId).map fun r => r.scannedQty.getD 0).sum =
      ((rowsOf results productId).map (storedCounter persisted)).sum := by
  induction h with
  | nil => rfl
  | @cons r row results new hrow _ ih =>
    obtain ⟨k, rfl⟩ := hrow
    have hsame : (r.row persisted id k).productId = r.productId := rfl
    unfold rowsOf at ih ⊢
    rw [List.filter_cons, List.filter_cons, hsame]
    split
    · rw [map_cons, map_cons, sum_cons, sum_cons, ih]
      rfl
    · exact ih

lemma RowsFor.within_iff (h : RowsFor id persisted results new) :
    (∀ row ∈ new, row.productId.isSome = true → row.scannedQty.getD 0 ≤ row.expectedQty.getD 0) ↔
      ∀ r ∈ results, r.productId.isSome = true → storedCounter persisted r ≤ r.expectedQty.getD 0 := by
  induction h with
  | nil => simp
  | cons hrow _ ih =>
    obtain ⟨k, rfl⟩ := hrow
    rw [forall_mem_cons, forall_mem_cons, ih]
    exact Iff.rfl

structure Replaced (i j : OperationalInspection) (new : List InspectionResultItem)
    (d d' : ControlDb) : Prop where
  mem : i ∈ d.inspections
  id : j.id = i.id
  source : source j = source i
  inspections : d'.inspections = d.inspections.put j
  rows : ∀ k, d'.resultsOf k = if k = i.id then new else d.resultsOf k
  scans : ∀ k productId, d'.scans k productId = d.scans k productId
  shipments : ∀ s productId, d'.shipmentScans s productId = d.shipmentScans s productId
  products : d'.products = d.products
  serials : d'.serials = d.serials

lemma writeCompletion_replaced (h : Commits (writeCompletion id persisted template dto) d () d') :
    ∃ i j new, i.id = id ∧ RowsFor id persisted dto.results new ∧ Replaced i j new d d' := by
  obtain ⟨i, hi, rfl, n, t, new, hnew, hrows, rfl⟩ := writeCompletion_commits h
  have hnone : ∀ x ∈ dto.evidence.map (CompletionEvidence.row · i.id), x.productId = none := by
    intro x hx
    obtain ⟨e, _, rfl⟩ := mem_map.mp hx
    rfl
  refine ⟨i, complete template dto.results i, new, rfl, hnew, hi, rfl, rfl, rfl, hnew.findMany hrows,
    fun _ _ => countP_append_of_no_scan hnone _, fun s productId => ?_, rfl, rfl⟩
  refine (countP_append_of_no_scan hnone _).trans ?_
  refine List.countP_congr fun e _ => ?_
  rw [sourceOf_put (complete template dto.results i) hi rfl rfl rfl]

namespace Replaced

variable {j : OperationalInspection}

lemma counted_eq (h : Replaced i j new d d') (hnew : RowsFor i.id persisted results new) (productId : ℕ) :
    d'.counted i.id productId = ((rowsOf results productId).map (storedCounter persisted)).sum := by
  rw [counted_eq_filter, h.rows, if_pos rfl, hnew.sum]

lemma counted_of_ne (h : Replaced i j new d d') {k : ℕ} (hk : k ≠ i.id) (productId : ℕ) :
    d'.counted k productId = d.counted k productId := by
  rw [counted_eq_filter, counted_eq_filter, h.rows, if_neg hk]

lemma sum_eq_of_not_mem {productId : ℕ} (h : productId ∉ productsAt d id results) :
    ((rowsOf results productId).map (storedCounter persisted)).sum = d.counted id productId := by
  simp only [productsAt, mem_append, List.mem_filterMap, not_or, not_exists, not_and] at h
  have hsent : rowsOf results productId = [] := filter_eq_nil_iff.mpr fun r hr => by simpa using h.2 r hr
  rw [hsent, counted_eq_filter, filter_eq_nil_iff.mpr fun r hr => by simpa using h.1 r hr]
  rfl

lemma scansAddUp_iff (h : Replaced i j new d d') (hnew : RowsFor i.id persisted results new)
    (hI : ScansAddUp d) :
    ScansAddUp d' ↔ CountersHold d (some (.completed i.id persisted results)) := by
  have hj : j ∈ d'.inspections := h.inspections ▸ mem_put_self _ j
  have hjtype : j.sourceType = i.sourceType := congrArg Prod.fst h.source
  constructor
  · intro hI' x hx hid htype
    obtain rfl := eq_of_key_eq hx h.mem hid
    refine ⟨fun productId _ => ?_, ?_⟩
    · rw [← h.counted_eq hnew, ← h.id, hI'.counted j hj (hjtype.trans htype), h.scans, h.id,
        hI.counted x hx htype]
    · refine hnew.within_iff.mp ?_
      have hwithin := hI'.within j hj (hjtype.trans htype)
      rwa [h.id, h.rows, if_pos rfl] at hwithin
  · intro hc
    constructor
    · intro x hx htype productId
      rw [h.inspections] at hx
      obtain rfl | ⟨hx, hne⟩ := mem_put.mp hx
      · have htype := hjtype.symm.trans htype
        have hsum : ((rowsOf results productId).map (storedCounter persisted)).sum =
            d.counted i.id productId := by
          by_cases hmem : productId ∈ productsAt d i.id results
          · exact (hc i h.mem rfl htype).1 productId hmem
          · exact sum_eq_of_not_mem hmem
        rw [h.id, h.counted_eq hnew, hsum, h.scans, hI.counted i h.mem htype]
      · rw [h.counted_of_ne (h.id ▸ hne), h.scans, hI.counted x hx htype]
    · intro x hx htype
      rw [h.inspections] at hx
      obtain rfl | ⟨hx, hne⟩ := mem_put.mp hx
      · rw [h.id, h.rows, if_pos rfl]
        exact hnew.within_iff.mpr (hc i h.mem rfl (hjtype.symm.trans htype)).2
      · rw [h.rows, if_neg (h.id ▸ hne)]
        exact hI.within x hx htype
    · intro p hp htracked s
      rw [h.products] at hp
      rw [h.shipments, reservedSerials, h.serials]
      exact hI.reserved p hp htracked s

end Replaced

end

/-! ### Runs -/

abbrev ScanPool := Pool InspectionLabel ControlDb (Except Failure Unit)

abbrev ScanAction := PoolAction InspectionRequest InspectionLabel (Except Failure Unit)

abbrev ScanStep : ScanPool → ScanAction → ScanPool → Prop := PoolStep serveInspections OutsideScans

abbrev ScanMove (d₀ : ControlDb) : ControlDb → InspectionLabel → ControlDb → Prop :=
  InspectionMove (Resolved d₀)

lemma serveInspections_resolves (d₀ : ControlDb) (r : InspectionRequest) :
    (serveInspections r).Yields (SameCatalogue d₀) (ScanMove d₀) fun _ => True :=
  serveInspections_yields (fun _ _ _ hread => resolveScan_assures hread) r

lemma SameCatalogue.of_frame (h : SameCatalogue d₀ d) (hsources : ∀ id, d'.sourceOf id = d.sourceOf id)
    (hproducts : d'.products = d.products)
    (howners : ∀ s' ∈ d'.serials, ∃ s ∈ d.serials, s.serialNumber = s'.serialNumber ∧ s.productId = s'.productId) :
    SameCatalogue d₀ d' := by
  refine ⟨fun id => (hsources id).trans (h.sources id), hproducts.trans h.products, fun s' hs' => ?_⟩
  obtain ⟨s, hs, hnumber, hproduct⟩ := howners s' hs'
  obtain ⟨s₀, hs₀, hnumber₀, hproduct₀⟩ := h.owners s hs
  exact ⟨s₀, hs₀, hnumber₀.trans hnumber, hproduct₀.trans hproduct⟩

lemma owners_of_eq (h : d'.serials = d.serials) :
    ∀ s' ∈ d'.serials, ∃ s ∈ d.serials, s.serialNumber = s'.serialNumber ∧ s.productId = s'.productId :=
  fun s' hs' => ⟨s', h ▸ hs', rfl, rfl⟩

lemma owners_of_claimed {sourceId : ℕ} {serialNumber : Option String}
    (h : SerialClaimed sourceId serialNumber d.serials d'.serials) :
    ∀ s' ∈ d'.serials, ∃ s ∈ d.serials, s.serialNumber = s'.serialNumber ∧ s.productId = s'.productId := by
  cases serialNumber with
  | none => exact owners_of_eq h
  | some n =>
    obtain ⟨s, hs, _, _, hput⟩ := h
    intro s' hs'
    rw [hput] at hs'
    obtain rfl | ⟨hs', _⟩ := mem_put.mp hs'
    · exact ⟨s, hs, rfl, rfl⟩
    · exact ⟨s', hs', rfl, rfl⟩

variable {l : Option InspectionLabel}

lemma SameCatalogue.step (h : SameCatalogue d₀ d)
    (hstep : StateStep (ScanMove d₀) OutsideScans d l d') : SameCatalogue d₀ d' := by
  cases hstep with
  | idle => exact h
  | outside henv => exact h.of_frame henv.sources henv.products henv.owners
  | step hmove =>
    cases hmove with
    | looks => exact h
    | notes hc =>
      obtain ⟨e, hclaim, rfl⟩ := writeEvidence_commits.mp hc
      obtain ⟨_, rfl⟩ := commits_pure.mp hclaim
      exact h.of_frame (fun _ => rfl) rfl (owners_of_eq rfl)
    | scans _ _ hc =>
      obtain ⟨row, hcounted⟩ := writeEvidence_counted hc
      refine h.of_frame (fun id => ?_) hcounted.products (owners_of_claimed hcounted.serials)
      rw [sourceOf, sourceOf, hcounted.inspections]
    | completes hc =>
      obtain ⟨i, j, new, rfl, _, hreplaced⟩ := writeCompletion_replaced hc
      exact h.of_frame (sourceOf_put j hreplaced.mem hreplaced.id hreplaced.source hreplaced.inspections)
        hreplaced.products (owners_of_eq hreplaced.serials)
    | @approves _ seen _ hc =>
      obtain ⟨i, hi, _, rfl⟩ := writeDecision_commits hc
      exact h.of_frame (sourceOf_put (decideAs (decision seen) i) hi rfl rfl rfl) rfl (owners_of_eq rfl)

lemma scans_add_up_step (hcatalogue : SameCatalogue d₀ d) (hI : ScansAddUp d)
    (hstep : StateStep (ScanMove d₀) OutsideScans d l d') : ScansAddUp d' ↔ CountersHold d l := by
  cases hstep with
  | idle => exact iff_of_true hI trivial
  | outside henv => exact iff_of_true (hI.outside henv) trivial
  | step hmove =>
    cases hmove with
    | looks => exact iff_of_true hI trivial
    | notes hc => exact iff_of_true (hI.note hc) trivial
    | scans hscan htype hc =>
      subst htype
      obtain ⟨row, hcounted⟩ := writeEvidence_counted hc
      exact iff_of_true (hI.of_counted hcatalogue hscan hcounted) trivial
    | completes hc =>
      obtain ⟨i, j, new, rfl, hnew, hreplaced⟩ := writeCompletion_replaced hc
      exact hreplaced.scansAddUp_iff hnew hI
    | approves hc => exact iff_of_true (hI.approval hc) trivial

/-- Let the counters agree with the scans at the start. In a run of any requests they do so after every step
exactly if, whenever a completion writes, the counters that it has read add up for every product to those that
are there then, and none of them is more than what is expected. -/
theorem scans_add_up_iff {p q : ScanPool} {as : List ScanAction} (hidle : p.Idle)
    (hstart : ScansAddUp p.state) :
    Run (Landing (fun p => ScansAddUp p.state) ScanStep) p as q ↔
      Run (Guarded (fun p a => CountersHold p.state a.label) ScanStep) p as q := by
  refine Run.landing_iff_guarded_of_invariant
    (J := fun p' => p'.Assured (SameCatalogue p.state) (ScanMove p.state) ∧ SameCatalogue p.state p'.state)
    ?_ ?_ ⟨hidle.assured, .refl p.state⟩ hstart
  · exact fun _ _ _ hJ hstep =>
      Pool.Assured.both (serveInspections_resolves p.state) (fun _ _ _ h hs => h.step hs) hJ hstep
  · exact fun _ _ _ hJ hI hstep => scans_add_up_step hJ.2 hI (hJ.1.state hJ.2 hstep)

lemma scansAddUp_of_unscanned (hevidence : d.evidence = [])
    (hrows : ∀ row ∈ d.results, row.scannedQty.getD 0 = 0 ∧ 0 ≤ row.expectedQty.getD 0)
    (hserials : ∀ s ∈ d.serials, s.status ≠ .reserved) : ScansAddUp d := by
  constructor
  · intro i _ _ productId
    rw [ControlDb.scans, hevidence, ControlDb.counted, map_congr_left (g := fun _ => (0 : ℤ))]
    · simp
    · exact fun row hrow => (hrows row (mem_findMany.mp hrow).1).1
  · intro i _ _ row hrow _
    obtain ⟨hzero, hexpected⟩ := hrows row (mem_findMany.mp hrow).1
    omega
  · intro p _ _ shipmentId
    rw [shipmentScans, hevidence, reservedSerials, Table.findMany, filter_eq_nil_iff.mpr]
    · rfl
    · intro s hs
      simp [reservedFor, hserials s hs]

/-! A shipment of two pieces of one product. -/

def twoPieces : Finance.Order where
  id := 1
  companyId := 1
  branchId := 1
  status := .processing
  total := 0
  items := [⟨1, 7, 2⟩]

def outbound : OperationalInspection where
  id := 1
  companyId := 1
  branchId := some 1
  sourceType := "Shipment"
  sourceId := 1
  status := .inProgress

def twoExpected : InspectionResultItem where
  id := 1
  inspectionId := 1
  code := "PRODUCT:7"
  result := .observation
  productId := some 7
  expectedQty := some 2
  scannedQty := some 0
  acceptedQty := some 2

def piece : Stock.Product where
  id := 7
  name := "Lampu"
  sku := "P7"

def packing : ScanPool where
  state :=
    { ControlDb.empty with
      finance :=
        { FinanceDb.empty with
          procurement :=
            { FinanceDb.empty.procurement with
              stock := { Stock.Db.empty with products := Table.empty.put piece }
              warehouses := Table.empty.put ⟨1, 1, 1⟩
              inspections := Table.empty.put outbound }
          orders := Table.empty.put twoPieces
          inspectionResults := Table.empty.put twoExpected
          nextId := 2 }
      shipments := Table.empty.put { id := 1, orderId := some 1, warehouseId := 1 } }
  running := fun _ => none

def scanPiece : InspectionRequest := .evidence ⟨1, 1⟩ 1 { evidenceType := .barcode, value := some "P7" }

def allThere : InspectionRequest :=
  .complete ⟨1, 1⟩ 1
    { results := [{ code := "PRODUCT:7", result := .pass, productId := some 7, expectedQty := some 2,
                    acceptedQty := some 2 }] }

lemma packing_adds_up : ScansAddUp packing.state := by
  have hrows : ∀ row ∈ packing.state.results.rows,
      row.scannedQty.getD 0 = 0 ∧ 0 ≤ row.expectedQty.getD 0 := by decide +kernel
  exact scansAddUp_of_unscanned rfl hrows fun s hs => absurd hs (not_mem_empty s)

def calm (_ : Unit) (d : ControlDb) : ControlDb := d

lemma calm_outside (m : Unit) (d : ControlDb) : OutsideScans d (calm m d) :=
  ⟨rfl, rfl, fun _ => rfl, rfl, owners_of_eq rfl, fun _ _ => rfl⟩

instance (d : ControlDb) : (l : Option InspectionLabel) → Decidable (CountersHold d l)
  | some (.completed id persisted results) =>
    inferInstanceAs (Decidable (∀ i ∈ d.inspections.rows, i.id = id → i.sourceType = "Shipment" →
      (∀ productId ∈ productsAt d id results,
        ((rowsOf results productId).map (storedCounter persisted)).sum = d.counted id productId) ∧
      ∀ r ∈ results, r.productId.isSome = true → storedCounter persisted r ≤ r.expectedQty.getD 0))
  | some .looked | some (.evidenced _ _ _) | some (.approved _ _) | none => .isTrue trivial

theorem scans_add_up_packing :
    ∃ as q, Run (Guarded (fun p a => CountersHold p.state a.label) ScanStep) packing as q ∧
      q.state.results.rows.map InspectionResultItem.scannedQty = [some 2] ∧
      q.state.inspections.rows.map OperationalInspection.status = [.passed] ∧
      Run (Landing (fun p => ScansAddUp p.state) ScanStep) packing as q := by
  obtain ⟨as, q, hrun, hscanned, hpassed⟩ := Pool.exists_run_of_play serveInspections packing calm_outside
    CountersHold
    ([.start 0 scanPiece] ++ List.replicate 7 (.step 0) ++ [.start 1 scanPiece] ++ List.replicate 7 (.step 1) ++
      [.start 2 allThere] ++ List.replicate 8 (.step 2))
    (fun _ d => d.results.rows.map InspectionResultItem.scannedQty = [some 2] ∧
      d.inspections.rows.map OperationalInspection.status = [.passed])
    (by decide +kernel)
  exact ⟨as, q, hrun, hscanned, hpassed, (scans_add_up_iff (fun _ => rfl) packing_adds_up).mpr hrun⟩

/-- A piece is scanned after a completion has read the counters, and before it writes them. -/
theorem scan_lost_packing :
    ∃ as q, Run ScanStep packing as q ∧ ScansAddUp packing.state ∧ q.state.scans 1 7 = 1 ∧
      q.state.counted 1 7 = 0 ∧ ¬ ScansAddUp q.state := by
  obtain ⟨as, q, hrun, hscans, hcounted, hinspection⟩ := Pool.exists_run_of_play serveInspections packing
    calm_outside (fun _ _ => True)
    ([.start 0 allThere] ++ List.replicate 3 (.step 0) ++ [.start 1 scanPiece] ++ List.replicate 7 (.step 1) ++
      List.replicate 5 (.step 0))
    (fun _ d => d.scans 1 7 = 1 ∧ d.counted 1 7 = 0 ∧
      ∃ i ∈ d.inspections.rows, i.id = 1 ∧ i.sourceType = "Shipment")
    (by decide +kernel)
  obtain ⟨i, hi, hid, htype⟩ := hinspection
  refine ⟨as, q, .of_guarded hrun, packing_adds_up, hscans, hcounted, fun h => ?_⟩
  have hsum := h.counted i hi htype 7
  rw [hid, hscans, hcounted] at hsum
  omega

end Mayatoko.Control
