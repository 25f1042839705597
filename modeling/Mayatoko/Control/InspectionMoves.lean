import Mayatoko.Control.Completion
import Mayatoko.Core.Steady

/-!
# What the steps on inspections do

All that the services do before they write is to look: every step that changes something is one of the three
transactions. What each of them does to the tables is said once.
-/

namespace Mayatoko.Control

open Core Procurement Finance ControlDb
open Transit (TenantScope)
open Orders (Shipment)

inductive InspectionRequest
  | evidence (scope : TenantScope) (id : ℕ) (dto : AddInspectionEvidence)
  | complete (scope : TenantScope) (id : ℕ) (dto : CompleteInspection)
  | approve (scope : TenantScope) (id : ℕ)

def serveInspections : InspectionRequest → Process InspectionLabel ControlDb (Except Failure Unit)
  | .evidence scope id dto => (addInspectionEvidence scope id dto).run
  | .complete scope id dto => (completeInspection scope id dto).run
  | .approve scope id => (approveInspection scope id).run

/-- What a step may do. A scan is one that `R` allows for its inspection. -/
inductive InspectionMove (R : OperationalInspection → Scan → Prop) (d : ControlDb) :
    InspectionLabel → ControlDb → Prop
  | looks : InspectionMove R d .looked d
  | notes {inspection : OperationalInspection} {type : EvidenceType} {d' : ControlDb}
      (h : Commits (writeEvidence inspection type none) d () d') :
      InspectionMove R d (.evidenced inspection.id none none) d'
  | scans {inspection : OperationalInspection} {type : EvidenceType} {scan : Scan} {d' : ControlDb}
      (hscan : R inspection scan) (htype : type = .barcode)
      (h : Commits (writeEvidence inspection type (some scan)) d () d') :
      InspectionMove R d (.evidenced inspection.id (some scan.productId) scan.serialNumber) d'
  | completes {id : ℕ} {persisted : List InspectionResultItem} {template : List InspectionTemplateItem}
      {dto : CompleteInspection} {d' : ControlDb}
      (h : Commits (writeCompletion id persisted template dto) d () d') :
      InspectionMove R d (.completed id persisted dto.results) d'
  | approves {id : ℕ} {seen : InspectionStatus} {d' : ControlDb}
      (h : Commits (writeDecision id (decision seen)) d () d') :
      InspectionMove R d (.approved id (decision seen)) d'

/-! ### The requests make no other steps -/

def Looks {α : Type} (x : InspectionService α) : Prop := Does (fun d l d' => l = .looked ∧ d' = d) x

section

variable {α β : Type} {scope : TenantScope} {id : ℕ} {value : String} {inspection : OperationalInspection}
  {results : List InspectionResult}

lemma query_looks {f : ControlDb → α} : Looks (query f) := does_lookup fun _ => ⟨rfl, rfl⟩

lemma find_looks {f : ControlDb → Option α} {e : Failure} : Looks (query f >>= fun found => expect found e) :=
  query_looks.bind fun _ => does_expect

lemma shippedOrder_looks : Looks (shippedOrder scope id) := by
  refine query_looks.bind fun _ => does_expect.bind fun _ => does_expect.bind fun _ => ?_
  refine query_looks.bind fun _ => does_check.bind fun _ => ?_
  exact query_looks.bind fun _ => does_expect.bind fun _ => does_pure

lemma scanReceipt_looks : Looks (scanReceipt scope id value) :=
  query_looks.bind fun _ => does_expect.bind fun _ => does_expect.bind fun _ => does_pure

lemma scanReturn_looks : Looks (scanReturn scope id value) :=
  query_looks.bind fun _ => does_expect.bind fun _ => does_expect.bind fun _ => does_pure

variable {products : List Stock.Product}

lemma scanSerial_looks {shipment : Shipment} {serial : Stock.InventorySerial} :
    Looks (scanSerial shipment products serial) :=
  does_expect.bind fun _ => does_check.bind fun _ => does_check.bind fun _ => does_check.bind fun _ =>
    does_pure

lemma scanProduct_looks : Looks (scanProduct products value) :=
  does_expect.bind fun _ => does_pure

lemma scanShipment_looks : Looks (scanShipment scope id value) := by
  refine shippedOrder_looks.bind fun _ => query_looks.bind fun _ => query_looks.bind fun serial => ?_
  cases serial with
  | none => exact scanProduct_looks
  | some serial => exact scanSerial_looks

lemma resolveScan_looks : Looks (resolveScan scope inspection value) := by
  unfold resolveScan
  refine Does.ite (scanReceipt_looks.bind fun _ => does_pure) ?_
  refine Does.ite (scanReturn_looks.bind fun _ => does_pure) ?_
  exact Does.ite (scanShipment_looks.bind fun _ => does_pure) does_pure

lemma checkBarcodes_looks {policy : OperationPolicy} {verified : List InspectionEvidence} :
    Looks (checkBarcodes inspection policy verified) := by
  refine Does.ite (does_check.bind fun _ => query_looks.bind fun _ => ?_) does_pure
  split
  · exact does_pure
  · exact does_throw

lemma enforceInspectionEvidencePolicy_looks : Looks (enforceInspectionEvidencePolicy inspection) := by
  unfold enforceInspectionEvidencePolicy
  split
  · refine query_looks.bind fun policy => ?_
    split
    · exact does_pure
    · exact Does.ite (query_looks.bind fun _ => does_check.bind fun _ => checkBarcodes_looks) does_pure
  · exact does_pure

lemma checkTemplateItems_looks : Looks (checkTemplateItems inspection results) := by
  unfold checkTemplateItems
  exact Does.ite does_pure (query_looks.bind fun _ => does_check)

lemma checkChecklist_looks {persisted : List InspectionResultItem} {template : List InspectionTemplateItem} :
    Looks (checkChecklist persisted template results) :=
  Does.ite (Does.forM fun _ => does_expect.bind fun _ => does_check) does_pure

lemma checkReceipt_looks : Looks (checkReceipt scope id results) := by
  refine query_looks.bind fun _ => does_expect.bind fun receipt => Does.bind (Does.forM fun r => ?_) fun _ =>
    Does.forM fun _ => does_check
  unfold checkReceived
  split
  · exact does_pure
  · exact does_check.bind fun _ => does_check

lemma checkReturn_looks : Looks (checkReturn scope id results) :=
  query_looks.bind fun _ => does_expect.bind fun _ => Does.forM fun _ => does_expect.bind fun _ =>
    does_check.bind fun _ => does_check.bind fun _ => does_check

lemma checkShipment_looks : Looks (checkShipment scope id results) := by
  refine shippedOrder_looks.bind fun _ => Does.bind (Does.forM fun r => ?_) fun _ => Does.forM fun _ =>
    does_check
  unfold checkShipped
  split
  · exact does_pure
  · exact does_check.bind fun _ => does_check

lemma checkSource_looks : Looks (checkSource scope inspection results) :=
  Does.ite checkReceipt_looks (Does.ite checkReturn_looks (Does.ite checkShipment_looks does_pure))

end

section

variable {G : ControlDb → Prop} {R : OperationalInspection → Scan → Prop} {α : Type} {x : InspectionService α}
  {scope : TenantScope} {id : ℕ}

lemma Looks.moves (hx : Looks x) : Does (InspectionMove R) x :=
  Does.mono (fun _ _ _ h => h.1 ▸ h.2 ▸ .looks) hx

lemma Looks.assures (hx : Looks x) : Assures G (InspectionMove R) (fun _ => True) x := hx.moves.assures

/-- The inspection has been read from a state with `G`. -/
def ReadFrom (G : ControlDb → Prop) (i : OperationalInspection) : Prop := ∃ d, G d ∧ i ∈ d.inspections

lemma scopedOperationalInspection_assures : Assures G (InspectionMove R) (fun i => i.id = id ∧ ReadFrom G i)
    (scopedOperationalInspection scope id) := by
  refine Assures.bind (R := fun found => ∀ i, found = some i → i.id = id ∧ ReadFrom G i)
    (assures_lookup fun d hG => ⟨.looks, fun i hi => ?_⟩) fun found hfound => ?_
  · obtain ⟨hmem, hid⟩ := find?_eq_some.mp (Option.filter_eq_some_iff.mp hi).1
    exact ⟨hid, d, hG, hmem⟩
  · exact assures_expect.mono hfound

lemma transaction_does {l : InspectionLabel} {t : ControlTx Unit}
    (h : ∀ d d', Commits t d () d' → InspectionMove R d l d') : Does (InspectionMove R) (transaction l t) :=
  does_atomically (fun _ _ _ hc => h _ _ hc) fun _ _ => .looks

variable (hscan : ∀ scope inspection value, ReadFrom G inspection → Assures G (InspectionMove R)
  (fun scan => ∀ s, scan = some s → R inspection s) (resolveScan scope inspection value))

include hscan

lemma addInspectionEvidence_assures {dto : AddInspectionEvidence} :
    Assures G (InspectionMove R) (fun _ => True) (addInspectionEvidence scope id dto) := by
  refine scopedOperationalInspection_assures.bind fun inspection ⟨hid, hread⟩ => ?_
  refine assures_check.bind fun _ _ => ?_
  refine Assures.bind
    (R := fun scan => ∀ s, scan = some s → R inspection s ∧ dto.evidenceType = .barcode) ?_ fun scan hs => ?_
  · refine Assures.ite (fun htype => ?_) fun _ => assures_pure (by simp)
    refine assures_expect.bind fun value _ => ?_
    exact (hscan scope inspection value hread).mono fun _ h s hs => ⟨h s hs, htype⟩
  · subst hid
    refine Does.assures (transaction_does fun d d' h => ?_)
    cases scan with
    | none => exact .notes h
    | some s =>
      obtain ⟨hR, htype⟩ := hs s rfl
      exact .scans hR htype h

omit hscan

lemma completeInspection_assures {dto : CompleteInspection} :
    Assures G (InspectionMove R) (fun _ => True) (completeInspection scope id dto) := by
  refine scopedOperationalInspection_assures.bind fun inspection _ => assures_check.bind fun _ _ => ?_
  refine enforceInspectionEvidencePolicy_looks.assures.bind fun _ _ => query_looks.assures.bind fun persisted _ => ?_
  refine checkTemplateItems_looks.assures.bind fun _ _ => query_looks.assures.bind fun template _ => ?_
  refine checkChecklist_looks.assures.bind fun _ _ => checkSource_looks.assures.bind fun _ _ => ?_
  exact (transaction_does fun _ _ h => .completes h).assures

lemma approveInspection_assures : Assures G (InspectionMove R) (fun _ => True) (approveInspection scope id) := by
  refine scopedOperationalInspection_assures.bind fun inspection _ => assures_check.bind fun _ _ => ?_
  exact (transaction_does fun _ _ h => .approves h).assures

include hscan

lemma serveInspections_yields (r : InspectionRequest) :
    (serveInspections r).Yields G (InspectionMove R) fun _ => True := by
  cases r with
  | evidence scope id dto => exact (addInspectionEvidence_assures hscan).yields
  | complete scope id dto => exact completeInspection_assures.yields
  | approve scope id => exact approveInspection_assures.yields

end

/-! ### What the transactions do -/

variable {d d' : ControlDb} {id : ℕ} {u : Unit}

lemma writeDecision_commits {status : InspectionStatus} (h : Commits (writeDecision id status) d u d') :
    ∃ i ∈ d.inspections, i.id = id ∧ d' = inspection.write d (decideAs status i) := by
  simp only [writeDecision, commits_steps, TableOf.commits_update] at h
  obtain ⟨_, _, ⟨i, hi, _, rfl⟩, _, rfl⟩ := h
  obtain ⟨hmem, hid⟩ := find?_eq_some.mp hi
  exact ⟨i, hmem, hid, rfl⟩

def RowsFor (id : ℕ) (persisted : List InspectionResultItem) :
    List InspectionResult → List InspectionResultItem → Prop :=
  List.Forall₂ fun r row => ∃ k, row = r.row persisted id k

variable {persisted new : List InspectionResultItem}

lemma RowsFor.inspectionId {results : List InspectionResult} (h : RowsFor id persisted results new) :
    ∀ row ∈ new, row.inspectionId = id := by
  induction h with
  | nil => simp
  | cons hrow _ ih =>
    obtain ⟨k, rfl⟩ := hrow
    exact forall_mem_cons.mpr ⟨rfl, ih⟩

lemma RowsFor.findMany {results : List InspectionResult} (h : RowsFor id persisted results new)
    {t t' : Table InspectionResultItem.id}
    (ht : t'.rows = (t.deleteMany fun r => r.inspectionId = id).rows ++ new) (k : ℕ) :
    (t'.findMany fun r => r.inspectionId = k) =
      if k = id then new else t.findMany fun r => r.inspectionId = k := by
  unfold Table.findMany
  rw [ht, filter_append]
  change List.filter _ (List.filter _ t.rows) ++ _ = _
  rw [List.filter_filter]
  split
  next hk =>
    subst hk
    rw [filter_eq_nil_iff.mpr (by simp), nil_append, List.filter_eq_self]
    exact fun row hrow => decide_eq_true (h.inspectionId row hrow)
  next hk =>
    have hnone : new.filter (fun r => r.inspectionId = k) = [] := by
      refine filter_eq_nil_iff.mpr fun row hrow => ?_
      rw [h.inspectionId row hrow, decide_eq_true_eq]
      exact fun h => hk h.symm
    rw [hnone, append_nil]
    refine filter_congr fun row _ => ?_
    by_cases hrow : row.inspectionId = k
    · simp [hrow, hk]
    · simp [hrow]

lemma createResult_commits {r : InspectionResult} (h : Commits (createResult id persisted r) d u d') :
    ∃ k n t, t.rows = d.results.rows ++ [r.row persisted id k] ∧
      d' = { d with finance.nextId := n, finance.inspectionResults := t } := by
  simp only [createResult, commits_steps, Part.commits_lift, FinanceDb.freshId, commits_set,
    TableOf.commits_create] at h
  obtain ⟨_, _, ⟨_, ⟨_, _, rfl, rfl, rfl⟩, rfl⟩, hfree, rfl⟩ := h
  refine ⟨d.finance.nextId, d.finance.nextId + 1, _, Table.rows_put_of_not_mem fun hmem => ?_, rfl⟩
  obtain ⟨x, hx, hkey⟩ := mem_map.mp hmem
  exact find?_eq_none.mp hfree x hx hkey

lemma createResults_commits {results : List InspectionResult}
    (h : Commits (results.forM (createResult id persisted)) d u d') :
    ∃ n t new, RowsFor id persisted results new ∧ t.rows = d.results.rows ++ new ∧
      d' = { d with finance.nextId := n, finance.inspectionResults := t } := by
  induction results generalizing d with
  | nil =>
    obtain rfl := commits_forM_nil.mp h
    exact ⟨d.finance.nextId, d.results, [], .nil, (append_nil _).symm, rfl⟩
  | cons r results ih =>
    obtain ⟨e, hr, hrest⟩ := commits_forM_cons.mp h
    obtain ⟨k, _, t, ht, rfl⟩ := createResult_commits hr
    obtain ⟨n, t', new, hnew, ht', rfl⟩ := ih hrest
    refine ⟨n, t', r.row persisted id k :: new, .cons ⟨k, rfl⟩ hnew, ?_, rfl⟩
    rw [ht']
    change t.rows ++ new = _
    rw [ht, append_assoc, List.singleton_append]

lemma writeCompletion_commits {template : List InspectionTemplateItem}
    {dto : CompleteInspection} (h : Commits (writeCompletion id persisted template dto) d u d') :
    ∃ i ∈ d.inspections, i.id = id ∧ ∃ n t new, RowsFor id persisted dto.results new ∧
      t.rows = (d.results.deleteMany fun r => r.inspectionId = id).rows ++ new ∧
      d' = { d with
        finance.nextId := n
        finance.inspectionResults := t
        finance.procurement.inspections := d.inspections.put (complete template dto.results i)
        evidence := d.evidence ++ dto.evidence.map (CompletionEvidence.row · id) } := by
  simp only [writeCompletion, commits_steps, TableOf.commits_deleteMany, TableOf.commits_update,
    createEvidence, commits_set] at h
  obtain ⟨_, _, rfl, _, e, hrows, _, _, rfl, _, _, ⟨i, hi, _, rfl⟩, _, rfl⟩ := h
  obtain ⟨n, t, new, hnew, ht, rfl⟩ := createResults_commits hrows
  obtain ⟨hmem, hid⟩ := find?_eq_some.mp hi
  exact ⟨i, hmem, hid, n, t, new, hnew, ht, rfl⟩

def evidenceRow (inspection : OperationalInspection) (type : EvidenceType) (scan : Option Scan) :
    InspectionEvidence where
  inspectionId := inspection.id
  evidenceType := type.text
  productId := scan.map Scan.productId
  serialNumber := scan.bind Scan.serialNumber
  verifiedByServer := true

variable {i : OperationalInspection}

lemma writeEvidence_commits {type : EvidenceType} {scan : Option Scan} :
    Commits (writeEvidence i type scan) d u d' ↔ ∃ e, Commits (claim i scan) d () e ∧
      d' = { e with evidence := e.evidence ++ [evidenceRow i type scan] } := by
  simp only [writeEvidence, commits_bind, commits_get, commits_set]
  constructor
  · rintro ⟨_, e, hc, _, _, ⟨rfl, rfl⟩, rfl⟩
    exact ⟨e, hc, rfl⟩
  · rintro ⟨e, hc, rfl⟩
    exact ⟨(), e, hc, e, e, ⟨rfl, rfl⟩, rfl⟩

def SerialClaimed (sourceId : ℕ) (serialNumber : Option String)
    (t t' : Table Stock.InventorySerial.serialNumber) : Prop :=
  match serialNumber with
  | none => t' = t
  | some n => ∃ s ∈ t, s.serialNumber = n ∧ s.status = .available ∧ t' = t.put (reserveSerial sourceId s)

lemma claimSerial_commits {sourceId : ℕ} {serialNumber : Option String}
    (h : Commits (claimSerial sourceId serialNumber) d u d') :
    ∃ t, SerialClaimed sourceId serialNumber d.serials t ∧ d' = inventorySerial.setTable d t := by
  cases serialNumber with
  | none =>
    obtain ⟨_, rfl⟩ := commits_pure.mp h
    exact ⟨d.serials, rfl, rfl⟩
  | some n =>
    obtain ⟨s, hs, hp, rfl⟩ := TableOf.updateOne_commits h
    simp only [cond_iff] at hp
    exact ⟨_, ⟨s, hs, hp.1, hp.2, rfl⟩, rfl⟩

lemma claimScan_commits {scan : Scan} (h : Commits (claimScan i scan) d u d') :
    ∃ row ∈ d.results, awaitsScan i.id scan.productId row = true ∧ row.scannedQty.isSome = true ∧
      ∃ t, SerialClaimed i.sourceId scan.serialNumber d.serials t ∧
        d' = inspectionResultItem.write (inventorySerial.setTable d t) (countScan row row) := by
  simp only [claimScan, commits_steps] at h
  obtain ⟨row, hfirst, _, e, hserial, hcount⟩ := h
  obtain ⟨hrow, hawaits⟩ := Table.mem_of_findFirst hfirst
  obtain ⟨t, ht, rfl⟩ := claimSerial_commits hserial
  obtain ⟨r, hr, hp, rfl⟩ := TableOf.updateOne_commits hcount
  simp only [cond_iff] at hp
  obtain rfl : r = row := eq_of_key_eq hr hrow hp.1
  exact ⟨r, hrow, hawaits, by rw [hp.2]; rfl, t, ht, rfl⟩

/-- A scan has been counted on the row `row`. -/
structure Counted (i : OperationalInspection) (type : EvidenceType) (scan : Scan) (row : InspectionResultItem)
    (d d' : ControlDb) : Prop where
  mem : row ∈ d.results
  inspection : row.inspectionId = i.id
  product : row.productId = some scan.productId
  below : row.scannedQty.getD 0 < row.expectedQty.getD 0
  counted : row.scannedQty.isSome = true
  results : d'.results = d.results.put (countScan row row)
  serials : SerialClaimed i.sourceId scan.serialNumber d.serials d'.serials
  evidence : d'.evidence = d.evidence ++ [evidenceRow i type (some scan)]
  inspections : d'.inspections = d.inspections
  products : d'.products = d.products
  templates : d'.templateItems = d.templateItems

lemma writeEvidence_counted {type : EvidenceType} {scan : Scan}
    (h : Commits (writeEvidence i type (some scan)) d u d') : ∃ row, Counted i type scan row d d' := by
  obtain ⟨e, hc, rfl⟩ := writeEvidence_commits.mp h
  obtain ⟨row, hrow, hawaits, hcounted, t, ht, rfl⟩ := claimScan_commits hc
  simp only [awaitsScan, cond_iff] at hawaits
  obtain ⟨⟨⟨hinspection, hproduct⟩, _⟩, hbelow⟩ := hawaits
  exact ⟨row, hrow, hinspection, hproduct, hbelow, hcounted, rfl, ht, rfl, rfl, rfl, rfl⟩

end Mayatoko.Control
