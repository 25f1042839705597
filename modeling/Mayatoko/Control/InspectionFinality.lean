import Mayatoko.Control.InspectionMoves

/-!
# Decided inspections

A decision on an inspection should be the last word on it, and an approval should speak of the rows that are
stored. The services write by id what they have decided on an earlier read, so that both hold of a run exactly
if no write comes too late.
-/

namespace Mayatoko.Control

open Core Procurement Finance ControlDb
open Transit (TenantScope)

/-! ### What is claimed -/

def ControlDb.templateOf (d : ControlDb) (i : OperationalInspection) : List InspectionTemplateItem :=
  d.templateItems.findMany fun t => some t.templateId = i.templateId

def storedBlocking (d : ControlDb) (i : OperationalInspection) : ℕ :=
  (d.resultsOf i.id).countP fun r => blocks (d.templateOf i) r.templateItemId r.result

def Unblocked (d : ControlDb) (i : OperationalInspection) : Prop :=
  i.blockingFailureCount = 0 ∧ storedBlocking d i = 0

/-- An approved inspection has no blocking failure. -/
def ApprovedUnblocked (d : ControlDb) : Prop :=
  ∀ i ∈ d.inspections, i.status = .approved → Unblocked d i

def KeepsDecided (d d' : ControlDb) : Prop :=
  ∀ i ∈ d.inspections, isDecided i.status = true →
    (∃ i' ∈ d'.inspections, i'.id = i.id ∧ i'.status = i.status) ∧ d'.resultsOf i.id = d.resultsOf i.id

/-- What is written is the row of an inspection that has not been decided, or the same decision; an approval
is written only where there is no blocking failure. -/
def WritesOpen (d : ControlDb) : Option InspectionLabel → Prop
  | some (.completed id _ _) | some (.evidenced id (some _) _) =>
    ∀ i ∈ d.inspections.rows, i.id = id → isDecided i.status = false
  | some (.approved id status) => ∀ i ∈ d.inspections.rows, i.id = id →
      (isDecided i.status = true → i.status = status) ∧ (status = .approved → Unblocked d i)
  | some .looked | some (.evidenced _ none _) | none => True

/-- What the rest of the system may do meanwhile: it approves no inspection, and leaves alone those that are
decided, and the templates. -/
structure OutsideReview (d d' : ControlDb) : Prop where
  decided : KeepsDecided d d'
  approved : ∀ i ∈ d'.inspections, i.status = .approved → i ∈ d.inspections
  templates : d'.templateItems = d.templateItems

/-! ### One step -/

variable {d d' : ControlDb} {i j : OperationalInspection}

lemma isDecided_completionStatus (template : List InspectionTemplateItem) (results : List InspectionResult) :
    isDecided (completionStatus template results) = false := by
  unfold completionStatus
  split
  · rfl
  split
  · rfl
  split <;> rfl

lemma KeepsDecided.refl (d : ControlDb) : KeepsDecided d d := fun i hi _ => ⟨⟨i, hi, rfl, rfl⟩, rfl⟩

lemma unblocked_congr (hrows : d'.resultsOf i.id = d.resultsOf i.id)
    (htemplates : d'.templateItems = d.templateItems) : Unblocked d' i ↔ Unblocked d i := by
  unfold Unblocked storedBlocking templateOf
  rw [hrows, htemplates]

lemma keeps_of_inspections_eq (hinspections : d'.inspections = d.inspections)
    (htemplates : d'.templateItems = d.templateItems)
    (hrows : ∀ i ∈ d.inspections, isDecided i.status = true → d'.resultsOf i.id = d.resultsOf i.id)
    (hI : ApprovedUnblocked d) : KeepsDecided d d' ∧ ApprovedUnblocked d' := by
  refine ⟨fun i hi hdecided => ⟨⟨i, hinspections ▸ hi, rfl, rfl⟩, hrows i hi hdecided⟩,
    fun i hi happroved => ?_⟩
  rw [hinspections] at hi
  rw [unblocked_congr (hrows i hi (by rw [happroved]; rfl)) htemplates]
  exact hI i hi happroved

/-- The inspection `j` is written over `i`, and no rows but those of `i` are. -/
structure Rewritten (i j : OperationalInspection) (d d' : ControlDb) : Prop where
  mem : i ∈ d.inspections
  id : j.id = i.id
  inspections : d'.inspections = d.inspections.put j
  templates : d'.templateItems = d.templateItems
  rows : ∀ k, k ≠ i.id → d'.resultsOf k = d.resultsOf k

namespace Rewritten

lemma written (h : Rewritten i j d d') : j ∈ d'.inspections := by
  rw [h.inspections]
  exact mem_put_self _ j

lemma eq_of_id (h : Rewritten i j d d') {x : OperationalInspection} (hx : x ∈ d'.inspections)
    (hid : x.id = i.id) : x = j :=
  eq_of_key_eq hx h.written (hid.trans h.id.symm)

lemma keeps_iff (h : Rewritten i j d d') (hI : ApprovedUnblocked d) : KeepsDecided d d' ∧ ApprovedUnblocked d' ↔
      (isDecided i.status = true → j.status = i.status ∧ d'.resultsOf i.id = d.resultsOf i.id) ∧
        (j.status = .approved → Unblocked d' j) := by
  constructor
  · rintro ⟨hkeeps, hclean⟩
    refine ⟨fun hdecided => ?_, hclean j h.written⟩
    obtain ⟨⟨x, hx, hid, hstatus⟩, hrows⟩ := hkeeps i h.mem hdecided
    exact ⟨h.eq_of_id hx hid ▸ hstatus, hrows⟩
  · rintro ⟨hsame, hclean⟩
    constructor
    · intro x hx hdecided
      by_cases hid : x.id = i.id
      · obtain rfl := eq_of_key_eq hx h.mem hid
        exact ⟨⟨j, h.written, h.id, (hsame hdecided).1⟩, (hsame hdecided).2⟩
      · refine ⟨⟨x, ?_, rfl, rfl⟩, h.rows _ hid⟩
        rw [h.inspections]
        exact mem_put.mpr (Or.inr ⟨hx, h.id ▸ hid⟩)
    · intro x hx happroved
      rw [h.inspections] at hx
      obtain rfl | ⟨hx, hid⟩ := mem_put.mp hx
      · exact hclean happroved
      · rw [unblocked_congr (h.rows _ (h.id ▸ hid)) h.templates]
        exact hI x hx happroved

end Rewritten

lemma approval_keeps_iff {status : InspectionStatus} (hi : i ∈ d.inspections) (hI : ApprovedUnblocked d) :
    KeepsDecided d (inspection.write d (decideAs status i)) ∧
        ApprovedUnblocked (inspection.write d (decideAs status i)) ↔
      WritesOpen d (some (.approved i.id status)) := by
  have h : Rewritten i (decideAs status i) d (inspection.write d (decideAs status i)) :=
    ⟨hi, rfl, rfl, rfl, fun _ _ => rfl⟩
  rw [h.keeps_iff hI]
  have hsame : Unblocked (inspection.write d (decideAs status i)) (decideAs status i) ↔ Unblocked d i := Iff.rfl
  rw [hsame]
  constructor
  · rintro ⟨hdecided, hclean⟩ x hx hid
    obtain rfl := eq_of_key_eq hx hi hid
    exact ⟨fun hx => (hdecided hx).1.symm, hclean⟩
  · intro h
    obtain ⟨hdecided, hclean⟩ := h i hi rfl
    exact ⟨fun hx => ⟨(hdecided hx).symm, rfl⟩, hclean⟩

section

variable {id : ℕ} {persisted : List InspectionResultItem} {template : List InspectionTemplateItem}
  {dto : CompleteInspection}

lemma completion_rewritten (h : Commits (writeCompletion id persisted template dto) d () d') :
    ∃ i, i.id = id ∧ Rewritten i (complete template dto.results i) d d' := by
  obtain ⟨i, hi, rfl, n, t, new, hnew, hrows, rfl⟩ := writeCompletion_commits h
  exact ⟨i, rfl, hi, rfl, rfl, rfl, fun k hk => (hnew.findMany hrows k).trans (if_neg hk)⟩

lemma completion_keeps_iff (h : Commits (writeCompletion id persisted template dto) d () d')
    (hI : ApprovedUnblocked d) :
    KeepsDecided d d' ∧ ApprovedUnblocked d' ↔ WritesOpen d (some (.completed id persisted dto.results)) := by
  obtain ⟨i, rfl, hrewritten⟩ := completion_rewritten h
  have hopen := isDecided_completionStatus template dto.results
  rw [hrewritten.keeps_iff hI]
  constructor
  · rintro ⟨hdecided, _⟩ x hx hid
    obtain rfl := eq_of_key_eq hx hrewritten.mem hid
    by_contra hx
    have hx := Bool.not_eq_false _ ▸ hx
    have hstatus : completionStatus template dto.results = x.status := (hdecided hx).1
    rw [hstatus, hx] at hopen
    cases hopen
  · intro h
    have hi := h i hrewritten.mem rfl
    refine ⟨fun hdecided => ?_, fun happroved => ?_⟩
    · rw [hi] at hdecided
      cases hdecided
    · have happroved : completionStatus template dto.results = .approved := happroved
      rw [happroved] at hopen
      cases hopen

end

lemma resultsOf_put {row row' : InspectionResultItem} {k : ℕ} (hresults : d'.results = d.results.put row')
    (hrow : row ∈ d.results) (hid : row'.id = row.id) (hinspection : row'.inspectionId = row.inspectionId)
    (hk : k ≠ row.inspectionId) : d'.resultsOf k = d.resultsOf k := by
  unfold resultsOf
  rw [hresults]
  refine Table.findMany_put_of_not hrow hid.symm ?_ ?_
  · exact decide_eq_false fun h => hk h.symm
  · exact decide_eq_false fun h => hk (h.symm.trans hinspection)

lemma note_keeps (type : EvidenceType) (h : Commits (writeEvidence i type none) d () d')
    (hI : ApprovedUnblocked d) : KeepsDecided d d' ∧ ApprovedUnblocked d' := by
  obtain ⟨e, hc, rfl⟩ := writeEvidence_commits.mp h
  obtain ⟨_, rfl⟩ := commits_pure.mp hc
  exact keeps_of_inspections_eq rfl rfl (fun _ _ _ => rfl) hI

lemma scan_keeps_iff {type : EvidenceType} {scan : Scan}
    (h : Commits (writeEvidence i type (some scan)) d () d')
    (hI : ApprovedUnblocked d) : KeepsDecided d d' ∧ ApprovedUnblocked d' ↔
      WritesOpen d (some (.evidenced i.id (some scan.productId) scan.serialNumber)) := by
  obtain ⟨row, h⟩ := writeEvidence_counted h
  constructor
  · rintro ⟨hkeeps, _⟩ x hx hid
    by_contra hdecided
    obtain ⟨_, hrows⟩ := hkeeps x hx (Bool.not_eq_false _ ▸ hdecided)
    -- the row that was written is not among the rows there were
    have hwritten : countScan row row ∈ d'.resultsOf x.id :=
      mem_findMany.mpr ⟨h.results ▸ mem_put_self _ _, decide_eq_true (h.inspection.trans hid.symm)⟩
    rw [hrows] at hwritten
    have hsame : countScan row row = row := eq_of_key_eq (mem_findMany.mp hwritten).1 h.mem rfl
    obtain ⟨n, hn⟩ := Option.isSome_iff_exists.mp h.counted
    have hnext := congrArg InspectionResultItem.scannedQty hsame
    simp only [countScan, hn, Option.map_some, Option.some.injEq] at hnext
    omega
  · intro hopen
    refine keeps_of_inspections_eq h.inspections h.templates (fun x hx hdecided => ?_) hI
    refine resultsOf_put h.results h.mem rfl rfl fun hk => ?_
    rw [hopen x hx (hk.trans h.inspection)] at hdecided
    cases hdecided

/-! ### Runs -/

abbrev InspectionPool := Pool InspectionLabel ControlDb (Except Failure Unit)

abbrev InspectionAction := PoolAction InspectionRequest InspectionLabel (Except Failure Unit)

abbrev ReviewStep : InspectionPool → InspectionAction → InspectionPool → Prop :=
  PoolStep serveInspections OutsideReview

def anyScan (_ : OperationalInspection) (_ : Scan) : Prop := True

lemma serveInspections_moves (r : InspectionRequest) :
    (serveInspections r).Yields (fun _ => True) (InspectionMove anyScan) fun _ => True :=
  serveInspections_yields (fun _ _ _ _ => resolveScan_looks.assures.mono fun _ _ _ _ => trivial) r

lemma review_keeps_iff {l : Option InspectionLabel} (hI : ApprovedUnblocked d)
    (h : StateStep (InspectionMove anyScan) OutsideReview d l d') :
    KeepsDecided d d' ∧ ApprovedUnblocked d' ↔ WritesOpen d l := by
  cases h with
  | idle => exact iff_of_true ⟨.refl d, hI⟩ trivial
  | outside henv =>
    refine iff_of_true ⟨henv.decided, fun i hi happroved => ?_⟩ trivial
    have hold := henv.approved i hi happroved
    have hrows := (henv.decided i hold (by rw [happroved]; rfl)).2
    exact (unblocked_congr hrows henv.templates).mpr (hI i hold happroved)
  | step hmove =>
    cases hmove with
    | looks => exact iff_of_true ⟨.refl d, hI⟩ trivial
    | notes h => exact iff_of_true (note_keeps _ h hI) trivial
    | scans _ _ h => exact scan_keeps_iff h hI
    | completes h => exact completion_keeps_iff h hI
    | approves h =>
      obtain ⟨i, hi, rfl, rfl⟩ := writeDecision_commits h
      exact approval_keeps_iff hi hI

/-- Let no approved inspection have a blocking failure. In a run of any requests every step keeps the status
and the rows of what has been decided, and approves nothing with a blocking failure, exactly if no write comes
for an inspection that has meanwhile been decided otherwise, and no approval for rows with such a failure. -/
theorem decided_for_good_iff {p q : InspectionPool} {as : List InspectionAction} (hidle : p.Idle)
    (hstart : ApprovedUnblocked p.state) :
    Run (fun p a p' => ReviewStep p a p' ∧ KeepsDecided p.state p'.state ∧ ApprovedUnblocked p'.state) p as q ↔
      Run (Guarded (fun p a => WritesOpen p.state a.label) ReviewStep) p as q := by
  refine Run.and_iff_guarded_of_landing (J := Pool.Assured (fun _ => True) (InspectionMove anyScan))
    (I := fun p => ApprovedUnblocked p.state) ?_ ?_ ?_ hidle.assured hstart
  · exact fun _ _ _ hs hstep => hs.step serveInspections_moves trivial hstep
  · exact fun _ _ _ hkeeps => hkeeps.2
  · exact fun _ _ _ hs hI hstep => review_keeps_iff hI (hs.state trivial hstep)

/-! The inspection of an asset. -/

def assetInspection (status : InspectionStatus) : OperationalInspection where
  id := 1
  companyId := 1
  branchId := some 1
  sourceType := "Asset"
  sourceId := 1
  status := status

def assetPool (status : InspectionStatus) : InspectionPool where
  state :=
    { ControlDb.empty with
      finance.procurement.inspections := Table.empty.put (assetInspection status) }
  running := fun _ => none

lemma assetPool_unblocked {status : InspectionStatus} (h : status ≠ .approved) :
    ApprovedUnblocked (assetPool status).state := by
  intro i hi hstatus
  have hi : i ∈ (Table.empty : Table OperationalInspection.id).put (assetInspection status) := hi
  obtain rfl | ⟨hi, _⟩ := mem_put.mp hi
  · exact absurd hstatus h
  · exact absurd hi (not_mem_empty i)

def found (result : InspectionResultCode) : CompleteInspection where
  results := [{ code := "BODY", result }]

def quiet (_ : Unit) (d : ControlDb) : ControlDb := d

lemma quiet_outside (m : Unit) (d : ControlDb) : OutsideReview d (quiet m d) :=
  ⟨.refl d, fun _ hi _ => hi, rfl⟩

instance (d : ControlDb) (l : Option InspectionLabel) : Decidable (WritesOpen d l) := by
  unfold WritesOpen Unblocked
  split <;> infer_instance

theorem decided_for_good_asset :
    ∃ as q, Run (Guarded (fun p a => WritesOpen p.state a.label) ReviewStep) (assetPool .inProgress) as q ∧
      q.state.inspections.rows.map OperationalInspection.status = [.approved] ∧
      Run (fun p a p' => ReviewStep p a p' ∧ KeepsDecided p.state p'.state ∧ ApprovedUnblocked p'.state)
        (assetPool .inProgress) as q := by
  obtain ⟨as, q, hrun, happroved⟩ := Pool.exists_run_of_play serveInspections (assetPool .inProgress)
    quiet_outside WritesOpen
    ([.start 0 (.complete ⟨1, 1⟩ 1 (found .pass))] ++ List.replicate 4 (.step 0) ++
      [.start 1 (.approve ⟨1, 1⟩ 1), .step 1, .step 1])
    (fun _ d => d.inspections.rows.map OperationalInspection.status = [.approved]) (by decide +kernel)
  have hstart : ApprovedUnblocked (assetPool .inProgress).state := assetPool_unblocked (by decide)
  exact ⟨as, q, hrun, happroved, (decided_for_good_iff (fun _ => rfl) hstart).mpr hrun⟩

/-- An approval that has seen the inspection pass comes after a completion that found a failure. -/
theorem approved_over_failure :
    ∃ as q, Run ReviewStep (assetPool .passed) as q ∧ ApprovedUnblocked (assetPool .passed).state ∧
      ¬ ApprovedUnblocked q.state := by
  obtain ⟨as, q, hrun, happroved⟩ := Pool.exists_run_of_play serveInspections (assetPool .passed)
    quiet_outside (fun _ _ => True)
    ([.start 0 (.approve ⟨1, 1⟩ 1), .step 0, .start 1 (.complete ⟨1, 1⟩ 1 (found .fail))] ++
      List.replicate 4 (.step 1) ++ [.step 0])
    (fun _ d => ∃ i ∈ d.inspections.rows, i.status = .approved ∧ i.blockingFailureCount = 1)
    (by decide +kernel)
  obtain ⟨i, hi, hstatus, hcount⟩ := happroved
  refine ⟨as, q, .of_guarded hrun, assetPool_unblocked (by decide), fun h => ?_⟩
  have := (h i hi hstatus).1
  omega

end Mayatoko.Control
