import Mathlib.Data.List.Sort
import Mathlib.Data.Rat.Defs
import Mayatoko.Core.Run

/-!
# The offline queue of a POS page

A page keeps the sales that it could not send in local storage and in its own state. Whatever runs in the page
works with the values of the render that it started in: a payment those of the click, a synchronization those
that it began with, and each stores the whole queue as it computes it from them. The parts of the page that do
not touch the queue are left out.

A sale that was reported as stored should stay in the queue until a replay has applied it. Every write stores
the whole queue as its writer knows it: so a sale stays where no writer has fallen behind, that is, where the
queue that a payment or a synchronization has begun with still has every sale that is stored when it is written
back. One that is queued while the server works on others is lost with their removal.
-/

namespace Mayatoko.Offline

structure OfflineSaleItem where
  productId : String
  quantity : ℕ
  taxCodeId : Option String := none
  deriving DecidableEq

structure OfflineSalePayload where
  warehouseId : String
  paymentMethod : Option String := none
  discount : Option ℚ := none
  customerId : Option String := none
  cashierShiftId : Option String := none
  redeemPoints : Option ℕ := none
  idempotencyKey : Option String := none
  items : List OfflineSaleItem
  deriving DecidableEq

inductive QueueStatus
  | pending
  | conflict
  | failed
  deriving DecidableEq

structure OfflineSale where
  localId : String
  sequence : ℕ
  (capturedAt configSyncedAt : String)
  expectedTotal : ℚ
  cashierSub : String
  payload : OfflineSalePayload
  deriving DecidableEq

structure OfflineQueueItem extends OfflineSale where
  status : QueueStatus := .pending
  error : Option String := none
  deriving DecidableEq

structure LocalStorage where
  queue : List OfflineQueueItem := []
  sequence : ℕ := 0

/-- The values of a render; `cashierSub` is the subject of the token, empty without one. -/
structure Page where
  deviceCode : String
  cashierSub : String := ""
  offlineQueue : List OfflineQueueItem
  syncBusy : Bool := false

inductive ReplayStatus
  | applied
  | conflict
  | failed
  | pending
  deriving DecidableEq

structure OfflineReplayResult where
  localId : String
  status : ReplayStatus
  reason : Option String := none

structure OfflineReplayResponse where
  (applied conflicts failed : ℕ)
  results : List OfflineReplayResult

def loadOfflineQueue (storage : LocalStorage) : List OfflineQueueItem :=
  (storage.queue.filter fun item => 0 < item.sequence && item.cashierSub ≠ "").insertionSort
    fun left right => left.sequence ≤ right.sequence

def saveOfflineQueue (storage : LocalStorage) (items : List OfflineQueueItem) : LocalStorage :=
  { storage with queue := items.insertionSort fun left right => left.sequence ≤ right.sequence }

def nextOfflineSequence (storage : LocalStorage) : ℕ :=
  if storage.sequence ≤ 9007199254740991 then storage.sequence + 1 else 1

/-! ### The page -/

/-- A sale at the click: its new local id, the times of the sale and of the catalogue, and what the cart and the
quote made of it. -/
structure Capture where
  (localId capturedAt configSyncedAt : String)
  expectedTotal : ℚ
  payload : OfflineSalePayload

structure SyncRound where
  activeSub : String
  includeConflicts : Bool
  workingQueue : List OfflineQueueItem

/-- A device with one page open, its payments and synchronizations under way, and what has been told so far: the
sales reported as stored, and the local ids that replays have reported as applied. -/
structure PosWorld where
  storage : LocalStorage
  page : Page
  payments : ℕ → Option (Page × Capture)
  syncs : ℕ → Option SyncRound
  reported : List OfflineSale
  applied : List String

def opened (storage : LocalStorage) (deviceCode : String) : PosWorld where
  storage := storage
  page := { deviceCode, offlineQueue := loadOfflineQueue storage }
  payments := fun _ => none
  syncs := fun _ => none
  reported := (loadOfflineQueue storage).map OfflineQueueItem.toOfflineSale
  applied := []

def PosWorld.persistOfflineQueue (w : PosWorld) (next : List OfflineQueueItem) : PosWorld :=
  { w with storage := saveOfflineQueue w.storage next, page := { w.page with offlineQueue := next } }

def queueItem (page : Page) (storage : LocalStorage) (capture : Capture) : OfflineQueueItem where
  localId := capture.localId
  sequence := nextOfflineSequence storage
  capturedAt := capture.capturedAt
  configSyncedAt := capture.configSyncedAt
  expectedTotal := capture.expectedTotal
  cashierSub := page.cashierSub
  payload := capture.payload
  status := .pending

/-- Queue a sale, with the values of the render that `page` is; `stores` tells whether local storage takes the
queue. -/
def PosWorld.queueSaleOffline (w : PosWorld) (page : Page) (capture : Capture) (stores : Bool) : PosWorld :=
  if page.cashierSub = "" ∨ page.deviceCode = "" then w
  else
    let item := queueItem page w.storage capture
    let w := { w with storage.sequence := item.sequence }
    if stores then
      let stored := w.persistOfflineQueue (page.offlineQueue ++ [item])
      { stored with reported := w.reported ++ [item.toOfflineSale] }
    else w

def SyncRound.candidates (round : SyncRound) : List OfflineQueueItem :=
  (round.workingQueue.filter fun item =>
    item.cashierSub = round.activeSub && (round.includeConflicts || item.status ≠ .conflict)).take 50

def afterReplay (response : OfflineReplayResponse) (item : OfflineQueueItem) : List OfflineQueueItem :=
  match response.results.reverse.find? fun result => result.localId = item.localId with
  | none => [item]
  | some result =>
    match result.status with
    | .applied => []
    | .conflict =>
      [{ item with
          status := .conflict
          error := some (result.reason.getD "Transaksi membutuhkan penyelesaian konflik.") }]
    | .failed =>
      [{ item with
          status := .failed
          error := some (result.reason.getD "Sinkronisasi gagal dan akan dicoba kembali.") }]
    | .pending => [{ item with status := .pending }]

def goesOn (response : OfflineReplayResponse) (candidates : List OfflineQueueItem) : Bool :=
  !(0 < response.conflicts || 0 < response.failed || response.applied = 0 || candidates.length < 50)

def PosWorld.await (w : PosWorld) (j : ℕ) (round : SyncRound) : PosWorld :=
  if round.candidates = [] then
    { w with page.syncBusy := false, syncs := Function.update w.syncs j none }
  else { w with syncs := Function.update w.syncs j (some round) }

inductive PosEvent
  /-- The page is loaded again; `readable` tells whether local storage can be read. -/
  | reload (readable : Bool)
  | login (cashierSub : String)
  /-- A sale is paid for while the server is offline. -/
  | payOffline (capture : Capture) (stores : Bool)
  /-- A sale is sent to the server, -/
  | payStarts (i : ℕ) (capture : Capture)
  /-- which cannot be reached, -/
  | payLost (i : ℕ) (stores : Bool)
  /-- or answers. -/
  | payEnds (i : ℕ)
  | syncStarts (j : ℕ) (includeConflicts : Bool)
  | syncResponds (j : ℕ) (response : OfflineReplayResponse) (stores : Bool)
  | syncFails (j : ℕ)

def OfflineReplayResponse.appliedIds (response : OfflineReplayResponse) : List String :=
  (response.results.filter fun result => result.status = .applied).map OfflineReplayResult.localId

def posStep (w : PosWorld) : PosEvent → Option PosWorld
  | .reload readable =>
    some { w with
      page := { deviceCode := w.page.deviceCode, cashierSub := w.page.cashierSub
                offlineQueue := if readable then loadOfflineQueue w.storage else [] }
      payments := fun _ => none
      syncs := fun _ => none }
  | .login cashierSub => some { w with page.cashierSub := cashierSub }
  | .payOffline capture stores => some (w.queueSaleOffline w.page capture stores)
  | .payStarts i capture =>
    if w.payments i = none then
      some { w with payments := Function.update w.payments i (some (w.page, capture)) }
    else none
  | .payLost i stores =>
    (w.payments i).map fun (page, capture) =>
      { w with payments := Function.update w.payments i none }.queueSaleOffline page capture stores
  | .payEnds i =>
    (w.payments i).map fun _ => { w with payments := Function.update w.payments i none }
  | .syncStarts j includeConflicts =>
    if w.syncs j = none then
      if w.page.cashierSub = "" ∨ w.page.deviceCode = "" ∨ w.page.syncBusy = true then some w
      else
        some (({ w with page.syncBusy := true } : PosWorld).await j
          ⟨w.page.cashierSub, includeConflicts, w.page.offlineQueue⟩)
    else none
  | .syncResponds j response stores =>
    (w.syncs j).map fun round =>
      let next := { round with workingQueue := round.workingQueue.flatMap (afterReplay response) }
      let w := { w with applied := w.applied ++ response.appliedIds }
      let ended (w : PosWorld) : PosWorld :=
        { w with page.syncBusy := false, syncs := Function.update w.syncs j none }
      if stores then
        let w := w.persistOfflineQueue next.workingQueue
        if goesOn response round.candidates then w.await j next else ended w
      else ended w
  | .syncFails j =>
    (w.syncs j).map fun _ => { w with page.syncBusy := false, syncs := Function.update w.syncs j none }

def PosStep (w : PosWorld) (e : PosEvent) (w' : PosWorld) : Prop := posStep w e = some w'

/-! ### Queued sales stay queued -/

open Core

variable {w w' : PosWorld} {s : OfflineSale} {queue next : List OfflineQueueItem}

def Shows (queue : List OfflineQueueItem) (s : OfflineSale) : Prop := ∃ item ∈ queue, item.toOfflineSale = s

def PosWorld.Stored (w : PosWorld) (s : OfflineSale) : Prop := Shows (loadOfflineQueue w.storage) s

def PosWorld.UpToDate (w : PosWorld) (queue : List OfflineQueueItem) : Prop := ∀ s, w.Stored s → Shows queue s

instance (queue : List OfflineQueueItem) (s : OfflineSale) : Decidable (Shows queue s) :=
  inferInstanceAs (Decidable (∃ item ∈ queue, _))

lemma upToDate_iff :
    w.UpToDate queue ↔ ∀ item ∈ loadOfflineQueue w.storage, Shows queue item.toOfflineSale := by
  constructor
  · exact fun h item hitem => h _ ⟨item, hitem, rfl⟩
  · rintro h s ⟨item, hitem, rfl⟩
    exact h item hitem

lemma stored_iff :
    w.Stored s ↔ (0 < s.sequence ∧ s.cashierSub ≠ "") ∧ Shows w.storage.queue s := by
  simp only [PosWorld.Stored, Shows, loadOfflineQueue, List.mem_insertionSort, List.mem_filter,
    Bool.and_eq_true, decide_eq_true_eq]
  constructor
  · rintro ⟨item, ⟨hitem, hvalid⟩, rfl⟩
    exact ⟨hvalid, item, hitem, rfl⟩
  · rintro ⟨hvalid, item, hitem, rfl⟩
    exact ⟨item, ⟨hitem, hvalid⟩, rfl⟩

lemma stored_of_saved (hsaved : w'.storage.queue = (saveOfflineQueue w.storage next).queue) :
    w'.Stored s ↔ (0 < s.sequence ∧ s.cashierSub ≠ "") ∧ Shows next s := by
  rw [stored_iff, hsaved]
  refine and_congr_right fun _ => ?_
  simp only [saveOfflineQueue, Shows, List.mem_insertionSort]

lemma nextOfflineSequence_pos (storage : LocalStorage) : 0 < nextOfflineSequence storage := by
  rw [nextOfflineSequence]
  split
  · exact Nat.succ_pos _
  · exact Nat.one_pos

lemma shows_afterReplay {response : OfflineReplayResponse} (h : Shows queue s) :
    Shows (queue.flatMap (afterReplay response)) s ∨ s.localId ∈ response.appliedIds := by
  obtain ⟨item, hitem, rfl⟩ := h
  have hstays (h : Shows (afterReplay response item) item.toOfflineSale) :
      Shows (queue.flatMap (afterReplay response)) item.toOfflineSale := by
    obtain ⟨item', hmem, hsale⟩ := h
    exact ⟨item', List.mem_flatMap.mpr ⟨item, hitem, hmem⟩, hsale⟩
  rw [afterReplay] at hstays
  cases hfind : response.results.reverse.find? fun result => result.localId = item.localId with
  | none =>
    rw [hfind] at hstays
    exact .inl (hstays ⟨item, List.mem_singleton_self _, rfl⟩)
  | some result =>
    have hid : decide (result.localId = item.localId) = true :=
      List.find?_some (p := fun r : OfflineReplayResult => r.localId = item.localId) hfind
    simp only [hfind] at hstays
    cases hstatus : result.status with
    | applied =>
      refine .inr (List.mem_map.mpr ⟨result, List.mem_filter.mpr ⟨?_, decide_eq_true hstatus⟩, ?_⟩)
      · exact List.mem_reverse.mp (List.mem_of_find?_eq_some hfind)
      · exact of_decide_eq_true hid
    | conflict | failed | pending =>
      simp only [hstatus] at hstays
      exact .inl (hstays ⟨_, List.mem_singleton_self _, rfl⟩)

/-! ### What a step keeps -/

/-- A step drops no stored sale that has not been reported as applied. -/
def Keeps (w w' : PosWorld) : Prop := ∀ s, w.Stored s → w'.Stored s ∨ s.localId ∈ w'.applied

structure Safe (w : PosWorld) : Prop where
  shown : w.UpToDate w.page.offlineQueue
  reported : ∀ s ∈ w.reported, w.Stored s ∨ s.localId ∈ w.applied

/-- No writer has fallen behind: what a payment or a synchronization writes back is computed from a queue that
still has every stored sale, and a page that is loaded can read local storage. -/
def UpToDateWrite (w : PosWorld) : PosEvent → Prop
  | .reload readable => readable = true
  | .payLost i _ => ∀ payment ∈ w.payments i, w.UpToDate payment.1.offlineQueue
  | .syncResponds j _ _ => ∀ round ∈ w.syncs j, w.UpToDate round.workingQueue
  | _ => True

lemma keeps_of_same (hsafe : Safe w) (hqueue : w'.storage.queue = w.storage.queue)
    (hshown : w'.page.offlineQueue = w.page.offlineQueue) (hreported : w'.reported = w.reported)
    (happlied : ∀ id ∈ w.applied, id ∈ w'.applied) : Keeps w w' ∧ Safe w' := by
  have hstored (s : OfflineSale) : w'.Stored s ↔ w.Stored s := by rw [stored_iff, stored_iff, hqueue]
  refine ⟨fun s hs => .inl ((hstored s).mpr hs), fun s hs => ?_, fun s hs => ?_⟩
  · rw [hshown]
    exact hsafe.shown s ((hstored s).mp hs)
  · rw [hreported] at hs
    exact (hsafe.reported s hs).imp (hstored s).mpr (happlied _)

lemma keeps_of_saved (hsafe : Safe w) (hsaved : w'.storage.queue = (saveOfflineQueue w.storage next).queue)
    (hshown : w'.page.offlineQueue = next) (happlied : ∀ id ∈ w.applied, id ∈ w'.applied)
    (hnext : ∀ s, w.Stored s → Shows next s ∨ s.localId ∈ w'.applied)
    (hreported : ∀ s ∈ w'.reported, s ∈ w.reported ∨ (0 < s.sequence ∧ s.cashierSub ≠ "") ∧ Shows next s) :
    Keeps w w' ∧ Safe w' := by
  have hkeeps : Keeps w w' := fun s hs => (hnext s hs).imp_left fun hshows =>
    (stored_of_saved hsaved).mpr ⟨(stored_iff.mp hs).1, hshows⟩
  refine ⟨hkeeps, fun s hs => ?_, fun s hs => ?_⟩
  · rw [hshown]
    exact ((stored_of_saved hsaved).mp hs).2
  · rcases hreported s hs with hs | hs
    · rcases hsafe.reported s hs with hs | hs
      · exact hkeeps s hs
      · exact .inr (happlied _ hs)
    · exact .inl ((stored_of_saved hsaved).mpr hs)

lemma keeps_queueSaleOffline {page : Page} {capture : Capture} {stores : Bool} (hsafe : Safe w)
    (hqueue : w.UpToDate page.offlineQueue) :
    Keeps w (w.queueSaleOffline page capture stores) ∧ Safe (w.queueSaleOffline page capture stores) := by
  rw [PosWorld.queueSaleOffline]
  split
  next => exact keeps_of_same hsafe rfl rfl rfl fun _ h => h
  next hnone =>
    rw [not_or] at hnone
    cases stores with
    | false => exact keeps_of_same hsafe rfl rfl rfl fun _ h => h
    | true =>
      refine keeps_of_saved hsafe rfl rfl (fun _ h => h) (fun s hs => .inl ?_) (fun s hs => ?_)
      · obtain ⟨item, hitem, hsale⟩ := hqueue s hs
        exact ⟨item, List.mem_append_left _ hitem, hsale⟩
      · refine (List.mem_append.mp hs).imp_right fun hnew => ?_
        obtain rfl := List.mem_singleton.mp hnew
        refine ⟨⟨nextOfflineSequence_pos _, hnone.1⟩, _, List.mem_append_right _ ?_, rfl⟩
        exact List.mem_singleton_self _

lemma await_same (j : ℕ) (round : SyncRound) :
    (w.await j round).storage = w.storage ∧ (w.await j round).page.offlineQueue = w.page.offlineQueue ∧
      (w.await j round).reported = w.reported ∧ (w.await j round).applied = w.applied := by
  rw [PosWorld.await]
  split
  · exact ⟨rfl, rfl, rfl, rfl⟩
  · exact ⟨rfl, rfl, rfl, rfl⟩

lemma keeps_syncResponds {j : ℕ} {response : OfflineReplayResponse} {stores : Bool} (hsafe : Safe w)
    (hround : ∀ round ∈ w.syncs j, w.UpToDate round.workingQueue)
    (hstep : posStep w (.syncResponds j response stores) = some w') : Keeps w w' ∧ Safe w' := by
  obtain ⟨round, hj, rfl⟩ := Option.map_eq_some_iff.mp hstep
  have happlied (id : String) (h : id ∈ w.applied) : id ∈ w.applied ++ response.appliedIds :=
    List.mem_append_left _ h
  have hnext (s : OfflineSale) (hs : w.Stored s) : Shows (round.workingQueue.flatMap (afterReplay response)) s ∨
        s.localId ∈ w.applied ++ response.appliedIds :=
    (shows_afterReplay (hround round hj s hs)).imp_right (List.mem_append_right _)
  cases stores with
  | false => exact keeps_of_same hsafe rfl rfl rfl happlied
  | true =>
    simp only [if_true]
    split
    · obtain ⟨hstorage, hshown, hreported, hids⟩ := await_same
        (w := { w with applied := w.applied ++ response.appliedIds }.persistOfflineQueue
          (round.workingQueue.flatMap (afterReplay response))) j
        { round with workingQueue := round.workingQueue.flatMap (afterReplay response) }
      refine keeps_of_saved hsafe (by rw [hstorage]; rfl) (by rw [hshown]; rfl) ?_ ?_ ?_
      · rw [hids]
        exact happlied
      · rw [hids]
        exact hnext
      · rw [hreported]
        exact fun s hs => .inl hs
    · exact keeps_of_saved hsafe rfl rfl happlied hnext fun s hs => .inl hs

/-- A step in which no writer has fallen behind drops nothing. -/
lemma keeps_of_step {e : PosEvent} (hsafe : Safe w) (hcurrent : UpToDateWrite w e) (hstep : PosStep w e w') :
    Keeps w w' ∧ Safe w' := by
  cases e with
  | reload readable =>
    obtain rfl : readable = true := hcurrent
    cases hstep
    refine ⟨fun s hs => .inl hs, fun s hs => hs, fun s hs => hsafe.reported s hs⟩
  | login sub =>
    cases hstep
    exact keeps_of_same hsafe rfl rfl rfl fun _ h => h
  | payOffline capture stores =>
    cases hstep
    exact keeps_queueSaleOffline hsafe hsafe.shown
  | payStarts i capture =>
    simp only [PosStep, posStep] at hstep
    split at hstep
    · cases hstep
      exact keeps_of_same hsafe rfl rfl rfl fun _ h => h
    · cases hstep
  | payLost i stores =>
    obtain ⟨payment, hi, rfl⟩ := Option.map_eq_some_iff.mp hstep
    have hsame : Keeps w { w with payments := Function.update w.payments i none } ∧
        Safe { w with payments := Function.update w.payments i none } :=
      keeps_of_same hsafe rfl rfl rfl fun _ h => h
    exact keeps_queueSaleOffline hsame.2 (hcurrent payment hi)
  | payEnds i =>
    obtain ⟨_, _, rfl⟩ := Option.map_eq_some_iff.mp hstep
    exact keeps_of_same hsafe rfl rfl rfl fun _ h => h
  | syncStarts j includeConflicts =>
    simp only [PosStep, posStep] at hstep
    split at hstep
    next =>
      split at hstep
      next =>
        cases hstep
        exact keeps_of_same hsafe rfl rfl rfl fun _ h => h
      next =>
        cases hstep
        obtain ⟨hstorage, hshown, hreported, hids⟩ := await_same
          (w := { w with page.syncBusy := true }) j ⟨w.page.cashierSub, includeConflicts, w.page.offlineQueue⟩
        refine keeps_of_same hsafe (by rw [hstorage]) (by rw [hshown]) (by rw [hreported]) ?_
        rw [hids]
        exact fun _ h => h
    next => cases hstep
  | syncResponds j response stores => exact keeps_syncResponds hsafe hcurrent hstep
  | syncFails j =>
    obtain ⟨_, _, rfl⟩ := Option.map_eq_some_iff.mp hstep
    exact keeps_of_same hsafe rfl rfl rfl fun _ h => h

lemma safe_opened (storage : LocalStorage) (deviceCode : String) : Safe (opened storage deviceCode) := by
  refine ⟨fun s hs => hs, fun s hs => .inl ?_⟩
  obtain ⟨item, hitem, rfl⟩ := List.mem_map.mp hs
  exact ⟨item, hitem, rfl⟩

/-- From a page that has just been opened, in every run in which no writer falls behind, no step drops a stored
sale that has not been reported as applied, and every sale that was reported as stored is stored until it has
been. -/
theorem queued_stays (storage : LocalStorage) (deviceCode : String) (events : List PosEvent) (w : PosWorld)
    (h : Run (Guarded UpToDateWrite PosStep) (opened storage deviceCode) events w) :
    Run (fun w e w' => PosStep w e w' ∧ Keeps w w') (opened storage deviceCode) events w ∧
      ∀ s ∈ w.reported, w.Stored s ∨ s.localId ∈ w.applied := by
  have hsafe := safe_opened storage deviceCode
  have hstep (w : PosWorld) (e : PosEvent) (w' : PosWorld) (hs : Safe w)
      (hg : Guarded UpToDateWrite PosStep w e w') : Keeps w w' ∧ Safe w' := keeps_of_step hs hg.1 hg.2
  constructor
  · have hall := h.and_of_invariant (fun w e w' hs hg => (hstep w e w' hs hg).2)
      (fun w e w' hs hg => (hstep w e w' hs hg).1) hsafe
    exact hall.mono fun _ _ _ hg => ⟨hg.1.2, hg.2⟩
  · exact (h.invariant (fun w e w' hs hg => (hstep w e w' hs hg).2) hsafe).reported

def follow : PosWorld → List PosEvent → Option PosWorld
  | w, [] => some w
  | w, e :: es => (posStep w e).bind fun w' => follow w' es

lemma run_of_follow {events : List PosEvent} (h : follow w events = some w') : Run PosStep w events w' := by
  induction events generalizing w with
  | nil =>
    cases h
    exact Run.nil _
  | cons e es ih =>
    obtain ⟨next, hnext, hrest⟩ := Option.bind_eq_some_iff.mp h
    exact Run.cons hnext (ih hrest)

def captureOf (localId : String) : Capture where
  localId := localId
  capturedAt := "2024-05-01T08:00:00.000Z"
  configSyncedAt := "2024-05-01T07:00:00.000Z"
  expectedTotal := 15000
  payload := { warehouseId := "toko", items := [⟨"beras", 1, none⟩] }

def till : PosWorld := opened {} "pos-web-1"

def appliedOf (localId : String) : OfflineReplayResponse := ⟨1, 0, 0, [⟨localId, .applied, none⟩]⟩

def inTurn : List PosEvent :=
  [.login "siti", .payOffline (captureOf "a") true, .syncStarts 0 false, .syncResponds 0 (appliedOf "a") true,
    .payOffline (captureOf "b") true]

def meanwhile : List PosEvent :=
  [.login "siti", .payOffline (captureOf "a") true, .syncStarts 0 false, .payOffline (captureOf "b") true,
    .syncResponds 0 (appliedOf "a") true]

theorem queued_stays_inTurn : ∃ w, Run (Guarded UpToDateWrite PosStep) till inTurn w ∧
      w.storage.queue.map (fun item => item.localId) = ["b"] ∧
      ∀ s ∈ w.reported, w.Stored s ∨ s.localId ∈ w.applied := by
  obtain ⟨w, hw⟩ : ∃ w, follow till inTurn = some w := Option.isSome_iff_exists.mp (by decide +kernel)
  obtain ⟨w₁, h₁, hrest⟩ := Run.cons_iff.mp (run_of_follow hw)
  obtain ⟨w₂, h₂, hrest⟩ := Run.cons_iff.mp hrest
  obtain ⟨w₃, h₃, hrest⟩ := Run.cons_iff.mp hrest
  obtain ⟨w₄, h₄, hrest⟩ := Run.cons_iff.mp hrest
  obtain ⟨w₅, h₅, hrest⟩ := Run.cons_iff.mp hrest
  obtain rfl := Run.nil_iff.mp hrest
  have hwrite : UpToDateWrite w₃ (.syncResponds 0 (appliedOf "a") true) := by
    intro round hround
    obtain rfl := Option.some.inj h₁
    obtain rfl := Option.some.inj h₂
    obtain rfl := Option.some.inj h₃
    obtain rfl := Option.some.inj hround
    exact upToDate_iff.mpr (by decide +kernel)
  have hrun : Run (Guarded UpToDateWrite PosStep) till inTurn w₅ :=
    .cons ⟨trivial, h₁⟩ (.cons ⟨trivial, h₂⟩ (.cons ⟨trivial, h₃⟩ (.cons ⟨hwrite, h₄⟩
      (.cons ⟨trivial, h₅⟩ (.nil _)))))
  have hqueue : (follow till inTurn).map (fun w => w.storage.queue.map fun item => item.localId) =
      some ["b"] := by decide +kernel
  rw [hw, Option.map_some, Option.some.injEq] at hqueue
  exact ⟨w₅, hrun, hqueue, (queued_stays {} "pos-web-1" inTurn w₅ hrun).2⟩

/-- A sale that is queued while the server works on another one is lost: the answer is written over it. -/
theorem not_queued_stays_meanwhile :
    ¬ ∀ (storage : LocalStorage) (deviceCode : String) (events : List PosEvent) (w : PosWorld),
      Run PosStep (opened storage deviceCode) events w →
        Run (fun w e w' => PosStep w e w' ∧ Keeps w w') (opened storage deviceCode) events w ∧
          ∀ s ∈ w.reported, w.Stored s ∨ s.localId ∈ w.applied := by
  intro h
  obtain ⟨w, hw⟩ : ∃ w, follow till meanwhile = some w := Option.isSome_iff_exists.mp (by decide +kernel)
  have hlost : (follow till meanwhile).map (fun w =>
      (w.storage.queue, w.reported.map OfflineSale.localId, w.applied)) = some ([], ["a", "b"], ["a"]) := by
    decide +kernel
  rw [hw, Option.map_some, Option.some.injEq, Prod.mk.injEq, Prod.mk.injEq] at hlost
  obtain ⟨hempty, hreported, happlied⟩ := hlost
  have hmem : "b" ∈ w.reported.map OfflineSale.localId := by
    rw [hreported]
    decide
  obtain ⟨s, hs, hid⟩ := List.mem_map.mp hmem
  rcases (h {} "pos-web-1" meanwhile w (run_of_follow hw)).2 s hs with hstored | hdone
  · obtain ⟨item, hitem, _⟩ := (stored_iff.mp hstored).2
    rw [hempty] at hitem
    cases hitem
  · rw [happlied, hid] at hdone
    revert hdone
    decide

end Mayatoko.Offline
