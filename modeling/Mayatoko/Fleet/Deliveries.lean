import Mayatoko.Fleet.Meter

/-!
# Goods and cash of a delivery trip

Until its stop is completed nothing of an item is delivered or returned; completing the stop settles all
that was loaded of its items. Items without a stop are never settled, so the goods of a closed trip are
accounted for exactly if every item of its manifest has a stop. The cash of a trip is the cash of its
stops, in every case.
-/

namespace Mayatoko.Fleet

open Core FleetDb
open Transit (TenantScope)

variable {db db' : FleetDb} {scope : TenantScope}

/-! ### The books of the trips -/

def DeliveryTripStatus.isUnloaded (s : DeliveryTripStatus) : Bool := s ∈ [.draft, .planned, .loading]

def DeliveryTripStatus.isDone (s : DeliveryTripStatus) : Bool :=
  s ∈ [.partiallyDelivered, .delivered, .returning, .closed]

namespace DeliveryManifestItem

variable (i : DeliveryManifestItem)

def Untouched : Prop := i.deliveredQty = 0 ∧ i.returnedQty = 0

def Settled : Prop :=
  i.loadedQty = i.deliveredQty + i.returnedQty ∧ 0 ≤ i.loadedQty ∧ 0 ≤ i.deliveredQty ∧
    0 ≤ i.returnedQty

structure SettledBy (s : DeliveryStop) : Prop where
  trip : s.tripId = i.tripId
  opened : s.status.isOpen = true → i.Untouched
  completed : s.status.isOpen = false → i.Settled

end DeliveryManifestItem

structure TripBooked (db : FleetDb) (t : DeliveryTrip) : Prop where
  unloaded : t.status.isUnloaded = true → ∀ s ∈ db.stopsOf t.id, s.status.isOpen = true
  done : t.status.isDone = true → ∀ s ∈ db.stopsOf t.id, s.status.isOpen = false
  collected : t.codCollected = ((db.stopsOf t.id).map DeliveryStop.codCollected).sum
  expected : t.codExpected = ((db.stopsOf t.id).map DeliveryStop.codExpected).sum

structure StopBooked (db : FleetDb) (s : DeliveryStop) : Prop where
  trip : ∃ t ∈ db.trips, t.id = s.tripId
  cod : s.codCollected ≤ s.codExpected

structure ItemBooked (db : FleetDb) (i : DeliveryManifestItem) : Prop where
  trip : ∃ t ∈ db.trips, t.id = i.tripId ∧ (t.status.isUnloaded = false → i.loadedQty = i.expectedQty)
  expected : 0 < i.expectedQty
  loaded : 0 ≤ i.loadedQty
  unassigned : i.stopId = none → i.Untouched
  assigned : ∀ id, i.stopId = some id → ∃ s ∈ db.stops, s.id = id ∧ i.SettledBy s

structure Booked (db : FleetDb) : Prop where
  trips : ∀ t ∈ db.trips, TripBooked db t
  stops : ∀ s ∈ db.stops, StopBooked db s
  items : ∀ i ∈ db.manifestItems, ItemBooked db i

/-! ### Congruence -/

lemma stopsOf_congr (h : db'.stops = db.stops) (tripId : ℕ) : db'.stopsOf tripId = db.stopsOf tripId := by
  rw [stopsOf, h, stopsOf]

variable {tripId : ℕ}

lemma mem_stopsOf {s : DeliveryStop} : s ∈ db.stopsOf tripId ↔ s ∈ db.stops ∧ s.tripId = tripId := by
  rw [stopsOf, mem_findMany, decide_eq_true_eq]

lemma mem_itemsOf {i : DeliveryManifestItem} :
    i ∈ db.itemsOf tripId ↔ i ∈ db.manifestItems ∧ i.tripId = tripId := by
  rw [itemsOf, mem_findMany, decide_eq_true_eq]

variable {t : DeliveryTrip}

lemma TripBooked.congr (h : TripBooked db t) (hstops : db'.stopsOf t.id = db.stopsOf t.id) : TripBooked db' t :=
  ⟨hstops ▸ h.unloaded, hstops ▸ h.done, hstops ▸ h.collected, hstops ▸ h.expected⟩

lemma Booked.congr (h : Booked db) (htrips : db'.trips = db.trips) (hstops : db'.stops = db.stops)
    (hitems : db'.manifestItems = db.manifestItems) : Booked db' := by
  constructor
  case trips =>
    intro t ht
    exact (h.trips t (htrips ▸ ht)).congr (stopsOf_congr hstops _)
  case stops =>
    intro s hs
    have hs := h.stops s (hstops ▸ hs)
    exact ⟨htrips ▸ hs.trip, hs.cod⟩
  case items =>
    intro i hi
    have hi := h.items i (hitems ▸ hi)
    exact ⟨htrips ▸ hi.trip, hi.expected, hi.loaded, hi.unassigned, hstops ▸ hi.assigned⟩

lemma exists_trip_put {t' : DeliveryTrip} {P : DeliveryTrip → Prop} {id : ℕ}
    (ht : t ∈ db.trips) (htrips : db'.trips = db.trips.put t') (hid : t'.id = t.id)
    (hP : t.id = id → P t → P t') (h : ∃ t ∈ db.trips, t.id = id ∧ P t) :
    ∃ t ∈ db'.trips, t.id = id ∧ P t := by
  obtain ⟨x, hx, hxid, hPx⟩ := h
  rw [htrips]
  by_cases hkey : x.id = t'.id
  · obtain rfl := eq_of_key_eq hx ht (hkey.trans hid)
    exact ⟨t', mem_put_self _ _, hid.trans hxid, hP hxid hPx⟩
  · exact ⟨x, mem_put.mpr (Or.inr ⟨hx, hkey⟩), hxid, hPx⟩

lemma StopBooked.put {t' : DeliveryTrip} {s : DeliveryStop} (h : StopBooked db s)
    (ht : t ∈ db.trips) (htrips : db'.trips = db.trips.put t') (hid : t'.id = t.id) :
    StopBooked db' s := by
  refine ⟨?_, h.cod⟩
  have hput := exists_trip_put (P := fun _ => True) ht htrips hid (fun _ _ => trivial) (by simpa using h.trip)
  simpa using hput

lemma Booked.trips_put (h : Booked db) {t t' : DeliveryTrip} (ht : t ∈ db.trips)
    (htrips : db'.trips = db.trips.put t') (hstops : db'.stops = db.stops) (hid : t'.id = t.id)
    (hbooked : TripBooked db t → TripBooked db t') : ∀ x ∈ db'.trips, TripBooked db' x := by
  intro x hx
  rcases mem_put.mp (htrips ▸ hx) with rfl | ⟨hx, _⟩
  · exact (hbooked (h.trips t ht)).congr (stopsOf_congr hstops _)
  · exact (h.trips x hx).congr (stopsOf_congr hstops _)

lemma Booked.stops_put (h : Booked db) {t t' : DeliveryTrip} (ht : t ∈ db.trips)
    (htrips : db'.trips = db.trips.put t') (hstops : db'.stops = db.stops) (hid : t'.id = t.id) :
    ∀ s ∈ db'.stops, StopBooked db' s :=
  fun s hs => (h.stops s (hstops ▸ hs)).put ht htrips hid

lemma stopsOf_append {added : List DeliveryStop} (h : db'.stops.rows = db.stops.rows ++ added) (tripId : ℕ) :
    db'.stopsOf tripId = db.stopsOf tripId ++ added.filter fun s => s.tripId = tripId := by
  rw [stopsOf, Table.findMany, h, filter_append]
  rfl

lemma TripCreated.booked {dto : CreateDeliveryTrip} {id : ℕ}
    (h : TripCreated scope dto id db db') (hdb : Booked db) : Booked db' := by
  obtain ⟨stops, items, hstops, hitems, hnewStops, hcod, hnewItems⟩ := h.rows
  have hfresh : ∀ t ∈ db.trips, t.id ≠ id := find?_eq_none.mp h.fresh
  have hkept : ∀ t ∈ db.trips, t ∈ db'.trips := fun t ht => by
    rw [h.trips, mem_put]
    exact .inr ⟨ht, hfresh t ht⟩
  have hself : dto.row scope id ∈ db'.trips := h.trips ▸ mem_put_self _ _
  have hnew : db'.stopsOf id = stops := by
    have hnone : db.stopsOf id = [] := by
      refine List.eq_nil_iff_forall_not_mem.mpr fun s hs => ?_
      obtain ⟨hmem, htrip⟩ := mem_stopsOf.mp hs
      obtain ⟨t, ht, htid⟩ := (hdb.stops s hmem).trip
      exact hfresh t ht (htid.trans htrip)
    rw [stopsOf_append hstops, hnone, nil_append, List.filter_eq_self]
    exact fun s hs => decide_eq_true (hnewStops s hs).trip
  have hold : ∀ t ∈ db.trips, db'.stopsOf t.id = db.stopsOf t.id := by
    intro t ht
    have hnone : stops.filter (fun s => s.tripId = t.id) = [] := by
      refine filter_eq_nil_iff.mpr fun s hs hmem => hfresh t ht ?_
      exact (of_decide_eq_true hmem).symm.trans (hnewStops s hs).trip
    rw [stopsOf_append hstops, hnone, append_nil]
  have hstopKept : ∀ s ∈ db.stops, s ∈ db'.stops := fun s hs => by
    rw [mem_rows, hstops]
    exact List.mem_append_left _ hs
  constructor
  case trips =>
    intro t ht
    rw [h.trips, mem_put] at ht
    rcases ht with rfl | ⟨ht, _⟩
    · have hstopsOf : db'.stopsOf (dto.row scope id).id = stops := hnew
      constructor
      case unloaded =>
        intro _ s hs
        rw [(hnewStops s (hstopsOf ▸ hs)).status]
        rfl
      case done => exact fun hdone => by cases hdone
      case collected =>
        rw [hstopsOf]
        refine (List.sum_eq_zero fun x hx => ?_).symm
        obtain ⟨s, hs, rfl⟩ := mem_map.mp hx
        exact (hnewStops s hs).collected
      case expected =>
        rw [hstopsOf, hcod]
        rfl
    · exact (hdb.trips t ht).congr (hold t ht)
  case stops =>
    intro s hs
    rw [mem_rows, hstops, mem_append] at hs
    rcases hs with hs | hs
    · have hbooked := hdb.stops s hs
      obtain ⟨t, ht, hid⟩ := hbooked.trip
      exact ⟨⟨t, hkept t ht, hid⟩, hbooked.cod⟩
    · have hs := hnewStops s hs
      refine ⟨⟨_, hself, hs.trip.symm⟩, ?_⟩
      rw [hs.collected]
      exact hs.expected
  case items =>
    intro i hi
    rw [mem_rows, hitems, mem_append] at hi
    rcases hi with hi | hi
    · have hbooked := hdb.items i hi
      obtain ⟨t, ht, htrip⟩ := hbooked.trip
      refine ⟨⟨t, hkept t ht, htrip⟩, hbooked.expected, hbooked.loaded, hbooked.unassigned, fun sid hsid => ?_⟩
      obtain ⟨s, hs, hsettled⟩ := hbooked.assigned sid hsid
      exact ⟨s, hstopKept s hs, hsettled⟩
    · have hi := hnewItems i hi
      refine ⟨⟨_, hself, hi.trip.symm, fun hloaded => by cases hloaded⟩, hi.expected, hi.loaded.ge,
        fun _ => hi.settled, fun sid hsid => ?_⟩
      obtain ⟨s, hs, rfl⟩ := hi.stop sid hsid
      have hnew := hnewStops s hs
      refine ⟨s, ?_, rfl, hnew.trip.trans hi.trip.symm, fun _ => hi.settled, fun hdone => ?_⟩
      · rw [mem_rows, hstops]
        exact mem_append_right _ hs
      · rw [hnew.status] at hdone
        cases hdone

lemma Scanned.untouched {i i' : DeliveryManifestItem} (h : Scanned tripId i i')
    (hi : i.Untouched) : i'.Untouched := by
  obtain rfl | ⟨_, _, rfl⟩ := h
  · exact hi
  · exact hi

lemma TripLoaded.booked (h : TripLoaded tripId db db') (hdb : Booked db) : Booked db' := by
  obtain ⟨t, ht, rfl, hstatus, inspection, htrips⟩ := h.trips
  have hunloaded : t.status.isUnloaded = true := decide_eq_true hstatus
  constructor
  case trips =>
    refine hdb.trips_put ht htrips h.stops rfl fun hbooked => ?_
    exact ⟨nofun, nofun, hbooked.collected, hbooked.expected⟩
  case stops => exact hdb.stops_put ht htrips h.stops rfl
  case items =>
    intro i' hi'
    obtain ⟨i, hi, hscanned⟩ := h.items i' hi'
    have hbooked := hdb.items i hi
    have hsame : i'.tripId = i.tripId ∧ i'.stopId = i.stopId ∧ i'.expectedQty = i.expectedQty := by
      obtain rfl | ⟨_, _, rfl⟩ := hscanned
      · exact ⟨rfl, rfl, rfl⟩
      · exact ⟨rfl, rfl, rfl⟩
    obtain ⟨htrip, hstop, hexpected⟩ := hsame
    constructor
    case trip =>
      by_cases hown : i.tripId = t.id
      · refine ⟨{ t with status := .readyToDispatch, loadingInspectionId := some inspection },
          htrips ▸ mem_put_self _ _, (htrip.trans hown).symm, fun _ => ?_⟩
        exact h.whole i' (mem_itemsOf.mpr ⟨hi', htrip.trans hown⟩)
      · obtain rfl | ⟨hmine, _⟩ := hscanned
        · refine exists_trip_put ht htrips rfl (fun hid _ => ?_) hbooked.trip
          exact absurd hid.symm hown
        · exact absurd hmine hown
    case expected => exact hexpected ▸ hbooked.expected
    case loaded =>
      obtain rfl | ⟨_, scan, rfl⟩ := hscanned
      · exact hbooked.loaded
      · exact le_max_left _ _
    case unassigned => exact fun hnone => hscanned.untouched (hbooked.unassigned (hstop ▸ hnone))
    case assigned =>
      intro sid hsid
      obtain ⟨s, hs, hid, hsettled⟩ := hbooked.assigned sid (hstop ▸ hsid)
      refine ⟨s, h.stops ▸ hs, hid, ?_⟩
      obtain rfl | ⟨hmine, _⟩ := id hscanned
      · exact hsettled
      · -- the stops of a trip that is being loaded are open, so that nothing is settled
        have hopen := (hdb.trips t ht).unloaded hunloaded s
          (mem_stopsOf.mpr ⟨hs, hsettled.trip.trans hmine⟩)
        refine ⟨hsettled.trip.trans htrip.symm, fun _ => hscanned.untouched (hsettled.opened hopen),
          fun hdone => ?_⟩
        rw [hopen] at hdone
        cases hdone

lemma TripDispatched.booked {dto : DispatchTrip} (h : TripDispatched tripId dto db db')
    (hdb : Booked db) : Booked db' := by
  obtain ⟨t, ht, rfl, hstatus, _, _, _, _, _, _, htrips⟩ := h.rows
  constructor
  case trips =>
    refine hdb.trips_put ht htrips h.stops rfl fun hbooked => ?_
    exact ⟨nofun, nofun, hbooked.collected, hbooked.expected⟩
  case stops => exact hdb.stops_put ht htrips h.stops rfl
  case items =>
    intro i hi
    have hbooked := hdb.items i (h.items ▸ hi)
    refine ⟨exists_trip_put ht htrips rfl (fun _ hloaded _ => hloaded ?_) hbooked.trip,
      hbooked.expected, hbooked.loaded, hbooked.unassigned, h.stops ▸ hbooked.assigned⟩
    rw [hstatus]
    rfl

/-! ### Completing a stop -/

lemma isOpen_status (outcome : StopOutcome) : outcome.status.isOpen = false := by
  cases outcome <;> rfl

lemma DeliveryManifestItem.Untouched.settle {i : DeliveryManifestItem} (h : i.Untouched)
    (hloaded : 0 ≤ i.loadedQty) (outcome : StopOutcome) :
    (i.settle outcome i.loadedQty).Settled := by
  obtain ⟨hdelivered, hreturned⟩ := h
  rw [DeliveryManifestItem.settle]
  split
  · exact ⟨by simp [hreturned], hloaded, hloaded, hreturned.ge⟩
  · exact ⟨by simp [hdelivered], hloaded, hdelivered.ge, hloaded⟩

lemma settle_frame (i : DeliveryManifestItem) (outcome : StopOutcome) (n : ℤ) :
    (i.settle outcome n).tripId = i.tripId ∧ (i.settle outcome n).stopId = i.stopId ∧
      (i.settle outcome n).expectedQty = i.expectedQty ∧
      (i.settle outcome n).loadedQty = i.loadedQty := by
  rw [DeliveryManifestItem.settle]
  split
  · exact ⟨rfl, rfl, rfl, rfl⟩
  · exact ⟨rfl, rfl, rfl, rfl⟩

/-- The trip of a stop that is completed. -/
lemma StopCompleted.tripBooked {stop : DeliveryStop} {dto : CompleteStop} {p : Option ℕ}
    (h : StopCompleted stop dto db db') (hbooked : TripBooked db t)
    (hid : t.id = stop.tripId) (hstatus : t.status ∈ [.dispatched, .inTransit, .partiallyDelivered])
    (hstops : db'.stops = db.stops.put { stop with
      status := dto.status.status, codCollected := dto.cod, proofInspectionId := p }) :
    TripBooked db' { t with
      codCollected := ((db'.stopsOf t.id).map DeliveryStop.codCollected).sum
      status := if (db'.stopsOf t.id).all fun s => !s.status.isOpen then
          (if (db'.stopsOf t.id).any fun s => s.status.comesBack then .partiallyDelivered
            else .delivered)
        else t.status } := by
  constructor
  case unloaded =>
    intro hunloaded
    dsimp only at hunloaded
    split_ifs at hunloaded
    · cases hunloaded
    · cases hunloaded
    · simp only [mem_cons, not_mem_nil, or_false] at hstatus
      rcases hstatus with h | h | h <;> rw [h] at hunloaded <;> cases hunloaded
  case done =>
    intro hdone s hs
    dsimp only at hdone hs
    split_ifs at hdone with hall
    · simpa using List.all_eq_true.mp hall s hs
    · simpa using List.all_eq_true.mp hall s hs
    · -- a trip that is done has no open stop to complete
      have hclosed := hbooked.done hdone stop (mem_stopsOf.mpr ⟨h.mem, hid.symm⟩)
      rw [h.opened] at hclosed
      cases hclosed
  case collected => rfl
  case expected =>
    refine hbooked.expected.trans (congrArg List.sum ?_)
    dsimp only
    rw [stopsOf, stopsOf, hstops]
    symm
    apply Table.map_findMany_put h.mem <;> rfl

lemma StopCompleted.booked {stop : DeliveryStop} {dto : CompleteStop}
    (h : StopCompleted stop dto db db') (hdb : Booked db) : Booked db' := by
  obtain ⟨p, hstops⟩ := h.stops
  obtain ⟨t, ht, hid, hstatus, htrips⟩ := h.trips
  constructor
  case trips =>
    intro x hx
    rcases mem_put.mp (htrips ▸ hx) with rfl | ⟨hx, hne⟩
    · exact h.tripBooked (hdb.trips t ht) hid hstatus hstops
    · refine (hdb.trips x hx).congr ?_
      have hother : decide (stop.tripId = x.id) = false :=
        decide_eq_false fun heq => hne (heq.symm.trans hid.symm)
      rw [stopsOf, hstops]
      exact Table.findMany_put_of_not h.mem rfl hother hother
  case stops =>
    intro s hs
    rcases mem_put.mp (hstops ▸ hs) with rfl | ⟨hs, _⟩
    · exact ⟨((hdb.stops stop h.mem).put ht htrips rfl).trip, h.cod⟩
    · exact (hdb.stops s hs).put ht htrips rfl
  case items =>
    intro i' hi'
    obtain ⟨i, hi, hcase⟩ := h.items i' hi'
    have hbooked := hdb.items i hi
    have htrip : ∃ x ∈ db'.trips, x.id = i.tripId ∧
        (x.status.isUnloaded = false → i.loadedQty = i.expectedQty) := by
      refine exists_trip_put ht htrips rfl (fun _ hloaded _ => hloaded ?_) hbooked.trip
      simp only [mem_cons, not_mem_nil, or_false] at hstatus
      rcases hstatus with h | h | h <;> rw [h] <;> rfl
    obtain ⟨⟨hown, hstop⟩, rfl⟩ | ⟨hother, rfl⟩ := hcase
    · obtain ⟨s, hs, hsid, hsettled⟩ := hbooked.assigned stop.id hstop
      obtain rfl := eq_of_key_eq hs h.mem hsid
      have hdone := (hsettled.opened h.opened).settle hbooked.loaded dto.status
      obtain ⟨htripId, hstopId, hexpected, hloaded⟩ :=
        settle_frame i dto.status i.loadedQty
      generalize i.settle dto.status i.loadedQty = i' at *
      refine ⟨by rwa [htripId, hexpected, hloaded], hexpected ▸ hbooked.expected,
        hloaded ▸ hbooked.loaded, fun hnone => ?_, fun sid hsid => ?_⟩
      · rw [hstopId, hstop] at hnone
        cases hnone
      · obtain rfl := mem_unique hstop (hstopId.symm.trans hsid)
        refine ⟨{ s with status := dto.status.status, codCollected := dto.cod, proofInspectionId := p },
          hstops ▸ mem_put_self _ _, rfl, hsettled.trip.trans htripId.symm, ?_, fun _ => hdone⟩
        intro hopen
        rw [isOpen_status] at hopen
        cases hopen
    · refine ⟨htrip, hbooked.expected, hbooked.loaded, hbooked.unassigned, fun sid hsid => ?_⟩
      obtain ⟨s, hs, rfl, hsettled⟩ := hbooked.assigned sid hsid
      refine ⟨s, hstops ▸ mem_put.mpr (Or.inr ⟨hs, fun heq => hother ?_⟩), rfl, hsettled⟩
      obtain rfl := eq_of_key_eq hs h.mem heq
      exact ⟨hsettled.trip.symm, hsid⟩

/-! ### Closing -/

variable {dto : CloseTrip}

lemma TripClosed.stopsOf_map (h : TripClosed tripId dto db db') {β : Type} (f : ℕ × ℕ × ℚ × ℚ → β) (id : ℕ) :
    (db'.stopsOf id).map (fun s => f s.cash) = (db.stopsOf id).map fun s => f s.cash := by
  have hstopsOf : ∀ db : FleetDb, (db.stopsOf id).map (fun s => f s.cash) =
      (((db.stops.rows.map DeliveryStop.cash).filter fun c => c.2.1 = id).map f) := by
    intro db
    rw [List.filter_map, map_map]
    rfl
  rw [hstopsOf, hstopsOf, h.cash]

lemma TripClosed.exists_stop (h : TripClosed tripId dto db db')
    {s' : DeliveryStop} (hs' : s' ∈ db'.stops) : ∃ s ∈ db.stops, s.id = s'.id ∧
      s.tripId = s'.tripId ∧ s.codExpected = s'.codExpected ∧ s.codCollected = s'.codCollected ∧
      s'.status.isOpen = s.status.isOpen := by
  obtain ⟨s, hs, rfl | ⟨hback, rfl⟩⟩ := h.returning.back s' hs'
  · exact ⟨s', hs, rfl, rfl, rfl, rfl, rfl⟩
  · refine ⟨s, hs, rfl, rfl, rfl, rfl, ?_⟩
    cases hstatus : s.status <;> simp_all [DeliveryStopStatus.comesBack, DeliveryStopStatus.isOpen]

lemma TripClosed.stop_kept (h : TripClosed tripId dto db db')
    {s : DeliveryStop} (hs : s ∈ db.stops) : ∃ s' ∈ db'.stops, s'.id = s.id ∧ s'.tripId = s.tripId ∧
      s'.status.isOpen = s.status.isOpen := by
  have hmem : s.cash ∈ db'.stops.rows.map DeliveryStop.cash := h.cash ▸ mem_map_of_mem hs
  obtain ⟨s', hs', hcash⟩ := mem_map.mp hmem
  obtain ⟨o, ho, hid, htrip, _, _, hopen⟩ := h.exists_stop hs'
  have hsame : s'.id = s.id := congrArg Prod.fst hcash
  obtain rfl := eq_of_key_eq ho hs (hid.trans hsame)
  exact ⟨s', hs', hsame, htrip.symm, hopen⟩

lemma TripClosed.tripBooked (h : TripClosed tripId dto db db')
    {t : DeliveryTrip} (hbooked : TripBooked db t) : TripBooked db' t := by
  have hopen : ∀ s' ∈ db'.stopsOf t.id, ∃ s ∈ db.stopsOf t.id, s'.status.isOpen = s.status.isOpen := by
    intro s' hs'
    obtain ⟨hmem, htrip⟩ := mem_stopsOf.mp hs'
    obtain ⟨s, hs, _, htripId, _, _, heq⟩ := h.exists_stop hmem
    exact ⟨s, mem_stopsOf.mpr ⟨hs, htripId.trans htrip⟩, heq⟩
  constructor
  case unloaded =>
    intro hunloaded s' hs'
    obtain ⟨s, hs, heq⟩ := hopen s' hs'
    exact heq.trans (hbooked.unloaded hunloaded s hs)
  case done =>
    intro hdone s' hs'
    obtain ⟨s, hs, heq⟩ := hopen s' hs'
    exact heq.trans (hbooked.done hdone s hs)
  case collected =>
    exact hbooked.collected.trans (congrArg List.sum (h.stopsOf_map (fun c => c.2.2.2) _).symm)
  case expected =>
    exact hbooked.expected.trans (congrArg List.sum (h.stopsOf_map (fun c => c.2.2.1) _).symm)

lemma DeliveryManifestItem.Settled.returned {i : DeliveryManifestItem} (h : i.Settled)
    (status : String) : Settled { i with
      returnedQty := max 0 (i.loadedQty - i.deliveredQty), status := status } := by
  obtain ⟨hsum, hloaded, hdelivered, hreturned⟩ := h
  have heq : max 0 (i.loadedQty - i.deliveredQty) = i.returnedQty := by
    rw [hsum, add_sub_cancel_left]
    exact max_eq_right hreturned
  exact ⟨by simpa [heq] using hsum, hloaded, hdelivered, le_max_left _ _⟩

lemma TripClosed.booked (h : TripClosed tripId dto db db') (hdb : Booked db) : Booked db' := by
  obtain ⟨t, ht, rfl, hstatus, _, _, _, _, _, inspection, htrips⟩ := h.rows
  constructor
  case trips =>
    intro x hx
    rcases mem_put.mp (htrips ▸ hx) with rfl | ⟨hx, _⟩
    · have hbooked := h.tripBooked (hdb.trips t ht)
      refine ⟨nofun, fun _ => hbooked.done ?_, hbooked.collected, hbooked.expected⟩
      simp only [mem_cons, not_mem_nil, or_false] at hstatus
      rcases hstatus with h | h | h <;> rw [h] <;> rfl
    · exact h.tripBooked (hdb.trips x hx)
  case stops =>
    intro s' hs'
    obtain ⟨s, hs, _, htrip, hexpected, hcollected, _⟩ := h.exists_stop hs'
    have hput := (hdb.stops s hs).put ht htrips rfl
    exact ⟨htrip ▸ hput.trip, hexpected ▸ hcollected ▸ hput.cod⟩
  case items =>
    intro i' hi'
    obtain ⟨i, hi, hreturned⟩ := h.returning.items i' hi'
    have hbooked := hdb.items i hi
    have htrip : ∃ x ∈ db'.trips, x.id = i.tripId ∧
        (x.status.isUnloaded = false → i.loadedQty = i.expectedQty) := by
      refine exists_trip_put ht htrips rfl (fun _ hloaded _ => hloaded ?_) hbooked.trip
      simp only [mem_cons, not_mem_nil, or_false] at hstatus
      rcases hstatus with h | h | h <;> rw [h] <;> rfl
    -- the stop of an item as it is after the close
    have hassigned : ∀ sid, i.stopId = some sid → ∃ s' ∈ db'.stops, s'.id = sid ∧ i.SettledBy s' := by
      intro sid hsid
      obtain ⟨s, hs, hid, hsettled⟩ := hbooked.assigned sid hsid
      obtain ⟨s', hs', hsid', htripId, hopen⟩ := h.stop_kept hs
      exact ⟨s', hs', hsid'.trans hid, htripId.trans hsettled.trip, fun h => hsettled.opened (hopen ▸ h),
        fun h => hsettled.completed (hopen ▸ h)⟩
    obtain rfl | ⟨⟨s, hs, hsid, hback⟩, status, rfl⟩ := hreturned
    · exact ⟨htrip, hbooked.expected, hbooked.loaded, hbooked.unassigned, hassigned⟩
    · obtain ⟨x, hx, hxid, hsettled⟩ := hbooked.assigned s.id hsid
      obtain rfl := eq_of_key_eq hx hs hxid
      have hclosed : x.status.isOpen = false := by
        cases hstatus : x.status <;>
          simp_all [DeliveryStopStatus.comesBack, DeliveryStopStatus.isOpen]
      have hdone := (hsettled.completed hclosed).returned status
      refine ⟨htrip, hbooked.expected, hbooked.loaded, fun hnone => ?_, fun sid hsid' => ?_⟩
      · rw [hsid] at hnone
        cases hnone
      · obtain rfl := mem_unique hsid hsid'
        obtain ⟨s', hs', hid, htripId, hopen⟩ := h.stop_kept hs
        refine ⟨s', hs', hid, htripId.trans hsettled.trip, fun hopen' => ?_, fun _ => hdone⟩
        rw [hopen, hclosed] at hopen'
        cases hopen'

/-! ### Closed trips -/

/-- There is no trip yet. -/
structure NoTrips (db : FleetDb) : Prop where
  trips : db.trips.rows = []
  stops : db.stops.rows = []
  items : db.manifestItems.rows = []

lemma NoTrips.booked (h : NoTrips db) : Booked db := by
  constructor
  case trips =>
    intro t ht
    rw [mem_rows, h.trips] at ht
    cases ht
  case stops =>
    intro s hs
    rw [mem_rows, h.stops] at hs
    cases hs
  case items =>
    intro i hi
    rw [mem_rows, h.items] at hi
    cases hi

lemma booked_of_step {a : Option FleetCall} (hdb : Booked db) (h : FleetStep db a db') : Booked db' := by
  cases h.effect with
  | created heffect => exact heffect.booked hdb
  | loaded heffect => exact heffect.booked hdb
  | dispatched heffect => exact heffect.booked hdb
  | replayed hsame => exact hsame ▸ hdb
  | completed heffect => exact heffect.booked hdb
  | closed heffect => exact heffect.booked hdb
  | fuelled heffect => exact hdb.congr heffect.trips heffect.stops heffect.items
  | maintained heffect => exact hdb.congr heffect.trips heffect.stops heffect.items
  | elsewhere _ htrips hstops hitems => exact hdb.congr htrips hstops hitems

structure TripSettled (db : FleetDb) (tripId : ℕ) : Prop where
  goods : ∀ i ∈ db.itemsOf tripId, i.Settled
  cash : ∀ t ∈ db.trips, t.id = tripId →
    t.codCollected = ((db.stopsOf tripId).map DeliveryStop.codCollected).sum ∧
      t.codCollected ≤ t.codExpected

lemma Booked.cash (h : Booked db) {t : DeliveryTrip} (ht : t ∈ db.trips) : t.codCollected ≤ t.codExpected := by
  have hbooked := h.trips t ht
  rw [hbooked.collected, hbooked.expected]
  exact List.sum_le_sum fun s hs => (h.stops s (mem_stopsOf.mp hs).1).cod

lemma TripClosed.mem_itemsOf_iff (h : TripClosed tripId dto db db')
    {c : ℕ × ℕ × Option ℕ} : (∃ i ∈ db'.itemsOf tripId, i.target = c) ↔
      ∃ i ∈ db.itemsOf tripId, i.target = c := by
  have hitems : ∀ db : FleetDb, (∃ i ∈ db.itemsOf tripId, i.target = c) ↔
      c ∈ db.manifestItems.rows.map DeliveryManifestItem.target ∧ c.2.1 = tripId := by
    intro db
    rw [mem_map]
    constructor
    · rintro ⟨i, hi, rfl⟩
      obtain ⟨hi, htrip⟩ := mem_itemsOf.mp hi
      exact ⟨⟨i, hi, rfl⟩, htrip⟩
    · rintro ⟨⟨i, hi, rfl⟩, htrip⟩
      exact ⟨i, mem_itemsOf.mpr ⟨hi, htrip⟩, rfl⟩
  rw [hitems, hitems, h.targets]

lemma Booked.settled_iff (h : Booked db) {t : DeliveryTrip} (ht : t ∈ db.trips)
    (hdone : t.status.isDone = true) {i : DeliveryManifestItem} (hi : i ∈ db.itemsOf t.id) :
    i.Settled ↔ i.stopId ≠ none := by
  obtain ⟨hmem, htrip⟩ := mem_itemsOf.mp hi
  have hitem := h.items i hmem
  constructor
  · intro hsettled hnone
    obtain ⟨x, hx, hid, hloaded⟩ := hitem.trip
    obtain rfl := eq_of_key_eq hx ht (hid.trans htrip)
    have hunloaded : x.status.isUnloaded = false := by
      cases hstatus : x.status <;>
        simp_all [DeliveryTripStatus.isDone, DeliveryTripStatus.isUnloaded]
    obtain ⟨hdelivered, hreturned⟩ := hitem.unassigned hnone
    have hsum := hsettled.1
    rw [hloaded hunloaded, hdelivered, hreturned, add_zero] at hsum
    exact absurd hsum hitem.expected.ne'
  · intro hstop
    obtain ⟨sid, hsid⟩ := Option.ne_none_iff_exists'.mp hstop
    obtain ⟨s, hs, _, hsettled⟩ := hitem.assigned sid hsid
    refine hsettled.completed ((h.trips t ht).done hdone s ?_)
    exact mem_stopsOf.mpr ⟨hs, hsettled.trip.trans htrip⟩

def provenDepot : FleetDb :=
  { depot with
    inspections := depot.inspections.put
      { id := 2, companyId := 1, branchId := some 1, type := "DELIVERY_PROOF",
        sourceType := "DeliveryStop", sourceId := 1, status := .approved } }

def deliver (stopSequence : Option ℤ) : List FleetCall :=
  [.createTrip ⟨1, 1⟩ { vehicleId := 5, driverEmployeeId := 3, number := "TRIP-1",
                        stops := [{ sequence := 1, codExpected := some 100 }],
                        manifestItems := [{ stopSequence := some 1, productId := 7,
                                            expectedQty := Nat.succPNat 1 },
                                          { stopSequence, productId := 7, expectedQty := Nat.succPNat 0 }] },
    .confirmLoading ⟨1, 1⟩ 0 1 [⟨2, 2, none⟩, ⟨3, 1, none⟩], .dispatch ⟨1, 1⟩ 0 ⟨1, 1, some 1000⟩,
    .completeStop ⟨1, 1⟩ 1 ⟨.delivered, some 100, some 2⟩]

def delivered (stopSequence : Option ℤ) : FleetDb :=
  (execute ((deliver stopSequence).forM FleetCall.tx) provenDepot).2

lemma provenDepot_noTrips : NoTrips provenDepot := ⟨rfl, rfl, rfl⟩

end Mayatoko.Fleet
