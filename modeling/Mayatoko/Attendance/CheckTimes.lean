import Mayatoko.Attendance.RecordCalls
import Mayatoko.Core.Best

/-!
# The first check-in and the last check-out

The record of an employee and a day is to show the earliest check-in and the latest check-out of those that
have been recorded for them, in whatever order and beside whatever other calls. What a call does not write is
never better than what stands there, since it is no better than what the call has read. What it writes may be
worse: a call that has read before an earlier check-in was written, and is written after it, takes its place.
-/

namespace Mayatoko.Attendance

open Core TableOf AttendanceDb
open Auth (AuthUser)
open Hr (Employee TenantScope)

variable {distanceMeters : ℚ → ℚ → ℚ → ℚ → ℚ} {s s' : AttendanceDb} {key : EmployeeDay}
  {eventType : AttendanceEventType} {occurredAt : ℤ} {seen : Option AttendanceRecord}

/-! ### The protocol of a call -/

def firstStored (s : AttendanceDb) (key : EmployeeDay) : Option ℤ := firstSeen (s.records.find? key)

def lastStored (s : AttendanceDb) (key : EmployeeDay) : Option ℤ := lastSeen (s.records.find? key)

abbrev Reading := EmployeeDay × Option AttendanceRecord

inductive CallMove : Option Reading → AttendanceDb → CallLabel → AttendanceDb → Option Reading → Prop
  | looks {s : AttendanceDb} : CallMove none s .looked s none
  | reads {s : AttendanceDb} {key : EmployeeDay} :
      CallMove none s .looked s (some (key, s.records.find? key))
  | refuses {s : AttendanceDb} {reading : Reading} : CallMove (some reading) s .looked s none
  | writes {s s' : AttendanceDb} {key : EmployeeDay} {eventType : AttendanceEventType} {occurredAt : ℤ}
      {seen : Option AttendanceRecord} {row : AttendanceRecord} (hkey : row.key = key)
      (hfirst : row.firstCheckInAt =
        if FirstIn eventType occurredAt seen then some occurredAt else firstStored s key)
      (hlast : row.lastCheckOutAt =
        if LastOut eventType occurredAt seen then some occurredAt else lastStored s key)
      (hrecords : s'.records = s.records.put row) :
      CallMove (some (key, seen)) s (.wrote key eventType occurredAt seen) s' none

lemma obeys_look {α : Type} {x : AttendanceTx α} (hx : ReadOnly x) :
    Obeys CallMove (fun _ q => q = none) (fun _ => True) none (look x) := by
  refine obeys_atomically (fun s a s' h => ⟨none, ?_, rfl⟩) fun s e _ => ⟨none, .looks, trivial⟩
  obtain rfl := hx.eq h
  exact .looks

variable {recordId : ℕ} {scope : TenantScope} {workDate : ℤ} {row : AttendanceRecord}

lemma overwrite_stored {employeeId : ℕ} {found : Option AttendanceRecord}
    (hfound : ∀ r, found = some r → r.key = ⟨employeeId, workDate⟩)
    (hrow : row = found.elim
      ((blankRecord recordId scope employeeId workDate).overwrite scope eventType occurredAt seen)
      fun r => r.overwrite scope eventType occurredAt seen) :
    row.key = ⟨employeeId, workDate⟩ ∧
      row.firstCheckInAt = (if FirstIn eventType occurredAt seen then some occurredAt else firstSeen found) ∧
      row.lastCheckOutAt = if LastOut eventType occurredAt seen then some occurredAt else lastSeen found := by
  cases found with
  | none =>
    subst hrow
    exact ⟨rfl, rfl, rfl⟩
  | some r =>
    subst hrow
    exact ⟨hfound r rfl, rfl, rfl⟩

variable {eventId : ℕ} {dto : CreateAttendanceEventDto}

lemma commitEvent_commits {employee : Employee} {u : Unit}
    (h : Commits (commitEvent eventId recordId scope employee dto occurredAt workDate seen) s u s') :
    ∃ row : AttendanceRecord, row.key = ⟨employee.id, workDate⟩ ∧
      row.firstCheckInAt = (if FirstIn dto.eventType occurredAt seen then some occurredAt
        else firstStored s ⟨employee.id, workDate⟩) ∧
      row.lastCheckOutAt = (if LastOut dto.eventType occurredAt seen then some occurredAt
        else lastStored s ⟨employee.id, workDate⟩) ∧
      s'.records = s.records.put row := by
  simp only [commitEvent, commits_bind, commits_upsert] at h
  obtain ⟨_, _, hevent, row, _, ⟨hrow, rfl⟩, hsummary⟩ := h
  obtain ⟨_, rfl⟩ := createEvent_commits hevent
  obtain ⟨_, _, _, rfl⟩ := summarize_commits hsummary
  obtain ⟨hkey, hfirst, hlast⟩ := overwrite_stored (fun r hr => (find?_eq_some.mp hr).2) hrow
  exact ⟨row, hkey, hfirst, hlast, rfl⟩

lemma obeys_checked {c : Prop} [Decidable c] {e : Failure} {q : Option Reading} :
    Obeys CallMove (fun _ q' => q' = q) (fun _ => True) q (check c e : AttendanceCall Unit) := by
  unfold check
  exact Obeys.ite (fun _ => obeys_pure rfl) fun _ => obeys_throw trivial

lemma eventTransaction_obeys {employee : Employee} : Obeys CallMove (fun _ _ => True) (fun _ => True) none
      (eventTransaction eventId recordId scope employee dto occurredAt workDate) := by
  unfold eventTransaction
  refine Obeys.bind (R := fun seen q => q = some (⟨employee.id, workDate⟩, seen)) ?_ ?_
  · exact obeys_lookup fun s => ⟨_, .reads, rfl⟩
  · rintro seen _ rfl
    refine obeys_checked.bind ?_
    rintro _ _ rfl
    refine obeys_atomically (fun s _ s' h => ⟨none, ?_, trivial⟩) fun s e _ => ⟨none, .refuses, trivial⟩
    obtain ⟨row, hkey, hfirst, hlast, hrecords⟩ := commitEvent_commits h
    exact .writes hkey hfirst hlast hrecords

lemma recordCall_obeys {user : AuthUser} : Obeys CallMove (fun _ _ => True) (fun _ => True) none
      (recordCall distanceMeters eventId recordId dto user) := by
  unfold recordCall
  refine (obeys_look leaves_orThrow).bind ?_
  rintro scope _ rfl
  refine (obeys_look readOnly_assertRequestedScope).bind ?_
  rintro _ _ rfl
  refine (obeys_look readOnly_existingEventForKey).bind ?_
  rintro sameOperation _ rfl
  refine Obeys.ite (fun _ => obeys_pure trivial) fun _ => ?_
  refine (obeys_look readOnly_existingEventForKey).bind ?_
  rintro sameEvent _ rfl
  refine Obeys.ite (fun _ => obeys_pure trivial) fun _ => ?_
  refine (obeys_look readOnly_scopedEmployee).bind ?_
  rintro employee _ rfl
  refine (obeys_look readOnly_checkDevice).bind ?_
  rintro _ _ rfl
  refine (obeys_look readOnly_checkGeofence).bind ?_
  rintro _ _ rfl
  refine obeys_checked.bind ?_
  rintro _ _ rfl
  cases dto.occurredAt with
  | none => exact obeys_throw trivial
  | some occurredAt => exact eventTransaction_obeys

/-! ### What has been recorded -/

structure RecordedEvent where
  key : EmployeeDay
  eventType : AttendanceEventType
  occurredAt : ℤ

def timesOf (key : EmployeeDay) (eventType : AttendanceEventType) (g : List RecordedEvent) : List ℤ :=
  (g.filter fun e => e.key = key && e.eventType = eventType).map RecordedEvent.occurredAt

variable {g : List RecordedEvent} {kind : AttendanceEventType} {key' : EmployeeDay}

lemma timesOf_append_self (heventType : eventType = kind) :
    timesOf key kind (g ++ [⟨key, eventType, occurredAt⟩]) = timesOf key kind g ++ [occurredAt] := by
  simp [timesOf, heventType]

lemma timesOf_append_of_ne (hne : ¬ (key' = key ∧ eventType = kind)) :
    timesOf key kind (g ++ [⟨key', eventType, occurredAt⟩]) = timesOf key kind g := by
  simp [timesOf, hne]

lemma mem_timesOf_append {e : RecordedEvent} {t : ℤ} (ht : t ∈ timesOf key kind g) :
    t ∈ timesOf key kind (g ++ [e]) := by
  rw [timesOf, filter_append, map_append]
  exact List.mem_append_left _ ht

lemma best_timesOf_iff {le : ℤ → ℤ → Prop} [IsPreorder ℤ le] {c : Prop} [Decidable c] {o : Option ℤ}
    (hkind : c → eventType = kind) (hkeep : eventType = kind → ¬ c → ∃ t ∈ timesOf key kind g, le t occurredAt)
    (h : Best le (timesOf key kind g) o) :
    Best le (timesOf key kind (g ++ [⟨key, eventType, occurredAt⟩])) (if c then some occurredAt else o) ↔
      (c → ∀ t, o = some t → le occurredAt t) := by
  by_cases heventType : eventType = kind
  · rw [timesOf_append_self heventType]
    exact h.replace_iff (hkeep heventType)
  · have hc : ¬ c := fun hc => heventType (hkind hc)
    rw [timesOf_append_of_ne fun hsame => heventType hsame.2, if_neg hc]
    exact iff_of_true h fun hc' => absurd hc' hc

structure Known (key : EmployeeDay) (g : List RecordedEvent) (first last : Option ℤ) : Prop where
  first : ∀ t, first = some t → t ∈ timesOf key .checkIn g
  last : ∀ t, last = some t → t ∈ timesOf key .checkOut g

variable {first last : Option ℤ}

lemma Known.append {e : RecordedEvent} (h : Known key g first last) : Known key (g ++ [e]) first last :=
  ⟨fun t ht => mem_timesOf_append (h.first t ht), fun t ht => mem_timesOf_append (h.last t ht)⟩

structure Extremes (key : EmployeeDay) (g : List RecordedEvent) (first last : Option ℤ) : Prop where
  first : Best (· ≤ ·) (timesOf key .checkIn g) first
  last : Best (· ≥ ·) (timesOf key .checkOut g) last

lemma firstIn_iff (h : ∀ t, firstSeen seen = some t → t ∈ timesOf key .checkIn g) {o : Option ℤ}
    (hbest : Best (· ≤ ·) (timesOf key .checkIn g) o) :
    Best (· ≤ ·) (timesOf key .checkIn (g ++ [⟨key, eventType, occurredAt⟩]))
        (if FirstIn eventType occurredAt seen then some occurredAt else o) ↔
      (FirstIn eventType occurredAt seen → ∀ t, o = some t → occurredAt ≤ t) := by
  refine best_timesOf_iff (fun hfirst => hfirst.1) (fun heventType hnot => ?_) hbest
  cases hseen : firstSeen seen with
  | none => exact absurd ⟨heventType, by rw [hseen]; rfl⟩ hnot
  | some t =>
    refine ⟨t, h t hseen, le_of_not_gt fun hlt => hnot ⟨heventType, ?_⟩⟩
    rw [hseen]
    exact decide_eq_true hlt

lemma lastOut_iff (h : ∀ t, lastSeen seen = some t → t ∈ timesOf key .checkOut g) {o : Option ℤ}
    (hbest : Best (· ≥ ·) (timesOf key .checkOut g) o) :
    Best (· ≥ ·) (timesOf key .checkOut (g ++ [⟨key, eventType, occurredAt⟩]))
        (if LastOut eventType occurredAt seen then some occurredAt else o) ↔
      (LastOut eventType occurredAt seen → ∀ t, o = some t → occurredAt ≥ t) := by
  refine best_timesOf_iff (fun hlast => hlast.1) (fun heventType hnot => ?_) hbest
  cases hseen : lastSeen seen with
  | none => exact absurd ⟨heventType, by rw [hseen]; rfl⟩ hnot
  | some t =>
    refine ⟨t, h t hseen, le_of_not_gt fun hlt => hnot ⟨heventType, ?_⟩⟩
    rw [hseen]
    exact decide_eq_true hlt

lemma Extremes.known (h : Extremes key g first last) : Known key g first last := by
  obtain ⟨hfirst, hlast⟩ := h
  constructor
  · rintro t rfl
    exact hfirst.1
  · rintro t rfl
    exact hlast.1

lemma Extremes.append_of_ne (h : Extremes key g first last) (hne : key ≠ key') :
    Extremes key (g ++ [⟨key', eventType, occurredAt⟩]) first last := by
  have htimes (kind : AttendanceEventType) :
      timesOf key kind (g ++ [⟨key', eventType, occurredAt⟩]) = timesOf key kind g :=
    timesOf_append_of_ne fun hsame => hne hsame.1.symm
  constructor
  · rw [htimes]
    exact h.first
  · rw [htimes]
    exact h.last

lemma Extremes.write_iff (hseen : Known key g (firstSeen seen) (lastSeen seen))
    (h : Extremes key g first last) :
    Extremes key (g ++ [⟨key, eventType, occurredAt⟩])
        (if FirstIn eventType occurredAt seen then some occurredAt else first)
        (if LastOut eventType occurredAt seen then some occurredAt else last) ↔
      (FirstIn eventType occurredAt seen → ∀ t, first = some t → occurredAt ≤ t) ∧
        (LastOut eventType occurredAt seen → ∀ t, last = some t → occurredAt ≥ t) := by
  rw [← firstIn_iff hseen.first h.first, ← lastOut_iff hseen.last h.last]
  exact ⟨fun hboth => ⟨hboth.first, hboth.last⟩, fun ⟨hfirst, hlast⟩ => ⟨hfirst, hlast⟩⟩

lemma Known.write (h : Known key g first last) : Known key (g ++ [⟨key, eventType, occurredAt⟩])
      (if FirstIn eventType occurredAt seen then some occurredAt else first)
      (if LastOut eventType occurredAt seen then some occurredAt else last) := by
  have hself {kind : AttendanceEventType} (heventType : eventType = kind) :
      occurredAt ∈ timesOf key kind (g ++ [⟨key, eventType, occurredAt⟩]) := by
    rw [timesOf_append_self heventType]
    exact mem_append_right _ mem_cons_self
  constructor
  · intro t ht
    split at ht
    next hfirst => exact Option.some.inj ht ▸ hself hfirst.1
    next => exact mem_timesOf_append (h.first t ht)
  · intro t ht
    split at ht
    next hlast => exact Option.some.inj ht ▸ hself hlast.1
    next => exact mem_timesOf_append (h.last t ht)

/-! ### Runs -/

abbrev CallPool := Pool CallLabel AttendanceDb (Except Failure Unit)

/-- A call of `record`, with the ids that are drawn for its rows. -/
structure RecordRequest where
  (eventId recordId : ℕ)
  dto : CreateAttendanceEventDto
  user : AuthUser

abbrev CallAction := PoolAction RecordRequest CallLabel (Except Failure Unit)

/-- What else happens meanwhile sets no time of a record. -/
def KeepsTimes (s s' : AttendanceDb) : Prop :=
  ∀ key, firstStored s' key = firstStored s key ∧ lastStored s' key = lastStored s key

variable (distanceMeters) in
def serveRecord (request : RecordRequest) : Process CallLabel AttendanceDb (Except Failure Unit) :=
  (recordCall distanceMeters request.eventId request.recordId request.dto request.user).run

variable (distanceMeters) in
/-- Any calls of `record`, side by side. -/
abbrev CallStep := PoolStep (serveRecord distanceMeters) KeepsTimes

def recordedEvents (g : List RecordedEvent) (a : CallAction) (_ : CallPool) : List RecordedEvent :=
  match a with
  | .steps _ (.wrote key eventType occurredAt _) => g ++ [⟨key, eventType, occurredAt⟩]
  | .steps _ .looked | .starts _ _ | .answers _ _ | .crashes _ | .outside => g

variable (distanceMeters) in
def RecordingStep : CallPool × List RecordedEvent → CallAction → CallPool × List RecordedEvent → Prop :=
  Observed recordedEvents (CallStep distanceMeters)

def TimesRight (key : EmployeeDay) (w : CallPool × List RecordedEvent) : Prop :=
  Extremes key w.2 (firstStored w.1.state key) (lastStored w.1.state key)

/-- A time is written over none that is better and that was written since the record was read. -/
def ReadsFresh (key : EmployeeDay) (w : CallPool × List RecordedEvent) : CallAction → Prop
  | .steps _ (.wrote written eventType occurredAt seen) => written = key →
      (FirstIn eventType occurredAt seen → ∀ t, firstStored w.1.state key = some t → occurredAt ≤ t) ∧
      (LastOut eventType occurredAt seen → ∀ t, lastStored w.1.state key = some t → occurredAt ≥ t)
  | .steps _ .looked | .starts _ _ | .answers _ _ | .crashes _ | .outside => True

structure Recording (key : EmployeeDay) (w : CallPool × List RecordedEvent) : Prop where
  stages : ∃ stage, w.1.Along CallMove (fun _ _ => True) stage ∧
    ∀ i seen, stage i = some (some (key, seen)) → Known key w.2 (firstSeen seen) (lastSeen seen)
  stored : Known key w.2 (firstStored w.1.state key) (lastStored w.1.state key)

variable {w w' : CallPool × List RecordedEvent} {a : CallAction}

lemma serveRecord_follows (request : RecordRequest) :
    (serveRecord distanceMeters request).Follows CallMove (fun _ _ => True) none := by
  have hobeys : Obeys CallMove (fun _ _ => True) (fun _ => True) none
      (recordCall distanceMeters request.eventId request.recordId request.dto request.user) := recordCall_obeys
  exact Process.Follows.mono (fun _ _ _ => trivial) hobeys

variable {x : Option (Option Reading)}

lemma known_of_free (hx : x.join = none) (seen : Option AttendanceRecord)
    (h : x = some (some (key, seen))) : Known key g (firstSeen seen) (lastSeen seen) := by
  subst h
  cases hx

lemma known_update {stage : ℕ → Option (Option Reading)} {i : ℕ}
    (h : ∀ j seen, stage j = some (some (key, seen)) → Known key g (firstSeen seen) (lastSeen seen))
    (hx : ∀ seen, x = some (some (key, seen)) → Known key g (firstSeen seen) (lastSeen seen)) (j : ℕ)
    (seen : Option AttendanceRecord) (hj : Function.update stage i x j = some (some (key, seen))) :
    Known key g (firstSeen seen) (lastSeen seen) := by
  by_cases hji : j = i
  · subst hji
    rw [Function.update_self] at hj
    exact hx seen hj
  · rw [Function.update_of_ne hji] at hj
    exact h j seen hj

lemma stored_put (hrecords : s'.records = s.records.put row) :
    firstStored s' row.key = row.firstCheckInAt ∧ lastStored s' row.key = row.lastCheckOutAt := by
  rw [firstStored, lastStored, hrecords, find?_put_self]
  exact ⟨rfl, rfl⟩

lemma stored_put_of_ne (hrecords : s'.records = s.records.put row)
    (hne : key ≠ row.key) : firstStored s' key = firstStored s key ∧ lastStored s' key = lastStored s key := by
  rw [firstStored, lastStored, hrecords, find?_put_of_ne _ hne]
  exact ⟨rfl, rfl⟩

/-- A step keeps what the calls know, and if the record is right it stays so exactly if the step has read
afresh. -/
lemma Recording.step (h : Recording key w) (hstep : RecordingStep distanceMeters w a w') :
    Recording key w' ∧ (TimesRight key w → (TimesRight key w' ↔ ReadsFresh key w a)) := by
  obtain ⟨⟨s, running⟩, g⟩ := w
  obtain ⟨⟨s', running'⟩, g'⟩ := w'
  obtain ⟨⟨stage, halong, hstage⟩, hstored⟩ := h
  obtain ⟨hpool, hg⟩ := hstep
  have hg : g' = recordedEvents g a ⟨s', running'⟩ := hg
  subst hg
  obtain ⟨stage', halong', hmove⟩ := halong.move serveRecord_follows hpool
  dsimp only at hstage hstored hmove
  cases hmove with
  | starts _ | answers _ _ | crashes =>
    refine ⟨⟨⟨_, halong', known_update hstage (known_of_free rfl)⟩, hstored⟩, fun hright => ?_⟩
    exact iff_of_true hright trivial
  | outside hkeeps =>
    obtain ⟨hfirst, hlast⟩ := hkeeps key
    refine ⟨⟨⟨_, halong', hstage⟩, ?_⟩, fun hright => iff_of_true ?_ trivial⟩
    · change Known key g (firstStored s' key) (lastStored s' key)
      rwa [hfirst, hlast]
    · change Extremes key g (firstStored s' key) (lastStored s' key)
      rwa [hfirst, hlast]
  | @steps i _ _ _ _ hq hmove =>
    cases hmove with
    | looks | refuses =>
      refine ⟨⟨⟨_, halong', known_update hstage (known_of_free rfl)⟩, hstored⟩, fun hright => ?_⟩
      exact iff_of_true hright trivial
    | reads =>
      refine ⟨⟨⟨_, halong', known_update hstage fun seen hseen => ?_⟩, hstored⟩, fun hright => ?_⟩
      · obtain ⟨rfl, rfl⟩ := Prod.mk.inj (Option.some.inj (Option.some.inj hseen))
        exact hstored
      · exact iff_of_true hright trivial
    | @writes _ _ written eventType occurredAt seen row hkey hfirst hlast hrecords =>
      obtain rfl | hne := eq_or_ne key written
      · obtain ⟨hfirst', hlast'⟩ := stored_put hrecords
        rw [hkey, hfirst] at hfirst'
        rw [hkey, hlast] at hlast'
        refine ⟨⟨⟨_, halong', known_update ?_ (known_of_free rfl)⟩, ?_⟩, fun hright => ?_⟩
        · exact fun j seen' hj => (hstage j seen' hj).append
        · change Known key (g ++ _) (firstStored s' key) (lastStored s' key)
          rw [hfirst', hlast']
          exact hstored.write
        · change Extremes key (g ++ _) (firstStored s' key) (lastStored s' key) ↔ _
          rw [hfirst', hlast', hright.write_iff (hstage i seen hq)]
          exact ⟨fun hfresh _ => hfresh, fun hfresh => hfresh rfl⟩
      · obtain ⟨hfirst', hlast'⟩ := stored_put_of_ne hrecords (hkey.symm ▸ hne)
        refine ⟨⟨⟨_, halong', known_update ?_ (known_of_free rfl)⟩, ?_⟩, fun hright => iff_of_true ?_ ?_⟩
        · exact fun j seen' hj => (hstage j seen' hj).append
        · change Known key (g ++ _) (firstStored s' key) (lastStored s' key)
          rw [hfirst', hlast']
          exact hstored.append
        · change Extremes key (g ++ _) (firstStored s' key) (lastStored s' key)
          rw [hfirst', hlast']
          exact hright.append_of_ne hne
        · exact fun hsame => absurd hsame.symm hne

/-- In a run of any calls of `record` that starts where the record of an employee and a day shows the earliest
check-in and the latest check-out recorded so far, it does so in every state exactly if no call sets a time
over a better one that was written since it has read the record. -/
theorem timesRight_iff_readsFresh {p : CallPool} (hidle : p.Idle) (hright : TimesRight key (p, g))
    {as : List CallAction} :
    Run (Landing (TimesRight key) (RecordingStep distanceMeters)) (p, g) as w ↔
      Run (Guarded (ReadsFresh key) (RecordingStep distanceMeters)) (p, g) as w := by
  refine Run.landing_iff_guarded_of_invariant (J := Recording key) ?_ ?_ ?_ hright
  · exact fun _ _ _ hs hstep => (hs.step hstep).1
  · exact fun _ _ _ hs hright hstep => (hs.step hstep).2 hright
  · exact ⟨⟨_, hidle.along, fun i seen => known_of_free rfl seen⟩, hright.known⟩

/-! Two check-ins of one morning. -/

def morning : CallPool where
  state :=
    { employees := Table.empty.put { id := 4, companyId := 1, branchId := some 2, userId := none }
      shifts := Table.empty
      devices := Table.empty
      geofences := Table.empty
      credentials := Table.empty
      events := Table.empty
      records := Table.empty
      schedules := Table.empty
      corrections := Table.empty
      summaries := Table.empty }
  running := fun _ => none

def checkInAt (id : ℕ) (occurredAt : ℤ) : RecordRequest where
  eventId := id
  recordId := id
  dto := { employeeId := 4, eventType := .checkIn, method := .other, occurredAt := some occurredAt }
  user := { sub := 5, sid := none, companyId := some 1, branchId := some 2 }

def quiet (_ : Unit) (s : AttendanceDb) : AttendanceDb := s

lemma keepsTimes_quiet (u : Unit) (s : AttendanceDb) : KeepsTimes s (quiet u s) := fun _ => ⟨rfl, rfl⟩

lemma timesRight_morning : TimesRight ⟨4, 0⟩ (morning, []) := ⟨best_nil, best_nil⟩

def isUnchanged (s : AttendanceDb) : Option CallLabel → Bool
  | some (.wrote key _ _ seen) => seen = s.records.find? key
  | some .looked | none => true

lemma readsFresh_of_unchanged (h : isUnchanged w.1.state a.label = true) : ReadsFresh key w a := by
  cases a with
  | steps i l =>
    cases l with
    | looked => trivial
    | wrote written eventType occurredAt seen =>
      rintro rfl
      obtain rfl := of_decide_eq_true h
      refine ⟨fun hfirst t ht => ?_, fun hlast t ht => ?_⟩
      · exact (of_decide_eq_true ((Option.all_eq_true _ _).mp hfirst.2 t ht)).le
      · exact (of_decide_eq_true ((Option.all_eq_true _ _).mp hlast.2 t ht)).le
  | starts _ _ | answers _ _ | crashes _ | outside => trivial

theorem timesRight_oneByOne : ∃ as w, Run (Landing (TimesRight ⟨4, 0⟩) (RecordingStep fun _ _ _ _ => 0))
    (morning, []) as w ∧ w.2.length = 2 ∧ firstStored w.1.state ⟨4, 0⟩ = some 28800000 := by
  obtain ⟨as, w, hrun, hdone⟩ := Pool.exists_observed_of_watch (serveRecord fun _ _ _ _ => 0) keepsTimes_quiet
    (fun s l => isUnchanged s l = true) recordedEvents morning []
    ([.start 0 (checkInAt 1 32400000)] ++ List.replicate 9 (.step 0) ++ [.start 1 (checkInAt 2 28800000)] ++
      List.replicate 9 (.step 1) ++ [.answer 0, .answer 1])
    (fun s g => g.length = 2 ∧ firstStored s ⟨4, 0⟩ = some 28800000) (by decide +kernel)
  refine ⟨as, w, (timesRight_iff_readsFresh (fun _ => rfl) timesRight_morning).mpr ?_, hdone⟩
  refine hrun.mono fun _ _ _ h => ?_
  exact ⟨readsFresh_of_unchanged h.1.1, h.2⟩

/-- Both calls find no record; the one that comes at nine writes last. -/
theorem not_timesRight_both : ∃ as w, Run (RecordingStep fun _ _ _ _ => 0) (morning, []) as w ∧
    ¬ TimesRight ⟨4, 0⟩ w := by
  obtain ⟨as, w, hrun, hnine, height⟩ := Pool.exists_observed_of_watch (serveRecord fun _ _ _ _ => 0)
    keepsTimes_quiet
    (fun _ _ => True) recordedEvents morning []
    ([.start 0 (checkInAt 1 28800000), .start 1 (checkInAt 2 32400000)] ++ List.replicate 8 (.step 0) ++
      List.replicate 8 (.step 1) ++ [.step 0, .step 1])
    (fun s g => firstStored s ⟨4, 0⟩ = some 32400000 ∧ 28800000 ∈ timesOf ⟨4, 0⟩ .checkIn g) (by decide +kernel)
  refine ⟨as, w, hrun.of_guarded, fun hright => ?_⟩
  have hfirst := hright.first
  rw [hnine] at hfirst
  exact absurd (hfirst.2 28800000 height) (by decide)

end Mayatoko.Attendance
