import Mayatoko.Core.Lease
import Mayatoko.Worker.Outbox

/-!
# An event is dispatched once

Workers dispatch the outbox at the same time, and each may be slow or crash between any two statements. The
lease of a slow worker is taken over while it goes on writing, so that an event can be delivered twice and
can fall back from `DISPATCHED`. Where a worker writes only while its lease runs, neither happens. The jobs
of the rules are unique in any case, by their key.
-/

namespace Mayatoko.Worker

open Core WorkerDb TableOf

/-! ### What is claimed -/

def WorkerDb.deliveryPairs (s : WorkerDb) : List (ℕ × Option ℕ) :=
  s.deliveries.rows.map fun d => (d.endpointId, d.eventId)

def WorkerDb.jobKeys (s : WorkerDb) : List (ℕ × String) := s.jobs.rows.map AutomationJob.key

def DeliveredOnce (s : WorkerDb) : Prop :=
  ∀ endpointId eventId : ℕ, s.deliveryPairs.count (endpointId, some eventId) ≤ 1

def EnqueuedOnce (s : WorkerDb) : Prop :=
  ∀ companyId ruleId eventId index : ℕ,
    s.jobKeys.count (companyId, ruleActionKey ruleId eventId index) ≤ 1

def KeepsDispatched (s s' : WorkerDb) : Prop :=
  ∀ e ∈ s.events, e.status = .dispatched → ∃ e' ∈ s'.events, e'.id = e.id ∧ e'.status = .dispatched

/-- What the rest of the system may do meanwhile: the clock goes on, there are new events, and the
deliveries and jobs go their ways. -/
structure OutsideOutbox (s s' : WorkerDb) : Prop where
  clock : s.now ≤ s'.now
  events : ∀ e ∈ s.events, e ∈ s'.events
  deliveries : s'.deliveryPairs = s.deliveryPairs
  jobs : s'.jobKeys = s.jobKeys

/-- A worker writes for an event only while its lease runs. -/
def WithinLease (s : WorkerDb) : Option OutboxLabel → Prop
  | some (.delivered _ lease) | some (.dispatched _ lease) | some (.failed _ lease) => s.now < lease
  | some (.looked) | some (.claimed _ _) | some (.enqueued) | none => True

inductive OutboxStage
  | free
  | holding (eventId lease : ℕ)
  | missing (eventId lease endpointId : ℕ)

def OutboxStage.held : OutboxStage → Option (ℕ × ℕ)
  | free => none
  | holding eventId lease | missing eventId lease _ => some (eventId, lease)

inductive OutboxMove : OutboxStage → WorkerDb → OutboxLabel → WorkerDb → OutboxStage → Prop
  | looks {s : WorkerDb} {q : OutboxStage} : OutboxMove q s .looked s q
  | claims {s : WorkerDb} {e : EventOutbox} {lease : ℕ} (he : e ∈ s.events) (hdue : e.due s.now = true) :
      OutboxMove .free s (.claimed e.id lease) { s with events := s.events.put (e.claim lease) }
        (.holding e.id lease)
  | finds {s : WorkerDb} {q : OutboxStage} : OutboxMove q s .enqueued s q
  | enqueues {s : WorkerDb} {q : OutboxStage} {j : AutomationJob} {nextId : ℕ}
      (hid : s.jobs.find? j.id = none)
      (hkey : j.key ∉ s.jobKeys) :
      OutboxMove q s .enqueued { s with nextId := nextId, jobs := s.jobs.put j } q
  | misses {s : WorkerDb} {eventId lease endpointId : ℕ}
      (h : (endpointId, some eventId) ∉ s.deliveryPairs) :
      OutboxMove (.holding eventId lease) s .looked s (.missing eventId lease endpointId)
  | delivers {s : WorkerDb} {eventId lease endpointId nextId : ℕ} {d : WebhookDelivery}
      (hid : s.deliveries.find? d.id = none) (hpair : (d.endpointId, d.eventId) = (endpointId, some eventId)) :
      OutboxMove (.missing eventId lease endpointId) s (.delivered eventId lease)
        { s with nextId := nextId, deliveries := s.deliveries.put d } (.holding eventId lease)
  | dispatches {s : WorkerDb} {q : OutboxStage} {lease : ℕ} {e e' : EventOutbox}
      (hq : q.held = some (e.id, lease))
      (he : e ∈ s.events) (hid : e'.id = e.id) :
      OutboxMove q s (.dispatched e.id lease) { s with events := s.events.put e' } .free
  | fails {s : WorkerDb} {q : OutboxStage} {lease : ℕ} {e e' : EventOutbox}
      (hq : q.held = some (e.id, lease))
      (he : e ∈ s.events) (hid : e'.id = e.id) :
      OutboxMove q s (.failed e.id lease) { s with events := s.events.put e' } .free

/-! ### The worker follows it -/

variable {s s' : WorkerDb} {event : EventOutbox} {lease : ℕ}

variable {eventId : ℕ}

lemma claimEvent_commits {lease n : ℕ} (h : Commits (claimEvent eventId lease) s n s') :
    n = 0 ∧ s' = s ∨ n ≠ 0 ∧ ∃ e ∈ s.events, e.id = eventId ∧ e.due s.now = true ∧
      s' = { s with events := s.events.put (e.claim lease) } := by
  simp only [claimEvent, commits_steps] at h
  obtain h := h
  have hcase := updateKey_commits (T := eventOutbox) (k := eventId) (fun _ => rfl) (by simp +contextual) h
  obtain ⟨hn, rfl⟩ | ⟨hn, e, he, hp, rfl⟩ := hcase
  · exact .inl ⟨hn, rfl⟩
  · obtain ⟨hid, hdue⟩ := (Bool.and_eq_true _ _).mp hp
    exact .inr ⟨by omega, e, he, of_decide_eq_true hid, hdue, rfl⟩

variable {u : Unit}

lemma upsertJob_commits {job : ℕ → AutomationJob} (h : Commits (upsertJob job) s u s') :
    s' = s ∨ ∃ j nextId, s.jobs.find? j.id = none ∧ j.key ∉ s.jobKeys ∧
      s' = { s with nextId := nextId, jobs := s.jobs.put j } := by
  simp only [upsertJob, commits_steps] at h
  obtain h := h
  split at h
  · exact .inl (commits_pure.mp h).2.symm
  · next hnone =>
    simp only [commits_bind, commits_create] at h
    obtain ⟨id, t, hid, hnew, rfl⟩ := h
    obtain ⟨rfl, rfl⟩ := freshId_commits hid
    refine .inr ⟨{ job s.now with id := s.nextId }, s.nextId + 1, hnew, fun hmem => ?_, rfl⟩
    obtain ⟨j, hj, hkey⟩ := mem_map.mp hmem
    exact List.find?_eq_none.mp hnone j hj (decide_eq_true hkey)

variable {endpoint : WebhookEndpoint}

lemma createDelivery_commits {event : EventOutbox} (h : Commits (createDelivery event endpoint) s u s') :
    ∃ d nextId, s.deliveries.find? d.id = none ∧ (d.endpointId, d.eventId) = (endpoint.id, some event.id) ∧
      s' = { s with nextId := nextId, deliveries := s.deliveries.put d } := by
  simp only [createDelivery, commits_steps, commits_create] at h
  obtain ⟨id, t, hid, hnew, rfl⟩ := h
  obtain ⟨rfl, rfl⟩ := freshId_commits hid
  refine ⟨_, _, ?_, ?_, rfl⟩
  · exact hnew
  · rfl

lemma markDispatched_commits (h : Commits (markDispatched eventId) s u s') :
    ∃ e ∈ s.events, ∃ e', e.id = eventId ∧ e'.id = e.id ∧ s' = { s with events := s.events.put e' } := by
  simp only [markDispatched, commits_steps, commits_update] at h
  obtain ⟨_, _, ⟨e, he, rfl, rfl⟩, _, rfl⟩ := h
  obtain ⟨hmem, hid⟩ := find?_eq_some.mp he
  refine ⟨e, hmem, _, hid, ?_, rfl⟩
  rfl

lemma markFailed_commits {event : EventOutbox} {message : String}
    (h : Commits (markFailed event message) s u s') :
    ∃ e ∈ s.events, ∃ e', e.id = event.id ∧ e'.id = e.id ∧ s' = { s with events := s.events.put e' } := by
  simp only [markFailed, commits_steps, commits_update] at h
  obtain ⟨_, _, ⟨e, he, rfl, rfl⟩, _, rfl⟩ := h
  obtain ⟨hmem, hid⟩ := find?_eq_some.mp he
  refine ⟨e, hmem, _, hid, ?_, rfl⟩
  rfl

lemma materializeAction_obeys {q : OutboxStage} {companyId : ℕ} {rule : BusinessRule} {entry : Json × ℕ} :
    Obeys OutboxMove (fun _ q' => q' = q) (fun q' => q' = q) q
      (materializeAction companyId event rule entry) := by
  unfold materializeAction
  split
  · refine obeys_statement (fun s u s' h => ⟨q, ?_, rfl⟩) fun s => ⟨q, .looks, rfl⟩
    obtain rfl | ⟨j, nextId, hid, hkey, rfl⟩ := upsertJob_commits h
    · exact .finds
    · exact .enqueues hid hkey
  · exact obeys_pure rfl

lemma materializeBusinessRules_obeys {q : OutboxStage} :
    Obeys OutboxMove (fun _ q' => q' = q) (fun q' => q' = q) q (materializeBusinessRules event) := by
  unfold materializeBusinessRules
  split
  · exact obeys_pure rfl
  · refine Obeys.bind (R := fun _ q' => q' = q) ?_ ?_
    · exact obeys_query (fun s => ⟨q, .looks, rfl⟩) fun s => ⟨q, .looks, rfl⟩
    · intro rules q' hq'
      subst hq'
      refine Obeys.forM (S := fun x => x = q') rfl ?_
      rintro rule _ rfl
      refine obeys_ofExcept.bind ?_
      rintro matched _ rfl
      refine Obeys.ite (fun _ => ?_) fun _ => obeys_pure rfl
      exact Obeys.forM rfl fun entry x hx => hx ▸ materializeAction_obeys

lemma deliverTo_obeys : Obeys OutboxMove (fun _ q => q = .holding event.id lease)
      (fun q => q.held = some (event.id, lease)) (.holding event.id lease)
      (deliverTo event lease endpoint) := by
  unfold deliverTo
  refine Obeys.bind (R := fun found q => q = if found = true then .holding event.id lease
    else .missing event.id lease endpoint.id) ?_ ?_
  · refine obeys_query (fun s => ⟨_, ?_, rfl⟩) fun s => ⟨_, .looks, rfl⟩
    split
    · exact .looks
    · next hnone =>
      refine .misses fun hmem => hnone ?_
      obtain ⟨d, hd, hpair⟩ := mem_map.mp hmem
      obtain ⟨hendpoint, hevent⟩ := Prod.mk.inj hpair
      rw [List.find?_isSome]
      exact ⟨d, hd, by simp [WebhookDelivery.isOf, hendpoint, hevent]⟩
  · rintro found _ rfl
    refine Obeys.ite (fun hfound => ?_) fun hfound => ?_
    · rw [if_pos hfound]
      exact obeys_pure rfl
    · rw [if_neg hfound]
      refine obeys_statement (fun s u s' h => ⟨_, ?_, rfl⟩) fun s => ⟨_, .looks, rfl⟩
      obtain ⟨d, nextId, hid, hpair, rfl⟩ := createDelivery_commits h
      exact .delivers hid hpair

lemma dispatchClaimed_obeys : Obeys OutboxMove (fun _ q => q = .free) (fun q => q.held = some (event.id, lease))
      (.holding event.id lease) (dispatchClaimed lease event) := by
  unfold dispatchClaimed
  refine Obeys.bind (R := fun _ q => q = .holding event.id lease) ?_ ?_
  · refine materializeBusinessRules_obeys.mono (fun _ _ hq => hq) ?_
    rintro _ rfl
    rfl
  · rintro _ _ rfl
    refine Obeys.bind (R := fun _ q => q = .holding event.id lease) ?_ ?_
    · exact obeys_query (fun s => ⟨_, .looks, rfl⟩) fun s => ⟨_, .looks, rfl⟩
    · rintro endpoints _ rfl
      refine Obeys.bind (R := fun _ q => q = .holding event.id lease) ?_ ?_
      · refine Obeys.forM (S := fun q : OutboxStage => q = .holding event.id lease) rfl ?_
        rintro endpoint _ rfl
        exact deliverTo_obeys
      · rintro _ _ rfl
        refine obeys_statement (fun s u s' h => ⟨.free, ?_, rfl⟩) fun s => ⟨_, .looks, rfl⟩
        obtain ⟨e, he, e', hid, hid', rfl⟩ := markDispatched_commits h
        rw [← hid]
        exact .dispatches rfl he hid'

lemma dispatchEvent_obeys : Obeys OutboxMove (fun _ q => q = .free) (fun _ => True) .free
      (dispatchEvent lease event) := by
  unfold dispatchEvent
  refine Obeys.bind (R := fun n q => q = if n = 0 then .free else .holding event.id lease) ?_ ?_
  · refine obeys_statement (fun s n s' h => ⟨_, ?_, rfl⟩) fun s => ⟨_, .looks, trivial⟩
    obtain ⟨rfl, rfl⟩ | ⟨hn, e, he, hid, hdue, rfl⟩ := claimEvent_commits h
    · exact .looks
    · rw [if_neg hn, if_neg hn, ← hid]
      exact .claims he hdue
  · rintro n _ rfl
    refine Obeys.ite (fun hn => ?_) fun hn => ?_
    · rw [if_pos hn]
      exact obeys_pure rfl
    · rw [if_neg hn]
      refine Obeys.attempt dispatchClaimed_obeys fun message q hq => ?_
      refine obeys_statement (fun s u s' h => ⟨.free, ?_, rfl⟩) fun s => ⟨_, .looks, trivial⟩
      obtain ⟨e, he, e', hid, hid', rfl⟩ := markFailed_commits h
      rw [← hid] at hq ⊢
      exact .fails hq he hid'

lemma dispatchOutbox_obeys : Obeys OutboxMove (fun _ _ => True) (fun _ => True) .free (dispatchOutbox) := by
  unfold dispatchOutbox
  refine Obeys.bind (R := fun _ q => q = .free) ?_ ?_
  · exact obeys_lookup fun s => ⟨_, .looks, rfl⟩
  · rintro now _ rfl
    refine Obeys.bind (R := fun _ q => q = .free) ?_ ?_
    · exact obeys_query (fun s => ⟨_, .looks, rfl⟩) fun s => ⟨_, .looks, trivial⟩
    · rintro events _ rfl
      refine (Obeys.forM (S := fun q => q = .free) rfl ?_).mono (fun _ _ _ => trivial) fun _ h => h
      rintro event _ rfl
      exact dispatchEvent_obeys

/-! ### A running lease is exclusive -/

def EventOutbox.standing (e : EventOutbox) : Option ℕ :=
  if e.status = .processing then some e.availableAt else none

def outboxLeasing : Leasing WorkerDb OutboxStage where
  now := WorkerDb.now
  held := OutboxStage.held
  standing s k := (s.events.find? k).bind EventOutbox.standing

structure OutboxRight (p : Staged WorkerDb OutboxStage) : Prop where
  leases : outboxLeasing.Exclusive p
  missing : ∀ i eventId lease endpointId, p.stage i = some (.missing eventId lease endpointId) →
    p.state.now < lease → (endpointId, some eventId) ∉ p.state.deliveryPairs
  delivered : DeliveredOnce p.state
  enqueued : EnqueuedOnce p.state

variable {p p' : Staged WorkerDb OutboxStage} {i : ℕ} {q : OutboxStage} {e e' : EventOutbox}

lemma standing_put_of_ne {k : ℕ} (h : k ≠ e.id) :
    outboxLeasing.standing { s with events := s.events.put e } k = outboxLeasing.standing s k := by
  dsimp only [outboxLeasing]
  rw [find?_put_of_ne _ h]

variable {x : Option OutboxStage}

lemma OutboxRight.missing_update (h : OutboxRight p)
    (hnow : s'.now = p.state.now) (hpairs : s'.deliveryPairs = p.state.deliveryPairs)
    (hx : ∀ eventId lease endpointId, x = some (.missing eventId lease endpointId) →
      p.state.now < lease → (endpointId, some eventId) ∉ p.state.deliveryPairs)
    {j eventId lease endpointId : ℕ}
    (hj : Function.update p.stage i x j = some (.missing eventId lease endpointId)) (hlease : s'.now < lease) :
    (endpointId, some eventId) ∉ s'.deliveryPairs := by
  rw [hpairs]
  rw [hnow] at hlease
  by_cases hji : j = i
  · subst hji
    rw [Function.update_self] at hj
    exact hx eventId lease endpointId hj hlease
  · rw [Function.update_of_ne hji] at hj
    exact h.missing j eventId lease endpointId hj hlease

lemma OutboxRight.restage
    (h : OutboxRight p) (hnow : s'.now = p.state.now) (hevents : s'.events = p.state.events)
    (hpairs : s'.deliveryPairs = p.state.deliveryPairs) (hjobs : EnqueuedOnce s')
    (hheld : ∀ q eventId lease, x = some q → q.held = some (eventId, lease) →
      ∃ q', p.stage i = some q' ∧ q'.held = some (eventId, lease))
    (hmissing : ∀ eventId lease endpointId, x = some (.missing eventId lease endpointId) →
      p.state.now < lease → (endpointId, some eventId) ∉ p.state.deliveryPairs) :
    OutboxRight ⟨s', Function.update p.stage i x⟩ := by
  have hstanding (k : ℕ) : outboxLeasing.standing s' k = outboxLeasing.standing p.state k := by
    dsimp only [outboxLeasing]
    rw [hevents]
  constructor
  case leases =>
    refine h.leases.restage hnow (fun _ k _ _ _ => hstanding k) fun q k lease hx hq hlease => ?_
    obtain ⟨q', hq', hheld'⟩ := hheld q k lease hx hq
    exact ⟨⟨q', hq', hheld', hlease⟩, hstanding k⟩
  case missing => exact fun j _ _ _ hj hlease => h.missing_update hnow hpairs hmissing hj hlease
  case delivered =>
    intro endpointId eventId
    dsimp only
    rw [hpairs]
    exact h.delivered endpointId eventId
  case enqueued => exact hjobs

lemma OutboxRight.release (h : OutboxRight p) (hi : p.stage i = some q)
    (hq : q.held = some (e.id, lease)) (hlease : p.state.now < lease) (hid : e'.id = e.id) :
    OutboxRight ⟨{ p.state with events := p.state.events.put e' },
      Function.update p.stage i (some .free)⟩ := by
  constructor
  case leases =>
    refine h.leases.restage rfl (fun j k lease' hji hj => standing_put_of_ne ?_) ?_
    · rintro rfl
      refine hji (h.leases.alone j i e.id lease' lease ?_ ⟨q, hi, hq, hlease⟩)
      rwa [← hid]
    · rintro _ _ _ ⟨⟩ hheld
      cases hheld
  case missing => exact fun j _ _ _ hj hlease' => h.missing_update rfl rfl (by simp) hj hlease'
  case delivered => exact h.delivered
  case enqueued => exact h.enqueued

lemma OutboxRight.keeps (h : OutboxRight p) (hi : p.stage i = some q)
    (hq : q.held = some (e.id, lease)) (hlease : p.state.now < lease) (hid : e'.id = e.id) :
    KeepsDispatched p.state { p.state with events := p.state.events.put e' } := by
  intro x hx hstatus
  have hstanding := h.leases.leased i e.id lease ⟨q, hi, hq, hlease⟩
  refine ⟨x, mem_put.mpr (Or.inr ⟨hx, fun hkey => ?_⟩), rfl, hstatus⟩
  dsimp only [outboxLeasing] at hstanding
  rw [← hid, ← hkey, find?_of_mem hx, Option.bind_some, EventOutbox.standing, hstatus] at hstanding
  cases hstanding

lemma EventOutbox.due_iff {now : ℕ} :
    e.due now = true ↔ e.availableAt ≤ now ∧ (e.status = .pending ∨ e.status = .processing) := by
  simp [EventOutbox.due]

lemma OutboxRight.claim (h : OutboxRight p) (he : e ∈ p.state.events) (hdue : e.due p.state.now = true) :
    OutboxRight ⟨{ p.state with events := p.state.events.put (e.claim lease) },
      Function.update p.stage i (some (.holding e.id lease))⟩ := by
  constructor
  case leases =>
    refine h.leases.give rfl (fun j lease' => h.leases.not_live fun lease'' hstanding => ?_) rfl ?_ ?_
    · dsimp only [outboxLeasing] at hstanding ⊢
      rw [find?_of_mem he, Option.bind_some, EventOutbox.standing] at hstanding
      split at hstanding
      · obtain rfl := Option.some.inj hstanding
        exact (EventOutbox.due_iff.mp hdue).1
      · cases hstanding
    · dsimp only [outboxLeasing]
      have hfind := find?_put_self p.state.events (e.claim lease)
      rw [show (e.claim lease).id = e.id from rfl] at hfind
      rw [hfind]
      rfl
    · exact fun k hk => standing_put_of_ne hk
  case missing => exact fun j _ _ _ hj hlease' => h.missing_update rfl rfl (by simp) hj hlease'
  case delivered => exact h.delivered
  case enqueued => exact h.enqueued

lemma KeepsDispatched.claim (he : e ∈ s.events) (hdue : e.due s.now = true) :
    KeepsDispatched s { s with events := s.events.put (e.claim lease) } := by
  intro x hx hstatus
  refine ⟨x, mem_put.mpr (Or.inr ⟨hx, fun hkey => ?_⟩), rfl, hstatus⟩
  obtain rfl := eq_of_key_eq hx he hkey
  have hopen := (EventOutbox.due_iff.mp hdue).2
  rw [hstatus] at hopen
  simp at hopen

lemma KeepsDispatched.of_eq (h : s'.events = s.events) : KeepsDispatched s s' := by
  intro x hx hstatus
  exact ⟨x, h ▸ hx, rfl, hstatus⟩

lemma jobKeys_put {j : AutomationJob} (hid : s.jobs.find? j.id = none) {nextId : ℕ} :
    WorkerDb.jobKeys { s with nextId := nextId, jobs := s.jobs.put j } = s.jobKeys ++ [j.key] := by
  have hnew : j.id ∉ s.jobs.rows.map AutomationJob.id := by
    intro hmem
    obtain ⟨r, hr, hrid⟩ := mem_map.mp hmem
    exact find?_eq_none.mp hid r hr hrid
  simp only [WorkerDb.jobKeys, Table.rows_put_of_not_mem hnew, map_append, List.map_singleton]

lemma deliveryPairs_put {d : WebhookDelivery} (hid : s.deliveries.find? d.id = none) {nextId : ℕ} :
    WorkerDb.deliveryPairs { s with nextId := nextId, deliveries := s.deliveries.put d } =
      s.deliveryPairs ++ [(d.endpointId, d.eventId)] := by
  have hnew : d.id ∉ s.deliveries.rows.map WebhookDelivery.id := by
    intro hmem
    obtain ⟨r, hr, hrid⟩ := mem_map.mp hmem
    exact find?_eq_none.mp hid r hr hrid
  simp only [WorkerDb.deliveryPairs, Table.rows_put_of_not_mem hnew, map_append, List.map_singleton]

lemma EnqueuedOnce.put {j : AutomationJob} {nextId : ℕ} (h : EnqueuedOnce s)
    (hid : s.jobs.find? j.id = none) (hkey : j.key ∉ s.jobKeys) :
    EnqueuedOnce { s with nextId := nextId, jobs := s.jobs.put j } := by
  intro companyId ruleId eventId index
  rw [jobKeys_put hid]
  exact count_append_le_one (h companyId ruleId eventId index) hkey

/-- The holder of a running lease writes the delivery that it has found to be missing. -/
lemma OutboxRight.deliver {endpointId nextId : ℕ} {d : WebhookDelivery} (h : OutboxRight p)
    (hi : p.stage i = some (.missing eventId lease endpointId)) (hlease : p.state.now < lease)
    (hid : p.state.deliveries.find? d.id = none)
    (hpair : (d.endpointId, d.eventId) = (endpointId, some eventId)) :
    OutboxRight ⟨{ p.state with nextId := nextId, deliveries := p.state.deliveries.put d },
      Function.update p.stage i (some (.holding eventId lease))⟩ := by
  have hi' : outboxLeasing.Live p i eventId lease := ⟨_, hi, rfl, hlease⟩
  have hpairs := @deliveryPairs_put p.state d hid nextId
  rw [hpair] at hpairs
  constructor
  case leases =>
    refine h.leases.restage rfl (fun _ _ _ _ _ => rfl) ?_
    rintro _ _ _ ⟨⟩ ⟨⟩ _
    exact ⟨hi', rfl⟩
  case missing =>
    intro j eventId' lease' endpointId' hj hlease'
    by_cases hji : j = i
    · subst hji
      simp at hj
    · simp only [Function.update_of_ne hji] at hj
      dsimp only
      rw [hpairs, mem_append, mem_singleton, not_or]
      refine ⟨h.missing j eventId' lease' endpointId' hj hlease', fun heq => hji ?_⟩
      obtain ⟨_, heq⟩ := Prod.mk.inj heq
      obtain rfl := Option.some.inj heq
      exact h.leases.alone j i eventId' lease' lease ⟨_, hj, rfl, hlease'⟩ hi'
  case delivered =>
    intro endpointId' eventId'
    dsimp only
    rw [hpairs]
    exact count_append_le_one (h.delivered endpointId' eventId')
      (h.missing i eventId lease endpointId hi hlease)
  case enqueued => exact h.enqueued

/-! ### Runs -/

lemma OutboxRight.outside (h : OutboxRight p) (henv : OutsideOutbox p.state s') :
    OutboxRight { p with state := s' } := by
  constructor
  case leases =>
    refine h.leases.outside henv.clock fun k lease' hstanding => ?_
    dsimp only [outboxLeasing] at hstanding ⊢
    obtain ⟨r, hr, hlease'⟩ := Option.bind_eq_some_iff.mp hstanding
    obtain ⟨hmem, rfl⟩ := find?_eq_some.mp hr
    rw [find?_of_mem (henv.events r hmem)]
    exact hlease'
  case missing =>
    intro j eventId lease' endpointId hj hlease'
    dsimp only
    rw [henv.deliveries]
    exact h.missing j eventId lease' endpointId hj (henv.clock.trans_lt hlease')
  case delivered =>
    intro endpointId eventId
    dsimp only
    rw [henv.deliveries]
    exact h.delivered endpointId eventId
  case enqueued =>
    intro companyId ruleId eventId index
    dsimp only
    rw [henv.jobs]
    exact h.enqueued companyId ruleId eventId index

lemma OutboxRight.unmoved (h : OutboxRight p) (hi : p.stage i = some q) :
    OutboxRight ⟨p.state, Function.update p.stage i (some q)⟩ := by
  rw [← hi, Function.update_eq_self]
  exact h

lemma OutboxRight.step {l : Option OutboxLabel} (h : OutboxRight p) (hlease : WithinLease p.state l)
    (hstep : StagedStep OutboxMove .free OutsideOutbox p l p') :
    OutboxRight p' ∧ KeepsDispatched p.state p'.state := by
  cases hstep with
  | starts _ =>
    refine ⟨h.restage rfl rfl rfl h.enqueued ?_ (by simp), .of_eq rfl⟩
    rintro _ _ _ ⟨⟩ hheld
    cases hheld
  | ends => exact ⟨h.restage rfl rfl rfl h.enqueued (by simp) (by simp), .of_eq rfl⟩
  | outside henv =>
    exact ⟨h.outside henv, fun x hx hstatus => ⟨x, henv.events x hx, rfl, hstatus⟩⟩
  | steps hi hmove =>
    cases hmove with
    | looks | finds => exact ⟨h.unmoved hi, .of_eq rfl⟩
    | claims he hdue => exact ⟨h.claim he hdue, .claim he hdue⟩
    | enqueues hid hkey =>
      refine ⟨h.restage rfl rfl rfl (h.enqueued.put hid hkey) ?_ ?_, .of_eq rfl⟩
      · rintro _ _ _ ⟨⟩ hheld
        exact ⟨_, hi, hheld⟩
      · rintro _ _ _ ⟨⟩ hnow
        exact h.missing _ _ _ _ hi hnow
    | misses hmiss =>
      refine ⟨h.restage rfl rfl rfl h.enqueued ?_ ?_, .of_eq rfl⟩
      · rintro _ _ _ ⟨⟩ ⟨⟩
        exact ⟨_, hi, rfl⟩
      · rintro _ _ _ ⟨⟩ _
        exact hmiss
    | delivers hid hpair => exact ⟨h.deliver hi hlease hid hpair, .of_eq rfl⟩
    | dispatches hq _ hid | fails hq _ hid => exact ⟨h.release hi hq hlease hid, h.keeps hi hq hlease hid⟩

/-- One call of `dispatchOutbox`. -/
def serveOutbox (_ : Unit) :
    Process OutboxLabel WorkerDb (Except String Unit) :=
  dispatchOutbox.run

abbrev DispatchStep := PoolStep serveOutbox OutsideOutbox

abbrev OutboxPool := Pool OutboxLabel WorkerDb (Except String Unit)

abbrev OutboxAction := PoolAction Unit OutboxLabel (Except String Unit)

/-- Where every worker writes for an event only while its lease runs, an event has at most one delivery to
an endpoint and one job for an action of a rule, and stays dispatched once it is. -/
theorem outbox_once {p q : OutboxPool} {as : List OutboxAction} (hidle : p.Idle)
    (hdelivered : DeliveredOnce p.state) (henqueued : EnqueuedOnce p.state)
    (hrun : Run (Guarded (fun p a => WithinLease p.state a.label) DispatchStep) p as q) :
    DeliveredOnce q.state ∧ EnqueuedOnce q.state ∧
      Run (fun p a p' => DispatchStep p a p' ∧ KeepsDispatched p.state p'.state) p as q := by
  have hserve (r : Unit) : (serveOutbox r).Follows OutboxMove (fun _ _ => True) .free :=
    Process.Follows.mono (fun _ _ _ => trivial) dispatchOutbox_obeys
  have hstart : p.Holds OutboxMove OutboxRight := by
    refine hidle.holds ⟨Leasing.exclusive_idle, ?_, hdelivered, henqueued⟩
    intro i eventId lease endpointId hq
    cases hq
  have hinvariant : ∀ p a p', Pool.Holds OutboxMove OutboxRight p →
      Guarded (fun p a => WithinLease p.state a.label) DispatchStep p a p' →
      Pool.Holds OutboxMove OutboxRight p' :=
    fun _ _ _ h hstep => h.step hserve (fun _ _ _ hI hc hmove => (hI.step hc hmove).1) hstep
  obtain ⟨_, _, hend⟩ := hrun.invariant hinvariant hstart
  refine ⟨hend.delivered, hend.enqueued, ?_⟩
  refine (hrun.and_of_invariant hinvariant (P := fun p _ p' => KeepsDispatched p.state p'.state)
    (fun p a p' h hstep => ?_) hstart).mono fun _ _ _ h => ⟨h.1.2, h.2⟩
  exact h.moves hserve (fun _ _ _ hI hc hmove => (hI.step hc hmove).2) hstep

/-! One event that an endpoint wants and a rule is triggered by. -/

def paidEvent : WorkerDb where
  now := 0
  nextId := 10
  events := Table.empty.put
    { id := 1, companyId := some 1, eventType := "order.paid", aggregateType := "Order",
      aggregateId := "o-1", payload := .obj [], availableAt := 0, createdAt := 0 }
  rules := Table.empty.put
    { id := 2, companyId := 1, code := "PAID", trigger := "order.paid",
      actions := .arr [.obj [("type", .str "notification.enqueue")]] }
  endpoints := Table.empty.put
    { id := 3, companyId := 1, url := "https://hooks", events := .arr [.str "*"] }

def paidPool : OutboxPool := ⟨paidEvent, fun _ => none⟩

inductive Weather
  | later (ms : ℕ)
  | outage (message : Option String)

def Weather.move : Weather → WorkerDb → WorkerDb
  | later ms, s => { s with now := s.now + ms }
  | outage message, s => { s with outage := message }

lemma weather_outside (m : Weather) (s : WorkerDb) : OutsideOutbox s (m.move s) := by
  cases m with
  | later ms => exact ⟨Nat.le_add_right _ _, fun _ he => he, rfl, rfl⟩
  | outage message => exact ⟨Nat.le_refl _, fun _ he => he, rfl, rfl⟩

instance (s : WorkerDb) (l : Option OutboxLabel) : Decidable (WithinLease s l) := by
  unfold WithinLease
  split <;> infer_instance

theorem outbox_once_paid : ∃ as q, Run (Guarded (fun p a => WithinLease p.state a.label) DispatchStep) paidPool
        as q ∧
      q.state.deliveryPairs = [(3, some 1)] ∧ q.state.jobKeys = [(1, ruleActionKey 2 1 0)] ∧
      DeliveredOnce q.state ∧ EnqueuedOnce q.state ∧
      Run (fun p a p' => DispatchStep p a p' ∧ KeepsDispatched p.state p'.state) paidPool
        as q := by
  obtain ⟨as, q, hrun, hpairs, hkeys⟩ := Pool.exists_run_of_play
    serveOutbox paidPool weather_outside WithinLease
    ([.start 0 ()] ++ List.replicate 5 (.step 0) ++ [.outside (.later 600000), .start 1 ()] ++
      List.replicate 9 (.step 1))
    (fun _ s => s.deliveryPairs = [(3, some 1)] ∧ s.jobKeys = [(1, ruleActionKey 2 1 0)])
    (by decide +kernel)
  have hempty : DeliveredOnce paidPool.state ∧ EnqueuedOnce paidPool.state :=
    ⟨fun _ _ => Nat.zero_le _, fun _ _ _ _ => Nat.zero_le _⟩
  exact ⟨as, q, hrun, hpairs, hkeys, outbox_once (fun _ => rfl) hempty.1 hempty.2 hrun⟩

/-- A slow worker finds that the delivery is missing. When its lease has run out another one delivers and
dispatches the event; then the slow one delivers it again, and as the database fails it once it puts the
event back to `PENDING`. -/
theorem outbox_twice : ∃ as q bs r, Run DispatchStep paidPool as q ∧ Run DispatchStep q bs r ∧
      q.state.events.rows.map EventOutbox.status = [.dispatched] ∧
      r.state.events.rows.map EventOutbox.status = [.pending] ∧
      r.state.deliveryPairs = [(3, some 1), (3, some 1)] ∧ ¬ DeliveredOnce r.state := by
  obtain ⟨as, q, bs, r, hrun, hrun', hbefore, hafter, hpairs⟩ := Pool.exists_runs_of_play
    serveOutbox paidPool weather_outside (fun _ _ => True)
    ([.start 0 ()] ++ List.replicate 7 (.step 0) ++ [.outside (.later 600000), .start 1 ()] ++
      List.replicate 9 (.step 1))
    [.step 0, .outside (.outage (some "down")), .step 0, .outside (.outage none), .step 0]
    (fun _ s t => s.events.rows.map EventOutbox.status = [.dispatched] ∧
      t.events.rows.map EventOutbox.status = [.pending] ∧
      t.deliveryPairs = [(3, some 1), (3, some 1)]) (by decide +kernel)
  refine ⟨as, q, bs, r, hrun.of_guarded, hrun'.of_guarded, hbefore, hafter, hpairs, fun honce => ?_⟩
  have hle := honce 3 1
  rw [hpairs] at hle
  revert hle
  decide

end Mayatoko.Worker
