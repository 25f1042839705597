import Mayatoko.Audit.Operations

/-!
# Denied accesses are recorded

An operation that ends in `TENANT_ACCESS_DENIED` is to leave a row of the denied access in the audit log, and
the rest of the database as it was. The row is kept if it is written outside of a transaction, or by
`this.prisma`. If it is written by the `tx` of a transaction, the exception that follows takes it back.
-/

namespace Mayatoko.Audit

open Core
open Auth (AuthUser)

variable {σ α : Type} {user : AuthUser} {op : Operation user σ α} {s : Audited σ} {st : Stand σ} {n : ℕ}

/-- A database in which no transaction is open. -/
def Audited.idle (s : Audited σ) : Stand σ := ⟨s, none⟩

/-- The operation ends in `TENANT_ACCESS_DENIED`. -/
def EndsDenied (op : Operation user σ α) (s : Audited σ) : Prop :=
  ∃ e, (op.run s.idle).1 = .error e ∧ e.code = some "TENANT_ACCESS_DENIED"

def DenialRecorded (op : Operation user σ α) (s : Audited σ) : Prop :=
  ∃ d : Denial, (op.run s.idle).1 = .error d.thrown ∧ (op.run s.idle).2.stored = s.audit (d.row user)

/-- A row that is written through the client is not taken back by an exception. -/
def Stand.Keeps (st : Stand σ) (client : DbClient) : Prop := client = .prisma ∨ st.view = none

/-- The operation denies access by `this.prisma` or outside of a transaction, where it has stored nothing yet.
-/
def DeniesOutside (op : Operation user σ α) (s : Audited σ) : Prop :=
  ∃ client d st, op.denial s.idle = some (client, d, st) ∧ st.Keeps client ∧ st.stored = s

/-! ### Rows of denied accesses -/

structure Stand.AtMost (n : ℕ) (st : Stand σ) : Prop where
  stored : st.stored.denials.length ≤ n
  view : ∀ view, st.view = some view → view.denials.length ≤ n

lemma Stand.AtMost.write (h : st.AtMost n) (change : Change σ) (client : DbClient) :
    (st.write change.act client).AtMost n := by
  obtain ⟨stored, view⟩ := st
  obtain ⟨hstored, hview⟩ := h
  have hact (x : Audited σ) (hx : x.denials.length ≤ n) : (change.act x).denials.length ≤ n :=
    (change.denials_le x).trans hx
  cases client with
  | prisma =>
    refine ⟨hact stored hstored, fun v hv => ?_⟩
    obtain ⟨x, hx, rfl⟩ := Option.map_eq_some_iff.mp hv
    exact hact x (hview x hx)
  | tx =>
    cases view with
    | none =>
      refine ⟨hact stored hstored, fun v hv => ?_⟩
      cases hv
    | some x =>
      refine ⟨hstored, fun v hv => ?_⟩
      obtain rfl := Option.some.inj hv
      exact hact x (hview x rfl)

lemma Stand.AtMost.begins (h : st.AtMost n) : st.begins.AtMost n := by
  refine ⟨h.stored, fun v hv => ?_⟩
  obtain rfl := Option.some.inj hv
  exact h.stored

lemma Stand.AtMost.commits (h : st.AtMost n) : st.commits.AtMost n := by
  refine ⟨?_, fun v hv => ?_⟩
  · cases hview : st.view with
    | none =>
      rw [Stand.commits, hview]
      exact h.stored
    | some view =>
      rw [Stand.commits, hview]
      exact h.view view hview
  · cases hv

lemma Stand.AtMost.rollsBack (h : st.AtMost n) : st.rollsBack.AtMost n := by
  refine ⟨h.stored, fun v hv => ?_⟩
  cases hv

variable {client : DbClient} {d : Denial}

lemma atMost_of_denial {st' : Stand σ} (h : st.AtMost n)
    (hdenial : op.denial st = some (client, d, st')) : st'.AtMost n := by
  induction op generalizing st with
  | done a => cases hdenial
  | throws e => cases hdenial
  | statement client change next ih => exact ih (st.read client) (h.write change client) hdenial
  | denyTenantAccess client d =>
    cases hdenial
    exact h
  | begins next ih => exact ih h.begins hdenial
  | commits next ih => exact ih h.commits hdenial
  | rollsBack next ih => exact ih h.rollsBack hdenial

lemma atMost_of_no_denial (h : st.AtMost n) (hdenial : op.denial st = none) : (op.run st).2.AtMost n := by
  induction op generalizing st with
  | done a => exact h
  | throws e => exact h
  | statement client change next ih => exact ih (st.read client) (h.write change client) hdenial
  | denyTenantAccess client d => cases hdenial
  | begins next ih => exact ih h.begins hdenial
  | commits next ih => exact ih h.commits hdenial
  | rollsBack next ih => exact ih h.rollsBack hdenial

lemma run_of_denial {st' : Stand σ} (hdenial : op.denial st = some (client, d, st')) :
    op.run st = (.error d.thrown, st'.write (fun s => s.audit (d.row user)) client) := by
  induction op generalizing st with
  | done a => cases hdenial
  | throws e => cases hdenial
  | statement client change next ih => exact ih (st.read client) hdenial
  | denyTenantAccess client d =>
    cases hdenial
    rfl
  | begins next ih => exact ih hdenial
  | commits next ih => exact ih hdenial
  | rollsBack next ih => exact ih hdenial

lemma denials_audit (s : Audited σ) (d : Denial) :
    (s.audit (d.row user)).denials.length = s.denials.length + 1 := by
  rw [Audited.denials, Audited.audit, filter_append, List.length_append]
  rfl

lemma audit_inj {s s' : Audited σ} {row row' : AuditLog} (h : s.audit row = s'.audit row') : s = s' := by
  obtain ⟨db, logs⟩ := s
  obtain ⟨db', logs'⟩ := s'
  obtain ⟨rfl, hlogs⟩ := Audited.mk.inj h
  obtain ⟨rfl, _⟩ := List.append_inj' hlogs rfl
  rfl

variable {act : Audited σ → Audited σ}

lemma stored_write_of_keeps (h : st.Keeps client) : (st.write act client).stored = act st.stored := by
  obtain ⟨stored, view⟩ := st
  obtain rfl | hview := h
  · rfl
  · cases client with
    | prisma => rfl
    | tx =>
      obtain rfl : view = none := hview
      rfl

lemma stored_write_of_not_keeps (h : ¬ st.Keeps client) : (st.write act client).stored = st.stored := by
  obtain ⟨stored, view⟩ := st
  cases client with
  | prisma => exact absurd (Or.inl rfl) h
  | tx =>
    cases view with
    | none => exact absurd (Or.inr rfl) h
    | some view => rfl

lemma atMost_idle (s : Audited σ) : s.idle.AtMost s.denials.length := by
  refine ⟨le_rfl, fun view hview => ?_⟩
  cases hview

lemma denialRecorded_iff_deniesOutside : DenialRecorded op s ↔ DeniesOutside op s := by
  constructor
  · rintro ⟨d, hthrown, hstored⟩
    have hmore : s.denials.length < (op.run s.idle).2.stored.denials.length := by
      rw [hstored, denials_audit]
      exact Nat.lt_succ_self _
    cases hdenial : op.denial s.idle with
    | none => exact absurd (atMost_of_no_denial (atMost_idle s) hdenial).stored hmore.not_ge
    | some site =>
      obtain ⟨client, d', st⟩ := site
      have hrun := run_of_denial hdenial
      by_cases hkeeps : st.Keeps client
      · refine ⟨client, d', st, hdenial, hkeeps, ?_⟩
        rw [hrun] at hstored
        exact audit_inj ((stored_write_of_keeps hkeeps).symm.trans hstored)
      · rw [hrun] at hmore
        dsimp only at hmore
        rw [stored_write_of_not_keeps hkeeps] at hmore
        exact absurd (atMost_of_denial (atMost_idle s) hdenial).stored hmore.not_ge
  · rintro ⟨client, d, st, hdenial, hkeeps, rfl⟩
    have hrun := run_of_denial hdenial
    refine ⟨d, by rw [hrun], ?_⟩
    rw [hrun]
    exact stored_write_of_keeps hkeeps

/-! ### Where the operations deny access -/

structure Denies (P : DbClient → Denial → Stand σ → Prop) (R : α → Stand σ → Prop) (op : Operation user σ α)
    (st : Stand σ) : Prop where
  denial : ∀ client d st', op.denial st = some (client, d, st') → P client d st'
  returns : ∀ a st', op.run st = (.ok a, st') → R a st'

variable {β : Type} {P : DbClient → Denial → Stand σ → Prop} {R : α → Stand σ → Prop} {x : Tx σ Failure α}

lemma denies_pure {a : α} (h : R a st) : Denies P R (pure a : Operation user σ α) st := by
  refine ⟨fun client d st' hdenial => ?_, fun b st' hrun => ?_⟩
  · cases hdenial
  · obtain ⟨hb, rfl⟩ := Prod.mk.inj hrun
    exact Except.ok.inj hb ▸ h

variable {k : α → Operation user σ β}

lemma denial_bind : (op >>= k).denial st = match op.denial st with
    | some site => some site
    | none => match op.run st with
      | (.ok a, st') => (k a).denial st'
      | (.error _, _) => none := by
  change (op.bind k).denial st = _
  induction op generalizing st with
  | done a => rfl
  | throws e => rfl
  | statement client change next ih => exact ih (st.read client)
  | denyTenantAccess client d => rfl
  | begins next ih => exact ih
  | commits next ih => exact ih
  | rollsBack next ih => exact ih

lemma Denies.bind {R' : β → Stand σ → Prop} (hop : Denies P R op st)
    (hk : ∀ a st', R a st' → Denies P R' (k a) st') : Denies P R' (op >>= k) st := by
  constructor
  · intro client d st' hdenial
    rw [denial_bind] at hdenial
    cases hsite : op.denial st with
    | some site =>
      rw [hsite] at hdenial
      obtain rfl := Option.some.inj hdenial
      exact hop.denial client d st' hsite
    | none =>
      rw [hsite] at hdenial
      cases hrun : op.run st with
      | mk r t =>
        rw [hrun] at hdenial
        cases r with
        | error e => cases hdenial
        | ok a => exact (hk a t (hop.returns a t hrun)).denial client d st' hdenial
  · intro b st' hb
    rw [Operation.run_bind] at hb
    cases hrun : op.run st with
    | mk r t =>
      rw [hrun] at hb
      cases r with
      | error e => cases (Prod.mk.inj hb).1
      | ok a => exact (hk a t (hop.returns a t hrun)).returns b st' hb

lemma Denies.mono {R' : α → Stand σ → Prop} (h : Denies P R op st) (hR : ∀ a st', R a st' → R' a st') :
    Denies P R' op st :=
  ⟨h.denial, fun a st' hrun => hR a st' (h.returns a st' hrun)⟩

lemma Denies.ite {c : Prop} [Decidable c] {op' : Operation user σ α} (hop : Denies P R op st)
    (hop' : Denies P R op' st) : Denies P R (if c then op else op') st := by
  split
  · exact hop
  · exact hop'

def after (st : Stand σ) (x : Tx σ Failure α) (client : DbClient) : Stand σ :=
  st.write (fun s => { s with db := (execute x s.db).2 }) client

lemma denies_throws {e : Thrown} : Denies P R (.throws e : Operation user σ α) st := by
  refine ⟨fun client d st' hdenial => ?_, fun a st' hrun => ?_⟩
  · cases hdenial
  · cases (Prod.mk.inj hrun).1

lemma denies_denyTenantAccess (h : P client d st) :
    Denies P R (.denyTenantAccess client d : Operation user σ α) st := by
  refine ⟨fun client' d' st' hdenial => ?_, fun a st' hrun => ?_⟩
  · cases hdenial
    exact h
  · cases (Prod.mk.inj hrun).1

lemma denies_statement {change : Change σ} {next : Audited σ → Operation user σ α}
    (h : Denies P R (next (st.read client)) (st.write change.act client)) :
    Denies P R (.statement client change next) st :=
  ⟨h.denial, h.returns⟩

lemma denies_through (h : ∀ a, R a (after st x client)) :
    Denies P R (.through client x : Operation user σ α) st := by
  refine denies_statement ?_
  cases (execute x (st.read client).db).1 with
  | error e => exact denies_throws
  | ok a => exact denies_pure (h a)

variable {companyId : ℕ} {entityType : String} {entityId : σ → Option ℕ}

lemma denies_orDeny
    (hP : ∀ id, P client ⟨companyId, entityType, id⟩ (after st x client)) (h : ∀ a, R a (after st x client)) :
    Denies P R (.orDeny client companyId entityType entityId x : Operation user σ α) st := by
  refine denies_statement ?_
  cases (execute x (st.read client).db).1 with
  | error e =>
    dsimp only
    split
    · exact denies_denyTenantAccess (hP _)
    · exact denies_throws
  | ok a => exact denies_pure (h a)

lemma denies_transaction (h : Denies P (fun _ _ => True) op st.begins) :
    Denies P (fun _ _ => True) (.transaction op) st := by
  have hbody : Denies P (fun _ _ => True) (op >>= fun a => .commits (.done a)) st.begins :=
    h.bind fun a st' _ => by
      refine ⟨fun client d st' hdenial => ?_, fun _ _ _ => trivial⟩
      cases hdenial
  exact ⟨hbody.denial, hbody.returns⟩

/-! #### By `this.prisma`, before anything is stored -/

lemma after_prisma (hx : ReadOnly x) : after s.idle x .prisma = s.idle := by
  have hdb : (execute x s.db).2 = s.db := by
    obtain ⟨a, _, hcommits⟩ | ⟨_, _, hsame⟩ := execute_cases x s.db
    · exact (hx.eq hcommits).symm
    · exact hsame
  rw [after, Audited.idle, Stand.write, Option.map_none, hdb]

lemma read_through (hx : ReadOnly x) :
    Denies P (fun _ st' => st' = s.idle) (.through .prisma x : Operation user σ α) s.idle :=
  denies_through fun _ => after_prisma hx

lemma read_orDeny (hx : ReadOnly x) (hP : ∀ id, P .prisma ⟨companyId, entityType, id⟩ s.idle) :
    Denies P (fun _ st' => st' = s.idle)
      (.orDeny .prisma companyId entityType entityId x : Operation user σ α) s.idle := by
  refine denies_orDeny (fun id => ?_) fun _ => after_prisma hx
  rw [after_prisma hx]
  exact hP id

/-! #### By the `tx` of a transaction -/

def Stand.Open (st : Stand σ) : Prop := st.view.isSome = true

def Loses (client : DbClient) (_ : Denial) (st : Stand σ) : Prop := ¬ st.Keeps client

lemma Stand.Open.after (h : st.Open) : (after st x .tx).Open := by
  obtain ⟨stored, view⟩ := st
  cases view with
  | none => cases h
  | some view => rfl

lemma Stand.Open.loses (h : st.Open) : Loses .tx d st := by
  rintro (hclient | hview)
  · cases hclient
  · rw [Stand.Open, hview] at h
    cases h

lemma open_through (h : st.Open) : Denies P (fun _ st' => st'.Open) (.through .tx x : Operation user σ α) st :=
  denies_through fun _ => h.after

lemma open_orDeny (h : st.Open) (hP : ∀ id st', st'.Open → P .tx ⟨companyId, entityType, id⟩ st') :
    Denies P (fun _ st' => st'.Open) (.orDeny .tx companyId entityType entityId x : Operation user σ α) st :=
  denies_orDeny (fun id => hP id _ h.after) fun _ => h.after

lemma open_audit {entityId : ℕ} {action : String} {ha : action ≠ "TENANT_ACCESS_DENIED"}
    (h : st.Open) :
    Denies P (fun _ st' => st'.Open)
      (.audit .tx companyId action entityType entityId ha : Operation user σ Unit) st := by
  refine denies_statement (denies_pure ?_)
  obtain ⟨stored, view⟩ := st
  cases view with
  | none => cases h
  | some view => rfl

/-! ### The operations -/

lemma not_denialRecorded_of_loses (h : Denies Loses (fun _ _ => True) op s.idle) : ¬ DenialRecorded op s := by
  rw [denialRecorded_iff_deniesOutside]
  rintro ⟨client, d, st, hdenial, hkeeps, _⟩
  exact h.denial client d st hdenial hkeeps

lemma requireTenantScope_denies : Denies P (fun _ st' => st' = s.idle)
      (requireTenantScope user : Operation user σ Transit.TenantScope) s.idle :=
  read_through leaves_orThrow

lemma update_not_recorded {s : Audited Promotions.PromoDb} {newDate : String → Option ℤ}
    {toUpperCase : String → String} {id : ℕ} {dto : Promotions.UpdatePromoRuleDto} :
    ¬ DenialRecorded (update newDate toUpperCase id dto user) s := by
  refine not_denialRecorded_of_loses (requireTenantScope_denies.bind ?_)
  rintro scope _ rfl
  refine denies_transaction ?_
  have hbegins : s.idle.begins.Open := rfl
  refine (open_orDeny hbegins fun _ _ h => h.loses).bind fun row st h => ?_
  refine (open_through h).bind fun updated st h => ?_
  exact (open_audit h).bind fun _ _ _ => denies_pure trivial

section Attendance

open Attendance

/-- The record of a day is denied by the `tx` of the transaction, and everything else before it begins. -/
def RecordInside (s : Audited AttendanceDb) (client : DbClient) (d : Denial) (st : Stand AttendanceDb) : Prop :=
  if d.entityType = "AttendanceRecord" then Loses client d st else client = .prisma ∧ st = s.idle

variable {s : Audited AttendanceDb} {distanceMeters : ℚ → ℚ → ℚ → ℚ → ℚ} {eventId recordId : ℕ}
  {dto : CreateAttendanceEventDto}

lemma recordInside_prisma {entityType : String} (hne : entityType ≠ "AttendanceRecord") (companyId : ℕ)
    (id : Option ℕ) : RecordInside s .prisma ⟨companyId, entityType, id⟩ s.idle := by
  rw [RecordInside, if_neg hne]
  exact ⟨rfl, rfl⟩

lemma record_denies : Denies (RecordInside s) (fun _ _ => True)
    (record distanceMeters eventId recordId dto user) s.idle := by
  refine (read_through leaves_orThrow).bind ?_
  rintro scope _ rfl
  refine (read_orDeny readOnly_assertRequestedScope (recordInside_prisma (by decide) _)).bind ?_
  rintro _ _ rfl
  refine (read_orDeny readOnly_existingEventForKey (recordInside_prisma (by decide) _)).bind ?_
  rintro sameOperation _ rfl
  refine (denies_pure trivial).ite ?_
  refine (read_orDeny readOnly_existingEventForKey (recordInside_prisma (by decide) _)).bind ?_
  rintro sameEvent _ rfl
  refine (denies_pure trivial).ite ?_
  refine (read_orDeny readOnly_scopedEmployee (recordInside_prisma (by decide) _)).bind ?_
  rintro employee _ rfl
  refine (read_orDeny readOnly_checkDevice (recordInside_prisma (by decide) _)).bind ?_
  rintro _ _ rfl
  refine (read_orDeny readOnly_checkGeofence (recordInside_prisma (by decide) _)).bind ?_
  rintro _ _ rfl
  refine (read_through leaves_require).bind ?_
  rintro _ _ rfl
  refine (read_through leaves_orThrow).bind ?_
  rintro occurredAt _ rfl
  refine denies_transaction ?_
  have hbegins : s.idle.begins.Open := rfl
  refine (open_through hbegins).bind fun _ st h => ?_
  refine (open_orDeny h fun _ _ h => ?_).bind fun _ st h => ?_
  · rw [RecordInside, if_pos rfl]
    exact h.loses
  · refine (open_through h).bind fun _ st h => ?_
    exact (open_audit h).mono fun _ _ _ => trivial

lemma record_recorded_iff {client : DbClient} {d : Denial} {st : Stand AttendanceDb}
    (hdenial : (record distanceMeters eventId recordId dto user).denial s.idle = some (client, d, st)) :
    DenialRecorded (record distanceMeters eventId recordId dto user) s ↔ d.entityType ≠ "AttendanceRecord" := by
  have hinside := record_denies.denial client d st hdenial
  rw [denialRecorded_iff_deniesOutside]
  unfold RecordInside at hinside
  split at hinside
  next hrecord =>
    refine iff_of_false ?_ (not_not_intro hrecord)
    rintro ⟨client', d', st', hdenial', hkeeps, _⟩
    cases hdenial.symm.trans hdenial'
    exact hinside hkeeps
  next hother =>
    obtain ⟨rfl, rfl⟩ := hinside
    exact iff_of_true ⟨.prisma, d, s.idle, hdenial, .inl rfl, rfl⟩ hother

end Attendance

/-- An operation that ends in `TENANT_ACCESS_DENIED` leaves the row of the denied access, and nothing else,
exactly if it denies access by `this.prisma` or outside of a transaction, where it has stored nothing yet. -/
theorem recorded_iff_deniesOutside :
    (EndsDenied op s → DenialRecorded op s) ↔ (EndsDenied op s → DeniesOutside op s) :=
  imp_congr_right fun _ => denialRecorded_iff_deniesOutside

def clerk : AuthUser := { sub := 5, sid := none, companyId := some 1, branchId := some 2 }

/-- The rule is denied by the `tx` of the transaction, and no row of the audit log says so. -/
theorem not_recorded_promoRule : EndsDenied (update (fun _ => none) id 7 {} clerk) (Audited.mk {} []) ∧
      ¬ DenialRecorded (update (fun _ => none) id 7 {} clerk) (Audited.mk {} []) :=
  ⟨⟨(Denial.mk 1 "PromoRule" (some 7)).thrown, rfl, rfl⟩, update_not_recorded⟩

/-- An employee that is not there is denied before the transaction begins. -/
example : DenialRecorded (record (fun _ _ _ _ => 0) 1 1
    { employeeId := 4, eventType := .checkIn, method := .other, occurredAt := some 0 } clerk)
    ⟨⟨.empty, .empty, .empty, .empty, .empty, .empty, .empty, .empty, .empty, .empty⟩, []⟩ :=
  ⟨⟨1, "Employee", some 4⟩, rfl, rfl⟩

end Mayatoko.Audit
