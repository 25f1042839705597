import Mayatoko.Common.Idempotency
import Mayatoko.Core.Process

/-!
# Callers of idempotent mutations

`beginIdempotent`, `completeIdempotent` and `releaseIdempotent` of `common/idempotency.ts` as the statements
that they make, one after the other, on receipts that all callers share. The clock is part of what they share;
the id of a receipt is one that was never drawn before. A response is kept as its text.

A receipt runs while it is processed and its time is not over. While it runs, one caller at most should have
been told to make the mutation. A receipt that has expired can be taken over by all callers that have read it
before the first of them did, so this holds exactly as long as every receipt that is taken over has expired by
then. What a caller is told always fits its request, and a stored response stays as it is.
-/

namespace Mayatoko.Idempotency

open Core Common

structure Receipt where
  (id companyId : ℕ)
  (scope key requestHash : String)
  status : ReceiptStatus := .processing
  response : Option String := none
  createdAt : ℕ
  expiresAt : Option ℕ := none

def Receipt.place (r : Receipt) : ReceiptPlace := (r.companyId, r.scope, r.key)

def Receipt.expiry (r : Receipt) : ℕ := r.expiresAt.getD (r.createdAt + processingTtlMs)

structure ReceiptDb where
  (now nextId : ℕ)
  receipts : Table Receipt.place

def ReceiptDb.receipt (db : ReceiptDb) (place : ReceiptPlace) : Option Receipt := db.receipts.find? place

abbrev ReceiptTx := Tx ReceiptDb Failure

def idempotencyReceipt : TableOf ReceiptDb Receipt.place :=
  ⟨ReceiptDb.receipts, fun db t => { db with receipts := t }⟩

/-- What a statement has told its caller: to make the mutation, with the end of its time, or the response that
was stored. -/
inductive Label
  | quiet
  | told (opts : ReceiptOptions) (expiresAt : ℕ)
  | answered (opts : ReceiptOptions) (response : Option String)

abbrev Caller := Service Label ReceiptDb Failure

def storedResponse (opts : ReceiptOptions) (existing : Option Receipt) : Option (Option String) :=
  (existing.filter fun r => r.requestHash = opts.requestHash && r.status = .completed).map Receipt.response

def dateNow : Caller ℕ := lookup .quiet ReceiptDb.now

def findReceipt (opts : ReceiptOptions) : Caller (Option Receipt) :=
  atomically
    (fun result => match result with
      | .ok existing => (storedResponse opts existing).elim .quiet (.answered opts)
      | .error _ => .quiet)
    (do
      let db ← get
      pure (db.receipt opts.place))

/-- Insert the receipt, unless there is one; whether it was inserted. -/
def insertReceipt (opts : ReceiptOptions) (expiresAt : ℕ) : ReceiptTx Bool := do
  let db ← get
  if (db.receipt opts.place).isSome = true then pure false
  else do
    set { db with
      nextId := db.nextId + 1
      receipts := db.receipts.put
        { id := db.nextId, companyId := opts.companyId, scope := opts.scope, key := opts.key,
          requestHash := opts.requestHash, createdAt := db.now, expiresAt := some expiresAt } }
    pure true

def createReceipt (opts : ReceiptOptions) (expiresAt : ℕ) : Caller Bool :=
  atomically
    (fun result => match result with
      | .ok true => .told opts expiresAt
      | _ => .quiet)
    (insertReceipt opts expiresAt)

/-- Take over the receipt with the id of the one that was read. It is the receipt of the same place, which no
statement changes. -/
def takeOver (existing : Receipt) (opts : ReceiptOptions) (expiresAt : ℕ) : ReceiptTx ℕ :=
  idempotencyReceipt.updateMany
    (fun r => r.place = opts.place && r.id = existing.id && r.status = .processing &&
      r.requestHash = opts.requestHash)
    fun r => { r with expiresAt := some expiresAt }

def reclaimReceipt (existing : Receipt) (opts : ReceiptOptions) (expiresAt : ℕ) : Caller ℕ :=
  atomically
    (fun result => match result with
      | .ok 1 => .told opts expiresAt
      | _ => .quiet)
    (takeOver existing opts expiresAt)

inductive Gate
  | proceed
  | replay (response : Option String)

def beginIdempotent (opts : ReceiptOptions) : Caller Gate := do
  let existing ← findReceipt opts
  match existing with
  | some existing => do
    check (existing.requestHash = opts.requestHash) idempotencyConflictError
    if existing.status = .completed then pure (.replay existing.response)
    else do
      let now ← dateNow
      check (existing.expiry ≤ now) idempotencyInProgressError
      let later ← dateNow
      let count ← reclaimReceipt existing opts (later + processingTtlMs)
      check (count = 1) idempotencyInProgressError
      pure .proceed
  | none => do
    let now ← dateNow
    let created ← createReceipt opts (now + processingTtlMs)
    if created = true then pure .proceed
    else do
      let dup ← findReceipt opts
      let dup ← expect dup .uniqueViolation
      check (dup.requestHash = opts.requestHash) idempotencyConflictError
      if dup.status = .completed then pure (.replay dup.response)
      else throw idempotencyInProgressError

def completeIdempotent (opts : ReceiptOptions) (response : Option String) : Caller Unit :=
  atomically (fun _ => .quiet) (do
    let _ ← idempotencyReceipt.updateMany (fun r => r.place = opts.place && r.status = .processing)
      fun r => { r with status := .completed, response := response })

def releaseIdempotent (opts : ReceiptOptions) : Caller Unit :=
  atomically (fun _ => .quiet)
    (idempotencyReceipt.deleteMany fun r => r.place = opts.place && r.status = .processing)

inductive Ending
  | complete (response : Option String)
  | release
  | nothing

def finish (opts : ReceiptOptions) : Ending → Caller Unit
  | .complete response => completeIdempotent opts response
  | .release => releaseIdempotent opts
  | .nothing => pure ()

def call (opts : ReceiptOptions) (ending : Ending) : Caller Unit := do
  match ← beginIdempotent opts with
  | .proceed => finish opts ending
  | .replay _ => pure ()

abbrev CallerPool := Pool Label ReceiptDb (Except Failure Unit)

abbrev CallerAction := PoolAction (ReceiptOptions × Ending) Label (Except Failure Unit)

def serveCall (request : ReceiptOptions × Ending) : Process Label ReceiptDb (Except Failure Unit) :=
  (call request.1 request.2).run

def Clock (db db' : ReceiptDb) : Prop := ∃ now, db.now ≤ now ∧ db' = { db with now }

def CallerStep : CallerPool → CallerAction → CallerPool → Prop := PoolStep serveCall Clock

open TableOf

variable {db db' : ReceiptDb} {opts : ReceiptOptions} {place : ReceiptPlace} {expiresAt : ℕ} {l : Label}

/-- The receipt of a place is processed, and its time is not over. -/
def ReceiptDb.runs (db : ReceiptDb) (place : ReceiptPlace) : Bool :=
  (db.receipt place).any fun r => r.status = .processing && db.now < r.expiry

/-! ### What the statements do -/

def Ends (place : ReceiptPlace) (db db' : ReceiptDb) : Prop :=
  db'.receipt place = db.receipt place ∨
    (∃ r, db.receipt place = some r ∧ r.status = .processing) ∧
      ∀ r, db'.receipt place = some r → r.status = .completed

structure Told (opts : ReceiptOptions) (expiresAt : ℕ) (db db' : ReceiptDb) : Prop where
  before : ∀ r, db.receipt opts.place = some r → r.status = .processing
  after : ∃ r, db'.receipt opts.place = some r ∧ r.status = .processing ∧ r.requestHash = opts.requestHash ∧
    r.expiry = expiresAt
  others : ∀ place, place ≠ opts.place → db'.receipt place = db.receipt place

def Answered (opts : ReceiptOptions) (response : Option String) (db : ReceiptDb) : Prop :=
  ∃ r, db.receipt opts.place = some r ∧ r.status = .completed ∧ r.requestHash = opts.requestHash ∧
    r.response = response

def Effect (db : ReceiptDb) (l : Label) (db' : ReceiptDb) : Prop :=
  db'.now = db.now ∧ match l with
    | .quiet => ∀ place, Ends place db db'
    | .told opts expiresAt => Told opts expiresAt db db'
    | .answered opts response => db' = db ∧ Answered opts response db

lemma effect_same : Effect db .quiet db := ⟨rfl, fun _ => .inl rfl⟩

lemma does_dateNow : Does Effect dateNow := does_lookup fun _ => effect_same

lemma does_findReceipt : Does Effect (findReceipt opts) := by
  refine does_atomically ?_ fun _ _ => effect_same
  intro s existing s' h
  simp only [commits_steps] at h
  obtain ⟨rfl, rfl⟩ := h
  cases hstored : storedResponse opts (s.receipt opts.place) with
  | none =>
    simp only [hstored]
    exact effect_same
  | some response =>
    simp only [hstored]
    obtain ⟨r, hr, rfl⟩ := Option.map_eq_some_iff.mp hstored
    obtain ⟨hfind, hcond⟩ := Option.filter_eq_some_iff.mp hr
    simp only [cond_iff] at hcond
    exact ⟨rfl, rfl, r, hfind, hcond.2, hcond.1, rfl⟩

lemma insertReceipt_commits {created : Bool} (h : Commits (insertReceipt opts expiresAt) db created db') :
    created = false ∧ db' = db ∨ created = true ∧ db'.now = db.now ∧ Told opts expiresAt db db' := by
  simp only [insertReceipt, commits_steps, commits_ite, commits_set] at h
  obtain ⟨_, rfl, rfl⟩ | ⟨hnew, _, _, rfl, rfl, rfl⟩ := h
  · exact .inl ⟨rfl, rfl⟩
  · rw [Option.not_isSome_iff_eq_none] at hnew
    refine .inr ⟨rfl, rfl, ?_, ?_, ?_⟩
    · intro r hr
      cases hnew.symm.trans hr
    · exact ⟨_, find?_put_self _ _, rfl, rfl, rfl⟩
    · exact fun place hne => find?_put_of_ne _ hne

lemma does_createReceipt : Does Effect (createReceipt opts expiresAt) := by
  refine does_atomically ?_ fun _ _ => effect_same
  intro s created s' h
  obtain ⟨rfl, rfl⟩ | ⟨rfl, hnow, htold⟩ := insertReceipt_commits h
  · exact effect_same
  · exact ⟨hnow, htold⟩

lemma takeOver_commits {existing : Receipt} {count : ℕ}
    (h : Commits (takeOver existing opts expiresAt) db count db') :
    count = 0 ∧ db' = db ∨ count = 1 ∧ db'.now = db.now ∧ Told opts expiresAt db db' := by
  have hplace (r : Receipt) (hr : (r.place = opts.place && r.id = existing.id && r.status = .processing &&
      r.requestHash = opts.requestHash : Bool) = true) : r.place = opts.place := by
    simp only [cond_iff] at hr
    exact hr.1.1.1
  obtain hnone | ⟨rfl, r, hr, hcond, rfl⟩ := updateKey_commits (fun _ => rfl) hplace h
  · exact .inl hnone
  · simp only [cond_iff] at hcond
    obtain ⟨⟨⟨hkey, _⟩, hstatus⟩, hhash⟩ := hcond
    have hfind : db.receipt opts.place = some r := by
      rw [← hkey]
      exact find?_of_mem hr
    refine .inr ⟨rfl, rfl, ?_, ?_, ?_⟩
    · intro x hx
      obtain rfl := mem_unique hfind hx
      exact hstatus
    · refine ⟨{ r with expiresAt := some expiresAt }, ?_, hstatus, hhash, rfl⟩
      rw [← hkey]
      exact find?_put_self db.receipts { r with expiresAt := some expiresAt }
    · intro place hne
      refine find?_put_of_ne _ ?_
      rw [← hkey] at hne
      exact hne

lemma does_reclaimReceipt {existing : Receipt} : Does Effect (reclaimReceipt existing opts expiresAt) := by
  refine does_atomically ?_ fun _ _ => effect_same
  intro s count s' h
  obtain ⟨rfl, rfl⟩ | ⟨rfl, hnow, htold⟩ := takeOver_commits h
  · exact effect_same
  · exact ⟨hnow, htold⟩

lemma does_beginIdempotent : Does Effect (beginIdempotent opts) := by
  refine does_findReceipt.bind fun existing => ?_
  cases existing with
  | some existing =>
    refine does_check.bind fun _ => Does.ite does_pure ?_
    refine does_dateNow.bind fun now => does_check.bind fun _ => does_dateNow.bind fun later => ?_
    exact does_reclaimReceipt.bind fun count => does_check.bind fun _ => does_pure
  | none =>
    refine does_dateNow.bind fun now => does_createReceipt.bind fun created => Does.ite does_pure ?_
    refine does_findReceipt.bind fun dup => does_expect.bind fun dup => does_check.bind fun _ => ?_
    exact Does.ite does_pure does_throw

lemma does_completeIdempotent {response : Option String} : Does Effect (completeIdempotent opts response) := by
  refine does_atomically ?_ fun _ _ => effect_same
  intro s _ s' h
  simp only [commits_steps] at h
  obtain ⟨count, _, hupdate, _, rfl⟩ := h
  have hplace (r : Receipt) (hr : (r.place = opts.place && r.status = .processing : Bool) = true) :
      r.place = opts.place := by
    simp only [cond_iff] at hr
    exact hr.1
  obtain ⟨_, rfl⟩ | ⟨_, r, hr, hcond, rfl⟩ := updateKey_commits (fun _ => rfl) hplace hupdate
  · exact effect_same
  · simp only [cond_iff] at hcond
    refine ⟨rfl, fun place => ?_⟩
    by_cases hne : place = r.place
    · subst hne
      refine .inr ⟨⟨r, find?_of_mem hr, hcond.2⟩, fun x hx => ?_⟩
      have hself := find?_put_self s.receipts { r with status := .completed, response := response }
      rw [← mem_unique hself hx]
    · exact .inl (find?_put_of_ne _ hne)

lemma does_releaseIdempotent : Does Effect (releaseIdempotent opts) := by
  refine does_atomically ?_ fun _ _ => effect_same
  intro s _ s' h
  obtain rfl := commits_deleteMany.mp h
  refine ⟨rfl, fun place => ?_⟩
  have hfind : (s.receipts.deleteMany fun r => r.place = opts.place && r.status = .processing).find? place =
      (s.receipts.find? place).filter fun r => !(r.place = opts.place && r.status = .processing) :=
    Table.find?_deleteMany
  cases hr : s.receipts.find? place with
  | none =>
    rw [hr] at hfind
    exact .inl (hfind.trans hr.symm)
  | some r =>
    rw [hr] at hfind
    by_cases hcond : (r.place = opts.place && r.status = .processing : Bool) = true
    · rw [Option.filter_some, hcond] at hfind
      simp only [cond_iff] at hcond
      refine .inr ⟨⟨r, hr, hcond.2⟩, fun x hx => ?_⟩
      cases hfind.symm.trans hx
    · rw [Option.filter_some, Bool.eq_false_iff.mpr hcond] at hfind
      exact .inl (hfind.trans hr.symm)

lemma steps_serveCall (request : ReceiptOptions × Ending) : (serveCall request).Steps Effect := by
  refine Does.bind does_beginIdempotent fun gate => ?_
  cases gate with
  | proceed =>
    change Does Effect (finish request.1 request.2)
    cases request.2 with
    | complete response => exact does_completeIdempotent
    | release => exact does_releaseIdempotent
    | nothing => exact does_pure
  | replay response => exact does_pure

/-! ### Who has been told -/

abbrev Tellings := ReceiptPlace → ℕ

def Label.tells (place : ReceiptPlace) : Label → ℕ
  | .told opts _ => if opts.place = place then 1 else 0
  | .quiet | .answered _ _ => 0

def countTellings (g : Tellings) (a : CallerAction) (p : CallerPool) : Tellings := fun place =>
  if p.state.runs place = true then g place + (a.label.elim 0 (Label.tells place)) else 0

def ToldStep : CallerPool × Tellings → CallerAction → CallerPool × Tellings → Prop :=
  Observed countTellings CallerStep

def AtMostOne (w : CallerPool × Tellings) : Prop := ∀ place, w.2 place ≤ 1

def ForRequest (a : CallerAction) (db : ReceiptDb) : Prop :=
  match a.label with
  | some (.told opts _) => ∃ r, db.receipt opts.place = some r ∧ r.requestHash = opts.requestHash
  | some (.answered opts response) => Answered opts response db
  | _ => True

def CompletedKept (db db' : ReceiptDb) : Prop :=
  ∀ place r, db.receipt place = some r → r.status = .completed → db'.receipt place = some r

/-- A caller is not told so while the receipt runs, unless the end of its time has already passed. -/
def TakesOverExpired (db : ReceiptDb) : Option Label → Prop
  | some (.told opts expiresAt) => db.runs opts.place = true → expiresAt ≤ db.now
  | some .quiet | some (.answered _ _) | none => True

instance (db : ReceiptDb) : ∀ l, Decidable (TakesOverExpired db l)
  | some (.told opts expiresAt) =>
    inferInstanceAs (Decidable (db.runs opts.place = true → expiresAt ≤ db.now))
  | some .quiet | some (.answered _ _) | none => isTrue trivial

def Counted (w : CallerPool × Tellings) : Prop := ∀ place, w.1.state.runs place = true ↔ 0 < w.2 place

lemma runs_iff : db.runs place = true ↔
    ∃ r, db.receipt place = some r ∧ r.status = .processing ∧ db.now < r.expiry := by
  simp [ReceiptDb.runs, Option.any_eq_true]

lemma runs_of_same (hnow : db'.now = db.now) (h : db'.receipt place = db.receipt place) :
    db'.runs place = db.runs place := by
  rw [ReceiptDb.runs, ReceiptDb.runs, h, hnow]

lemma runs_of_ends (hnow : db'.now = db.now) (h : Ends place db db') (hruns : db'.runs place = true) :
    db.runs place = true := by
  obtain hsame | ⟨_, hcompleted⟩ := h
  · rwa [← runs_of_same hnow hsame]
  · obtain ⟨r, hr, hprocessing, _⟩ := runs_iff.mp hruns
    cases hprocessing.symm.trans (hcompleted r hr)

lemma runs_of_clock (h : Clock db db') (hruns : db'.runs place = true) : db.runs place = true := by
  obtain ⟨now, hle, rfl⟩ := h
  obtain ⟨r, hr, hprocessing, hlt⟩ := runs_iff.mp hruns
  exact runs_iff.mpr ⟨r, hr, hprocessing, hle.trans_lt hlt⟩

lemma Told.runs_iff (h : Told opts expiresAt db db') (hnow : db'.now = db.now) :
    db'.runs opts.place = true ↔ db.now < expiresAt := by
  obtain ⟨r, hr, hprocessing, _, rfl⟩ := h.after
  rw [Idempotency.runs_iff, hnow]
  constructor
  · rintro ⟨x, hx, _, hlt⟩
    rwa [mem_unique hr hx]
  · exact fun hlt => ⟨r, hr, hprocessing, hlt⟩

lemma state_of_step {p p' : CallerPool} {a : CallerAction} (hsteps : p.Steps Effect) (h : CallerStep p a p') :
    StateStep Effect Clock p.state a.label p'.state :=
  hsteps.state h

lemma completedKept_of_effect (h : Effect db l db') : CompletedKept db db' := by
  intro place r hr hcompleted
  cases l with
  | quiet =>
    obtain hsame | ⟨⟨x, hx, hprocessing⟩, _⟩ := h.2 place
    · exact hsame.trans hr
    · rw [mem_unique hx hr, hcompleted] at hprocessing
      cases hprocessing
  | told opts expiresAt =>
    have htold : Told opts expiresAt db db' := h.2
    by_cases hplace : place = opts.place
    · subst hplace
      cases hcompleted.symm.trans (htold.before r hr)
    · exact (htold.others place hplace).trans hr
  | answered opts response =>
    obtain ⟨_, rfl, _⟩ := h
    exact hr

lemma completedKept_of_state {l : Option Label} (h : StateStep Effect Clock db l db') :
    CompletedKept db db' := by
  cases h with
  | step h => exact completedKept_of_effect h
  | idle => exact fun _ _ hr _ => hr
  | outside h =>
    obtain ⟨now, _, rfl⟩ := h
    exact fun _ _ hr _ => hr

lemma forRequest_of_state {a : CallerAction} (h : StateStep Effect Clock db a.label db') :
    ForRequest a db' := by
  rw [ForRequest]
  cases hl : a.label with
  | none => trivial
  | some l =>
    rw [hl] at h
    cases h with
    | step h =>
      cases l with
      | quiet => trivial
      | told opts expiresAt =>
        have htold : Told opts expiresAt db db' := h.2
        obtain ⟨r, hr, _, hhash, _⟩ := htold.after
        exact ⟨r, hr, hhash⟩
      | answered opts response =>
        obtain ⟨_, rfl, hanswered⟩ := h
        exact hanswered

lemma runs_of_state {l : Option Label} (h : StateStep Effect Clock db l db')
    (hl : l.elim 0 (Label.tells place) = 0) (hruns : db'.runs place = true) : db.runs place = true := by
  cases h with
  | idle => exact hruns
  | outside h => exact runs_of_clock h hruns
  | @step l _ h =>
    cases l with
    | quiet => exact runs_of_ends h.1 (h.2 place) hruns
    | told opts expiresAt =>
      have htold : Told opts expiresAt db db' := h.2
      have hne : place ≠ opts.place := by
        rintro rfl
        simp [Label.tells] at hl
      rwa [← runs_of_same h.1 (htold.others place hne)]
    | answered opts response =>
      obtain ⟨_, rfl, _⟩ := h
      exact hruns

lemma counted_of_step {w w' : CallerPool × Tellings} {a : CallerAction} (hcounted : Counted w)
    (hstate : StateStep Effect Clock w.1.state a.label w'.1.state) (hg : w'.2 = countTellings w.2 a w'.1) :
    Counted w' := by
  intro place
  rw [hg, countTellings]
  by_cases hruns : w'.1.state.runs place = true
  · rw [if_pos hruns]
    refine iff_of_true hruns ?_
    by_cases hl : a.label.elim 0 (Label.tells place) = 0
    · have hbefore := (hcounted place).mp (runs_of_state hstate hl hruns)
      omega
    · omega
  · rw [if_neg hruns]
    exact iff_of_false hruns (lt_irrefl 0)

lemma tells_ne_zero {l : Option Label} (h : l.elim 0 (Label.tells place) ≠ 0) :
    ∃ opts expiresAt, l = some (.told opts expiresAt) ∧ opts.place = place := by
  cases l with
  | none => exact absurd rfl h
  | some l =>
    cases l with
    | quiet | answered opts response => exact absurd rfl h
    | told opts expiresAt =>
      refine ⟨opts, expiresAt, rfl, ?_⟩
      by_contra hne
      simp [Label.tells, hne] at h

/-- After a step one caller at most counts exactly if it has not told a caller of a receipt that runs on. -/
lemma atMostOne_iff {w w' : CallerPool × Tellings} {a : CallerAction} (hcounted : Counted w)
    (hone : AtMostOne w)
    (hstate : StateStep Effect Clock w.1.state a.label w'.1.state) (hg : w'.2 = countTellings w.2 a w'.1) :
    AtMostOne w' ↔ TakesOverExpired w.1.state a.label := by
  constructor
  · intro hafter
    cases hl : a.label with
    | none => trivial
    | some l =>
      cases l with
      | quiet | answered opts response => trivial
      | told opts expiresAt =>
        intro hruns
        rw [hl] at hstate
        obtain ⟨⟨hnow, htold⟩⟩ := hstate
        have htold : Told opts expiresAt w.1.state w'.1.state := htold
        by_contra hlt
        have hcount := hafter opts.place
        rw [hg, countTellings, if_pos ((htold.runs_iff hnow).mpr (by omega)), hl] at hcount
        have hbefore := (hcounted opts.place).mp hruns
        simp only [Option.elim_some, Label.tells, if_true] at hcount
        omega
  · intro hexpired place
    rw [hg, countTellings]
    by_cases hruns : w'.1.state.runs place = true
    · rw [if_pos hruns]
      have hplace := hone place
      by_cases hl : a.label.elim 0 (Label.tells place) = 0
      · omega
      · obtain ⟨opts, expiresAt, hlabel, rfl⟩ := tells_ne_zero hl
        rw [hlabel] at hstate hexpired
        obtain ⟨⟨hnow, htold⟩⟩ := hstate
        have htold : Told opts expiresAt w.1.state w'.1.state := htold
        have hlt := (htold.runs_iff hnow).mp hruns
        have hzero : w.2 opts.place = 0 := by
          by_contra hne
          have hle := hexpired ((hcounted opts.place).mpr (Nat.pos_of_ne_zero hne))
          omega
        rw [hzero, hlabel]
        simp [Label.tells]
    · rw [if_neg hruns]
      exact Nat.zero_le 1

/-- The steps keep what is told apart: one caller at most is told while a receipt runs, what is told fits the
request, and a stored response stays. -/
def ToldRight (w : CallerPool × Tellings) (a : CallerAction) (w' : CallerPool × Tellings) : Prop :=
  AtMostOne w' ∧ ForRequest a w'.1.state ∧ CompletedKept w.1.state w'.1.state

/-- In every interleaving of callers that starts when no receipt runs, one caller at most is told while a receipt
runs, what is told fits the request, and a stored response stays, exactly if no receipt is taken over that still
runs. -/
theorem toldRight_iff {p : CallerPool} (hidle : p.Idle) (hrest : ∀ place, p.state.runs place = false)
    {as : List CallerAction} {w : CallerPool × Tellings} :
    Run (fun w a w' => ToldStep w a w' ∧ ToldRight w a w') (p, fun _ => 0) as w ↔
      Run (Guarded (fun w a => TakesOverExpired w.1.state a.label) ToldStep) (p, fun _ => 0) as w := by
  have hcounted : Counted (p, fun _ => 0) := fun place => iff_of_false (by simp [hrest]) (lt_irrefl 0)
  refine Run.and_iff_guarded_of_landing (J := fun w => w.1.Steps Effect ∧ Counted w) (I := AtMostOne)
    ?_ (fun _ _ _ h => h.1) ?_ ⟨hidle.steps, hcounted⟩ fun _ => Nat.zero_le 1
  · rintro w a w' ⟨hsteps, hcounted⟩ ⟨hstep, hg⟩
    exact ⟨hsteps.step steps_serveCall hstep, counted_of_step hcounted (state_of_step hsteps hstep) hg⟩
  · rintro w a w' ⟨hsteps, hcounted⟩ hone ⟨hstep, hg⟩
    have hstate := state_of_step hsteps hstep
    rw [← atMostOne_iff hcounted hone hstate hg]
    exact ⟨fun h => h.1, fun h => ⟨h, forRequest_of_state hstate, completedKept_of_state hstate⟩⟩

/-! ### An expired receipt -/

def payment : ReceiptOptions := ⟨1, "sales", "key-1", "hash-1"⟩

def crashed : CallerPool where
  state :=
    { now := 600000
      nextId := 1
      receipts := Table.empty.put
        { id := 0, companyId := 1, scope := "sales", key := "key-1", requestHash := "hash-1", createdAt := 0,
          expiresAt := some 600000 } }
  running := fun _ => none

def wait (ms : ℕ) (db : ReceiptDb) : ReceiptDb := { db with now := db.now + ms }

lemma clock_wait (ms : ℕ) (db : ReceiptDb) : Clock db (wait ms db) := ⟨db.now + ms, Nat.le_add_right _ _, rfl⟩

lemma crashed_rests (place : ReceiptPlace) : crashed.state.runs place = false := by
  rw [Bool.eq_false_iff]
  intro hruns
  obtain ⟨r, hr, _, hlt⟩ := runs_iff.mp hruns
  have hexpiry : ∀ x ∈ crashed.state.receipts.rows, x.expiry ≤ crashed.state.now := by decide +kernel
  have hle := hexpiry r (find?_eq_some.mp hr).1
  omega

theorem toldRight_later : ∃ as w,
    Run (fun w a w' => ToldStep w a w' ∧ ToldRight w a w') (crashed, fun _ => 0) as w ∧ w.2 payment.place = 1 := by
  obtain ⟨as, w, hrun, hone⟩ := Pool.exists_observed_of_watch serveCall clock_wait TakesOverExpired countTellings
    crashed (fun _ => 0)
    ([.start 0 (payment, .nothing), .start 1 (payment, .nothing)] ++ List.replicate 3 (.step 0) ++
      [.step 1, .step 1, .step 0, .outside 600000, .step 1, .step 1])
    (fun _ g => g payment.place = 1) (by decide +kernel)
  have hguarded : Run (Guarded (fun w a => TakesOverExpired w.1.state a.label) ToldStep) (crashed, fun _ => 0) as w :=
    hrun.mono fun _ _ _ h => ⟨h.1.1, h.2⟩
  exact ⟨as, w, (toldRight_iff (fun _ => rfl) crashed_rests).mpr hguarded, hone⟩

/-- Two callers read the receipt; then both of them take it over. -/
theorem not_atMostOne_twice : ∃ as w, Run ToldStep (crashed, fun _ => 0) as w ∧ w.2 payment.place = 2 ∧
    ¬ AtMostOne w := by
  obtain ⟨as, w, hrun, htwo⟩ := Pool.exists_observed_of_watch serveCall clock_wait
    (fun _ _ => True) countTellings
    crashed (fun _ => 0)
    ([.start 0 (payment, .nothing), .start 1 (payment, .nothing)] ++ List.replicate 3 (.step 0) ++
      List.replicate 3 (.step 1) ++ [.step 0, .step 1])
    (fun _ g => g payment.place = 2) (by decide +kernel)
  refine ⟨as, w, hrun.of_guarded, htwo, fun hone => ?_⟩
  have hle := hone payment.place
  omega

end Mayatoko.Idempotency
