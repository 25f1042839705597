import Mayatoko.Common.UtcDate
import Mayatoko.Core.Store

/-!
# Document numbers

`nextDocumentNumber` draws the next number of a company, branch and document type. The row of the
sequence holds the next number and the instant of the last draw; `now` is the clock reading of
the call. The counter is an unbounded integer and the slug of a company is taken as already
trimmed.
-/

namespace Mayatoko.Common

open Core

inductive ResetPolicy
  | monthly
  | yearly
  | never
  deriving DecidableEq

structure Company where
  id : ℕ
  slug : Option String := none

structure Branch where
  (id companyId : ℕ)
  code : String

structure NumberSequence where
  companyId : ℕ
  branchId : Option ℕ
  documentType : String
  nextNumber : ℤ := 1
  lastResetAt : Option ℕ := none
  deriving DecidableEq

def NumberSequence.key (r : NumberSequence) : ℕ × Option ℕ × String :=
  (r.companyId, r.branchId, r.documentType)

structure NumberingDb where
  companies : Table Company.id
  branches : Table Branch.id
  sequences : Table NumberSequence.key

def numberSequence : TableOf NumberingDb NumberSequence.key :=
  ⟨NumberingDb.sequences, fun db t => { db with sequences := t }⟩

/-- A transaction that throws an `Error` with a message. -/
abbrev NumberingTx := Tx NumberingDb String

structure NumberOptions where
  companyId : ℕ
  branchId : Option ℕ
  (documentType documentPrefix : String)
  padding : ℕ := 6
  resetPolicy : ResetPolicy := .monthly

def NumberOptions.key (opts : NumberOptions) : ℕ × Option ℕ × String :=
  (opts.companyId, opts.branchId, opts.documentType)

/-! ### The model -/

def resolveDocumentScopeCode (companyId : ℕ) (branchId : Option ℕ) : NumberingTx String := do
  let db ← get
  match branchId with
  | some branchId => do
    let branch ← orThrow
      ((db.branches.find? branchId).filter fun b => b.companyId = companyId)
      "Branch nomor dokumen tidak ditemukan pada company yang diminta."
    pure branch.code
  | none => do
    let company ← orThrow (db.companies.find? companyId)
      "Company nomor dokumen tidak ditemukan."
    pure ((company.slug.filter (· ≠ "")).getD (toString companyId))

def yearMonthText (now : ℕ) : String :=
  toString (getUTCFullYear now) ++ padStart (toString (getUTCMonth now + 1)) 2 '0'

def formatNumber (documentPrefix scopeCode : String) (now : ℕ) (seq : ℤ) (padding : ℕ) : String :=
  documentPrefix ++ "-" ++ scopeCode ++ "-" ++ yearMonthText now ++ "-" ++
    padStart (toString seq) padding '0'

def periodOf : ResetPolicy → ℕ → String
  | .never, _ => "ALL"
  | .yearly, now => toString (getUTCFullYear now)
  | .monthly, now => yearMonthText now

/-- The number a call wants to use: it starts again at one when the row was last used in another
period. -/
def currentNumber (policy : ResetPolicy) (now : ℕ) (row : NumberSequence) : ℤ :=
  match row.lastResetAt with
  | some lastResetAt =>
    if policy ≠ .never ∧ periodOf policy lastResetAt ≠ periodOf policy now then 1
    else row.nextNumber
  | none => row.nextNumber

def newSequence (opts : NumberOptions) (now : ℕ) : NumberSequence where
  companyId := opts.companyId
  branchId := opts.branchId
  documentType := opts.documentType
  lastResetAt := some now

def findSequence (opts : NumberOptions) (now : ℕ) : NumberingTx NumberSequence := do
  let db ← get
  match db.sequences.find? opts.key with
  | some row => pure row
  | none => do
    numberSequence.create (newSequence opts now) "Unique constraint failed"
    pure (newSequence opts now)

/-- The guard of the update is on the stored counter, which `currentNumber` may have left for
one. -/
def nextDocumentNumber (opts : NumberOptions) (now : ℕ) : NumberingTx String := do
  let scopeCode ← resolveDocumentScopeCode opts.companyId opts.branchId
  let row ← findSequence opts now
  let current := currentNumber opts.resetPolicy now row
  numberSequence.updateOne (fun r => r.key = row.key && r.nextNumber = current)
    (fun r => { r with nextNumber := current + 1, lastResetAt := some now })
    s!"Konflik sequence {opts.documentType}; ulangi transaksi."
  pure (formatNumber opts.documentPrefix scopeCode now current opts.padding)

lemma minus_not_mem_yearMonthText (now : ℕ) : '-' ∉ (yearMonthText now).toList := by
  simp [yearMonthText, List.leftpad, minus_not_mem_toDigits]

lemma formatNumber_injective {documentPrefix scopeCode : String} {padding t t' : ℕ} {m n : ℤ}
    (h : formatNumber documentPrefix scopeCode t m padding =
      formatNumber documentPrefix scopeCode t' n padding) : m = n := by
  have hlist := congrArg String.toList h
  simp only [formatNumber, String.toList_append, append_assoc] at hlist
  replace hlist := List.append_cancel_left (List.append_cancel_left (List.append_cancel_left
    (List.append_cancel_left hlist)))
  obtain ⟨_, hseq⟩ := append_cons_inj (minus_not_mem_yearMonthText t) (minus_not_mem_yearMonthText t') hlist
  exact padStart_injective padding (String.toList_inj.mp hseq)

/-! ### One call -/

variable {opts : NumberOptions} {db db' : NumberingDb} {now : ℕ}

/-- The scope code that `resolveDocumentScopeCode` finds. -/
def NumberingDb.scopeCode (db : NumberingDb) (companyId : ℕ) : Option ℕ → Option String
  | some branchId =>
    ((db.branches.find? branchId).filter fun b => b.companyId = companyId).map Branch.code
  | none => (db.companies.find? companyId).map fun c =>
    (c.slug.filter (· ≠ "")).getD (toString companyId)

variable {code : String}

lemma resolveDocumentScopeCode_commits {companyId : ℕ} {branchId : Option ℕ} :
    Commits (resolveDocumentScopeCode companyId branchId) db code db' ↔
      db.scopeCode companyId branchId = some code ∧ db = db' := by
  cases branchId with
  | none =>
    simp only [resolveDocumentScopeCode, NumberingDb.scopeCode, commits_bind, commits_get,
      commits_orThrow, commits_pure, Option.map_eq_some_iff]
    constructor
    · rintro ⟨_, _, ⟨rfl, rfl⟩, c, _, ⟨hc, rfl⟩, hcode, rfl⟩
      exact ⟨⟨c, hc, hcode⟩, rfl⟩
    · rintro ⟨⟨c, hc, hcode⟩, rfl⟩
      exact ⟨db, db, ⟨rfl, rfl⟩, c, db, ⟨hc, rfl⟩, hcode, rfl⟩
  | some branchId =>
    simp only [resolveDocumentScopeCode, NumberingDb.scopeCode, commits_bind, commits_get,
      commits_orThrow, commits_pure, Option.map_eq_some_iff]
    constructor
    · rintro ⟨_, _, ⟨rfl, rfl⟩, b, _, ⟨hb, rfl⟩, hcode, rfl⟩
      exact ⟨⟨b, hb, hcode⟩, rfl⟩
    · rintro ⟨⟨b, hb, hcode⟩, rfl⟩
      exact ⟨db, db, ⟨rfl, rfl⟩, b, db, ⟨hb, rfl⟩, hcode, rfl⟩

def NumberingDb.sequenceRow (db : NumberingDb) (opts : NumberOptions) (now : ℕ) : NumberSequence :=
  (db.sequences.find? opts.key).getD (newSequence opts now)

lemma findSequence_commits {row : NumberSequence} (h : Commits (findSequence opts now) db row db') :
    row = db.sequenceRow opts now ∧ db'.sequences.find? opts.key = some row ∧
      db'.companies = db.companies ∧ db'.branches = db.branches := by
  simp only [findSequence, commits_steps] at h
  obtain h := h
  rw [NumberingDb.sequenceRow]
  cases hrow : db.sequences.find? opts.key with
  | some r =>
    rw [hrow] at h
    obtain ⟨rfl, rfl⟩ := commits_pure.mp h
    exact ⟨rfl, hrow, rfl, rfl⟩
  | none =>
    rw [hrow] at h
    obtain ⟨_, _, hcreate, hpure⟩ := commits_bind.mp h
    obtain ⟨_, rfl⟩ := TableOf.commits_create.mp hcreate
    obtain ⟨rfl, rfl⟩ := commits_pure.mp hpure
    exact ⟨rfl, find?_put_self _ _, rfl, rfl⟩

lemma findSequence_total (opts : NumberOptions) (now : ℕ) (db : NumberingDb) :
    ∃ db', Commits (findSequence opts now) db (db.sequenceRow opts now) db' := by
  simp only [findSequence, commits_bind, commits_get, NumberingDb.sequenceRow]
  cases hrow : db.sequences.find? opts.key with
  | some r => exact ⟨db, db, db, ⟨rfl, rfl⟩, by rw [hrow]; exact commits_pure.mpr ⟨rfl, rfl⟩⟩
  | none =>
    refine ⟨numberSequence.write db (newSequence opts now), db, db, ⟨rfl, rfl⟩, ?_⟩
    rw [hrow]
    exact commits_bind.mpr ⟨(), _, TableOf.commits_create.mpr ⟨hrow, rfl⟩, commits_pure.mpr ⟨rfl, rfl⟩⟩

lemma nextDocumentNumber_commits {text : String} (h : Commits (nextDocumentNumber opts now) db text db') :
    ∃ code, db.scopeCode opts.companyId opts.branchId = some code ∧
      currentNumber opts.resetPolicy now (db.sequenceRow opts now) =
        (db.sequenceRow opts now).nextNumber ∧
      text = formatNumber opts.documentPrefix code now (db.sequenceRow opts now).nextNumber
        opts.padding ∧
      db'.sequences.find? opts.key = some { db.sequenceRow opts now with
        nextNumber := (db.sequenceRow opts now).nextNumber + 1, lastResetAt := some now } ∧
      db'.companies = db.companies ∧ db'.branches = db.branches := by
  simp only [nextDocumentNumber, commits_steps] at h
  obtain ⟨code, _, hscope, row, t, hrow, _, t', hbump, htext, rfl⟩ := h
  obtain ⟨hcode, rfl⟩ := resolveDocumentScopeCode_commits.mp hscope
  obtain ⟨rfl, hfind, hcompanies, hbranches⟩ := findSequence_commits hrow
  obtain ⟨r, hr, hguard, rfl⟩ := TableOf.updateOne_commits hbump
  simp only [cond_iff] at hguard
  obtain ⟨hmem, hkey⟩ := find?_eq_some.mp hfind
  obtain rfl := eq_of_key_eq hr hmem hguard.1
  refine ⟨code, hcode, hguard.2.symm, ?_, ?_, hcompanies, hbranches⟩
  · rw [← htext, hguard.2]
  · rw [← hkey, hguard.2]
    exact find?_put_self _ _

lemma nextDocumentNumber_succeeds
    (hcode : db.scopeCode opts.companyId opts.branchId = some code)
    (hcur : currentNumber opts.resetPolicy now (db.sequenceRow opts now) =
      (db.sequenceRow opts now).nextNumber) :
    ∃ text db', Commits (nextDocumentNumber opts now) db text db' := by
  obtain ⟨t, hrow⟩ := findSequence_total opts now db
  obtain ⟨_, hfind, _, _⟩ := findSequence_commits hrow
  obtain ⟨hmem, hkey⟩ := find?_eq_some.mp hfind
  simp only [nextDocumentNumber, commits_bind, commits_pure]
  refine ⟨_, _, code, db, resolveDocumentScopeCode_commits.mpr ⟨hcode, rfl⟩, _, t, hrow, (), _,
    TableOf.commits_updateOne_of_mem hmem fun r hr => ?_, rfl, rfl⟩
  simp only [cond_iff]
  constructor
  · rintro ⟨hk, _⟩
    exact eq_of_key_eq hr hmem hk
  · rintro rfl
    exact ⟨rfl, hcur.symm⟩

/-! ### Runs of calls -/

abbrev NumberCall := ℕ × Except String String

def NumberStep (opts : NumberOptions) (db : NumberingDb) (c : NumberCall) (db' : NumberingDb) :
    Prop := execute (nextDocumentNumber opts c.1) db = (c.2, db')

/-- The value `seq` at `now` follows the previous draw: in the period of that draw it is the next
value, and the first value of a period is one. -/
def Continues (policy : ResetPolicy) (previous : Option (ℕ × ℤ)) (now : ℕ) (seq : ℤ) : Prop :=
  match previous with
  | some (t, n) => if periodOf policy t = periodOf policy now then seq = n + 1 else seq = 1
  | none => seq = 1

def InSequence (opts : NumberOptions) (scopeCode : String) :
    Option (ℕ × ℤ) → List NumberCall → Prop
  | _, [] => True
  | previous, c :: calls => ∃ seq,
    c.2 = .ok (formatNumber opts.documentPrefix scopeCode c.1 seq opts.padding) ∧
      Continues opts.resetPolicy previous c.1 seq ∧
      InSequence opts scopeCode (some (c.1, seq)) calls

/-- The instant and the value of the last draw from the sequence. -/
def NumberingDb.previous (db : NumberingDb) (opts : NumberOptions) : Option (ℕ × ℤ) :=
  (db.sequences.find? opts.key).bind fun r => r.lastResetAt.map fun t => (t, r.nextNumber - 1)

/-- What a run of calls should return: values in sequence, and no text twice. -/
def NumbersRight (opts : NumberOptions) (db : NumberingDb) (calls : List NumberCall) : Prop :=
  InSequence opts ((db.scopeCode opts.companyId opts.branchId).getD "") (db.previous opts) calls ∧
    (calls.map Prod.snd).Nodup

/-- The stored counter is good for a call: there is none yet, it was last used in the period of
the call, or it stands at one. -/
def Ready (opts : NumberOptions) (db : NumberingDb) (now : ℕ) : Prop :=
  ∀ row, db.sequences.find? opts.key = some row →
    (∃ t, row.lastResetAt = some t ∧
      periodOf opts.resetPolicy t = periodOf opts.resetPolicy now) ∨ row.nextNumber = 1

def Numberable (opts : NumberOptions) (db : NumberingDb) (c : NumberCall) : Prop :=
  (db.scopeCode opts.companyId opts.branchId).isSome ∧ Ready opts db c.1

def NumberingDb.upcoming (db : NumberingDb) (opts : NumberOptions) : ℤ :=
  (db.sequences.find? opts.key).elim 1 NumberSequence.nextNumber

lemma nextNumber_sequenceRow : (db.sequenceRow opts now).nextNumber = db.upcoming opts := by
  rw [NumberingDb.sequenceRow, NumberingDb.upcoming]
  cases db.sequences.find? opts.key with
  | none => rfl
  | some row => rfl

lemma ready_iff : Ready opts db now ↔ currentNumber opts.resetPolicy now (db.sequenceRow opts now) =
        (db.sequenceRow opts now).nextNumber ∧
      Continues opts.resetPolicy (db.previous opts) now (db.upcoming opts) := by
  unfold Ready NumberingDb.sequenceRow NumberingDb.previous NumberingDb.upcoming
  cases hrow : db.sequences.find? opts.key with
  | none => simp [currentNumber, newSequence, Continues]
  | some row =>
    cases hlast : row.lastResetAt with
    | none => simp [currentNumber, Continues, hlast]
    | some t =>
      by_cases hp : periodOf opts.resetPolicy t = periodOf opts.resetPolicy now
      · simp [currentNumber, Continues, hlast, hp]
      · have hnever : opts.resetPolicy ≠ .never := by
          intro h
          rw [h] at hp
          exact hp rfl
        simp only [currentNumber, Continues, hlast, hp, Option.some.injEq, Option.bind_some,
          Option.map_some, Option.elim_some, Option.getD_some, forall_eq', exists_eq_left']
        simp only [hp, hnever, ne_eq, not_false_eq_true, and_self, if_true, if_false, false_or]
        exact ⟨fun h => ⟨h.symm, h⟩, fun h => h.2⟩

variable {c : NumberCall}

lemma NumberStep.of_numberable (hg : Numberable opts db c) (h : NumberStep opts db c db') :
    c.2 = .ok (formatNumber opts.documentPrefix
        ((db.scopeCode opts.companyId opts.branchId).getD "") c.1 (db.upcoming opts)
        opts.padding) ∧
      db'.scopeCode = db.scopeCode ∧ db'.previous opts = some (c.1, db.upcoming opts) ∧
      db'.upcoming opts = db.upcoming opts + 1 := by
  obtain ⟨hscope, hready⟩ := hg
  obtain ⟨code, hcode⟩ := Option.isSome_iff_exists.mp hscope
  obtain ⟨hcur, _⟩ := ready_iff.mp hready
  obtain ⟨text, t, hc⟩ := nextDocumentNumber_succeeds hcode hcur
  have hexec := (execute_of_commits hc).symm.trans h
  rw [Prod.mk.injEq] at hexec
  obtain ⟨hres, rfl⟩ := hexec
  obtain ⟨code', hcode', _, htext, hfind, hcompanies, hbranches⟩ := nextDocumentNumber_commits hc
  refine ⟨?_, ?_, ?_, ?_⟩
  · rw [← hres, htext, hcode', Option.getD_some, nextNumber_sequenceRow]
  · funext companyId branchId
    cases branchId <;> simp [NumberingDb.scopeCode, hcompanies, hbranches]
  · rw [NumberingDb.previous, hfind]
    simp [nextNumber_sequenceRow]
  · rw [NumberingDb.upcoming, hfind]
    simp [nextNumber_sequenceRow]

lemma NumberStep.numberable {seq : ℤ}
    (hcode : (db.scopeCode opts.companyId opts.branchId).getD "" = code)
    (hres : c.2 = .ok (formatNumber opts.documentPrefix code c.1 seq opts.padding))
    (hseq : Continues opts.resetPolicy (db.previous opts) c.1 seq)
    (h : NumberStep opts db c db') : Numberable opts db c ∧ seq = db.upcoming opts := by
  have hc := commits_of_execute (congrArg Prod.fst h |>.trans hres)
  obtain ⟨code', hcode', hcur, htext, _⟩ := nextDocumentNumber_commits hc
  rw [hcode', Option.getD_some] at hcode
  subst hcode
  have hval : seq = db.upcoming opts := by
    rw [← nextNumber_sequenceRow]
    exact formatNumber_injective htext
  refine ⟨⟨by rw [hcode']; rfl, ready_iff.mpr ⟨hcur, ?_⟩⟩, hval⟩
  rw [← hval]
  exact hseq

variable {calls : List NumberCall}

lemma result_of_guarded
    (h : Run (Guarded (Numberable opts) (NumberStep opts)) db calls db')
    (hcode : (db.scopeCode opts.companyId opts.branchId).getD "" = code) :
    ∀ c ∈ calls, ∃ seq, db.upcoming opts ≤ seq ∧
      c.2 = .ok (formatNumber opts.documentPrefix code c.1 seq opts.padding) := by
  induction h with
  | nil => simp
  | @cons s t u a calls hstep hrun ih =>
    obtain ⟨hres, hscope, _, hup⟩ := NumberStep.of_numberable hstep.1 hstep.2
    have ih := ih (by rw [hscope]; exact hcode)
    intro c hc
    rcases mem_cons.mp hc with rfl | hc
    · exact ⟨_, le_rfl, by rw [← hcode]; exact hres⟩
    · obtain ⟨seq, hle, hseq⟩ := ih c hc
      exact ⟨seq, by omega, hseq⟩

lemma nodup_of_guarded
    (h : Run (Guarded (Numberable opts) (NumberStep opts)) db calls db') :
    (calls.map Prod.snd).Nodup := by
  induction h with
  | nil => exact List.nodup_nil
  | @cons s t u a calls hstep hrun ih =>
    obtain ⟨hres, hscope, _, hup⟩ := NumberStep.of_numberable hstep.1 hstep.2
    rw [map_cons, nodup_cons]
    refine ⟨fun hmem => ?_, ih⟩
    obtain ⟨c, hc, hca⟩ := mem_map.mp hmem
    obtain ⟨seq, hle, hseq⟩ := result_of_guarded hrun rfl c hc
    rw [hca, hres, hscope, Except.ok.injEq] at hseq
    have := formatNumber_injective hseq
    omega

lemma inSequence_iff (h : Run (NumberStep opts) db calls db')
    (hcode : (db.scopeCode opts.companyId opts.branchId).getD "" = code) :
    InSequence opts code (db.previous opts) calls ↔
      Run (Guarded (Numberable opts) (NumberStep opts)) db calls db' := by
  induction h with
  | nil s => simp [InSequence, Run.nil_iff]
  | @cons s t u c calls hstep hrun ih =>
    rw [InSequence, Run.cons_iff]
    constructor
    · rintro ⟨seq, hres, hcont, hrest⟩
      obtain ⟨hg, rfl⟩ := NumberStep.numberable hcode hres hcont hstep
      obtain ⟨_, hscope, hprev, _⟩ := NumberStep.of_numberable hg hstep
      rw [← hprev] at hrest
      exact ⟨t, ⟨hg, hstep⟩, (ih (by rw [hscope]; exact hcode)).mp hrest⟩
    · rintro ⟨t', ⟨hg, hstep'⟩, hrest⟩
      obtain rfl : t = t' := congrArg Prod.snd (hstep.symm.trans hstep')
      obtain ⟨hres, hscope, hprev, _⟩ := NumberStep.of_numberable hg hstep
      refine ⟨s.upcoming opts, by rw [← hcode]; exact hres, (ready_iff.mp hg.2).2, ?_⟩
      rw [← hprev]
      exact (ih (by rw [hscope]; exact hcode)).mpr hrest

/-- A run of calls returns the right numbers exactly if at every call the company or branch exists
and the stored counter was last used in the period of the call, stands at one, or is new. -/
theorem numbersRight_iff {calls : List NumberCall} (h : Run (NumberStep opts) db calls db') :
    NumbersRight opts db calls ↔
      Run (Guarded (Numberable opts) (NumberStep opts)) db calls db' := by
  constructor
  · rintro ⟨hseq, _⟩
    exact (inSequence_iff h rfl).mp hseq
  · intro hg
    exact ⟨(inSequence_iff h rfl).mpr hg, nodup_of_guarded hg⟩

def callAll (opts : NumberOptions) : NumberingDb → List ℕ → List NumberCall × NumberingDb
  | db, [] => ([], db)
  | db, now :: rest =>
    let r := execute (nextDocumentNumber opts now) db
    let tail := callAll opts r.2 rest
    ((now, r.1) :: tail.1, tail.2)

lemma run_callAll (opts : NumberOptions) (db : NumberingDb) (times : List ℕ) :
    Run (NumberStep opts) db (callAll opts db times).1 (callAll opts db times).2 := by
  induction times generalizing db with
  | nil => exact Run.nil db
  | cons now rest ih => exact Run.cons rfl (ih _)

def newBranch : NumberingDb where
  companies := Table.empty.put { id := 1 }
  branches := Table.empty.put { id := 1, companyId := 1, code := "JKT" }
  sequences := .empty

def saleNumbers : NumberOptions where
  companyId := 1
  branchId := some 1
  documentType := "SALE"
  documentPrefix := "POS"

example : (callAll saleNumbers newBranch [1768435200000, 1768435200000, 1771113600000]).1 =
    [(1768435200000, .ok "POS-JKT-202601-000001"), (1768435200000, .ok "POS-JKT-202601-000002"),
      (1771113600000, .error "Konflik sequence SALE; ulangi transaksi.")] := by
  decide +kernel

/-- A number drawn on 15 January 2026 and one on 15 February: the second call throws. -/
theorem numbersRight_fails_nextMonth : Run (NumberStep saleNumbers) newBranch
        (callAll saleNumbers newBranch [1768435200000, 1771113600000]).1
        (callAll saleNumbers newBranch [1768435200000, 1771113600000]).2 ∧
      ¬ NumbersRight saleNumbers newBranch
        (callAll saleNumbers newBranch [1768435200000, 1771113600000]).1 := by
  refine ⟨run_callAll _ _ _, ?_⟩
  rintro ⟨⟨_, _, _, _, hres, _⟩, _⟩
  have herror : (execute (nextDocumentNumber saleNumbers 1771113600000)
      (execute (nextDocumentNumber saleNumbers 1768435200000) newBranch).2).1 =
        .error "Konflik sequence SALE; ulangi transaksi." := by decide +kernel
  cases herror.symm.trans hres

theorem numbersRight_sameMonth : NumbersRight saleNumbers newBranch
      (callAll saleNumbers newBranch [1768435200000, 1768521600000]).1 := by
  have hfirst : Ready saleNumbers newBranch 1768435200000 := by
    intro row hrow
    cases hrow
  have hsecond : Ready saleNumbers
      (execute (nextDocumentNumber saleNumbers 1768435200000) newBranch).2 1768521600000 := by
    intro row hrow
    have hfind : (execute (nextDocumentNumber saleNumbers 1768435200000) newBranch).2.sequences.find?
        saleNumbers.key = some ⟨1, some 1, "SALE", 2, some 1768435200000⟩ := by decide +kernel
    obtain rfl := mem_unique hfind hrow
    exact .inl ⟨_, rfl, by decide +kernel⟩
  exact (numbersRight_iff (run_callAll _ _ _)).mpr (Run.cons ⟨⟨by decide +kernel, hfirst⟩, rfl⟩
      (Run.cons ⟨⟨by decide +kernel, hsecond⟩, rfl⟩ (Run.nil _)))

end Mayatoko.Common
