import Mayatoko.Banking.Statements

/-!
# Imports are repeated, not made twice

A request that is sent again should return the statement of the first import and create nothing, and a request
with the same source and file name and another payload should be refused. The name is looked up as it is sent
and stored trimmed, balances and lines are compared with what the columns made of them, a missing balance
counts as zero, and a line is compared by one joined text. So it depends on the requests.
-/

namespace Mayatoko.Banking

open Core TableOf
open Transit (TenantScope)
open Extensions (assertRequestedScope)

variable {host : Host} {db db' : StatementDb} {scope : TenantScope} {dto : ImportBankStatementDto}
  {p : Prepared} {existing : BankStatement} {id : ℕ}

/-! ### Keys -/

def Entry.stored (e : Entry) : Entry where
  transactionDate := e.transactionDate
  description := e.description
  reference := e.reference
  debit := toDecimalPlaces e.debit 2
  credit := toDecimalPlaces e.credit 2
  balance := e.balance.map fun x => toDecimalPlaces x 2

def Entry.Cents (e : Entry) : Prop := IsCents e.debit ∧ IsCents e.credit ∧ ∀ x ∈ e.balance, IsCents x

lemma Entry.stored_eq_self {e : Entry} : e.stored = e ↔ e.Cents := by
  obtain ⟨date, description, reference, debit, credit, balance⟩ := e
  simp only [Entry.stored, Entry.Cents, Entry.mk.injEq, true_and, ← isCents_iff]
  cases balance with
  | none => simp
  | some x => simp [isCents_iff]

lemma Entry.cents_stored (e : Entry) : e.stored.Cents := by
  refine ⟨isCents_toDecimalPlaces _, isCents_toDecimalPlaces _, ?_⟩
  intro x hx
  obtain ⟨y, _, rfl⟩ := Option.map_eq_some_iff.mp (Option.mem_def.mp hx)
  exact isCents_toDecimalPlaces y

lemma bar_not_mem_text (x : ℚ) : '|' ∉ (host.numbers.text x).toList := by
  intro h
  have hplain := host.numbers.plain x _ h
  revert hplain
  decide

lemma balanceText_injective : Function.Injective fun b : Option ℚ => b.elim "" host.numbers.text := by
  have hne (x : ℚ) : host.numbers.text x ≠ "" := fun h =>
    host.numbers.nonempty x (by rw [h]; rfl)
  rintro (_ | x) (_ | y) h
  · rfl
  · exact absurd h.symm (hne y)
  · exact absurd h (hne x)
  · exact congrArg some (host.numbers.injective h)

lemma bar_not_mem_balanceText (b : Option ℚ) : '|' ∉ (b.elim "" host.numbers.text).toList := by
  cases b with
  | none => simp
  | some x => exact bar_not_mem_text x

lemma bar_join_inj {a b c d : String} (hb : '|' ∉ b.toList) (hd : '|' ∉ d.toList)
    (h : a ++ "|" ++ b = c ++ "|" ++ d) : a = c ∧ b = d := by
  have htexts := congrArg String.toList h
  have hbar : "|".toList = ['|'] := rfl
  simp only [String.toList_append, hbar, append_assoc, List.singleton_append] at htexts
  obtain ⟨hac, hbd⟩ := append_cons_inj_last hb hd htexts
  exact ⟨String.toList_injective hac, String.toList_injective hbd⟩

lemma key_amounts {e f : Entry} (h : key host e = key host f) :
    e.debit = f.debit ∧ e.credit = f.credit ∧ e.balance = f.balance := by
  obtain ⟨h, hbalance⟩ := bar_join_inj (bar_not_mem_balanceText _) (bar_not_mem_balanceText _) h
  obtain ⟨h, hcredit⟩ := bar_join_inj (bar_not_mem_text _) (bar_not_mem_text _) h
  obtain ⟨_, hdebit⟩ := bar_join_inj (bar_not_mem_text _) (bar_not_mem_text _) h
  exact ⟨host.numbers.injective hdebit, host.numbers.injective hcredit, balanceText_injective hbalance⟩

lemma Entry.Cents.of_key_eq {e f : Entry} (he : e.Cents) (h : key host e = key host f) : f.Cents := by
  obtain ⟨hdebit, hcredit, hbalance⟩ := key_amounts h
  rw [Entry.Cents, ← hdebit, ← hcredit, ← hbalance]
  exact he

lemma keys_stored_perm {entries : List Entry} :
    ((entries.map Entry.stored).map (key host)).Perm (entries.map (key host)) ↔ ∀ e ∈ entries, e.Cents := by
  constructor
  · intro h e he
    obtain ⟨_, hf, hkey⟩ := mem_map.mp (h.symm.mem_iff.mp (mem_map_of_mem he))
    obtain ⟨f, _, rfl⟩ := mem_map.mp hf
    exact f.cents_stored.of_key_eq hkey
  · intro h
    have hsame : entries.map Entry.stored = entries :=
      (map_congr_left fun e he => Entry.stored_eq_self.mpr (h e he)).trans (List.map_id _)
    rw [hsame]

lemma someDiffers_eq_false {a b : List String} (hlength : a.length = b.length) :
    someDiffers a b = false ↔ a = b := by
  simp only [someDiffers, List.any_eq_false, decide_eq_true_eq, not_not]
  constructor
  · intro h
    refine List.ext_getElem hlength fun i hi _ => ?_
    have hsome := h (a[i], i) (List.mk_mem_zipIdx_iff_getElem?.mpr (List.getElem?_eq_getElem hi))
    exact (List.getElem_eq_iff _).mpr hsome |>.symm
  · rintro rfl k hk
    exact List.mk_mem_zipIdx_iff_getElem?.mp hk

lemma keys_agree {e f : List Entry} (hlength : e.length = f.length) :
    ¬ someDiffers (sortedKeys host e) (sortedKeys host f) = true ↔
      (e.map (key host)).Perm (f.map (key host)) := by
  rw [Bool.not_eq_true, someDiffers_eq_false (by simp [sortedKeys, hlength])]
  constructor
  · intro h
    have hsorted : (sortedKeys host e).Perm (f.map (key host)) := h ▸ List.perm_insertionSort _ _
    exact (List.perm_insertionSort _ _).symm.trans hsorted
  · intro h
    refine List.Perm.eq_of_pairwise' (List.pairwise_insertionSort _ _) (List.pairwise_insertionSort _ _) ?_
    exact (List.perm_insertionSort _ _).trans (h.trans (List.perm_insertionSort _ _).symm)

/-! ### What an import does -/

/-- The request passes the checks that read no statement. -/
structure Passes (host : Host) (db : StatementDb) (scope : TenantScope) (dto : ImportBankStatementDto)
    (p : Prepared) : Prop where
  company : dto.companyId.all (· = scope.companyId) = true
  branch : dto.branchId.all (· = scope.branchId) = true
  named : trim dto.fileName ≠ ""
  nonempty : dto.lines ≠ []
  account : (db.bankAccount scope dto.bankAccountId).isSome = true
  prepared : prepare host dto = .ok p
  dates : p.datesValid = true

def Agrees (host : Host) (existing : BankStatement) (lines : List BankStatementLine)
    (dto : ImportBankStatementDto) (p : Prepared) : Prop :=
  sameHeader existing lines.length dto p = true ∧
    ((lines.map BankStatementLine.entry).map (key host)).Perm
      ((p.lines.map NormalizedLine.toEntry).map (key host))

/-- The request can be stored: its balances are not null and all amounts fit their columns. -/
structure Storable (dto : ImportBankStatementDto) (p : Prepared) : Prop where
  opening : dto.openingBalance ≠ .null
  closing : dto.closingBalance ≠ .null
  openingFits : dto.openingBalance.value?.all fits = true
  closingFits : dto.closingBalance.value?.all fits = true
  linesFit : ∀ l ∈ p.lines, l.toEntry.fits = true

def createdStatement (scope : TenantScope) (dto : ImportBankStatementDto) (p : Prepared) (db : StatementDb) :
    BankStatement :=
  newStatement scope dto p db.nextId dto.openingBalance.value? dto.closingBalance.value?

def createdLines (p : Prepared) (db : StatementDb) : List BankStatementLine :=
  newLines db.nextId (db.nextId + 1) p.lines

def created (scope : TenantScope) (dto : ImportBankStatementDto) (p : Prepared) (db : StatementDb) :
    StatementDb :=
  { db with
    nextId := db.nextId + 1 + p.lines.length
    statements := db.statements.put (createdStatement scope dto p db)
    lines := (createdLines p db).foldl Table.put db.lines }

lemma OptionalNumber.decimal_eq_ok {n : OptionalNumber} {x : Option ℚ} :
    n.decimal = .ok x ↔ n ≠ .null ∧ n.value? = x := by
  cases n with
  | undefined => simp [decimal, value?]
  | null => simp [decimal]
  | value y => simp [decimal, value?]

variable {r : BankStatement × List BankStatementLine}

lemma createStatement_commits (hdates : p.datesValid = true) : Commits (createStatement scope dto p) db r db' ↔
      Storable dto p ∧ r = (createdStatement scope dto p db, createdLines p db) ∧
        db' = created scope dto p db := by
  simp only [createStatement, commits_bind, commits_ofExcept, commits_require, commits_get, commits_set,
    commits_pure, OptionalNumber.decimal_eq_ok]
  constructor
  · rintro ⟨_, _, ⟨⟨hopening, rfl⟩, rfl⟩, _, _, ⟨⟨hclosing, rfl⟩, rfl⟩, _, _, ⟨_, rfl⟩, _, _,
      ⟨⟨ho, hc, hl⟩, rfl⟩, _, _, ⟨rfl, rfl⟩, _, _, rfl, rfl, rfl⟩
    exact ⟨⟨hopening, hclosing, ho, hc, hl⟩, rfl, rfl⟩
  · rintro ⟨hs, rfl, rfl⟩
    exact ⟨_, _, ⟨⟨hs.opening, rfl⟩, rfl⟩, _, _, ⟨⟨hs.closing, rfl⟩, rfl⟩, (), _, ⟨hdates, rfl⟩, (), _,
      ⟨⟨hs.openingFits, hs.closingFits, hs.linesFit⟩, rfl⟩, _, _, ⟨rfl, rfl⟩, (), _, rfl, rfl, rfl⟩

/-- An import is what it does with a stored statement, or without one, once its own checks pass. -/
lemma import_commits : Commits (importBankStatement host scope dto) db r db' ↔
    ∃ p, Passes host db scope dto p ∧ match db.findStatement scope dto.source dto.fileName with
      | some existing => Agrees host existing (db.linesOf existing.id) dto p ∧
        r = (existing, db.linesOf existing.id) ∧ db' = db
      | none => Storable dto p ∧ r = (createdStatement scope dto p db, createdLines p db) ∧
        db' = created scope dto p db := by
  simp only [importBankStatement, assertRequestedScope, assertBankAccount, commits_bind, commits_ofExcept,
    commits_require, commits_get, commits_orThrow, commits_pure]
  constructor
  · rintro ⟨_, _, ⟨⟨hcompany, hbranch⟩, rfl⟩, _, _, ⟨hnamed, rfl⟩, _, _, ⟨hnonempty, rfl⟩, _, _,
      ⟨_, _, ⟨rfl, rfl⟩, account, _, ⟨haccount, rfl⟩, _, rfl⟩, p, _, ⟨hp, rfl⟩, _, _, ⟨rfl, rfl⟩, h⟩
    have hpasses (hdates : p.datesValid = true) : Passes host db scope dto p :=
      ⟨hcompany, hbranch, hnamed, hnonempty, Option.isSome_of_mem haccount, hp, hdates⟩
    cases hfind : db.findStatement scope dto.source dto.fileName with
    | some existing =>
      rw [hfind] at h
      simp only [commits_bind, commits_require, commits_pure] at h
      obtain ⟨_, _, ⟨hdates, rfl⟩, _, _, ⟨⟨hheader, hkeys⟩, rfl⟩, rfl, rfl⟩ := h
      have hlength : (db.linesOf existing.id).length = p.lines.length := by
        simp only [sameHeader, cond_iff] at hheader
        exact hheader.2
      exact ⟨p, hpasses hdates, ⟨hheader, (keys_agree (by simpa using hlength)).mp hkeys⟩, rfl, rfl⟩
    | none =>
      rw [hfind] at h
      have hdates : p.datesValid = true := by
        simp only [createStatement, commits_bind, commits_require] at h
        obtain ⟨_, _, _, _, _, _, _, _, ⟨hdates, _⟩, _⟩ := h
        exact hdates
      exact ⟨p, hpasses hdates, (createStatement_commits hdates).mp h⟩
  · rintro ⟨p, hp, h⟩
    obtain ⟨account, haccount⟩ := Option.isSome_iff_exists.mp hp.account
    refine ⟨(), db, ⟨⟨hp.company, hp.branch⟩, rfl⟩, (), db, ⟨hp.named, rfl⟩, (), db, ⟨hp.nonempty, rfl⟩, (), db,
      ⟨db, db, ⟨rfl, rfl⟩, account, db, ⟨haccount, rfl⟩, trivial, rfl⟩, p, db, ⟨hp.prepared, rfl⟩, db, db,
      ⟨rfl, rfl⟩, ?_⟩
    cases hfind : db.findStatement scope dto.source dto.fileName with
    | some existing =>
      rw [hfind] at h
      obtain ⟨⟨hheader, hkeys⟩, rfl, rfl⟩ := h
      have hlength : (db'.linesOf existing.id).length = p.lines.length := by
        simp only [sameHeader, cond_iff] at hheader
        exact hheader.2
      simp only [commits_bind, commits_require, commits_pure]
      exact ⟨(), _, ⟨hp.dates, rfl⟩, (), _, ⟨⟨hheader, (keys_agree (by simpa using hlength)).mpr hkeys⟩, rfl⟩,
        trivial, rfl⟩
    | none =>
      rw [hfind] at h
      exact (createStatement_commits hp.dates).mpr h

/-! ### Runs of imports -/

structure Accepted where
  scope : TenantScope
  request : ImportBankStatementDto
  statement : BankStatement
  lines : List BankStatementLine

structure World where
  db : StatementDb
  accepted : List Accepted

inductive Event
  | importFile (scope : TenantScope) (dto : ImportBankStatementDto)
  | other (db' : StatementDb)

/-- The line without what a reconciliation marks on it. -/
def BankStatementLine.unmarked (l : BankStatementLine) : BankStatementLine :=
  { l with matched := false, matchedType := none, matchedId := none }

structure Elsewhere (db db' : StatementDb) : Prop where
  branches : db'.branches = db.branches
  accounts : db'.accounts = db.accounts
  statements : db'.statements = db.statements
  lines : db'.lines.rows.map BankStatementLine.unmarked = db.lines.rows.map BankStatementLine.unmarked
  nextId : db.nextId ≤ db'.nextId

def World.importFile (host : Host) (w : World) (scope : TenantScope) (dto : ImportBankStatementDto) : World :=
  match execute (importBankStatement host scope dto) w.db with
  | (.ok r, db') => ⟨db', ⟨scope, dto, r.1, r.2⟩ :: w.accepted⟩
  | (.error _, db') => { w with db := db' }

def ImportStep (host : Host) (w : World) (e : Event) (w' : World) : Prop :=
  match e with
  | .importFile scope dto => w' = w.importFile host scope dto
  | .other db' => Elsewhere w.db db' ∧ w' = { w with db := db' }

structure Payload where
  bankAccountId : ℕ
  (periodStart periodEnd : ℤ)
  (openingBalance closingBalance : OptionalNumber)
  lines : Multiset Entry

def payloadOf (dto : ImportBankStatementDto) (p : Prepared) : Payload where
  bankAccountId := dto.bankAccountId
  periodStart := p.periodStart
  periodEnd := p.periodEnd
  openingBalance := dto.openingBalance
  closingBalance := dto.closingBalance
  lines := p.lines.map NormalizedLine.toEntry

def payload (host : Host) (dto : ImportBankStatementDto) : Option Payload :=
  (prepare host dto).toOption.map (payloadOf dto)

def Accepted.SameName (a : Accepted) (scope : TenantScope) (dto : ImportBankStatementDto) : Prop :=
  a.scope = scope ∧ a.request.source = dto.source ∧ a.request.fileName = dto.fileName

/-- A request imports at most once: sent again it returns the same and changes nothing; it returns the statement
of an earlier request with its name and payload; and it is refused if that one had another payload. -/
structure ImportedOnce (host : Host) (w : World) (scope : TenantScope) (dto : ImportBankStatementDto) :
    Prop where
  again : ∀ r db', execute (importBankStatement host scope dto) w.db = (.ok r, db') →
    execute (importBankStatement host scope dto) db' = (.ok r, db')
  same : ∀ a ∈ w.accepted, a.SameName scope dto → a.request.companyId = dto.companyId →
    a.request.branchId = dto.branchId → payload host a.request = payload host dto →
    ∃ lines, execute (importBankStatement host scope dto) w.db = (.ok (a.statement, lines), w.db) ∧
      lines.map BankStatementLine.unmarked = a.lines.map BankStatementLine.unmarked
  different : ∀ a ∈ w.accepted, a.SameName scope dto → payload host a.request ≠ payload host dto →
    ∃ e, (execute (importBankStatement host scope dto) w.db).1 = .error e

/-- The source and the file name have no white space around them. -/
def Trimmed (dto : ImportBankStatementDto) : Prop :=
  trim dto.source = dto.source ∧ trim dto.fileName = dto.fileName

structure InCents (dto : ImportBankStatementDto) (p : Prepared) : Prop where
  opening : ∀ x ∈ dto.openingBalance.value?, IsCents x
  closing : ∀ x ∈ dto.closingBalance.value?, IsCents x
  lines : ∀ l ∈ p.lines, l.toEntry.Cents

/-- The requests have the same account and period, the second one has the balances of the first or leaves out
those that are zero, and the joined texts of their lines are the same. -/
structure LooksLike (host : Host) (first second : ImportBankStatementDto) (p q : Prepared) : Prop where
  account : first.bankAccountId = second.bankAccountId
  periodStart : p.periodStart = q.periodStart
  periodEnd : p.periodEnd = q.periodEnd
  opening : sameBalance first.openingBalance.value? second.openingBalance = true
  closing : sameBalance first.closingBalance.value? second.closingBalance = true
  keys : ((p.lines.map NormalizedLine.toEntry).map (key host)).Perm
    ((q.lines.map NormalizedLine.toEntry).map (key host))

/-- A request that passes its own checks does not look like an earlier one with its name that has another
payload; and where it has a new name, that is trimmed, and the amounts have at most two decimals. -/
def Unmistakable (host : Host) (w : World) (scope : TenantScope) (dto : ImportBankStatementDto) : Prop :=
  ∀ q, Passes host w.db scope dto q →
    (∀ a ∈ w.accepted, a.SameName scope dto → ∀ p, prepare host a.request = .ok p →
      LooksLike host a.request dto p q → payload host a.request = payload host dto) ∧
    ((∀ a ∈ w.accepted, ¬ a.SameName scope dto) → Storable dto q → Trimmed dto ∧ InCents dto q)

/-! ### Stored statements -/

structure BankStatement.Named (s : BankStatement) (scope : TenantScope) (source fileName : String) : Prop where
  company : s.companyId = scope.companyId
  branch : s.branchId = some scope.branchId
  source : s.source = source
  fileName : s.fileName = some fileName

lemma findStatement_eq_some {source fileName : String}
    (h : db.findStatement scope source fileName = some existing) :
    existing ∈ db.statements ∧ existing.Named scope source fileName := by
  obtain ⟨hmem, hcond⟩ := Table.mem_of_findFirst h
  simp only [cond_iff] at hcond
  exact ⟨hmem, hcond.1.1.1, hcond.1.1.2, hcond.1.2, hcond.2⟩

lemma findStatement_eq_none {source fileName : String} :
    db.findStatement scope source fileName = none ↔ ∀ s ∈ db.statements, ¬ s.Named scope source fileName := by
  rw [StatementDb.findStatement, Table.findFirst_eq_none]
  refine forall₂_congr fun s _ => not_congr ?_
  simp only [cond_iff]
  constructor
  · rintro ⟨⟨⟨hcompany, hbranch⟩, hsource⟩, hfile⟩
    exact ⟨hcompany, hbranch, hsource, hfile⟩
  · rintro ⟨hcompany, hbranch, hsource, hfile⟩
    exact ⟨⟨⟨hcompany, hbranch⟩, hsource⟩, hfile⟩

structure Holds (s : BankStatement) (lines : List BankStatementLine) (dto : ImportBankStatementDto)
    (p : Prepared) : Prop where
  account : s.bankAccountId = some dto.bankAccountId
  periodStart : s.periodStart = some p.periodStart
  periodEnd : s.periodEnd = some p.periodEnd
  opening : s.openingBalance = dto.openingBalance.value?
  openingThere : dto.openingBalance ≠ .null
  closing : s.closingBalance = dto.closingBalance.value?
  closingThere : dto.closingBalance ≠ .null
  entries : (lines.map BankStatementLine.entry).Perm (p.lines.map NormalizedLine.toEntry)

section Payloads

variable {s : BankStatement} {lines : List BankStatementLine} {first second : ImportBankStatementDto}
  {q : Prepared}

lemma sameBalance_self {n : OptionalNumber} (h : n ≠ .null) : sameBalance n.value? n = true := by
  cases n with
  | undefined => rfl
  | null => exact absurd rfl h
  | value x => simp [sameBalance, OptionalNumber.value?, OptionalNumber.orZero]

lemma Holds.agrees_iff (h : Holds s lines first p) :
    Agrees host s lines second q ↔ LooksLike host first second p q := by
  have hkeys := h.entries.map (key host)
  have hlength : lines.length = p.lines.length := by simpa using h.entries.length_eq
  simp only [Agrees, sameHeader, cond_iff, h.account, h.periodStart, h.periodEnd, h.opening, h.closing,
    Option.some.injEq]
  constructor
  · rintro ⟨⟨⟨⟨⟨⟨haccount, hstart⟩, hend⟩, hopening⟩, hclosing⟩, _⟩, hsame⟩
    exact ⟨haccount, hstart, hend, hopening, hclosing, hkeys.symm.trans hsame⟩
  · rintro ⟨haccount, hstart, hend, hopening, hclosing, hsame⟩
    have hlines : p.lines.length = q.lines.length := by simpa using hsame.length_eq
    exact ⟨⟨⟨⟨⟨⟨haccount, hstart⟩, hend⟩, hopening⟩, hclosing⟩, hlength.trans hlines⟩, hkeys.trans hsame⟩

lemma Holds.of_payload (h : Holds s lines first p) (heq : payloadOf first p = payloadOf second q) :
    Holds s lines second q := by
  obtain ⟨haccount, hstart, hend, hopening, hclosing, hlines⟩ := Payload.mk.inj heq
  exact ⟨haccount ▸ h.account, hstart ▸ h.periodStart, hend ▸ h.periodEnd, hopening ▸ h.opening,
    hopening ▸ h.openingThere, hclosing ▸ h.closing, hclosing ▸ h.closingThere,
    h.entries.trans (Multiset.coe_eq_coe.mp hlines)⟩

lemma Holds.looksLike_of_payload (h : Holds s lines first p) (heq : payloadOf first p = payloadOf second q) :
    LooksLike host first second p q := by
  obtain ⟨haccount, hstart, hend, hopening, hclosing, hlines⟩ := Payload.mk.inj heq
  exact ⟨haccount, hstart, hend, hopening ▸ sameBalance_self h.openingThere,
    hclosing ▸ sameBalance_self h.closingThere, (Multiset.coe_eq_coe.mp hlines).map _⟩

lemma payload_of_prepared (h : prepare host dto = .ok p) : payload host dto = some (payloadOf dto p) := by
  rw [payload, h]
  rfl

lemma mapM_length {f : BankStatementLineDto → Except Failure NormalizedLine} {l : List BankStatementLineDto}
    {l' : List NormalizedLine} (h : l.mapM f = .ok l') : l'.length = l.length := by
  induction l generalizing l' with
  | nil =>
    rw [List.mapM_nil, pure_eq_ok] at h
    exact congrArg List.length h.symm
  | cons x xs ih =>
    rw [List.mapM_cons, bind_eq_ok] at h
    obtain ⟨y, _, h⟩ := h
    obtain ⟨ys, hys, h⟩ := bind_eq_ok.mp h
    rw [pure_eq_ok] at h
    rw [← h, length_cons, length_cons, ih hys]

lemma prepared_length (h : prepare host dto = .ok p) : p.lines.length = dto.lines.length := by
  simp only [prepare, bind_eq_ok] at h
  obtain ⟨lines, hlines, start, _, end', _, h⟩ := h
  split_ifs at h <;> cases h
  exact mapM_length hlines

/-- The checks of a request see nothing but its payload, name and branch. -/
lemma Passes.of_payload (h : Passes host db scope first p) (hname : first.fileName = second.fileName)
    (hcompany : first.companyId = second.companyId) (hbranch : first.branchId = second.branchId)
    (heq : payload host first = payload host second) :
    ∃ q, Passes host db scope second q ∧ payloadOf first p = payloadOf second q := by
  rw [payload_of_prepared h.prepared] at heq
  obtain ⟨q, hq, hpayload⟩ := Option.map_eq_some_iff.mp heq.symm
  have hprepared : prepare host second = .ok q := by
    cases hsecond : prepare host second with
    | error e =>
      rw [hsecond] at hq
      cases hq
    | ok x =>
      rw [hsecond] at hq
      exact congrArg Except.ok (Option.some.inj hq)
  obtain ⟨haccount, _, _, _, _, hlines⟩ := Payload.mk.inj hpayload.symm
  have hperm := Multiset.coe_eq_coe.mp hlines
  have hdates : q.datesValid = true := by
    have hvalid := h.dates
    simp only [Prepared.datesValid, List.all_eq_true] at hvalid ⊢
    intro l hl
    obtain ⟨l', hl', hentry⟩ := mem_map.mp (hperm.mem_iff.mpr (mem_map_of_mem hl))
    have hdate := hvalid l' hl'
    rwa [hentry] at hdate
  have hlength : second.lines.length = first.lines.length := by
    have hpq := hperm.length_eq
    rw [length_map, length_map, prepared_length h.prepared, prepared_length hprepared] at hpq
    exact hpq.symm
  refine ⟨q, ⟨hcompany ▸ h.company, hbranch ▸ h.branch, hname ▸ h.named, ?_, haccount ▸ h.account, hprepared,
    hdates⟩, hpayload.symm⟩
  intro hnil
  rw [hnil, List.length_nil] at hlength
  exact h.nonempty (List.eq_nil_of_length_eq_zero hlength.symm)

end Payloads

/-! ### New statements -/

lemma ids_newLines (statementId id : ℕ) (lines : List NormalizedLine) :
    (newLines statementId id lines).map BankStatementLine.id = List.range' id lines.length := by
  have hids : (newLines statementId id lines).map BankStatementLine.id = (lines.zipIdx id).map Prod.snd := by
    rw [newLines, map_map]
    rfl
  rw [hids, List.zipIdx_map_snd]

lemma statementId_of_mem_newLines {statementId : ℕ} {lines : List NormalizedLine} {l : BankStatementLine}
    (h : l ∈ newLines statementId id lines) : l.statementId = statementId := by
  obtain ⟨_, _, rfl⟩ := mem_map.mp h
  rfl

lemma entries_newLines (statementId id : ℕ) (hdates : p.datesValid = true) :
    (newLines statementId id p.lines).map BankStatementLine.entry =
      (p.lines.map NormalizedLine.toEntry).map Entry.stored := by
  have hentry (l : NormalizedLine) (hl : l ∈ p.lines) (i : ℕ) :
      (newLine statementId l i).entry = l.toEntry.stored := by
    obtain ⟨date, hdate⟩ := Option.isSome_iff_exists.mp (List.all_eq_true.mp hdates l hl)
    simp [newLine, BankStatementLine.entry, Entry.stored, hdate]
  have hfst : (p.lines.map NormalizedLine.toEntry).map Entry.stored =
      (p.lines.zipIdx id).map fun l => l.1.toEntry.stored := by
    rw [map_map]
    conv_lhs => rw [← List.zipIdx_map_fst id p.lines, map_map]
    rfl
  rw [newLines, map_map, hfst]
  refine map_congr_left fun l hl => ?_
  exact hentry l.1 (List.fst_mem_of_mem_zipIdx hl) l.2

structure Fresh (db : StatementDb) : Prop where
  statements : ∀ s ∈ db.statements, s.id < db.nextId
  lines : ∀ l ∈ db.lines, l.id < db.nextId
  statementIds : ∀ l ∈ db.lines, l.statementId < db.nextId

section Created

lemma rows_created (hfresh : Fresh db) :
    (created scope dto p db).lines.rows = db.lines.rows ++ createdLines p db := by
  refine Table.rows_foldl_put ?_ ?_
  · rw [createdLines, ids_newLines]
    exact List.nodup_range'
  · intro l hl hold
    obtain ⟨o, ho, hid⟩ := mem_map.mp hold
    have hnew : l.id ∈ List.range' (db.nextId + 1) p.lines.length :=
      ids_newLines db.nextId (db.nextId + 1) p.lines ▸ mem_map_of_mem hl
    have hlt := hfresh.lines o ho
    rw [List.mem_range'_1] at hnew
    omega

lemma linesOf_created_new (hfresh : Fresh db) :
    (created scope dto p db).linesOf db.nextId = createdLines p db := by
  have hold : db.lines.rows.filter (fun l => l.statementId = db.nextId) = [] := by
    refine filter_eq_nil_iff.mpr fun l hl => ?_
    have hlt := hfresh.statementIds l hl
    simp only [decide_eq_true_eq]
    omega
  have hnew : (createdLines p db).filter (fun l => l.statementId = db.nextId) = createdLines p db :=
    List.filter_eq_self.mpr fun l hl => decide_eq_true (statementId_of_mem_newLines hl)
  rw [StatementDb.linesOf, Table.findMany, rows_created hfresh, filter_append, hold, hnew, nil_append]

lemma linesOf_created_old (hfresh : Fresh db) (hid : id < db.nextId) :
    (created scope dto p db).linesOf id = db.linesOf id := by
  have hnew : (createdLines p db).filter (fun l => l.statementId = id) = [] := by
    refine filter_eq_nil_iff.mpr fun l hl => ?_
    have hsame : l.statementId = db.nextId := statementId_of_mem_newLines hl
    simp only [decide_eq_true_eq]
    omega
  rw [StatementDb.linesOf, Table.findMany, rows_created hfresh, filter_append, hnew, append_nil]
  rfl

lemma mem_created (hfresh : Fresh db) {s : BankStatement} : s ∈ (created scope dto p db).statements ↔
    s = createdStatement scope dto p db ∨ s ∈ db.statements := by
  refine mem_put.trans (or_congr_right (and_iff_left_of_imp fun hs => ?_))
  exact Nat.ne_of_lt (hfresh.statements s hs)

lemma Fresh.created (hfresh : Fresh db) : Fresh (created scope dto p db) := by
  constructor
  · intro s hs
    obtain rfl | hs := (mem_created hfresh).mp hs
    · change db.nextId < db.nextId + 1 + p.lines.length
      omega
    · have hlt := hfresh.statements s hs
      change s.id < db.nextId + 1 + p.lines.length
      omega
  · intro l hl
    rw [mem_rows, rows_created hfresh, mem_append] at hl
    change l.id < db.nextId + 1 + p.lines.length
    obtain hl | hl := hl
    · have hlt := hfresh.lines l hl
      omega
    · have hid : l.id ∈ List.range' (db.nextId + 1) p.lines.length :=
        ids_newLines db.nextId (db.nextId + 1) p.lines ▸ mem_map_of_mem hl
      rw [List.mem_range'_1] at hid
      omega
  · intro l hl
    rw [mem_rows, rows_created hfresh, mem_append] at hl
    change l.statementId < db.nextId + 1 + p.lines.length
    obtain hl | hl := hl
    · have hlt := hfresh.statementIds l hl
      omega
    · have hsame : l.statementId = db.nextId := statementId_of_mem_newLines hl
      omega

lemma sameBalance_stored {n : OptionalNumber} (h : n ≠ .null) :
    sameBalance (n.value?.map fun x => toDecimalPlaces x 2) n = true ↔ ∀ x ∈ n.value?, IsCents x := by
  cases n with
  | undefined => simp [sameBalance, OptionalNumber.value?]
  | null => exact absurd rfl h
  | value x =>
    rw [OptionalNumber.value?, Option.map_some, sameBalance, decide_eq_true_eq, OptionalNumber.orZero]
    simp [OptionalNumber.value?, isCents_iff]

lemma agrees_created (hs : Storable dto p) (hdates : p.datesValid = true) :
    Agrees host (createdStatement scope dto p db) (createdLines p db) dto p ↔ InCents dto p := by
  have hlength : (createdLines p db).length = p.lines.length := by simp [createdLines, newLines]
  have hheader : sameHeader (createdStatement scope dto p db) (createdLines p db).length dto p = true ↔
      (∀ x ∈ dto.openingBalance.value?, IsCents x) ∧ ∀ x ∈ dto.closingBalance.value?, IsCents x := by
    rw [← sameBalance_stored hs.opening, ← sameBalance_stored hs.closing, hlength]
    simp [sameHeader, createdStatement, newStatement]
  rw [Agrees, hheader, createdLines, entries_newLines _ _ hdates, keys_stored_perm]
  constructor
  · rintro ⟨⟨hopening, hclosing⟩, hlines⟩
    exact ⟨hopening, hclosing, fun l hl => hlines _ (mem_map_of_mem hl)⟩
  · intro h
    exact ⟨⟨h.opening, h.closing⟩, List.forall_mem_map.mpr h.lines⟩

lemma created_holds (hs : Storable dto p) (hdates : p.datesValid = true) (h : InCents dto p) :
    Holds (createdStatement scope dto p db) (createdLines p db) dto p := by
  have hbalance (o : Option ℚ) (ho : ∀ x ∈ o, IsCents x) : (o.map fun x => toDecimalPlaces x 2) = o := by
    cases o with
    | none => rfl
    | some x => exact congrArg some (ho x rfl).toDecimalPlaces
  refine ⟨rfl, rfl, rfl, hbalance _ h.opening, hs.opening, hbalance _ h.closing, hs.closing, ?_⟩
  rw [createdLines, entries_newLines _ _ hdates]
  have hsame : (p.lines.map NormalizedLine.toEntry).map Entry.stored = p.lines.map NormalizedLine.toEntry := by
    rw [map_map]
    exact map_congr_left fun l hl => Entry.stored_eq_self.mpr (h.lines l hl)
  rw [hsame]

end Created

/-! ### The invariant -/

structure Recorded (host : Host) (db : StatementDb) (a : Accepted) (p : Prepared) : Prop where
  mem : a.statement ∈ db.statements
  named : a.statement.Named a.scope a.request.source a.request.fileName
  lines : (db.linesOf a.statement.id).map BankStatementLine.unmarked = a.lines.map BankStatementLine.unmarked
  passes : Passes host db a.scope a.request p
  holds : Holds a.statement (db.linesOf a.statement.id) a.request p

structure Sound (host : Host) (w : World) : Prop where
  fresh : Fresh w.db
  recorded : ∀ a ∈ w.accepted, ∃ p, Recorded host w.db a p
  accepted : ∀ s ∈ w.db.statements, ∃ a ∈ w.accepted, a.statement = s
  trimmed : ∀ a ∈ w.accepted, Trimmed a.request
  unique : ∀ (scope : TenantScope) (source fileName : String), ∀ s ∈ w.db.statements, ∀ t ∈ w.db.statements,
    s.Named scope source fileName → t.Named scope source fileName → s = t

section Steps

variable {w w' : World} {a : Accepted} {r : BankStatement × List BankStatementLine}

lemma Accepted.SameName.named (h : a.SameName scope dto) (hp : Recorded host db a p) :
    a.statement.Named scope dto.source dto.fileName := by
  obtain ⟨rfl, hsource, hfile⟩ := h
  exact hsource ▸ hfile ▸ hp.named

lemma Sound.findStatement_eq (hw : Sound host w) (ha : a ∈ w.accepted) (hname : a.SameName scope dto) :
    w.db.findStatement scope dto.source dto.fileName = some a.statement := by
  obtain ⟨p, hp⟩ := hw.recorded a ha
  have hnamed := hname.named hp
  cases hfind : w.db.findStatement scope dto.source dto.fileName with
  | none => exact absurd hnamed (findStatement_eq_none.mp hfind _ hp.mem)
  | some s =>
    obtain ⟨hmem, hs⟩ := findStatement_eq_some hfind
    exact congrArg some (hw.unique scope dto.source dto.fileName s hmem _ hp.mem hs hnamed)

lemma Sound.findStatement_eq_none (hw : Sound host w) (hnew : ∀ a ∈ w.accepted, ¬ a.SameName scope dto) :
    w.db.findStatement scope dto.source dto.fileName = none := by
  refine Banking.findStatement_eq_none.mpr fun s hs hnamed => ?_
  obtain ⟨a, ha, rfl⟩ := hw.accepted s hs
  obtain ⟨p, hp⟩ := hw.recorded a ha
  have hcompany : a.scope.companyId = scope.companyId := hp.named.company.symm.trans hnamed.company
  have hbranch : a.scope.branchId = scope.branchId :=
    mem_unique hp.named.branch hnamed.branch
  have hfile : a.request.fileName = dto.fileName :=
    mem_unique hp.named.fileName hnamed.fileName
  refine hnew a ha ⟨?_, hp.named.source.symm.trans hnamed.source, hfile⟩
  cases hscope : a.scope
  rw [hscope] at hcompany hbranch
  cases scope
  simp_all

lemma Sound.import_known (hw : Sound host w) (ha : a ∈ w.accepted) (hname : a.SameName scope dto)
    (hp : Recorded host w.db a p) : Commits (importBankStatement host scope dto) w.db r db' ↔
      ∃ q, Passes host w.db scope dto q ∧ LooksLike host a.request dto p q ∧
        r = (a.statement, w.db.linesOf a.statement.id) ∧ db' = w.db := by
  rw [import_commits]
  simp only [hw.findStatement_eq ha hname, hp.holds.agrees_iff]

lemma Sound.import_unknown (hw : Sound host w) (hnew : ∀ a ∈ w.accepted, ¬ a.SameName scope dto) :
    Commits (importBankStatement host scope dto) w.db r db' ↔
      ∃ q, Passes host w.db scope dto q ∧ Storable dto q ∧
        r = (createdStatement scope dto q w.db, createdLines q w.db) ∧ db' = created scope dto q w.db := by
  rw [import_commits]
  simp only [hw.findStatement_eq_none hnew]

lemma Passes.unique {q q' : Prepared} (h : Passes host db scope dto q) (h' : Passes host db scope dto q') :
    q = q' := Except.ok.inj (h.prepared.symm.trans h'.prepared)

lemma refused_of_not_commits (h : ∀ r db', ¬ Commits (importBankStatement host scope dto) db r db') :
    ∃ e, (execute (importBankStatement host scope dto) db).1 = .error e := by
  cases hexec : (execute (importBankStatement host scope dto) db).1 with
  | error e => exact ⟨e, rfl⟩
  | ok r => exact absurd (commits_of_execute hexec) (h _ _)

/-- A known request imports at most once exactly if it does not look like a different one. -/
lemma Sound.importedOnce_known (hw : Sound host w) (ha : a ∈ w.accepted) (hname : a.SameName scope dto)
    {q : Prepared} (hq : Passes host w.db scope dto q) :
    ImportedOnce host w scope dto ↔ ∀ b ∈ w.accepted, b.SameName scope dto → ∀ p,
      prepare host b.request = .ok p → LooksLike host b.request dto p q →
      payload host b.request = payload host dto := by
  constructor
  · intro h b hb hbname p hprepared hlooks
    by_contra hdiffers
    obtain ⟨e, he⟩ := h.different b hb hbname hdiffers
    obtain ⟨p', hp'⟩ := hw.recorded b hb
    obtain rfl : p = p' := Except.ok.inj (hprepared.symm.trans hp'.passes.prepared)
    have hcommits := (hw.import_known hb hbname hp').mpr ⟨q, hq, hlooks, rfl, rfl⟩
    rw [execute_of_commits hcommits] at he
    cases he
  · intro h
    constructor
    · intro r db' hexec
      obtain ⟨p, hp⟩ := hw.recorded a ha
      have hcommits : Commits (importBankStatement host scope dto) w.db r db' := by
        have hc := commits_of_execute (congrArg Prod.fst hexec)
        rwa [congrArg Prod.snd hexec] at hc
      obtain ⟨_, _, _, _, rfl⟩ := (hw.import_known ha hname hp).mp hcommits
      exact hexec
    · intro b hb hbname hcompany hbranch hpayload
      obtain ⟨p, hp⟩ := hw.recorded b hb
      have heq : payloadOf b.request p = payloadOf dto q := by
        rw [payload_of_prepared hp.passes.prepared, payload_of_prepared hq.prepared] at hpayload
        exact Option.some.inj hpayload
      have hcommits := (hw.import_known hb hbname hp).mpr
        ⟨q, hq, hp.holds.looksLike_of_payload heq, rfl, rfl⟩
      exact ⟨_, execute_of_commits hcommits, hp.lines⟩
    · intro b hb hbname hdiffers
      obtain ⟨p, hp⟩ := hw.recorded b hb
      refine refused_of_not_commits fun r db' hcommits => ?_
      obtain ⟨q', hq', hlooks, _, _⟩ := (hw.import_known hb hbname hp).mp hcommits
      obtain rfl := hq.unique hq'
      exact hdiffers (h b hb hbname p hp.passes.prepared hlooks)

/-- The second import of a new request. -/
lemma Sound.import_again (hw : Sound host w) (hnew : ∀ a ∈ w.accepted, ¬ a.SameName scope dto) {q : Prepared}
    (hq : Passes host w.db scope dto q) (hs : Storable dto q) :
    Commits (importBankStatement host scope dto) (created scope dto q w.db)
      (createdStatement scope dto q w.db, createdLines q w.db) (created scope dto q w.db) ↔
      Trimmed dto ∧ InCents dto q := by
  have hold : ∀ s ∈ w.db.statements, ¬ s.Named scope dto.source dto.fileName :=
    Banking.findStatement_eq_none.mp (hw.findStatement_eq_none hnew)
  have hpasses : Passes host (created scope dto q w.db) scope dto q :=
    ⟨hq.company, hq.branch, hq.named, hq.nonempty, hq.account, hq.prepared, hq.dates⟩
  rw [import_commits]
  cases hfind : (created scope dto q w.db).findStatement scope dto.source dto.fileName with
  | some s =>
    obtain ⟨hmem, hnamed⟩ := findStatement_eq_some hfind
    obtain rfl : s = createdStatement scope dto q w.db := by
      obtain h | h := (mem_created hw.fresh).mp hmem
      · exact h
      · exact absurd hnamed (hold s h)
    have htrimmed : Trimmed dto := ⟨hnamed.source, Option.some.inj hnamed.fileName⟩
    have hlines : (created scope dto q w.db).linesOf (createdStatement scope dto q w.db).id =
        createdLines q w.db := linesOf_created_new hw.fresh
    simp only [hlines]
    constructor
    · rintro ⟨q', hq', hagrees, _⟩
      obtain rfl := hpasses.unique hq'
      exact ⟨htrimmed, (agrees_created hs hq.dates).mp hagrees⟩
    · rintro ⟨_, hcents⟩
      exact ⟨q, hpasses, (agrees_created hs hq.dates).mpr hcents, trivial, trivial⟩
  | none =>
    constructor
    · rintro ⟨q', _, _, hr, _⟩
      have hid : w.db.nextId = (created scope dto q w.db).nextId :=
        congrArg (fun r : BankStatement × List BankStatementLine => r.1.id) hr
      change w.db.nextId = w.db.nextId + 1 + q.lines.length at hid
      omega
    · rintro ⟨⟨hsource, hfile⟩, _⟩
      exact absurd ⟨rfl, rfl, hsource, congrArg some hfile⟩
        (Banking.findStatement_eq_none.mp hfind _ ((mem_created hw.fresh).mpr (Or.inl rfl)))

lemma Sound.importedOnce_unknown (hw : Sound host w) (hnew : ∀ a ∈ w.accepted, ¬ a.SameName scope dto)
    {q : Prepared} (hq : Passes host w.db scope dto q) :
    ImportedOnce host w scope dto ↔ (Storable dto q → Trimmed dto ∧ InCents dto q) := by
  constructor
  · intro h hs
    have hcommits := (hw.import_unknown hnew).mpr ⟨q, hq, hs, rfl, rfl⟩
    have hagain := h.again _ _ (execute_of_commits hcommits)
    refine (hw.import_again hnew hq hs).mp ?_
    have hc := commits_of_execute (congrArg Prod.fst hagain)
    rwa [congrArg Prod.snd hagain] at hc
  · intro h
    constructor
    · intro r db' hexec
      have hcommits : Commits (importBankStatement host scope dto) w.db r db' := by
        have hc := commits_of_execute (congrArg Prod.fst hexec)
        rwa [congrArg Prod.snd hexec] at hc
      obtain ⟨q', hq', hs, rfl, rfl⟩ := (hw.import_unknown hnew).mp hcommits
      obtain rfl := hq.unique hq'
      exact execute_of_commits ((hw.import_again hnew hq hs).mpr (h hs))
    · exact fun b hb hname => absurd hname (hnew b hb)
    · exact fun b hb hname => absurd hname (hnew b hb)

lemma Sound.importedOnce_invalid (hw : Sound host w) (h : ∀ q, ¬ Passes host w.db scope dto q) :
    ImportedOnce host w scope dto := by
  have hnever (r : BankStatement × List BankStatementLine) (db' : StatementDb) :
      ¬ Commits (importBankStatement host scope dto) w.db r db' := by
    intro hcommits
    obtain ⟨q, hq, _⟩ := import_commits.mp hcommits
    exact h q hq
  constructor
  · intro r db' hexec
    exact absurd (commits_of_execute (congrArg Prod.fst hexec)) (hnever _ _)
  · rintro b hb ⟨rfl, hsource, hfile⟩ hcompany hbranch hpayload
    obtain ⟨p, hp⟩ := hw.recorded b hb
    obtain ⟨q, hq, _⟩ := hp.passes.of_payload hfile hcompany hbranch hpayload
    exact absurd hq (h q)
  · exact fun b hb hname hdiffers => refused_of_not_commits hnever

lemma Sound.importedOnce_iff (hw : Sound host w) :
    ImportedOnce host w scope dto ↔ Unmistakable host w scope dto := by
  by_cases hpasses : ∃ q, Passes host w.db scope dto q
  · obtain ⟨q, hq⟩ := hpasses
    have hone (P : Prepared → Prop) : (∀ q', Passes host w.db scope dto q' → P q') ↔ P q :=
      ⟨fun h => h q hq, fun h q' hq' => hq.unique hq' ▸ h⟩
    rw [Unmistakable, hone]
    by_cases hknown : ∃ a ∈ w.accepted, a.SameName scope dto
    · obtain ⟨a, ha, hname⟩ := hknown
      rw [hw.importedOnce_known ha hname hq]
      exact ⟨fun h => ⟨h, fun hnew => absurd hname (hnew a ha)⟩, fun h => h.1⟩
    · have hnew : ∀ a ∈ w.accepted, ¬ a.SameName scope dto := fun a ha hname => hknown ⟨a, ha, hname⟩
      rw [hw.importedOnce_unknown hnew hq]
      exact ⟨fun h => ⟨fun a ha hname => absurd hname (hnew a ha), fun _ => h⟩, fun h => h.2 hnew⟩
  · have hnone : ∀ q, ¬ Passes host w.db scope dto q := fun q hq => hpasses ⟨q, hq⟩
    exact iff_of_true (hw.importedOnce_invalid hnone) fun q hq => absurd hq (hnone q)

/-! ### Steps keep the invariant -/

lemma map_linesOf_unmarked (db : StatementDb) (id : ℕ) : (db.linesOf id).map BankStatementLine.unmarked =
      (db.lines.rows.map BankStatementLine.unmarked).filter fun l => l.statementId = id := by
  rw [List.filter_map]
  rfl

lemma Elsewhere.linesOf (h : Elsewhere db db') (id : ℕ) :
    (db'.linesOf id).map BankStatementLine.unmarked = (db.linesOf id).map BankStatementLine.unmarked := by
  rw [map_linesOf_unmarked, map_linesOf_unmarked, h.lines]

lemma entries_of_unmarked (lines : List BankStatementLine) :
    lines.map BankStatementLine.entry = (lines.map BankStatementLine.unmarked).map BankStatementLine.entry := by
  rw [map_map]
  rfl

lemma Elsewhere.fresh (h : Elsewhere db db') (hfresh : Fresh db) : Fresh db' := by
  have hline (l : BankStatementLine) (hl : l ∈ db'.lines) :
      ∃ o ∈ db.lines, o.id = l.id ∧ o.statementId = l.statementId := by
    have hmem : l.unmarked ∈ db.lines.rows.map BankStatementLine.unmarked := h.lines ▸ mem_map_of_mem hl
    obtain ⟨o, ho, hsame⟩ := mem_map.mp hmem
    have hid : o.unmarked.id = l.unmarked.id := congrArg BankStatementLine.id hsame
    have hstatement : o.unmarked.statementId = l.unmarked.statementId :=
      congrArg BankStatementLine.statementId hsame
    exact ⟨o, ho, hid, hstatement⟩
  constructor
  · intro s hs
    rw [h.statements] at hs
    exact (hfresh.statements s hs).trans_le h.nextId
  · intro l hl
    obtain ⟨o, ho, hid, _⟩ := hline l hl
    exact hid ▸ (hfresh.lines o ho).trans_le h.nextId
  · intro l hl
    obtain ⟨o, ho, _, hid⟩ := hline l hl
    exact hid ▸ (hfresh.statementIds o ho).trans_le h.nextId

lemma Passes.mono (h : Passes host db scope dto p) (haccounts : db'.accounts = db.accounts)
    (hbranches : db'.branches = db.branches) : Passes host db' scope dto p := by
  have hbank : db'.bankAccount scope dto.bankAccountId = db.bankAccount scope dto.bankAccountId := by
    rw [StatementDb.bankAccount, StatementDb.bankAccount, haccounts, hbranches]
  exact ⟨h.company, h.branch, h.named, h.nonempty, hbank ▸ h.account, h.prepared, h.dates⟩

lemma Recorded.elsewhere (hp : Recorded host db a p) (h : Elsewhere db db') : Recorded host db' a p := by
  have hlines := h.linesOf a.statement.id
  have hentries : (db'.linesOf a.statement.id).map BankStatementLine.entry =
      (db.linesOf a.statement.id).map BankStatementLine.entry := by
    rw [entries_of_unmarked, hlines, ← entries_of_unmarked]
  exact ⟨h.statements.symm ▸ hp.mem, hp.named, hlines.trans hp.lines, hp.passes.mono h.accounts h.branches,
    { hp.holds with entries := hentries ▸ hp.holds.entries }⟩

lemma Sound.elsewhere (hw : Sound host w) (h : Elsewhere w.db db') : Sound host { w with db := db' } := by
  refine ⟨h.fresh hw.fresh, ?_, ?_, hw.trimmed, ?_⟩
  · intro a ha
    obtain ⟨p, hp⟩ := hw.recorded a ha
    exact ⟨p, hp.elsewhere h⟩
  · intro s hs
    exact hw.accepted s (h.statements ▸ hs)
  · intro scope source fileName s hs t ht
    exact hw.unique scope source fileName s (h.statements ▸ hs) t (h.statements ▸ ht)

lemma Sound.repeated (hw : Sound host w) (ha : a ∈ w.accepted) (hname : a.SameName scope dto)
    (hp : Recorded host w.db a p) {q : Prepared} (hq : Passes host w.db scope dto q)
    (hpayload : payload host a.request = payload host dto) :
    Sound host ⟨w.db, ⟨scope, dto, a.statement, w.db.linesOf a.statement.id⟩ :: w.accepted⟩ := by
  have heq : payloadOf a.request p = payloadOf dto q := by
    rw [payload_of_prepared hp.passes.prepared, payload_of_prepared hq.prepared] at hpayload
    exact Option.some.inj hpayload
  refine ⟨hw.fresh, forall_mem_cons.mpr ⟨⟨q, hp.mem, hname.named hp, rfl, hq, hp.holds.of_payload heq⟩,
    hw.recorded⟩, ?_, forall_mem_cons.mpr ⟨?_, hw.trimmed⟩, hw.unique⟩
  · intro s hs
    obtain ⟨b, hb, hsame⟩ := hw.accepted s hs
    exact ⟨b, mem_cons_of_mem _ hb, hsame⟩
  · have htrimmed := hw.trimmed a ha
    rwa [Trimmed, hname.2.1, hname.2.2] at htrimmed

lemma Recorded.created (hp : Recorded host db a p) (hfresh : Fresh db) {q : Prepared} :
    Recorded host (created scope dto q db) a p := by
  have hlines : (Banking.created scope dto q db).linesOf a.statement.id = db.linesOf a.statement.id :=
    linesOf_created_old hfresh (hfresh.statements _ hp.mem)
  exact ⟨(mem_created hfresh).mpr (Or.inr hp.mem), hp.named, hlines.symm ▸ hp.lines, hp.passes.mono rfl rfl,
    hlines.symm ▸ hp.holds⟩

/-- A new statement is recorded if its name is trimmed and its amounts have at most two decimals. -/
lemma Sound.created (hw : Sound host w) (hnew : ∀ a ∈ w.accepted, ¬ a.SameName scope dto) {q : Prepared}
    (hq : Passes host w.db scope dto q) (hs : Storable dto q) (htrimmed : Trimmed dto)
    (hcents : InCents dto q) : Sound host ⟨created scope dto q w.db,
      ⟨scope, dto, createdStatement scope dto q w.db, createdLines q w.db⟩ :: w.accepted⟩ := by
  have hold : ∀ s ∈ w.db.statements, ¬ s.Named scope dto.source dto.fileName :=
    Banking.findStatement_eq_none.mp (hw.findStatement_eq_none hnew)
  have hnamed : (createdStatement scope dto q w.db).Named scope dto.source dto.fileName :=
    ⟨rfl, rfl, htrimmed.1, congrArg some htrimmed.2⟩
  have hsame {scope' : TenantScope} {source fileName : String} {s : BankStatement} (hs : s ∈ w.db.statements)
      (hcreated : (createdStatement scope dto q w.db).Named scope' source fileName)
      (hother : s.Named scope' source fileName) : False :=
    hold s hs ⟨hother.company.trans (hcreated.company.symm.trans hnamed.company),
      hother.branch.trans (hcreated.branch.symm.trans hnamed.branch),
      hother.source.trans (hcreated.source.symm.trans hnamed.source),
      hother.fileName.trans (hcreated.fileName.symm.trans hnamed.fileName)⟩
  have hlines : (Banking.created scope dto q w.db).linesOf (createdStatement scope dto q w.db).id =
      createdLines q w.db := linesOf_created_new hw.fresh
  refine ⟨hw.fresh.created, forall_mem_cons.mpr ⟨⟨q, (mem_created hw.fresh).mpr (Or.inl rfl), hnamed,
    congrArg _ hlines, hq.mono rfl rfl, hlines.symm ▸ created_holds hs hq.dates hcents⟩, ?_⟩, ?_,
    forall_mem_cons.mpr ⟨htrimmed, hw.trimmed⟩, ?_⟩
  · intro a ha
    obtain ⟨p, hp⟩ := hw.recorded a ha
    exact ⟨p, hp.created hw.fresh⟩
  · intro s hs
    obtain rfl | hs := (mem_created hw.fresh).mp hs
    · exact ⟨_, mem_cons_self, rfl⟩
    · obtain ⟨a, ha, hstatement⟩ := hw.accepted s hs
      exact ⟨a, mem_cons_of_mem _ ha, hstatement⟩
  · intro scope' source fileName s hs t ht hsnamed htnamed
    obtain rfl | hs := (mem_created hw.fresh).mp hs
    · obtain rfl | ht := (mem_created hw.fresh).mp ht
      · rfl
      · exact (hsame ht hsnamed htnamed).elim
    · obtain rfl | ht := (mem_created hw.fresh).mp ht
      · exact (hsame hs htnamed hsnamed).elim
      · exact hw.unique scope' source fileName s hs t ht hsnamed htnamed

lemma Sound.importFile (hw : Sound host w) (h : Unmistakable host w scope dto) :
    Sound host (w.importFile host scope dto) := by
  obtain ⟨e, hexec⟩ | ⟨r, db', hcommits⟩ :
      (∃ e, (execute (importBankStatement host scope dto) w.db).1 = .error e) ∨
        ∃ r db', Commits (importBankStatement host scope dto) w.db r db' := by
    by_cases hc : ∃ r db', Commits (importBankStatement host scope dto) w.db r db'
    · exact .inr hc
    · exact .inl (refused_of_not_commits fun r db' hcommits => hc ⟨r, db', hcommits⟩)
  · have hsame : w.importFile host scope dto = w := by
      have hstate := execute_state_of_error hexec
      rw [World.importFile]
      cases hpair : execute (importBankStatement host scope dto) w.db with
      | mk result db' =>
        rw [hpair] at hexec hstate
        subst hexec hstate
        rfl
    rw [hsame]
    exact hw
  · have hworld : w.importFile host scope dto = ⟨db', ⟨scope, dto, r.1, r.2⟩ :: w.accepted⟩ := by
      rw [World.importFile, execute_of_commits hcommits]
    rw [hworld]
    by_cases hknown : ∃ a ∈ w.accepted, a.SameName scope dto
    · obtain ⟨a, ha, hname⟩ := hknown
      obtain ⟨p, hp⟩ := hw.recorded a ha
      obtain ⟨q, hq, hlooks, rfl, rfl⟩ := (hw.import_known ha hname hp).mp hcommits
      exact hw.repeated ha hname hp hq ((h q hq).1 a ha hname p hp.passes.prepared hlooks)
    · have hnew : ∀ a ∈ w.accepted, ¬ a.SameName scope dto := fun a ha hname => hknown ⟨a, ha, hname⟩
      obtain ⟨q, hq, hs, rfl, rfl⟩ := (hw.import_unknown hnew).mp hcommits
      obtain ⟨htrimmed, hcents⟩ := (h q hq).2 hnew hs
      exact hw.created hnew hq hs htrimmed hcents

end Steps

/-! ### Runs -/

structure Blank (w : World) : Prop where
  accepted : w.accepted = []
  statements : w.db.statements.rows = []
  lines : w.db.lines.rows = []

lemma Blank.sound {w : World} (h : Blank w) : Sound host w := by
  have hstatement (s : BankStatement) (hs : s ∈ w.db.statements) : False := by
    rw [mem_rows, h.statements] at hs
    cases hs
  have hline (l : BankStatementLine) (hl : l ∈ w.db.lines) : False := by
    rw [mem_rows, h.lines] at hl
    cases hl
  have haccepted (a : Accepted) (ha : a ∈ w.accepted) : False := by
    rw [h.accepted] at ha
    cases ha
  exact ⟨⟨fun s hs => (hstatement s hs).elim, fun l hl => (hline l hl).elim, fun l hl => (hline l hl).elim⟩,
    fun a ha => (haccepted a ha).elim, fun s hs => (hstatement s hs).elim, fun a ha => (haccepted a ha).elim,
    fun _ _ _ s hs => (hstatement s hs).elim⟩

def ImportsOnce (host : Host) (w : World) (e : Event) (_ : World) : Prop :=
  match e with
  | .importFile scope dto => ImportedOnce host w scope dto
  | .other _ => True

def Guard (host : Host) (w : World) (e : Event) : Prop :=
  match e with
  | .importFile scope dto => Unmistakable host w scope dto
  | .other _ => True

lemma Sound.step {w w' : World} {e : Event} (hw : Sound host w) (hstep : ImportStep host w e w')
    (hguard : Guard host w e) : Sound host w' := by
  cases e with
  | importFile scope dto =>
    rw [hstep]
    exact hw.importFile hguard
  | other db' =>
    obtain ⟨helsewhere, rfl⟩ := hstep
    exact hw.elsewhere helsewhere

/-- In a run from a database without statements, all requests import at most once exactly if none of them can be
mistaken. -/
theorem imports_once_iff {w w' : World} {events : List Event} (hblank : Blank w) :
    Run (fun w e w' => ImportStep host w e w' ∧ ImportsOnce host w e w') w events w' ↔
      Run (Guarded (Guard host) (ImportStep host)) w events w' := by
  refine Run.and_iff_guarded (I := Sound host) ?_ ?_ hblank.sound
  · exact fun _ _ _ hw hstep hguard => hw.step hstep hguard
  · intro w e w' hw _
    cases e with
    | importFile scope dto => exact hw.importedOnce_iff
    | other db' => exact Iff.rfl

/-! ### A file name with a blank at its end -/

def oneDay : Host where
  newDate value :=
    if value = "2024-02-01" ∨ value = "2024-02-01T00:00:00.000" then some 1706745600000
    else if value = "2024-02-01T23:59:59.999" then some 1706831999999
    else none
  numbers := NumberText.ratio

def emptyBooks : World where
  db := ⟨1, Table.empty.put ⟨1, 1⟩, Table.empty.put ⟨1, 1, .asset, true⟩, Table.empty, Table.empty⟩
  accepted := []

def oneLine (fileName : String) : ImportBankStatementDto where
  bankAccountId := 1
  source := "BCA"
  fileName := fileName
  lines := [{ transactionDate := "2024-02-01", description := "Biaya admin", debit := .value 5 }]

lemma emptyBooks_blank : Blank emptyBooks := ⟨rfl, rfl, rfl⟩

lemma entries_oneLine {q : Prepared} (hq : Passes oneDay emptyBooks.db ⟨1, 1⟩ (oneLine "mutasi.csv") q) :
    q.lines.map NormalizedLine.toEntry = [⟨some 1706745600000, "Biaya admin", none, 5, 0, none⟩] := by
  have hentries : (prepare oneDay (oneLine "mutasi.csv")).toOption.map
      (fun q => q.lines.map NormalizedLine.toEntry) =
        some [⟨some 1706745600000, "Biaya admin", none, 5, 0, none⟩] := by decide +kernel
  rw [hq.prepared] at hentries
  exact Option.some.inj hentries

lemma unmistakable_oneLine : Unmistakable oneDay emptyBooks ⟨1, 1⟩ (oneLine "mutasi.csv") := by
  intro q hq
  refine ⟨fun a ha => absurd ha not_mem_nil, fun _ _ => ⟨⟨by decide +kernel, by decide +kernel⟩, ?_⟩⟩
  refine ⟨fun x hx => (Option.not_mem_none x hx).elim, fun x hx => (Option.not_mem_none x hx).elim, ?_⟩
  intro l hl
  have hentry : l.toEntry ∈ q.lines.map NormalizedLine.toEntry := mem_map_of_mem hl
  rw [entries_oneLine hq, mem_singleton] at hentry
  rw [hentry]
  exact ⟨⟨500, by norm_num⟩, isCents_zero, fun x hx => (Option.not_mem_none x hx).elim⟩

theorem imports_once_oneLine : Run (fun w e w' => ImportStep oneDay w e w' ∧ ImportsOnce oneDay w e w')
    emptyBooks [.importFile ⟨1, 1⟩ (oneLine "mutasi.csv")]
    (emptyBooks.importFile oneDay ⟨1, 1⟩ (oneLine "mutasi.csv")) :=
  (imports_once_iff emptyBooks_blank).mpr (Run.cons ⟨unmistakable_oneLine, rfl⟩ (Run.nil _))

lemma twice_trailing : ((execute (importBankStatement oneDay ⟨1, 1⟩ (oneLine "mutasi.csv "))
      (execute (importBankStatement oneDay ⟨1, 1⟩ (oneLine "mutasi.csv ")) emptyBooks.db).2).1.map
        fun r => r.1.id).toOption = some 3 := by decide +kernel

lemma once_trailing : ((execute (importBankStatement oneDay ⟨1, 1⟩ (oneLine "mutasi.csv ")) emptyBooks.db).1.map
    fun r => r.1.id).toOption = some 1 := by decide +kernel

/-- The file `mutasi.csv` with a blank after its name is imported again when it is sent again. -/
theorem not_imports_once_trailing :
    Run (ImportStep oneDay) emptyBooks [.importFile ⟨1, 1⟩ (oneLine "mutasi.csv ")]
      (emptyBooks.importFile oneDay ⟨1, 1⟩ (oneLine "mutasi.csv ")) ∧
    ¬ Run (fun w e w' => ImportStep oneDay w e w' ∧ ImportsOnce oneDay w e w') emptyBooks
      [.importFile ⟨1, 1⟩ (oneLine "mutasi.csv ")]
      (emptyBooks.importFile oneDay ⟨1, 1⟩ (oneLine "mutasi.csv ")) := by
  refine ⟨Run.cons rfl (Run.nil _), fun h => ?_⟩
  obtain ⟨_, ⟨_, honce⟩, _⟩ := Run.cons_iff.mp h
  have hfirst := once_trailing
  have hsecond := twice_trailing
  cases hexec : execute (importBankStatement oneDay ⟨1, 1⟩ (oneLine "mutasi.csv ")) emptyBooks.db with
  | mk result db' =>
    rw [hexec] at hfirst hsecond
    cases result with
    | error e => cases hfirst
    | ok r =>
      rw [honce.again r db' hexec] at hsecond
      cases hfirst.symm.trans hsecond

end Mayatoko.Banking
