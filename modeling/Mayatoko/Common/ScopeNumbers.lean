import Mayatoko.Common.Numbering

/-!
# Document numbers of different scopes

A document number ends in the scope code, the month and the counter, and none of the three can be mistaken for
another one from the right: two numbers of one prefix are equal only if their scope codes are. Branch codes
are unique among branches and slugs among companies, but a branch and a company take their codes from
different tables, and a company without a slug has its id for a code.
-/

namespace Mayatoko.Common

open Core

/-! ### The scope code of a number -/

lemma getUTCFullYear_pos (now : ℕ) : 0 < getUTCFullYear now := by
  have hday : 719468 ≤ marchDay now := Nat.le_add_left _ _
  have hera : 4 ≤ marchDay now / 146097 := by omega
  have hyear : 1600 ≤ (marchYear now).1 := by
    simp only [marchYear]
    omega
  rw [getUTCFullYear]
  omega

lemma exists_ne_zero_mem_yearMonthText (now : ℕ) : ∃ ch ∈ (yearMonthText now).toList, ch ≠ '0' := by
  by_contra hall
  push Not at hall
  have hyear : ∀ ch ∈ (toString (getUTCFullYear now)).toList, ch = '0' := by
    intro ch hch
    apply hall
    rw [yearMonthText, String.toList_append]
    exact List.mem_append_left _ hch
  have hzeros := List.eq_replicate_of_mem hyear
  have hvalue : Nat.ofDigitChars 10 (toString (getUTCFullYear now)).toList 0 = getUTCFullYear now := by
    simp
  have hzero (n : ℕ) : Nat.ofDigitChars 10 (List.replicate n '0') 0 = 0 := by
    induction n with
    | zero => rfl
    | succ n ih => rwa [List.replicate_succ]
  rw [hzeros, hzero] at hvalue
  exact (getUTCFullYear_pos now).ne hvalue

lemma counterText_cases (n : ℤ) (padding : ℕ) : '-' ∉ (padStart (toString n) padding '0').toList ∨
    ∃ zeros digits, (padStart (toString n) padding '0').toList = zeros ++ '-' :: digits ∧
      (∀ ch ∈ zeros, ch = '0') ∧ '-' ∉ digits := by
  rw [toList_padStart, Int.toString_eq_repr, Int.repr_eq_if, List.leftpad]
  split
  next hn =>
    left
    simp [minus_not_mem_toDigits]
  next hn =>
    right
    rw [String.toList_append, Nat.toList_repr]
    exact ⟨_, Nat.toDigits 10 (-n).toNat, rfl, fun ch hch => (List.mem_replicate.mp hch).2,
      minus_not_mem_toDigits _⟩

lemma month_ne_zeros {l l' zeros : List Char} {now : ℕ} (hzeros : ∀ ch ∈ zeros, ch = '0') :
    l ++ '-' :: (yearMonthText now).toList ≠ l' ++ '-' :: zeros := by
  intro h
  have hminus : '-' ∉ zeros := fun hmem => absurd (hzeros _ hmem) (by decide)
  obtain ⟨_, htext⟩ := append_cons_inj_last (minus_not_mem_yearMonthText now) hminus h
  obtain ⟨ch, hch, hne⟩ := exists_ne_zero_mem_yearMonthText now
  exact hne (hzeros ch (htext ▸ hch))

lemma counter_cancel {l l' : List Char} {t t' : ℕ} {m n : ℤ} {padding padding' : ℕ}
    (h : (l ++ '-' :: (yearMonthText t).toList) ++ '-' :: (padStart (toString m) padding '0').toList =
      (l' ++ '-' :: (yearMonthText t').toList) ++ '-' :: (padStart (toString n) padding' '0').toList) :
    l ++ '-' :: (yearMonthText t).toList = l' ++ '-' :: (yearMonthText t').toList := by
  have hnotin (zeros : List Char) (hzeros : ∀ ch ∈ zeros, ch = '0') : '-' ∉ zeros :=
    fun hmem => absurd (hzeros _ hmem) (by decide)
  rcases counterText_cases m padding with hm | ⟨zeros, digits, htext, hzeros, hdigits⟩
  · rcases counterText_cases n padding' with hn | ⟨zeros', digits', htext', hzeros', hdigits'⟩
    · exact (append_cons_inj_last hm hn h).1
    · rw [htext', ← cons_append, ← append_assoc] at h
      obtain ⟨hmonth, _⟩ := append_cons_inj_last hm hdigits' h
      exact absurd hmonth (month_ne_zeros hzeros')
  · rcases counterText_cases n padding' with hn | ⟨zeros', digits', htext', hzeros', hdigits'⟩
    · rw [htext, ← cons_append, ← append_assoc] at h
      obtain ⟨hmonth, _⟩ := append_cons_inj_last hdigits hn h
      exact absurd hmonth.symm (month_ne_zeros hzeros)
    · rw [htext, htext', ← cons_append, ← cons_append, ← append_assoc, ← append_assoc] at h
      obtain ⟨hmonths, _⟩ := append_cons_inj_last hdigits hdigits' h
      exact (append_cons_inj_last (hnotin zeros hzeros) (hnotin zeros' hzeros') hmonths).1

variable {documentPrefix code : String}

lemma formatNumber_scope {code' : String} {t t' padding padding' : ℕ} {m n : ℤ}
    (h : formatNumber documentPrefix code t m padding = formatNumber documentPrefix code' t' n padding') :
    code = code' := by
  have hlist := congrArg String.toList h
  have hhyphen : "-".toList = ['-'] := rfl
  simp only [formatNumber, String.toList_append, hhyphen, append_assoc, List.singleton_append] at hlist
  replace hlist := List.cons_injective (List.append_cancel_left hlist)
  have hassoc : (code.toList ++ '-' :: (yearMonthText t).toList) ++
        '-' :: (padStart (toString m) padding '0').toList =
      (code'.toList ++ '-' :: (yearMonthText t').toList) ++
        '-' :: (padStart (toString n) padding' '0').toList := by
    rw [append_assoc, append_assoc]
    exact hlist
  obtain ⟨hcode, _⟩ := append_cons_inj_last (minus_not_mem_yearMonthText t) (minus_not_mem_yearMonthText t')
    (counter_cancel hassoc)
  exact String.toList_inj.mp hcode

/-! ### Calls of two scopes -/

structure IssuingScope where
  companyId : ℕ
  branchId : Option ℕ

structure ScopeTables where
  companies : Table Company.id
  branches : Table Branch.id

def NumberingDb.scopes (db : NumberingDb) : ScopeTables := ⟨db.companies, db.branches⟩

def NumberOptions.scope (opts : NumberOptions) : IssuingScope := ⟨opts.companyId, opts.branchId⟩

def Draws (tables : ScopeTables) (scope : IssuingScope) (documentType documentPrefix number : String) :
    Prop :=
  ∃ opts now db db', opts.scope = scope ∧ opts.documentType = documentType ∧
    opts.documentPrefix = documentPrefix ∧ db.scopes = tables ∧
    Commits (nextDocumentNumber opts now) db number db'

/-- No number of the first scope is one of the second, whatever the times, the counters and the paddings.
The branches and companies are those at the time of each call. -/
def NeverClash (tables tables' : ScopeTables) (scope scope' : IssuingScope)
    (documentType documentPrefix : String) : Prop :=
  ∀ number number', Draws tables scope documentType documentPrefix number →
    Draws tables' scope' documentType documentPrefix number' → number ≠ number'

/-- What stands for the company in its numbers: its slug, or its id where it has none. -/
def Company.documentCode (c : Company) : String := (c.slug.filter (· ≠ "")).getD (toString c.id)

inductive HasCode (tables : ScopeTables) : IssuingScope → String → Prop
  | branch {b : Branch} (h : b ∈ tables.branches) : HasCode tables ⟨b.companyId, some b.id⟩ b.code
  | company {c : Company} (h : c ∈ tables.companies) : HasCode tables ⟨c.id, none⟩ c.documentCode

def ShareCode (tables tables' : ScopeTables) (scope scope' : IssuingScope) : Prop :=
  ∃ code, HasCode tables scope code ∧ HasCode tables' scope' code

variable {scope : IssuingScope}

lemma hasCode_iff {db : NumberingDb} :
    HasCode db.scopes scope code ↔ db.scopeCode scope.companyId scope.branchId = some code := by
  constructor
  · intro h
    cases h with
    | branch h =>
      have hfind : db.branches.find? _ = some _ := find?_of_mem h
      simp [NumberingDb.scopeCode, hfind]
    | company h =>
      have hfind : db.companies.find? _ = some _ := find?_of_mem h
      simp only [NumberingDb.scopeCode, hfind, Option.map_some, Company.documentCode]
  · obtain ⟨companyId, _ | branchId⟩ := scope
    · intro h
      obtain ⟨c, hc, rfl⟩ := Option.map_eq_some_iff.mp h
      obtain ⟨hmem, rfl⟩ := find?_eq_some.mp hc
      exact HasCode.company hmem
    · intro h
      obtain ⟨b, hb, rfl⟩ := Option.map_eq_some_iff.mp h
      obtain ⟨hfind, hcompany⟩ := Option.filter_eq_some_iff.mp hb
      obtain ⟨hmem, rfl⟩ := find?_eq_some.mp hfind
      obtain rfl := of_decide_eq_true hcompany
      exact HasCode.branch hmem

variable {tables : ScopeTables}

lemma hasCode_of_draws
    {documentType number : String}
    (h : Draws tables scope documentType documentPrefix number) : ∃ code t n padding,
      HasCode tables scope code ∧ number = formatNumber documentPrefix code t n padding := by
  obtain ⟨opts, now, db, db', rfl, _, rfl, rfl, hcall⟩ := h
  obtain ⟨code, hcode, _, rfl, _⟩ := nextDocumentNumber_commits hcall
  exact ⟨code, _, _, _, hasCode_iff.mpr hcode, rfl⟩

lemma draws_first
    (h : HasCode tables scope code) (documentType documentPrefix : String) :
    Draws tables scope documentType documentPrefix (formatNumber documentPrefix code 0 1 6) := by
  let opts : NumberOptions :=
    { companyId := scope.companyId, branchId := scope.branchId, documentType := documentType,
      documentPrefix := documentPrefix }
  let db : NumberingDb := ⟨tables.companies, tables.branches, Table.empty⟩
  have hrow : db.sequenceRow opts 0 = newSequence opts 0 := rfl
  have hcode : db.scopeCode opts.companyId opts.branchId = some code := hasCode_iff.mp h
  have hcurrent : currentNumber opts.resetPolicy 0 (db.sequenceRow opts 0) =
      (db.sequenceRow opts 0).nextNumber := by
    rw [hrow]
    rfl
  obtain ⟨number, db', hcall⟩ := nextDocumentNumber_succeeds hcode hcurrent
  obtain ⟨code', hcode', _, rfl, _⟩ := nextDocumentNumber_commits hcall
  obtain rfl : code = code' := mem_unique hcode hcode'
  exact ⟨opts, 0, db, db', rfl, rfl, rfl, rfl, hcall⟩

/-- Two scopes never draw the same number exactly if they do not share a code. -/
theorem neverClash_iff (tables tables' : ScopeTables) (scope scope' : IssuingScope)
    (documentType documentPrefix : String) :
    NeverClash tables tables' scope scope' documentType documentPrefix ↔
      ¬ ShareCode tables tables' scope scope' := by
  constructor
  · rintro hclash ⟨code, hcode, hcode'⟩
    exact hclash _ _ (draws_first hcode _ _) (draws_first hcode' _ _) rfl
  · intro hshare number number' hdraw hdraw' heq
    obtain ⟨code, t, n, padding, hcode, rfl⟩ := hasCode_of_draws hdraw
    obtain ⟨code', t', n', padding', hcode', rfl⟩ := hasCode_of_draws hdraw'
    obtain rfl := formatNumber_scope heq
    exact hshare ⟨code, hcode, hcode'⟩

def mainTables : ScopeTables where
  companies := (Table.empty.put { id := 1, slug := some "one" }).put { id := 2, slug := some "MAIN" }
  branches := Table.empty.put { id := 3, companyId := 1, code := "MAIN" }

theorem not_neverClash_main :
    ¬ NeverClash mainTables mainTables ⟨1, some 3⟩ ⟨2, none⟩ "JOURNAL" "JRN" := by
  have hbranch : HasCode mainTables ⟨1, some 3⟩ "MAIN" :=
    HasCode.branch (b := { id := 3, companyId := 1, code := "MAIN" }) (mem_put_self _ _)
  have hcompany : HasCode mainTables ⟨2, none⟩ "MAIN" :=
    HasCode.company (c := { id := 2, slug := some "MAIN" }) (mem_put_self _ _)
  intro h
  exact h _ _ (draws_first hbranch _ _) (draws_first hcompany _ _) rfl

end Mayatoko.Common
