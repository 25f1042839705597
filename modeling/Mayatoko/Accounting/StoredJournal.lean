import Mayatoko.Accounting.OperationalEvent

/-!
# Journals as they are stored

`postOperationalEvent` compares the sides of a journal in exact decimals, while the columns of the
journal lines round each amount to cents by itself. For an amount that is not negative the rounding
adds a whole cent if the part below a cent is at least half, and takes that part away. The stored
journal balances exactly if these differences agree on both sides, up to the amounts of lines whose
side is neither of the two: the check counts these as credits and the lines store nothing.
-/

namespace Mayatoko.Accounting

open Core

def subCent (x : ℚ) : ℚ := Int.fract (x * 100)

def storageCarry (x : ℚ) : ℚ := (if 1 / 2 ≤ subCent x then 1 else 0) - subCent x

lemma roundHalfUp_of_nonneg {x : ℚ} (hx : 0 ≤ x) :
    (roundHalfUp x : ℚ) = x + ((if 1 / 2 ≤ Int.fract x then 1 else 0) - Int.fract x) := by
  have hfract := Int.floor_add_fract x
  have hlt := Int.fract_lt_one x
  have hpos := Int.fract_nonneg x
  rw [roundHalfUp, if_pos hx]
  split
  next hup =>
    have hfloor : ⌊x + 1 / 2⌋ = ⌊x⌋ + 1 := by
      rw [Int.floor_eq_iff]
      push_cast
      constructor <;> linarith
    rw [hfloor]
    push_cast
    linarith
  next hdown =>
    rw [not_le] at hdown
    have hfloor : ⌊x + 1 / 2⌋ = ⌊x⌋ := by
      rw [Int.floor_eq_iff]
      constructor <;> linarith
    rw [hfloor]
    linarith

lemma toDecimalPlaces_of_nonneg {x : ℚ} (hx : 0 ≤ x) : toDecimalPlaces x 2 = x + storageCarry x / 100 := by
  have h := roundHalfUp_of_nonneg (x := x * 100) (by linarith)
  rw [toDecimalPlaces, show (10 : ℚ) ^ 2 = 100 by norm_num, h, storageCarry, subCent]
  ring

lemma storageCarry_congr {x y : ℚ} (h : IsCents (x - y)) : storageCarry x = storageCarry y := by
  obtain ⟨k, hk⟩ := h
  have hcents : x * 100 = y * 100 + k := by linarith
  rw [storageCarry, storageCarry, subCent, subCent, hcents, Int.fract_add_intCast]

lemma storageCarry_of_isCents {x : ℚ} (h : IsCents x) : storageCarry x = 0 := by
  obtain ⟨k, rfl⟩ := h
  rw [storageCarry, subCent, div_mul_cancel₀ _ (by norm_num), Int.fract_intCast]
  norm_num

/-! ### Totals over the lines of a rule -/

namespace AccountingPostingRule

variable (rule : AccountingPostingRule) (input : PostOperationalEventInput)

/-- What storing adds to the lines whose side meets `p`, in cents. -/
def carry (p : String → Bool) : ℚ :=
  ((rule.usable input).map fun line =>
    if p line.side then storageCarry (input.amount line.amountKey) else 0).sum

/-- The total of the lines whose side is neither `DEBIT` nor `CREDIT`. -/
def strayTotal : ℚ := rule.total input fun side => side ≠ "DEBIT" ∧ side ≠ "CREDIT"

/-- Storage adds to both sides alike, up to the amounts that no side stores. -/
def RoundsAlike : Prop :=
  rule.carry input (· = "CREDIT") - rule.carry input (· = "DEBIT") = 100 * rule.strayTotal input

instance : Decidable (rule.RoundsAlike input) := by
  unfold RoundsAlike
  infer_instance

variable {rule input}

lemma sum_stored (h : ∀ line ∈ rule.usable input, 0 ≤ input.amount line.amountKey) (p : String → Bool) :
    ((rule.usable input).map fun line =>
        if p line.side then toDecimalPlaces (input.amount line.amountKey) 2 else 0).sum =
      rule.total input p + rule.carry input p / 100 := by
  unfold total carry
  generalize rule.usable input = lines at h
  induction lines with
  | nil => simp
  | cons line lines ih =>
    have hline := toDecimalPlaces_of_nonneg (h line mem_cons_self)
    have hrest := ih fun l hl => h l (mem_cons_of_mem line hl)
    simp only [map_cons, sum_cons, hrest]
    split
    · rw [hline]
      ring
    · ring

lemma creditTotal_eq :
    rule.creditTotal input = rule.total input (· = "CREDIT") + rule.strayTotal input := by
  unfold creditTotal strayTotal total
  induction rule.usable input with
  | nil => simp
  | cons line lines ih =>
    simp only [map_cons, sum_cons, ih]
    by_cases hd : line.side = "DEBIT"
    · simp [hd]
    · by_cases hc : line.side = "CREDIT"
      · simp [hc]
        ring
      · simp [hd, hc]
        ring

end AccountingPostingRule

lemma AccountingPostingRule.sum_usable {rule : AccountingPostingRule}
    {input : PostOperationalEventInput} {f : JournalRuleLine → ℚ}
    (hf : ∀ line, input.amount line.amountKey = 0 → f line = 0) :
    ((rule.usable input).map f).sum = (rule.journalLines.map f).sum := by
  rw [usable]
  induction rule.journalLines with
  | nil => rfl
  | cons line lines ih =>
    rw [List.filter_cons]
    split_ifs with hused
    · simp only [map_cons, sum_cons, ih]
    · have hzero : input.amount line.amountKey = 0 := by
        simp only [Bool.or_eq_true, Bool.not_eq_true', decide_eq_true_eq, not_or, not_not] at hused
        exact hused.2
      rw [ih, map_cons, sum_cons, hf line hzero, zero_add]

/-! ### Stored journals -/

def JournalEntry.debits (entry : JournalEntry) : ℚ := (entry.lines.map JournalLine.debit).sum

def JournalEntry.credits (entry : JournalEntry) : ℚ := (entry.lines.map JournalLine.credit).sum

def JournalEntry.movement (entry : JournalEntry) (accountId : ℕ) : ℚ :=
  (entry.lines.map fun l => if l.accountId = accountId then l.debit - l.credit else 0).sum

def JournalsBalance (db : AccountingDb) : Prop :=
  ∀ entry ∈ db.journalEntries, entry.debits = entry.credits

def StoresAlike (db : AccountingDb) (input : PostOperationalEventInput) : Prop :=
  db.events.find? input.key = none → ∀ rule,
    db.activeRule input.companyId input.eventType (input.businessDate.getD db.now) = some rule →
      rule.RoundsAlike input

def PostStep (db : AccountingDb) (input : PostOperationalEventInput) (db' : AccountingDb) : Prop :=
  ∃ ev, Commits (postOperationalEvent input) db ev db'

variable {db db' : AccountingDb} {input : PostOperationalEventInput} {ev : AccountingEvent}
  {rule : AccountingPostingRule}

lemma Posted.entry_balanced_iff (h : Posted input db rule ev db') :
    (entryOf input db rule).debits = (entryOf input db rule).credits ↔ rule.RoundsAlike input := by
  have hd : (entryOf input db rule).debits =
      rule.debitTotal input + rule.carry input (· = "DEBIT") / 100 := by
    rw [AccountingPostingRule.debitTotal, ← AccountingPostingRule.sum_stored h.nonneg]
    simp [JournalEntry.debits, entryOf, AccountingPostingRule.journal, Function.comp_def, storedLine]
  have hc : (entryOf input db rule).credits =
      rule.total input (· = "CREDIT") + rule.carry input (· = "CREDIT") / 100 := by
    rw [← AccountingPostingRule.sum_stored h.nonneg]
    simp [JournalEntry.credits, entryOf, AccountingPostingRule.journal, Function.comp_def, storedLine]
  have hcheck := h.balanced
  rw [AccountingPostingRule.creditTotal_eq] at hcheck
  rw [hd, hc, AccountingPostingRule.RoundsAlike]
  constructor
  · intro heq
    linarith
  · intro heq
    linarith

lemma journalsBalance_iff_of_step (h₀ : JournalsBalance db) (h : PostStep db input db') :
    JournalsBalance db' ↔ StoresAlike db input := by
  obtain ⟨ev, hc⟩ := h
  rcases postOperationalEvent_commits hc with ⟨hfind, _, rfl⟩ | ⟨rule, hposted⟩
  · refine iff_of_true h₀ fun hnone => ?_
    rw [hfind] at hnone
    cases hnone
  · have hentry := hposted.entry_balanced_iff
    constructor
    · intro hall _ rule' hrule'
      obtain rfl := mem_unique hposted.rule_eq hrule'
      refine hentry.mp (hall _ ?_)
      rw [hposted.entries]
      exact mem_put_self _ _
    · intro halike entry hmem
      rw [hposted.entries, mem_put] at hmem
      rcases hmem with rfl | ⟨hold, _⟩
      · exact hentry.mpr (halike hposted.freshEvent rule hposted.rule_eq)
      · exact h₀ entry hold

/-- Every journal that a history of successful calls stores has equal sides exactly if each call
that posts a new event does so under a rule that stores both sides alike. -/
theorem journalsBalance_iff {inputs : List PostOperationalEventInput} (h₀ : JournalsBalance db) :
    Run (Landing JournalsBalance PostStep) db inputs db' ↔
      Run (Guarded StoresAlike PostStep) db inputs db' := by
  refine Run.landing_iff_guarded (fun st input st' hst hstep => ?_) h₀
  exact journalsBalance_iff_of_step hst hstep

def threeAccounts : AccountingDb :=
  { AccountingDb.empty with
    postingRules := Table.empty.put
      { id := 1, companyId := 1, code := "SPLIT", eventType := "MANUAL", status := .active
        journalLines := [
          { accountCode := "1101", side := "DEBIT", amountKey := "gross" },
          { accountCode := "4101", side := "CREDIT", amountKey := "net" },
          { accountCode := "2201", side := "CREDIT", amountKey := "tax" }] }
    accounts := ((Table.empty.put ⟨1, 1, "1101", true⟩).put ⟨2, 1, "4101", true⟩).put
      ⟨3, 1, "2201", true⟩ }

def manualEvent (gross net tax : ℚ) : PostOperationalEventInput where
  companyId := 1
  branchId := 1
  eventType := "MANUAL"
  sourceType := "Manual"
  sourceId := "1"
  idempotencyKey := "manual:1"
  amounts := [("gross", gross), ("net", net), ("tax", tax)]

lemma threeAccounts_balance : JournalsBalance threeAccounts := by
  intro entry h
  cases h

lemma manualEvent_step (gross net tax : ℚ)
    (h : (execute (postOperationalEvent (manualEvent gross net tax)) threeAccounts).1 =
      .ok (postedEvent (manualEvent gross net tax) 0 0)) :
    PostStep threeAccounts (manualEvent gross net tax)
      (execute (postOperationalEvent (manualEvent gross net tax)) threeAccounts).2 :=
  ⟨_, commits_of_execute h⟩

/-- Two halves of a cent are stored as two cents, their sum as one. -/
theorem halfCents_notBalanced : JournalsBalance threeAccounts ∧
      ∃ db, PostStep threeAccounts (manualEvent (1 / 100) (1 / 200) (1 / 200)) db ∧
        ¬ JournalsBalance db := by
  have hstep := manualEvent_step (1 / 100) (1 / 200) (1 / 200) (by decide +kernel)
  refine ⟨threeAccounts_balance, _, hstep, fun hall => ?_⟩
  have hentry := hall ⟨0, 0, "Manual", "1", [⟨1, 1 / 100, 0⟩, ⟨2, 0, 1 / 100⟩, ⟨3, 0, 1 / 100⟩]⟩
    (by rw [mem_rows]; decide +kernel)
  revert hentry
  decide +kernel

theorem journalsBalance_wholeCents : ∃ db, Run (Landing JournalsBalance PostStep) threeAccounts
      [manualEvent (3 / 100) (2 / 100) (1 / 100)] db := by
  have hstep := manualEvent_step (3 / 100) (2 / 100) (1 / 100) (by decide +kernel)
  refine ⟨_, (journalsBalance_iff threeAccounts_balance).mpr
    (Run.cons ⟨fun _ rule hrule => ?_, hstep⟩ (Run.nil _))⟩
  have hfirst : threeAccounts.activeRule 1 "MANUAL" 0 = some (threeAccounts.postingRules.rows.head
      (by decide +kernel)) := by
    decide +kernel
  obtain rfl := mem_unique hfirst hrule
  decide +kernel

end Mayatoko.Accounting
