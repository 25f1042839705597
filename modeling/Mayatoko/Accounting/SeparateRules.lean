import Mayatoko.Accounting.PostedOnce
import Mayatoko.Accounting.PostingRules

/-!
# Active rules are separate

Two active rules of one company, event type and priority have no date on which both are in force. A rule that has
left the draft status, or under which a posting was made, keeps its journal lines.
-/

namespace Mayatoko.Accounting

open Core

variable {newDate : String → Option ℕ} {toUpperCase : String → String} {db db' : RuleDb}
  {r r' rule : AccountingPostingRule} {rules : Table AccountingPostingRule.id} {d : RuleDefinition}
  {companyId branchId : ℕ} {excludeRuleId : Option ℕ}

/-! ### Rules that meet -/

structure AccountingPostingRule.Meets (r r' : AccountingPostingRule) : Prop where
  companyId : r.companyId = r'.companyId
  eventType : r.eventType = r'.eventType
  priority : r.priority = r'.priority
  active : r.status = .active ∧ r'.status = .active
  date : ∃ date, inForce r.effectiveFrom r.effectiveTo date = true ∧
    inForce r'.effectiveFrom r'.effectiveTo date = true

def Separate (rules : Table AccountingPostingRule.id) : Prop :=
  ∀ r ∈ rules, ∀ r' ∈ rules, r.Meets r' → r = r'

lemma AccountingPostingRule.Meets.symm (h : r.Meets r') : r'.Meets r where
  companyId := h.companyId.symm
  eventType := h.eventType.symm
  priority := h.priority.symm
  active := h.active.symm
  date := h.date.imp fun _ hdate => hdate.symm

lemma separate_empty : Separate .empty :=
  fun r hr => absurd hr (not_mem_empty r)

lemma Separate.put (h : Separate rules) (hr : ∀ r' ∈ rules, r'.id ≠ r.id → ¬ r.Meets r') :
    Separate (rules.put r) := by
  intro x hx y hy hmeets
  rcases mem_put.mp hx with rfl | ⟨hx', hxr⟩
  · rcases mem_put.mp hy with rfl | ⟨hy, hyr⟩
    · rfl
    · exact absurd hmeets (hr y hy hyr)
  · rcases mem_put.mp hy with rfl | ⟨hy, _⟩
    · exact absurd hmeets.symm (hr x hx' hxr)
    · exact h x hx' y hy hmeets

variable {date : ℕ}

lemma inForce_overlap {start finish start' finish' : Option ℕ}
    (h : inForce start finish date = true) (h' : inForce start' finish' date = true) :
    (start.all fun s => finish'.all (s ≤ ·)) = true ∧ (finish.all fun f => start'.all (· ≤ f)) = true := by
  simp only [inForce, cond_iff, Option.all_eq_true] at h h' ⊢
  exact ⟨fun s hs f hf => (h.1 s hs).trans (h'.2 f hf), fun f hf s hs => (h'.1 s hs).trans (h.2 f hf)⟩

structure RuleDefinition.Describes (d : RuleDefinition) (companyId : ℕ) (r : AccountingPostingRule) :
    Prop where
  companyId : r.companyId = companyId
  eventType : r.eventType = d.eventType
  priority : r.priority = d.priority.getD 100
  effectiveFrom : r.effectiveFrom = d.effectiveFrom
  effectiveTo : r.effectiveTo = d.effectiveTo

lemma RuleDefinition.Describes.not_meets (hd : d.Describes companyId r)
    (hover : d.overlaps companyId excludeRuleId r' = false) (hne : ∀ id, excludeRuleId = some id → r'.id ≠ id) :
    ¬ r.Meets r' := by
  intro h
  obtain ⟨date, hr, hr'⟩ := h.date
  obtain ⟨hfrom, hto⟩ := inForce_overlap hr hr'
  rw [hd.effectiveFrom] at hfrom
  rw [hd.effectiveTo] at hto
  have hcompany := h.companyId.symm.trans hd.companyId
  have htype := h.eventType.symm.trans hd.eventType
  have hpriority := h.priority.symm.trans hd.priority
  have hexclude : excludeRuleId.all (r'.id ≠ ·) = true := by
    simpa only [Option.all_eq_true, decide_eq_true_eq] using hne
  simp only [RuleDefinition.overlaps, hcompany, htype, hpriority, h.active.2, hexclude, hfrom, hto, decide_true,
    Bool.and_self, Bool.true_eq_false] at hover

/-! ### What the calls write -/

lemma checkRuleLine_readOnly {line : JournalRuleLine} : ReadOnly (checkRuleLine line) :=
  leaves_require.bind fun _ => leaves_require

variable {lines : List JournalRuleLine}

lemma checkLiteralCodes_readOnly : ReadOnly (checkLiteralCodes toUpperCase companyId branchId lines) :=
  leaves_get.bind fun _ => leaves_require

lemma validatePostingRuleDefinition_commits
    (h : Commits (validatePostingRuleDefinition toUpperCase companyId branchId d excludeRuleId) db () db') :
    db = db' ∧ (d.status.getD "DRAFT" = "ACTIVE" →
      ∀ r ∈ db.rules, d.overlaps companyId excludeRuleId r = false) := by
  obtain ⟨_, h⟩ := commits_require_bind.mp h
  obtain ⟨_, h⟩ := commits_require_bind.mp h
  obtain ⟨_, h⟩ := commits_require_bind.mp h
  obtain ⟨_, _, hlines, h⟩ := commits_bind.mp h
  obtain rfl := ReadOnly.eq (Leaves.forM fun _ => checkRuleLine_readOnly) hlines
  obtain ⟨_, _, hcodes, h⟩ := commits_bind.mp h
  obtain rfl := checkLiteralCodes_readOnly.eq hcodes
  obtain ⟨hactive, h⟩ | ⟨hactive, h⟩ := commits_ite.mp h
  · rw [checkOverlap, commits_get_bind] at h
    obtain ⟨hnone, rfl⟩ := commits_refuse.mp h
    refine ⟨rfl, fun _ r hr => ?_⟩
    rw [List.head?_eq_none_iff, List.eq_nil_iff_forall_not_mem] at hnone
    simpa [mem_findMany, hr] using hnone r
  · exact ⟨(commits_pure.mp h).2, fun h => absurd h hactive⟩

def RuleDb.IsHistory (db : RuleDb) (r : AccountingPostingRule) : Prop :=
  r.status ≠ .draft ∨ ∃ p ∈ db.ledger.postings, p.ruleId = r.id

/-- A call writes one rule. It meets no other rule, and a rule that is history keeps its lines. -/
structure WritesRule (db : RuleDb) (r : AccountingPostingRule) (db' : RuleDb) : Prop where
  rules : db'.rules = db.rules.put r
  postings : db'.ledger.postings = db.ledger.postings
  apart : ∀ r' ∈ db.rules, r'.id ≠ r.id → ¬ r.Meets r'
  history : ∀ r' ∈ db.rules, r'.id = r.id → db.IsHistory r' →
    r.journalLines = r'.journalLines ∧ (r'.status ≠ .draft → r.status ≠ .draft)

lemma ruleDate_readOnly {value : Option String} : ReadOnly (ruleDate newDate value) := by
  unfold ruleDate
  split
  · exact leaves_pure
  · exact leaves_orThrow.bind fun _ => leaves_pure

lemma mem_of_ruleOf {code : String} {version : ℤ} (h : db.ruleOf companyId code version = some r) :
    r ∈ db.rules ∧ r.companyId = companyId := by
  have hfound := List.find?_some h
  rw [Bool.and_eq_true, Bool.and_eq_true, decide_eq_true_eq, decide_eq_true_eq] at hfound
  exact ⟨List.mem_of_find?_eq_some h, hfound.1.1⟩

variable {existing : Option AccountingPostingRule} {dto : CreatePostingRuleDto}

lemma checkExisting_commits
    (h : Commits (checkExisting existing dto) db () db') :
    db = db' ∧ ∀ r, existing = some r → ¬ db.IsHistory r := by
  cases existing with
  | none => exact ⟨(commits_pure.mp h).2, fun r hr => by cases hr⟩
  | some existing =>
    rw [checkExisting, checkDraft, commits_get_bind] at h
    obtain ⟨⟨hdraft, hcount⟩, rfl⟩ := commits_require.mp h
    refine ⟨rfl, fun r hr hhistory => ?_⟩
    obtain rfl := Option.some.inj hr
    rcases hhistory with hstatus | ⟨p, hp, hrule⟩
    · exact hstatus hdraft
    · rw [List.length_eq_zero_iff, filter_eq_nil_iff] at hcount
      exact hcount p hp (decide_eq_true hrule)

variable {status : AccountingRuleStatus}

lemma writeRule_commits {code : String} {version : ℤ}
    (hexisting : ∀ r, existing = some r → r ∈ db.rules ∧ r.companyId = companyId)
    (h : Commits (writeRule toUpperCase companyId code version status d existing) db rule db') :
    db'.rules = db.rules.put rule ∧ db'.ledger.postings = db.ledger.postings ∧ rule.status = status ∧
      d.Describes companyId rule ∧ (∀ r, existing = some r → r.id = rule.id) ∧
      ∀ r ∈ db.rules, r.id = rule.id → existing = some r := by
  cases existing with
  | none =>
    obtain ⟨_, h⟩ := commits_require_bind.mp (commits_get_bind.mp h)
    obtain ⟨_, _, hcreate, h⟩ := commits_bind.mp h
    obtain ⟨hfresh, rfl⟩ := TableOf.commits_create.mp hcreate
    obtain ⟨_, _, hmodify, h⟩ := commits_bind.mp h
    obtain rfl := commits_modify.mp hmodify
    obtain ⟨rfl, rfl⟩ := commits_pure.mp h
    refine ⟨rfl, rfl, rfl, ⟨rfl, rfl, rfl, rfl, rfl⟩, fun r hr => (by cases hr), fun r hr hid => ?_⟩
    exact absurd hid (find?_eq_none.mp hfresh r hr)
  | some existing =>
    obtain ⟨o, ho, rfl, rfl⟩ := TableOf.commits_update.mp h
    obtain ⟨hmem, hid⟩ := find?_eq_some.mp ho
    obtain ⟨hexists, hcompany⟩ := hexisting existing rfl
    obtain rfl := eq_of_key_eq hmem hexists hid
    refine ⟨rfl, rfl, rfl, ⟨hcompany, rfl, rfl, rfl, rfl⟩, fun r hr => ?_, fun r hr hr' => ?_⟩
    · rw [← Option.some.inj hr]
    · rw [eq_of_key_eq hr hmem hr']

lemma createPostingRule_commits
    (h : Commits (createPostingRule newDate toUpperCase companyId branchId dto) db rule db') :
    WritesRule db rule db' := by
  obtain ⟨_, h⟩ := commits_require_bind.mp h
  obtain ⟨_, _, hcheck, h⟩ := commits_bind.mp (commits_get_bind.mp h)
  obtain ⟨rfl, hdraft⟩ := checkExisting_commits hcheck
  obtain ⟨effectiveFrom, _, hfrom, h⟩ := commits_bind.mp h
  obtain rfl := ruleDate_readOnly.eq hfrom
  obtain ⟨effectiveTo, _, hto, h⟩ := commits_bind.mp h
  obtain rfl := ruleDate_readOnly.eq hto
  obtain ⟨_, _, hvalid, h⟩ := commits_bind.mp h
  obtain ⟨rfl, hseparate⟩ := validatePostingRuleDefinition_commits hvalid
  obtain ⟨status, hstatus, h⟩ := commits_orThrow_bind.mp h
  obtain ⟨hrules, hpostings, hwritten, hdescribes, hid, hexisting⟩ :=
    writeRule_commits (fun r hr => mem_of_ruleOf hr) h
  refine ⟨hrules, hpostings, fun r' hr' hne hmeets => ?_, fun r' hr' hr'id hhistory => ?_⟩
  · have hactive : dto.status.getD "DRAFT" = "ACTIVE" := by
      have hrule := hmeets.active.1
      rw [hwritten] at hrule
      subst hrule
      unfold AccountingRuleStatus.ofText at hstatus
      split at hstatus <;> first | assumption | cases hstatus
    refine hdescribes.not_meets (hseparate hactive r' hr') (fun id hexcluded => ?_) hmeets
    obtain ⟨r, hr, rfl⟩ := Option.map_eq_some_iff.mp hexcluded
    rw [hid r hr]
    exact hne
  · exact absurd hhistory (hdraft r' (hexisting r' hr' hr'id))

lemma checkActivation_commits
    (h : Commits (checkActivation toUpperCase companyId branchId status rule) db () db') :
    db = db' ∧ (status = .active →
      ∀ r ∈ db.rules, rule.definition.overlaps companyId (some rule.id) r = false) := by
  obtain ⟨_, h⟩ | ⟨hstatus, h⟩ := commits_ite.mp h
  · obtain ⟨rfl, hseparate⟩ := validatePostingRuleDefinition_commits h
    exact ⟨rfl, fun _ => hseparate rfl⟩
  · exact ⟨(commits_pure.mp h).2, fun h => absurd h hstatus⟩

lemma updatePostingRuleStatus_commits {id : ℕ}
    (h : Commits (updatePostingRuleStatus toUpperCase companyId branchId id status) db rule db') :
    WritesRule db rule db' := by
  obtain ⟨r, hr, h⟩ := commits_orThrow_bind.mp (commits_get_bind.mp h)
  obtain ⟨hback, h⟩ := commits_require_bind.mp h
  obtain ⟨_, _, hcheck, h⟩ := commits_bind.mp h
  obtain ⟨rfl, hseparate⟩ := checkActivation_commits hcheck
  obtain ⟨o, ho, rfl, rfl⟩ := TableOf.commits_update.mp h
  obtain ⟨hfind, hcompany⟩ := Option.filter_eq_some_iff.mp hr
  obtain rfl := mem_unique hfind ho
  refine ⟨rfl, rfl, fun r' hr' hne hmeets => ?_, fun r' hr' hid _ => ?_⟩
  · have hdescribes : r.definition.Describes companyId { r with status } :=
      ⟨of_decide_eq_true hcompany, rfl, rfl, rfl, rfl⟩
    refine hdescribes.not_meets (hseparate hmeets.active.1 r' hr') (fun id hexcluded => ?_) hmeets
    rw [← Option.some.inj hexcluded]
    exact hne
  · obtain rfl := eq_of_key_eq hr' (find?_eq_some.mp ho).1 hid
    exact ⟨rfl, fun hstatus hdraft => hstatus (hback hdraft)⟩

/-! ### Runs -/

/-- What happens to the rules: the two calls, postings, and changes that touch no rule and remove no posting. -/
inductive RuleAction
  | create (companyId branchId : ℕ) (dto : CreatePostingRuleDto)
  | updateStatus (companyId branchId id : ℕ) (status : AccountingRuleStatus)
  | post (input : PostOperationalEventInput)
  | elsewhere

/-- A step that writes no rule and removes no posting. -/
def KeepsRules (db db' : RuleDb) : Prop :=
  db'.rules = db.rules ∧ ∀ p ∈ db.ledger.postings, p ∈ db'.ledger.postings

def RuleStep (newDate : String → Option ℕ) (toUpperCase : String → String) (db : RuleDb) (action : RuleAction)
    (db' : RuleDb) : Prop :=
  match action with
  | .create companyId branchId dto =>
    ∃ rule, Commits (createPostingRule newDate toUpperCase companyId branchId dto) db rule db'
  | .updateStatus companyId branchId id status =>
    ∃ rule, Commits (updatePostingRuleStatus toUpperCase companyId branchId id status) db rule db'
  | .post input => ∃ ev ledger, Commits (postOperationalEvent input) db.ledger ev ledger ∧
    db' = { db with ledger }
  | .elsewhere => KeepsRules db db'

variable {ledger : AccountingDb}

lemma post_keepsRules {input : PostOperationalEventInput} {ev : AccountingEvent}
    (h : Commits (postOperationalEvent input) db.ledger ev ledger) : KeepsRules db { db with ledger } := by
  obtain ⟨_, _, rfl⟩ | ⟨rule, hposted⟩ := postOperationalEvent_commits h
  · exact ⟨rfl, fun _ hp => hp⟩
  · obtain ⟨hrules, x, _, hpostings⟩ := hposted.postings h
    refine ⟨hrules, fun p hp => ?_⟩
    rw [hpostings]
    exact List.mem_append_left _ hp

variable {action : RuleAction}

lemma ruleStep_cases (h : RuleStep newDate toUpperCase db action db') :
    (∃ rule, WritesRule db rule db') ∨ KeepsRules db db' := by
  cases action with
  | create =>
    obtain ⟨rule, h⟩ := h
    exact .inl ⟨rule, createPostingRule_commits h⟩
  | updateStatus =>
    obtain ⟨rule, h⟩ := h
    exact .inl ⟨rule, updatePostingRuleStatus_commits h⟩
  | post =>
    obtain ⟨ev, ledger, h, rfl⟩ := h
    exact .inr (post_keepsRules h)
  | elsewhere => exact .inr h

lemma ruleStep_separate (h : Separate db.rules)
    (hstep : RuleStep newDate toUpperCase db action db') : Separate db'.rules := by
  obtain ⟨rule, hwrites⟩ | ⟨hrules, _⟩ := ruleStep_cases hstep
  · rw [hwrites.rules]
    exact h.put hwrites.apart
  · rwa [hrules]

def HistoryWith (id : ℕ) (lines : List JournalRuleLine) (db : RuleDb) : Prop :=
  ∃ r ∈ db.rules, r.id = id ∧ r.journalLines = lines ∧ db.IsHistory r

lemma ruleStep_history {id : ℕ}
    (h : HistoryWith id lines db) (hstep : RuleStep newDate toUpperCase db action db') :
    HistoryWith id lines db' := by
  obtain ⟨r, hr, rfl, rfl, hhistory⟩ := h
  obtain ⟨rule, hwrites⟩ | ⟨hrules, hpostings⟩ := ruleStep_cases hstep
  · by_cases hid : r.id = rule.id
    · -- the written rule is this one
      obtain ⟨hlines, hstatus⟩ := hwrites.history r hr hid hhistory
      refine ⟨rule, hwrites.rules ▸ mem_put_self _ _, hid.symm, hlines, hhistory.imp hstatus ?_⟩
      rw [hwrites.postings, hid]
      exact id
    · refine ⟨r, hwrites.rules ▸ mem_put.mpr (Or.inr ⟨hr, hid⟩), rfl, rfl, hhistory.imp_right ?_⟩
      rw [hwrites.postings]
      exact id
  · refine ⟨r, hrules ▸ hr, rfl, rfl, hhistory.imp_right ?_⟩
    rintro ⟨p, hp, hrule⟩
    exact ⟨p, hpostings p hp, hrule⟩

/-! ### The selected rule -/

def ruleBefore (a b : AccountingPostingRule) : Bool :=
  a.priority < b.priority || a.priority = b.priority && b.version ≤ a.version

lemma ruleBefore_eq_true {a b : AccountingPostingRule} : ruleBefore a b = true ↔
    a.priority < b.priority ∨ a.priority = b.priority ∧ b.version ≤ a.version := by
  simp [ruleBefore]

instance : Std.Total fun a b => ruleBefore a b = true where
  total a b := by
    rw [ruleBefore_eq_true, ruleBefore_eq_true]
    omega

instance : IsTrans AccountingPostingRule fun a b => ruleBefore a b = true where
  trans a b c hab hbc := by
    rw [ruleBefore_eq_true] at hab hbc ⊢
    omega

structure InForceOn (companyId : ℕ) (eventType : String) (date : ℕ) (r : AccountingPostingRule) : Prop where
  companyId : r.companyId = companyId
  eventType : r.eventType = eventType
  active : r.status = .active
  date : inForce r.effectiveFrom r.effectiveTo date = true

lemma InForceOn.meets {eventType : String} (h : InForceOn companyId eventType date r)
    (h' : InForceOn companyId eventType date r') (hpriority : r.priority = r'.priority) : r.Meets r' where
  companyId := h.companyId.trans h'.companyId.symm
  eventType := h.eventType.trans h'.eventType.symm
  priority := hpriority
  active := ⟨h.active, h'.active⟩
  date := ⟨date, h.date, h'.date⟩

lemma activeRule_first {eventType : String} (h : ledger.activeRule companyId eventType date = some rule) :
    rule ∈ ledger.postingRules ∧ InForceOn companyId eventType date rule ∧
      ∀ r ∈ ledger.postingRules, InForceOn companyId eventType date r → rule.priority ≤ r.priority := by
  obtain ⟨hmem, hfound⟩ := Table.mem_of_findFirst h
  simp only [cond_iff] at hfound
  obtain ⟨⟨⟨hcompany, htype⟩, hactive⟩, hdate⟩ := hfound
  refine ⟨hmem, ⟨hcompany, htype, hactive, hdate⟩, fun r hr hforce => ?_⟩
  rcases Table.le_of_findFirst ruleBefore h hr (by
    simp [hforce.companyId, hforce.eventType, hforce.active, hforce.date]) with rfl | hle
  · exact le_rfl
  · rw [ruleBefore_eq_true] at hle
    omega

/-- In every state of a run no two active rules overlap, the rule selected on a date is the only one of the lowest
priority in force, and a rule that is history keeps its lines in every state that follows. -/
theorem rules_separate {actions : List RuleAction} (h₀ : Separate db.rules)
    (h : Run (RuleStep newDate toUpperCase) db actions db') :
    Separate db'.rules ∧
      (∀ companyId eventType date rule, db'.ledger.activeRule companyId eventType date = some rule →
        ∀ r ∈ db'.rules, InForceOn companyId eventType date r →
          rule.priority ≤ r.priority ∧ (r.priority = rule.priority → r = rule)) ∧
      ∀ actions' db'', Run (RuleStep newDate toUpperCase) db' actions' db'' →
        ∀ r ∈ db'.rules, db'.IsHistory r → HistoryWith r.id r.journalLines db'' := by
  have hseparate : Separate db'.rules := h.invariant (I := fun t => Separate t.rules)
    (fun _ _ _ hI hstep => ruleStep_separate hI hstep) h₀
  refine ⟨hseparate, fun companyId eventType date rule hrule r hr hforce => ?_, ?_⟩
  · obtain ⟨hmem, hruleForce, hfirst⟩ := activeRule_first hrule
    exact ⟨hfirst r hr hforce, fun hpriority => hseparate r hr rule hmem (hforce.meets hruleForce hpriority)⟩
  · intro actions' db'' hrun r hr hhistory
    exact hrun.invariant (fun _ _ _ hI hstep => ruleStep_history hI hstep) ⟨r, hr, rfl, rfl, hhistory⟩

def noRules : RuleDb := ⟨.empty, .empty⟩

def saleRule (code effectiveFrom : String) : CreatePostingRuleDto where
  code := code
  eventType := "SALE"
  status := some "ACTIVE"
  effectiveFrom := some effectiveFrom
  journalLines := [
    { accountCode := "", accountCodeKey := "cash", side := "DEBIT", amountKey := "gross" },
    { accountCode := "", accountCodeKey := "revenue", side := "CREDIT", amountKey := "gross" }]

def withSaleRule : RuleDb :=
  (execute (createPostingRule (fun _ => some 7) id 1 1 (saleRule "SALES" "1970")) noRules).2

theorem rules_separate_saleRule : Separate noRules.rules ∧
    Run (RuleStep (fun _ => some 7) id) noRules [.create 1 1 (saleRule "SALES" "1970")] withSaleRule ∧
    Separate withSaleRule.rules := by
  have hrun : Run (RuleStep (fun _ => some 7) id) noRules [.create 1 1 (saleRule "SALES" "1970")] withSaleRule :=
    Run.cons ⟨withSaleRule.rules.rows.head (by decide +kernel), commits_of_execute (by decide +kernel)⟩
      (Run.nil _)
  have hempty : Separate noRules.rules := separate_empty
  exact ⟨hempty, hrun, (rules_separate hempty hrun).1⟩

end Mayatoko.Accounting
