import Mayatoko.Accounting.OperationalEvent

/-!
# The dates of journal entries

A journal entry has no branch of its own; it belongs to the branch of its event. A posting looks for one
fiscal period that holds its date. That is the only one as long as the periods of a branch do not overlap,
so the check of this period is a check of all of them.
-/

namespace Mayatoko.Accounting

open Core

/-! ### Periods -/

structure FiscalPeriod.Holds (p : FiscalPeriod) (companyId branchId date : ℕ) : Prop where
  company : p.companyId = companyId
  branch : p.branchId = some branchId
  starts : p.startDate ≤ date
  ends : date ≤ p.endDate

def FiscalPeriod.ApartFrom (p q : FiscalPeriod) : Prop :=
  p.companyId = q.companyId → p.branchId = q.branchId → p.endDate < q.startDate ∨ q.endDate < p.startDate

structure AccountingCloseControl.Locks (c : AccountingCloseControl) (companyId branchId : ℕ)
    (eventType : String) (date : ℕ) : Prop where
  company : c.companyId = companyId
  closed : c.status = "CLOSED"
  module : c.module = "ACCOUNTING" ∨ c.module = eventType
  branch : c.branchId = some branchId ∨ c.branchId = none
  starts : c.periodStart ≤ date
  ends : date ≤ c.periodEnd

instance (c : AccountingCloseControl) (companyId branchId : ℕ) (eventType : String) (date : ℕ) :
    Decidable (c.Locks companyId branchId eventType date) :=
  decidable_of_iff (c.companyId = companyId ∧ c.status = "CLOSED" ∧
      (c.module = "ACCOUNTING" ∨ c.module = eventType) ∧
        (c.branchId = some branchId ∨ c.branchId = none) ∧ c.periodStart ≤ date ∧ date ≤ c.periodEnd)
    ⟨fun ⟨hcompany, hclosed, hmodule, hbranch, hstarts, hends⟩ =>
        ⟨hcompany, hclosed, hmodule, hbranch, hstarts, hends⟩,
      fun h => ⟨h.company, h.closed, h.module, h.branch, h.starts, h.ends⟩⟩

namespace AccountingDb

variable (db : AccountingDb)

/-- The fiscal periods of a branch do not overlap. -/
def PeriodsApart : Prop :=
  ∀ p ∈ db.fiscalPeriods, ∀ q ∈ db.fiscalPeriods, p ≠ q → p.ApartFrom q

/-- `e` is the journal entry of the event `ev`. -/
structure IsJournalOf (ev : AccountingEvent) (e : JournalEntry) : Prop where
  event : ev ∈ db.events
  entry : e ∈ db.journalEntries
  link : ev.journalEntryId = some e.id

def Linked : Prop := ∀ ev ∈ db.events, ∀ id ∈ ev.journalEntryId, ∃ e ∈ db.journalEntries, e.id = id

end AccountingDb

variable {db db' : AccountingDb} {companyId branchId date : ℕ} {eventType : String}
  {ev ev' : AccountingEvent} {e e' : JournalEntry} {p : FiscalPeriod}

lemma FiscalPeriod.ApartFrom.symm {p q : FiscalPeriod} (h : p.ApartFrom q) : q.ApartFrom p :=
  fun hcompany hbranch => (h hcompany.symm hbranch.symm).symm

lemma FiscalPeriod.Holds.eq {q : FiscalPeriod} (hapart : db.PeriodsApart) (hp : p ∈ db.fiscalPeriods)
    (hq : q ∈ db.fiscalPeriods) (hpd : p.Holds companyId branchId date)
    (hqd : q.Holds companyId branchId date) : p = q := by
  by_contra hne
  have hcompany := hpd.company.trans hqd.company.symm
  have hbranch := hpd.branch.trans hqd.branch.symm
  rcases hapart p hp q hq hne hcompany hbranch with h | h
  · exact absurd (hpd.ends.trans_lt h) hqd.starts.not_gt
  · exact absurd (hqd.ends.trans_lt h) hpd.starts.not_gt

lemma AccountingDb.fiscalPeriodOn_of_holds (hapart : db.PeriodsApart) (hp : p ∈ db.fiscalPeriods)
    (hholds : p.Holds companyId branchId date) : db.fiscalPeriodOn companyId branchId date = some p := by
  cases hfind : db.fiscalPeriodOn companyId branchId date with
  | none =>
    refine absurd ?_ (Table.findFirst_eq_none.mp hfind p hp)
    simp only [cond_iff]
    exact ⟨⟨⟨hholds.company, hholds.branch⟩, hholds.starts⟩, hholds.ends⟩
  | some q =>
    obtain ⟨hq, hqd⟩ := Table.mem_of_findFirst hfind
    simp only [cond_iff] at hqd
    obtain ⟨⟨⟨hcompany, hbranch⟩, hstarts⟩, hends⟩ := hqd
    rw [FiscalPeriod.Holds.eq hapart hq hp ⟨hcompany, hbranch, hstarts, hends⟩ hholds]

lemma AccountingDb.closeControlOn_eq_none : db.closeControlOn companyId branchId eventType date = none ↔
      ∀ c ∈ db.closeControls, ¬ c.Locks companyId branchId eventType date := by
  rw [closeControlOn, Table.findFirst_eq_none]
  refine forall₂_congr fun c _ => not_congr ?_
  simp only [cond_iff, Bool.or_eq_true]
  constructor
  · rintro ⟨⟨⟨⟨⟨hcompany, hclosed⟩, hstarts⟩, hends⟩, hmodule⟩, hbranch⟩
    exact ⟨hcompany, hclosed, hmodule, hbranch, hstarts, hends⟩
  · rintro ⟨hcompany, hclosed, hmodule, hbranch, hstarts, hends⟩
    exact ⟨⟨⟨⟨⟨hcompany, hclosed⟩, hstarts⟩, hends⟩, hmodule⟩, hbranch⟩

/-! ### Written journals -/

/-- The journal entry `e` was written for the new event `ev`, on a date that no closed period holds. -/
structure JournalWritten (ev : AccountingEvent) (e : JournalEntry) (db db' : AccountingDb) : Prop where
  freshEvent : db.events.find? ev.key = none
  freshEntry : db.journalEntries.find? e.id = none
  link : ev.journalEntryId = some e.id
  events : db'.events = db.events.put ev
  entries : db'.journalEntries = db.journalEntries.put e
  periods : db'.fiscalPeriods = db.fiscalPeriods
  controls : db'.closeControls = db.closeControls
  opened : ∀ p, db.fiscalPeriodOn ev.companyId ev.branchId e.date = some p → p.status = .opened

/-- A journal entry was written on a date that no closed control holds either. -/
def WrittenUnlocked (db db' : AccountingDb) : Prop :=
  ∃ ev e, JournalWritten ev e db db' ∧
    ∀ c ∈ db.closeControls, ¬ c.Locks ev.companyId ev.branchId ev.eventType e.date

namespace JournalWritten

lemma mem_entries (h : JournalWritten ev e db db') :
    e' ∈ db'.journalEntries ↔ e' = e ∨ e' ∈ db.journalEntries := by
  rw [h.entries, mem_put]
  refine or_congr_right ⟨And.left, fun hmem => ⟨hmem, ?_⟩⟩
  exact find?_eq_none.mp h.freshEntry e' hmem

lemma mem_events (h : JournalWritten ev e db db') : ev' ∈ db'.events ↔ ev' = ev ∨ ev' ∈ db.events := by
  rw [h.events, mem_put]
  refine or_congr_right ⟨And.left, fun hmem => ⟨hmem, ?_⟩⟩
  exact find?_eq_none.mp h.freshEvent ev' hmem

lemma fresh (h : JournalWritten ev e db db') : e ∉ db.journalEntries :=
  fun hmem => find?_eq_none.mp h.freshEntry e hmem rfl

lemma isJournalOf_iff (h : JournalWritten ev e db db') (hlinked : db.Linked) :
    db'.IsJournalOf ev' e' ↔ db.IsJournalOf ev' e' ∨ ev' = ev ∧ e' = e := by
  constructor
  · rintro ⟨hev, he, hlink⟩
    rcases h.mem_events.mp hev with rfl | hev
    · have hid : e'.id = e.id := mem_unique hlink h.link
      exact .inr ⟨rfl, eq_of_key_eq he (h.mem_entries.mpr (Or.inl rfl)) hid⟩
    · rcases h.mem_entries.mp he with rfl | he
      · obtain ⟨x, hx, hid⟩ := hlinked ev' hev _ hlink
        exact absurd hid (find?_eq_none.mp h.freshEntry x hx)
      · exact .inl ⟨hev, he, hlink⟩
  · rintro (⟨hev, he, hlink⟩ | ⟨rfl, rfl⟩)
    · exact ⟨h.mem_events.mpr (Or.inr hev), h.mem_entries.mpr (Or.inr he), hlink⟩
    · exact ⟨h.mem_events.mpr (Or.inl rfl), h.mem_entries.mpr (Or.inl rfl), h.link⟩

lemma linked (h : JournalWritten ev e db db') (hlinked : db.Linked) : db'.Linked := by
  intro ev' hev id hid
  rcases h.mem_events.mp hev with rfl | hev
  · exact ⟨e, h.mem_entries.mpr (Or.inl rfl), mem_unique h.link hid⟩
  · obtain ⟨x, hx, rfl⟩ := hlinked ev' hev id hid
    exact ⟨x, h.mem_entries.mpr (Or.inr hx), rfl⟩

end JournalWritten

/-- A posting leaves the periods and the close controls alone. -/
lemma leaves_postOperationalEvent {input : PostOperationalEventInput} :
    Leaves (fun db : AccountingDb => (db.fiscalPeriods, db.closeControls)) (postOperationalEvent input) := by
  have hevent : AccountingDb.accountingEvent.Apart
      fun db : AccountingDb => (db.fiscalPeriods, db.closeControls) := ⟨fun _ _ => rfl⟩
  have hentry : AccountingDb.journalEntry.Apart
      fun db : AccountingDb => (db.fiscalPeriods, db.closeControls) := ⟨fun _ _ => rfl⟩
  have htax (line : TaxLine) (date : ℕ) : Leaves (fun db : AccountingDb =>
      (db.fiscalPeriods, db.closeControls)) (checkTaxLine input.companyId date line) :=
    leaves_get.bind fun _ => leaves_orThrow.bind fun _ => leaves_require.bind fun _ =>
      leaves_require.bind fun _ => leaves_require.bind fun _ => leaves_require
  refine leaves_get.bind fun s => ?_
  cases s.events.find? input.key with
  | some existing => exact leaves_require.bind fun _ => leaves_pure
  | none =>
    refine leaves_get.bind fun _ => Leaves.bind (Leaves.forM fun line => htax line _) fun _ =>
      leaves_orThrow.bind fun _ => Leaves.bind ?_ fun _ => hevent.create.bind fun _ =>
        Leaves.bind ?_ fun _ => ?_
    · exact leaves_get.bind fun _ => leaves_refuse.bind fun _ => leaves_refuse
    · exact leaves_get.bind fun _ => leaves_require.bind fun _ => leaves_refuse.bind fun _ =>
        leaves_require.bind fun _ => leaves_refuse.bind fun _ => leaves_require
    · refine leaves_get.bind fun _ => hentry.create.bind fun _ => Leaves.bind ?_ fun _ => hevent.update
      intro t u t' h
      exact commits_modify.mp h ▸ rfl

lemma postOperationalEvent_written {input : PostOperationalEventInput}
    (h : Commits (postOperationalEvent input) db ev db') : db' = db ∨ WrittenUnlocked db db' := by
  obtain ⟨hperiods, hcontrols⟩ := Prod.mk.inj (leaves_postOperationalEvent db ev db' h)
  rcases postOperationalEvent_commits h with ⟨_, _, rfl⟩ | ⟨rule, hposted⟩
  · exact .inl rfl
  · have hkey := hposted.key_eq
    have hunlocked := AccountingDb.closeControlOn_eq_none.mp hposted.unlocked
    have hevent := hposted.event
    refine .inr ⟨ev, entryOf input db rule, ⟨?_, hposted.freshEntry, ?_, hposted.events, hposted.entries,
      hperiods, hcontrols, ?_⟩, ?_⟩
    · rw [hkey]
      exact hposted.freshEvent
    · rw [hevent]
      rfl
    · rw [hevent]
      exact hposted.period
    · rw [hevent]
      exact hunlocked

def PostsUnlocked (db db' : AccountingDb) : Prop :=
  ∀ ev e, db'.IsJournalOf ev e → e ∉ db.journalEntries →
    ∀ c ∈ db'.closeControls, ¬ c.Locks ev.companyId ev.branchId ev.eventType e.date

lemma postsUnlocked_of_entries (hentries : db'.journalEntries = db.journalEntries) : PostsUnlocked db db' :=
  fun _ _ he hnew => absurd (hentries ▸ he.entry) hnew

lemma JournalWritten.postsUnlocked_iff (h : JournalWritten ev e db db') (hlinked : db.Linked) :
    PostsUnlocked db db' ↔
      ∀ c ∈ db.closeControls, ¬ c.Locks ev.companyId ev.branchId ev.eventType e.date := by
  constructor
  · intro hposts c hc
    have hjournal := (h.isJournalOf_iff hlinked).mpr (Or.inr ⟨rfl, rfl⟩)
    exact hposts ev e hjournal h.fresh c (h.controls.symm ▸ hc)
  · intro hunlocked ev' e' he hnew c hc
    rw [h.controls] at hc
    rcases (h.isJournalOf_iff hlinked).mp he with hold | ⟨rfl, rfl⟩
    · exact absurd hold.entry hnew
    · exact hunlocked c hc

lemma postsUnlocked_of_written (hlinked : db.Linked) (h : db' = db ∨ WrittenUnlocked db db') :
    PostsUnlocked db db' := by
  obtain rfl | ⟨_, _, hwritten, hunlocked⟩ := h
  · exact postsUnlocked_of_entries rfl
  · exact (hwritten.postsUnlocked_iff hlinked).mpr hunlocked

/-! ### Runs of postings and closings -/

inductive LedgerMove (db db' : AccountingDb) : Prop
  | kept (hperiods : db'.fiscalPeriods = db.fiscalPeriods) (hevents : db'.events = db.events)
      (hentries : db'.journalEntries = db.journalEntries)
  | written {ev : AccountingEvent} {e : JournalEntry} (h : JournalWritten ev e db db')
  | created {p : FiscalPeriod} (hfresh : db.fiscalPeriods.find? p.id = none)
      (hapart : ∀ q ∈ db.fiscalPeriods, p.ApartFrom q)
      (hperiods : db'.fiscalPeriods = db.fiscalPeriods.put p) (hevents : db'.events = db.events)
      (hentries : db'.journalEntries = db.journalEntries)
  | moved {p : FiscalPeriod} (hp : p ∈ db.fiscalPeriods) (hopen : p.status ≠ .closed)
      (status : FiscalPeriodStatus)
      (hperiods : db'.fiscalPeriods = db.fiscalPeriods.put { p with status := status })
      (hevents : db'.events = db.events) (hentries : db'.journalEntries = db.journalEntries)

structure LedgerDated (db : AccountingDb) : Prop where
  apart : db.PeriodsApart
  linked : db.Linked

/-- The journal entries of a step are those of events, and no period of the branch that holds the date of
one is closed. -/
structure PostsOpen (db db' : AccountingDb) : Prop where
  event : ∀ e ∈ db'.journalEntries, e ∉ db.journalEntries → ∃ ev, db'.IsJournalOf ev e
  opened : ∀ ev e, db'.IsJournalOf ev e → e ∉ db.journalEntries → ∀ p ∈ db.fiscalPeriods,
    p.Holds ev.companyId ev.branchId e.date → p.status = .opened

def KeepsClosed (db db' : AccountingDb) : Prop :=
  ∀ p ∈ db.fiscalPeriods, p.status = .closed → p ∈ db'.fiscalPeriods ∧
    ∀ ev e, p.Holds ev.companyId ev.branchId e.date → (db'.IsJournalOf ev e ↔ db.IsJournalOf ev e)

lemma isJournalOf_congr (hevents : db'.events = db.events) (hentries : db'.journalEntries = db.journalEntries) :
    db'.IsJournalOf ev e ↔ db.IsJournalOf ev e := by
  constructor
  · rintro ⟨hev, he, hlink⟩
    exact ⟨hevents ▸ hev, hentries ▸ he, hlink⟩
  · rintro ⟨hev, he, hlink⟩
    exact ⟨hevents.symm ▸ hev, hentries.symm ▸ he, hlink⟩

lemma linked_congr (hevents : db'.events = db.events)
    (hentries : db'.journalEntries = db.journalEntries) (h : db.Linked) : db'.Linked := by
  intro ev hev id hid
  rw [hevents] at hev
  rw [hentries]
  exact h ev hev id hid

lemma postsOpen_of_entries (hentries : db'.journalEntries = db.journalEntries) : PostsOpen db db' := by
  constructor
  · intro e he hnew
    exact absurd (hentries ▸ he) hnew
  · intro ev e he hnew
    exact absurd (hentries ▸ he.entry) hnew

lemma KeepsClosed.refl (db : AccountingDb) : KeepsClosed db db :=
  fun _ hp _ => ⟨hp, fun _ _ _ => Iff.rfl⟩

lemma KeepsClosed.trans {db'' : AccountingDb} (h : KeepsClosed db db') (h' : KeepsClosed db' db'') :
    KeepsClosed db db'' := by
  intro p hp hclosed
  obtain ⟨hp', hkept⟩ := h p hp hclosed
  obtain ⟨hp'', hkept'⟩ := h' p hp' hclosed
  exact ⟨hp'', fun ev e hholds => (hkept' ev e hholds).trans (hkept ev e hholds)⟩

namespace LedgerMove

lemma dated (h : LedgerMove db db') (hdb : LedgerDated db) : LedgerDated db' := by
  cases h with
  | kept hperiods hevents hentries =>
    refine ⟨fun p hp q hq => ?_, linked_congr hevents hentries hdb.linked⟩
    rw [hperiods] at hp hq
    exact hdb.apart p hp q hq
  | written h =>
    refine ⟨fun p hp q hq => ?_, h.linked hdb.linked⟩
    rw [h.periods] at hp hq
    exact hdb.apart p hp q hq
  | created hfresh hapart hperiods hevents hentries =>
    refine ⟨fun p hp q hq hne => ?_, linked_congr hevents hentries hdb.linked⟩
    rw [hperiods] at hp hq
    rcases mem_put.mp hp with rfl | ⟨hpold, _⟩
    · rcases mem_put.mp hq with rfl | ⟨hqold, _⟩
      · exact absurd rfl hne
      · exact hapart q hqold
    · rcases mem_put.mp hq with rfl | ⟨hqold, _⟩
      · exact (hapart p hpold).symm
      · exact hdb.apart p hpold q hqold hne
  | @moved o ho _ status hperiods hevents hentries =>
    refine ⟨fun p hp q hq hne => ?_, linked_congr hevents hentries hdb.linked⟩
    rw [hperiods] at hp hq
    -- The period that is moved keeps its dates.
    rcases mem_put.mp hp with rfl | ⟨hpold, hpid⟩
    · rcases mem_put.mp hq with rfl | ⟨hqold, hqid⟩
      · exact absurd rfl hne
      · exact hdb.apart o ho q hqold fun heq => hqid (heq ▸ rfl)
    · rcases mem_put.mp hq with rfl | ⟨hqold, _⟩
      · exact hdb.apart p hpold o ho fun heq => hpid (heq ▸ rfl)
      · exact hdb.apart p hpold q hqold hne

lemma postsOpen (h : LedgerMove db db') (hdb : LedgerDated db) : PostsOpen db db' := by
  cases h with
  | kept _ _ hentries => exact postsOpen_of_entries hentries
  | created _ _ _ _ hentries => exact postsOpen_of_entries hentries
  | moved _ _ _ _ _ hentries => exact postsOpen_of_entries hentries
  | @written ev e h =>
    constructor
    · intro e' he' hnew
      obtain rfl := (h.mem_entries.mp he').resolve_right hnew
      exact ⟨ev, (h.isJournalOf_iff hdb.linked).mpr (Or.inr ⟨rfl, rfl⟩)⟩
    · intro ev' e' he' hnew p hp hholds
      rcases (h.isJournalOf_iff hdb.linked).mp he' with hold | ⟨rfl, rfl⟩
      · exact absurd hold.entry hnew
      · exact h.opened p (AccountingDb.fiscalPeriodOn_of_holds hdb.apart hp hholds)

lemma keepsClosed (h : LedgerMove db db') (hdb : LedgerDated db) : KeepsClosed db db' := by
  intro p hp hclosed
  cases h with
  | kept hperiods hevents hentries =>
    exact ⟨hperiods ▸ hp, fun _ _ _ => isJournalOf_congr hevents hentries⟩
  | created hfresh _ hperiods hevents hentries =>
    refine ⟨?_, fun _ _ _ => isJournalOf_congr hevents hentries⟩
    rw [hperiods, mem_put]
    exact .inr ⟨hp, find?_eq_none.mp hfresh p hp⟩
  | moved ho hopen status hperiods hevents hentries =>
    refine ⟨?_, fun _ _ _ => isJournalOf_congr hevents hentries⟩
    rw [hperiods, mem_put]
    refine .inr ⟨hp, fun hid => hopen ?_⟩
    rw [← eq_of_key_eq hp ho hid]
    exact hclosed
  | @written ev e h =>
    refine ⟨h.periods ▸ hp, fun ev' e' hholds => (h.isJournalOf_iff hdb.linked).trans ?_⟩
    refine or_iff_left ?_
    rintro ⟨rfl, rfl⟩
    -- The period was found by the posting, and was open.
    have hopened := h.opened p (AccountingDb.fiscalPeriodOn_of_holds hdb.apart hp hholds)
    rw [hclosed] at hopened
    cases hopened

end LedgerMove

end Mayatoko.Accounting
