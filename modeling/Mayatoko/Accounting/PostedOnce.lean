import Mayatoko.Accounting.OperationalEvent

/-!
# Events that are posted once

The rows that a ledger has for one idempotency key: its event and the postings that were made for it. An
operational event only adds them where there are none, so that a key is posted at most once.
-/

namespace Mayatoko.Accounting

open Core

variable {db db' db'' : AccountingDb} {key : ℕ × String} {input : PostOperationalEventInput}
  {ev : AccountingEvent}

def AccountingDb.rowsOf (db : AccountingDb) (key : ℕ × String) :
    Option AccountingEvent × List AccountingPosting :=
  (db.events.find? key, db.postings.filter fun x => x.event = key)

structure PostedOnce (db : AccountingDb) (key : ℕ × String) : Prop where
  event : ∃ ev, db.events.find? key = some ev ∧ ev.status = .posted
  once : (db.postings.filter fun x => x.event = key).length = 1

/-- The rows of a key stay as they are, or they are written for the first time. -/
def PostsOnce (db db' : AccountingDb) (key : ℕ × String) : Prop :=
  db'.rowsOf key = db.rowsOf key ∨ db.events.find? key = none ∧ ∃ ev x, ev.status = .posted ∧
    db'.rowsOf key = (some ev, db.postings.filter (fun x => x.event = key) ++ [x])

/-- A key that is either not used at all or posted once. -/
def NeverTwice (db : AccountingDb) (key : ℕ × String) : Prop :=
  db.rowsOf key = (none, []) ∨ PostedOnce db key

lemma PostsOnce.trans (h : PostsOnce db db' key) (h' : PostsOnce db' db'' key) : PostsOnce db db'' key := by
  rcases h with h | ⟨hnone, ev, x, hev, h⟩
  · rcases h' with h' | ⟨hnone, ev, x, hev, h'⟩
    · exact .inl (h'.trans h)
    · obtain ⟨hevents, hpostings⟩ := Prod.mk.inj h
      exact .inr ⟨hevents ▸ hnone, ev, x, hev, hpostings ▸ h'⟩
  · rcases h' with h' | ⟨hnone', _⟩
    · exact .inr ⟨hnone, ev, x, hev, h'.trans h⟩
    · -- the key is used after the first step
      rw [(Prod.mk.inj h).1] at hnone'
      cases hnone'

lemma PostedOnce.of_rowsOf (h : PostedOnce db key) (hrows : db'.rowsOf key = db.rowsOf key) :
    PostedOnce db' key := by
  obtain ⟨hevents, hpostings⟩ := Prod.mk.inj hrows
  exact ⟨hevents ▸ h.event, hpostings ▸ h.once⟩

lemma PostedOnce.step (h : PostedOnce db key) (hstep : PostsOnce db db' key) : PostedOnce db' key := by
  rcases hstep with hrows | ⟨hnone, _⟩
  · exact h.of_rowsOf hrows
  · obtain ⟨ev, hev, _⟩ := h.event
    cases hnone.symm.trans hev

lemma NeverTwice.step (h : NeverTwice db key) (hstep : PostsOnce db db' key) : NeverTwice db' key := by
  rcases h with hnone | hposted
  · rcases hstep with hrows | ⟨_, ev, x, hev, hrows⟩
    · exact .inl (hrows.trans hnone)
    · obtain ⟨hevent, hpostings⟩ := Prod.mk.inj hrows
      rw [(Prod.mk.inj hnone).2] at hpostings
      exact .inr ⟨⟨ev, hevent, hev⟩, congrArg List.length hpostings⟩
  · exact .inr (hposted.step hstep)

lemma NeverTwice.posted (h : NeverTwice db key) (hev : db.events.find? key = some ev) : PostedOnce db key := by
  rcases h with hnone | hposted
  · cases hev.symm.trans (Prod.mk.inj hnone).1
  · exact hposted

lemma Posted.postings {rule : AccountingPostingRule} (h : Posted input db rule ev db')
    (hc : Commits (postOperationalEvent input) db ev db') :
    db'.postingRules = db.postingRules ∧ ∃ x, x.event = input.key ∧ db'.postings = db.postings ++ [x] := by
  simp only [postOperationalEvent, commits_bind, commits_get] at hc
  obtain ⟨_, _, ⟨rfl, rfl⟩, hc⟩ := hc
  rw [h.freshEvent] at hc
  simp only [postNewEvent, commits_bind, commits_get, commits_orThrow, TableOf.commits_create] at hc
  obtain ⟨_, _, ⟨rfl, rfl⟩, _, _, htax, _, _, ⟨_, rfl⟩, _, _, hperiod, _, _, ⟨_, rfl⟩, _, _, hjournal,
    hwrite⟩ := hc
  obtain rfl := checkTaxLine_state htax
  obtain ⟨_, _, rfl⟩ := checkPeriod_commits.mp hperiod
  obtain ⟨_, _, rfl⟩ := checkJournal_commits hjournal
  simp only [writeJournal, commits_bind, commits_get, TableOf.commits_create, commits_modify,
    TableOf.commits_update] at hwrite
  obtain ⟨_, _, ⟨rfl, rfl⟩, _, _, ⟨_, rfl⟩, _, _, rfl, _, _, _, rfl⟩ := hwrite
  exact ⟨rfl, _, rfl, rfl⟩

lemma postOperationalEvent_postsOnce (h : Commits (postOperationalEvent input) db ev db') :
    PostsOnce db db' key := by
  obtain ⟨_, _, rfl⟩ | ⟨rule, hposted⟩ := postOperationalEvent_commits h
  · exact .inl rfl
  obtain ⟨_, x, hx, hpostings⟩ := hposted.postings h
  by_cases hkey : key = input.key
  · subst hkey
    refine .inr ⟨hposted.freshEvent, ev, x, ?_, ?_⟩
    · rw [hposted.event]
      rfl
    · have hfind := find?_put_self db.events ev
      rw [hposted.key_eq] at hfind
      simp [AccountingDb.rowsOf, hposted.events, hfind, hpostings, hx]
  · have hfind := find?_put_of_ne db.events (hposted.key_eq ▸ hkey)
    refine .inl ?_
    simp [AccountingDb.rowsOf, hposted.events, hfind, hpostings, hx, Ne.symm hkey]

lemma postOperationalEvent_find (h : Commits (postOperationalEvent input) db ev db') :
    db'.events.find? input.key = some ev := by
  obtain ⟨hfind, _, rfl⟩ | ⟨rule, hposted⟩ := postOperationalEvent_commits h
  · exact hfind
  · rw [hposted.events, ← hposted.key_eq]
    exact find?_put_self _ _

end Mayatoko.Accounting
