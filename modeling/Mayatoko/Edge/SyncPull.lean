import Mathlib.Data.Prod.Lex
import Mayatoko.Core.Paging
import Mayatoko.Core.Run

/-!
# Pulling events to an edge device

`syncPullScoped` reads the events of a company from a checkpoint on, in the order of their creation and at
most 500 at a time, and answers with the next checkpoint: the creation of the last event, or the clock where
there was none. An event gets its time when it is created and is seen when its transaction commits, so one
that commits behind a checkpoint that was handed out is never returned. Where that does not happen, a device
that follows the answers misses nothing.
-/

namespace Mayatoko.Edge

open Core

structure OutboxEvent where
  id : ℕ
  companyId : Option ℕ
  aggregateType : String
  createdAt : ℤ
  /-- The branches that the payload names as `branchId`, `sourceBranchId` or `destinationBranchId`. -/
  branchIds : List ℕ := []
  deriving DecidableEq

structure TenantScope where
  (companyId branchId : ℕ)

namespace OutboxEvent

def position (e : OutboxEvent) : ℤ ×ₗ ℕ := toLex (e.createdAt, e.id)

lemma createdAt_le_of_position_lt {a b : OutboxEvent} (h : a.position < b.position) :
    a.createdAt ≤ b.createdAt := by
  obtain h | h := Prod.Lex.toLex_lt_toLex.mp h
  · exact h.le
  · exact h.1.le

def ofCompany (e : OutboxEvent) (scope : TenantScope) : Bool :=
  e.companyId = some scope.companyId && e.aggregateType ≠ "SyncHeartbeat"

/-- An event of the branch, or of no branch. -/
def ofBranch (e : OutboxEvent) (scope : TenantScope) : Bool :=
  e.branchIds.isEmpty || scope.branchId ∈ e.branchIds

def InScope (e : OutboxEvent) (scope : TenantScope) : Prop := e.ofCompany scope ∧ e.ofBranch scope

instance (e : OutboxEvent) (scope : TenantScope) : Decidable (e.InScope scope) :=
  inferInstanceAs (Decidable (_ ∧ _))

end OutboxEvent

/-! ### One pull -/

def pageSize : ℕ := 500

def eventsSince (events : Table OutboxEvent.id) (scope : TenantScope) (sinceDate : ℤ) :
    List OutboxEvent :=
  events.findSorted (fun e => e.ofCompany scope && sinceDate ≤ e.createdAt)
    fun a b => a.position ≤ b.position

def pageOf (events : Table OutboxEvent.id) (scope : TenantScope) (sinceDate : ℤ) :
    Option ℕ → List OutboxEvent
  | none => (eventsSince events scope sinceDate).take pageSize
  | some cursor =>
    match events.find? cursor with
    | none => []
    | some c =>
      (((eventsSince events scope sinceDate).filter fun e => c.position ≤ e.position).drop 1).take
        pageSize

structure SyncAnswer where
  checkpoint : ℤ
  nextCursor : Option ℕ
  events : List OutboxEvent
  hasMore : Bool

def answerOf (scope : TenantScope) (page : List OutboxEvent) (now : ℤ) : SyncAnswer where
  checkpoint := (page.getLast?.map OutboxEvent.createdAt).getD now
  nextCursor := if page.length = pageSize then page.getLast?.map OutboxEvent.id else none
  events := page.filter fun e => e.ofBranch scope
  hasMore := page.length = pageSize

/-! ### A device that pulls -/

structure SyncPosition where
  since : Option ℤ
  cursor : Option ℕ

/-- The position after an answer. A device that was given a cursor asks with it, and with its old `since` or
the checkpoint. -/
def SyncPosition.follow (p : SyncPosition) (a : SyncAnswer) (keepSince : Bool) : SyncPosition :=
  match a.nextCursor with
  | some id => { since := if keepSince then p.since else some a.checkpoint, cursor := some id }
  | none => { since := some a.checkpoint, cursor := none }

structure SyncState where
  /-- The reading of the clock. -/
  now : ℤ
  /-- The events whose transactions have committed. -/
  events : Table OutboxEvent.id
  position : SyncPosition
  /-- The pull under way: its `sinceDate`, and the events there were when it read its page. -/
  reading : Option (ℤ × Table OutboxEvent.id) := none
  /-- What the answers have returned. -/
  returned : List OutboxEvent := []

inductive SyncAction
  | clock (now : ℤ)
  | commits (e : OutboxEvent)
  | asks
  | answers (keepSince : Bool)
  | lost

def SyncState.sinceDate (s : SyncState) : ℤ := s.position.since.getD (s.now - 86400000)

def SyncState.answer (s : SyncState) (scope : TenantScope) (sinceDate : ℤ)
    (events : Table OutboxEvent.id) : SyncAnswer :=
  answerOf scope (pageOf events scope sinceDate s.position.cursor) s.now

inductive SyncStep (scope : TenantScope) (s : SyncState) : SyncAction → SyncState → Prop
  | clock (now : ℤ) : SyncStep scope s (.clock now) { s with now := now }
  | commits {e : OutboxEvent} (h : s.events.find? e.id = none) :
      SyncStep scope s (.commits e) { s with events := s.events.put e }
  | asks (h : s.reading = none) :
      SyncStep scope s .asks { s with reading := some (s.sinceDate, s.events) }
  | answers {sinceDate : ℤ} {events : Table OutboxEvent.id} {keepSince : Bool}
      (h : s.reading = some (sinceDate, events)) :
      SyncStep scope s (.answers keepSince) { s with
        position := s.position.follow (s.answer scope sinceDate events) keepSince
        reading := none
        returned := s.returned ++ (s.answer scope sinceDate events).events }
  | lost : SyncStep scope s .lost { s with reading := none }

def Ahead (events : Table OutboxEvent.id) (p : SyncPosition) (e : OutboxEvent) : Prop :=
  (∀ t ∈ p.since, t ≤ e.createdAt) ∧
    ∀ cursor ∈ p.cursor, ∃ c ∈ events, c.id = cursor ∧ c.position < e.position

/-- The condition: no event commits behind a position that was handed out, nor behind one that is handed out
by a pull that has read its page before; and no event is older than a day when the device asks without a
checkpoint. -/
def OnTime (scope : TenantScope) (s : SyncState) : SyncAction → Prop
  | .commits e => e.InScope scope → Ahead s.events s.position e
  | .asks => s.position.since = none →
      ∀ e ∈ s.events, e.ofCompany scope → s.now - 86400000 ≤ e.createdAt
  | .answers keepSince => ∀ r ∈ s.reading, ∀ e ∈ s.events, e.InScope scope → e ∉ r.2 →
      Ahead s.events (s.position.follow (s.answer scope r.1 r.2) keepSince) e
  | .clock _ | .lost => True

/-! ### What a page holds -/

variable {scope : TenantScope} {events : Table OutboxEvent.id} {sinceDate : ℤ} {cursor : Option ℕ}

def CursorFound (events : Table OutboxEvent.id) (scope : TenantScope) (sinceDate : ℤ)
    (cursor : Option ℕ) : Prop :=
  ∀ id ∈ cursor, ∃ c ∈ events, c.id = id ∧ c.ofCompany scope ∧ sinceDate ≤ c.createdAt

def aheadOf (events : Table OutboxEvent.id) (scope : TenantScope) (sinceDate : ℤ)
    (cursor : Option ℕ) : List OutboxEvent :=
  (eventsSince events scope sinceDate).filter fun e =>
    (cursor.bind events.find?).all fun c => c.position < e.position

lemma mem_eventsSince {e : OutboxEvent} :
    e ∈ eventsSince events scope sinceDate ↔ e ∈ events ∧ e.ofCompany scope ∧ sinceDate ≤ e.createdAt := by
  rw [eventsSince, Table.mem_findSorted, Bool.and_eq_true, decide_eq_true_eq]

lemma pairwise_eventsSince : (eventsSince events scope sinceDate).Pairwise fun a b => a.position < b.position :=
  Table.pairwise_findSorted fun _ _ _ _ h => congrArg Prod.snd h

lemma pairwise_aheadOf : (aheadOf events scope sinceDate cursor).Pairwise fun a b => a.position < b.position :=
  pairwise_eventsSince.filter _

lemma pageOf_eq (h : CursorFound events scope sinceDate cursor) :
    pageOf events scope sinceDate cursor = (aheadOf events scope sinceDate cursor).take pageSize := by
  cases cursor with
  | none => simp [pageOf, aheadOf]
  | some id =>
    obtain ⟨c, hc, rfl, hcompany, hsince⟩ := h id rfl
    have hfind := find?_of_mem hc
    have hmem : c ∈ eventsSince events scope sinceDate := mem_eventsSince.mpr ⟨hc, hcompany, hsince⟩
    simp only [pageOf, aheadOf, hfind, Option.bind_some, Option.all_some]
    rw [drop_one_filter_le pairwise_eventsSince hmem]

lemma drop_aheadOf {n : ℕ} {last : OutboxEvent}
    (hlast : ((aheadOf events scope sinceDate cursor).take n).getLast? = some last) :
    (aheadOf events scope sinceDate cursor).drop n =
      (aheadOf events scope sinceDate cursor).filter fun e => last.position < e.position :=
  drop_eq_filter_lt pairwise_aheadOf hlast

/-! ### A pull that was answered -/

structure Follows (scope : TenantScope) (s : SyncState) : Prop where
  cursor : ∀ id ∈ s.position.cursor, ∃ c ∈ s.events, c.id = id ∧ c.ofCompany scope ∧
    ∀ t ∈ s.position.since, t ≤ c.createdAt
  covered : ∀ e ∈ s.events, e.InScope scope → e ∈ s.returned ∨ Ahead s.events s.position e
  visible : ∀ r ∈ s.reading, ∀ e ∈ r.2, e ∈ s.events
  since : ∀ r ∈ s.reading, ∀ t ∈ s.position.since, r.1 = t
  firstDay : ∀ r ∈ s.reading, s.position.since = none → ∀ e ∈ r.2, e.ofCompany scope → r.1 ≤ e.createdAt
  found : ∀ r ∈ s.reading, CursorFound r.2 scope r.1 s.position.cursor

lemma Ahead.mono {events' : Table OutboxEvent.id} {p : SyncPosition} {e : OutboxEvent}
    (h : Ahead events p e) (hle : ∀ x ∈ events, x ∈ events') : Ahead events' p e := by
  refine ⟨h.1, fun cursor hcursor => ?_⟩
  obtain ⟨c, hc, hid, hlt⟩ := h.2 cursor hcursor
  exact ⟨c, hle c hc, hid, hlt⟩

lemma follow_cases (scope : TenantScope) (p : SyncPosition) (page : List OutboxEvent) (now : ℤ)
    (keepSince : Bool) :
    (∃ last, page.length = pageSize ∧ page.getLast? = some last ∧
      p.follow (answerOf scope page now) keepSince =
        { since := if keepSince then p.since else some last.createdAt, cursor := some last.id }) ∨
      page.length ≠ pageSize ∧ (p.follow (answerOf scope page now) keepSince).cursor = none := by
  by_cases hfull : page.length = pageSize
  · have hne : page ≠ [] := by
      rintro rfl
      cases hfull
    have hlast := List.getLast?_eq_some_getLast hne
    refine .inl ⟨page.getLast hne, hfull, hlast, ?_⟩
    simp [SyncPosition.follow, answerOf, hfull, hlast]
  · refine .inr ⟨hfull, ?_⟩
    simp [SyncPosition.follow, answerOf, hfull]

section Answer

variable {snapshot : Table OutboxEvent.id} {p : SyncPosition} {e : OutboxEvent}

lemma Ahead.mem_aheadOf (h : Ahead events p e) (hvisible : ∀ x ∈ snapshot, x ∈ events)
    (he : e ∈ snapshot) (hcompany : e.ofCompany scope) (hsince : sinceDate ≤ e.createdAt) :
    e ∈ aheadOf snapshot scope sinceDate p.cursor := by
  refine mem_filter.mpr ⟨mem_eventsSince.mpr ⟨he, hcompany, hsince⟩, ?_⟩
  rw [Option.all_eq_true]
  intro c hc
  obtain ⟨id, hid, hfind⟩ := Option.bind_eq_some_iff.mp hc
  obtain ⟨hc, rfl⟩ := find?_eq_some.mp hfind
  obtain ⟨c', hc', hsame, hlt⟩ := h.2 _ hid
  obtain rfl := eq_of_key_eq hc' (hvisible c hc) hsame
  exact decide_eq_true hlt

/-- What was ahead of the position is in the answer or ahead of the next position. -/
lemma answered (hfound : CursorFound snapshot scope sinceDate p.cursor)
    (hsince : ∀ t ∈ p.since, sinceDate = t) (he : e ∈ aheadOf snapshot scope sinceDate p.cursor)
    (hbranch : e.ofBranch scope) (now : ℤ) (keepSince : Bool) :
    e ∈ (answerOf scope (pageOf snapshot scope sinceDate p.cursor) now).events ∨
      Ahead snapshot
        (p.follow (answerOf scope (pageOf snapshot scope sinceDate p.cursor) now) keepSince) e := by
  have hpage := pageOf_eq hfound
  rw [← List.take_append_drop pageSize (aheadOf snapshot scope sinceDate p.cursor), mem_append, ← hpage] at he
  rcases he with htake | hdrop
  · exact .inl (mem_filter.mpr ⟨htake, hbranch⟩)
  · have hfull : (pageOf snapshot scope sinceDate p.cursor).length = pageSize := by
      have hpos := List.length_pos_of_mem hdrop
      rw [List.length_drop] at hpos
      rw [hpage, List.length_take]
      omega
    obtain ⟨last, _, hlast, hfollow⟩ | ⟨hnot, _⟩ :=
      follow_cases scope p (pageOf snapshot scope sinceDate p.cursor) now keepSince
    · rw [hpage] at hlast
      have hlastmem := (mem_eventsSince.mp (List.mem_of_mem_filter
        (List.mem_of_mem_take (List.mem_of_getLast? hlast)))).1
      rw [drop_aheadOf hlast, mem_filter, decide_eq_true_eq] at hdrop
      obtain ⟨hdrop, hlt⟩ := hdrop
      rw [hfollow]
      refine .inr ⟨fun t ht => ?_, fun id hid => ?_⟩
      · cases keepSince with
        | true =>
          rw [← hsince t ht]
          exact (mem_eventsSince.mp (List.mem_of_mem_filter hdrop)).2.2
        | false =>
          obtain rfl := Option.some.inj ht
          exact OutboxEvent.createdAt_le_of_position_lt hlt
      · obtain rfl := Option.some.inj hid
        exact ⟨last, hlastmem, rfl, hlt⟩
    · exact absurd hfull hnot

end Answer

lemma Follows.step {s s' : SyncState} {a : SyncAction} (hs : Follows scope s) (hon : OnTime scope s a)
    (h : SyncStep scope s a s') : Follows scope s' := by
  cases h with
  | clock now => exact ⟨hs.cursor, hs.covered, hs.visible, hs.since, hs.firstDay, hs.found⟩
  | lost => exact ⟨hs.cursor, hs.covered, by simp, by simp, by simp, by simp⟩
  | @commits e hnew =>
    have hmem : ∀ x ∈ s.events, x ∈ s.events.put e := fun x hx =>
      mem_put.mpr (Or.inr ⟨hx, find?_eq_none.mp hnew x hx⟩)
    refine ⟨fun id hid => ?_, fun x hx hscope => ?_, fun r hr x hx => hmem x (hs.visible r hr x hx),
      hs.since, hs.firstDay, hs.found⟩
    · obtain ⟨c, hc, hrest⟩ := hs.cursor id hid
      exact ⟨c, hmem c hc, hrest⟩
    · obtain rfl | ⟨hx, _⟩ := mem_put.mp hx
      · exact .inr ((hon hscope).mono hmem)
      · exact (hs.covered x hx hscope).imp_right fun h => h.mono hmem
  | asks hidle =>
    refine ⟨hs.cursor, hs.covered, ?_, ?_, ?_, ?_⟩
    · rintro r ⟨⟩ x hx
      exact hx
    · rintro r ⟨⟩ t ht
      rw [SyncState.sinceDate, Option.mem_def.mp ht]
      rfl
    · rintro r ⟨⟩ hnone x hx hcompany
      rw [SyncState.sinceDate, hnone]
      exact hon hnone x hx hcompany
    · rintro r ⟨⟩ id hid
      obtain ⟨c, hc, hcid, hcompany, hsince⟩ := hs.cursor id hid
      refine ⟨c, hc, hcid, hcompany, ?_⟩
      dsimp only [SyncState.sinceDate]
      cases ht : s.position.since with
      | some t => exact hsince t ht
      | none => exact hon ht c hc hcompany
  | @answers sinceDate snapshot keepSince hreading =>
    have hvisible := hs.visible _ hreading
    have hsince := hs.since _ hreading
    have hfound := hs.found _ hreading
    refine ⟨fun id hid => ?_, fun e he hscope => ?_, by simp, by simp, by simp, by simp⟩
    · -- The next cursor is the last event of the page.
      obtain ⟨last, _, hlast, hfollow⟩ | ⟨_, hnone⟩ := follow_cases scope s.position
        (pageOf snapshot scope sinceDate s.position.cursor) s.now keepSince
      · rw [pageOf_eq hfound] at hlast
        obtain ⟨hmem, hcompany, hle⟩ := mem_eventsSince.mp (List.mem_of_mem_filter
          (List.mem_of_mem_take (List.mem_of_getLast? hlast)))
        simp only [SyncState.answer, hfollow] at hid ⊢
        obtain rfl := Option.some.inj hid
        refine ⟨last, hvisible last hmem, rfl, hcompany, fun t ht => ?_⟩
        cases keepSince with
        | true => exact (hsince t ht) ▸ hle
        | false => exact (Option.some.inj ht) ▸ le_refl _
      · simp only [SyncState.answer] at hid
        rw [hnone] at hid
        cases hid
    · by_cases hsnap : e ∈ snapshot
      · obtain hret | hahead := hs.covered e he hscope
        · exact .inl (List.mem_append_left _ hret)
        · have hle : sinceDate ≤ e.createdAt := by
            cases ht : s.position.since with
            | some t => exact (hsince t ht).le.trans (hahead.1 t ht)
            | none => exact hs.firstDay _ hreading ht e hsnap hscope.1
          have hmem := hahead.mem_aheadOf hvisible hsnap hscope.1 hle
          obtain hret | hnext := answered hfound hsince hmem hscope.2 s.now keepSince
          · exact .inl (mem_append_right _ hret)
          · exact .inr (hnext.mono hvisible)
      · exact .inr (hon _ hreading e he hscope hsnap)

/-! ### Pulling until everything is returned -/

def AllReturned (scope : TenantScope) (s : SyncState) : Prop :=
  ∀ e ∈ s.events, e.InScope scope → e ∈ s.returned

def SyncState.ahead (s : SyncState) (scope : TenantScope) : List OutboxEvent :=
  aheadOf s.events scope s.sinceDate s.position.cursor

def pulls (ks : List Bool) : List SyncAction := ks.flatMap fun keepSince => [.asks, .answers keepSince]

/-- A step of a run in which no event commits behind a position that was handed out. -/
abbrev OnTimeStep (scope : TenantScope) := Guarded (OnTime scope) (SyncStep scope)

variable {s t : SyncState}

lemma cursorFound_of_asks (hs : Follows scope s) (hasks : OnTime scope s .asks) :
    CursorFound s.events scope s.sinceDate s.position.cursor := by
  intro id hid
  obtain ⟨c, hc, hcid, hcompany, hsince⟩ := hs.cursor id hid
  refine ⟨c, hc, hcid, hcompany, ?_⟩
  rw [SyncState.sinceDate]
  cases ht : s.position.since with
  | some t => exact hsince t ht
  | none => exact hasks ht c hc hcompany

lemma ahead_after {last : OutboxEvent} (hlast : last ∈ aheadOf events scope sinceDate cursor)
    (since : Option ℤ) (now : ℤ) (hsince : sinceDate ≤ since.getD now) :
    ∀ e ∈ aheadOf events scope (since.getD now) (some last.id),
      e ∈ (aheadOf events scope sinceDate cursor).filter fun e => last.position < e.position := by
  intro e he
  obtain ⟨hsinceLast, hcursor⟩ := mem_filter.mp hlast
  obtain ⟨hmem, hcompany, hle⟩ := mem_eventsSince.mp hsinceLast
  obtain ⟨hsinceE, hlt⟩ := mem_filter.mp he
  obtain ⟨hmemE, hcompanyE, hleE⟩ := mem_eventsSince.mp hsinceE
  have hfind := find?_of_mem hmem
  simp only [Option.bind_some, hfind, Option.all_some, decide_eq_true_eq] at hlt
  refine mem_filter.mpr ⟨mem_filter.mpr ⟨?_, ?_⟩, decide_eq_true hlt⟩
  · exact mem_eventsSince.mpr ⟨hmemE, hcompanyE, hsince.trans hleE⟩
  · rw [Option.all_eq_true] at hcursor ⊢
    exact fun c hc => decide_eq_true ((of_decide_eq_true (hcursor c hc)).trans hlt)

/-- A pull that is answered returns all there is, or makes a page of progress. -/
lemma pull_progress {keepSince : Bool} (hs : Follows scope s)
    (h : Run (OnTimeStep scope) s [.asks, .answers keepSince] t) :
    Follows scope t ∧ t.events = s.events ∧ (AllReturned scope s → AllReturned scope t) ∧
      (AllReturned scope t ∨ (t.ahead scope).length + pageSize ≤ (s.ahead scope).length) := by
  have ht : Follows scope t := h.invariant (fun _ _ _ hI hg => hI.step hg.1 hg.2) hs
  obtain ⟨u, ⟨hasks, hask⟩, hrest⟩ := Run.cons_iff.mp h
  obtain ⟨v, ⟨_, hanswer⟩, hend⟩ := Run.cons_iff.mp hrest
  obtain rfl := Run.nil_iff.mp hend
  have hfound := cursorFound_of_asks hs hasks
  cases hask
  cases hanswer with
  | answers hreading =>
    obtain ⟨rfl, rfl⟩ := Prod.mk.inj (Option.some.inj hreading)
    refine ⟨ht, rfl, fun hall e he hscope => List.mem_append_left _ (hall e he hscope), ?_⟩
    have hpage := pageOf_eq hfound
    obtain ⟨last, hfull, hlast, hfollow⟩ | ⟨hnot, _⟩ := follow_cases scope s.position
      (pageOf s.events scope s.sinceDate s.position.cursor) s.now keepSince
    · right
      rw [hpage] at hfull hlast
      have hmem := List.mem_of_mem_take (List.mem_of_getLast? hlast)
      have hle := (mem_eventsSince.mp (List.mem_of_mem_filter hmem)).2.2
      change ((fun q : SyncPosition => aheadOf s.events scope (q.since.getD (s.now - 86400000)) q.cursor)
        (s.position.follow (answerOf scope (pageOf s.events scope s.sinceDate s.position.cursor) s.now)
          keepSince)).length + pageSize ≤ (aheadOf s.events scope s.sinceDate s.position.cursor).length
      rw [hfollow]
      dsimp only
      have hsub := ahead_after hmem (if keepSince then s.position.since else some last.createdAt)
        (s.now - 86400000) (by
          cases keepSince with
          | true => exact le_refl _
          | false => exact hle)
      rw [← drop_aheadOf hlast] at hsub
      have hnodup := (@pairwise_aheadOf scope s.events
        ((if keepSince then s.position.since else some last.createdAt).getD (s.now - 86400000))
        (some last.id)).imp fun {a b} hab => ne_of_apply_ne _ hab.ne
      have hlen := (List.subperm_of_subset hnodup hsub).length_le
      rw [List.length_drop] at hlen
      rw [List.length_take] at hfull
      omega
    · left
      have hshort : (aheadOf s.events scope s.sinceDate s.position.cursor).length ≤ pageSize := by
        rw [hpage, List.length_take] at hnot
        omega
      rw [List.take_of_length_le hshort] at hpage
      intro e he hscope
      obtain hret | hahead := hs.covered e he hscope
      · exact List.mem_append_left _ hret
      · refine mem_append_right _ (mem_filter.mpr ⟨?_, hscope.2⟩)
        have hle : s.sinceDate ≤ e.createdAt := by
          rw [SyncState.sinceDate]
          cases htime : s.position.since with
          | some t => exact hahead.1 t htime
          | none => exact hasks htime e he hscope.1
        exact hpage ▸ hahead.mem_aheadOf (fun _ hx => hx) he hscope.1 hle

lemma length_ahead_le : (s.ahead scope).length ≤ s.events.rows.length := by
  refine (List.length_filter_le _ _).trans ?_
  rw [eventsSince, Table.length_findSorted]
  exact List.length_filter_le _ _

lemma pulls_progress {ks : List Bool} (hs : Follows scope s) (h : Run (OnTimeStep scope) s (pulls ks) t)
    (hmany : AllReturned scope s ∨ (s.ahead scope).length < pageSize * ks.length) :
    t.events = s.events ∧ AllReturned scope t := by
  induction ks generalizing s with
  | nil =>
    obtain rfl := Run.nil_iff.mp h
    exact ⟨rfl, hmany.resolve_right (by simp)⟩
  | cons k ks ih =>
    obtain ⟨v, hfirst, hrest⟩ := (@Run.append_iff _ _ _ _ _ [.asks, .answers k] (pulls ks)).mp h
    obtain ⟨hv, hevents, hkeep, hprogress⟩ := pull_progress hs hfirst
    rw [← hevents]
    refine ih hv hrest ?_
    rcases hmany with hall | hlt
    · exact .inl (hkeep hall)
    · refine hprogress.imp_right fun hle => ?_
      rw [length_cons, Nat.mul_succ] at hlt
      omega

/-- Let a device begin at a position behind which no event of its scope has committed, and follow its
answers. Where no event commits behind a position that is handed out, every event that has committed was
returned or is ahead of the device, and enough further pulls return all of them. -/
theorem pulls_return_all {as : List SyncAction} (hcursor : s.position.cursor = none) (hidle : s.reading = none)
    (hbegin : ∀ e ∈ s.events, e.InScope scope → ∀ since ∈ s.position.since, since ≤ e.createdAt)
    (hrun : Run (OnTimeStep scope) s as t) :
    (∀ e ∈ t.events, e.InScope scope → e ∈ t.returned ∨ Ahead t.events t.position e) ∧
      ∀ ks u, Run (OnTimeStep scope) t (pulls ks) u → t.events.rows.length < pageSize * ks.length →
        ∀ e ∈ t.events, e.InScope scope → e ∈ u.returned := by
  have hstart : Follows scope s := by
    refine ⟨by simp [hcursor], fun e he hscope => .inr ⟨hbegin e he hscope, by simp [hcursor]⟩, ?_, ?_, ?_,
      ?_⟩ <;> simp [hidle]
  have hend : Follows scope t := hrun.invariant (fun _ _ _ hI hg => hI.step hg.1 hg.2) hstart
  refine ⟨hend.covered, fun ks u hpulls hmany => ?_⟩
  obtain ⟨hevents, hall⟩ := pulls_progress hend hpulls (Or.inr (length_ahead_le.trans_lt hmany))
  rw [← hevents]
  exact hall

lemma run_pull (scope : TenantScope) (s : SyncState) (hidle : s.reading = none) (keepSince : Bool) :
    Run (SyncStep scope) s (pulls [keepSince]) { s with
      position := s.position.follow (s.answer scope s.sinceDate s.events) keepSince
      reading := none
      returned := s.returned ++ (s.answer scope s.sinceDate s.events).events } :=
  Run.cons (.asks hidle) (Run.cons (.answers rfl) (Run.nil _))

/-! A device and two events of its branch. -/

def storeScope : TenantScope := { companyId := 1, branchId := 1 }

def earlyEvent : OutboxEvent :=
  { id := 2, companyId := some 1, aggregateType := "Sale", createdAt := 4, branchIds := [1] }

def lateEvent : OutboxEvent :=
  { id := 1, companyId := some 1, aggregateType := "Sale", createdAt := 5, branchIds := [1] }

def storeState : SyncState where
  now := 10
  events := Table.empty.put lateEvent
  position := { since := some 0, cursor := none }

theorem pulls_return_all_store : ∃ t u, Run (OnTimeStep storeScope) storeState [.commits earlyEvent] t ∧
      Run (OnTimeStep storeScope) t (pulls [false]) u ∧ earlyEvent ∈ u.returned := by
  have hahead : Ahead storeState.events storeState.position earlyEvent :=
    ⟨by simp [storeState, earlyEvent], by simp [storeState]⟩
  have hfirst : Run (OnTimeStep storeScope) storeState [.commits earlyEvent] _ :=
    Run.cons ⟨fun _ => hahead, .commits (by decide +kernel)⟩ (Run.nil _)
  have hlater : Run (OnTimeStep storeScope)
      { storeState with events := storeState.events.put earlyEvent } (pulls [false]) _ :=
    Run.cons ⟨nofun, .asks rfl⟩ (Run.cons ⟨by
      rintro r ⟨⟩ e he _ hnot
      exact absurd he hnot, .answers rfl⟩ (Run.nil _))
  refine ⟨_, _, hfirst, hlater, ?_⟩
  refine (pulls_return_all rfl rfl ?_ hfirst).2 [false] _ hlater (by decide +kernel) earlyEvent
    (mem_put_self _ _) (by decide +kernel)
  rintro e he - since ⟨⟩
  obtain rfl | ⟨he, -⟩ := mem_put.mp he
  · decide
  · exact absurd he (not_mem_empty e)

/-- The earlier event commits after a pull has handed out the time of the later one, and no pull returns it. -/
theorem late_commit_skipped : ∃ as t u, Run (SyncStep storeScope) storeState as t ∧
      Run (SyncStep storeScope) t (pulls [false]) u ∧ t.events.rows.length < pageSize ∧
        earlyEvent ∈ t.events ∧ earlyEvent.InScope storeScope ∧ earlyEvent ∉ u.returned := by
  have hfirst := run_pull storeScope storeState rfl false
  have hcommit := Run.append_iff.mpr ⟨_, hfirst,
    Run.cons (.commits (e := earlyEvent) (by decide +kernel)) (Run.nil _)⟩
  exact ⟨_, _, _, hcommit, run_pull storeScope _ rfl false, by decide +kernel, mem_put_self _ _,
    by decide +kernel, by decide +kernel⟩

end Mayatoko.Edge
