import Mayatoko.Core.Lease
import Mayatoko.Worker.Webhooks

/-!
# A webhook is delivered once, after ten attempts at most

A worker that is slower than its lease writes what came of its request after another one has taken the row
over and delivered it, and a request that is not recorded before the next one is made is not counted. Where
a worker makes its request and writes its outcome while its lease runs, and a row is claimed only when all
requests made for it are recorded and the worker's copy of it is current, a delivered row stays delivered
and no row is attempted more than ten times.
-/

namespace Mayatoko.Worker

open Core WorkerDb TableOf

/-! ### What is claimed -/

def WebhookDelivery.Open (d : WebhookDelivery) : Prop :=
  d.status = .pending ∨ d.status = .retry ∨ d.status = .processing

def AttemptsBounded (s : WorkerDb) : Prop :=
  ∀ d ∈ s.deliveries, s.requests.count d.id ≤ 10 ∧ d.attempts ≤ 10

def AttemptsLeft (s : WorkerDb) : Prop := ∀ d ∈ s.deliveries, d.Open → d.attempts < 10

def KeepsDelivered (s s' : WorkerDb) : Prop :=
  ∀ d ∈ s.deliveries, d.status = .delivered → ∃ d' ∈ s'.deliveries, d'.id = d.id ∧ d'.status = .delivered

structure OutsideWebhooks (s s' : WorkerDb) : Prop where
  clock : s.now ≤ s'.now
  kept : ∀ d ∈ s.deliveries, d ∈ s'.deliveries
  added : ∀ d ∈ s'.deliveries, d ∈ s.deliveries ∨
    d.status = .pending ∧ d.attempts = 0 ∧ d.id ∉ s.requests
  requests : s'.requests = s.requests

/-- A row is claimed when every request made for it has been recorded and the worker's copy is current; the
worker makes its request and writes the outcome while its lease runs. -/
def InTime (s : WorkerDb) : Option WebhookLabel → Prop
  | some (.claimed deliveryId attempts _) => ∀ d ∈ s.deliveries.rows, d.id = deliveryId →
      s.requests.count deliveryId ≤ d.attempts ∧ d.attempts = attempts
  | some (.sent _ lease) | some (.finished _ lease) => s.now < lease
  | some (.looked) | none => True

/-- Where a worker is: it holds a row, of which it knows the number of attempts, and has made its request or
not. -/
inductive WebhookStage
  | free
  | claimed (deliveryId attempts lease : ℕ)
  | sent (deliveryId attempts lease : ℕ)

def WebhookStage.copy : WebhookStage → Option (ℕ × ℕ × ℕ)
  | free => none
  | claimed deliveryId attempts lease | sent deliveryId attempts lease =>
    some (deliveryId, attempts, lease)

inductive WebhookMove : WebhookStage → WorkerDb → WebhookLabel → WorkerDb → WebhookStage → Prop
  | looks {s : WorkerDb} {q : WebhookStage} : WebhookMove q s .looked s q
  | claims {s : WorkerDb} {d : WebhookDelivery} {attempts lease : ℕ} (hd : d ∈ s.deliveries)
      (hdue : d.due s.now = true) :
      WebhookMove .free s (.claimed d.id attempts lease)
        { s with deliveries := s.deliveries.put (d.claim lease) } (.claimed d.id attempts lease)
  | sends {s : WorkerDb} {deliveryId attempts lease : ℕ} :
      WebhookMove (.claimed deliveryId attempts lease) s (.sent deliveryId lease)
        { s with requests := deliveryId :: s.requests } (.sent deliveryId attempts lease)
  | finishes {s : WorkerDb} {q : WebhookStage} {d d' : WebhookDelivery} {attempts lease : ℕ}
      (hq : q.copy = some (d.id, attempts, lease)) (hd : d ∈ s.deliveries) (hid : d'.id = d.id)
      (hattempts : d'.attempts ≤ d.attempts + 1) (hopen : d'.Open → attempts + 1 < 10) :
      WebhookMove q s (.finished d.id lease) { s with deliveries := s.deliveries.put d' } .free

/-! ### The worker follows it -/

variable {s s' : WorkerDb} {cfg : WebhookConfig} {delivery : WebhookDelivery} {lease : ℕ}

variable {deliveryId : ℕ}

lemma claimDelivery_commits {n : ℕ} (h : Commits (claimDelivery deliveryId lease) s n s') :
    n = 0 ∧ s' = s ∨ n ≠ 0 ∧ ∃ d ∈ s.deliveries, d.id = deliveryId ∧ d.due s.now = true ∧
      s' = { s with deliveries := s.deliveries.put (d.claim lease) } := by
  simp only [claimDelivery, commits_steps] at h
  obtain h := h
  have hcase := updateKey_commits (T := webhookDelivery) (k := deliveryId) (fun _ => rfl)
    (by simp +contextual) h
  obtain ⟨hn, rfl⟩ | ⟨hn, d, hd, hp, rfl⟩ := hcase
  · exact .inl ⟨hn, rfl⟩
  · obtain ⟨hid, hdue⟩ := (Bool.and_eq_true _ _).mp hp
    exact .inr ⟨by omega, d, hd, of_decide_eq_true hid, hdue, rfl⟩

/-- What a write of an outcome does: the row has an attempt more at most, and is open again only while the
copy has an attempt left. -/
def Finishes (s : WorkerDb) (deliveryId attempts : ℕ) (s' : WorkerDb) : Prop :=
  ∃ d ∈ s.deliveries, ∃ d', d.id = deliveryId ∧ d'.id = d.id ∧ d'.attempts ≤ d.attempts + 1 ∧
    (d'.Open → attempts + 1 < 10) ∧ s' = { s with deliveries := s.deliveries.put d' }

variable {attempts : ℕ}

lemma finishes_of_update {f : WebhookDelivery → WebhookDelivery}
    {d : WebhookDelivery} (h : Commits (webhookDelivery.update deliveryId f recordNotFound) s d s')
    (hid : ∀ d, (f d).id = d.id) (hattempts : ∀ d, (f d).attempts ≤ d.attempts + 1)
    (hopen : ∀ d, (f d).Open → attempts + 1 < 10) :
    Finishes s deliveryId attempts s' := by
  obtain ⟨d, hd, rfl, rfl⟩ := commits_update.mp h
  obtain ⟨hmem, hdid⟩ := find?_eq_some.mp hd
  exact ⟨d, hmem, f d, hdid, hid d, hattempts d, hopen d, rfl⟩

lemma cancelDelivery_commits {u : Unit}
    (h : Commits (cancelDelivery deliveryId) s u s') : Finishes s deliveryId attempts s' := by
  simp only [cancelDelivery, commits_steps] at h
  obtain ⟨_, _, hupdate, _, rfl⟩ := h
  exact finishes_of_update hupdate (fun _ => rfl) (by simp) (by simp [WebhookDelivery.Open])

lemma markDelivered_commits {responseCode : ℕ} {responseBody : String} {u : Unit}
    (h : Commits (markDelivered deliveryId responseCode responseBody) s u s') :
    Finishes s deliveryId attempts s' := by
  simp only [markDelivered, commits_steps] at h
  obtain ⟨_, _, hupdate, _, rfl⟩ := h
  exact finishes_of_update hupdate (fun _ => rfl) (by simp) (by simp [WebhookDelivery.Open])

lemma markAttempt_commits {message : String} {u : Unit} (h : Commits (markAttempt delivery message) s u s') :
    Finishes s delivery.id delivery.attempts s' := by
  simp only [markAttempt, commits_steps] at h
  obtain ⟨_, _, hupdate, _, rfl⟩ := h
  refine finishes_of_update hupdate (fun _ => rfl) (by simp) fun d hopen => ?_
  by_contra hlast
  have hten : 10 ≤ delivery.attempts + 1 := by omega
  dsimp only [WebhookDelivery.Open] at hopen
  rw [if_pos hten] at hopen
  simp at hopen

lemma Finishes.move {q : WebhookStage}
    (h : Finishes s deliveryId attempts s') (hq : q.copy = some (deliveryId, attempts, lease)) :
    WebhookMove q s (.finished deliveryId lease) s' .free := by
  obtain ⟨d, hd, d', rfl, hid, hattempts, hopen, rfl⟩ := h
  exact .finishes hq hd hid hattempts hopen

def copyOf (delivery : WebhookDelivery) (lease : ℕ) : Option (ℕ × ℕ × ℕ) :=
  some (delivery.id, delivery.attempts, lease)

lemma fetch_obeys : Obeys WebhookMove (fun _ q => q.copy = copyOf delivery lease)
      (fun q => q.copy = copyOf delivery lease) (.claimed delivery.id delivery.attempts lease)
      (fetch delivery lease) := by
  unfold fetch
  refine Obeys.bind (R := fun _ q => q = .sent delivery.id delivery.attempts lease) ?_ ?_
  · refine obeys_atomically (fun s u s' h => ⟨_, ?_, rfl⟩) fun s e he => ?_
    · obtain rfl := (commits_modify.mp h)
      exact .sends
    · cases he
  · rintro _ _ rfl
    refine Obeys.bind (R := fun _ q => q = .sent delivery.id delivery.attempts lease) ?_ ?_
    · exact obeys_lookup fun s => ⟨_, .looks, rfl⟩
    · rintro answer _ rfl
      cases answer with
      | unreachable message => exact obeys_throw rfl
      | response status body =>
        refine Obeys.bind (R := fun _ q => q = .sent delivery.id delivery.attempts lease) ?_ ?_
        · exact Obeys.ite (fun _ => obeys_pure rfl) fun _ => obeys_throw rfl
        · rintro _ _ rfl
          exact obeys_pure rfl

lemma sendClaimed_obeys : Obeys WebhookMove (fun _ q => q = .free) (fun q => q.copy = copyOf delivery lease)
      (.claimed delivery.id delivery.attempts lease) (sendClaimed cfg lease delivery) := by
  unfold sendClaimed
  refine Obeys.bind (R := fun _ q => q = .claimed delivery.id delivery.attempts lease) ?_ ?_
  · exact obeys_query (fun s => ⟨_, .looks, rfl⟩) fun s => ⟨_, .looks, rfl⟩
  · rintro endpoint _ rfl
    split
    · exact obeys_statement (fun s u s' h => ⟨_, (cancelDelivery_commits h).move rfl, rfl⟩)
        fun s => ⟨_, .looks, rfl⟩
    · next endpoint _ =>
      refine Obeys.bind (R := fun _ q => q = .claimed delivery.id delivery.attempts lease) ?_ ?_
      · cases checkWebhook cfg endpoint with
        | error message => exact obeys_throw rfl
        | ok _ => exact obeys_pure rfl
      · rintro _ _ rfl
        refine fetch_obeys.bind fun response q hq => ?_
        exact obeys_statement (fun s u s' h => ⟨_, (markDelivered_commits h).move hq, rfl⟩)
          fun s => ⟨_, .looks, hq⟩

lemma sendWebhookDelivery_obeys : Obeys WebhookMove (fun _ q => q = .free) (fun _ => True) .free
      (sendWebhookDelivery cfg lease delivery) := by
  unfold sendWebhookDelivery
  refine Obeys.bind (R := fun n q => q = if n = 0 then .free
    else .claimed delivery.id delivery.attempts lease) ?_ ?_
  · refine obeys_statement (fun s n s' h => ⟨_, ?_, rfl⟩) fun s => ⟨_, .looks, trivial⟩
    obtain ⟨rfl, rfl⟩ | ⟨hn, d, hd, hid, hdue, rfl⟩ := claimDelivery_commits h
    · exact .looks
    · rw [if_neg hn, if_neg hn, ← hid]
      exact .claims hd hdue
  · rintro n _ rfl
    refine Obeys.ite (fun hn => ?_) fun hn => ?_
    · rw [if_pos hn]
      exact obeys_pure rfl
    · rw [if_neg hn]
      refine Obeys.attempt sendClaimed_obeys fun message q hq => ?_
      exact obeys_statement (fun s u s' h => ⟨_, (markAttempt_commits h).move hq, rfl⟩)
        fun s => ⟨_, .looks, trivial⟩

lemma sendWebhookDeliveries_obeys :
    Obeys WebhookMove (fun _ _ => True) (fun _ => True) .free (sendWebhookDeliveries cfg) := by
  unfold sendWebhookDeliveries
  refine Obeys.bind (R := fun _ q => q = .free) ?_ ?_
  · exact obeys_lookup fun s => ⟨_, .looks, rfl⟩
  · rintro now _ rfl
    refine Obeys.bind (R := fun _ q => q = .free) ?_ ?_
    · exact obeys_query (fun s => ⟨_, .looks, rfl⟩) fun s => ⟨_, .looks, trivial⟩
    · rintro deliveries _ rfl
      refine (Obeys.forM (S := fun q => q = .free) rfl ?_).mono (fun _ _ _ => trivial) fun _ h => h
      rintro delivery _ rfl
      exact sendWebhookDelivery_obeys

/-! ### A running lease is exclusive -/

def WebhookDelivery.standing (d : WebhookDelivery) : Option ℕ :=
  if d.status = .processing then d.nextRetryAt else none

def webhookLeasing : Leasing WorkerDb WebhookStage where
  now := WorkerDb.now
  held q := q.copy.map fun (deliveryId, _, lease) => (deliveryId, lease)
  standing s k := (s.deliveries.find? k).bind WebhookDelivery.standing

/-- What is right of a worker's copy while its lease runs: the row has the attempts of the copy, and at most
one request more has been made for it than the copy says, none more before the worker makes its own. -/
def CopyRight (s : WorkerDb) : WebhookStage → Prop
  | .free => True
  | .claimed deliveryId attempts lease => s.now < lease →
    s.requests.count deliveryId ≤ attempts ∧ ∀ d ∈ s.deliveries, d.id = deliveryId → d.attempts = attempts
  | .sent deliveryId attempts lease => s.now < lease →
    s.requests.count deliveryId ≤ attempts + 1 ∧
      ∀ d ∈ s.deliveries, d.id = deliveryId → d.attempts = attempts

structure WebhookRight (p : Staged WorkerDb WebhookStage) : Prop where
  leases : webhookLeasing.Exclusive p
  copies : ∀ i q, p.stage i = some q → CopyRight p.state q
  bounded : AttemptsBounded p.state
  left : AttemptsLeft p.state

variable {p p' : Staged WorkerDb WebhookStage} {i : ℕ} {q : WebhookStage} {d d' : WebhookDelivery}

lemma WebhookStage.held_eq (h : q.copy = some (deliveryId, attempts, lease)) :
    webhookLeasing.held q = some (deliveryId, lease) := by
  dsimp only [webhookLeasing]
  rw [h]
  rfl

lemma CopyRight.of_copy (h : CopyRight s q)
    (hq : q.copy = some (deliveryId, attempts, lease)) (hlease : s.now < lease) :
    s.requests.count deliveryId ≤ attempts + 1 ∧
      ∀ d ∈ s.deliveries, d.id = deliveryId → d.attempts = attempts := by
  cases q with
  | free => cases hq
  | claimed =>
    cases hq
    exact ⟨Nat.le_succ_of_le (h hlease).1, (h hlease).2⟩
  | sent =>
    cases hq
    exact h hlease

lemma CopyRight.transfer (h : CopyRight s q) (hclock : s.now ≤ s'.now)
    (hcount : ∀ deliveryId attempts lease, q.copy = some (deliveryId, attempts, lease) → s'.now < lease →
      s'.requests.count deliveryId = s.requests.count deliveryId ∧
        ∀ d ∈ s'.deliveries, d.id = deliveryId → d ∈ s.deliveries) : CopyRight s' q := by
  cases q with
  | free => trivial
  | claimed deliveryId attempts lease =>
    intro hlease
    obtain ⟨hrequests, hrows⟩ := hcount deliveryId attempts lease rfl hlease
    obtain ⟨hle, hsame⟩ := h (hclock.trans_lt hlease)
    exact ⟨hrequests ▸ hle, fun d hd hid => hsame d (hrows d hd hid) hid⟩
  | sent deliveryId attempts lease =>
    intro hlease
    obtain ⟨hrequests, hrows⟩ := hcount deliveryId attempts lease rfl hlease
    obtain ⟨hle, hsame⟩ := h (hclock.trans_lt hlease)
    exact ⟨hrequests ▸ hle, fun d hd hid => hsame d (hrows d hd hid) hid⟩

variable {x : Option WebhookStage}

lemma WebhookRight.copies_update (h : WebhookRight p) (hnow : s'.now = p.state.now)
    (hothers : ∀ j k lease, j ≠ i → webhookLeasing.Live p j k lease →
      s'.requests.count k = p.state.requests.count k ∧
        ∀ d ∈ s'.deliveries, d.id = k → d ∈ p.state.deliveries)
    (hx : ∀ q, x = some q → CopyRight s' q) {j : ℕ} {q : WebhookStage}
    (hj : Function.update p.stage i x j = some q) : CopyRight s' q := by
  by_cases hji : j = i
  · subst hji
    rw [Function.update_self] at hj
    exact hx q hj
  · rw [Function.update_of_ne hji] at hj
    refine (h.copies j q hj).transfer hnow.ge fun k attempts lease hq hlease => ?_
    rw [hnow] at hlease
    exact hothers j k lease hji ⟨q, hj, WebhookStage.held_eq hq, hlease⟩

lemma WebhookRight.restage (h : WebhookRight p) (hx : x = none ∨ x = some .free ∨ x = p.stage i) :
    WebhookRight { p with stage := Function.update p.stage i x } := by
  constructor
  case leases =>
    refine h.leases.restage rfl (fun _ _ _ _ _ => rfl) fun q k lease hq hheld hlease => ?_
    obtain rfl | rfl | rfl := hx
    · cases hq
    · cases hq
      cases hheld
    · exact ⟨⟨q, hq, hheld, hlease⟩, rfl⟩
  case copies =>
    refine fun j q hj => h.copies_update rfl (fun _ _ _ _ _ => ⟨rfl, fun _ hd _ => hd⟩) (fun q hq => ?_) hj
    obtain rfl | rfl | rfl := hx
    · cases hq
    · cases hq
      trivial
    · exact h.copies i q hq
  case bounded => exact h.bounded
  case left => exact h.left

lemma standing_delivery_put_of_ne {k : ℕ} (h : k ≠ d.id) :
    webhookLeasing.standing { s with deliveries := s.deliveries.put d } k =
      webhookLeasing.standing s k := by
  dsimp only [webhookLeasing]
  rw [find?_put_of_ne _ h]

lemma mem_of_mem_put_of_ne {t : Table WebhookDelivery.id} {k : ℕ} (hd : d ∈ t.put d') (hid : d.id = k)
    (hk : k ≠ d'.id) : d ∈ t := by
  obtain rfl | ⟨hd, _⟩ := mem_put.mp hd
  · exact absurd hid.symm hk
  · exact hd

lemma WebhookDelivery.due_iff {now : ℕ} (h : d.due now = true) :
    d.Open ∧ ∀ lease, d.standing = some lease → lease ≤ now := by
  simp only [WebhookDelivery.due, WebhookDelivery.Open, WebhookDelivery.standing] at h ⊢
  refine ⟨by grind, fun lease hlease => ?_⟩
  grind

lemma WebhookDelivery.open_of_standing (h : d.standing = some lease) : d.Open := by
  simp only [WebhookDelivery.standing] at h
  split at h
  · exact .inr (Or.inr ‹_›)
  · cases h

lemma WebhookRight.open_of_live (h : WebhookRight p) (hi : webhookLeasing.Live p i d.id lease)
    (hd : d ∈ p.state.deliveries) : d.Open := by
  have hstanding := h.leases.leased i d.id lease hi
  dsimp only [webhookLeasing] at hstanding
  rw [find?_of_mem hd, Option.bind_some] at hstanding
  exact WebhookDelivery.open_of_standing hstanding

lemma WebhookRight.claim (h : WebhookRight p) (hd : d ∈ p.state.deliveries) (hdue : d.due p.state.now = true)
    (hcurrent : ∀ x ∈ p.state.deliveries.rows, x.id = d.id →
      p.state.requests.count d.id ≤ x.attempts ∧ x.attempts = attempts) :
    WebhookRight ⟨{ p.state with deliveries := p.state.deliveries.put (d.claim lease) },
      Function.update p.stage i (some (.claimed d.id attempts lease))⟩ := by
  obtain ⟨hopen, hout⟩ := WebhookDelivery.due_iff hdue
  have hfree (j lease' : ℕ) : ¬ webhookLeasing.Live p j d.id lease' := by
    refine h.leases.not_live fun lease'' hstanding => hout lease'' ?_
    dsimp only [webhookLeasing] at hstanding
    rwa [find?_of_mem hd, Option.bind_some] at hstanding
  obtain ⟨hle, rfl⟩ := hcurrent d hd rfl
  constructor
  case leases =>
    refine h.leases.give rfl hfree (WebhookStage.held_eq rfl) ?_ fun k hk => ?_
    · dsimp only [webhookLeasing]
      have hfind := find?_put_self p.state.deliveries (d.claim lease)
      rw [show (d.claim lease).id = d.id from rfl] at hfind
      rw [hfind]
      rfl
    · exact standing_delivery_put_of_ne hk
  case copies =>
    intro j q hj
    refine h.copies_update ?_ (fun j k lease' _ hlive => ⟨?_, fun x hx hid => ?_⟩) (fun q hq => ?_) hj
    · rfl
    · rfl
    · refine mem_of_mem_put_of_ne hx hid ?_
      rintro rfl
      exact hfree j lease' hlive
    · obtain rfl := Option.some.inj hq
      refine fun _ => ⟨hle, fun x hx hid => ?_⟩
      obtain rfl | ⟨_, hne⟩ := mem_put.mp hx
      · rfl
      · exact absurd hid hne
  case bounded =>
    intro x hx
    obtain rfl | ⟨hx, _⟩ := mem_put.mp hx
    · exact h.bounded d hd
    · exact h.bounded x hx
  case left =>
    intro x hx hxopen
    obtain rfl | ⟨hx, _⟩ := mem_put.mp hx
    · exact h.left d hd hopen
    · exact h.left x hx hxopen

lemma WebhookRight.send (h : WebhookRight p)
    (hi : p.stage i = some (.claimed deliveryId attempts lease)) (hlease : p.state.now < lease) :
    WebhookRight ⟨{ p.state with requests := deliveryId :: p.state.requests },
      Function.update p.stage i (some (.sent deliveryId attempts lease))⟩ := by
  have hlive : webhookLeasing.Live p i deliveryId lease := ⟨_, hi, rfl, hlease⟩
  obtain ⟨hle, hsame⟩ := h.copies i _ hi hlease
  constructor
  case leases =>
    refine h.leases.restage rfl (fun _ _ _ _ _ => rfl) ?_
    rintro _ _ _ ⟨⟩ ⟨⟩ _
    exact ⟨hlive, rfl⟩
  case copies =>
    intro j q hj
    refine h.copies_update ?_ (fun j k lease' hji hlive' => ⟨?_, fun x hx _ => ?_⟩) (fun q hq => ?_) hj
    · rfl
    · refine List.count_cons_of_ne ?_
      rintro rfl
      exact hji (h.leases.alone j i _ lease' lease hlive' hlive)
    · exact hx
    · obtain rfl := Option.some.inj hq
      refine fun _ => ⟨?_, hsame⟩
      rw [List.count_cons_self]
      exact Nat.succ_le_succ hle
  case bounded =>
    intro x hx
    refine ⟨?_, (h.bounded x hx).2⟩
    dsimp only
    by_cases hid : x.id = deliveryId
    · subst hid
      have hlast := h.left x hx (h.open_of_live hlive hx)
      have heq := hsame x hx rfl
      rw [List.count_cons_self]
      omega
    · rw [List.count_cons_of_ne (Ne.symm hid)]
      exact (h.bounded x hx).1
  case left => exact h.left

/-- The holder of a running lease writes the outcome and lets the row go. -/
lemma WebhookRight.finish (h : WebhookRight p) (hi : p.stage i = some q)
    (hq : q.copy = some (d.id, attempts, lease)) (hlease : p.state.now < lease)
    (hd : d ∈ p.state.deliveries) (hid : d'.id = d.id) (hattempts : d'.attempts ≤ d.attempts + 1)
    (hopen : d'.Open → attempts + 1 < 10) :
    WebhookRight ⟨{ p.state with deliveries := p.state.deliveries.put d' },
      Function.update p.stage i (some .free)⟩ := by
  have hlive : webhookLeasing.Live p i d.id lease := ⟨q, hi, WebhookStage.held_eq hq, hlease⟩
  have hother {j k lease' : ℕ} (hji : j ≠ i) (hlive' : webhookLeasing.Live p j k lease') : k ≠ d'.id := by
    rw [hid]
    rintro rfl
    exact hji (h.leases.alone j i _ lease' lease hlive' hlive)
  obtain ⟨hle, hsame⟩ := (h.copies i q hi).of_copy hq hlease
  have heq := hsame d hd rfl
  have hlast := h.left d hd (h.open_of_live hlive hd)
  constructor
  case leases =>
    refine h.leases.restage rfl (fun j k lease' hji hlive' => ?_) ?_
    · exact standing_delivery_put_of_ne (hother hji hlive')
    · rintro _ _ _ ⟨⟩ hheld
      cases hheld
  case copies =>
    intro j q hj
    refine h.copies_update ?_ (fun j k lease' hji hlive' => ⟨?_, fun x hx hxid => ?_⟩) (fun q hq => ?_) hj
    · rfl
    · rfl
    · exact mem_of_mem_put_of_ne hx hxid (hother hji hlive')
    · obtain rfl := Option.some.inj hq
      trivial
  case bounded =>
    intro x hx
    obtain rfl | ⟨hx, _⟩ := mem_put.mp hx
    · rw [hid]
      exact ⟨by dsimp only; omega, by omega⟩
    · exact h.bounded x hx
  case left =>
    intro x hx hxopen
    obtain rfl | ⟨hx, _⟩ := mem_put.mp hx
    · have hten := hopen hxopen
      omega
    · exact h.left x hx hxopen

lemma WebhookRight.keeps (h : WebhookRight p) (hlive : webhookLeasing.Live p i d.id lease)
    (hid : d'.id = d.id) :
    KeepsDelivered p.state { p.state with deliveries := p.state.deliveries.put d' } := by
  intro x hx hstatus
  refine ⟨x, mem_put.mpr (Or.inr ⟨hx, fun hkey => ?_⟩), rfl, hstatus⟩
  rw [← hid, ← hkey] at hlive
  have hopen := h.open_of_live hlive hx
  simp [WebhookDelivery.Open, hstatus] at hopen

lemma KeepsDelivered.claim (hd : d ∈ s.deliveries) (hdue : d.due s.now = true) :
    KeepsDelivered s { s with deliveries := s.deliveries.put (d.claim lease) } := by
  intro x hx hstatus
  refine ⟨x, mem_put.mpr (Or.inr ⟨hx, fun hkey => ?_⟩), rfl, hstatus⟩
  obtain rfl := eq_of_key_eq hx hd hkey
  have hopen := (WebhookDelivery.due_iff hdue).1
  simp [WebhookDelivery.Open, hstatus] at hopen

lemma KeepsDelivered.of_eq (h : s'.deliveries = s.deliveries) : KeepsDelivered s s' := by
  intro x hx hstatus
  exact ⟨x, h ▸ hx, rfl, hstatus⟩

/-! ### Runs -/

lemma WebhookRight.outside (h : WebhookRight p) (henv : OutsideWebhooks p.state s') :
    WebhookRight { p with state := s' } := by
  constructor
  case leases =>
    refine h.leases.outside henv.clock fun k lease' hstanding => ?_
    dsimp only [webhookLeasing] at hstanding ⊢
    obtain ⟨r, hr, hlease'⟩ := Option.bind_eq_some_iff.mp hstanding
    obtain ⟨hmem, rfl⟩ := find?_eq_some.mp hr
    rw [find?_of_mem (henv.kept r hmem)]
    exact hlease'
  case copies =>
    intro j q hj
    refine (h.copies j q hj).transfer henv.clock fun k attempts lease hq hlease => ?_
    have hlive : webhookLeasing.Live p j k lease :=
      ⟨q, hj, WebhookStage.held_eq hq, henv.clock.trans_lt hlease⟩
    refine ⟨by dsimp only; rw [henv.requests], fun d hd hid => ?_⟩
    -- the row of a running lease stands in the table, so no new one has its key
    obtain ⟨r, hr, _⟩ := Option.bind_eq_some_iff.mp (h.leases.leased j k lease hlive)
    obtain ⟨hmem, hrid⟩ := find?_eq_some.mp hr
    obtain rfl := eq_of_key_eq hd (henv.kept r hmem) (hid.trans hrid.symm)
    exact hmem
  case bounded =>
    intro d hd
    dsimp only
    rw [henv.requests]
    obtain hd | ⟨_, hattempts, hnew⟩ := henv.added d hd
    · exact h.bounded d hd
    · rw [hattempts, List.count_eq_zero.mpr hnew]
      omega
  case left =>
    intro d hd hopen
    obtain hd | ⟨_, hattempts, _⟩ := henv.added d hd
    · exact h.left d hd hopen
    · omega

lemma WebhookRight.step {l : Option WebhookLabel} (h : WebhookRight p) (htime : InTime p.state l)
    (hstep : StagedStep WebhookMove .free OutsideWebhooks p l p') :
    WebhookRight p' ∧ KeepsDelivered p.state p'.state := by
  cases hstep with
  | starts _ => exact ⟨h.restage (Or.inr (Or.inl rfl)), .of_eq rfl⟩
  | ends => exact ⟨h.restage (Or.inl rfl), .of_eq rfl⟩
  | outside henv =>
    exact ⟨h.outside henv, fun x hx hstatus => ⟨x, henv.kept x hx, rfl, hstatus⟩⟩
  | steps hi hmove =>
    cases hmove with
    | looks => exact ⟨h.restage (Or.inr (Or.inr hi.symm)), .of_eq rfl⟩
    | claims hd hdue => exact ⟨h.claim hd hdue htime, .claim hd hdue⟩
    | sends => exact ⟨h.send hi htime, .of_eq rfl⟩
    | finishes hq hd hid hattempts hopen =>
      exact ⟨h.finish hi hq htime hd hid hattempts hopen, h.keeps ⟨_, hi, WebhookStage.held_eq hq, htime⟩ hid⟩

/-- One call of `sendWebhookDeliveries`. -/
def serveWebhooks (cfg : WebhookConfig) (_ : Unit) : Process WebhookLabel WorkerDb (Except String Unit) :=
  (sendWebhookDeliveries cfg).run

abbrev SendStep (cfg : WebhookConfig) := PoolStep (serveWebhooks cfg) OutsideWebhooks

abbrev WebhookPool := Pool WebhookLabel WorkerDb (Except String Unit)

abbrev WebhookAction := PoolAction Unit WebhookLabel (Except String Unit)

/-- Where every worker makes its request and writes the outcome while its lease runs, and claims no row
before all its requests are recorded, no row is attempted more than ten times, and a row that is delivered
stays so. -/
theorem webhook_attempts_le_ten {p q : WebhookPool} {as : List WebhookAction} (hidle : p.Idle)
    (hbounded : AttemptsBounded p.state) (hleft : AttemptsLeft p.state)
    (hrun : Run (Guarded (fun p a => InTime p.state a.label) (SendStep cfg)) p as q) :
    AttemptsBounded q.state ∧
      Run (fun p a p' => SendStep cfg p a p' ∧ KeepsDelivered p.state p'.state) p as q := by
  have hserve (r : Unit) : (serveWebhooks cfg r).Follows WebhookMove (fun _ _ => True) .free :=
    Process.Follows.mono (fun _ _ _ => trivial) sendWebhookDeliveries_obeys
  have hstart : p.Holds WebhookMove WebhookRight := by
    refine hidle.holds ⟨Leasing.exclusive_idle, ?_, hbounded, hleft⟩
    intro i q hq
    cases hq
  have hinvariant : ∀ p a p', Pool.Holds WebhookMove WebhookRight p →
      Guarded (fun p a => InTime p.state a.label) (SendStep cfg) p a p' →
      Pool.Holds WebhookMove WebhookRight p' :=
    fun _ _ _ h hstep => h.step hserve (fun _ _ _ hI hc hmove => (hI.step hc hmove).1) hstep
  obtain ⟨_, _, hend⟩ := hrun.invariant hinvariant hstart
  refine ⟨hend.bounded, ?_⟩
  refine (hrun.and_of_invariant hinvariant (P := fun p _ p' => KeepsDelivered p.state p'.state)
    (fun p a p' h hstep => ?_) hstart).mono fun _ _ _ h => ⟨h.1.2, h.2⟩
  exact h.moves hserve (fun _ _ _ hI hc hmove => (hI.step hc hmove).2) hstep

/-! A delivery to an endpoint that is down at times. -/

def hooksConfig : WebhookConfig where
  protectedEnvironment := false
  allowPrivate := true
  signingSecret := none
  isPlaceholder _ := false
  parseUrl _ := .ok ("https:", "hooks")
  lookupHost _ := .ok []
  isIP _ := 0
  decryptJson _ := .error "Unsupported state or unable to authenticate data"
  lowercase name := name

def hooksDb : WorkerDb where
  now := 0
  nextId := 10
  answer := .response 500 ""
  endpoints := Table.empty.put { id := 3, companyId := 1, url := "https://hooks", events := .arr [.str "*"] }
  deliveries := Table.empty.put
    { id := 1, endpointId := 3, eventId := some 2, eventType := "order.paid", payload := .obj [], createdAt := 0 }

def hooksPool : WebhookPool := ⟨hooksDb, fun _ => none⟩

inductive Reception
  | later (ms : ℕ)
  | answer (a : Answer)

def Reception.move : Reception → WorkerDb → WorkerDb
  | later ms, s => { s with now := s.now + ms }
  | answer a, s => { s with answer := a }

lemma reception_outside (m : Reception) (s : WorkerDb) : OutsideWebhooks s (m.move s) := by
  cases m with
  | later ms => exact ⟨Nat.le_add_right _ _, fun _ hd => hd, fun _ hd => .inl hd, rfl⟩
  | answer a => exact ⟨Nat.le_refl _, fun _ hd => hd, fun _ hd => .inl hd, rfl⟩

instance (s : WorkerDb) (l : Option WebhookLabel) : Decidable (InTime s l) := by
  unfold InTime
  split <;> infer_instance

lemma hooksDb_bounded : AttemptsBounded hooksDb ∧ AttemptsLeft hooksDb := by
  constructor
  · intro d hd
    obtain rfl | ⟨hd, _⟩ := mem_put.mp hd
    · decide
    · cases not_mem_empty d hd
  · intro d hd _
    obtain rfl | ⟨hd, _⟩ := mem_put.mp hd
    · decide
    · cases not_mem_empty d hd

theorem webhook_attempts_two :
    ∃ as q, Run (Guarded (fun p a => InTime p.state a.label) (SendStep hooksConfig)) hooksPool as q ∧
      q.state.deliveries.rows.map WebhookDelivery.status = [.delivered] ∧ q.state.requests = [1, 1] ∧
      AttemptsBounded q.state ∧
      Run (fun p a p' => SendStep hooksConfig p a p' ∧ KeepsDelivered p.state p'.state) hooksPool as q := by
  obtain ⟨as, q, hrun, hstatus, hrequests⟩ := Pool.exists_run_of_play
    (serveWebhooks hooksConfig) hooksPool reception_outside InTime
    ([.start 0 ()] ++ List.replicate 7 (.step 0) ++
      [.outside (.later 600000), .outside (.answer (.response 200 "ok")), .start 1 ()] ++
      List.replicate 7 (.step 1))
    (fun _ s => s.deliveries.rows.map WebhookDelivery.status = [.delivered] ∧ s.requests = [1, 1])
    (by decide +kernel)
  exact ⟨as, q, hrun, hstatus, hrequests,
    webhook_attempts_le_ten (fun _ => rfl) hooksDb_bounded.1 hooksDb_bounded.2 hrun⟩

def lateTurns (i : ℕ) : List (Pool.Turn Unit Reception) :=
  [.start i ()] ++ List.replicate 5 (.step i) ++ [.outside (.later 600000)]

/-- Ten workers die after their requests, of which nothing is recorded. The next one is slow: another one
takes the row over when its lease has run out and delivers it, and then the slow one puts it back to
`RETRY`. -/
theorem webhook_attempts_twelve :
    ∃ as q bs r, Run (SendStep hooksConfig) hooksPool as q ∧ Run (SendStep hooksConfig) q bs r ∧
      q.state.deliveries.rows.map WebhookDelivery.status = [.delivered] ∧
      r.state.deliveries.rows.map WebhookDelivery.status = [.retry] ∧
      r.state.requests.count 1 = 12 ∧ ¬ AttemptsBounded r.state := by
  obtain ⟨as, q, bs, r, hrun, hrun', hbefore, hafter, hcount, hrow⟩ := Pool.exists_runs_of_play
    (serveWebhooks hooksConfig) hooksPool reception_outside (fun _ _ => True)
    ((List.range 11).flatMap lateTurns ++ [.outside (.answer (.response 200 "ok")), .start 11 ()] ++
      List.replicate 7 (.step 11))
    [.outside (.answer (.unreachable "timeout")), .step 10, .step 10]
    (fun _ s t => s.deliveries.rows.map WebhookDelivery.status = [.delivered] ∧
      t.deliveries.rows.map WebhookDelivery.status = [.retry] ∧ t.requests.count 1 = 12 ∧
      t.deliveries.rows.map WebhookDelivery.id = [1]) (by decide +kernel)
  refine ⟨as, q, bs, r, hrun.of_guarded, hrun'.of_guarded, hbefore, hafter, hcount, fun hbounded => ?_⟩
  have hmem : 1 ∈ r.state.deliveries.rows.map WebhookDelivery.id := by simp [hrow]
  obtain ⟨d, hd, hid⟩ := mem_map.mp hmem
  have hle := (hbounded d hd).1
  rw [hid, hcount] at hle
  omega

end Mayatoko.Worker
