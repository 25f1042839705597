import Mayatoko.Auth.Steps

/-!
# Refresh tokens and sessions

A refresh token is exchanged at most once, and a session that was revoked stays so. A login creates its
session without looking at the password again, so a reset in between is overlooked; where the verified hash
is still that of the user when the session is created, a reset ends all sessions of the old password.
-/

namespace Mayatoko.Auth

open Core

def AuthLabel.exchanged : AuthLabel → Option ℕ
  | rotated _ old _ => some old
  | loggedIn _ _ _ | passwordReset _ | codeConsumed _ _ _ | other => none

def exchanges (ls : List (Option AuthLabel)) : List ℕ := ls.filterMap fun l => l.bind AuthLabel.exchanged

/-- The sessions and their tokens were drawn, no two of them the same. -/
structure SessionsDrawn (db : AuthDb) : Prop where
  ids : ∀ s ∈ db.sessions, s.id < db.nextSecret
  tokens : ∀ s ∈ db.sessions, s.refreshTokenHash < db.nextSecret
  unique : ∀ s ∈ db.sessions, ∀ t ∈ db.sessions, s.refreshTokenHash = t.refreshTokenHash → s.id = t.id

/-- Where a session comes from after a step with the label `l`. -/
inductive SessionCame (db : AuthDb) (l : Option AuthLabel) (db' : AuthDb) (s' : AuthSession) : Prop
  | kept {s : AuthSession} (hs : s ∈ db.sessions) (hmark : Marked s s')
      (hl : ∀ old new, l ≠ some (.rotated s.id old new))
  | opened {userId : ℕ} {h : PasswordHash} (hl : l = some (.loggedIn userId h s'.id))
      (hid : s'.id = db.nextSecret) (huser : s'.userId = userId)
      (htoken : s'.refreshTokenHash = db.nextSecret + 1) (hnext : db.nextSecret + 2 ≤ db'.nextSecret)
  | rotated {s : AuthSession} (hs : s ∈ db.sessions) (hopen : s.revokedAt = none)
      (hl : l = some (.rotated s.id s.refreshTokenHash s'.refreshTokenHash)) (hid : s'.id = s.id)
      (huser : s'.userId = s.userId) (htoken : s'.refreshTokenHash = db.nextSecret)
      (hnext : db.nextSecret + 1 ≤ db'.nextSecret)

variable {db db' : AuthDb} {l : Option AuthLabel}

lemma nextSecret_le (h : AuthStateStep db l db') : db.nextSecret ≤ db'.nextSecret := by
  cases h with
  | step h => cases h <;> simp
  | idle => exact le_refl _
  | outside h => cases h <;> simp

lemma SessionCame.of_markedIn {s' : AuthSession} (h : MarkedIn db.sessions db'.sessions)
    (hl : ∀ sid old new, l ≠ some (.rotated sid old new)) (hs' : s' ∈ db'.sessions) :
    SessionCame db l db' s' := by
  obtain ⟨s, hs, hmark⟩ := h s' hs'
  exact .kept hs hmark fun old new => hl s.id old new

lemma session_came (h : AuthStateStep db l db') {s' : AuthSession} (hs' : s' ∈ db'.sessions) :
    SessionCame db l db' s' := by
  cases h with
  | idle => exact .of_markedIn (MarkedIn.refl _) (by simp) hs'
  | outside h => cases h <;> exact .of_markedIn (MarkedIn.refl _) (by simp) hs'
  | step h =>
    cases h with
    | draws => exact .of_markedIn (MarkedIn.refl _) (by simp) hs'
    | logsIn hid huser htoken _ =>
      obtain rfl | ⟨hs, _⟩ := mem_put.mp (Table.mem_deleteMany.mp hs').1
      · exact .opened (by rw [hid]) hid huser htoken (le_refl _)
      · exact .kept hs (Marked.refl _) (by simp)
    | @rotates s t hs hopen hid huser htoken =>
      obtain rfl | ⟨hs', hne⟩ := mem_put.mp hs'
      · exact .rotated hs hopen (by rw [htoken]) hid huser htoken (le_refl _)
      · refine .kept hs' (Marked.refl _) fun old new hl => hne ?_
        rw [Option.some.injEq, AuthLabel.rotated.injEq] at hl
        rw [hid, ← hl.1]
    | marks hmarks => exact .of_markedIn hmarks (by simp) hs'
    | resets _ hmarks _ => exact .of_markedIn hmarks (by simp) hs'
    | consumes => exact .of_markedIn (MarkedIn.refl _) (by simp) hs'
    | changesFactor _ _ _ _ hmarks => exact .of_markedIn hmarks (by simp) hs'

lemma SessionCame.id_eq (hdrawn : SessionsDrawn db) {s' t' : AuthSession}
    (hs : SessionCame db l db' s') (ht : SessionCame db l db' t')
    (htok : s'.refreshTokenHash = t'.refreshTokenHash) : s'.id = t'.id := by
  cases hs with
  | kept hs hmark _ =>
    have hlt := hdrawn.tokens _ hs
    rw [← hmark.token, htok] at hlt
    cases ht with
    | kept ht hmark' _ =>
      rw [hmark.id, hmark'.id]
      exact hdrawn.unique _ hs _ ht (by rw [← hmark.token, ← hmark'.token, htok])
    | opened _ _ _ htoken _ => omega
    | rotated _ _ _ _ _ htoken _ => omega
  | opened hl _ _ htoken _ =>
    rw [htok] at htoken
    cases ht with
    | kept ht hmark' _ =>
      have hlt := hdrawn.tokens _ ht
      rw [← hmark'.token] at hlt
      omega
    | opened hl' _ _ _ _ =>
      rw [hl, Option.some.injEq, AuthLabel.loggedIn.injEq] at hl'
      exact hl'.2.2
    | rotated _ _ _ _ _ htoken' _ => omega
  | rotated _ _ hl hid _ htoken _ =>
    rw [htok] at htoken
    cases ht with
    | kept ht hmark' _ =>
      have hlt := hdrawn.tokens _ ht
      rw [← hmark'.token] at hlt
      omega
    | opened _ _ _ htoken' _ => omega
    | rotated _ _ hl' hid' _ _ _ =>
      rw [hl, Option.some.injEq, AuthLabel.rotated.injEq] at hl'
      rw [hid, hid', hl'.1]

lemma SessionsDrawn.step (hdrawn : SessionsDrawn db) (h : AuthStateStep db l db') : SessionsDrawn db' := by
  have hle := nextSecret_le h
  refine ⟨fun s' hs' => ?_, fun s' hs' => ?_, fun s' hs' t' ht' htok => ?_⟩
  · cases session_came h hs' with
    | kept hs hmark _ =>
      rw [hmark.id]
      exact (hdrawn.ids _ hs).trans_le hle
    | opened _ hid _ _ hnext => omega
    | rotated hs _ _ hid _ _ _ =>
      rw [hid]
      exact (hdrawn.ids _ hs).trans_le hle
  · cases session_came h hs' with
    | kept hs hmark _ =>
      rw [hmark.token]
      exact (hdrawn.tokens _ hs).trans_le hle
    | opened _ _ _ htoken hnext => omega
    | rotated _ _ _ _ _ htoken hnext => omega
  · exact (session_came h hs').id_eq hdrawn (session_came h ht') htok

variable {sid : ℕ}

lemma rotated_inv {old new : ℕ} (h : AuthStateStep db (some (.rotated sid old new)) db') :
    ∃ s ∈ db.sessions, s.id = sid ∧ s.refreshTokenHash = old ∧ s.revokedAt = none := by
  generalize hl : some (AuthLabel.rotated sid old new) = l at h
  cases h with
  | idle => cases hl
  | outside _ => cases hl
  | step h =>
    cases h with
    | @rotates s t hs hopen hid huser htoken =>
      rw [Option.some.injEq, AuthLabel.rotated.injEq] at hl
      exact ⟨s, hs, hl.1.symm, hl.2.1.symm, hopen⟩
    | draws | logsIn | marks | resets | consumes | changesFactor => cases hl

/-- No session has a token that was exchanged, and none was exchanged twice. -/
structure ExchangedOnce (past : List (Option AuthLabel)) (db : AuthDb) : Prop where
  drawn : SessionsDrawn db
  nodup : (exchanges past).Nodup
  gone : ∀ t ∈ exchanges past, t < db.nextSecret ∧ ∀ s ∈ db.sessions, s.refreshTokenHash ≠ t

lemma token_gone (h : AuthStateStep db l db') {t : ℕ} (ht : t < db.nextSecret)
    (hgone : ∀ s ∈ db.sessions, s.refreshTokenHash = t → ∃ new, l = some (.rotated s.id t new)) :
    ∀ s' ∈ db'.sessions, s'.refreshTokenHash ≠ t := by
  intro s' hs' htok
  cases session_came h hs' with
  | kept hs hmark hl =>
    obtain ⟨new, hrot⟩ := hgone _ hs (by rw [← hmark.token, htok])
    exact hl t new hrot
  | opened _ _ _ htoken _ => omega
  | rotated _ _ _ _ _ htoken _ => omega

variable {past : List (Option AuthLabel)}

lemma ExchangedOnce.step (hpast : ExchangedOnce past db)
    (h : AuthStateStep db l db') : ExchangedOnce (past ++ [l]) db' := by
  have hold : ∀ t ∈ exchanges past, t < db'.nextSecret ∧ ∀ s ∈ db'.sessions, s.refreshTokenHash ≠ t := by
    intro t ht
    obtain ⟨hlt, hgone⟩ := hpast.gone t ht
    refine ⟨hlt.trans_le (nextSecret_le h), token_gone h hlt fun s hs htok => ?_⟩
    exact absurd htok (hgone s hs)
  have hsplit : exchanges (past ++ [l]) = exchanges past ++ exchanges [l] := List.filterMap_append
  rcases l with _ | ⟨_ | ⟨sid, old, new⟩ | _ | _ | _⟩
  case some.rotated =>
    obtain ⟨s, hs, rfl, rfl, hopen⟩ := rotated_inv h
    have hfresh : s.refreshTokenHash ∉ exchanges past := fun hmem =>
      (hpast.gone _ hmem).2 s hs rfl
    have hlast : exchanges [some (.rotated s.id s.refreshTokenHash new)] = [s.refreshTokenHash] := rfl
    rw [hlast] at hsplit
    refine ⟨hpast.drawn.step h, ?_, fun t ht => ?_⟩
    · rw [hsplit]
      exact hpast.nodup.append (List.nodup_singleton _) (by simpa using hfresh)
    · rw [hsplit, mem_append, mem_singleton] at ht
      obtain ht | rfl := ht
      · exact hold t ht
      · have hlt := hpast.drawn.tokens s hs
        refine ⟨hlt.trans_le (nextSecret_le h), token_gone h hlt fun x hx htok => ?_⟩
        exact ⟨new, by rw [hpast.drawn.unique x hx s hs htok]⟩
  all_goals
    rw [show exchanges [_] = [] from rfl, append_nil] at hsplit
    exact ⟨hpast.drawn.step h, by rw [hsplit]; exact hpast.nodup, by rw [hsplit]; exact hold⟩

/-! ### Revoked sessions -/

/-- The session was drawn and is not open. -/
structure Closed (sid : ℕ) (db : AuthDb) : Prop where
  drawn : sid < db.nextSecret
  revoked : ∀ s ∈ db.sessions, s.id = sid → s.revokedAt ≠ none

lemma Closed.step (hclosed : Closed sid db) (h : AuthStateStep db l db') : Closed sid db' := by
  refine ⟨hclosed.drawn.trans_le (nextSecret_le h), fun s' hs' hid' hopen' => ?_⟩
  cases session_came h hs' with
  | kept hs hmark _ => exact hclosed.revoked _ hs (hmark.id.symm.trans hid') (hmark.revoked hopen')
  | opened _ hid _ _ _ =>
    have hlt := hclosed.drawn
    omega
  | rotated hs hopen _ hid _ _ _ => exact hclosed.revoked _ hs (hid.symm.trans hid') hopen

lemma Closed.not_rotated {old new : ℕ} (hclosed : Closed sid db)
    (h : AuthStateStep db l db') : l ≠ some (.rotated sid old new) := by
  rintro rfl
  obtain ⟨s, hs, hid, _, hopen⟩ := rotated_inv h
  exact hclosed.revoked s hs hid hopen

lemma Closed.run {ls : List (Option AuthLabel)} (hclosed : Closed sid db) (h : Run AuthStateStep db ls db') :
    Closed sid db' ∧ ∀ old new, some (.rotated sid old new) ∉ ls := by
  induction h with
  | nil => exact ⟨hclosed, fun _ _ => not_mem_nil⟩
  | cons hstep _ ih =>
    obtain ⟨hend, hrest⟩ := ih (hclosed.step hstep)
    refine ⟨hend, fun old new hmem => ?_⟩
    rcases mem_cons.mp hmem with heq | hmem
    · exact hclosed.not_rotated hstep heq.symm
    · exact hrest old new hmem

variable (c : AuthConfig)

/-- Every refresh token is exchanged at most once. A session that is revoked at some time stays revoked, and
no token of it is exchanged from then on. -/
theorem refresh_exchanges_once {p q r : Pool AuthLabel AuthDb (Except Failure AuthAnswer)}
    {as bs : List (PoolAction AuthRequest AuthLabel (Except Failure AuthAnswer))}
    (hidle : p.Idle) (hdrawn : SessionsDrawn p.state) (hq : Run (AuthServerStep c) p as q)
    (hr : Run (AuthServerStep c) q bs r) :
    (exchanges ((as ++ bs).map PoolAction.label)).Nodup ∧
      ∀ s ∈ q.state.sessions, s.revokedAt ≠ none →
        (∀ old new, some (.rotated s.id old new) ∉ bs.map PoolAction.label) ∧
          ∀ s' ∈ r.state.sessions, s'.id = s.id → s'.revokedAt ≠ none := by
  have hstate := Pool.run_state_of_run (process_steps c) hidle.steps hq
  have hlater := Pool.run_state_of_run (process_steps c) (Pool.Steps.run (process_steps c) hidle.steps hq) hr
  constructor
  · have hall := Run.append_iff.mpr ⟨_, hstate, hlater⟩
    have honce : ExchangedOnce [] p.state := ⟨hdrawn, List.nodup_nil, by simp [exchanges]⟩
    rw [map_append]
    exact (hall.invariant_past (fun _ _ _ _ hI hs => hI.step hs) honce).nodup
  · intro s hs hrevoked
    have hdrawn' := hstate.invariant (fun _ _ _ hI hstep => SessionsDrawn.step hI hstep) hdrawn
    have hclosed : Closed s.id q.state := by
      refine ⟨hdrawn'.ids s hs, fun t ht hid => ?_⟩
      rwa [eq_of_key_eq ht hs hid]
    obtain ⟨hend, hnot⟩ := hclosed.run hlater
    exact ⟨hnot, hend.revoked⟩

/-! A cashier who logs in. -/

def cashierHash : PasswordHash := { password := "lama", salt := 0 }

def cashier : User where
  id := 1
  email := "kasir@toko.id"
  passwordHash := cashierHash

def cashierDb : AuthDb where
  now := 0
  nextSecret := 3
  branches := Table.empty
  users := Table.empty.put cashier
  sessions := Table.empty
  resetTokens := Table.empty.put { id := 1, userId := 1, tokenHash := 2, expiresAt := 1000 }

def plainConfig : AuthConfig where
  hotp := fun _ _ => ""
  generateTotpSecret := toString
  encryptText := .ok
  decryptText := .ok
  hashRecoveryCode := String.length

def cashierPool : Pool AuthLabel AuthDb (Except Failure AuthAnswer) := ⟨cashierDb, fun _ => none⟩

def LoggedOut (ls : List (Option AuthLabel)) (db : AuthDb) : Prop :=
  exchanges ls = [4] ∧ ∃ s ∈ db.sessions.rows, s.id = 3 ∧ s.revokedAt ≠ none

instance (ls : List (Option AuthLabel)) (db : AuthDb) : Decidable (LoggedOut ls db) := by
  unfold LoggedOut
  infer_instance

lemma cashierDb_drawn : SessionsDrawn cashierDb :=
  ⟨by simp [cashierDb], by simp [cashierDb], by simp [cashierDb]⟩

theorem refresh_exchanges_once_cashier : ∃ as q, Run (AuthServerStep plainConfig) cashierPool as q ∧
      exchanges (as.map PoolAction.label) = [4] ∧ (exchanges (as.map PoolAction.label)).Nodup ∧
        ∃ s ∈ q.state.sessions, s.revokedAt ≠ none ∧
          ∀ s' ∈ q.state.sessions, s'.id = s.id → s'.revokedAt ≠ none := by
  obtain ⟨as, q, hrun, hexchanged, s, hs, hid, hrevoked⟩ := Pool.exists_run_of_play plainConfig.process
    cashierPool clock_moves (fun _ _ => True)
    [.start 0 (.login "kasir@toko.id" "lama" ""), .step 0, .step 0, .step 0,
      .start 1 (.refresh 4), .start 2 (.refresh 4), .step 1, .step 2, .step 1, .step 2, .step 1, .step 1,
      .step 2, .step 2, .answer 1, .answer 2, .start 3 (.logout { sub := 1, sid := some 3 }), .step 3, .step 3]
    LoggedOut (by decide +kernel)
  obtain ⟨honce, hclosed⟩ := refresh_exchanges_once plainConfig (fun _ => rfl) cashierDb_drawn
    hrun.of_guarded (Run.nil q)
  rw [append_nil] at honce
  exact ⟨as, q, hrun.of_guarded, hexchanged, honce, s, hs, hrevoked, (hclosed s hs hrevoked).2⟩

/-! ### Logins and password resets -/

/-- Where a user comes from after a step with the label `l`. -/
inductive UserCame (db : AuthDb) (l : Option AuthLabel) (db' : AuthDb) (u' : User) : Prop
  | kept {u : User} (hu : u ∈ db.users) (hid : u'.id = u.id)
      (hhash : u'.passwordHash = u.passwordHash) (hl : l ≠ some (.passwordReset u.id))
  | salted (hsalt : u'.passwordHash.salt = db.nextSecret) (hnext : db.nextSecret < db'.nextSecret)

lemma user_came (h : AuthStateStep db l db') {u' : User} (hu' : u' ∈ db'.users) : UserCame db l db' u' := by
  cases h with
  | idle => exact .kept hu' rfl rfl (by simp)
  | outside h =>
    cases h with
    | clock | branches => exact .kept hu' rfl rfl (by simp)
    | createUser _ =>
      obtain rfl | ⟨hu', _⟩ := mem_put.mp hu'
      · exact .salted rfl (Nat.lt_succ_self _)
      · exact .kept hu' rfl rfl (by simp)
    | setUserRoles hu | setUserStatus hu =>
      obtain rfl | ⟨hu', _⟩ := mem_put.mp hu'
      · exact .kept hu rfl rfl (by simp)
      · exact .kept hu' rfl rfl (by simp)
  | step h =>
    cases h with
    | draws | logsIn | rotates | marks => exact .kept hu' rfl rfl (by simp)
    | resets hu _ _ =>
      obtain rfl | ⟨hu', hne⟩ := mem_put.mp hu'
      · exact .salted rfl (Nat.lt_succ_self _)
      · refine .kept hu' rfl rfl fun hl => hne ?_
        rw [Option.some.injEq, AuthLabel.passwordReset.injEq] at hl
        exact hl.symm
    | consumes hu _ =>
      obtain rfl | ⟨hu', _⟩ := mem_put.mp hu'
      · exact .kept hu rfl rfl (by simp)
      · exact .kept hu' rfl rfl (by simp)
    | changesFactor hu hid hhash _ _ =>
      obtain rfl | ⟨hu', _⟩ := mem_put.mp hu'
      · exact .kept hu hid hhash (by simp)
      · exact .kept hu' rfl rfl (by simp)

lemma user_stays (h : AuthStateStep db l db') {u : User} (hu : u ∈ db.users)
    (hl : l ≠ some (.passwordReset u.id)) :
    ∃ u' ∈ db'.users, u'.id = u.id ∧ u'.passwordHash = u.passwordHash := by
  have hput (t : User) (ht : t.id = u.id → t.passwordHash = u.passwordHash) :
      ∃ u' ∈ db.users.put t, u'.id = u.id ∧ u'.passwordHash = u.passwordHash := by
    by_cases hid : t.id = u.id
    · exact ⟨t, mem_put_self _ t, hid, ht hid⟩
    · exact ⟨u, mem_put.mpr (Or.inr ⟨hu, fun h => hid h.symm⟩), rfl, rfl⟩
  cases h with
  | idle => exact ⟨u, hu, rfl, rfl⟩
  | outside h =>
    cases h with
    | clock | branches => exact ⟨u, hu, rfl, rfl⟩
    | createUser hnew => exact hput _ fun hid => absurd hid.symm (hnew u hu).1
    | setUserRoles ht | setUserStatus ht =>
      refine hput _ fun hid => ?_
      rw [eq_of_key_eq hu ht hid.symm]
  | step h =>
    cases h with
    | draws | logsIn | rotates | marks => exact ⟨u, hu, rfl, rfl⟩
    | resets ht _ _ => exact hput _ fun hid => absurd (by rw [← hid]) hl
    | consumes ht _ =>
      refine hput _ fun hid => ?_
      rw [eq_of_key_eq hu ht hid.symm]
    | changesFactor ht hid hhash _ _ =>
      refine hput _ fun hid' => ?_
      rw [hhash, eq_of_key_eq hu ht (hid'.symm.trans hid)]

variable {userId : ℕ}

lemma loggedIn_inv {h : PasswordHash} (hstep : AuthStateStep db (some (.loggedIn userId h sid)) db') :
    sid = db.nextSecret ∧ db.nextSecret < db'.nextSecret := by
  generalize hl : some (AuthLabel.loggedIn userId h sid) = l at hstep
  cases hstep with
  | idle => cases hl
  | outside _ => cases hl
  | step h =>
    cases h with
    | logsIn =>
      rw [Option.some.injEq, AuthLabel.loggedIn.injEq] at hl
      exact ⟨hl.2.2, Nat.lt_add_of_pos_right Nat.two_pos⟩
    | draws | rotates | marks | resets | consumes | changesFactor => cases hl

lemma passwordReset_inv (h : AuthStateStep db (some (.passwordReset userId)) db') :
    (∀ s ∈ db'.sessions, s.userId = userId → s.revokedAt ≠ none) ∧
      ∀ u ∈ db'.users, u.id = userId → u.passwordHash.salt = db.nextSecret := by
  generalize hl : some (AuthLabel.passwordReset userId) = l at h
  cases h with
  | idle => cases hl
  | outside _ => cases hl
  | step h =>
    cases h with
    | resets hu _ hrevoked =>
      rw [Option.some.injEq, AuthLabel.passwordReset.injEq] at hl
      subst hl
      refine ⟨hrevoked, fun u hu' hid => ?_⟩
      obtain rfl | ⟨_, hne⟩ := mem_put.mp hu'
      · rfl
      · exact absurd hid hne
    | draws | logsIn | rotates | marks | consumes | changesFactor => cases hl

/-- The condition on a login: when its session is created, the user still has the hash that the login has
verified. -/
def StillVerified (db : AuthDb) : Option AuthLabel → Prop
  | some (.loggedIn userId h _) => ∃ u ∈ db.users, u.id = userId ∧ u.passwordHash = h
  | _ => True

structure LoginsCurrent (past : List (Option AuthLabel)) (db : AuthDb) : Prop where
  drawn : ∀ s ∈ db.sessions, s.id < db.nextSecret
  created : ∀ userId h sid, some (.loggedIn userId h sid) ∈ past → sid < db.nextSecret
  current : ∀ userId h sid, some (.loggedIn userId h sid) ∈ past →
    ∀ s ∈ db.sessions, s.id = sid → s.revokedAt = none →
      s.userId = userId ∧ ∃ u ∈ db.users, u.id = userId ∧ u.passwordHash = h

lemma owner_stays (h : AuthStateStep db l db') {s' : AuthSession} (hs' : s' ∈ db'.sessions)
    (hopen' : s'.revokedAt = none) {hash : PasswordHash}
    (huser : ∃ u ∈ db.users, u.id = s'.userId ∧ u.passwordHash = hash) :
    ∃ u ∈ db'.users, u.id = s'.userId ∧ u.passwordHash = hash := by
  obtain ⟨u, hu, hid, rfl⟩ := huser
  rw [← hid]
  refine user_stays h hu ?_
  rintro rfl
  exact (passwordReset_inv h).1 s' hs' hid.symm hopen'

lemma LoginsCurrent.step (hpast : LoginsCurrent past db)
    (hverified : StillVerified db l) (h : AuthStateStep db l db') :
    LoginsCurrent (past ++ [l]) db' := by
  have hle := nextSecret_le h
  refine ⟨fun s' hs' => ?_, fun userId hash sid hmem => ?_, fun userId hash sid hmem s' hs' hid' hopen' => ?_⟩
  · cases session_came h hs' with
    | kept hs hmark _ =>
      rw [hmark.id]
      exact (hpast.drawn _ hs).trans_le hle
    | opened _ hid _ _ hnext => omega
    | rotated hs _ _ hid _ _ _ =>
      rw [hid]
      exact (hpast.drawn _ hs).trans_le hle
  · rcases mem_append.mp hmem with hmem | hlast
    · exact (hpast.created userId hash sid hmem).trans_le hle
    · obtain rfl := mem_singleton.mp hlast
      obtain ⟨rfl, hlt⟩ := loggedIn_inv h
      exact hlt
  · -- The session of the login was there before the step, or the login is the step.
    have hold : ∀ s ∈ db.sessions, s.id = s'.id → s.userId = s'.userId → s.revokedAt = none →
        s'.userId = userId ∧ ∃ u ∈ db'.users, u.id = userId ∧ u.passwordHash = hash := by
      intro s hs hid howner hopen
      rcases mem_append.mp hmem with hmem | hlast
      · obtain ⟨hsame, huser⟩ := hpast.current userId hash sid hmem s hs (hid.trans hid') hopen
        have howner' : s'.userId = userId := howner.symm.trans hsame
        rw [← howner'] at huser ⊢
        exact ⟨rfl, owner_stays h hs' hopen' huser⟩
      · obtain rfl := mem_singleton.mp hlast
        have hlt := hpast.drawn s hs
        rw [hid, hid', (loggedIn_inv h).1] at hlt
        exact absurd hlt (lt_irrefl _)
    cases session_came h hs' with
    | kept hs hmark _ => exact hold _ hs hmark.id.symm hmark.userId.symm (hmark.revoked hopen')
    | rotated hs hopen _ hid huser _ _ => exact hold _ hs hid.symm huser.symm hopen
    | opened hl hid huser _ _ =>
      rcases mem_append.mp hmem with hmem | hlast
      · have hlt := hpast.created userId hash sid hmem
        omega
      · obtain rfl := mem_singleton.mp hlast
        rw [Option.some.injEq, AuthLabel.loggedIn.injEq] at hl
        obtain ⟨rfl, -, -⟩ := hl
        rw [← huser] at hverified ⊢
        exact ⟨rfl, owner_stays h hs' hopen' hverified⟩

def SaltsDrawn (db : AuthDb) : Prop := ∀ u ∈ db.users, u.passwordHash.salt < db.nextSecret

lemma SaltsDrawn.step (hdrawn : SaltsDrawn db) (h : AuthStateStep db l db') : SaltsDrawn db' := by
  intro u' hu'
  cases user_came h hu' with
  | kept hu _ hhash _ =>
    rw [hhash]
    exact (hdrawn _ hu).trans_le (nextSecret_le h)
  | salted hsalt hnext =>
    rw [hsalt]
    exact hnext

/-- The user has none of the hashes from before `n` values were drawn, once it was reset. -/
structure HashReplaced (userId n : ℕ) (past : List (Option AuthLabel)) (db : AuthDb) : Prop where
  next : n ≤ db.nextSecret
  salts : some (.passwordReset userId) ∈ past → ∀ u ∈ db.users, u.id = userId → n ≤ u.passwordHash.salt

lemma HashReplaced.step {n : ℕ} (hpast : HashReplaced userId n past db) (h : AuthStateStep db l db') :
    HashReplaced userId n (past ++ [l]) db' := by
  refine ⟨hpast.next.trans (nextSecret_le h), fun hmem u' hu' hid' => ?_⟩
  cases user_came h hu' with
  | kept hu hid hhash hl =>
    rcases mem_append.mp hmem with hmem | hlast
    · rw [hhash]
      exact hpast.salts hmem _ hu (hid.symm.trans hid')
    · obtain rfl := mem_singleton.mp hlast
      rw [← hid', hid] at hl
      exact absurd rfl hl
  | salted hsalt _ =>
    rw [hsalt]
    exact hpast.next

/-- The steps of the server of which those that create a session meet `StillVerified`. -/
abbrev VerifiedStep := Guarded (fun p a => StillVerified p.state a.label) (AuthServerStep c)

/-- Where the hash that a login has verified is still that of the user when its session is created, all
sessions of logins with the hash that a user had before a reset are revoked after it. -/
theorem reset_ends_logins {p q r : Pool AuthLabel AuthDb (Except Failure AuthAnswer)}
    {as bs : List (PoolAction AuthRequest AuthLabel (Except Failure AuthAnswer))}
    (hidle : p.Idle) (hdrawn : SessionsDrawn p.state) (hsalts : SaltsDrawn p.state)
    (hq : Run (VerifiedStep c) p as q) (hr : Run (VerifiedStep c) q bs r) {u : User}
    (hu : u ∈ q.state.users) (hreset : some (.passwordReset u.id) ∈ bs.map PoolAction.label) {sid : ℕ}
    (hlogin : some (.loggedIn u.id u.passwordHash sid) ∈ (as ++ bs).map PoolAction.label) :
    ∀ s ∈ r.state.sessions, s.id = sid → s.revokedAt ≠ none := by
  have hbefore := Pool.run_state (process_steps c) hidle.steps hq
  have hafter := Pool.run_state (process_steps c)
    (Pool.Steps.run (process_steps c) hidle.steps hq.of_guarded) hr
  have hcurrent : LoginsCurrent [] p.state := ⟨hdrawn.ids, by simp, by simp⟩
  have hall := (Run.append_iff.mpr ⟨_, hbefore, hafter⟩).invariant_past
    (fun _ _ _ _ hI hs => hI.step hs.1 hs.2) hcurrent
  have hmid := hbefore.invariant (I := SaltsDrawn) (fun _ _ _ hI hs => hI.step hs.2) hsalts
  have hstart : HashReplaced u.id q.state.nextSecret [] q.state := ⟨le_refl _, by simp⟩
  have hreplaced := hafter.invariant_past (fun _ _ _ _ hI hs => hI.step hs.2) hstart
  intro s hs hid hopen
  rw [map_append] at hlogin
  obtain ⟨_, u', hu', hid', hhash⟩ := hall.current _ _ _ hlogin s hs hid hopen
  have hnew := hreplaced.salts hreset u' hu' hid'
  have hold := hmid u hu
  rw [hhash] at hnew
  omega

def OldLogin (sid : ℕ) (isOpen : Bool) (ls : List (Option AuthLabel)) (db : AuthDb) : Prop :=
  some (.passwordReset 1) ∈ ls ∧ some (.loggedIn 1 cashierHash sid) ∈ ls ∧
    ∃ s ∈ db.sessions.rows, s.id = sid ∧ s.revokedAt.isNone = isOpen

instance (sid : ℕ) (isOpen : Bool) (ls : List (Option AuthLabel)) (db : AuthDb) :
    Decidable (OldLogin sid isOpen ls db) := by
  unfold OldLogin
  infer_instance

instance (db : AuthDb) (l : Option AuthLabel) : Decidable (StillVerified db l) :=
  match l with
  | some (.loggedIn userId h _) =>
    inferInstanceAs (Decidable (∃ u ∈ db.users.rows, u.id = userId ∧ u.passwordHash = h))
  | some (.rotated _ _ _) | some (.passwordReset _) | some (.codeConsumed _ _ _) | some .other | none =>
    isTrue trivial

theorem reset_ends_logins_cashier : ∃ bs r, Run (VerifiedStep plainConfig) cashierPool bs r ∧
      some (.loggedIn 1 cashierHash 3) ∈ bs.map PoolAction.label ∧
      ∀ s ∈ r.state.sessions, s.id = 3 → s.revokedAt ≠ none := by
  obtain ⟨bs, r, hrun, hreset, hlogin, -⟩ := Pool.exists_run_of_play plainConfig.process
    cashierPool clock_moves StillVerified
    [.start 0 (.login "kasir@toko.id" "lama" ""), .step 0, .step 0, .step 0,
      .start 1 (.confirmPasswordReset 2 "baru"), .step 1, .step 1, .step 1]
    (OldLogin 3 false) (by decide +kernel)
  have hsalts : SaltsDrawn cashierDb := by
    simp [SaltsDrawn, cashierDb, cashier, cashierHash, mem_put]
  refine ⟨bs, r, hrun, hlogin, ?_⟩
  exact reset_ends_logins plainConfig (fun _ => rfl) cashierDb_drawn hsalts (Run.nil cashierPool) hrun
    (u := cashier) (mem_put_self _ _) hreset hlogin

/-- The reset comes between the check of the password and the creation of the session. -/
theorem login_overtaken : ∃ bs r, Run (AuthServerStep plainConfig) cashierPool bs r ∧
      OldLogin 4 true (bs.map PoolAction.label) r.state := by
  obtain ⟨bs, r, hrun, hopen⟩ := Pool.exists_run_of_play plainConfig.process
    cashierPool clock_moves (fun _ _ => True)
    [.start 0 (.login "kasir@toko.id" "lama" ""), .step 0,
      .start 1 (.confirmPasswordReset 2 "baru"), .step 1, .step 1, .step 1, .step 0, .step 0]
    (OldLogin 4 true) (by decide +kernel)
  exact ⟨bs, r, hrun.of_guarded, hopen⟩

end Mayatoko.Auth
