import Mayatoko.Auth.Service

/-!
# What a step of a request can write

`AuthStep` lists the writes of all requests; every step of every request is one of them.
-/

namespace Mayatoko.Auth

open Core

/-- A change of a session that keeps its owner and its token and never opens it again. -/
structure Marked (s s' : AuthSession) : Prop where
  id : s'.id = s.id
  userId : s'.userId = s.userId
  token : s'.refreshTokenHash = s.refreshTokenHash
  revoked : s'.revokedAt = none → s.revokedAt = none

lemma Marked.refl (s : AuthSession) : Marked s s := ⟨rfl, rfl, rfl, fun h => h⟩

def MarkedIn (t t' : Table AuthSession.id) : Prop := ∀ s' ∈ t', ∃ s ∈ t, Marked s s'

lemma MarkedIn.refl (t : Table AuthSession.id) : MarkedIn t t := fun s hs => ⟨s, hs, Marked.refl s⟩

variable {p : AuthSession → Bool} {g : AuthSession → AuthSession}

lemma markedIn_updateMany {t : Table AuthSession.id} {hg} (h : ∀ s, p s = true → Marked s (g s)) :
    MarkedIn t (t.updateMany p g hg).1 := by
  intro s' hs'
  obtain ⟨s, hs, rfl⟩ := (Table.mem_updateMany (g := g) hg).mp hs'
  refine ⟨s, hs, ?_⟩
  split
  next hp => exact h s hp
  next => exact Marked.refl s

inductive AuthStep (db : AuthDb) : AuthLabel → AuthDb → Prop
  /-- Values are drawn, reset tokens written. -/
  | draws {n : ℕ} {t : Table PasswordResetToken.id} :
      AuthStep db .other { db with nextSecret := db.nextSecret + n, resetTokens := t }
  | logsIn {user : User} {s : AuthSession} {p : AuthSession → Bool} (hid : s.id = db.nextSecret)
      (huser : s.userId = user.id) (htoken : s.refreshTokenHash = db.nextSecret + 1)
      (hopen : s.revokedAt = none) :
      AuthStep db (.loggedIn user.id user.passwordHash db.nextSecret) { db with
        nextSecret := db.nextSecret + 2
        sessions := (db.sessions.put s).deleteMany p }
  | rotates {s s' : AuthSession} (hs : s ∈ db.sessions) (hopen : s.revokedAt = none)
      (hid : s'.id = s.id) (huser : s'.userId = s.userId) (htoken : s'.refreshTokenHash = db.nextSecret) :
      AuthStep db (.rotated s.id s.refreshTokenHash db.nextSecret) { db with
        nextSecret := db.nextSecret + 1
        sessions := db.sessions.put s' }
  | marks {t : Table AuthSession.id} (h : MarkedIn db.sessions t) :
      AuthStep db .other { db with sessions := t }
  | resets {u : User} {password : String} {t : Table AuthSession.id}
      {t' : Table PasswordResetToken.id} (hu : u ∈ db.users) (hmarks : MarkedIn db.sessions t)
      (hrevoked : ∀ s ∈ t, s.userId = u.id → s.revokedAt ≠ none) :
      AuthStep db (.passwordReset u.id) { db with
        nextSecret := db.nextSecret + 1
        users := db.users.put
          { u with passwordHash := { password := password, salt := db.nextSecret } }
        sessions := t
        resetTokens := t' }
  | consumes {u : User} {stored : List ℕ} {code : ℕ} (hu : u ∈ db.users) (hcode : code ∈ stored) :
      AuthStep db (.codeConsumed u.id stored code) { db with
        users := db.users.put { u with twoFactorRecoveryCodes := stored.erase code } }
  /-- The second factor of a user is changed; its recovery codes are kept, removed or new. -/
  | changesFactor {u u' : User} {n m : ℕ} {t : Table AuthSession.id} (hu : u ∈ db.users)
      (hid : u'.id = u.id) (hhash : u'.passwordHash = u.passwordHash)
      (hcodes : u'.twoFactorRecoveryCodes = u.twoFactorRecoveryCodes ∨
        u'.twoFactorRecoveryCodes = List.range' db.nextSecret m ∧ m ≤ n)
      (hmarks : MarkedIn db.sessions t) :
      AuthStep db .other { db with
        nextSecret := db.nextSecret + n
        users := db.users.put u'
        sessions := t }

namespace AuthStep

lemma refl (db : AuthDb) : AuthStep db .other db := draws (n := 0) (t := db.resetTokens)

end AuthStep

/-- All steps of a service are steps of `AuthStep`. -/
abbrev Safe {α : Type} (x : AuthService α) : Prop := Does AuthStep x

variable {α : Type} {db db' : AuthDb}

lemma safe_lookup {f : AuthDb → α} : Safe (lookup .other f) :=
  does_lookup AuthStep.refl

lemma safe_readNow : Safe readNow := safe_lookup

lemma safe_write {x : AuthTx α} (h : ∀ db a db', Commits x db a db' → AuthStep db .other db') :
    Safe (write x) :=
  does_atomically h fun db _ => AuthStep.refl db

/-! ### The transactions -/

variable {expiresAt : ℤ}

lemma openSession_step {user : User} {r : ℕ × ℕ}
    (h : Commits (AuthConfig.openSession user expiresAt) db r db') :
    AuthStep db (AuthConfig.openedLabel user (.ok r)) db' := by
  simp only [AuthConfig.openSession, commits_bind, commits_draw, commits_get, commits_pure,
    TableOf.commits_create, TableOf.commits_deleteMany] at h
  obtain ⟨_, _, ⟨rfl, rfl⟩, _, _, ⟨rfl, rfl⟩, _, _, ⟨rfl, rfl⟩, _, _, ⟨_, rfl⟩, _, _, rfl, rfl, rfl⟩ := h
  exact AuthStep.logsIn rfl rfl rfl rfl

variable {now : ℤ}

lemma rotate_step {session : AuthSession} {tokenHash : ℕ} {r : Option ℕ}
    (h : Commits (AuthConfig.rotate session tokenHash now expiresAt) db r db') :
    AuthStep db (AuthConfig.rotatedLabel session tokenHash (.ok r)) db' := by
  simp only [AuthConfig.rotate, commits_bind, commits_draw, commits_pure, TableOf.commits_updateMany] at h
  obtain ⟨_, _, ⟨rfl, rfl⟩, _, _, ⟨rfl, rfl⟩, rfl, rfl⟩ := h
  split
  next hone =>
    obtain ⟨s, hs, hp, hput⟩ := Table.updateMany_one hone
    simp only [cond_iff] at hp
    obtain ⟨⟨⟨⟨hid, _⟩, htoken⟩, hopen⟩, _⟩ := hp
    rw [hput, AuthConfig.rotatedLabel, ← hid, ← htoken]
    exact AuthStep.rotates hs hopen rfl rfl rfl
  next hne =>
    have hsame := Table.updateMany_eq_self (k := session.id) (fun r hr => by
      simp only [cond_iff] at hr
      exact hr.1.1.1.1) hne
    rw [hsame]
    exact AuthStep.draws (n := 1) (t := db.resetTokens)

variable {reason : String}

lemma marked_revoke (s : AuthSession) (h : (p s && decide (s.revokedAt = none)) = true) :
    Marked s { s with revokedAt := some now, revokeReason := some reason } := by
  rw [Bool.and_eq_true, decide_eq_true_eq] at h
  exact ⟨rfl, rfl, rfl, fun _ => h.2⟩

lemma revoke_commits {n : ℕ} (h : Commits (AuthConfig.revoke p now reason) db n db') :
    ∃ t, db' = { db with sessions := t } ∧ MarkedIn db.sessions t := by
  obtain ⟨_, rfl⟩ := TableOf.commits_updateMany.mp h
  exact ⟨_, rfl, markedIn_updateMany marked_revoke⟩

variable {userId : ℕ}

lemma revoke_user {n : ℕ} (h : Commits (AuthConfig.revoke (fun s => s.userId = userId) now reason) db n db') :
    ∀ s ∈ db'.sessions, s.userId = userId → s.revokedAt ≠ none := by
  obtain ⟨_, rfl⟩ := TableOf.commits_updateMany.mp h
  intro s' hs' huser
  obtain ⟨s, hs, rfl⟩ := (Table.mem_updateMany
    (g := fun s : AuthSession => { s with revokedAt := some now, revokeReason := some reason })
    fun _ => rfl).mp hs'
  have howner : s.userId = userId := by
    split at huser
    · exact huser
    · exact huser
  split
  next => simp
  next hopen => simpa [howner] using hopen

lemma revoke_step {n : ℕ} (h : Commits (AuthConfig.revoke p now reason) db n db') : AuthStep db .other db' := by
  obtain ⟨_, rfl, hmarks⟩ := revoke_commits h
  exact AuthStep.marks hmarks

lemma mark_step {hg} {n : ℕ} (hmark : ∀ s, Marked s (g s))
    (h : Commits (AuthDb.authSession.updateMany p g hg : AuthTx ℕ) db n db') :
    AuthStep db .other db' := by
  obtain ⟨_, rfl⟩ := TableOf.commits_updateMany.mp h
  exact AuthStep.marks (markedIn_updateMany fun s _ => hmark s)

lemma createResetToken_step {user : User} {token : ℕ}
    (h : Commits (AuthConfig.createResetToken user expiresAt) db token db') :
    AuthStep db .other db' := by
  simp only [AuthConfig.createResetToken, commits_bind, commits_draw, commits_pure,
    TableOf.commits_create, TableOf.commits_deleteMany] at h
  obtain ⟨_, _, ⟨rfl, rfl⟩, _, _, ⟨rfl, rfl⟩, _, _, rfl, _, _, ⟨_, rfl⟩, rfl, rfl⟩ := h
  exact AuthStep.draws (n := 2)

variable {reset : PasswordResetToken} {newPassword : String}

lemma applyReset_step
    {t : Table PasswordResetToken.id} {u : Unit}
    (h : Commits (AuthConfig.applyReset reset newPassword now) { db with resetTokens := t } u db') :
    AuthStep db (.passwordReset reset.userId) db' := by
  simp only [AuthConfig.applyReset, commits_bind, commits_draw, commits_pure] at h
  obtain ⟨_, _, ⟨rfl, rfl⟩, _, _, hupdate, _, _, hrevoke, _, _, htokens, _, rfl⟩ := h
  obtain ⟨user, huser, _, rfl⟩ := TableOf.commits_update.mp hupdate
  obtain ⟨hu, hid⟩ := find?_eq_some.mp huser
  have hclosed := revoke_user hrevoke
  obtain ⟨sessions, rfl, hmarks⟩ := revoke_commits hrevoke
  obtain ⟨_, rfl⟩ := TableOf.commits_updateMany.mp htokens
  rw [← hid] at hclosed ⊢
  exact AuthStep.resets hu hmarks hclosed

lemma completeReset_step {r : Bool} (h : Commits (AuthConfig.completeReset reset newPassword now) db r db') :
    AuthStep db (AuthConfig.resetLabel reset (.ok r)) db' := by
  simp only [AuthConfig.completeReset, commits_bind, commits_ite, commits_pure, TableOf.commits_updateMany] at h
  obtain ⟨_, _, ⟨rfl, rfl⟩, ⟨_, rfl, rfl⟩ | ⟨_, _, _, happly, rfl, rfl⟩⟩ := h
  · exact AuthStep.draws (n := 0)
  · exact applyReset_step happly

lemma takeRecoveryCode_step {code : ℕ} {hashes : List ℕ} {u : User} (hcode : code ∈ hashes)
    (h : Commits (AuthDb.user.update userId
      (fun u => { u with twoFactorRecoveryCodes := hashes.erase code }) .recordNotFound : AuthTx User)
      db u db') :
    AuthStep db (.codeConsumed userId hashes code) db' := by
  obtain ⟨user, huser, _, rfl⟩ := TableOf.commits_update.mp h
  obtain ⟨hu, rfl⟩ := find?_eq_some.mp huser
  exact AuthStep.consumes hu hcode

lemma storePendingSecret_step {c : AuthConfig} {secret : String}
    (h : Commits (c.storePendingSecret userId) db secret db') : AuthStep db .other db' := by
  simp only [AuthConfig.storePendingSecret, commits_bind, commits_draw, commits_pure, commits_ofExcept] at h
  obtain ⟨_, _, ⟨rfl, rfl⟩, _, _, ⟨_, rfl⟩, _, _, hupdate, _, rfl⟩ := h
  obtain ⟨user, huser, _, rfl⟩ := TableOf.commits_update.mp hupdate
  obtain ⟨hu, -⟩ := find?_eq_some.mp huser
  exact AuthStep.changesFactor (m := 0) hu rfl rfl (Or.inl rfl) (MarkedIn.refl db.sessions)

lemma issueRecoveryCodes_step {f : User → User} {codes : List ℕ}
    (hf : ∀ u, (f u).id = u.id ∧ (f u).passwordHash = u.passwordHash)
    (h : Commits (AuthConfig.issueRecoveryCodes userId f) db codes db') :
    AuthStep db .other db' := by
  simp only [AuthConfig.issueRecoveryCodes, commits_bind, commits_generateRecoveryCodes, commits_pure] at h
  obtain ⟨_, _, ⟨rfl, rfl⟩, _, _, hupdate, rfl, rfl⟩ := h
  obtain ⟨user, huser, _, rfl⟩ := TableOf.commits_update.mp hupdate
  obtain ⟨hu, -⟩ := find?_eq_some.mp huser
  exact AuthStep.changesFactor hu (hf user).1 (hf user).2 (Or.inr ⟨rfl, le_refl 10⟩) (MarkedIn.refl db.sessions)

lemma clearTwoFactor_step {user : AuthUser} {u : Unit}
    (h : Commits (AuthConfig.clearTwoFactor user now) db u db') : AuthStep db .other db' := by
  simp only [AuthConfig.clearTwoFactor, commits_steps] at h
  obtain ⟨_, _, hupdate, _, _, hrevoke, _, rfl⟩ := h
  obtain ⟨account, haccount, _, rfl⟩ := TableOf.commits_update.mp hupdate
  obtain ⟨hu, -⟩ := find?_eq_some.mp haccount
  obtain ⟨_, rfl, hmarks⟩ := revoke_commits hrevoke
  exact AuthStep.changesFactor (n := 0) (m := 0) hu rfl rfl (Or.inr ⟨rfl, le_refl 0⟩) hmarks

/-! ### The requests -/

section

open AuthConfig

variable (c : AuthConfig)

lemma safe_takeRecoveryCode {userId code : ℕ} {hashes : List ℕ} (hcode : code ∈ hashes) :
    Safe (takeRecoveryCode userId hashes code) := by
  refine does_atomically (fun db accepted db' h => ?_) fun db _ => AuthStep.refl db
  obtain ⟨_, hupdate, _⟩ := commits_bind_pure.mp h
  exact takeRecoveryCode_step hcode hupdate

lemma safe_consumeRecoveryCode (userId : ℕ) (code : String) : Safe (c.consumeRecoveryCode userId code) := by
  refine Does.bind safe_lookup fun row => ?_
  dsimp only
  split
  next hcode => exact safe_takeRecoveryCode hcode
  next => exact does_pure

lemma safe_totpAccepts (user : User) (supplied : String) : Safe (c.totpAccepts user supplied) := by
  unfold totpAccepts
  split
  · exact does_pure
  · exact Does.bind does_ofExcept fun _ => Does.bind safe_readNow fun _ => does_pure

lemma safe_verifySecondFactor (user : User) (supplied : String) :
    Safe (c.verifySecondFactor user supplied) := by
  refine Does.ite does_pure (Does.ite does_pure ?_)
  refine Does.bind (safe_totpAccepts c user supplied) fun accepted => ?_
  exact Does.ite does_pure (safe_consumeRecoveryCode c user.id supplied)

lemma safe_login (email password code : String) : Safe (c.login email password code) := by
  refine Does.bind safe_lookup fun found => Does.bind does_expect fun account => ?_
  refine Does.bind does_check fun _ => Does.bind ?_ fun _ => Does.bind safe_readNow fun now => ?_
  · refine Does.ite does_pure (Does.bind does_check fun _ => ?_)
    exact Does.bind (safe_verifySecondFactor c account.1 code) fun _ => does_check
  · refine Does.bind ?_ fun _ => does_pure
    exact does_atomically (fun _ _ _ h => openSession_step h) fun db _ => AuthStep.refl db

lemma safe_activeBranchOf (session : AuthSession) (user : User) (branch : Option Branch) :
    Safe (activeBranchOf session user branch) := by
  unfold activeBranchOf
  split
  · exact does_pure
  · exact Does.bind safe_lookup fun _ => Does.bind does_check fun _ => does_pure

lemma safe_refresh (token : ℕ) : Safe (c.refresh token) := by
  refine Does.bind safe_readNow fun now => Does.bind safe_lookup fun found => ?_
  refine Does.bind does_expect fun account => Does.bind does_check fun _ => ?_
  refine Does.bind (safe_activeBranchOf _ _ _) fun _ => Does.bind safe_readNow fun _ => ?_
  refine Does.bind ?_ fun _ => Does.bind does_expect fun _ => does_pure
  exact does_atomically (fun _ _ _ h => rotate_step h) fun db _ => AuthStep.refl db

lemma safe_canActivate (user : AuthUser) : Safe (canActivate user) := by
  refine Does.bind does_expect fun sid => Does.bind safe_readNow fun now => ?_
  refine Does.bind safe_lookup fun found => Does.bind does_expect fun account => ?_
  refine Does.bind does_expect fun session => Does.bind does_check fun _ => ?_
  refine Does.bind (safe_activeBranchOf _ _ _) fun _ => Does.bind safe_readNow fun seenAt => ?_
  refine Does.ite (Does.bind (safe_write fun _ _ _ h => mark_step ?_ h) fun _ => does_pure) does_pure
  exact fun s => ⟨rfl, rfl, rfl, fun h => h⟩

lemma safe_switchBranchContext (user : AuthUser) (target : ℕ) : Safe (switchBranchContext user target) := by
  refine Does.bind does_expect fun sid => Does.bind does_expect fun companyId => ?_
  refine Does.bind does_check fun _ => Does.bind does_check fun _ => ?_
  refine Does.bind safe_lookup fun found => Does.bind does_expect fun branch => ?_
  refine Does.bind safe_lookup fun home => Does.bind does_check fun _ => ?_
  refine Does.bind safe_readNow fun now => Does.bind (safe_write fun _ _ _ h => mark_step ?_ h) ?_
  · exact fun s => ⟨rfl, rfl, rfl, fun h => h⟩
  · exact fun _ => Does.bind does_check fun _ => does_pure

lemma safe_revoke {p : AuthSession → Bool} {now : ℤ} {reason : String} :
    Safe (Mayatoko.Auth.write (revoke p now reason)) :=
  safe_write fun _ _ _ h => revoke_step h

lemma safe_revokeSession (user : AuthUser) (id : ℕ) : Safe (revokeSession user id) :=
  Does.bind safe_lookup fun _ => Does.bind does_expect fun _ => Does.bind safe_readNow fun _ =>
    Does.bind safe_revoke fun _ => does_pure

lemma safe_logout (user : AuthUser) : Safe (logout user) :=
  Does.bind does_expect fun _ => Does.bind safe_readNow fun _ =>
    Does.bind safe_revoke fun _ => does_pure

lemma safe_logoutAll (user : AuthUser) : Safe (logoutAll user) :=
  Does.bind safe_readNow fun _ => Does.bind safe_revoke fun _ => does_pure

lemma safe_requestPasswordReset (email : String) : Safe (c.requestPasswordReset email) := by
  refine Does.bind safe_lookup fun found => ?_
  dsimp only
  split
  · exact does_pure
  · refine Does.bind safe_readNow fun now => Does.bind ?_ fun _ => does_pure
    exact safe_write fun _ _ _ h => createResetToken_step h

lemma safe_confirmPasswordReset (token : ℕ) (newPassword : String) :
    Safe (confirmPasswordReset token newPassword) := by
  refine Does.bind safe_lookup fun found => Does.bind safe_readNow fun now => ?_
  refine Does.bind does_expect fun reset => Does.bind ?_ fun _ => Does.bind does_check fun _ => does_pure
  exact does_atomically (fun _ _ _ h => completeReset_step h) fun db _ => AuthStep.refl db

lemma safe_startTwoFactorSetup (user : AuthUser) : Safe (c.startTwoFactorSetup user) := by
  refine Does.bind safe_lookup fun found => Does.bind does_expect fun account => ?_
  refine Does.bind does_check fun _ => Does.bind ?_ fun _ => does_pure
  exact safe_write fun _ _ _ h => storePendingSecret_step h

lemma safe_issue {userId : ℕ} {f : User → User}
    (hf : ∀ u, (f u).id = u.id ∧ (f u).passwordHash = u.passwordHash) :
    Safe (Mayatoko.Auth.write (issueRecoveryCodes userId f)) :=
  safe_write fun _ _ _ h => issueRecoveryCodes_step hf h

lemma safe_confirmTwoFactorSetup (user : AuthUser) (code : String) :
    Safe (c.confirmTwoFactorSetup user code) := by
  refine Does.bind safe_lookup fun found => Does.bind does_expect fun pending => ?_
  refine Does.bind does_ofExcept fun secret => Does.bind safe_readNow fun now => ?_
  -- Only the answer of the check matters here, not how the code is compared.
  generalize c.verifyTotp secret code now = valid
  refine Does.bind does_check fun _ => Does.bind (safe_issue ?_) fun _ => does_pure
  exact fun _ => ⟨rfl, rfl⟩

lemma safe_regenerateRecoveryCodes (user : AuthUser) (code : String) :
    Safe (c.regenerateRecoveryCodes user code) := by
  refine Does.bind safe_lookup fun found => Does.bind does_expect fun account => ?_
  refine Does.bind (safe_verifySecondFactor c account code) fun _ => Does.bind does_check fun _ => ?_
  exact Does.bind (safe_issue fun _ => ⟨rfl, rfl⟩) fun _ => does_pure

lemma safe_disableTwoFactor (user : AuthUser) (password code : String) :
    Safe (c.disableTwoFactor user password code) := by
  refine Does.bind safe_lookup fun found => Does.bind does_expect fun account => ?_
  refine Does.bind does_check fun _ => Does.bind (safe_verifySecondFactor c account code) fun _ => ?_
  refine Does.bind does_check fun _ => Does.bind safe_readNow fun now => ?_
  exact Does.bind (safe_write fun _ _ _ h => clearTwoFactor_step h) fun _ => does_pure

/-- Every step of every request is one of the writes that `AuthStep` lists. -/
theorem process_steps (r : AuthRequest) : (c.process r).Steps AuthStep := by
  cases r with
  | login email password code => exact safe_login c email password code
  | refresh token => exact safe_refresh c token
  | canActivate user => exact safe_canActivate user
  | switchBranchContext user target => exact safe_switchBranchContext user target
  | revokeSession user id => exact safe_revokeSession user id
  | logout user => exact safe_logout user
  | logoutAll user => exact safe_logoutAll user
  | requestPasswordReset email => exact safe_requestPasswordReset c email
  | confirmPasswordReset token password => exact safe_confirmPasswordReset token password
  | startTwoFactorSetup user => exact safe_startTwoFactorSetup c user
  | confirmTwoFactorSetup user code => exact safe_confirmTwoFactorSetup c user code
  | regenerateRecoveryCodes user code => exact safe_regenerateRecoveryCodes c user code
  | disableTwoFactor user password code => exact safe_disableTwoFactor c user password code

end

abbrev AuthStateStep := StateStep AuthStep AuthOutside

end Mayatoko.Auth
