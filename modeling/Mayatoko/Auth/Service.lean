import Mayatoko.Auth.Schema

/-!
# The requests of `AuthService`

Each request is a process whose steps are its database calls and its readings of the clock; a transaction
of statements that read nothing before they write is one step. The label of a step says whether it opened a
session, rotated a refresh token, changed a password or used up a recovery code. Values that a request
draws are drawn in the step that stores them.
-/

namespace Mayatoko.Auth

open Core

inductive AuthLabel
  /-- A session `sid` was opened for a login that had verified the hash. -/
  | loggedIn (userId : ℕ) (passwordHash : PasswordHash) (sid : ℕ)
  /-- The refresh token `old` of a session was exchanged for `new`. -/
  | rotated (sid old new : ℕ)
  /-- The password of a user was reset. -/
  | passwordReset (userId : ℕ)
  /-- A recovery code was accepted, by a request that had read the codes `stored`. -/
  | codeConsumed (userId : ℕ) (stored : List ℕ) (code : ℕ)
  | other
  deriving DecidableEq

structure AuthConfig where
  refreshExpiresDays : ℤ := 30
  passwordResetExpiresMinutes : ℤ := 30
  hotp : String → ℤ → String
  generateTotpSecret : ℕ → String
  encryptText : String → Except Failure String
  decryptText : String → Except Failure String
  hashRecoveryCode : String → ℕ

abbrev AuthService := Service AuthLabel AuthDb Failure

inductive AuthAnswer
  | tokens (user : AuthUser) (refreshToken : ℕ) (sessionExpiresAt : ℤ)
  | accessToken (user : AuthUser)
  | revoked (count : ℕ)
  | resetToken (token : Option ℕ)
  | secret (secret : String)
  | recoveryCodes (codes : List ℕ)
  | ok

def minute : ℤ := 60000

def day : ℤ := 24 * 60 * minute

def readNow : AuthService ℤ := lookup .other AuthDb.now

/-- A write that is none of those that have a label of their own. -/
def write {α : Type} (x : AuthTx α) : AuthService α := atomically (fun _ => .other) x

namespace AuthConfig

variable (c : AuthConfig)

def refreshExpiry (now : ℤ) : ℤ := now + min (max c.refreshExpiresDays 1) 180 * day

def resetExpiry (now : ℤ) : ℤ := now + min (max c.passwordResetExpiresMinutes 10) 120 * minute

def isTotp (code : String) : Bool := code.toList.length = 6 && code.toList.all Char.isDigit

def verifyTotp (secret code : String) (now : ℤ) : Bool :=
  let normalized := String.ofList (code.toList.filter fun ch => !ch.isWhitespace)
  isTotp normalized && [-1, 0, 1].any fun drift => c.hotp secret (now / 30000 + drift) = normalized

def takeRecoveryCode (userId : ℕ) (hashes : List ℕ) (targetHash : ℕ) : AuthService Bool :=
  atomically (fun r => if r matches .ok _ then .codeConsumed userId hashes targetHash else .other) do
    let _ ← AuthDb.user.update userId
      (fun u => { u with twoFactorRecoveryCodes := hashes.erase targetHash }) .recordNotFound
    pure true

def consumeRecoveryCode (userId : ℕ) (code : String) : AuthService Bool := do
  let targetHash := c.hashRecoveryCode code
  let row ← lookup .other fun db => (db.users.find? userId).filter User.twoFactorEnabled
  let hashes := (row.map User.twoFactorRecoveryCodes).getD []
  if targetHash ∈ hashes then takeRecoveryCode userId hashes targetHash else pure false

def totpAccepts (user : User) (supplied : String) : AuthService Bool :=
  match user.twoFactorSecret.filter fun _ => isTotp supplied with
  | none => pure false
  | some encrypted => do
    let secret ← ofExcept (c.decryptText encrypted)
    let now ← readNow
    pure (c.verifyTotp secret supplied now)

def verifySecondFactor (user : User) (supplied : String) : AuthService Bool :=
  if ¬ user.twoFactorEnabled then pure true
  else if supplied = "" then pure false
  else do
    let accepted ← c.totpAccepts user supplied
    if accepted then pure true else c.consumeRecoveryCode user.id supplied

/-! ### Login and refresh -/

def branchOpen (user : User) (branch : Option Branch) : Bool :=
  user.branchId.isNone || branch.any Branch.isActive

def payloadOf (user : User) (sid : ℕ) (companyId branchId : Option ℕ) : AuthUser where
  sub := user.id
  sid := some sid
  companyId := companyId
  branchId := branchId
  roles := user.roles.map Role.name
  permissions := (user.roles.flatMap Role.permissions).dedup

def loginSecondFactor (user : User) (twoFactorCode : String) : AuthService Unit :=
  if ¬ user.twoFactorEnabled then pure ()
  else do
    check (twoFactorCode ≠ "") (.unauthorized "Kode autentikasi dua faktor diperlukan.")
    let accepted ← c.verifySecondFactor user twoFactorCode
    check accepted (.unauthorized "Kode autentikasi dua faktor tidak valid.")

def openSession (user : User) (expiresAt : ℤ) : AuthTx (ℕ × ℕ) := do
  let sid ← draw
  let refreshToken ← draw
  let db ← get
  AuthDb.authSession.create
    { id := sid, userId := user.id, activeBranchId := user.branchId, expiresAt := expiresAt,
      refreshTokenHash := refreshToken, lastRotatedAt := db.now, lastSeenAt := db.now }
    .uniqueViolation
  AuthDb.authSession.deleteMany fun s => s.userId = user.id && s.expiresAt < db.now - 7 * day
  pure (sid, refreshToken)

def openedLabel (user : User) : Except Failure (ℕ × ℕ) → AuthLabel
  | .ok (sid, _) => .loggedIn user.id user.passwordHash sid
  | .error _ => .other

def login (email password twoFactorCode : String) : AuthService AuthAnswer := do
  let found ← lookup .other fun db =>
    (db.users.rows.find? fun u => u.email = email.toLower).map db.account
  let (user, branch) ← expect
    (found.filter fun (u, _) => u.isActive && u.passwordHash.compare password)
    (.unauthorized "Email atau password tidak valid.")
  check (branchOpen user branch) (.unauthorized "Email atau password tidak valid.")
  c.loginSecondFactor user twoFactorCode
  let now ← readNow
  let expiresAt := c.refreshExpiry now
  let (sid, refreshToken) ← atomically (openedLabel user) (openSession user expiresAt)
  pure (.tokens (payloadOf user sid (branch.map Branch.companyId) user.branchId) refreshToken expiresAt)

/-- Exchange the refresh token of a session, if the session still has it and is still open. -/
def rotate (session : AuthSession) (tokenHash : ℕ) (now expiresAt : ℤ) : AuthTx (Option ℕ) := do
  let next ← draw
  let updated ← AuthDb.authSession.updateMany
    (fun s => s.id = session.id && s.userId = session.userId && s.refreshTokenHash = tokenHash &&
      s.revokedAt = none && now < s.expiresAt)
    fun s => { s with
      refreshTokenHash := next, lastRotatedAt := now, lastSeenAt := now, expiresAt := expiresAt }
  pure (if updated = 1 then some next else none)

def rotatedLabel (session : AuthSession) (tokenHash : ℕ) : Except Failure (Option ℕ) → AuthLabel
  | .ok (some next) => .rotated session.id tokenHash next
  | _ => .other

/-- The branch that a session works in, if it has one. -/
def activeBranchOf (session : AuthSession) (user : User) (branch : Option Branch) :
    AuthService (Option Branch) :=
  match session.activeBranchId.or user.branchId with
  | none => pure none
  | some activeBranchId => do
    let activeBranch ← lookup .other fun db =>
      (branch.map Branch.companyId).bind fun companyId => db.activeBranch companyId activeBranchId
    check activeBranch.isSome
      (.unauthorized "Branch context sesi tidak valid atau sudah tidak aktif.")
    pure activeBranch

def refresh (refreshToken : ℕ) : AuthService AuthAnswer := do
  let now ← readNow
  let found ← lookup .other fun db =>
    (db.sessions.rows.find? fun s => s.refreshTokenHash = refreshToken).bind fun s =>
      (db.users.find? s.userId).map fun u => (s, db.account u)
  let (session, user, branch) ← expect
    (found.filter fun (s, u, _) => s.revokedAt.isNone && now < s.expiresAt && u.isActive)
    (.unauthorized "Refresh token tidak valid atau sudah kedaluwarsa.")
  check (branchOpen user branch) (.unauthorized "Refresh token tidak valid atau sudah kedaluwarsa.")
  let activeBranch ← activeBranchOf session user branch
  let readAt ← readNow
  let expiresAt := c.refreshExpiry readAt
  let rotated ← atomically (rotatedLabel session refreshToken)
    (rotate session refreshToken now expiresAt)
  let next ← expect rotated (.unauthorized "Refresh token sudah digunakan atau dicabut.")
  pure (.tokens (payloadOf user session.id (branch.map Branch.companyId) (activeBranch.map Branch.id))
    next expiresAt)

/-! ### Sessions -/

/-- `JwtAuthGuard.canActivate` for an access token: the user that the request runs as. -/
def canActivate (tokenUser : AuthUser) : AuthService AuthAnswer := do
  let sid ← expect tokenUser.sid (.unauthorized "Sesi token tidak terdaftar. Silakan login ulang.")
  let now ← readNow
  let found ← lookup .other fun db => (db.users.find? tokenUser.sub).map fun u =>
    (db.account u, (db.sessions.find? sid).filter fun s =>
      s.userId = u.id && s.revokedAt = none && now < s.expiresAt)
  let ((user, branch), open?) ← expect (found.filter fun ((u, _), _) => u.isActive)
    (.unauthorized "Akun tidak aktif atau tidak ditemukan.")
  let session ← expect open?
    (.unauthorized "Sesi sudah dicabut atau kedaluwarsa. Silakan login ulang.")
  check (branchOpen user branch)
    (.unauthorized "Cabang pengguna tidak aktif atau tidak ditemukan.")
  let activeBranch ← activeBranchOf session user branch
  let seenAt ← readNow
  if 5 * minute ≤ seenAt - session.lastSeenAt then
    let _ ← write (AuthDb.authSession.updateMany (fun s => s.id = session.id && s.revokedAt = none)
      fun s => { s with lastSeenAt := seenAt })
    pure (.accessToken
      (payloadOf user sid (branch.map Branch.companyId) (activeBranch.map Branch.id)))
  else
    pure (.accessToken
      (payloadOf user sid (branch.map Branch.companyId) (activeBranch.map Branch.id)))

def switchBranchContext (user : AuthUser) (targetBranchId : ℕ) : AuthService AuthAnswer := do
  let denied := Failure.forbidden
    "Sesi, company, dan branch aktif wajib tersedia untuk berpindah cabang."
  let sid ← expect user.sid denied
  let companyId ← expect user.companyId denied
  check user.branchId.isSome denied
  check ("SUPER_ADMIN" ∈ user.roles ∨ "branch.switch" ∈ user.permissions)
    (.forbidden "Akun ini tidak memiliki izin berpindah cabang.")
  let found ← lookup .other fun db => db.activeBranch companyId targetBranchId
  let target ← expect found (.forbidden "Cabang tujuan tidak tersedia di company aktif.")
  let home ← lookup .other fun db => (db.users.find? user.sub).bind db.branchOf
  check (home.any fun b => b.isActive && b.companyId = companyId)
    (.unauthorized "Home branch pengguna tidak valid.")
  let now ← readNow
  let updated ← write (AuthDb.authSession.updateMany
    (fun s => s.id = sid && s.userId = user.sub && s.revokedAt = none && now < s.expiresAt)
    fun s => { s with activeBranchId := some target.id, lastSeenAt := now })
  check (updated = 1) (.unauthorized "Sesi tidak valid atau sudah kedaluwarsa.")
  pure (.accessToken { user with branchId := some target.id, companyId := some target.companyId })

def revoke (p : AuthSession → Bool) (now : ℤ) (reason : String) : AuthTx ℕ :=
  AuthDb.authSession.updateMany (fun s => p s && s.revokedAt = none)
    fun s => { s with revokedAt := some now, revokeReason := some reason }

def revokeSession (user : AuthUser) (id : ℕ) : AuthService AuthAnswer := do
  let found ← lookup .other fun db =>
    (db.sessions.find? id).filter fun s => s.userId = user.sub
  let session ← expect found (.badRequest "Sesi tidak ditemukan.")
  let now ← readNow
  let reason := if some session.id = user.sid then "SESSION_REVOKED_CURRENT" else "SESSION_REVOKED"
  let count ← write (revoke
    (fun s => s.id = session.id && s.userId = user.sub && now < s.expiresAt) now reason)
  pure (.revoked count)

def logout (user : AuthUser) : AuthService AuthAnswer := do
  let sid ← expect user.sid (.unauthorized "Sesi tidak valid.")
  let now ← readNow
  let count ← write (revoke (fun s => s.id = sid && s.userId = user.sub) now "LOGOUT")
  pure (.revoked count)

def logoutAll (user : AuthUser) : AuthService AuthAnswer := do
  let now ← readNow
  let count ← write (revoke (fun s => s.userId = user.sub && now < s.expiresAt) now "LOGOUT_ALL")
  pure (.revoked count)

/-! ### Password reset -/

def createResetToken (user : User) (expiresAt : ℤ) : AuthTx ℕ := do
  let id ← draw
  let token ← draw
  AuthDb.passwordResetToken.deleteMany fun t => t.userId = user.id && t.usedAt = none
  AuthDb.passwordResetToken.create
    { id := id, userId := user.id, tokenHash := token, expiresAt := expiresAt } .uniqueViolation
  pure token

/-- The answer does not tell whether there is an account; the token is the one that is sent. -/
def requestPasswordReset (email : String) : AuthService AuthAnswer := do
  let found ← lookup .other fun db =>
    (db.users.rows.find? fun u => u.email = email.toLower).map db.account
  match found.filter fun (u, branch) => u.isActive && branchOpen u branch with
  | none => pure (.resetToken none)
  | some (user, _) => do
    let now ← readNow
    let token ← write (createResetToken user (c.resetExpiry now))
    pure (.resetToken (some token))

def applyReset (reset : PasswordResetToken) (newPassword : String) (now : ℤ) : AuthTx Unit := do
  let salt ← draw
  let _ ← AuthDb.user.update reset.userId
    (fun u => { u with passwordHash := { password := newPassword, salt := salt } }) .recordNotFound
  let _ ← revoke (fun s => s.userId = reset.userId) now "PASSWORD_RESET"
  let _ ← AuthDb.passwordResetToken.updateMany (fun t => t.userId = reset.userId && t.usedAt = none)
    fun t => { t with usedAt := some now }

def completeReset (reset : PasswordResetToken) (newPassword : String) (now : ℤ) : AuthTx Bool := do
  let claimed ← AuthDb.passwordResetToken.updateMany
    (fun t => t.id = reset.id && t.usedAt = none && now < t.expiresAt)
    fun t => { t with usedAt := some now }
  if claimed ≠ 1 then pure false else do
    applyReset reset newPassword now
    pure true

def resetLabel (reset : PasswordResetToken) : Except Failure Bool → AuthLabel
  | .ok true => .passwordReset reset.userId
  | _ => .other

def confirmPasswordReset (token : ℕ) (newPassword : String) : AuthService AuthAnswer := do
  let found ← lookup .other fun db =>
    (db.resetTokens.rows.find? fun t => t.tokenHash = token).bind fun t =>
      (db.users.find? t.userId).map fun u => (t, db.account u)
  let now ← readNow
  let (reset, _) ← expect
    (found.filter fun (t, u, branch) =>
      t.usedAt.isNone && now < t.expiresAt && u.isActive && branchOpen u branch)
    (.badRequest "Token reset password tidak valid atau sudah kedaluwarsa.")
  let completed ← atomically (resetLabel reset) (completeReset reset newPassword now)
  check completed (.badRequest "Token reset password sudah digunakan.")
  pure .ok

/-! ### Setting up the second factor -/

def findAccount (user : AuthUser) : AuthService (Option User) :=
  lookup .other fun db => db.users.find? user.sub

def storePendingSecret (userId : ℕ) : AuthTx String := do
  let seed ← draw
  let encrypted ← ofExcept (c.encryptText (c.generateTotpSecret seed))
  let _ ← AuthDb.user.update userId (fun u => { u with twoFactorPendingSecret := some encrypted })
    .recordNotFound
  pure (c.generateTotpSecret seed)

def startTwoFactorSetup (user : AuthUser) : AuthService AuthAnswer := do
  let found ← findAccount user
  let account ← expect found (.unauthorized "Akun tidak ditemukan.")
  check (¬ account.twoFactorEnabled)
    (.badRequest "2FA sudah aktif. Nonaktifkan terlebih dahulu sebelum membuat secret baru.")
  let secret ← write (c.storePendingSecret user.sub)
  pure (.secret secret)

/-- Give the user new recovery codes, next to what `f` writes. -/
def issueRecoveryCodes (userId : ℕ) (f : User → User) : AuthTx (List ℕ) := do
  let codes ← generateRecoveryCodes 10
  let _ ← AuthDb.user.update userId (fun u => { f u with twoFactorRecoveryCodes := codes })
    .recordNotFound
  pure codes

def confirmTwoFactorSetup (user : AuthUser) (code : String) : AuthService AuthAnswer := do
  let found ← findAccount user
  let pending ← expect
    ((found.filter fun account => !account.twoFactorEnabled).bind User.twoFactorPendingSecret)
    (.badRequest "Setup 2FA belum dimulai atau sudah aktif.")
  let secret ← ofExcept (c.decryptText pending)
  let now ← readNow
  check (c.verifyTotp secret code now)
    (.badRequest "Kode TOTP tidak valid. Pastikan waktu perangkat sinkron.")
  let codes ← write (issueRecoveryCodes user.sub fun u => { u with
    twoFactorEnabled := true, twoFactorSecret := some pending, twoFactorPendingSecret := none })
  pure (.recoveryCodes codes)

def regenerateRecoveryCodes (user : AuthUser) (code : String) : AuthService AuthAnswer := do
  let found ← findAccount user
  let account ← expect
    (found.filter fun account => account.twoFactorEnabled && account.twoFactorSecret.isSome)
    (.badRequest "2FA belum aktif.")
  let accepted ← c.verifySecondFactor account code
  check accepted (.badRequest "Kode 2FA atau recovery code tidak valid.")
  let codes ← write (issueRecoveryCodes user.sub fun u => u)
  pure (.recoveryCodes codes)

def clearTwoFactor (user : AuthUser) (now : ℤ) : AuthTx Unit := do
  let _ ← AuthDb.user.update user.sub
    (fun u => { u with
      twoFactorEnabled := false, twoFactorSecret := none, twoFactorPendingSecret := none,
      twoFactorRecoveryCodes := [] })
    .recordNotFound
  let _ ← revoke (fun s => s.userId = user.sub && some s.id ≠ user.sid) now "TWO_FACTOR_DISABLED"

def disableTwoFactor (user : AuthUser) (password code : String) : AuthService AuthAnswer := do
  let found ← findAccount user
  let account ← expect
    (found.filter fun account => account.twoFactorEnabled && account.twoFactorSecret.isSome)
    (.badRequest "2FA belum aktif.")
  check (account.passwordHash.compare password) (.unauthorized "Password tidak valid.")
  let accepted ← c.verifySecondFactor account code
  check accepted (.badRequest "Kode 2FA atau recovery code tidak valid.")
  let now ← readNow
  write (clearTwoFactor user now)
  pure .ok

end AuthConfig

/-! ### Serving -/

inductive AuthRequest
  | login (email password twoFactorCode : String)
  | refresh (refreshToken : ℕ)
  | canActivate (tokenUser : AuthUser)
  | switchBranchContext (user : AuthUser) (targetBranchId : ℕ)
  | revokeSession (user : AuthUser) (id : ℕ)
  | logout (user : AuthUser)
  | logoutAll (user : AuthUser)
  | requestPasswordReset (email : String)
  | confirmPasswordReset (token : ℕ) (newPassword : String)
  | startTwoFactorSetup (user : AuthUser)
  | confirmTwoFactorSetup (user : AuthUser) (code : String)
  | regenerateRecoveryCodes (user : AuthUser) (code : String)
  | disableTwoFactor (user : AuthUser) (password code : String)

namespace AuthConfig

def serve (c : AuthConfig) : AuthRequest → AuthService AuthAnswer
  | .login email password code => c.login email password code
  | .refresh token => c.refresh token
  | .canActivate user => canActivate user
  | .switchBranchContext user target => switchBranchContext user target
  | .revokeSession user id => revokeSession user id
  | .logout user => logout user
  | .logoutAll user => logoutAll user
  | .requestPasswordReset email => c.requestPasswordReset email
  | .confirmPasswordReset token password => confirmPasswordReset token password
  | .startTwoFactorSetup user => c.startTwoFactorSetup user
  | .confirmTwoFactorSetup user code => c.confirmTwoFactorSetup user code
  | .regenerateRecoveryCodes user code => c.regenerateRecoveryCodes user code
  | .disableTwoFactor user password code => c.disableTwoFactor user password code

def process (c : AuthConfig) (r : AuthRequest) :
    Process AuthLabel AuthDb (Except Failure AuthAnswer) :=
  (c.serve r).run

end AuthConfig

/-- What happens next to the requests: the clock goes, branches are edited, and `UsersService` creates users
and changes their roles and whether they are active. -/
inductive AuthOutside (db : AuthDb) : AuthDb → Prop
  | clock (now : ℤ) : AuthOutside db { db with now := now }
  | branches (t : Table Branch.id) : AuthOutside db { db with branches := t }
  | createUser {id : ℕ} {email password : String} {branchId : ℕ} {roles : List Role}
      (h : ∀ u ∈ db.users, u.id ≠ id ∧ u.email ≠ email) :
      AuthOutside db { db with
        nextSecret := db.nextSecret + 1
        users := db.users.put
          { id := id, email := email, passwordHash := { password := password, salt := db.nextSecret },
            branchId := some branchId, roles := roles } }
  | setUserRoles {u : User} (hu : u ∈ db.users) (roles : List Role) :
      AuthOutside db { db with users := db.users.put { u with roles := roles } }
  | setUserStatus {u : User} (hu : u ∈ db.users) (active : Bool) :
      AuthOutside db { db with users := db.users.put { u with isActive := active } }

lemma clock_moves (now : ℤ) (db : AuthDb) : AuthOutside db { db with now := now } := .clock now

abbrev AuthServerStep (c : AuthConfig) := PoolStep c.process AuthOutside

end Mayatoko.Auth
