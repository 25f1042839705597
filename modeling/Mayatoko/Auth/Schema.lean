import Mayatoko.Common.Failure
import Mayatoko.Core.Process
import Mayatoko.Core.Store

/-!
# Accounts and sessions

The rows that `AuthService` reads and writes. Ids, refresh tokens, reset tokens, recovery codes and the
salts of password hashes are drawn at random; a value that is drawn has never been drawn before, and the
hash of a token or code is kept as the token or code itself. Names, rate limits, notifications and audit
rows are left out; emails and codes are taken as already trimmed.
-/

namespace Mayatoko.Auth

open Core

/-- A bcrypt hash: it accepts its password, and no two hashes are made with one salt. -/
structure PasswordHash where
  password : String
  salt : ℕ
  deriving DecidableEq

def PasswordHash.compare (h : PasswordHash) (password : String) : Bool := password = h.password

structure Branch where
  (id companyId : ℕ)
  isActive : Bool := true

structure Role where
  name : String
  permissions : List String

structure User where
  id : ℕ
  email : String
  passwordHash : PasswordHash
  branchId : Option ℕ := none
  roles : List Role := []
  isActive : Bool := true
  twoFactorEnabled : Bool := false
  twoFactorSecret : Option String := none
  twoFactorPendingSecret : Option String := none
  /-- The hashes of the recovery codes that can still be used. -/
  twoFactorRecoveryCodes : List ℕ := []

structure AuthSession where
  (id userId : ℕ)
  activeBranchId : Option ℕ
  expiresAt : ℤ
  refreshTokenHash : ℕ
  (lastRotatedAt lastSeenAt : ℤ)
  revokedAt : Option ℤ := none
  revokeReason : Option String := none

structure PasswordResetToken where
  (id userId tokenHash : ℕ)
  expiresAt : ℤ
  usedAt : Option ℤ := none

structure AuthDb where
  /-- The reading of the clock. -/
  now : ℤ
  /-- The next value to be drawn. -/
  nextSecret : ℕ
  branches : Table Branch.id
  users : Table User.id
  sessions : Table AuthSession.id
  resetTokens : Table PasswordResetToken.id

abbrev AuthTx := Tx AuthDb Failure

namespace AuthDb

def user : TableOf AuthDb User.id := ⟨users, fun db t => { db with users := t }⟩

def authSession : TableOf AuthDb AuthSession.id := ⟨sessions, fun db t => { db with sessions := t }⟩

def passwordResetToken : TableOf AuthDb PasswordResetToken.id :=
  ⟨resetTokens, fun db t => { db with resetTokens := t }⟩

variable (db : AuthDb)

@[simp] lemma user_write (r : User) : user.write db r = { db with users := db.users.put r } := rfl

@[simp] lemma authSession_write (r : AuthSession) :
    authSession.write db r = { db with sessions := db.sessions.put r } := rfl

@[simp] lemma passwordResetToken_write (r : PasswordResetToken) :
    passwordResetToken.write db r = { db with resetTokens := db.resetTokens.put r } := rfl

/-- The branch of a user, if it has one. -/
def branchOf (u : User) : Option Branch := u.branchId.bind db.branches.find?

def account (u : User) : User × Option Branch := (u, db.branchOf u)

def activeBranch (companyId branchId : ℕ) : Option Branch :=
  (db.branches.find? branchId).filter fun b => b.companyId = companyId && b.isActive

end AuthDb

def draw : AuthTx ℕ := do
  let db ← get
  set { db with nextSecret := db.nextSecret + 1 }
  pure db.nextSecret

lemma commits_draw {db db' : AuthDb} {n : ℕ} : Commits draw db n db' ↔
      n = db.nextSecret ∧ db' = { db with nextSecret := db.nextSecret + 1 } := by
  simp only [draw, commits_bind, commits_get, commits_set, commits_pure]
  constructor
  · rintro ⟨_, _, ⟨rfl, rfl⟩, _, _, rfl, rfl, rfl⟩
    exact ⟨rfl, rfl⟩
  · rintro ⟨rfl, rfl⟩
    exact ⟨db, db, ⟨rfl, rfl⟩, (), _, rfl, rfl, rfl⟩

def generateRecoveryCodes (count : ℕ) : AuthTx (List ℕ) := do
  let db ← get
  set { db with nextSecret := db.nextSecret + count }
  pure (List.range' db.nextSecret count)

lemma commits_generateRecoveryCodes {db db' : AuthDb} {count : ℕ} {codes : List ℕ} :
    Commits (generateRecoveryCodes count) db codes db' ↔
      codes = List.range' db.nextSecret count ∧
        db' = { db with nextSecret := db.nextSecret + count } := by
  simp only [generateRecoveryCodes, commits_bind, commits_get, commits_set, commits_pure]
  constructor
  · rintro ⟨_, _, ⟨rfl, rfl⟩, _, _, rfl, rfl, rfl⟩
    exact ⟨rfl, rfl⟩
  · rintro ⟨rfl, rfl⟩
    exact ⟨db, db, ⟨rfl, rfl⟩, (), _, rfl, rfl, rfl⟩

structure AuthUser where
  sub : ℕ
  sid : Option ℕ
  companyId : Option ℕ := none
  branchId : Option ℕ := none
  roles : List String := []
  permissions : List String := []

end Mayatoko.Auth
