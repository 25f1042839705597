import Mayatoko.Common.Failure
import Mayatoko.Core.Run
import Mayatoko.Core.Table

/-!
# Logins and verification codes

`login` and `confirmVerification` of `StorefrontCustomerService`. An attempt reads a row, compares the password
or the code with the hash of that row, and writes back what follows from what it has read; any number of
attempts run at once. Texts are taken as already normalized, the comparison with a hash is a parameter. The
customer of a verification is the one that the session stands for; sessions, contacts and audit logs are left
out.
-/

namespace Mayatoko.Storefront

open Core

abbrev Compare := String → String → Bool

/-! ### Logins -/

structure StorefrontBranch where
  code : String
  companyId : ℕ
  isActive : Bool := true

structure AccountHolder where
  (id companyId : ℕ)
  email : Option String := none

structure CustomerAccount where
  (id customerId : ℕ)
  passwordHash : String
  isActive : Bool := true
  failedAttempts : ℕ := 0
  lockedUntil : Option ℕ := none
  lastLoginAt : Option ℕ := none
  deriving DecidableEq

structure LoginDb where
  now : ℕ
  branches : Table StorefrontBranch.code
  customers : Table AccountHolder.id
  accounts : Table CustomerAccount.id

structure LoginDto where
  (branchCode email password : String)

def CustomerAccount.locked (account : CustomerAccount) (now : ℕ) : Bool := account.lockedUntil.any (now < ·)

def loginError : Failure := .unauthorized "Email atau password tidak valid."

def readAccount (db : LoginDb) (dto : LoginDto) : Except Failure CustomerAccount :=
  match (db.branches.find? dto.branchCode).filter StorefrontBranch.isActive with
  | none => .error (.notFound "Storefront tidak ditemukan.")
  | some branch =>
    let customer := (db.customers.findMany fun c =>
      c.companyId = branch.companyId && c.email = some dto.email).head?
    let account := customer.bind fun c => (db.accounts.findMany fun a => a.customerId = c.id).head?
    match account.filter CustomerAccount.isActive with
    | none => .error loginError
    | some account =>
      if account.locked db.now = true then
        .error (.unauthorized "Akun pelanggan terkunci sementara karena terlalu banyak percobaan login.")
      else .ok account

/-- The account after a wrong password; `read` is the row that the attempt has read. -/
def CustomerAccount.failed (read : CustomerAccount) (now : ℕ) (r : CustomerAccount) : CustomerAccount :=
  { r with
    failedAttempts := read.failedAttempts + 1
    lockedUntil := if 5 ≤ read.failedAttempts + 1 then some (now + 15 * 60 * 1000) else r.lockedUntil }

def CustomerAccount.loggedIn (now : ℕ) (r : CustomerAccount) : CustomerAccount :=
  { r with failedAttempts := 0, lockedUntil := none, lastLoginAt := some now }

def writeLogin (db : LoginDb) (account : CustomerAccount) (valid : Bool) : LoginDb :=
  { db with
    accounts := (db.accounts.updateMany (fun r => r.id = account.id)
      (fun r => if valid = true then r.loggedIn db.now else account.failed db.now r)
      (by intro r; split <;> rfl)).1 }

inductive LoginAttempt
  | read (account : CustomerAccount) (password : String)
  | compared (account : CustomerAccount) (valid : Bool)

structure LoginWorld where
  db : LoginDb
  attempts : ℕ → Option LoginAttempt

inductive LoginEvent
  | reads (i : ℕ) (dto : LoginDto)
  | compares (i : ℕ)
  | writes (i : ℕ)
  | waits (ms : ℕ)

def loginStep (compare : Compare) (w : LoginWorld) : LoginEvent → Option LoginWorld
  | .reads i dto =>
    if w.attempts i = none then
      match readAccount w.db dto with
      | .ok account =>
        some { w with attempts := Function.update w.attempts i (some (.read account dto.password)) }
      | .error _ => some w
    else none
  | .compares i =>
    match w.attempts i with
    | some (.read account password) =>
      let matched := compare password account.passwordHash
      some { w with attempts := Function.update w.attempts i (some (.compared account matched)) }
    | _ => none
  | .writes i =>
    match w.attempts i with
    | some (.compared account valid) =>
      some { db := writeLogin w.db account valid, attempts := Function.update w.attempts i none }
    | _ => none
  | .waits ms => some { w with db := { w.db with now := w.db.now + ms } }

/-! ### Verification codes -/

inductive ContactType
  | email
  | phone
  deriving DecidableEq

structure CustomerVerificationToken where
  (id customerId : ℕ)
  type : ContactType
  (targetHash codeHash : String)
  expiresAt : ℕ
  attempts : ℕ := 0
  consumedAt : Option ℕ := none
  createdAt : ℕ

structure VerificationDb where
  now : ℕ
  tokens : Table CustomerVerificationToken.id

structure ConfirmVerificationDto where
  customerId : ℕ
  type : ContactType
  (targetHash code : String)

def readToken (db : VerificationDb) (dto : ConfirmVerificationDto) : Except Failure CustomerVerificationToken :=
  let row := db.tokens.findFirst
    (fun r => r.customerId = dto.customerId && r.type = dto.type && r.consumedAt = none)
    fun a b => b.createdAt ≤ a.createdAt
  match row.filter fun r => db.now < r.expiresAt && r.attempts < 5 with
  | none => .error (.badRequest "Kode verifikasi tidak tersedia atau sudah kedaluwarsa. Minta kode baru.")
  | some row => .ok row

inductive Verdict
  | contactChanged
  | wrong
  | right
  deriving DecidableEq

/-- The token after a verdict; `read` is the row that the attempt has read. Only a token that is still there to
be used is claimed for a right code. -/
def CustomerVerificationToken.judged (read : CustomerVerificationToken) (now : ℕ) (verdict : Verdict)
    (r : CustomerVerificationToken) : CustomerVerificationToken :=
  match verdict with
  | .contactChanged => { r with consumedAt := some now }
  | .wrong =>
    { r with
      attempts := read.attempts + 1
      consumedAt := if 5 ≤ read.attempts + 1 then some now else r.consumedAt }
  | .right => if r.consumedAt = none then { r with consumedAt := some now } else r

def writeVerdict (db : VerificationDb) (row : CustomerVerificationToken) (verdict : Verdict) : VerificationDb :=
  { db with
    tokens := (db.tokens.updateMany (fun r => r.id = row.id) (row.judged db.now verdict)
      (by intro r; cases verdict <;> simp only [CustomerVerificationToken.judged]; split <;> rfl)).1 }

inductive VerificationAttempt
  | read (row : CustomerVerificationToken) (code : String)
  | judged (row : CustomerVerificationToken) (verdict : Verdict)

structure VerificationWorld where
  db : VerificationDb
  attempts : ℕ → Option VerificationAttempt

inductive VerificationEvent
  | reads (i : ℕ) (dto : ConfirmVerificationDto)
  | compares (i : ℕ)
  | writes (i : ℕ)
  | waits (ms : ℕ)

/-- What an event does; where the contact is another one, the code is not compared. -/
def verificationStep (compare : Compare) (w : VerificationWorld) : VerificationEvent → Option VerificationWorld
  | .reads i dto =>
    if w.attempts i = none then
      match readToken w.db dto with
      | .ok row =>
        let next : VerificationAttempt :=
          if row.targetHash = dto.targetHash then .read row dto.code else .judged row .contactChanged
        some { w with attempts := Function.update w.attempts i (some next) }
      | .error _ => some w
    else none
  | .compares i =>
    match w.attempts i with
    | some (.read row code) =>
      let verdict := if compare code row.codeHash = true then Verdict.right else Verdict.wrong
      some { w with attempts := Function.update w.attempts i (some (.judged row verdict)) }
    | _ => none
  | .writes i =>
    match w.attempts i with
    | some (.judged row verdict) =>
      some { db := writeVerdict w.db row verdict, attempts := Function.update w.attempts i none }
    | _ => none
  | .waits ms => some { w with db := { w.db with now := w.db.now + ms } }

end Mayatoko.Storefront
