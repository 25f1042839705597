import Mayatoko.Core.Guesses
import Mayatoko.Storefront.Logins

/-!
# Five guesses

No more than five wrong passwords should be compared before an account is locked, and no more than five
wrong codes before a token is consumed. The attempts write back the count that they have read: so it is where no
two wrong attempts at one account or token are on their way together, and attempts that read at once are not
counted.
-/

namespace Mayatoko.Storefront

open Core

lemma bind_update {α β : Type} (f : α → Option β) (attempts : ℕ → Option α) (i : ℕ) (x : Option α) :
    (fun j => (Function.update attempts i x j).bind f) =
      Function.update (fun j => (attempts j).bind f) i (x.bind f) :=
  Function.comp_update (fun o : Option α => o.bind f) attempts i x

variable {i : ℕ}

lemma bind_update_same {α β : Type} {f : α → Option β} {attempts : ℕ → Option α} {x : Option α}
    (h : x.bind f = (attempts i).bind f) :
    (fun j => (Function.update attempts i x j).bind f) = fun j => (attempts j).bind f := by
  rw [bind_update, h]
  exact Function.update_eq_self i fun j => (attempts j).bind f

/-! ### Passwords -/

section Passwords

variable {compare : Compare} {w w' : LoginWorld} {tally tally' : ℕ → ℕ} {e : LoginEvent} {key : ℕ}

def LoginDb.unlocked (db : LoginDb) (key : ℕ) : Bool :=
  (db.accounts.find? key).any fun account => !account.locked db.now

/-- How many wrong passwords were compared with each account, while it was unlocked, since the last login or the
end of the last lock. -/
def countPasswords (w : LoginWorld) (e : LoginEvent) (w' : LoginWorld) (tally : ℕ → ℕ) (key : ℕ) : ℕ :=
  match e with
  | .reads _ _ => tally key
  | .compares i =>
    match w'.attempts i with
    | some (.compared account false) =>
      if account.id = key ∧ w.db.unlocked key = true then tally key + 1 else tally key
    | _ => tally key
  | .writes i =>
    match w.attempts i with
    | some (.compared account true) => if account.id = key then 0 else tally key
    | _ => tally key
  | .waits _ => if w.db.unlocked key = false ∧ w'.db.unlocked key = true then 0 else tally key

def LoginStep (compare : Compare) (w : LoginWorld × (ℕ → ℕ)) (e : LoginEvent) (w' : LoginWorld × (ℕ → ℕ)) :
    Prop :=
  loginStep compare w.1 e = some w'.1 ∧ w'.2 = countPasswords w.1 e w'.1 w.2

def LoginAttempt.wrongFor (compare : Compare) (key : ℕ) : LoginAttempt → Option Guess
  | .read account password =>
    if account.id = key ∧ compare password account.passwordHash = false then some (.read account.failedAttempts)
    else none
  | .compared account valid =>
    if account.id = key ∧ valid = false then some (.compared account.failedAttempts) else none

/-- An attempt with a wrong password reads its account only when no other one at that account is on its way. -/
def WrongAlone (compare : Compare) (w : LoginWorld) : LoginEvent → Prop
  | .reads _ dto => ∀ account, readAccount w.db dto = .ok account →
      compare dto.password account.passwordHash = false →
      ∀ i, (w.attempts i).bind (LoginAttempt.wrongFor compare account.id) = none
  | .compares _ | .writes _ | .waits _ => True

def passwordGuesses (compare : Compare) (key : ℕ) (w : LoginWorld) (tally : ℕ → ℕ) : Guesses where
  count := (w.db.accounts.find? key).elim 0 CustomerAccount.failedAttempts
  isOpen := w.db.unlocked key
  tally := tally key
  wrong := fun i => (w.attempts i).bind (LoginAttempt.wrongFor compare key)

variable {db : LoginDb} {account : CustomerAccount}

lemma readAccount_ok {dto : LoginDto} (h : readAccount db dto = .ok account) :
    db.accounts.find? account.id = some account ∧ db.unlocked account.id = true := by
  unfold readAccount at h
  split at h
  · cases h
  · dsimp only at h
    split at h
    · cases h
    next _ _ found hfound =>
      obtain ⟨hbind, _⟩ := Option.filter_eq_some_iff.mp hfound
      obtain ⟨c, _, hhead⟩ := Option.bind_eq_some_iff.mp hbind
      have hmem := (mem_findMany.mp (List.mem_of_mem_head? hhead)).1
      split at h
      · cases h
      next hlocked =>
        cases h
        have hfind := find?_of_mem hmem
        refine ⟨hfind, ?_⟩
        rw [LoginDb.unlocked, hfind]
        simpa using hlocked

variable {x : Option LoginAttempt}

lemma passwordGuesses_update :
    passwordGuesses compare key { w with attempts := Function.update w.attempts i x } tally =
      { passwordGuesses compare key w tally with
        wrong := Function.update (passwordGuesses compare key w tally).wrong i
          (x.bind (LoginAttempt.wrongFor compare key)) } := by
  rw [passwordGuesses, bind_update]
  rfl

lemma passwordGuesses_same
    (h : x.bind (LoginAttempt.wrongFor compare key) = (w.attempts i).bind (LoginAttempt.wrongFor compare key)) :
    passwordGuesses compare key { w with attempts := Function.update w.attempts i x } tally =
      passwordGuesses compare key w tally := by
  rw [passwordGuesses, bind_update_same h]
  rfl

lemma passwordGuesses_reads {dto : LoginDto} (hstep : loginStep compare w (.reads i dto) = some w')
    (halone : WrongAlone compare w (.reads i dto)) :
    GuessStep 5 (passwordGuesses compare key w tally) (passwordGuesses compare key w' tally) := by
  simp only [loginStep] at hstep
  split at hstep
  next hfree =>
    split at hstep
    next account hread =>
      obtain ⟨hfind, hopen⟩ := readAccount_ok hread
      cases hstep
      by_cases hwrong : account.id = key ∧ compare dto.password account.passwordHash = false
      · obtain ⟨rfl, hcompare⟩ := hwrong
        have hcount : (passwordGuesses compare account.id w tally).count = account.failedAttempts := by
          rw [passwordGuesses, hfind]
          rfl
        rw [passwordGuesses_update, Option.bind_some, LoginAttempt.wrongFor, if_pos ⟨rfl, hcompare⟩, ← hcount]
        exact GuessStep.reads hopen (funext (halone account hread hcompare))
      · rw [passwordGuesses_same]
        · exact GuessStep.same
        · rw [Option.bind_some, LoginAttempt.wrongFor, if_neg hwrong, hfree]
          rfl
    next =>
      cases hstep
      exact GuessStep.same
  next => cases hstep

lemma passwordGuesses_compares (hstep : loginStep compare w (.compares i) = some w') :
    GuessStep 5 (passwordGuesses compare key w tally)
      (passwordGuesses compare key w' (countPasswords w (.compares i) w' tally)) := by
  simp only [loginStep] at hstep
  split at hstep
  next account password hi =>
    cases hstep
    let valid := compare password account.passwordHash
    have htally : countPasswords w (.compares i)
        ⟨w.db, Function.update w.attempts i (some (.compared account valid))⟩ tally key =
        if account.id = key ∧ valid = false then
          if w.db.unlocked key = true then tally key + 1 else tally key
        else tally key := by
      simp only [countPasswords, Function.update_self]
      cases valid
      · by_cases hid : account.id = key <;> simp [hid]
      · simp
    have hbefore : (w.attempts i).bind (LoginAttempt.wrongFor compare key) =
        if account.id = key ∧ valid = false then some (.read account.failedAttempts) else none := by
      rw [hi]
      rfl
    by_cases hwrong : account.id = key ∧ valid = false
    · rw [if_pos hwrong] at htally hbefore
      have hafter : passwordGuesses compare key
          ⟨w.db, Function.update w.attempts i (some (.compared account valid))⟩
          (countPasswords w (.compares i)
            ⟨w.db, Function.update w.attempts i (some (.compared account valid))⟩ tally) =
          { passwordGuesses compare key w tally with
            tally := if w.db.unlocked key = true then tally key + 1 else tally key
            wrong := Function.update (passwordGuesses compare key w tally).wrong i
              (some (.compared account.failedAttempts)) } := by
        rw [passwordGuesses, bind_update, htally, Option.bind_some, LoginAttempt.wrongFor, if_pos hwrong]
        rfl
      exact hafter ▸ GuessStep.compares hbefore
    · rw [if_neg hwrong] at htally hbefore
      have hafter : passwordGuesses compare key
          ⟨w.db, Function.update w.attempts i (some (.compared account valid))⟩
          (countPasswords w (.compares i)
            ⟨w.db, Function.update w.attempts i (some (.compared account valid))⟩ tally) =
          passwordGuesses compare key w tally := by
        rw [passwordGuesses, bind_update_same, htally]
        · rfl
        · rw [Option.bind_some, LoginAttempt.wrongFor, if_neg hwrong, hbefore]
      exact hafter ▸ GuessStep.same
  next => cases hstep

lemma find?_writeLogin {valid : Bool} : (writeLogin db account valid).accounts.find? key =
      if account.id = key then
        (db.accounts.find? key).map fun r => if valid = true then r.loggedIn db.now else account.failed db.now r
      else db.accounts.find? key := by
  have hkeeps (r : CustomerAccount) :
      (if valid = true then r.loggedIn db.now else account.failed db.now r).id = r.id := by
    split <;> rfl
  rw [writeLogin, Table.find?_updateMany hkeeps]
  cases hfind : db.accounts.find? key with
  | none => simp
  | some r =>
    obtain ⟨_, rfl⟩ := find?_eq_some.mp hfind
    by_cases hid : account.id = r.id
    · rw [if_pos hid, Option.map_some, Option.map_some, if_pos (decide_eq_true hid.symm)]
    · rw [if_neg hid, Option.map_some, if_neg (by simpa using Ne.symm hid)]

variable {read : CustomerAccount}

lemma locked_failed {r : CustomerAccount} {now : ℕ} (h : 5 ≤ read.failedAttempts + 1) :
    (read.failed now r).locked now = true := by
  rw [CustomerAccount.locked, CustomerAccount.failed, if_pos h, Option.any_some]
  exact decide_eq_true (Nat.lt_add_of_pos_right (by norm_num))

lemma locked_failed_of_lt {r : CustomerAccount} {now : ℕ} (h : ¬ 5 ≤ read.failedAttempts + 1) :
    (read.failed now r).locked now = r.locked now := by
  rw [CustomerAccount.locked, CustomerAccount.failed, if_neg h, CustomerAccount.locked]

lemma unlocked_of_failed
    (h : (writeLogin db account false).unlocked account.id = true) :
    db.unlocked account.id = true ∧
      ((writeLogin db account false).accounts.find? account.id).elim 0 CustomerAccount.failedAttempts =
        account.failedAttempts + 1 ∧ account.failedAttempts + 1 < 5 := by
  rw [LoginDb.unlocked, find?_writeLogin, if_pos rfl, Option.any_map] at h
  rw [find?_writeLogin, if_pos rfl, LoginDb.unlocked]
  cases hfind : db.accounts.find? account.id with
  | none =>
    rw [hfind] at h
    cases h
  | some r =>
    rw [hfind] at h
    have hopen : (account.failed db.now r).locked db.now = false := (Bool.not_eq_true' _).mp h
    by_cases hfive : 5 ≤ account.failedAttempts + 1
    · rw [locked_failed hfive] at hopen
      cases hopen
    · rw [locked_failed_of_lt hfive] at hopen
      exact ⟨by rw [Option.any_some, hopen, Bool.not_false], rfl, by omega⟩

lemma passwordGuesses_writes (hstep : loginStep compare w (.writes i) = some w') :
    GuessStep 5 (passwordGuesses compare key w tally)
      (passwordGuesses compare key w' (countPasswords w (.writes i) w' tally)) := by
  simp only [loginStep] at hstep
  split at hstep
  next account valid hi =>
    cases hstep
    have hbefore : (w.attempts i).bind (LoginAttempt.wrongFor compare key) =
        if account.id = key ∧ valid = false then some (.compared account.failedAttempts) else none := by
      rw [hi]
      rfl
    have htally : countPasswords w (.writes i)
        ⟨writeLogin w.db account valid, Function.update w.attempts i none⟩ tally key =
        if account.id = key ∧ valid = true then 0 else tally key := by
      simp only [countPasswords, hi]
      cases valid <;> simp
    rw [passwordGuesses, passwordGuesses, bind_update, htally]
    by_cases hid : account.id = key
    · subst hid
      cases valid with
      | false =>
        rw [if_neg (by simp)]
        rw [if_pos ⟨rfl, rfl⟩] at hbefore
        exact GuessStep.fails hbefore fun hopen => unlocked_of_failed hopen
      | true =>
        rw [if_neg (by simp)] at hbefore
        rw [if_pos ⟨rfl, rfl⟩, Option.bind_none, ← hbefore,
          Function.update_eq_self i fun j => (w.attempts j).bind (LoginAttempt.wrongFor compare account.id)]
        exact GuessStep.startsOver
    · rw [if_neg fun h => hid h.1] at hbefore
      have hopen : (writeLogin w.db account valid).unlocked key = w.db.unlocked key := by
        rw [LoginDb.unlocked, LoginDb.unlocked, find?_writeLogin, if_neg hid]
        rfl
      rw [if_neg fun h => hid h.1, Option.bind_none, ← hbefore,
        Function.update_eq_self i fun j => (w.attempts j).bind (LoginAttempt.wrongFor compare key),
        find?_writeLogin, if_neg hid, hopen]
      exact GuessStep.same
  next => cases hstep

lemma passwordGuesses_waits {ms : ℕ} (hstep : loginStep compare w (.waits ms) = some w') :
    GuessStep 5 (passwordGuesses compare key w tally)
      (passwordGuesses compare key w' (countPasswords w (.waits ms) w' tally)) := by
  cases hstep
  simp only [passwordGuesses, countPasswords]
  split
  next => exact GuessStep.startsOver
  next hends =>
    cases hbefore : w.db.unlocked key with
    | false =>
      have hafter : ({ w.db with now := w.db.now + ms } : LoginDb).unlocked key = false := by
        rw [← Bool.not_eq_true]
        exact fun h => hends ⟨hbefore, h⟩
      rw [hafter, ← hbefore]
      exact GuessStep.same
    | true =>
      cases hafter : ({ w.db with now := w.db.now + ms } : LoginDb).unlocked key with
      | false => exact GuessStep.closes
      | true =>
        rw [← hbefore]
        exact GuessStep.same

lemma passwordGuesses_step {e : LoginEvent} (hstep : loginStep compare w e = some w')
    (halone : WrongAlone compare w e) :
    GuessStep 5 (passwordGuesses compare key w tally)
      (passwordGuesses compare key w' (countPasswords w e w' tally)) := by
  cases e with
  | reads i dto => exact passwordGuesses_reads hstep halone
  | compares i => exact passwordGuesses_compares hstep
  | writes i => exact passwordGuesses_writes hstep
  | waits ms => exact passwordGuesses_waits hstep

lemma covered_of_logins {w w' : LoginWorld × (ℕ → ℕ)} {events : List LoginEvent}
    (h : Run (Guarded (fun w e => WrongAlone compare w.1 e) (LoginStep compare)) w events w')
    (hstart : ∀ key, (passwordGuesses compare key w.1 w.2).Covered 5) (key : ℕ) :
    (passwordGuesses compare key w'.1 w'.2).Covered 5 := by
  refine h.invariant_of_guarded (I := fun w => ∀ key, (passwordGuesses compare key w.1 w.2).Covered 5) ?_ hstart
    key
  intro w e w' hcovered halone hstep key
  obtain ⟨hnext, htally⟩ := hstep
  have hguess : GuessStep 5 (passwordGuesses compare key w.1 w.2)
      (passwordGuesses compare key w'.1 (countPasswords w.1 e w'.1 w.2)) := passwordGuesses_step hnext halone
  rw [← htally] at hguess
  exact (hcovered key).step (by decide) hguess

end Passwords

/-! ### Codes -/

section Codes

variable {compare : Compare} {w w' : VerificationWorld} {tally : ℕ → ℕ} {key : ℕ}

/-- The token has not been consumed. -/
def VerificationDb.usable (db : VerificationDb) (key : ℕ) : Bool :=
  (db.tokens.find? key).any fun r => r.consumedAt = none

def countCodes (w : VerificationWorld) (e : VerificationEvent) (w' : VerificationWorld) (tally : ℕ → ℕ)
    (key : ℕ) : ℕ :=
  match e with
  | .compares i =>
    match w'.attempts i with
    | some (.judged row .wrong) => if row.id = key ∧ w.db.usable key = true then tally key + 1 else tally key
    | _ => tally key
  | .reads _ _ | .writes _ | .waits _ => tally key

def VerificationStep (compare : Compare) (w : VerificationWorld × (ℕ → ℕ)) (e : VerificationEvent)
    (w' : VerificationWorld × (ℕ → ℕ)) : Prop :=
  verificationStep compare w.1 e = some w'.1 ∧ w'.2 = countCodes w.1 e w'.1 w.2

def VerificationAttempt.wrongFor (compare : Compare) (key : ℕ) : VerificationAttempt → Option Guess
  | .read row code =>
    if row.id = key ∧ compare code row.codeHash = false then some (.read row.attempts) else none
  | .judged row verdict => if row.id = key ∧ verdict = .wrong then some (.compared row.attempts) else none

/-- An attempt with a wrong code reads its token only when no other one at that token is on its way. -/
def WrongCodeAlone (compare : Compare) (w : VerificationWorld) : VerificationEvent → Prop
  | .reads _ dto => ∀ row, readToken w.db dto = .ok row → compare dto.code row.codeHash = false →
      ∀ i, (w.attempts i).bind (VerificationAttempt.wrongFor compare row.id) = none
  | .compares _ | .writes _ | .waits _ => True

def codeGuesses (compare : Compare) (key : ℕ) (w : VerificationWorld) (tally : ℕ → ℕ) : Guesses where
  count := (w.db.tokens.find? key).elim 0 CustomerVerificationToken.attempts
  isOpen := w.db.usable key
  tally := tally key
  wrong := fun i => (w.attempts i).bind (VerificationAttempt.wrongFor compare key)

variable {db : VerificationDb} {dto : ConfirmVerificationDto} {row : CustomerVerificationToken}

lemma readToken_ok
    (h : readToken db dto = .ok row) : db.tokens.find? row.id = some row ∧ db.usable row.id = true := by
  unfold readToken at h
  dsimp only at h
  split at h
  · cases h
  next found hfound =>
    cases h
    obtain ⟨hfirst, _⟩ := Option.filter_eq_some_iff.mp hfound
    obtain ⟨hmem, hcond⟩ := Table.mem_of_findFirst hfirst
    simp only [cond_iff] at hcond
    have hfind := find?_of_mem hmem
    refine ⟨hfind, ?_⟩
    rw [VerificationDb.usable, hfind]
    exact decide_eq_true hcond.2

variable {i : ℕ} {x : Option VerificationAttempt}

lemma codeGuesses_update : codeGuesses compare key { w with attempts := Function.update w.attempts i x } tally =
      { codeGuesses compare key w tally with
        wrong := Function.update (codeGuesses compare key w tally).wrong i
          (x.bind (VerificationAttempt.wrongFor compare key)) } := by
  rw [codeGuesses, bind_update]
  rfl

lemma codeGuesses_same
    (h : x.bind (VerificationAttempt.wrongFor compare key) =
      (w.attempts i).bind (VerificationAttempt.wrongFor compare key)) :
    codeGuesses compare key { w with attempts := Function.update w.attempts i x } tally =
      codeGuesses compare key w tally := by
  rw [codeGuesses, bind_update_same h]
  rfl

lemma codeGuesses_reads
    (hstep : verificationStep compare w (.reads i dto) = some w')
    (halone : WrongCodeAlone compare w (.reads i dto)) :
    GuessStep 5 (codeGuesses compare key w tally) (codeGuesses compare key w' tally) := by
  simp only [verificationStep] at hstep
  split at hstep
  next hfree =>
    split at hstep
    next row hread =>
      obtain ⟨hfind, hopen⟩ := readToken_ok hread
      cases hstep
      by_cases htarget : row.targetHash = dto.targetHash
      · rw [if_pos htarget]
        by_cases hwrong : row.id = key ∧ compare dto.code row.codeHash = false
        · obtain ⟨rfl, hcompare⟩ := hwrong
          have hcount : (codeGuesses compare row.id w tally).count = row.attempts := by
            rw [codeGuesses, hfind]
            rfl
          rw [codeGuesses_update, Option.bind_some, VerificationAttempt.wrongFor, if_pos ⟨rfl, hcompare⟩,
            ← hcount]
          exact GuessStep.reads hopen (funext (halone row hread hcompare))
        · rw [codeGuesses_same]
          · exact GuessStep.same
          · rw [Option.bind_some, VerificationAttempt.wrongFor, if_neg hwrong, hfree]
            rfl
      · rw [if_neg htarget, codeGuesses_same]
        · exact GuessStep.same
        · rw [hfree, Option.bind_some, VerificationAttempt.wrongFor, if_neg fun h => nomatch h.2]
          rfl
    next =>
      cases hstep
      exact GuessStep.same
  next => cases hstep

lemma codeGuesses_compares (hstep : verificationStep compare w (.compares i) = some w') :
    GuessStep 5 (codeGuesses compare key w tally)
      (codeGuesses compare key w' (countCodes w (.compares i) w' tally)) := by
  simp only [verificationStep] at hstep
  split at hstep
  next row code hi =>
    cases hstep
    have hbefore : (w.attempts i).bind (VerificationAttempt.wrongFor compare key) =
        if row.id = key ∧ compare code row.codeHash = false then some (.read row.attempts) else none := by
      rw [hi]
      rfl
    cases hcompare : compare code row.codeHash with
    | true =>
      have htally : countCodes w (.compares i)
          ⟨w.db, Function.update w.attempts i (some (.judged row .right))⟩ tally = tally := by
        funext key
        simp only [countCodes, Function.update_self]
      rw [if_neg (by simp [hcompare])] at hbefore
      rw [if_pos rfl, htally, codeGuesses_same]
      · exact GuessStep.same
      · rw [hbefore, Option.bind_some, VerificationAttempt.wrongFor, if_neg fun h => nomatch h.2]
    | false =>
      rw [if_neg Bool.false_ne_true, codeGuesses, codeGuesses, bind_update, Option.bind_some,
        VerificationAttempt.wrongFor]
      by_cases hid : row.id = key
      · rw [if_pos ⟨hid, hcompare⟩] at hbefore
        have htally : countCodes w (.compares i)
            ⟨w.db, Function.update w.attempts i (some (.judged row .wrong))⟩ tally key =
            if w.db.usable key = true then tally key + 1 else tally key := by
          simp only [countCodes, Function.update_self, hid, true_and]
        rw [if_pos ⟨hid, rfl⟩, htally]
        exact GuessStep.compares hbefore
      · rw [if_neg fun h => hid h.1] at hbefore
        have htally : countCodes w (.compares i)
            ⟨w.db, Function.update w.attempts i (some (.judged row .wrong))⟩ tally key = tally key := by
          simp only [countCodes, Function.update_self, hid, false_and, if_false]
        rw [if_neg fun h => hid h.1, htally, ← hbefore,
          Function.update_eq_self i fun j => (w.attempts j).bind (VerificationAttempt.wrongFor compare key)]
        exact GuessStep.same
  next => cases hstep

lemma find?_writeVerdict {verdict : Verdict} : (writeVerdict db row verdict).tokens.find? key =
      if row.id = key then (db.tokens.find? key).map (row.judged db.now verdict) else db.tokens.find? key := by
  have hkeeps (r : CustomerVerificationToken) : (row.judged db.now verdict r).id = r.id := by
    cases verdict <;> simp only [CustomerVerificationToken.judged]
    split <;> rfl
  rw [writeVerdict, Table.find?_updateMany hkeeps]
  cases hfind : db.tokens.find? key with
  | none => simp
  | some r =>
    obtain ⟨_, rfl⟩ := find?_eq_some.mp hfind
    by_cases hid : row.id = r.id
    · rw [if_pos hid, Option.map_some, Option.map_some, if_pos (decide_eq_true hid.symm)]
    · rw [if_neg hid, Option.map_some, if_neg (by simpa using Ne.symm hid)]

lemma usable_of_wrong
    (h : (writeVerdict db row .wrong).usable row.id = true) :
    db.usable row.id = true ∧
      ((writeVerdict db row .wrong).tokens.find? row.id).elim 0 CustomerVerificationToken.attempts =
        row.attempts + 1 ∧ row.attempts + 1 < 5 := by
  rw [VerificationDb.usable, find?_writeVerdict, if_pos rfl, Option.any_map] at h
  rw [find?_writeVerdict, if_pos rfl, VerificationDb.usable]
  cases hfind : db.tokens.find? row.id with
  | none =>
    rw [hfind] at h
    cases h
  | some r =>
    rw [hfind] at h
    by_cases hfive : 5 ≤ row.attempts + 1
    · simp [CustomerVerificationToken.judged, hfive] at h
    · simp only [CustomerVerificationToken.judged, hfive, Option.any_some, if_false] at h
      exact ⟨h, rfl, by omega⟩

lemma writeVerdict_closes (db : VerificationDb) (row : CustomerVerificationToken) {verdict : Verdict}
    (h : verdict ≠ .wrong) : (writeVerdict db row verdict).usable row.id = false ∧
      ((writeVerdict db row verdict).tokens.find? row.id).elim 0 CustomerVerificationToken.attempts =
        (db.tokens.find? row.id).elim 0 CustomerVerificationToken.attempts := by
  rw [VerificationDb.usable, find?_writeVerdict, if_pos rfl]
  cases db.tokens.find? row.id with
  | none => exact ⟨rfl, rfl⟩
  | some r =>
    cases verdict with
    | contactChanged => exact ⟨rfl, rfl⟩
    | wrong => exact absurd rfl h
    | right =>
      simp only [Option.map_some, Option.any_some, Option.elim_some, CustomerVerificationToken.judged]
      split
      next => exact ⟨rfl, rfl⟩
      next hconsumed => exact ⟨decide_eq_false hconsumed, rfl⟩

lemma codeGuesses_writes (hstep : verificationStep compare w (.writes i) = some w') :
    GuessStep 5 (codeGuesses compare key w tally) (codeGuesses compare key w' tally) := by
  simp only [verificationStep] at hstep
  split at hstep
  next row verdict hi =>
    cases hstep
    have hbefore : (w.attempts i).bind (VerificationAttempt.wrongFor compare key) =
        if row.id = key ∧ verdict = .wrong then some (.compared row.attempts) else none := by
      rw [hi]
      rfl
    rw [codeGuesses, codeGuesses, bind_update]
    by_cases hid : row.id = key
    · subst hid
      by_cases hwrong : verdict = .wrong
      · subst hwrong
        rw [if_pos ⟨rfl, rfl⟩] at hbefore
        exact GuessStep.fails hbefore fun hopen => usable_of_wrong hopen
      · rw [if_neg fun h => hwrong h.2] at hbefore
        obtain ⟨hclosed, hcount⟩ := writeVerdict_closes w.db row hwrong
        rw [Option.bind_none, ← hbefore, Function.update_eq_self i fun j =>
          (w.attempts j).bind (VerificationAttempt.wrongFor compare row.id), hclosed, hcount]
        exact GuessStep.closes
    · rw [if_neg fun h => hid h.1] at hbefore
      have hopen : (writeVerdict w.db row verdict).usable key = w.db.usable key := by
        rw [VerificationDb.usable, VerificationDb.usable, find?_writeVerdict, if_neg hid]
      rw [Option.bind_none, ← hbefore, Function.update_eq_self i fun j =>
        (w.attempts j).bind (VerificationAttempt.wrongFor compare key), find?_writeVerdict, if_neg hid, hopen]
      exact GuessStep.same
  next => cases hstep

lemma codeGuesses_step {e : VerificationEvent} (hstep : verificationStep compare w e = some w')
    (halone : WrongCodeAlone compare w e) :
    GuessStep 5 (codeGuesses compare key w tally) (codeGuesses compare key w' (countCodes w e w' tally)) := by
  cases e with
  | reads i dto => exact codeGuesses_reads hstep halone
  | compares i => exact codeGuesses_compares hstep
  | writes i => exact codeGuesses_writes hstep
  | waits ms =>
    cases hstep
    exact GuessStep.same

lemma covered_of_verifications {w w' : VerificationWorld × (ℕ → ℕ)} {events : List VerificationEvent}
    (h : Run (Guarded (fun w e => WrongCodeAlone compare w.1 e) (VerificationStep compare)) w events w')
    (hstart : ∀ key, (codeGuesses compare key w.1 w.2).Covered 5) (key : ℕ) :
    (codeGuesses compare key w'.1 w'.2).Covered 5 := by
  refine h.invariant_of_guarded (I := fun w => ∀ key, (codeGuesses compare key w.1 w.2).Covered 5) ?_ hstart key
  intro w e w' hcovered halone hstep key
  obtain ⟨hnext, htally⟩ := hstep
  have hguess : GuessStep 5 (codeGuesses compare key w.1 w.2)
      (codeGuesses compare key w'.1 (countCodes w.1 e w'.1 w.2)) := codeGuesses_step hnext halone
  rw [← htally] at hguess
  exact (hcovered key).step (by decide) hguess

end Codes

/-! ### Five guesses at most -/

/-- In every run of logins, and in every run of confirmations, that starts when none is on its way, five wrong
passwords at most are compared with an account while it is unlocked since the last login or the end of the last
lock, and five wrong codes at most with a token before it is consumed, if no two wrong attempts at one account
or token are on their way together. -/
theorem five_guesses (compare : Compare) :
    (∀ (db : LoginDb) (events : List LoginEvent) (w : LoginWorld × (ℕ → ℕ)),
      Run (Guarded (fun w e => WrongAlone compare w.1 e) (LoginStep compare))
        (⟨db, fun _ => none⟩, fun _ => 0) events w → ∀ key, w.2 key ≤ 5) ∧
    ∀ (db : VerificationDb) (events : List VerificationEvent) (w : VerificationWorld × (ℕ → ℕ)),
      Run (Guarded (fun w e => WrongCodeAlone compare w.1 e) (VerificationStep compare))
        (⟨db, fun _ => none⟩, fun _ => 0) events w → ∀ key, w.2 key ≤ 5 := by
  constructor
  · intro db events w h key
    exact (covered_of_logins h (fun _ => .quiet rfl (Nat.zero_le 5) fun _ => .inl rfl) key).tally_le
  · intro db events w h key
    exact (covered_of_verifications h (fun _ => .quiet rfl (Nat.zero_le 5) fun _ => .inl rfl) key).tally_le

def followLogins (compare : Compare) : LoginWorld × (ℕ → ℕ) → List LoginEvent → Option (LoginWorld × (ℕ → ℕ))
  | w, [] => some w
  | w, e :: es =>
    (loginStep compare w.1 e).bind fun w' => followLogins compare (w', countPasswords w.1 e w' w.2) es

lemma run_of_followLogins {compare : Compare} {w w' : LoginWorld × (ℕ → ℕ)} {events : List LoginEvent}
    (h : followLogins compare w events = some w') : Run (LoginStep compare) w events w' := by
  induction events generalizing w with
  | nil =>
    cases h
    exact Run.nil _
  | cons e es ih =>
    obtain ⟨next, hnext, hrest⟩ := Option.bind_eq_some_iff.mp h
    exact Run.cons ⟨hnext, rfl⟩ (ih hrest)

def siti : LoginDb where
  now := 0
  branches := Table.empty.put { code := "MAIN", companyId := 1 }
  customers := Table.empty.put { id := 1, companyId := 1, email := some "siti@example.com" }
  accounts := Table.empty.put { id := 1, customerId := 1, passwordHash := "rahasia" }

def guessOf (password : String) : LoginDto := ⟨"MAIN", "siti@example.com", password⟩

def startOf (db : LoginDb) : LoginWorld × (ℕ → ℕ) := (⟨db, fun _ => none⟩, fun _ => 0)

def plain : Compare := fun text hashed => text = hashed

theorem five_guesses_one :
    ∃ w, Run (Guarded (fun w e => WrongAlone plain w.1 e) (LoginStep plain)) (startOf siti)
      [.reads 0 (guessOf "a"), .compares 0, .writes 0] w ∧ w.2 1 = 1 ∧ ∀ key, w.2 key ≤ 5 := by
  have halone : WrongAlone plain (startOf siti).1 (.reads 0 (guessOf "a")) := fun _ _ _ _ => rfl
  obtain ⟨w, hw⟩ : ∃ w,
      followLogins plain (startOf siti) [.reads 0 (guessOf "a"), .compares 0, .writes 0] = some w :=
    Option.isSome_iff_exists.mp (by decide +kernel)
  have hone : (followLogins plain (startOf siti) [.reads 0 (guessOf "a"), .compares 0, .writes 0]).map (·.2 1) =
      some 1 := by decide +kernel
  rw [hw, Option.map_some, Option.some.injEq] at hone
  have hrun : Run (Guarded (fun w e => WrongAlone plain w.1 e) (LoginStep plain)) (startOf siti)
      [.reads 0 (guessOf "a"), .compares 0, .writes 0] w := by
    obtain ⟨_, hreads, hrest⟩ := Run.cons_iff.mp (run_of_followLogins hw)
    obtain ⟨_, hcompares, hrest⟩ := Run.cons_iff.mp hrest
    obtain ⟨_, hwrites, hrest⟩ := Run.cons_iff.mp hrest
    obtain rfl := Run.nil_iff.mp hrest
    exact Run.cons ⟨halone, hreads⟩ (Run.cons ⟨trivial, hcompares⟩ (Run.cons ⟨trivial, hwrites⟩ (Run.nil _)))
  exact ⟨w, hrun, hone, (five_guesses plain).1 siti _ w hrun⟩

def guessing (m n : ℕ) : LoginWorld × (ℕ → ℕ) :=
  (⟨siti, fun i =>
    if i < n then
      some (if i < m then .compared ⟨1, 1, "rahasia", true, 0, none, none⟩ false
        else .read ⟨1, 1, "rahasia", true, 0, none, none⟩ "a")
    else none⟩, fun key => if key = 1 then m else 0)

lemma run_reads (n : ℕ) :
    Run (LoginStep plain) (startOf siti) ((List.range n).map fun i => .reads i (guessOf "a")) (guessing 0 n) := by
  induction n with
  | zero =>
    have hstart : guessing 0 0 = startOf siti := by simp [guessing, startOf]
    exact hstart ▸ Run.nil _
  | succ n ih =>
    rw [List.range_succ, map_append]
    refine Run.append_iff.mpr ⟨_, ih, Run.cons (t := guessing 0 (n + 1)) ⟨?_, rfl⟩ (Run.nil _)⟩
    have hread : readAccount siti (guessOf "a") = .ok ⟨1, 1, "rahasia", true, 0, none, none⟩ := by decide +kernel
    simp only [loginStep, guessing, lt_irrefl, if_false, if_true, hread]
    congr 2
    funext i
    by_cases hi : i = n
    · simp [hi, guessOf]
    · have hlt : i < n + 1 ↔ i < n := by omega
      rw [Function.update_of_ne hi]
      simp only [hlt]

lemma run_compares {m n : ℕ} (h : m ≤ n) :
    Run (LoginStep plain) (guessing 0 n) ((List.range m).map .compares) (guessing m n) := by
  induction m with
  | zero => exact Run.nil _
  | succ m ih =>
    rw [List.range_succ, map_append]
    refine Run.append_iff.mpr ⟨_, ih (Nat.le_of_succ_le h), Run.cons ⟨?_, ?_⟩ (Run.nil _)⟩
    · have hwrong : plain "a" "rahasia" = false := by decide
      simp only [loginStep, guessing, Nat.lt_of_succ_le h, lt_irrefl, if_true, if_false, hwrong]
      congr 2
      funext i
      by_cases hi : i = m
      · simp [hi, Nat.lt_of_succ_le h]
      · have hlt : i < m + 1 ↔ i < m := by omega
        rw [Function.update_of_ne hi]
        simp only [hlt]
    · have hopen : siti.unlocked 1 = true := by decide +kernel
      funext key
      by_cases hkey : key = 1
      · simp [countPasswords, guessing, Nat.lt_of_succ_le h, hkey, hopen]
      · simp [countPasswords, guessing, Nat.lt_of_succ_le h, hkey, Ne.symm hkey]

/-- Six attempts read the account before the first of them is counted. -/
theorem not_five_guesses_at_once : ∃ events w, Run (LoginStep plain) (startOf siti) events w ∧
    w.1.db.unlocked 1 = true ∧ ¬ w.2 1 ≤ 5 :=
  ⟨_, _, Run.append_iff.mpr ⟨_, run_reads 6, run_compares (le_refl 6)⟩, by decide +kernel, by decide⟩

end Mayatoko.Storefront
