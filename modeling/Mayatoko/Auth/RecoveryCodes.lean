import Mayatoko.Auth.Sessions

/-!
# Recovery codes

A request reads the recovery codes of a user and later writes back those that remain. Where the stored
codes are still those that were read, no code is accepted twice and none comes back.
-/

namespace Mayatoko.Auth

open Core

def AuthLabel.consumed : AuthLabel → Option (ℕ × ℕ)
  | codeConsumed userId _ code => some (userId, code)
  | loggedIn _ _ _ | rotated _ _ _ | passwordReset _ | other => none

def consumptions (ls : List (Option AuthLabel)) : List (ℕ × ℕ) :=
  ls.filterMap fun l => l.bind AuthLabel.consumed

/-- Where the recovery codes of a user come from after a step with the label `l`. -/
inductive CodesCame (db : AuthDb) (l : Option AuthLabel) (db' : AuthDb) (u' : User) : Prop
  | kept {u : User} (hu : u ∈ db.users) (hid : u'.id = u.id)
      (hcodes : u'.twoFactorRecoveryCodes = u.twoFactorRecoveryCodes)
      (hl : ∀ stored code, l ≠ some (.codeConsumed u.id stored code))
  | consumed {stored : List ℕ} {code : ℕ} (hl : l = some (.codeConsumed u'.id stored code))
      (hcodes : u'.twoFactorRecoveryCodes = stored.erase code)
  | issued (hdrawn : ∀ code ∈ u'.twoFactorRecoveryCodes, db.nextSecret ≤ code ∧ code < db'.nextSecret)
      (hnodup : u'.twoFactorRecoveryCodes.Nodup)

variable {db db' : AuthDb} {l : Option AuthLabel}

lemma codes_came (h : AuthStateStep db l db') {u' : User} (hu' : u' ∈ db'.users) : CodesCame db l db' u' := by
  cases h with
  | idle => exact .kept hu' rfl rfl (by simp)
  | outside h =>
    cases h with
    | clock | branches => exact .kept hu' rfl rfl (by simp)
    | createUser _ =>
      obtain rfl | ⟨hu', _⟩ := mem_put.mp hu'
      · exact .issued (by simp) List.nodup_nil
      · exact .kept hu' rfl rfl (by simp)
    | setUserRoles hu | setUserStatus hu =>
      obtain rfl | ⟨hu', _⟩ := mem_put.mp hu'
      · exact .kept hu rfl rfl (by simp)
      · exact .kept hu' rfl rfl (by simp)
  | step h =>
    cases h with
    | draws | logsIn | rotates | marks => exact .kept hu' rfl rfl (by simp)
    | resets hu _ _ =>
      obtain rfl | ⟨hu', _⟩ := mem_put.mp hu'
      · exact .kept hu rfl rfl (by simp)
      · exact .kept hu' rfl rfl (by simp)
    | consumes hu _ =>
      obtain rfl | ⟨hu', hne⟩ := mem_put.mp hu'
      · exact .consumed rfl rfl
      · refine .kept hu' rfl rfl fun stored code hl => hne ?_
        rw [Option.some.injEq, AuthLabel.codeConsumed.injEq] at hl
        exact hl.1.symm
    | changesFactor hu hid _ hcodes _ =>
      obtain rfl | ⟨hu', _⟩ := mem_put.mp hu'
      · obtain hsame | ⟨hnew, hle⟩ := hcodes
        · exact .kept hu hid hsame (by simp)
        · refine .issued (fun code hcode => ?_) (hnew ▸ List.nodup_range')
          rw [hnew, List.mem_range'_1] at hcode
          exact ⟨hcode.1, hcode.2.trans_le (Nat.add_le_add_left hle _)⟩
      · exact .kept hu' rfl rfl (by simp)

lemma codeConsumed_inv {userId code : ℕ} {stored : List ℕ}
    (h : AuthStateStep db (some (.codeConsumed userId stored code)) db') : code ∈ stored := by
  generalize hl : some (AuthLabel.codeConsumed userId stored code) = l at h
  cases h with
  | idle => cases hl
  | outside _ => cases hl
  | step h =>
    cases h with
    | consumes _ hcode =>
      rw [Option.some.injEq, AuthLabel.codeConsumed.injEq] at hl
      obtain ⟨-, rfl, rfl⟩ := hl
      exact hcode
    | draws | logsIn | rotates | marks | resets | changesFactor => cases hl

/-- The condition on a step that accepts a recovery code: the codes of the user are those that the request
has read. -/
def StoredCodesRead (db : AuthDb) : Option AuthLabel → Prop
  | some (.codeConsumed userId stored _) =>
    ∃ u ∈ db.users, u.id = userId ∧ u.twoFactorRecoveryCodes = stored
  | _ => True

/-- The recovery codes were drawn, and no user has one twice. -/
structure CodesDrawn (db : AuthDb) : Prop where
  drawn : ∀ u ∈ db.users, ∀ code ∈ u.twoFactorRecoveryCodes, code < db.nextSecret
  nodup : ∀ u ∈ db.users, u.twoFactorRecoveryCodes.Nodup

lemma code_before (hdrawn : CodesDrawn db) (hread : StoredCodesRead db l) (h : AuthStateStep db l db')
    {u' : User} (hu' : u' ∈ db'.users) {code : ℕ} (hcode : code ∈ u'.twoFactorRecoveryCodes) :
    db.nextSecret ≤ code ∧ code < db'.nextSecret ∨
      (∃ u ∈ db.users, u.id = u'.id ∧ code ∈ u.twoFactorRecoveryCodes) ∧
        l.bind AuthLabel.consumed ≠ some (u'.id, code) := by
  cases codes_came h hu' with
  | kept hu hid hcodes hl =>
    rw [hcodes] at hcode
    refine .inr ⟨⟨_, hu, hid.symm, hcode⟩, fun hconsumed => ?_⟩
    rw [Option.bind_eq_some_iff] at hconsumed
    obtain ⟨_ | _ | _ | ⟨userId, stored, accepted⟩ | _, rfl, hx⟩ := hconsumed <;> cases hx
    exact hl stored code (by rw [hid])
  | @consumed stored accepted hl hcodes =>
    subst hl
    obtain ⟨u, hu, hid, rfl⟩ := hread
    rw [hcodes] at hcode
    refine .inr ⟨⟨u, hu, hid, List.mem_of_mem_erase hcode⟩, ?_⟩
    rintro ⟨⟩
    exact (hdrawn.nodup u hu).not_mem_erase hcode
  | issued hdrawn _ => exact .inl (hdrawn code hcode)

lemma CodesDrawn.step (hdrawn : CodesDrawn db) (hread : StoredCodesRead db l)
    (h : AuthStateStep db l db') : CodesDrawn db' := by
  refine ⟨fun u' hu' code hcode => ?_, fun u' hu' => ?_⟩
  · obtain ⟨_, hlt⟩ | ⟨⟨u, hu, _, hmem⟩, _⟩ := code_before hdrawn hread h hu' hcode
    · exact hlt
    · exact (hdrawn.drawn u hu code hmem).trans_le (nextSecret_le h)
  · cases codes_came h hu' with
    | kept hu _ hcodes _ =>
      rw [hcodes]
      exact hdrawn.nodup _ hu
    | consumed hl hcodes =>
      subst hl
      obtain ⟨u, hu, _, rfl⟩ := hread
      rw [hcodes]
      exact (hdrawn.nodup u hu).erase _
    | issued _ hnodup => exact hnodup

/-- No code was accepted twice, and no user has a code that was accepted. -/
structure ConsumedOnce (past : List (Option AuthLabel)) (db : AuthDb) : Prop where
  codes : CodesDrawn db
  once : (consumptions past).Nodup
  gone : ∀ x ∈ consumptions past, x.2 < db.nextSecret ∧
    ∀ u ∈ db.users, u.id = x.1 → x.2 ∉ u.twoFactorRecoveryCodes

lemma ConsumedOnce.step {past : List (Option AuthLabel)} (hpast : ConsumedOnce past db)
    (hread : StoredCodesRead db l) (h : AuthStateStep db l db') : ConsumedOnce (past ++ [l]) db' := by
  have hsplit : consumptions (past ++ [l]) = consumptions past ++ consumptions [l] :=
    List.filterMap_append
  have hlast : ∀ x ∈ consumptions [l], l.bind AuthLabel.consumed = some x ∧
      ∃ u ∈ db.users, u.id = x.1 ∧ x.2 ∈ u.twoFactorRecoveryCodes := by
    rintro x hx
    simp only [consumptions, List.mem_filterMap, mem_singleton, exists_eq_left] at hx
    refine ⟨hx, ?_⟩
    rw [Option.bind_eq_some_iff] at hx
    obtain ⟨_ | _ | _ | ⟨userId, stored, accepted⟩ | _, rfl, hx⟩ := hx <;> cases hx
    obtain ⟨u, hu, hid, rfl⟩ := hread
    exact ⟨u, hu, hid, codeConsumed_inv h⟩
  refine ⟨hpast.codes.step hread h, ?_, fun x hx => ?_⟩
  · rw [hsplit]
    refine hpast.once.append ?_ fun x hold hnew => ?_
    · cases hl : l.bind AuthLabel.consumed <;> simp [consumptions, hl]
    · obtain ⟨_, u, hu, hid, hmem⟩ := hlast x hnew
      exact (hpast.gone x hold).2 u hu hid hmem
  · -- An accepted code was drawn before the step, and no user has it or it is the one just accepted.
    have hbefore : x.2 < db.nextSecret ∧ (l.bind AuthLabel.consumed = some x ∨
        ∀ u ∈ db.users, u.id = x.1 → x.2 ∉ u.twoFactorRecoveryCodes) := by
      rw [hsplit, mem_append] at hx
      obtain hold | hnew := hx
      · exact ⟨(hpast.gone x hold).1, .inr (hpast.gone x hold).2⟩
      · obtain ⟨hl, u, hu, _, hmem⟩ := hlast x hnew
        exact ⟨hpast.codes.drawn u hu _ hmem, .inl hl⟩
    refine ⟨hbefore.1.trans_le (nextSecret_le h), fun u' hu' hid' hmem => ?_⟩
    obtain ⟨hle, _⟩ | ⟨⟨u, hu, hid, hold⟩, hnot⟩ := code_before hpast.codes hread h hu' hmem
    · exact absurd hbefore.1 (not_lt.mpr hle)
    · obtain hl | hgone := hbefore.2
      · exact hnot (by rw [hl, hid'])
      · exact hgone u hu (hid.trans hid') hold

variable (c : AuthConfig)

/-- The steps of the server of which those that accept a recovery code meet `StoredCodesRead`. -/
abbrev CodesReadStep := Guarded (fun p a => StoredCodesRead p.state a.label) (AuthServerStep c)

/-- Where the stored codes are still those that were read when a code is accepted, every recovery code is
accepted at most once and is not stored any more afterwards. -/
theorem recovery_codes_once {p q : Pool AuthLabel AuthDb (Except Failure AuthAnswer)}
    {as : List (PoolAction AuthRequest AuthLabel (Except Failure AuthAnswer))} (hidle : p.Idle)
    (hcodes : CodesDrawn p.state) (hrun : Run (CodesReadStep c) p as q) :
    (consumptions (as.map PoolAction.label)).Nodup ∧
      ∀ x ∈ consumptions (as.map PoolAction.label), ∀ u ∈ q.state.users, u.id = x.1 →
        x.2 ∉ u.twoFactorRecoveryCodes := by
  have hstate := Pool.run_state (process_steps c) hidle.steps hrun
  have honce : ConsumedOnce [] p.state := ⟨hcodes, List.nodup_nil, by simp [consumptions]⟩
  have hend := hstate.invariant_past (fun _ _ _ _ hI hs => hI.step hs.1 hs.2) honce
  exact ⟨hend.once, fun x hx => (hend.gone x hx).2⟩

/-! A cashier with a second factor and two recovery codes. -/

def guardedCashier : User :=
  { cashier with twoFactorEnabled := true, twoFactorRecoveryCodes := [1, 2] }

def guardedDb : AuthDb := { cashierDb with users := Table.empty.put guardedCashier }

def guardedPool : Pool AuthLabel AuthDb (Except Failure AuthAnswer) := ⟨guardedDb, fun _ => none⟩

lemma guardedDb_drawn : CodesDrawn guardedDb :=
  ⟨by simp [guardedDb, guardedCashier, cashierDb, mem_put],
    by simp [guardedDb, guardedCashier, cashierDb, mem_put]⟩

instance (db : AuthDb) (l : Option AuthLabel) : Decidable (StoredCodesRead db l) :=
  match l with
  | some (.codeConsumed userId stored _) => inferInstanceAs
    (Decidable (∃ u ∈ db.users.rows, u.id = userId ∧ u.twoFactorRecoveryCodes = stored))
  | some (.rotated _ _ _) | some (.passwordReset _) | some (.loggedIn _ _ _) | some .other | none =>
    isTrue trivial

theorem recovery_codes_once_cashier : ∃ as q, Run (CodesReadStep plainConfig) guardedPool as q ∧
      consumptions (as.map PoolAction.label) = [(1, 1), (1, 2)] ∧
      ∀ x ∈ consumptions (as.map PoolAction.label), ∀ u ∈ q.state.users, u.id = x.1 →
        x.2 ∉ u.twoFactorRecoveryCodes := by
  obtain ⟨as, q, hrun, hconsumed⟩ := Pool.exists_run_of_play plainConfig.process
    guardedPool clock_moves StoredCodesRead
    [.start 0 (.login "kasir@toko.id" "lama" "A"), .step 0, .step 0, .step 0,
      .start 1 (.login "kasir@toko.id" "lama" "BB"), .step 1, .step 1, .step 1]
    (fun ls _ => consumptions ls = [(1, 1), (1, 2)]) (by decide +kernel)
  have honce := recovery_codes_once plainConfig (fun _ => rfl) guardedDb_drawn hrun
  exact ⟨as, q, hrun, hconsumed, honce.2⟩

/-- Two logins that read the codes before either writes: both are let in with the same code, and a third
request with the other code writes the accepted code back. -/
theorem recovery_code_twice : ∃ as q, Run (AuthServerStep plainConfig) guardedPool as q ∧
      consumptions (as.map PoolAction.label) = [(1, 1), (1, 1), (1, 2)] ∧
      ∃ u ∈ q.state.users, u.id = 1 ∧ 1 ∈ u.twoFactorRecoveryCodes := by
  obtain ⟨as, q, hrun, hconsumed, hback⟩ := Pool.exists_run_of_play plainConfig.process
    guardedPool clock_moves (fun _ _ => True)
    [.start 0 (.login "kasir@toko.id" "lama" "A"), .start 1 (.login "kasir@toko.id" "lama" "A"),
      .start 2 (.login "kasir@toko.id" "lama" "BB"), .step 0, .step 1, .step 2, .step 0, .step 1, .step 2,
      .step 0, .step 1, .step 2]
    (fun ls db => consumptions ls = [(1, 1), (1, 1), (1, 2)] ∧
      ∃ u ∈ db.users.rows, u.id = 1 ∧ 1 ∈ u.twoFactorRecoveryCodes) (by decide +kernel)
  exact ⟨as, q, hrun.of_guarded, hconsumed, hback⟩

end Mayatoko.Auth
