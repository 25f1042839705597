import Mathlib.Tactic.Common

/-!
# Counted guesses

A secret may be guessed wrong a limited number of times before it is closed. An attempt reads the count, is
compared with the secret, and then writes back the count that it has read, plus one. Where no two wrong attempts
are on their way together, the number of wrong guesses that were compared while the secret was open stays within
the limit.
-/

namespace Mayatoko.Core

/-- A wrong attempt on its way, with the count that it has read. -/
inductive Guess
  | read (count : ℕ)
  | compared (count : ℕ)

/-- The stored count of a secret, whether it is open, how many wrong guesses were compared with it while it was,
and the wrong attempts on their way. -/
structure Guesses where
  count : ℕ
  isOpen : Bool
  tally : ℕ
  wrong : ℕ → Option Guess

inductive GuessStep (limit : ℕ) (g : Guesses) : Guesses → Prop
  | same : GuessStep limit g g
  | reads {i : ℕ} (hopen : g.isOpen = true) (halone : g.wrong = fun _ => none) :
      GuessStep limit g { g with wrong := Function.update g.wrong i (some (.read g.count)) }
  | compares {i c : ℕ} (h : g.wrong i = some (.read c)) :
      GuessStep limit g
        { g with
          tally := if g.isOpen = true then g.tally + 1 else g.tally
          wrong := Function.update g.wrong i (some (.compared c)) }
  | fails {i c count : ℕ} {isOpen : Bool} (h : g.wrong i = some (.compared c))
      (hopen : isOpen = true → g.isOpen = true ∧ count = c + 1 ∧ c + 1 < limit) :
      GuessStep limit g
        { g with count := count, isOpen := isOpen, wrong := Function.update g.wrong i none }
  | startsOver {count : ℕ} {isOpen : Bool} :
      GuessStep limit g { g with count := count, isOpen := isOpen, tally := 0 }
  | closes : GuessStep limit g { g with isOpen := false }

/-- The count that the attempt is going to write covers the guesses that were compared. -/
def Guess.Covers (limit tally : ℕ) : Guess → Prop
  | .read c => tally = 0 ∨ tally ≤ c ∧ c < limit
  | .compared c => tally ≤ 1 ∨ tally ≤ c + 1 ∧ c < limit

/-- One wrong attempt at most is on its way; while the secret is open, the stored count, or the one that the
attempt is going to write, covers the guesses that were compared. -/
inductive Guesses.Covered (limit : ℕ) (g : Guesses) : Prop
  | quiet (hwrong : g.wrong = fun _ => none) (htally : g.tally ≤ limit)
      (hcover : g.isOpen = true → g.tally = 0 ∨ g.tally ≤ g.count ∧ g.count < limit)
  | alone {i : ℕ} {x : Guess} (hwrong : g.wrong = Function.update (fun _ => none) i (some x))
      (htally : g.tally ≤ limit) (hcover : g.isOpen = true → x.Covers limit g.tally)

variable {limit : ℕ} {g g' : Guesses}

lemma Guesses.Covered.tally_le (h : g.Covered limit) : g.tally ≤ limit := by
  cases h with
  | quiet _ htally _ => exact htally
  | alone _ htally _ => exact htally

/-- The attempt that is on its way is the only one. -/
lemma Guesses.Covered.of_wrong (h : g.Covered limit) {i : ℕ} {x : Guess} (hi : g.wrong i = some x) :
    g.wrong = Function.update (fun _ => none) i (some x) ∧ (g.isOpen = true → x.Covers limit g.tally) := by
  cases h with
  | quiet hwrong _ _ =>
    rw [hwrong] at hi
    cases hi
  | @alone j y hwrong _ hcover =>
    rw [hwrong] at hi
    by_cases hij : i = j
    · subst hij
      rw [Function.update_self] at hi
      cases hi
      exact ⟨hwrong, hcover⟩
    · rw [Function.update_of_ne hij] at hi
      cases hi

lemma Guesses.Covered.step (hlimit : 0 < limit) (h : g.Covered limit) (hstep : GuessStep limit g g') :
    g'.Covered limit := by
  have htally := h.tally_le
  cases hstep with
  | same => exact h
  | @reads i hopen halone =>
    have hwrong := congrArg (fun f => Function.update f i (some (Guess.read g.count))) halone
    refine .alone hwrong htally fun _ => ?_
    cases h with
    | quiet _ _ hcover => exact hcover hopen
    | @alone j _ hwrong _ _ =>
      have hj := congrFun (halone.symm.trans hwrong) j
      rw [Function.update_self] at hj
      cases hj
  | @compares i c hi =>
    obtain ⟨hwrong, hcover⟩ := h.of_wrong hi
    refine .alone (i := i) (x := .compared c) ?_ ?_ ?_
    · rw [hwrong, Function.update_idem]
    · split
      next hopen =>
        have hread := hcover hopen
        simp only [Guess.Covers] at hread
        change g.tally + 1 ≤ limit
        omega
      next => exact htally
    · intro hopen
      have hread := hcover hopen
      simp only [Guess.Covers, if_pos hopen] at hread ⊢
      omega
  | @fails i c count isOpen hi hopen =>
    obtain ⟨hwrong, hcover⟩ := h.of_wrong hi
    refine .quiet ?_ htally fun hafter => ?_
    · rw [hwrong, Function.update_idem]
      exact Function.update_eq_self i fun _ => none
    · obtain ⟨hbefore, rfl, hlt⟩ := hopen hafter
      have hcompared := hcover hbefore
      simp only [Guess.Covers] at hcompared ⊢
      omega
  | startsOver =>
    cases h with
    | quiet hwrong _ _ => exact .quiet hwrong (Nat.zero_le _) fun _ => .inl rfl
    | @alone _ x hwrong _ _ =>
      refine .alone hwrong (Nat.zero_le _) fun _ => ?_
      cases x with
      | read c => exact .inl rfl
      | compared c => exact .inl (Nat.zero_le _)
  | closes =>
    cases h with
    | quiet hwrong _ _ => exact .quiet hwrong htally fun hopen => nomatch hopen
    | alone hwrong _ _ => exact .alone hwrong htally fun hopen => nomatch hopen

end Mayatoko.Core
