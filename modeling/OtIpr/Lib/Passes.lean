/-
  Loops that run pass after pass until a test fails. Nothing here names a program.

  `firstExit stay fuel k`: the first of the passes `k, k + 1, …` that does not stay, among
  the next `fuel`. `firstExit_eq_some` and `firstExit_eq_none` say which one that is.
-/
import Mathlib.Data.Nat.Basic

namespace OtIpr.Lib

section

variable (stay : ℕ → Prop) [DecidablePred stay]

/-- The first of at most `fuel` passes from `k` on that leaves. -/
def firstExit : (fuel k : ℕ) → Option ℕ
  | 0, _ => none
  | fuel + 1, k => if stay k then firstExit fuel (k + 1) else some k

variable {stay}

theorem firstExit_eq_some {fuel j k : ℕ} :
    firstExit stay fuel j = some k ↔
      j ≤ k ∧ k < j + fuel ∧ ¬ stay k ∧ ∀ i, j ≤ i → i < k → stay i := by
  induction fuel generalizing j with
  | zero =>
    refine iff_of_false (by simp [firstExit]) ?_
    rintro ⟨hle, hlt, -⟩
    omega
  | succ fuel ih =>
    rw [firstExit]
    by_cases hj : stay j
    · rw [if_pos hj, ih]
      constructor
      · rintro ⟨hle, hlt, hk, hstay⟩
        refine ⟨by omega, by omega, hk, fun i hji hik => ?_⟩
        rcases Nat.eq_or_lt_of_le hji with rfl | hlt'
        · exact hj
        · exact hstay i hlt' hik
      · rintro ⟨hle, hlt, hk, hstay⟩
        have hne : j ≠ k := fun heq => hk (heq ▸ hj)
        exact ⟨by omega, by omega, hk, fun i hji hik => hstay i (by omega) hik⟩
    · rw [if_neg hj, Option.some.injEq]
      constructor
      · rintro rfl
        exact ⟨Nat.le_refl _, by omega, hj, fun i hji hik => by omega⟩
      · rintro ⟨hle, -, -, hstay⟩
        by_contra hne
        exact hj (hstay j (Nat.le_refl _) (by omega))

theorem firstExit_eq_none {fuel j : ℕ} :
    firstExit stay fuel j = none ↔ ∀ i, j ≤ i → i < j + fuel → stay i := by
  induction fuel generalizing j with
  | zero => exact iff_of_true rfl fun i hji hi => by omega
  | succ fuel ih =>
    rw [firstExit]
    by_cases hj : stay j
    · rw [if_pos hj, ih]
      constructor
      · intro h i hji hi
        rcases Nat.eq_or_lt_of_le hji with rfl | hlt
        · exact hj
        · exact h i hlt (by omega)
      · intro h i hji hi
        exact h i (by omega) (by omega)
    · rw [if_neg hj]
      exact iff_of_false (by simp) fun h => hj (h j (Nat.le_refl _) (by omega))

end

end OtIpr.Lib
