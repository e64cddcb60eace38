/-
  Alternating sequences and the switch they switch. Nothing here names a program.

  `Toggle x y on l`: the list `l` of messages alternates `x, y, x, y, …`, and a receiver who
  read them all holds the switch `on`. A sender who sends `x` only when the switch is off and
  `y` only when it is on keeps this (`Toggle.turn_on`, `Toggle.turn_off`), and the last
  message tells the switch (`Toggle.getLast?_eq_some`).
-/
import Mathlib.Data.List.Basic

namespace OtIpr.Lib

universe u

variable {α : Type u}

/-- `x, y, x, y, …`, of length `n`. -/
def alternating (x y : α) : ℕ → List α
  | 0 => []
  | n + 1 => x :: alternating y x n

/-- The next message of an alternating sequence. -/
theorem alternating_succ (x y : α) (n : ℕ) :
    alternating x y (n + 1) = alternating x y n ++ [if n % 2 = 0 then x else y] := by
  induction n generalizing x y with
  | zero => rfl
  | succ n ih =>
    rw [alternating, ih y x, alternating, List.cons_append]
    rcases Nat.mod_two_eq_zero_or_one n with h | h
    · rw [if_pos h, if_neg (by omega)]
    · rw [if_neg (by omega), if_pos (by omega)]

/-- How often each of the two comes in an alternating sequence. -/
theorem count_alternating [BEq α] [LawfulBEq α] {x y : α} (hxy : x ≠ y) (n : ℕ) :
    (alternating x y n).count x = (n + 1) / 2 ∧ (alternating x y n).count y = n / 2 := by
  induction n generalizing x y with
  | zero => exact ⟨rfl, rfl⟩
  | succ n ih =>
    obtain ⟨hy, hx⟩ := ih hxy.symm
    rw [alternating, List.count_cons_self, List.count_cons_of_ne hxy, hy, hx]
    omega

/-- The messages `l` alternate from `x`, and switch an `x`/`y` switch to `on`. -/
structure Toggle (x y : α) (on : Bool) (l : List α) : Prop where
  alternates : l = alternating x y l.length
  parity : on = decide (l.length % 2 = 1)

namespace Toggle

variable {x y : α} {on : Bool} {l : List α}

theorem nil : Toggle x y false [] := ⟨rfl, rfl⟩

theorem turn_on (h : Toggle x y false l) : Toggle x y true (l ++ [x]) := by
  have hp : l.length % 2 = 0 := by simpa using h.parity
  refine ⟨?_, ?_⟩
  · rw [List.length_append, List.length_singleton, alternating_succ, if_pos hp, ← h.alternates]
  · rw [List.length_append, List.length_singleton, decide_eq_true (by omega)]

theorem turn_off (h : Toggle x y true l) : Toggle x y false (l ++ [y]) := by
  have hp : l.length % 2 = 1 := by simpa using h.parity
  refine ⟨?_, ?_⟩
  · rw [List.length_append, List.length_singleton, alternating_succ, if_neg (by omega),
      ← h.alternates]
  · rw [List.length_append, List.length_singleton, decide_eq_false (by omega)]

/-- The switch is on exactly when the last message is `x`. -/
theorem getLast?_eq_some (hxy : x ≠ y) (h : Toggle x y on l) :
    on = true ↔ l.getLast? = some x := by
  have hp := h.parity
  rw [h.alternates]
  generalize l.length = n at hp ⊢
  cases n with
  | zero => simp [hp, alternating]
  | succ n =>
    rw [alternating_succ, List.getLast?_append_of_ne_nil _ (by simp), hp]
    rcases Nat.mod_two_eq_zero_or_one n with h | h
    · simp [h]
      omega
    · simp [h, hxy.symm]
      omega

end Toggle

end OtIpr.Lib
