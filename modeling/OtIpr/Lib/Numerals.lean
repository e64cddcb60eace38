/-
  Numerals: the digits `Nat.toDigits` writes in a base of at most 16. Nothing here names a
  program.

  Which characters a numeral uses (`mem_toDigits`), how long it is (`length_toDigits_le`,
  `length_toDigits`), that it tells its number (`toDigits_injective`), and what two numerals
  written one after the other tell (`toDigits_append_inj`): a numeral that does not start
  with 0 runs together with the next one to the numeral of a third number.
-/
import Mathlib.Algebra.Order.Ring.Nat
import Mathlib.Data.Nat.Log
import Mathlib.Tactic.Ring

namespace OtIpr.Lib

variable {b : ℕ}

/-! ## Characters and lengths -/

/-- Every character of a numeral is a digit character. -/
theorem mem_toDigits {n : ℕ} (hb : 1 < b) {c : Char} (hc : c ∈ Nat.toDigits b n) :
    ∃ d, c = Nat.digitChar d := by
  induction n using Nat.strongRecOn with
  | ind n ih =>
    rw [Nat.toDigits_eq_if hb] at hc
    split at hc
    · exact ⟨n, by simpa using hc⟩
    · rename_i hge
      rcases List.mem_append.mp hc with hc | hc
      · exact ih (n / b) (Nat.div_lt_self (by omega) hb) hc
      · exact ⟨n % b, by simpa using hc⟩

/-- A numeral of a number below `b ^ k` has at most `k` digits. -/
theorem length_toDigits_le {n k : ℕ} (hb : 1 < b) (hk : 0 < k) (hn : n < b ^ k) :
    (Nat.toDigits b n).length ≤ k := (Nat.length_toDigits_le_iff hb hk).mpr hn

/-- The number of digits is one more than the logarithm. -/
theorem length_toDigits (hb : 1 < b) (n : ℕ) : (Nat.toDigits b n).length = Nat.log b n + 1 := by
  have hpos := Nat.length_toDigits_pos (b := b) (n := n)
  apply Nat.le_antisymm
  · exact length_toDigits_le hb (Nat.succ_pos _) (Nat.lt_pow_succ_log_self hb n)
  · have hlt : n < b ^ (Nat.toDigits b n).length :=
      (Nat.length_toDigits_le_iff hb hpos).mp (Nat.le_refl _)
    exact Nat.log_lt_of_lt_pow' (by omega) hlt

/-! ## A numeral tells its number -/

theorem digitChar_injOn {d e : ℕ} (hd : d < 16) (he : e < 16)
    (h : Nat.digitChar d = Nat.digitChar e) : d = e := by
  have hall : ∀ d < 16, ∀ e < 16, Nat.digitChar d = Nat.digitChar e → d = e := by decide
  exact hall d hd e he h

theorem toDigits_injective (hb : 1 < b) (hb16 : b ≤ 16) {m n : ℕ}
    (h : Nat.toDigits b m = Nat.toDigits b n) : m = n := by
  induction m using Nat.strongRecOn generalizing n with
  | ind m ih =>
    have hlen := congrArg List.length h
    rcases Nat.lt_or_ge m b with hm | hm <;> rcases Nat.lt_or_ge n b with hn | hn
    · rw [Nat.toDigits_of_lt_base hm, Nat.toDigits_of_lt_base hn] at h
      exact digitChar_injOn (by omega) (by omega) (List.cons.inj h).1
    · -- one digit against two or more
      have hpos := Nat.length_toDigits_pos (b := b) (n := n / b)
      rw [Nat.toDigits_of_lt_base hm, Nat.toDigits_of_base_le hb hn] at hlen
      simp at hlen
    · have hpos := Nat.length_toDigits_pos (b := b) (n := m / b)
      rw [Nat.toDigits_of_base_le hb hm, Nat.toDigits_of_lt_base hn] at hlen
      simp at hlen
    · rw [Nat.toDigits_of_base_le hb hm, Nat.toDigits_of_base_le hb hn] at h
      obtain ⟨hhigh, hlow⟩ := List.append_inj' h rfl
      have hdiv := ih (m / b) (Nat.div_lt_self (by omega) hb) hhigh
      have hmod := digitChar_injOn (Nat.lt_of_lt_of_le (Nat.mod_lt m (by omega)) hb16)
        (Nat.lt_of_lt_of_le (Nat.mod_lt n (by omega)) hb16) (List.cons.inj hlow).1
      rw [← Nat.div_add_mod m b, ← Nat.div_add_mod n b, hdiv, hmod]

theorem head?_toDigits_append (n : ℕ) (l : List Char) :
    (Nat.toDigits b n ++ l).head? = (Nat.toDigits b n).head? := by
  rw [List.head?_append, List.head?_eq_some_head Nat.toDigits_ne_nil]
  rfl

/-- Only the numeral of 0 starts with the digit 0. -/
theorem head?_toDigits (hb : 1 < b) (n : ℕ) :
    (Nat.toDigits b n).head? = some '0' ↔ n = 0 := by
  induction n using Nat.strongRecOn with
  | ind n ih =>
    rcases Nat.lt_or_ge n b with hn | hn
    · rw [Nat.toDigits_of_lt_base hn]
      simp
    · have hdiv : n / b ≠ 0 := Nat.div_ne_zero_iff.mpr ⟨by omega, hn⟩
      rw [Nat.toDigits_of_base_le hb hn, head?_toDigits_append,
        ih (n / b) (Nat.div_lt_self (by omega) hb)]
      exact iff_of_false hdiv (by omega)

/-! ## Two numerals in a row -/

/-- A numeral that does not start with 0 runs together with the next one. -/
theorem toDigits_append (hb : 1 < b) {m : ℕ} (hm : 0 < m) (n : ℕ) :
    Nat.toDigits b m ++ Nat.toDigits b n =
      Nat.toDigits b (m * b ^ (Nat.toDigits b n).length + n) := by
  induction n using Nat.strongRecOn with
  | ind n ih =>
    rcases Nat.lt_or_ge n b with hn | hn
    · rw [Nat.toDigits_append_toDigits hb hm hn, Nat.toDigits_of_lt_base hn]
      simp [Nat.mul_comm]
    · have hmod : n % b < b := Nat.mod_lt n (by omega)
      have hpos : 0 < m * b ^ (Nat.toDigits b (n / b)).length + n / b :=
        Nat.add_pos_left (Nat.mul_pos hm (Nat.pow_pos (by omega))) _
      have hstep : ∀ k, b * (m * b ^ k + n / b) + n % b = m * b ^ (k + 1) + n := by
        intro k
        calc b * (m * b ^ k + n / b) + n % b = m * b ^ (k + 1) + (b * (n / b) + n % b) := by ring
          _ = m * b ^ (k + 1) + n := by rw [Nat.div_add_mod]
      rw [Nat.toDigits_of_base_le hb hn, ← List.append_assoc,
        ih (n / b) (Nat.div_lt_self (by omega) hb), ← Nat.toDigits_of_lt_base hmod,
        Nat.toDigits_append_toDigits hb hpos hmod, hstep, Nat.toDigits_of_lt_base hmod,
        List.length_append, List.length_singleton]

/-- When two pairs of numerals read the same: they are the same pair, or both first numbers
    are positive and the pairs run together to the same number. -/
theorem toDigits_append_inj (hb : 1 < b) (hb16 : b ≤ 16) {m n m' n' : ℕ} :
    Nat.toDigits b m ++ Nat.toDigits b n = Nat.toDigits b m' ++ Nat.toDigits b n' ↔
      (m = m' ∧ n = n') ∨ (0 < m ∧ 0 < m' ∧
        m * b ^ (Nat.toDigits b n).length + n = m' * b ^ (Nat.toDigits b n').length + n') := by
  have hhead : ∀ k l, (Nat.toDigits b k ++ Nat.toDigits b l).head? = some '0' ↔ k = 0 :=
    fun k l => by
      rw [head?_toDigits_append]
      exact head?_toDigits hb k
  constructor
  · intro h
    have hzero : m = 0 ↔ m' = 0 := by rw [← hhead m n, ← hhead m' n', h]
    rcases Nat.eq_zero_or_pos m with hm | hm
    · have hm' := hzero.mp hm
      rw [hm, hm'] at h
      exact Or.inl ⟨hm.trans hm'.symm, toDigits_injective hb hb16 (List.append_cancel_left h)⟩
    · have hm' : 0 < m' := by omega
      rw [toDigits_append hb hm, toDigits_append hb hm'] at h
      exact Or.inr ⟨hm, hm', toDigits_injective hb hb16 h⟩
  · rintro (⟨rfl, rfl⟩ | ⟨hm, hm', h⟩)
    · rfl
    · rw [toDigits_append hb hm, toDigits_append hb hm', h]

end OtIpr.Lib
