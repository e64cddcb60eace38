/-
  Clocks read off a counter that wraps, scaled by a fraction and rounded down. Nothing here
  names a program.

  `read_add_period`: each wrap of the counter takes one period off the reading.
  `within_one_iff`: how differences of readings agree with elapsed time, modulo `W` and to
  within one unit: exactly if the wraps between the two instants make up a multiple of `W`.
-/
import Mathlib.Data.Int.GCD
import Mathlib.Data.Rat.Floor
import Mathlib.Tactic.Linarith
import Mathlib.Tactic.Ring

namespace OtIpr.Lib

/-- A counter that wraps at `wrap`, in units of `num / den`. -/
structure ScaledClock where
  wrap : ℕ
  num : ℕ
  den : ℕ
  den_pos : 0 < den
  den_dvd : den ∣ num * wrap

namespace ScaledClock

variable (C : ScaledClock)

/-- The reading at the count `t`. -/
def read (t : ℕ) : ℕ := C.num * (t % C.wrap) / C.den

/-- What one wrap of the counter is worth. -/
def period : ℕ := C.num * C.wrap / C.den

/-- The units between two counts. -/
def elapsed (t₁ t₂ : ℕ) : ℚ := C.num * ((t₂ : ℚ) - t₁) / C.den

theorem read_add_period (t : ℕ) : C.read t + t / C.wrap * C.period = C.num * t / C.den := by
  have hperiod : C.period * C.den = C.num * C.wrap := Nat.div_mul_cancel C.den_dvd
  have hsplit : C.num * t = C.num * (t % C.wrap) + t / C.wrap * C.period * C.den := by
    calc C.num * t = C.num * (C.wrap * (t / C.wrap) + t % C.wrap) := by rw [Nat.div_add_mod]
      _ = C.num * (t % C.wrap) + t / C.wrap * (C.num * C.wrap) := by ring
      _ = C.num * (t % C.wrap) + t / C.wrap * C.period * C.den := by rw [← hperiod, Nat.mul_assoc]
  rw [hsplit, Nat.add_mul_div_right _ _ C.den_pos]
  rfl

/-- Rounding down costs less than one unit. -/
theorem floor_error (t : ℕ) :
    0 ≤ (C.num * t : ℚ) / C.den - (C.num * t / C.den : ℕ) ∧
      (C.num * t : ℚ) / C.den - (C.num * t / C.den : ℕ) < 1 := by
  have hden : (0 : ℚ) < C.den := Nat.cast_pos.mpr C.den_pos
  have hdiv : (C.num * t : ℚ) = C.den * (C.num * t / C.den : ℕ) + (C.num * t % C.den : ℕ) := by
    exact_mod_cast (Nat.div_add_mod (C.num * t) C.den).symm
  have hmod : ((C.num * t % C.den : ℕ) : ℚ) < C.den :=
    Nat.cast_lt.mpr (Nat.mod_lt _ C.den_pos)
  have herror : (C.num * t : ℚ) / C.den - (C.num * t / C.den : ℕ) =
      (C.num * t % C.den : ℕ) / C.den := by
    rw [hdiv, add_div, mul_div_cancel_left₀ _ hden.ne']
    ring
  rw [herror]
  exact ⟨div_nonneg (Nat.cast_nonneg _) hden.le, (div_lt_one hden).mpr hmod⟩

/-- The wraps between two counts. -/
def wraps (t₁ t₂ : ℕ) : ℤ := (t₂ / C.wrap : ℕ) - (t₁ / C.wrap : ℕ)

/-- A difference of readings is off by whole periods and less than one unit. -/
theorem read_sub_read (t₁ t₂ : ℕ) :
    ∃ ε : ℚ, |ε| < 1 ∧
      (C.read t₂ : ℚ) - C.read t₁ - C.elapsed t₁ t₂ = ε - (C.wraps t₁ t₂ * C.period : ℤ) := by
  obtain ⟨hlo₁, hhi₁⟩ := C.floor_error t₁
  obtain ⟨hlo₂, hhi₂⟩ := C.floor_error t₂
  have h₁ : (C.read t₁ : ℚ) + (t₁ / C.wrap : ℕ) * C.period = (C.num * t₁ / C.den : ℕ) := by
    exact_mod_cast C.read_add_period t₁
  have h₂ : (C.read t₂ : ℚ) + (t₂ / C.wrap : ℕ) * C.period = (C.num * t₂ / C.den : ℕ) := by
    exact_mod_cast C.read_add_period t₂
  refine ⟨((C.num * t₁ : ℚ) / C.den - (C.num * t₁ / C.den : ℕ)) -
    ((C.num * t₂ : ℚ) / C.den - (C.num * t₂ / C.den : ℕ)), ?_, ?_⟩
  · rw [abs_lt]
    constructor <;> linarith
  · have helapsed : C.elapsed t₁ t₂ = (C.num * t₂ : ℚ) / C.den - (C.num * t₁ : ℚ) / C.den := by
      unfold elapsed
      ring
    have hwraps : ((C.wraps t₁ t₂ * C.period : ℤ) : ℚ) =
        ((t₂ / C.wrap : ℕ) - (t₁ / C.wrap : ℕ)) * C.period := by
      rw [wraps, Int.cast_mul, Int.cast_sub, Int.cast_natCast, Int.cast_natCast, Int.cast_natCast]
    rw [helapsed, hwraps, ← h₁, ← h₂]
    ring

/-- Modulo `W` and to within one unit, differences of readings are the elapsed units exactly
    if the wraps in between make up a multiple of `W`. -/
theorem within_one_iff {W : ℕ} (hW : 2 ≤ Nat.gcd C.period W) (t₁ t₂ : ℕ) :
    (∃ k : ℤ, |(C.read t₂ : ℚ) - C.read t₁ - C.elapsed t₁ t₂ - k * W| ≤ 1) ↔
      (W : ℤ) ∣ C.wraps t₁ t₂ * C.period := by
  obtain ⟨ε, hε, herror⟩ := C.read_sub_read t₁ t₂
  rw [herror]
  constructor
  · rintro ⟨k, hk⟩
    -- what is left of the wraps is a multiple of the gcd, and smaller than 2
    have hsmall : |((C.wraps t₁ t₂ * C.period + k * W : ℤ) : ℚ)| < 2 := by
      rw [abs_lt] at hε ⊢
      rw [abs_le] at hk
      push_cast at hk ⊢
      constructor <;> linarith
    have hdvd : (Nat.gcd C.period W : ℤ) ∣ C.wraps t₁ t₂ * C.period + k * W :=
      dvd_add (Dvd.dvd.mul_left (Int.natCast_dvd_natCast.mpr (Nat.gcd_dvd_left _ _)) _)
        (Dvd.dvd.mul_left (Int.natCast_dvd_natCast.mpr (Nat.gcd_dvd_right _ _)) _)
    have hzero : C.wraps t₁ t₂ * C.period + k * W = 0 := by
      refine Int.eq_zero_of_abs_lt_dvd hdvd ?_
      have hlt : |C.wraps t₁ t₂ * C.period + k * W| < 2 := by exact_mod_cast hsmall
      omega
    exact ⟨-k, by linarith⟩
  · rintro ⟨j, hj⟩
    refine ⟨-j, ?_⟩
    have hcancel : ε - ((W * j : ℤ) : ℚ) - ((-j : ℤ) : ℚ) * W = ε := by
      push_cast
      ring
    rw [hj, hcancel]
    exact hε.le

end ScaledClock

end OtIpr.Lib
