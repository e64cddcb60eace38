/-
  acc_integration_efr32.c, `acc_integration_get_time`: the millisecond clock of the radar
  library.

  `Sleeptimer` is what the code relies on of the platform's sleep timer: a tick count of
  32768 Hz in 32 bits, and the conversion of ticks to milliseconds. An instant is the number
  of ticks since boot, however many.

  The clock's interface asks for a value that counts through all 32 bits. It starts over with
  the tick count, at 131072000, so differences across a wrap are wrong: `get_time_wraps_iff`.
-/
import OtIpr.Lib.ScaledClock

namespace OtIpr

open Lib

/-- The sleep timer, read at an instant. -/
structure Sleeptimer where
  get_tick_count : ℕ → UInt32
  tick_to_ms : UInt32 → UInt32
  get_tick_count_eq : ∀ t, (get_tick_count t).toNat = t % 2 ^ 32
  tick_to_ms_eq : ∀ n, (tick_to_ms n).toNat = 1000 * n.toNat / 32768

/-- `acc_integration_get_time()` at an instant. -/
def acc_integration_get_time (T : Sleeptimer) (t : ℕ) : UInt32 := T.tick_to_ms (T.get_tick_count t)

/-- The milliseconds between two instants. -/
def elapsedMs (t₁ t₂ : ℕ) : ℚ := 1000 * ((t₂ : ℚ) - t₁) / 32768

/-- The difference of the clock's values is the elapsed time, modulo 2^32 and to within 1 ms. -/
def ClockWraps (T : Sleeptimer) (t₁ t₂ : ℕ) : Prop :=
  ∃ k : ℤ, |((acc_integration_get_time T t₂ - acc_integration_get_time T t₁).toNat : ℚ) -
    elapsedMs t₁ t₂ - k * 2 ^ 32| ≤ 1

/-- Milliseconds off a tick count that wraps. -/
def msClock : ScaledClock where
  wrap := 2 ^ 32
  num := 1000
  den := 32768
  den_pos := by decide
  den_dvd := by decide

variable (T : Sleeptimer)

theorem get_time_toNat (t : ℕ) : (acc_integration_get_time T t).toNat = msClock.read t := by
  unfold acc_integration_get_time
  rw [T.tick_to_ms_eq, T.get_tick_count_eq]
  rfl

/-- 32-bit subtraction is subtraction up to a multiple of 2^32. -/
theorem uint32_sub (a b : UInt32) :
    ∃ j : ℤ, ((a - b).toNat : ℤ) = a.toNat - b.toNat + j * 2 ^ 32 := by
  have ha := a.toNat_lt
  have hb := b.toNat_lt
  rw [UInt32.toNat_sub]
  rcases Nat.lt_or_ge a.toNat b.toNat with h | h
  · exact ⟨1, by omega⟩
  · exact ⟨0, by omega⟩

/-- The clock's condition as one on the readings: the multiple of 2^32 that the subtraction
    wraps by moves into `k`. -/
theorem clockWraps_iff_read (t₁ t₂ : ℕ) :
    ClockWraps T t₁ t₂ ↔ ∃ k : ℤ,
      |(msClock.read t₂ : ℚ) - msClock.read t₁ - msClock.elapsed t₁ t₂ - k * (2 ^ 32 : ℕ)| ≤ 1 := by
  obtain ⟨j, hj⟩ := uint32_sub (acc_integration_get_time T t₂) (acc_integration_get_time T t₁)
  rw [get_time_toNat, get_time_toNat] at hj
  have hsub : ((acc_integration_get_time T t₂ - acc_integration_get_time T t₁).toNat : ℚ) =
      msClock.read t₂ - msClock.read t₁ + j * 2 ^ 32 := by
    exact_mod_cast congrArg (Int.cast : ℤ → ℚ) hj
  have helapsed : msClock.elapsed t₁ t₂ = elapsedMs t₁ t₂ := by
    norm_num [ScaledClock.elapsed, elapsedMs, msClock]
  unfold ClockWraps
  rw [hsub, helapsed]
  constructor
  · rintro ⟨k, hk⟩
    refine ⟨k - j, le_of_eq_of_le (congrArg abs ?_) hk⟩
    push_cast
    ring
  · rintro ⟨k, hk⟩
    refine ⟨k + j, le_of_eq_of_le (congrArg abs ?_) hk⟩
    push_cast
    ring

/-- Differences of the clock are right exactly for instants with a multiple of 4096 wraps of
    the tick count between them. -/
theorem get_time_wraps_iff (t₁ t₂ : ℕ) :
    ClockWraps T t₁ t₂ ↔ (4096 : ℤ) ∣ (t₂ / 2 ^ 32 : ℕ) - (t₁ / 2 ^ 32 : ℕ) := by
  have hgcd : 2 ≤ Nat.gcd msClock.period (2 ^ 32) := by
    decide +kernel
  have hperiod : (msClock.period : ℤ) = 131072000 := by
    norm_num [ScaledClock.period, msClock]
  have hwraps : msClock.wraps t₁ t₂ = (t₂ / 2 ^ 32 : ℕ) - (t₁ / 2 ^ 32 : ℕ) := rfl
  rw [clockWraps_iff_read, msClock.within_one_iff hgcd, hperiod, hwraps]
  -- 131072000 is 125 * 2^20
  generalize ((t₂ / 2 ^ 32 : ℕ) : ℤ) - (t₁ / 2 ^ 32 : ℕ) = d
  omega

/-- A sleep timer as documented. -/
def Sleeptimer.reference : Sleeptimer where
  get_tick_count t := UInt32.ofNat t
  tick_to_ms n := UInt32.ofNat (1000 * n.toNat / 32768)
  get_tick_count_eq t := by simp
  tick_to_ms_eq n := by
    have hn := n.toNat_lt
    exact UInt32.toNat_ofNat_of_lt' (by unfold UInt32.size; omega)

/-- One tick before the first wrap and at the wrap. -/
theorem get_time_wraps_wrong : ¬ ClockWraps .reference (2 ^ 32 - 1) (2 ^ 32) := by
  rintro ⟨k, hk⟩
  have hdiff : (acc_integration_get_time .reference (2 ^ 32) -
      acc_integration_get_time .reference (2 ^ 32 - 1)).toNat = 4163895297 := by
    decide +kernel
  rw [hdiff, abs_le] at hk
  norm_num [elapsedMs] at hk
  have hlo : (k : ℚ) < 1 := by linarith
  have hhi : (0 : ℚ) < k := by linarith
  have : k < 1 := by exact_mod_cast hlo
  have : 0 < k := by exact_mod_cast hhi
  omega

end OtIpr
