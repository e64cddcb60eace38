/-
  Leaky counters: a level that a hit raises by `up` and a miss lowers by `down`, between a
  floor and a soft cap. Nothing here names a program.

  The cap is soft: a hit below it may overshoot, and the next hit brings the level back to
  the cap without a miss. All levels lie on the grid of multiples of `down`.

  Rules used by the developments over it:
  * `step_valid`: the range and the grid are kept.
  * `passes_at`: a descent below a grid level leaves from exactly that level, by a miss.
  * `height_le`, `depth_le`: the level up to the cap falls by `down` a miss only, the room
    above the level shrinks by `up` a hit only. These are potentials: they bound from below
    the misses of every descent and the hits of every ascent.
-/
import Mathlib.Order.MinMax
import Mathlib.Data.Nat.Basic

namespace OtIpr.Lib

structure LeakyCounter where
  floor : ℕ
  cap : ℕ
  up : ℕ
  down : ℕ
  floor_le_cap : floor ≤ cap
  down_le_up : down ≤ up
  floor_aligned : down ∣ floor
  cap_aligned : down ∣ cap
  up_aligned : down ∣ up

namespace LeakyCounter

variable (C : LeakyCounter)

/-- One observation. -/
def step (hit : Bool) (n : ℕ) : ℕ :=
  if hit then if C.cap ≤ n then C.cap else n + C.up else max C.floor (n - C.down)

theorem step_hit_ge {n : ℕ} (h : C.cap ≤ n) : C.step true n = C.cap := by
  simp [step, h]

theorem step_hit_lt {n : ℕ} (h : n < C.cap) : C.step true n = n + C.up := by
  simp [step, Nat.not_le_of_lt h]

theorem step_miss (n : ℕ) : C.step false n = max C.floor (n - C.down) := by
  simp [step]

/-- A level in range and on the grid. -/
structure Valid (n : ℕ) : Prop where
  floor_le : C.floor ≤ n
  add_down_le : n + C.down ≤ C.cap + C.up
  aligned : C.down ∣ n

variable {C}

theorem step_valid (hit : Bool) {n : ℕ} (h : C.Valid n) : C.Valid (C.step hit n) := by
  have hfc := C.floor_le_cap
  have hdu := C.down_le_up
  have hfloor := h.floor_le
  have hle := h.add_down_le
  cases hit with
  | true =>
    rcases Nat.lt_or_ge n C.cap with hn | hn
    · rw [C.step_hit_lt hn]
      -- a grid level below the cap is at least one `down` below it
      have hgap : C.down ≤ C.cap - n :=
        Nat.le_of_dvd (by omega) (Nat.dvd_sub C.cap_aligned h.aligned)
      exact ⟨by omega, by omega, Nat.dvd_add h.aligned C.up_aligned⟩
    · rw [C.step_hit_ge hn]
      exact ⟨hfc, by omega, C.cap_aligned⟩
  | false =>
    rw [C.step_miss]
    refine ⟨le_max_left _ _, by omega, ?_⟩
    rcases max_choice C.floor (n - C.down) with hmax | hmax
    · rw [hmax]
      exact C.floor_aligned
    · rw [hmax]
      exact Nat.dvd_sub h.aligned (Nat.dvd_refl _)

/-- A step that falls below a grid level `L` starts at `L` and is a miss. -/
theorem passes_at {hit : Bool} {n L : ℕ} (h : C.Valid n) (hL : C.down ∣ L) (hcap : L ≤ C.cap)
    (hn : L ≤ n) (hstep : C.step hit n < L) : n = L ∧ hit = false := by
  cases hit with
  | true =>
    rcases Nat.lt_or_ge n C.cap with hc | hc
    · rw [C.step_hit_lt hc] at hstep
      omega
    · rw [C.step_hit_ge hc] at hstep
      omega
  | false =>
    refine ⟨?_, rfl⟩
    rw [C.step_miss] at hstep
    have hlt : n - L < C.down := by omega
    have hzero : n - L = 0 := Nat.eq_zero_of_dvd_of_lt (Nat.dvd_sub h.aligned hL) hlt
    omega

variable (C)

/-- Up to the cap, a hit lowers nothing and a miss at most `down`. -/
theorem height_le (hit : Bool) (n : ℕ) :
    min n C.cap ≤ min (C.step hit n) C.cap + if hit then 0 else C.down := by
  cases hit with
  | true =>
    rcases Nat.lt_or_ge n C.cap with hc | hc
    · rw [C.step_hit_lt hc]
      simp only [if_true]
      omega
    · rw [C.step_hit_ge hc]
      simp only [if_true]
      omega
  | false =>
    rw [C.step_miss]
    simp only [Bool.false_eq_true, if_false]
    omega

/-- The room above the level shrinks by at most `up`, and by hits only. -/
theorem depth_le (hit : Bool) {n : ℕ} (h : C.floor ≤ n) :
    C.cap + C.up - n ≤ C.cap + C.up - C.step hit n + if hit then C.up else 0 := by
  cases hit with
  | true =>
    rcases Nat.lt_or_ge n C.cap with hc | hc
    · rw [C.step_hit_lt hc]
      simp only [if_true]
      omega
    · rw [C.step_hit_ge hc]
      simp only [if_true]
      omega
  | false =>
    rw [C.step_miss]
    simp only [Bool.false_eq_true, if_false]
    omega

end LeakyCounter

end OtIpr.Lib
