/-
  acc_hal_integration_efr.c, `acc_hal_integration_wait_for_sensor_interrupt`: the wait for the
  radar's interrupt line.

  A `World` is what one call finds: the instant and the level of the INT pin at the n-th access
  to the hardware. Access 0 reads the tick count on entry. Each pass of the loop makes three:
  the pin, the tick count, and the pin again before it sleeps; it wakes at some later instant.
  The last access is the pin reading that is returned.

  The tick count and its wrap are handled right (`tick_diff`), but the difference of ticks is
  compared with a timeout in milliseconds. A call is right if the pass that leaves the loop
  does so late enough or ends with the pin high (`waitHonoured_iff_leavesInTime`), and from
  any tick of entry there is a world in which it does neither, unless the timeout is 0:
  `wait_honoured_iff`.
-/
import OtIpr.Hal.Clock
import OtIpr.Lib.Passes

namespace OtIpr

open Lib

/-- The accesses to the hardware during one call. -/
structure World where
  time : ℕ → ℕ
  pin : ℕ → Bool
  monotone : Monotone time

variable (T : Sleeptimer)

/-- `(sl_sleeptimer_get_tick_count() - wait_begin_ms) < timeout_ms` at access `n`. -/
def withinTimeout (w : World) (timeout_ms : UInt32) (n : ℕ) : Prop :=
  T.get_tick_count (w.time n) - T.get_tick_count (w.time 0) < timeout_ms

instance (w : World) (timeout_ms : UInt32) (n : ℕ) : Decidable (withinTimeout T w timeout_ms n) :=
  inferInstanceAs (Decidable (_ < _))

/-- The loop from access `n` on: the number of the access after it. The second reading of the
    pin decides only whether the pass sleeps. -/
def waitLoop (w : World) (timeout_ms : UInt32) : (fuel n : ℕ) → Option ℕ
  | 0, _ => none
  | fuel + 1, n =>
    if w.pin n then some (n + 1)
    else if withinTimeout T w timeout_ms (n + 1) then waitLoop w timeout_ms fuel (n + 3)
    else some (n + 2)

/-- `acc_hal_integration_wait_for_sensor_interrupt(sensor_id, timeout_ms)`: the last access and
    the result. -/
def acc_hal_integration_wait_for_sensor_interrupt (w : World) (timeout_ms : UInt32) (fuel : ℕ) :
    Option (ℕ × Bool) :=
  (waitLoop T w timeout_ms fuel 1).map fun n => (n, w.pin n)

/-- At least `timeout_ms` milliseconds from entry to access `n`. -/
def TimedOut (w : World) (timeout_ms : UInt32) (n : ℕ) : Prop :=
  (timeout_ms.toNat : ℚ) ≤ elapsedMs (w.time 0) (w.time n)

/-- False is returned only at a low pin and after the timeout, true only at a high pin. -/
def WaitHonoured (w : World) (timeout_ms : UInt32) : Prop :=
  ∀ fuel n b, acc_hal_integration_wait_for_sensor_interrupt T w timeout_ms fuel = some (n, b) →
    (b = false → w.pin n = false ∧ TimedOut w timeout_ms n) ∧ (b = true → w.pin n = true)

/-! ## The passes of the loop -/

/-- The loop test holds in pass `k`: the pin is low and the ticks are within the timeout. -/
def Stays (w : World) (timeout_ms : UInt32) (k : ℕ) : Prop :=
  w.pin (1 + 3 * k) = false ∧ withinTimeout T w timeout_ms (2 + 3 * k)

instance (w : World) (timeout_ms : UInt32) : DecidablePred (Stays T w timeout_ms) :=
  fun _ => inferInstanceAs (Decidable (_ ∧ _))

/-- Pass `k` is the one that leaves. -/
def LeavesAt (w : World) (timeout_ms : UInt32) (k : ℕ) : Prop :=
  ¬ Stays T w timeout_ms k ∧ ∀ j < k, Stays T w timeout_ms j

/-- The last access when pass `k` leaves: the tick count is not read at a high pin. -/
def lastAccess (w : World) (k : ℕ) : ℕ := if w.pin (1 + 3 * k) then 2 + 3 * k else 3 + 3 * k

/-- The pass that leaves the loop ends with the pin high or after the timeout. -/
def LeavesInTime (w : World) (timeout_ms : UInt32) : Prop :=
  ∀ k, LeavesAt T w timeout_ms k →
    w.pin (lastAccess w k) = true ∨ TimedOut w timeout_ms (lastAccess w k)

variable {T} {w : World} {timeout_ms : UInt32}

/-- The loop ends where its first pass leaves. -/
theorem waitLoop_eq (fuel j : ℕ) :
    waitLoop T w timeout_ms fuel (1 + 3 * j) =
      (firstExit (Stays T w timeout_ms) fuel j).map (lastAccess w) := by
  induction fuel generalizing j with
  | zero => rfl
  | succ fuel ih =>
    have hread : 1 + 3 * j + 1 = 2 + 3 * j := by omega
    have hlast : 1 + 3 * j + 2 = 3 + 3 * j := by omega
    have hnext : 1 + 3 * j + 3 = 1 + 3 * (j + 1) := by omega
    rw [waitLoop, firstExit, hread, hlast, hnext, ih]
    cases hpin : w.pin (1 + 3 * j) with
    | true => simp [Stays, lastAccess, hpin]
    | false =>
      by_cases ht : withinTimeout T w timeout_ms (2 + 3 * j)
      · simp [Stays, hpin, ht]
      · simp [Stays, lastAccess, hpin, ht]

/-- A call returns exactly where a pass leaves. -/
theorem returns_iff {n : ℕ} {b : Bool} :
    (∃ fuel, acc_hal_integration_wait_for_sensor_interrupt T w timeout_ms fuel = some (n, b)) ↔
      ∃ k, LeavesAt T w timeout_ms k ∧ n = lastAccess w k ∧ b = w.pin n := by
  have hloop : ∀ fuel, acc_hal_integration_wait_for_sensor_interrupt T w timeout_ms fuel =
      (firstExit (Stays T w timeout_ms) fuel 0).map
        fun k => (lastAccess w k, w.pin (lastAccess w k)) := by
    intro fuel
    have hpasses : waitLoop T w timeout_ms fuel 1 =
        (firstExit (Stays T w timeout_ms) fuel 0).map (lastAccess w) := waitLoop_eq fuel 0
    unfold acc_hal_integration_wait_for_sensor_interrupt
    rw [hpasses, Option.map_map]
    rfl
  constructor
  · rintro ⟨fuel, h⟩
    rw [hloop] at h
    obtain ⟨k, hk, heq⟩ := Option.map_eq_some_iff.mp h
    obtain ⟨-, -, hleave, hstay⟩ := firstExit_eq_some.mp hk
    obtain ⟨rfl, rfl⟩ := Prod.mk.inj heq
    exact ⟨k, ⟨hleave, fun j hj => hstay j (Nat.zero_le _) hj⟩, rfl, rfl⟩
  · rintro ⟨k, ⟨hleave, hstay⟩, rfl, rfl⟩
    refine ⟨k + 1, ?_⟩
    have hk : firstExit (Stays T w timeout_ms) (k + 1) 0 = some k :=
      firstExit_eq_some.mpr ⟨Nat.zero_le _, by omega, hleave, fun j _ hj => hstay j hj⟩
    rw [hloop, hk]
    rfl

/-! ## Ticks and milliseconds -/

/-- The difference of two tick counts is right across wraps. -/
theorem tick_diff (t d : ℕ) :
    (T.get_tick_count (t + d) - T.get_tick_count t).toNat = d % 2 ^ 32 := by
  rw [UInt32.toNat_sub, T.get_tick_count_eq, T.get_tick_count_eq]
  omega

/-- A call whose ticks run out, unseen, right after entry. -/
def suddenTimeout (t : ℕ) (timeout_ms : UInt32) : World where
  time n := if n = 0 then t else t + timeout_ms.toNat
  pin _ := false
  monotone := by
    intro m n hmn
    dsimp only
    split_ifs <;> omega

theorem leavesAt_suddenTimeout (t : ℕ) (timeout_ms : UInt32) :
    LeavesAt T (suddenTimeout t timeout_ms) timeout_ms 0 := by
  refine ⟨?_, fun j hj => absurd hj (Nat.not_lt_zero j)⟩
  rintro ⟨-, hwithin⟩
  have hdiff := tick_diff (T := T) t timeout_ms.toNat
  rw [Nat.mod_eq_of_lt timeout_ms.toNat_lt] at hdiff
  have hlt := UInt32.lt_iff_toNat_lt.mp hwithin
  exact absurd (hdiff ▸ hlt) (Nat.lt_irrefl _)

/-- A timeout of `n` ticks is `n` milliseconds for no positive `n`. -/
theorem ticks_before_ms {t : ℕ} (h : TimedOut (suddenTimeout t timeout_ms) timeout_ms 3) :
    timeout_ms = 0 := by
  have hms : (timeout_ms.toNat : ℚ) ≤ 1000 * timeout_ms.toNat / 32768 := by
    simpa [TimedOut, elapsedMs, suddenTimeout] using h
  have hnat : (timeout_ms.toNat : ℚ) ≤ 0 := by linarith
  exact UInt32.toNat_inj.mp (Nat.le_zero.mp (by exact_mod_cast hnat))

/-- A call is honoured exactly if the pass that leaves its loop ends with the pin high or after
    the timeout. -/
theorem waitHonoured_iff_leavesInTime :
    WaitHonoured T w timeout_ms ↔ LeavesInTime T w timeout_ms := by
  constructor
  · intro h k hk
    obtain ⟨fuel, hret⟩ := returns_iff.mpr ⟨k, hk, rfl, rfl⟩
    cases hpin : w.pin (lastAccess w k) with
    | true => exact Or.inl rfl
    | false => exact Or.inr ((h fuel _ _ hret).1 hpin).2
  · intro h fuel n b hret
    obtain ⟨k, hk, rfl, rfl⟩ := returns_iff.mp ⟨fuel, hret⟩
    refine ⟨fun hlow => ⟨hlow, ?_⟩, id⟩
    rcases h k hk with hhigh | hlate
    · rw [hlow] at hhigh
      cases hhigh
    · exact hlate

variable (T)

/-- From any instant of entry, the timeout 0 is the only one that is honoured in every world. -/
theorem wait_honoured_iff (timeout_ms : UInt32) (t : ℕ) :
    (∀ w : World, w.time 0 = t → WaitHonoured T w timeout_ms) ↔ timeout_ms = 0 := by
  constructor
  · intro h
    have hleaves := waitHonoured_iff_leavesInTime.mp (h (suddenTimeout t timeout_ms) rfl) 0
      (leavesAt_suddenTimeout t timeout_ms)
    rcases hleaves with hhigh | hlate
    · cases hhigh
    · exact ticks_before_ms hlate
  · rintro rfl w -
    refine waitHonoured_iff_leavesInTime.mpr fun k _ => Or.inr ?_
    have hmono : (w.time 0 : ℚ) ≤ w.time (lastAccess w k) :=
      Nat.cast_le.mpr (w.monotone (Nat.zero_le _))
    have hzero : ((0 : UInt32).toNat : ℚ) = 0 := by norm_num
    unfold TimedOut elapsedMs
    rw [hzero]
    linarith

/-- A wait of 100 ms entered 50 ticks before the counter wraps returns after 100 ticks. -/
theorem wait_not_honoured :
    ¬ WaitHonoured .reference (suddenTimeout (2 ^ 32 - 50) 100) 100 := by
  intro h
  have hret : acc_hal_integration_wait_for_sensor_interrupt .reference
      (suddenTimeout (2 ^ 32 - 50) 100) 100 1 = some (3, false) := by
    decide +kernel
  have hms := ((h 1 3 false hret).1 rfl).2
  exact absurd (ticks_before_ms hms) (by decide)

end OtIpr
