/-
  opt3001.c: the ambient light sensor, as `radarAppAlgo` uses it.

  An `I2C` value gives the two bytes returned by the n-th register read of one
  `opt3001_read` call, per register. `opt3001_conv` reads the C float as an exact rational.

  `opt3001_read` tells from the number of its polls whether it ran out of them. A measurement
  that is ready at the last poll looks the same as none: `light_read_iff`.
-/
import Mathlib.Data.Rat.Defs
import Mathlib.Data.Nat.Bitwise
import OtIpr.Lib.Passes

namespace OtIpr

open Lib

/-- The answer of the bus to the `n`-th `opt3001_read_reg(reg)` of a call. -/
abbrev I2C := ℕ → UInt8 → UInt16

def REG_RESULT : UInt8 := 0x00
def REG_CONFIGURATION : UInt8 := 0x01

/-- `max_wait`, a `uint8_t`. -/
def max_wait : ℕ := 255

/-- `opt3001_is_measuring` on the configuration register it read. -/
def opt3001_is_measuring (s : UInt16) : Bool :=
  if (s &&& ((1 : UInt16) <<< 7)) ≠ 0 then false else true

/-- The `do ... while` loop of `opt3001_read`: the final `count`. `left` is `max_wait - count`,
    so that `left = 0` is the exit by `count < max_wait`. -/
def opt3001_poll (i2c : I2C) : (left count : ℕ) → ℕ
  | 0, count => count
  | left + 1, count =>
    if opt3001_is_measuring (i2c count REG_CONFIGURATION) then opt3001_poll i2c left (count + 1)
    else count + 1

/-- `opt3001_read()`. -/
def opt3001_read (i2c : I2C) : UInt16 :=
  let count := opt3001_poll i2c max_wait 0
  if count = max_wait then i2c count REG_CONFIGURATION else i2c count REG_RESULT

/-- `opt3001_conv(raw)`. -/
def opt3001_conv (raw : UInt16) : ℚ :=
  let m := (raw &&& 0x0FFF).toNat
  let e := ((raw &&& 0xF000) >>> 12).toNat
  m * (10 * 2 ^ e)

/-! ## Polls -/

/-- The conversion-ready bit, bit 7 of the configuration register, at the `k`-th poll. -/
def Ready (i2c : I2C) (k : ℕ) : Prop := i2c k REG_CONFIGURATION &&& 0x80 ≠ 0

instance (i2c : I2C) (k : ℕ) : Decidable (Ready i2c k) := inferInstanceAs (Decidable (_ ≠ _))

/-- The number of polls a call makes. -/
def polls (i2c : I2C) : ℕ := opt3001_poll i2c max_wait 0

/-- The register whose contents a call returns. -/
def returnedRegister (i2c : I2C) : UInt8 :=
  if polls i2c = max_wait then REG_CONFIGURATION else REG_RESULT

/-- A call ends in time, returns a measurement that a poll saw ready, and the configuration
    only if no poll saw one. -/
structure LightRead (i2c : I2C) : Prop where
  ends : polls i2c ≤ 255
  result : (∃ k < polls i2c, Ready i2c k) → returnedRegister i2c = REG_RESULT
  configuration : returnedRegister i2c = REG_CONFIGURATION → ∀ k < polls i2c, ¬ Ready i2c k

/-- The measurement is first seen ready by the last poll that is allowed. -/
def ReadyAtLastPoll (i2c : I2C) : Prop := (∀ k < 254, ¬ Ready i2c k) ∧ Ready i2c 254

theorem opt3001_read_eq (i2c : I2C) :
    opt3001_read i2c = i2c (polls i2c) (returnedRegister i2c) := by
  unfold opt3001_read returnedRegister polls
  dsimp only
  split_ifs <;> rfl

theorem is_measuring_eq (i2c : I2C) (k : ℕ) :
    opt3001_is_measuring (i2c k REG_CONFIGURATION) = decide (¬ Ready i2c k) := by
  have hbit : (1 : UInt16) <<< 7 = 0x80 := by decide
  unfold opt3001_is_measuring Ready
  rw [hbit]
  split_ifs with h <;> simp [h]

/-- The loop stops after the first poll that sees a measurement ready, or runs out of polls. -/
theorem opt3001_poll_eq (i2c : I2C) (left count : ℕ) :
    opt3001_poll i2c left count =
      ((firstExit (fun k => ¬ Ready i2c k) left count).map (· + 1)).getD (count + left) := by
  induction left generalizing count with
  | zero => rfl
  | succ left ih =>
    rw [opt3001_poll, firstExit, is_measuring_eq, ih]
    by_cases h : Ready i2c count
    · simp [h]
    · simp only [h, not_false_eq_true, decide_true, if_true]
      congr 1
      omega

/-- A measurement first seen by poll `k` ends the loop there. -/
theorem polls_of_ready {i2c : I2C} {k : ℕ} (hk : k < 255) (hready : Ready i2c k)
    (hbusy : ∀ j < k, ¬ Ready i2c j) : polls i2c = k + 1 := by
  have hexit : firstExit (fun k => ¬ Ready i2c k) max_wait 0 = some k :=
    firstExit_eq_some.mpr ⟨Nat.zero_le _, by unfold max_wait; omega, not_not.mpr hready,
      fun j _ hj => hbusy j hj⟩
  rw [polls, opt3001_poll_eq, hexit]
  rfl

/-- Without one the loop runs out of polls. -/
theorem polls_of_busy {i2c : I2C} (hbusy : ∀ k < 255, ¬ Ready i2c k) : polls i2c = 255 := by
  have hexit : firstExit (fun k => ¬ Ready i2c k) max_wait 0 = none :=
    firstExit_eq_none.mpr fun j _ hj => hbusy j (by unfold max_wait at hj; omega)
  rw [polls, opt3001_poll_eq, hexit]
  rfl

/-- Either no poll sees a measurement ready, or there is a first one that does. -/
theorem busy_or_ready (i2c : I2C) :
    (∀ k < 255, ¬ Ready i2c k) ∨ ∃ k < 255, Ready i2c k ∧ ∀ j < k, ¬ Ready i2c j := by
  cases hexit : firstExit (fun k => ¬ Ready i2c k) 255 0 with
  | none => exact Or.inl fun k hk => firstExit_eq_none.mp hexit k (Nat.zero_le _) (by omega)
  | some k =>
    obtain ⟨-, hk, hready, hbusy⟩ := firstExit_eq_some.mp hexit
    exact Or.inr ⟨k, by omega, not_not.mp hready, fun j hj => hbusy j (Nat.zero_le _) hj⟩

/-- A call returns the register it says, and the light whenever it should, exactly if the
    measurement does not become ready at the last poll. -/
theorem light_read_iff (i2c : I2C) :
    opt3001_read i2c = i2c (polls i2c) (returnedRegister i2c) ∧
      (LightRead i2c ↔ ¬ ReadyAtLastPoll i2c) := by
  refine ⟨opt3001_read_eq i2c, ?_⟩
  rcases busy_or_ready i2c with hbusy | ⟨k, hk, hready, hbusy⟩
  · have hcount := polls_of_busy hbusy
    refine iff_of_true ⟨Nat.le_of_eq hcount, ?_, fun _ => by rwa [hcount]⟩ ?_
    · rintro ⟨k, hk, hready⟩
      exact absurd hready (hbusy k (hcount ▸ hk))
    · exact fun hlast => hbusy 254 (by decide) hlast.2
  · have hcount := polls_of_ready hk hready hbusy
    have hseen : ∃ j < polls i2c, Ready i2c j := ⟨k, by omega, hready⟩
    rcases Nat.lt_or_ge k 254 with hlt | hge
    · have hreg : returnedRegister i2c = REG_RESULT := by
        unfold returnedRegister max_wait
        rw [hcount, if_neg (by omega)]
      refine iff_of_true ⟨by omega, fun _ => hreg, fun hconf => ?_⟩ fun hlast =>
        hlast.1 k hlt hready
      rw [hreg] at hconf
      exact absurd hconf (by decide)
    · -- the counter of a measurement at the last poll reads as if the polls had run out
      have hlast : k = 254 := by omega
      subst hlast
      have hreg : returnedRegister i2c = REG_CONFIGURATION := by
        unfold returnedRegister max_wait
        rw [hcount, if_pos rfl]
      refine iff_of_false (fun hread => ?_) (not_not.mpr ⟨hbusy, hready⟩)
      rw [hread.result hseen] at hreg
      exact absurd hreg (by decide)

/-- A sensor that is ready at the 255th poll, with 0x1234 in its result register. -/
def readyAtLast : I2C := fun n reg =>
  if reg = REG_RESULT then 0x1234 else if n < 254 then 0x0000 else 0x0080

theorem light_not_read : ¬ LightRead readyAtLast := by
  intro h
  have hseen : ∃ k < polls readyAtLast, Ready readyAtLast k :=
    ⟨254, by decide +kernel, by decide +kernel⟩
  exact absurd (h.result hseen) (by decide +kernel)

end OtIpr
