/-
  The range of the confidence and the arithmetic of the interrupt, under every interleaving.

  The arithmetic is safe in every run (`interrupt_arithmetic_safe`): a detected frame is
  counted below the cap, a missed one at 15 or above.

  The documented range 10..100 is not kept: the floor is applied after the step down, the cap
  before the step up, so a hit above 80 overshoots. `confidence_capped_iff`: the range is kept
  exactly in runs without such a hit.
-/
import OtIpr.Radar.Confidence

namespace OtIpr

open Lib

/-! ## Arithmetic -/

/-- In the branch an interrupt takes, the `uint8_t` update does not wrap and the divisor of
    `frameDelay` is not zero. -/
structure ArithmeticSafe (m : Mem) : Prop where
  rising : m.result.presence_detected = true →
    m.radarAppVars.detectConf < RADAR_APP_DEFAULT_MAX_TH →
    m.radarAppVars.detectConf + RADAR_APP_DEFAULT_TH_POS_RATE < 256 ∧
      addConf m.radarAppVars.detectConf RADAR_APP_DEFAULT_TH_POS_RATE / 10 ≠ 0
  falling : m.result.presence_detected = false →
    RADAR_APP_DEFAULT_MIN_TH < m.radarAppVars.detectConf →
    RADAR_APP_DEFAULT_TH_NEG_RATE ≤ m.radarAppVars.detectConf ∧
      subConf m.radarAppVars.detectConf RADAR_APP_DEFAULT_TH_NEG_RATE / 10 ≠ 0

/-- Every interrupt that was shown is safe. -/
def InterruptsSafe (os : List Obs) : Prop := ∀ m, .irq m ∈ os → ArithmeticSafe m

theorem Confident.arithmeticSafe {s : Sys} (h : Confident s) : ArithmeticSafe s.mem where
  rising hd hlt := by
    have hfloor := h.floor_le hd
    unfold RADAR_APP_DEFAULT_MAX_TH at hlt
    unfold RADAR_APP_DEFAULT_TH_POS_RATE
    rw [addConf_eq (by omega)]
    omega
  falling hd hgt := by
    unfold RADAR_APP_DEFAULT_MIN_TH at hgt
    unfold RADAR_APP_DEFAULT_TH_NEG_RATE
    have hlevel := h.above_floor hgt
    rw [subConf_eq (by omega) h.lt_256]
    omega

/-- The interrupt never divides by zero and the confidence never wraps. -/
theorem interrupt_arithmetic_safe (unique : UInt64) (es : List Ev) :
    InterruptsSafe ((sysMachine unique).trace es) := by
  intro m hm
  obtain ⟨s, hs, rfl⟩ := irq_confident hm
  exact hs.arithmeticSafe

/-! ## The documented range -/

/-- After every interrupt the confidence is in its range, and where presence left it at the
    cap or above, any number of missed frames leads on as from the cap itself. -/
structure ConfidenceCapped (os : List Obs) : Prop where
  range : ∀ m, .irq m ∈ os →
    RADAR_APP_DEFAULT_MIN_TH ≤ (BURTC_IRQHandler m).radarAppVars.detectConf ∧
      (BURTC_IRQHandler m).radarAppVars.detectConf ≤ RADAR_APP_DEFAULT_MAX_TH
  descent : ∀ m, .irq m ∈ os →
    RADAR_APP_DEFAULT_MAX_TH ≤ (BURTC_IRQHandler m).radarAppVars.detectConf →
    ∀ k, (detectCounter.step false)^[k] (BURTC_IRQHandler m).radarAppVars.detectConf =
      (detectCounter.step false)^[k] RADAR_APP_DEFAULT_MAX_TH

/-- No interrupt sees presence between 80 and the cap. -/
def NoOvershoot (os : List Obs) : Prop :=
  ∀ m, .irq m ∈ os → m.result.presence_detected = true →
    m.radarAppVars.detectConf < RADAR_APP_DEFAULT_MAX_TH →
    m.radarAppVars.detectConf ≤ RADAR_APP_DEFAULT_MAX_TH - RADAR_APP_DEFAULT_TH_POS_RATE

theorem ConfidenceCapped.of_range {os : List Obs} (h : ∀ m, .irq m ∈ os →
    10 ≤ (BURTC_IRQHandler m).radarAppVars.detectConf ∧
      (BURTC_IRQHandler m).radarAppVars.detectConf ≤ 100) : ConfidenceCapped os where
  range := h
  descent m hm hcap k := by
    have heq : (BURTC_IRQHandler m).radarAppVars.detectConf = RADAR_APP_DEFAULT_MAX_TH :=
      Nat.le_antisymm (h m hm).2 hcap
    rw [heq]

/-- Without an overshoot a confidence up to the cap stays there. -/
theorem Confident.irq_range {s : Sys} (h : Confident s)
    (hcap : s.mem.radarAppVars.detectConf ≤ 100) (hno : NoOvershoot [.irq s.mem]) :
    10 ≤ (BURTC_IRQHandler s.mem).radarAppVars.detectConf ∧
      (BURTC_IRQHandler s.mem).radarAppVars.detectConf ≤ 100 := by
  rw [irq_detectConf h.lt_256]
  cases hd : s.mem.result.presence_detected with
  | true =>
    have hfloor := h.floor_le hd
    have hle := hno s.mem List.mem_cons_self hd
    simp only [RADAR_APP_DEFAULT_MAX_TH, RADAR_APP_DEFAULT_TH_POS_RATE] at hle
    rw [if_pos rfl]
    split_ifs <;> omega
  | false =>
    simp only [Bool.false_eq_true, if_false]
    omega

/-- In a run without overshoots the confidence never exceeds the cap. -/
theorem detectConf_le_cap (unique : UInt64) (es : List Ev)
    (h : NoOvershoot ((sysMachine unique).trace es)) :
    ((sysMachine unique).state es).mem.radarAppVars.detectConf ≤ 100 := by
  refine (sysMachine unique).invariant_trace
    (fun s os => NoOvershoot os → s.mem.radarAppVars.detectConf ≤ 100) ?_ ?_ es h
  · intro _
    exact Nat.le_of_ble_eq_true rfl
  intro es e ih hno
  have hcap := ih fun m hm => hno m (List.mem_append_left _ hm)
  by_cases he : e = .burtc
  · subst he
    exact ((confident unique es).irq_range hcap
      fun m hm => hno m (List.mem_append_right _ hm)).2
  · obtain ⟨c, hc⟩ := sysStep_radarAppVars (s := (sysMachine unique).state es) he
    rw [sysMachine_step, hc]
    exact hcap

/-- The documented range is kept exactly in runs in which presence is never seen between 80
    and the cap. -/
theorem confidence_capped_iff (unique : UInt64) (es : List Ev) :
    ConfidenceCapped ((sysMachine unique).trace es) ↔
      NoOvershoot ((sysMachine unique).trace es) := by
  constructor
  · intro h m hm hd hlt
    obtain ⟨s, hs, rfl⟩ := irq_confident hm
    have hle := (h.range s.mem hm).2
    unfold RADAR_APP_DEFAULT_MAX_TH at hlt hle ⊢
    rw [irq_detectConf hs.lt_256, if_pos hd, if_neg (by omega)] at hle
    unfold RADAR_APP_DEFAULT_TH_POS_RATE
    omega
  · intro hno
    refine ConfidenceCapped.of_range fun m hm => ?_
    obtain ⟨p, q, hpq⟩ := List.append_of_mem hm
    obtain ⟨pre, hpre, rfl⟩ := irq_split rfl hpq
    have hbefore : NoOvershoot ((sysMachine unique).trace pre) := by
      intro m' hm'
      refine hno m' ?_
      rw [hpq, ← hpre]
      exact List.mem_append_left _ hm'
    refine (confident unique pre).irq_range (detectConf_le_cap unique pre hbefore) ?_
    intro m' hm'
    obtain rfl := Obs.irq.inj (List.mem_singleton.mp hm')
    exact hno _ hm

/-- Boot and one detected frame, counted four times: the confidence is 90. -/
def ninety : List Ev := .burtc :: stmts 7 (.sample true) ++ List.replicate 4 .burtc

/-- The fifth count takes it to 110. -/
theorem confidence_over_cap :
    ¬ ConfidenceCapped ((sysMachine 7).trace (ninety ++ [.burtc])) := by
  intro h
  have hm : .irq ((sysMachine 7).state ninety).mem ∈
      (sysMachine 7).trace (ninety ++ [.burtc]) :=
    (sysMachine 7).mem_trace_of_step (List.prefix_refl _) (List.mem_singleton.mpr rfl)
  exact absurd (h.range _ hm).2 (by decide +kernel)

end OtIpr
