/-
  The sampling interval in force, under every interleaving.

  The compare register is written where a frame is counted and left alone at the cap, at the
  floor and by the first interrupt. `Timed`: it still matches the confidence, since at the cap
  all intervals are the minimum and boot programs the interval of the floor.
-/
import OtIpr.Radar.Confidence

namespace OtIpr

open Lib

/-- The interval that belongs to a confidence. -/
def intervalOf (v : RadarAppVars) : ℕ :=
  max RADAR_APP_DEFAULT_MIN_FRAME_SPACING_MS (v.frameSpacingMs / (v.detectConf / 10))

/-- After every interrupt that was shown, the register matches the confidence and is in range. -/
def IntervalsMatch (os : List Obs) : Prop :=
  ∀ m, .irq m ∈ os →
    (BURTC_IRQHandler m).burtcCompare = intervalOf (BURTC_IRQHandler m).radarAppVars ∧
      RADAR_APP_DEFAULT_MIN_FRAME_SPACING_MS ≤ (BURTC_IRQHandler m).burtcCompare ∧
      (BURTC_IRQHandler m).burtcCompare ≤ RADAR_APP_DEFAULT_FRAME_SPACING_MS

/-- The register at boot, and from the first interrupt on. -/
structure Timed (m : Mem) : Prop where
  boot : m.radarAppVars.detectConf = 1 → m.burtcCompare = 3000
  settled : 10 ≤ m.radarAppVars.detectConf → m.burtcCompare = intervalOf m.radarAppVars

/-- No statement of the main loop programs the timer. -/
theorem mainStep_burtcCompare (env : AlgoEnv) (s : Sys) :
    (mainStep env s).1.mem.burtcCompare = s.mem.burtcCompare := by
  obtain ⟨m, pc⟩ := s
  cases pc <;> rfl

theorem sysStep_burtcCompare {s : Sys} {e : Ev} (h : e ≠ .burtc) :
    (sysStep s e).1.mem.burtcCompare = s.mem.burtcCompare := by
  rcases sysStep_cases s e with rfl | ⟨env, rfl⟩ | ⟨alive, vdd, coap, calls, hstep⟩
  · exact absurd rfl h
  · exact mainStep_burtcCompare env s
  · rw [hstep]

theorem intervalOf_eq {v : RadarAppVars} (hs : v.frameSpacingMs = 3000) :
    intervalOf v = max 750 (3000 / (v.detectConf / 10)) := by
  rw [← hs]
  rfl

/-- From the cap on the interval is the minimum. -/
theorem intervalOf_cap {v : RadarAppVars} (hs : v.frameSpacingMs = 3000)
    (hc : 100 ≤ v.detectConf) : intervalOf v = 750 := by
  have hdelay : 3000 / (v.detectConf / 10) ≤ 3000 / 10 := Nat.div_le_div_left (by omega) (by decide)
  rw [intervalOf_eq hs]
  omega

theorem Confident.irq_interval {s : Sys} (h : Confident s) (ht : Timed s.mem) :
    (BURTC_IRQHandler s.mem).burtcCompare = intervalOf (BURTC_IRQHandler s.mem).radarAppVars := by
  have hu8 := h.lt_256
  have hspacing := (irq_frameSpacingMs s.mem).trans h.spacing
  have hconf := irq_detectConf hu8
  rw [irq_burtcCompare, h.spacing]
  cases hd : s.mem.result.presence_detected with
  | true =>
    rw [hd, if_pos rfl] at hconf
    rw [if_pos rfl]
    by_cases hc : 100 ≤ s.mem.radarAppVars.detectConf
    · rw [if_pos hc] at hconf ⊢
      rw [ht.settled (by omega), intervalOf_cap h.spacing hc,
        intervalOf_cap hspacing (Nat.le_of_eq hconf.symm)]
    · rw [if_neg hc] at hconf ⊢
      rw [addConf_eq (by omega), max_comm, intervalOf_eq hspacing, hconf]
  | false =>
    rw [hd, if_neg Bool.false_ne_true] at hconf
    rw [if_neg Bool.false_ne_true]
    by_cases hc : 10 < s.mem.radarAppVars.detectConf
    · have hlevel := h.above_floor hc
      rw [max_eq_right (by omega)] at hconf
      rw [if_pos hc, subConf_eq (by omega) hu8, max_comm, intervalOf_eq hspacing, hconf]
    · -- at the floor, and at boot, the interval in force is the longest
      rw [max_eq_left (by omega)] at hconf
      have hnext : intervalOf (BURTC_IRQHandler s.mem).radarAppVars = 3000 := by
        rw [intervalOf_eq hspacing, hconf]
        rfl
      rw [if_neg hc, hnext]
      rcases h.phase with hb | hs
      · exact ht.boot hb.conf
      · have h10 : s.mem.radarAppVars.detectConf = 10 := by
          have := hs.level.floor_le
          exact Nat.le_antisymm (by omega) this
        rw [ht.settled (by omega), intervalOf_eq h.spacing, h10]
        rfl

theorem timed_boot (unique : UInt64) : Timed (boot unique) := by
  have hboot : (boot unique).radarAppVars.detectConf = 1 := rfl
  exact ⟨fun _ => Nat.div_one 3000, fun h => absurd (h.trans_eq hboot) (by decide)⟩

theorem timed_step {s : Sys} (e : Ev) (hconf : Confident s) (h : Timed s.mem) :
    Timed (sysStep s e).1.mem := by
  by_cases he : e = .burtc
  · subst he
    have hfloor := hconf.irq_settled.level.floor_le
    exact ⟨fun h1 => absurd (h1 ▸ hfloor) (by decide), fun _ => hconf.irq_interval h⟩
  · obtain ⟨c, hc⟩ := sysStep_radarAppVars (s := s) he
    exact ⟨by rw [hc, sysStep_burtcCompare he]; exact h.boot,
      by rw [hc, sysStep_burtcCompare he]; exact h.settled⟩

/-- Every state of every run. -/
theorem timed (unique : UInt64) (es : List Ev) :
    Confident ((sysMachine unique).state es) ∧ Timed ((sysMachine unique).state es).mem :=
  (sysMachine unique).invariant (fun s => Confident s ∧ Timed s.mem)
    ⟨confident_boot unique, timed_boot unique⟩
    (fun _ e h => ⟨confident_step e h.1, timed_step e h.1 h.2⟩) es

/-- The interval in force always matches the confidence. -/
theorem intervals_match (unique : UInt64) (es : List Ev) :
    IntervalsMatch ((sysMachine unique).trace es) := by
  intro m hm
  obtain ⟨p, q, hpq⟩ := List.append_of_mem hm
  obtain ⟨pre, -, rfl⟩ := irq_split rfl hpq
  obtain ⟨hconf, htimed⟩ := timed unique pre
  have hmatch := hconf.irq_interval htimed
  have hspacing := (irq_frameSpacingMs ((sysMachine unique).state pre).mem).trans hconf.spacing
  rw [hmatch, intervalOf_eq hspacing]
  exact ⟨rfl, le_max_left _ _, max_le (by decide) (Nat.div_le_self _ _)⟩

end OtIpr
