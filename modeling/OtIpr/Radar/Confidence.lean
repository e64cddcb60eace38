/-
  The confidence and the average over whole runs, under every interleaving.

  `detectConf` is a leaky counter (`detectCounter`, `irq_step`): interrupts are its only
  writers, statements of the main loop leave it alone (`mainStep_radarAppVars`).

  `Confident` holds in every state (`confident`). Until the first interrupt the confidence is
  1 and no frame can be measured (`Booting`); from then on it is a level of the counter, and
  the average is negative wherever the confidence is 20 (`Settled`): that level is only
  reached from 25, by a miss whose delay 1500 outweighs any average.
-/
import OtIpr.Lib.LeakyCounter
import OtIpr.Radar.Steps

namespace OtIpr

open Lib

/-- `detectConf` as a counter of detected frames. -/
def detectCounter : LeakyCounter where
  floor := RADAR_APP_DEFAULT_MIN_TH
  cap := RADAR_APP_DEFAULT_MAX_TH
  up := RADAR_APP_DEFAULT_TH_POS_RATE
  down := RADAR_APP_DEFAULT_TH_NEG_RATE
  floor_le_cap := by decide
  down_le_up := by decide
  floor_aligned := by decide
  cap_aligned := by decide
  up_aligned := by decide

/-- An interrupt is a step of the counter. -/
theorem irq_step {m : Mem} (hu8 : m.radarAppVars.detectConf < 256) :
    (BURTC_IRQHandler m).radarAppVars.detectConf =
      detectCounter.step m.result.presence_detected m.radarAppVars.detectConf :=
  irq_detectConf hu8

/-- The range of the levels, in numbers. -/
theorem level_bounds {n : ℕ} (h : detectCounter.Valid n) : 10 ≤ n ∧ n ≤ 115 ∧ 5 ∣ n := by
  refine ⟨h.floor_le, ?_, h.aligned⟩
  have : n + 5 ≤ 100 + 20 := h.add_down_le
  omega

/-! ## What statements and events leave alone -/

/-- Of `radarAppVars` the main loop writes `clearToMeasure` only. -/
theorem mainStep_radarAppVars (env : AlgoEnv) (s : Sys) :
    ∃ c, (mainStep env s).1.mem.radarAppVars =
      { s.mem.radarAppVars with clearToMeasure := c } := by
  obtain ⟨m, pc⟩ := s
  cases pc <;> exact ⟨_, rfl⟩

theorem sysStep_radarAppVars {s : Sys} {e : Ev} (h : e ≠ .burtc) :
    ∃ c, (sysStep s e).1.mem.radarAppVars = { s.mem.radarAppVars with clearToMeasure := c } := by
  rcases sysStep_cases s e with rfl | ⟨env, rfl⟩ | ⟨alive, vdd, coap, calls, hstep⟩
  · exact absurd rfl h
  · exact mainStep_radarAppVars env s
  · rw [hstep]
    exact ⟨_, rfl⟩

/-- No statement shows an interrupt. -/
theorem irq_not_mem_mainStep (env : AlgoEnv) (s : Sys) (m : Mem) :
    .irq m ∉ (mainStep env s).2 := by
  obtain ⟨mem, pc⟩ := s
  cases pc <;> simp [mainStep, callSender_obs]

theorem irq_mem_sysStep {s : Sys} {e : Ev} {m : Mem} (h : .irq m ∈ (sysStep s e).2) :
    e = .burtc ∧ m = s.mem := by
  rcases sysStep_cases s e with rfl | ⟨env, rfl⟩ | ⟨alive, vdd, coap, calls, hstep⟩
  · exact ⟨rfl, by simpa [sysStep] using h⟩
  · exact absurd h (irq_not_mem_mainStep env s m)
  · simp [hstep] at h

/-- An interrupt is the only observation of its step. -/
theorem irq_eq_sysStep {s : Sys} {e : Ev} {u v : List Obs} {m : Mem}
    (h : (sysStep s e).2 = u ++ .irq m :: v) : e = .burtc ∧ s.mem = m ∧ u = [] := by
  have hmem : .irq m ∈ (sysStep s e).2 := by rw [h]; simp
  obtain ⟨rfl, rfl⟩ := irq_mem_sysStep hmem
  exact ⟨rfl, rfl, (Machine.singleton_eq_append_cons h).1⟩

/-! ## Boot -/

/-- Before the first interrupt: no frame is asked for, so none is measured. -/
structure Booting (s : Sys) : Prop where
  conf : s.mem.radarAppVars.detectConf = 1
  quiet : s.mem.result.presence_detected = false
  idle : s.mem.radarAppVars.clearToMeasure = false
  pc : s.pc ≠ .getNext ∧ s.pc ≠ .inGetNext ∧ s.pc ≠ .clearFlag

theorem booting_mainStep (env : AlgoEnv) {s : Sys} (h : Booting s) :
    Booting (mainStep env s).1 := by
  obtain ⟨m, pc⟩ := s
  obtain ⟨hconf, hquiet, hidle, hpc⟩ := h
  dsimp only at hconf hquiet hidle hpc
  cases pc with
  | getNext => exact absurd rfl hpc.1
  | inGetNext => exact absurd rfl hpc.2.1
  | clearFlag => exact absurd rfl hpc.2.2
  | testClear => exact ⟨hconf, hquiet, hidle, by simp [mainStep, hidle]⟩
  | _ =>
    refine ⟨hconf, hquiet, hidle, ?_⟩
    simp only [mainStep]
    try split
    all_goals simp

theorem booting_sysStep {s : Sys} {e : Ev} (he : e ≠ .burtc) (h : Booting s) :
    Booting (sysStep s e).1 := by
  rcases sysStep_cases s e with rfl | ⟨env, rfl⟩ | ⟨alive, vdd, coap, calls, hstep⟩
  · exact absurd rfl he
  · exact booting_mainStep env h
  · rw [hstep]
    exact ⟨h.conf, h.quiet, h.idle, h.pc⟩

/-! ## The invariant -/

/-- After the first interrupt. -/
structure Settled (m : Mem) : Prop where
  level : detectCounter.Valid m.radarAppVars.detectConf
  falls : m.radarAppVars.detectConf = 20 → m.radarAppVars.dx < 0

structure Confident (s : Sys) : Prop where
  spacing : s.mem.radarAppVars.frameSpacingMs = 3000
  average : s.mem.radarAppVars.dx ≤ 1000
  phase : Booting s ∨ Settled s.mem

theorem Confident.lt_256 {s : Sys} (h : Confident s) : s.mem.radarAppVars.detectConf < 256 := by
  rcases h.phase with hb | hs
  · rw [hb.conf]
    omega
  · have := level_bounds hs.level
    omega

/-- A detected frame is counted above the floor only. -/
theorem Confident.floor_le {s : Sys} (h : Confident s)
    (hd : s.mem.result.presence_detected = true) : 10 ≤ s.mem.radarAppVars.detectConf := by
  rcases h.phase with hb | hs
  · rw [hb.quiet] at hd
    cases hd
  · exact hs.level.floor_le

/-- Above the floor the confidence is one step above it: levels are multiples of 5. -/
theorem Confident.above_floor {s : Sys} (h : Confident s)
    (hgt : 10 < s.mem.radarAppVars.detectConf) : 15 ≤ s.mem.radarAppVars.detectConf := by
  rcases h.phase with hb | hs
  · rw [hb.conf] at hgt
    omega
  · obtain ⟨-, -, k, hk⟩ := level_bounds hs.level
    omega

theorem Confident.irq_average {s : Sys} (h : Confident s) :
    (BURTC_IRQHandler s.mem).radarAppVars.dx ≤ 1000 := by
  have hdx := h.average
  cases hd : s.mem.result.presence_detected with
  | true =>
    have hfloor := h.floor_le hd
    rw [irq_dx_of_detected hd, h.spacing]
    split_ifs with hc
    · linarith
    · -- the delay after a hit is at most 3000 / 3
      have hdelay : 3000 / (addConf s.mem.radarAppVars.detectConf 20 / 10) ≤ 1000 := by
        have hq : 3 ≤ addConf s.mem.radarAppVars.detectConf 20 / 10 := by
          unfold addConf
          omega
        exact Nat.div_le_of_le_mul (by omega)
      have hcast : ((3000 / (addConf s.mem.radarAppVars.detectConf 20 / 10) : ℕ) : ℚ) ≤ 1000 := by
        exact_mod_cast hdelay
      linarith
  | false => exact irq_dx_le_of_missed hd (by norm_num) hdx

theorem Confident.irq_settled {s : Sys} (h : Confident s) : Settled (BURTC_IRQHandler s.mem) := by
  have hu8 := h.lt_256
  refine ⟨?_, ?_⟩
  · rw [irq_step hu8]
    rcases h.phase with hb | hs
    · rw [hb.conf, hb.quiet]
      exact ⟨by decide, by decide, by decide⟩
    · exact LeakyCounter.step_valid _ hs.level
  intro h20
  rw [irq_detectConf hu8] at h20
  cases hd : s.mem.result.presence_detected with
  | true =>
    have hfloor := h.floor_le hd
    rw [hd, if_pos rfl] at h20
    split_ifs at h20 <;> omega
  | false =>
    -- the level 20 is reached from 25
    have h25 : s.mem.radarAppVars.detectConf = 25 := by
      rw [hd] at h20
      simp only [Bool.false_eq_true, if_false] at h20
      omega
    have hdx := h.average
    rw [irq_dx_of_missed hd hu8, if_neg (by omega), if_neg (by omega), h.spacing, h25]
    norm_num
    linarith

theorem confident_boot (unique : UInt64) : Confident ⟨boot unique, .processAction⟩ where
  spacing := rfl
  average := by
    show (1 : ℚ) ≤ 1000
    norm_num
  phase := Or.inl ⟨rfl, rfl, rfl, by simp⟩

theorem confident_step {s : Sys} (e : Ev) (h : Confident s) : Confident (sysStep s e).1 := by
  by_cases he : e = .burtc
  · subst he
    exact ⟨(irq_frameSpacingMs s.mem).trans h.spacing, h.irq_average, Or.inr h.irq_settled⟩
  · obtain ⟨c, hc⟩ := sysStep_radarAppVars (s := s) he
    refine ⟨by rw [hc]; exact h.spacing, by rw [hc]; exact h.average, ?_⟩
    rcases h.phase with hb | hs
    · exact Or.inl (booting_sysStep he hb)
    · exact Or.inr ⟨by rw [hc]; exact hs.level, by rw [hc]; exact hs.falls⟩

/-- Every state of every run. -/
theorem confident (unique : UInt64) (es : List Ev) : Confident ((sysMachine unique).state es) :=
  (sysMachine unique).invariant Confident (confident_boot unique) (fun _ e => confident_step e) es

/-- Every main-loop boundary of every run with atomic iterations. -/
theorem confident_loop (unique : UInt64) (es : List Ev) :
    Confident ⟨(loopMachine unique).state es, .processAction⟩ := by
  obtain ⟨fs, hstate, -⟩ := (loop_embeds unique).run es
  rw [← hstate]
  exact confident unique fs

/-! ## The interrupts of a run -/

/-- An interrupt of a trace comes from the state that the trace before it leads to. -/
theorem irq_split {M : Machine Sys Ev Obs} (hM : M.step = sysStep) {es : List Ev}
    {p q : List Obs} {m : Mem} (h : M.trace es = p ++ .irq m :: q) :
    ∃ pre, M.trace pre = p ∧ (M.state pre).mem = m := by
  obtain ⟨pre, e, post, u, v, -, hstep, hp, -⟩ := M.trace_split h
  rw [hM] at hstep
  obtain ⟨rfl, hm, rfl⟩ := irq_eq_sysStep hstep
  exact ⟨pre, by rw [hp, List.append_nil], hm⟩

/-- Every interrupt of a run starts from a state of the invariant. -/
theorem irq_confident {unique : UInt64} {es : List Ev} {m : Mem}
    (h : .irq m ∈ (sysMachine unique).trace es) : ∃ s, Confident s ∧ s.mem = m := by
  obtain ⟨p, q, hpq⟩ := List.append_of_mem h
  obtain ⟨pre, -, hm⟩ := irq_split rfl hpq
  exact ⟨_, confident unique pre, hm⟩

end OtIpr
