/-
  Presence reports at the two ends of an episode, with atomic main-loop iterations.

  Start. A saturated confidence should be flagged: an active notification is pending or an
  inactivation is owed. The flag is raised below the cap only, by a detected frame in
  [80, 100) with a positive average. `saturation_flagged_iff`: every saturating interrupt is
  flagged exactly when every unflagged detected frame in that window has a positive average.
  A run whose frames dip inside the window breaks it (`saturation_not_flagged`), and nothing
  raises the flag after that.

  End. A pending active notification is withdrawn by the inactive branch only, which an owed
  inactivation guards. `stale_report_iff`: no stale report is sent while no unreported
  episode ends, that is, while no missed frame at 25 finds an active notification pending
  and no inactivation owed; after such a frame a handshake sends one.
-/
import OtIpr.Radar.Boundary

namespace OtIpr

open Lib

/-! ## Saturation -/

/-- The notification is pending or already sent. -/
def Flagged (m : Mem) : Prop :=
  m.radarCoapSendActive = true ∨ m.radarCoapRequireInactivation = true

instance (m : Mem) : Decidable (Flagged m) := inferInstanceAs (Decidable (_ ∨ _))

/-- Every interrupt that sees presence and leaves the confidence at the cap leaves it
    flagged. -/
def SaturationFlagged (os : List Obs) : Prop :=
  ∀ m, .irq m ∈ os → m.result.presence_detected = true →
    100 ≤ (BURTC_IRQHandler m).radarAppVars.detectConf → Flagged (BURTC_IRQHandler m)

/-- Every unflagged interrupt that sees presence in the window [80, 100) has `dx > 0`. -/
def WindowRising (os : List Obs) : Prop :=
  ∀ m, .irq m ∈ os → m.result.presence_detected = true → 80 ≤ m.radarAppVars.detectConf →
    m.radarAppVars.detectConf < 100 → ¬ Flagged m → 0 < m.radarAppVars.dx

/-- The two sides agree at a detected frame in the window. -/
theorem flagged_irq_window {m : Mem} (hd : m.result.presence_detected = true)
    (hlo : 80 ≤ m.radarAppVars.detectConf) (hhi : m.radarAppVars.detectConf < 100) :
    Flagged (BURTC_IRQHandler m) ↔ (¬ Flagged m → 0 < m.radarAppVars.dx) := by
  unfold Flagged
  rw [irq_sendActive, irq_require, Bool.or_eq_true, decide_eq_true_eq]
  constructor
  · rintro ((ha | ⟨-, -, -, hdx⟩) | hr) hnot
    · exact absurd (Or.inl ha) hnot
    · exact hdx
    · exact absurd (Or.inr hr) hnot
  · intro h
    by_cases hf : m.radarCoapSendActive = true ∨ m.radarCoapRequireInactivation = true
    · exact hf.imp Or.inl id
    · exact Or.inl (Or.inr ⟨hd, hlo, hhi, h hf⟩)

/-- A flag survives an interrupt. -/
theorem flagged_irq {m : Mem} (h : Flagged m) : Flagged (BURTC_IRQHandler m) := by
  unfold Flagged
  rw [irq_sendActive, irq_require]
  exact h.imp (fun ha => by rw [ha, Bool.true_or]) id

/-- One interrupt keeps the saturated confidence flagged. -/
theorem saturated_flagged_irq {m : Mem} (hu8 : m.radarAppVars.detectConf < 256)
    (hwin : m.result.presence_detected = true → 80 ≤ m.radarAppVars.detectConf →
      m.radarAppVars.detectConf < 100 → ¬ Flagged m → 0 < m.radarAppVars.dx)
    (h : 100 ≤ m.radarAppVars.detectConf → Flagged m)
    (hcap : 100 ≤ (BURTC_IRQHandler m).radarAppVars.detectConf) :
    Flagged (BURTC_IRQHandler m) := by
  rcases Nat.lt_or_ge m.radarAppVars.detectConf 100 with hlt | hge
  · -- only a detected frame climbs to the cap, by 20
    rw [irq_detectConf hu8] at hcap
    cases hd : m.result.presence_detected with
    | true =>
      rw [hd, if_pos rfl, if_neg (by omega)] at hcap
      exact (flagged_irq_window hd (by omega) hlt).mpr (hwin hd (by omega) hlt)
    | false =>
      rw [hd] at hcap
      simp only [Bool.false_eq_true, if_false] at hcap
      omega
  · exact flagged_irq (h hge)

/-- A call keeps the saturated confidence flagged: it takes the inactive notification under
    20 only. -/
theorem saturated_flagged_algo {m : Mem} (env : AlgoEnv) (hb : Boundary m)
    (h : 100 ≤ m.radarAppVars.detectConf → Flagged m)
    (hcap : 100 ≤ (radarAppAlgo env m).1.radarAppVars.detectConf) :
    Flagged (radarAppAlgo env m).1 := by
  obtain ⟨c, hc⟩ := algo_vars env m
  rw [hc] at hcap
  rcases algo_flags env m with ⟨hi, -⟩ | ⟨-, -, hr, -⟩ | ⟨-, hr, ha, -⟩
  · have hlt := (hb.pending hi).2.2
    exact absurd hcap (Nat.not_le_of_lt (Nat.lt_trans hlt (by decide)))
  · exact Or.inr hr
  · unfold Flagged
    rw [ha, hr]
    exact h hcap

theorem saturated_flagged_step {m : Mem} (e : Ev) (hs : Confident ⟨m, .processAction⟩)
    (hb : Boundary m) (hwin : WindowRising (loopStep m e).2)
    (h : 100 ≤ m.radarAppVars.detectConf → Flagged m) :
    100 ≤ (loopStep m e).1.radarAppVars.detectConf → Flagged (loopStep m e).1 := by
  cases e with
  | burtc => exact saturated_flagged_irq hs.lt_256 (hwin m (List.mem_singleton_self _)) h
  | alive_cb => exact h
  | iadc data => exact h
  | permissions r env => exact h
  | main env => exact saturated_flagged_algo env hb h

/-- In a run that meets the window condition every saturated boundary is flagged. -/
theorem saturated_flagged (unique : UInt64) (es : List Ev) :
    WindowRising ((loopMachine unique).trace es) →
      100 ≤ ((loopMachine unique).state es).radarAppVars.detectConf →
        Flagged ((loopMachine unique).state es) := by
  refine (loopMachine unique).invariant_trace (fun m os => WindowRising os →
    100 ≤ m.radarAppVars.detectConf → Flagged m) ?_ ?_ es
  · intro _ hcap
    have hone : 100 ≤ 1 := hcap
    omega
  · intro es e ih hwin
    have hbefore : WindowRising ((loopMachine unique).trace es) :=
      fun m hm => hwin m (List.mem_append_left _ hm)
    have hnow : WindowRising (loopStep ((loopMachine unique).state es) e).2 :=
      fun m hm => hwin m (List.mem_append_right _ hm)
    exact saturated_flagged_step e (confident_loop unique es) (boundary unique es) hnow
      (ih hbefore)

/-- An interrupt of the trace starts from a state the run reaches. -/
theorem irq_loop {unique : UInt64} {es : List Ev} {m : Mem}
    (h : .irq m ∈ (loopMachine unique).trace es) :
    ∃ pre, pre ++ [.burtc] <+: es ∧ (loopMachine unique).state pre = m := by
  obtain ⟨pre, e, hpre, hstep⟩ := (loopMachine unique).mem_trace h
  obtain ⟨rfl, rfl⟩ := irq_mem_loopStep hstep
  exact ⟨pre, hpre, rfl⟩

theorem irq_mem_loop (unique : UInt64) {es pre : List Ev} (h : pre ++ [.burtc] <+: es) :
    .irq ((loopMachine unique).state pre) ∈ (loopMachine unique).trace es :=
  (loopMachine unique).mem_trace_of_step h (List.mem_singleton_self _)

/-- The traces of a run's prefixes are prefixes of its trace. -/
theorem windowRising_mono {unique : UInt64} {es pre : List Ev} (h : pre <+: es)
    (hwin : WindowRising ((loopMachine unique).trace es)) :
    WindowRising ((loopMachine unique).trace pre) := by
  obtain ⟨post, rfl⟩ := h
  intro m hm
  exact hwin m (by rw [Machine.trace_append]; exact List.mem_append_left _ hm)

/-- Saturating presence is always flagged exactly when every unflagged detected frame in the
    window has a positive average. -/
theorem saturation_flagged_iff (unique : UInt64) (es : List Ev) :
    SaturationFlagged ((loopMachine unique).trace es) ↔
      WindowRising ((loopMachine unique).trace es) := by
  constructor
  · intro h m hm hd hlo hhi
    refine (flagged_irq_window hd hlo hhi).mp (h m hm hd ?_)
    rw [irq_detectConf (by omega), if_pos hd, if_neg (by omega)]
    omega
  · intro hwin m hm hd hcap
    obtain ⟨pre, hpre, rfl⟩ := irq_loop hm
    have hbefore := windowRising_mono ((List.prefix_append pre [.burtc]).trans hpre) hwin
    exact saturated_flagged_irq (confident_loop unique pre).lt_256 (hwin _ hm)
      (saturated_flagged unique pre hbefore) hcap

/-- Boot; four detected frames, two missed ones: the confidence is 80, its average negative. -/
def dip : List Ev :=
  [.burtc, .main (.sample true)] ++ List.replicate 4 .burtc ++
    [.main (.sample false), .burtc, .burtc, .main (.sample true)]

/-- The next detected frame saturates the confidence unflagged. -/
theorem saturation_not_flagged :
    ¬ SaturationFlagged ((loopMachine 7).trace (dip ++ [.burtc])) := by
  intro h
  have hm := irq_mem_loop 7 (List.prefix_refl (dip ++ [.burtc]))
  exact absurd (h _ hm (by decide +kernel) (by decide +kernel)) (by decide +kernel)

/-! ## Stale reports -/

/-- No payload with state 1 is handed to the sender at a confidence of 20 or below. -/
def NoStaleReport (os : List Obs) : Prop :=
  ∀ site m, .sender site m ∈ os → stateOf m.tx_buffer = ['1'] → 20 < m.radarAppVars.detectConf

/-- No episode ends unreported: a missed frame at 25 finds no active notification pending, or
    an inactivation owed. -/
def EpisodesReported (os : List Obs) : Prop :=
  ∀ m, .irq m ∈ os → m.result.presence_detected = false → m.radarAppVars.detectConf = 25 →
    m.radarCoapSendActive = true → m.radarCoapRequireInactivation = true

/-- At 20 or below a pending active notification comes with an owed inactivation. -/
def Withdrawn (m : Mem) : Prop :=
  m.radarAppVars.detectConf ≤ 20 → m.radarCoapSendActive = true →
    m.radarCoapRequireInactivation = true

/-- The confidence comes to 20 from 25 only; below, the condition held before. -/
theorem withdrawn_irq {m : Mem} (hs : Confident ⟨m, .processAction⟩)
    (hend : m.result.presence_detected = false → m.radarAppVars.detectConf = 25 →
      m.radarCoapSendActive = true → m.radarCoapRequireInactivation = true)
    (h : Withdrawn m) : Withdrawn (BURTC_IRQHandler m) := by
  intro hlow ha
  have hu8 : m.radarAppVars.detectConf < 256 := hs.lt_256
  rw [irq_require]
  rw [irq_detectConf hu8] at hlow
  cases hd : m.result.presence_detected with
  | true =>
    have hfloor : 10 ≤ m.radarAppVars.detectConf := hs.floor_le hd
    rw [hd, if_pos rfl] at hlow
    split_ifs at hlow <;> omega
  | false =>
    have hpend : m.radarCoapSendActive = true := by
      rw [irq_sendActive, hd] at ha
      simpa using ha
    rw [hd] at hlow
    simp only [Bool.false_eq_true, if_false] at hlow
    rcases Nat.lt_or_ge 20 m.radarAppVars.detectConf with hgt | hle
    · have h25 : m.radarAppVars.detectConf = 25 := by
        rcases hs.phase with hb | hset
        · have hone : m.radarAppVars.detectConf = 1 := hb.conf
          omega
        · obtain ⟨-, -, hgrid⟩ := level_bounds hset.level
          dsimp only at hgrid
          omega
      exact hend hd h25 hpend
    · exact h hle hpend

theorem withdrawn_step {m : Mem} (e : Ev) (hs : Confident ⟨m, .processAction⟩)
    (hend : EpisodesReported (loopStep m e).2) (h : Withdrawn m) :
    Withdrawn (loopStep m e).1 := by
  cases e with
  | burtc => exact withdrawn_irq hs (hend m (List.mem_singleton_self _)) h
  | alive_cb => exact h
  | iadc data => exact h
  | permissions r env => exact h
  | main env =>
    obtain ⟨c, hc⟩ := algo_vars env m
    intro hlow ha
    have hlow' : m.radarAppVars.detectConf ≤ 20 := by
      rw [loopStep, hc] at hlow
      exact hlow
    rcases algo_flags env m with ⟨-, -, hoff, -⟩ | ⟨-, -, -, hoff, -⟩ | ⟨-, hr, hsame, -⟩
    · exact absurd ha (by simp [loopStep, hoff])
    · exact absurd ha (by simp [loopStep, hoff])
    · rw [loopStep, hr]
      rw [loopStep, hsame] at ha
      exact h hlow' ha

/-- What the sender is handed at 20 or below is not state 1. -/
theorem noStale_algo {m : Mem} (env : AlgoEnv) (h : Withdrawn m) :
    NoStaleReport (radarAppAlgo env m).2 := by
  intro site m' hm' hone
  obtain ⟨hconf, hcases⟩ := algo_sender hm'
  rcases hcases with ⟨-, hstate⟩ | ⟨-, -, ha, hr⟩ | ⟨-, hstate⟩
  · rw [hstate] at hone
    exact absurd hone (by decide)
  · rw [hconf]
    refine Nat.lt_of_not_le (fun hlow => ?_)
    have howed := h hlow ha
    rw [hr] at howed
    cases howed
  · rw [hstate] at hone
    exact absurd hone (by decide)

/-- Only calls of `radarAppAlgo` hand payloads to the sender. -/
theorem noStale_step {m : Mem} (e : Ev) (h : Withdrawn m) : NoStaleReport (loopStep m e).2 := by
  cases e with
  | burtc => exact fun site m' hm' => by simp [loopStep] at hm'
  | alive_cb => exact fun site m' hm' => by simp [loopStep] at hm'
  | iadc data => exact fun site m' hm' => by simp [loopStep] at hm'
  | permissions r env =>
    intro site m' hm'
    obtain ⟨c, hc⟩ := mem_map_call hm'
    cases hc
  | main env => exact noStale_algo env h

/-- In a run whose episodes are reported no report is stale. -/
theorem noStale_of_reported (unique : UInt64) (es : List Ev) :
    EpisodesReported ((loopMachine unique).trace es) →
      Withdrawn ((loopMachine unique).state es) ∧
        NoStaleReport ((loopMachine unique).trace es) := by
  refine (loopMachine unique).invariant_trace (fun m os => EpisodesReported os →
    Withdrawn m ∧ NoStaleReport os) ?_ ?_ es
  · exact fun _ => ⟨fun _ ha => Bool.noConfusion ha, fun _ _ hm => absurd hm (List.not_mem_nil)⟩
  · intro es e ih hend
    obtain ⟨hw, hstale⟩ := ih fun m hm => hend m (List.mem_append_left _ hm)
    refine ⟨withdrawn_step e (confident_loop unique es)
      (fun m hm => hend m (List.mem_append_right _ hm)) hw, ?_⟩
    intro site m hm hone
    rcases List.mem_append.mp hm with hm | hm
    · exact hstale site m hm hone
    · exact noStale_step e hw site m hm hone

/-- A pending active notification that is not owed is sent by the next call of an established
    sensor, whatever the confidence. -/
theorem stale_of_pending {unique : UInt64} {es : List Ev}
    (hest : ((loopMachine unique).state es).coap.appCoapConnectionEstablished = true)
    (hi : ((loopMachine unique).state es).radarCoapSendInactive = false)
    (ha : ((loopMachine unique).state es).radarCoapSendActive = true)
    (hr : ((loopMachine unique).state es).radarCoapRequireInactivation = false)
    (hlow : ((loopMachine unique).state es).radarAppVars.detectConf ≤ 20) (env : AlgoEnv) :
    ¬ NoStaleReport ((loopMachine unique).trace (es ++ [.main env])) := by
  intro h
  obtain ⟨m', hm', hone, hconf⟩ := algo_sends_active env hest hi ha hr
  have hgt : 20 < m'.radarAppVars.detectConf := by
    refine h .active m' ?_ hone
    rw [Machine.trace_snoc]
    exact List.mem_append_right _ hm'
  omega

/-- No stale report is sent while every episode is reported before it ends. Where an episode
    ends unreported, a handshake after that interrupt sends one, whatever its request, the
    stack's answers and the next frame. -/
theorem stale_report_iff (unique : UInt64) (es : List Ev) :
    (EpisodesReported ((loopMachine unique).trace es) →
      NoStaleReport ((loopMachine unique).trace es)) ∧
    (¬ EpisodesReported ((loopMachine unique).trace es) →
      ∃ pre, pre <+: es ∧ ∀ r renv env,
        ¬ NoStaleReport ((loopMachine unique).trace
          (pre ++ [.permissions r renv, .main env]))) := by
  refine ⟨fun h => (noStale_of_reported unique es h).2, ?_⟩
  intro h
  simp only [EpisodesReported, not_forall] at h
  obtain ⟨m, hm, hd, h25, ha, hr⟩ := h
  obtain ⟨pre, hpre, rfl⟩ := irq_loop hm
  have hr' := Bool.eq_false_of_not_eq_true hr
  refine ⟨pre ++ [.burtc], hpre, fun r renv env => ?_⟩
  have hu8 : ((loopMachine unique).state pre).radarAppVars.detectConf < 256 :=
    (confident_loop unique pre).lt_256
  have hstate : (loopMachine unique).state (pre ++ [.burtc] ++ [.permissions r renv]) =
      (processRequest r renv (BURTC_IRQHandler ((loopMachine unique).state pre))).1 := by
    rw [Machine.state_snoc, Machine.state_snoc]
    rfl
  have hrequire : (BURTC_IRQHandler ((loopMachine unique).state pre)).radarCoapRequireInactivation =
      false := by rw [irq_require, hr']
  -- nothing inactive is pending, since nothing is owed
  have hi : ((loopMachine unique).state
      (pre ++ [.burtc] ++ [.permissions r renv])).radarCoapSendInactive = false := by
    refine Bool.eq_false_of_not_eq_true (fun hpend => ?_)
    have howed := ((boundary unique _).pending hpend).1
    rw [hstate, processRequest_require, hrequire] at howed
    cases howed
  have hsplit : pre ++ [.burtc] ++ [.permissions r renv, .main env] =
      pre ++ [.burtc] ++ [.permissions r renv] ++ [.main env] := by simp
  rw [hsplit]
  refine stale_of_pending ?_ hi ?_ ?_ ?_ env
  · rw [hstate, processRequest_established]
  · rw [hstate, processRequest_sendActive, irq_sendActive, ha, Bool.true_or]
  · rw [hstate, processRequest_require, hrequire]
  · rw [hstate, processRequest_radarAppVars, irq_detectConf hu8, hd, h25]
    decide

/-- Boot and one detected frame, counted five times; then one empty frame, counted until the
    confidence is 20; the handshake comes only then. -/
def lateHandshake : List Ev :=
  [.burtc, .main (.sample true)] ++ List.replicate 5 .burtc ++
    .main (.sample false) :: List.replicate 18 .burtc ++ [.get]

theorem stale_report :
    ¬ NoStaleReport ((loopMachine 7).trace (lateHandshake ++ [.main (.sample false)])) :=
  stale_of_pending (by decide +kernel) (by decide +kernel) (by decide +kernel)
    (by decide +kernel) (by decide +kernel) _

end OtIpr
