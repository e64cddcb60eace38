/-
  The time to switch to "detected", under every interleaving.

  From a rest state, with one detected frame after each interrupt, the confidence climbs 10,
  30, 50, 70, 90 (`Climb`). The README bounds the time by the intervals of the odd levels up
  to 80 (`latencyBound`): 3000, 1000, 750, 750. The handler tests the threshold before it
  steps up, so the interrupt that leaves 70 raises nothing and a fifth interval passes:
  `latency_exceeds_bound`.
-/
import OtIpr.Radar.Interval

namespace OtIpr

open Lib

/-! ## The bound and the run it is about -/

/-- README, "Details of Detection Algorithms": the sum over odd k up to TH+ / 10 of
    max (IFDmax / k, IFDmin). -/
def latencyBound (th ifdMax ifdMin : ℕ) : ℚ :=
  (((List.range (th / 10 + 1)).filter (· % 2 = 1)).map
    fun k : ℕ => max ((ifdMax : ℚ) / k) (ifdMin : ℚ)).sum

/-- The bound with the parameters of main.c. -/
def readmeBound : ℚ :=
  latencyBound RADAR_APP_DEFAULT_POS_TH RADAR_APP_DEFAULT_FRAME_SPACING_MS
    RADAR_APP_DEFAULT_MIN_FRAME_SPACING_MS

/-- At rest, after an interrupt without presence. -/
structure Rest (m : Mem) : Prop where
  conf : m.radarAppVars.detectConf = RADAR_APP_DEFAULT_MIN_TH
  quiet : m.result.presence_detected = false
  active : m.radarCoapSendActive = false
  inactive : m.radarCoapSendInactive = false
  require : m.radarCoapRequireInactivation = false

instance (m : Mem) : Decidable (Rest m) :=
  decidable_of_iff (m.radarAppVars.detectConf = RADAR_APP_DEFAULT_MIN_TH ∧
      m.result.presence_detected = false ∧ m.radarCoapSendActive = false ∧
      m.radarCoapSendInactive = false ∧ m.radarCoapRequireInactivation = false)
    ⟨fun ⟨hc, hq, ha, hi, hr⟩ => ⟨hc, hq, ha, hi, hr⟩,
      fun h => ⟨h.conf, h.quiet, h.active, h.inactive, h.require⟩⟩

/-- The interval that an interrupt ends. -/
def Obs.interval : Obs → Option ℕ
  | .irq m => some m.burtcCompare
  | _ => none

/-- A frame that was measured. -/
def Obs.measured : Obs → Option PresenceResult
  | .frame r => r
  | _ => none

/-- The intervals that passed, and the frames measured on the way. -/
def intervals (os : List Obs) : List ℕ := os.filterMap Obs.interval

def frames (os : List Obs) : List PresenceResult := os.filterMap Obs.measured

/-- One frame is measured between any two interrupts, and before the first. -/
def FramePerInterrupt (os : List Obs) : Prop :=
  ∀ a m b, os = a ++ .irq m :: b → (frames a).length = (intervals a).length + 1

/-- Every frame that is measured detects presence. -/
def AllDetect (os : List Obs) : Prop := ∀ r ∈ frames os, r.presence_detected = true

/-- The time to the first interrupt that sets `radarCoapSendActive`. -/
def LatencyBounded (bound : ℚ) (os : List Obs) : Prop :=
  ∀ a m b, os = a ++ .irq m :: b → SetsActive m → (∀ m', .irq m' ∈ a → ¬ SetsActive m') →
    ((intervals (a ++ [.irq m])).sum : ℚ) ≤ bound

/-! ## Frames and intervals of a step -/

theorem intervals_append (a b : List Obs) : intervals (a ++ b) = intervals a ++ intervals b :=
  List.filterMap_append

theorem frames_append (a b : List Obs) : frames (a ++ b) = frames a ++ frames b :=
  List.filterMap_append

/-- Only an interrupt ends an interval. -/
theorem intervals_sysStep {s : Sys} {e : Ev} (he : e ≠ .burtc) :
    intervals (sysStep s e).2 = [] := by
  refine List.filterMap_eq_nil_iff.mpr fun o ho => ?_
  cases o with
  | irq m => exact absurd (irq_mem_sysStep ho).1 he
  | _ => rfl

theorem frames_calls (calls : List OtCall) : frames (calls.map .call) = [] := by
  refine List.filterMap_eq_nil_iff.mpr fun o ho => ?_
  obtain ⟨c, rfl⟩ := mem_map_call ho
  rfl

theorem frames_callSender (site : Site) (require_ack : Bool) (env : SenderEnv) (m : Mem) :
    frames (callSender site require_ack env m).2 = [] := by
  rw [callSender_obs]
  exact frames_calls _

/-- The frame in memory is the last one measured. -/
theorem result_sysStep (s : Sys) (e : Ev) :
    (sysStep s e).1.mem.result = (frames (sysStep s e).2).getLast?.getD s.mem.result := by
  rcases sysStep_cases s e with rfl | ⟨env, rfl⟩ | ⟨alive, vdd, coap, calls, hstep⟩
  · exact irq_result s.mem
  · obtain ⟨m, pc⟩ := s
    cases pc with
    | inGetNext => cases hf : env.frame <;> simp [sysStep, mainStep, frames, Obs.measured, hf]
    | sendInactive | sendActive | sendAlive =>
      simp only [sysStep, mainStep, frames_callSender]
      rfl
    | _ => rfl
  · rw [hstep, frames_calls]
    rfl

/-! ## The climb -/

variable {M : Machine Sys Ev Obs}

/-- Every state of a run from a settled state. -/
structure Going (s : Sys) : Prop where
  confident : Confident s
  timed : Timed s.mem
  average : -3000 ≤ s.mem.radarAppVars.dx

theorem going_boot (unique : UInt64) : Going ⟨boot unique, .processAction⟩ where
  confident := confident_boot unique
  timed := timed_boot unique
  average := by
    show (-3000 : ℚ) ≤ 1
    norm_num

theorem going_step {s : Sys} (e : Ev) (h : Going s) : Going (sysStep s e).1 := by
  refine ⟨confident_step e h.confident, timed_step e h.confident h.timed, ?_⟩
  by_cases he : e = .burtc
  · subst he
    have hspacing : -(s.mem.radarAppVars.frameSpacingMs : ℚ) = -3000 := by
      rw [h.confident.spacing]
      norm_num
    have hge := irq_dx_ge (m := s.mem) (by rw [hspacing]; exact h.average)
    rwa [hspacing] at hge
  · obtain ⟨c, hc⟩ := sysStep_radarAppVars (s := s) he
    rw [hc]
    exact h.average

/-- The interval at the `k`-th level of the climb, `10 + 20 k`. -/
def climbInterval (k : ℕ) : ℕ := max 750 (3000 / (1 + 2 * k))

/-- A bound from below on the average at the `k`-th level. -/
def climbAverage : ℕ → ℚ
  | 0 => -3000
  | k + 1 => (climbAverage k + (3000 / (3 + 2 * k) : ℕ)) / 2

/-- The confidence is at the `k`-th level, reached through all levels before it. -/
structure Climb (k : ℕ) (s : Sys) (os : List Obs) : Prop where
  conf : s.mem.radarAppVars.detectConf = 10 + 20 * k
  average : climbAverage k ≤ s.mem.radarAppVars.dx
  passed : intervals os = (List.range k).map climbInterval
  silent : ∀ m, .irq m ∈ os → ¬ SetsActive m

/-- The interval in force at a level. -/
theorem Climb.interval {k : ℕ} {s : Sys} {os : List Obs} (h : Climb k s os) (hg : Going s) :
    s.mem.burtcCompare = climbInterval k := by
  have hconf := h.conf
  have hlevel : (10 + 20 * k) / 10 = 1 + 2 * k := by omega
  rw [hg.timed.settled (by omega), intervalOf_eq hg.confident.spacing, hconf, hlevel]
  rfl

/-- Below the threshold a detected frame leads to the next level and raises nothing. -/
theorem Climb.up {k : ℕ} {s : Sys} {os : List Obs} (h : Climb k s os) (hg : Going s) (hk : k < 4)
    (hd : s.mem.result.presence_detected = true) :
    Climb (k + 1) (sysStep s .burtc).1 (os ++ [.irq s.mem]) := by
  have hconf := h.conf
  refine ⟨?_, ?_, ?_, ?_⟩
  · show (BURTC_IRQHandler s.mem).radarAppVars.detectConf = _
    rw [irq_detectConf (by omega), if_pos hd, if_neg (by omega)]
    omega
  · show climbAverage (k + 1) ≤ (BURTC_IRQHandler s.mem).radarAppVars.dx
    have hlevel : (10 + 20 * k + 20) / 10 = 3 + 2 * k := by omega
    rw [irq_dx_of_detected hd, if_neg (by omega), addConf_eq (by omega), hg.confident.spacing,
      hconf, hlevel, climbAverage]
    have := h.average
    linarith
  · rw [intervals_append, h.passed, List.range_succ, List.map_append]
    simp [intervals, Obs.interval, h.interval hg]
  · intro m hm
    rcases List.mem_append.mp hm with hm | hm
    · exact h.silent m hm
    · obtain rfl := Obs.irq.inj (List.mem_singleton.mp hm)
      rw [setsActive_iff]
      omega

/-! ## Runs from a rest state -/

theorem going (hM : M.step = sysStep) (h : Going M.init) (es : List Ev) : Going (M.state es) :=
  M.invariant Going h (fun _ e hs => by rw [hM]; exact going_step e hs) es

/-- The frame in memory is the last one of the run, or the one it started with. -/
theorem result_run (hM : M.step = sysStep) (es : List Ev) :
    (M.state es).mem.result = (frames (M.trace es)).getLast?.getD M.init.mem.result := by
  refine M.invariant_trace
    (fun s os => s.mem.result = (frames os).getLast?.getD M.init.mem.result) rfl ?_ es
  intro es e ih
  rw [hM, result_sysStep, ih, frames_append, List.getLast?_append]
  cases (frames (sysStep (M.state es) e).2).getLast? <;> rfl

/-- Where all frames detect presence and one was measured, the interrupt sees presence. -/
theorem detected_run (hM : M.step = sysStep) {es : List Ev} (hall : AllDetect (M.trace es))
    (hne : frames (M.trace es) ≠ []) : (M.state es).mem.result.presence_detected = true := by
  rw [result_run hM, List.getLast?_eq_some_getLast hne]
  exact hall _ (List.getLast_mem hne)

theorem FramePerInterrupt.left {a b : List Obs} (h : FramePerInterrupt (a ++ b)) :
    FramePerInterrupt a := by
  rintro c m d rfl
  exact h c m (d ++ b) (by simp)

theorem AllDetect.left {a b : List Obs} (h : AllDetect (a ++ b)) : AllDetect a := by
  intro r hr
  refine h r ?_
  rw [frames_append]
  exact List.mem_append_left _ hr

/-- Up to four interrupts after the rest state the confidence climbs. -/
theorem climb_run (hM : M.step = sysStep) (hg : Going M.init) (hrest : Rest M.init.mem)
    (es : List Ev) (hframes : FramePerInterrupt (M.trace es)) (hall : AllDetect (M.trace es))
    (hle : (intervals (M.trace es)).length ≤ 4) :
    Climb (intervals (M.trace es)).length (M.state es) (M.trace es) := by
  refine M.invariant_trace (fun s os => FramePerInterrupt os → AllDetect os →
    (intervals os).length ≤ 4 → Climb (intervals os).length s os) ?_ ?_ es hframes hall hle
  · intro _ _ _
    exact ⟨hrest.conf, hg.average, rfl, fun _ hm => absurd hm List.not_mem_nil⟩
  intro es e ih hframes hall hle
  rw [intervals_append, List.length_append] at hle
  have hclimb := ih hframes.left hall.left (by omega)
  rw [hM] at hframes hle ⊢
  by_cases he : e = .burtc
  · subst he
    have hcount := hframes _ _ [] rfl
    have hd := detected_run hM hall.left (List.ne_nil_of_length_pos (by omega))
    have hone : intervals (sysStep (M.state es) .burtc).2 = [(M.state es).mem.burtcCompare] := rfl
    rw [hone, List.length_singleton] at hle
    rw [intervals_append, List.length_append, hone, List.length_singleton]
    exact hclimb.up (going hM hg es) (by omega) hd
  · have hnone := intervals_sysStep (s := M.state es) he
    obtain ⟨c, hc⟩ := sysStep_radarAppVars (s := M.state es) he
    rw [intervals_append, hnone, List.append_nil]
    refine ⟨?_, ?_, ?_, ?_⟩
    · rw [hc]
      exact hclimb.conf
    · rw [hc]
      exact hclimb.average
    · rw [intervals_append, hnone, List.append_nil]
      exact hclimb.passed
    · intro m hm
      rcases List.mem_append.mp hm with hm | hm
      · exact hclimb.silent m hm
      · exact absurd (irq_mem_sysStep hm).1 he

/-- The fifth interrupt after the rest state is the first one that raises the notification. -/
theorem fifth_setsActive (hM : M.step = sysStep) (hg : Going M.init) (hrest : Rest M.init.mem)
    {es : List Ev} {a b : List Obs} {m : Mem} (h : M.trace es = a ++ .irq m :: b)
    (hframes : FramePerInterrupt (M.trace es)) (hall : AllDetect (M.trace es))
    (hle : (intervals a).length ≤ 4) :
    (SetsActive m ↔ (intervals a).length = 4) ∧ (∀ m', .irq m' ∈ a → ¬ SetsActive m') ∧
      intervals (a ++ [.irq m]) = (List.range ((intervals a).length + 1)).map climbInterval := by
  obtain ⟨pre, rfl, rfl⟩ := irq_split hM h
  have hcount := hframes _ _ _ h
  rw [h] at hframes hall
  have hd := detected_run hM hall.left (List.ne_nil_of_length_pos (by omega))
  have hclimb := climb_run hM hg hrest pre hframes.left hall.left hle
  have hconf := hclimb.conf
  refine ⟨?_, hclimb.silent, ?_⟩
  · rw [setsActive_iff]
    constructor
    · rintro ⟨-, h80, -, -⟩
      omega
    · intro h4
      have haverage := hclimb.average
      have hpos : 0 < climbAverage 4 := by
        norm_num [climbAverage]
      rw [h4] at haverage
      exact ⟨hd, by omega, by omega, lt_of_lt_of_le hpos haverage⟩
  · rw [intervals_append, hclimb.passed, List.range_succ, List.map_append, List.length_map,
      List.length_range]
    simp [intervals, Obs.interval, hclimb.interval (going hM hg pre)]

/-! ## The bound is exceeded -/

theorem readmeBound_eq : readmeBound = 5500 := by
  decide +kernel

/-- The sensor from the state that `pre` and one interrupt lead to. -/
def restMachine (unique : UInt64) (pre : List Ev) : Machine Sys Ev Obs :=
  (sysMachine unique).startAt ((sysMachine unique).state (pre ++ [.burtc]))

theorem going_rest (unique : UInt64) (pre : List Ev) : Going (restMachine unique pre).init :=
  going (M := sysMachine unique) rfl (going_boot unique) _

/-- The claim of the README for one rest state and one continuation with a detected frame after
    each interrupt. -/
def DetectsInTime (unique : UInt64) (pre fs : List Ev) : Prop :=
  Rest (restMachine unique pre).init.mem → FramePerInterrupt ((restMachine unique pre).trace fs) →
    AllDetect ((restMachine unique pre).trace fs) →
    LatencyBounded readmeBound ((restMachine unique pre).trace fs)

section

variable {unique : UInt64} {pre fs : List Ev} {a b : List Obs} {m : Mem}

theorem exists_fifth {l : List Obs} (hl : 5 ≤ (intervals l).length) :
    ∃ a m b, l = a ++ .irq m :: b ∧ (intervals a).length = 4 := by
  obtain ⟨a, o, b, rfl, ho, ha⟩ := Machine.filterMap_split (Nat.lt_of_succ_le hl)
  cases o with
  | irq m => exact ⟨a, m, b, rfl, ha⟩
  | _ => simp [Obs.interval] at ho

theorem passed_intervals (hrest : Rest (restMachine unique pre).init.mem)
    (hframes : FramePerInterrupt ((restMachine unique pre).trace fs))
    (hall : AllDetect ((restMachine unique pre).trace fs))
    (h : (restMachine unique pre).trace fs = a ++ .irq m :: b) (hset : SetsActive m)
    (hsilent : ∀ m', .irq m' ∈ a → ¬ SetsActive m') :
    intervals (a ++ [.irq m]) = [3000, 1000, 750, 750, 750] := by
  have hg := going_rest unique pre
  have hle : (intervals a).length ≤ 4 := by
    by_contra hgt
    -- an interrupt before this one is the fifth
    obtain ⟨c, m', d, rfl, h4⟩ := exists_fifth (Nat.lt_of_not_le hgt)
    have hsplit : (restMachine unique pre).trace fs = c ++ .irq m' :: (d ++ .irq m :: b) := by
      rw [h]
      simp
    have hfifth := fifth_setsActive rfl hg hrest hsplit hframes hall (Nat.le_of_eq h4)
    exact hsilent m' (by simp) (hfifth.1.mpr h4)
  obtain ⟨hiff, -, hpassed⟩ := fifth_setsActive rfl hg hrest h hframes hall hle
  rw [hpassed, hiff.mp hset]
  rfl

theorem not_latencyBounded (hrest : Rest (restMachine unique pre).init.mem)
    (hframes : FramePerInterrupt ((restMachine unique pre).trace fs))
    (hall : AllDetect ((restMachine unique pre).trace fs))
    (h5 : 5 ≤ (intervals ((restMachine unique pre).trace fs)).length) :
    ¬ LatencyBounded readmeBound ((restMachine unique pre).trace fs) := by
  intro hbound
  obtain ⟨a, m, b, h, h4⟩ := exists_fifth h5
  obtain ⟨hiff, hsilent, hpassed⟩ := fifth_setsActive rfl (going_rest unique pre) hrest h hframes
    hall (Nat.le_of_eq h4)
  have hsum := hbound a m b h (hiff.mpr h4) hsilent
  rw [hpassed, h4, readmeBound_eq] at hsum
  exact absurd hsum (by decide +kernel)

end

/-- From every rest state, with one detected frame after each interrupt, the notification is
    raised after the intervals 3000, 1000, 750, 750, 750, and so never within the bound. -/
theorem latency_exceeds_bound (unique : UInt64) (pre fs : List Ev)
    (hrest : Rest (restMachine unique pre).init.mem)
    (hframes : FramePerInterrupt ((restMachine unique pre).trace fs))
    (hall : AllDetect ((restMachine unique pre).trace fs)) :
    (∀ a m b, (restMachine unique pre).trace fs = a ++ .irq m :: b → SetsActive m →
      (∀ m', .irq m' ∈ a → ¬ SetsActive m') →
      intervals (a ++ [.irq m]) = [3000, 1000, 750, 750, 750]) ∧
    (5 ≤ (intervals ((restMachine unique pre).trace fs)).length →
      ¬ LatencyBounded readmeBound ((restMachine unique pre).trace fs)) :=
  ⟨fun _ _ _ h => passed_intervals hrest hframes hall h, not_latencyBounded hrest hframes hall⟩

instance (os : List Obs) : Decidable (FramePerInterrupt os) :=
  decidable_of_iff (∀ i (h : i < os.length), (os[i].interval).isSome →
      (frames (os.take i)).length = (intervals (os.take i)).length + 1) <| by
    constructor
    · rintro h a m b rfl
      have := h a.length (by simp) (by simp [Obs.interval])
      simpa using this
    · intro h i hi hsome
      have hsplit : os = os.take i ++ os[i] :: os.drop (i + 1) := by simp
      cases ho : os[i] with
      | irq m =>
        rw [ho] at hsplit
        exact h _ m _ hsplit
      | _ => simp [ho, Obs.interval] at hsome

instance (os : List Obs) : Decidable (AllDetect os) :=
  inferInstanceAs (Decidable (∀ r ∈ frames os, _))

/-- Five iterations that measure a detected frame, each before an interrupt. -/
def fiveFrames : List Ev := (List.replicate 5 (stmts 7 (.sample true) ++ [.burtc])).flatten

theorem latency_exceeds_bound_boot :
    ¬ LatencyBounded readmeBound ((restMachine 7 []).trace fiveFrames) :=
  (latency_exceeds_bound 7 [] fiveFrames (by decide +kernel) (by decide +kernel)
    (by decide +kernel)).2 (by decide +kernel)

/-- After boot the notification takes 6250 ms. -/
theorem detects_too_late : ¬ DetectsInTime 7 [] fiveFrames := by
  intro h
  have hrest : Rest (restMachine 7 []).init.mem := by decide +kernel
  have hframes : FramePerInterrupt ((restMachine 7 []).trace fiveFrames) := by decide +kernel
  have hall : AllDetect ((restMachine 7 []).trace fiveFrames) := by decide +kernel
  exact not_latencyBounded hrest hframes hall (by decide +kernel) (h hrest hframes hall)

end OtIpr
