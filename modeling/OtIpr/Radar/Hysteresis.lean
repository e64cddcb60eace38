/-
  Hysteresis, under every interleaving: how many contradicting interrupts a change of the
  notifications takes, and that a descent of the confidence is always noticed.

  Counting. `potential_between` is the potential rule for interrupts: from a marked interrupt
  on, a function of the confidence falls by at most the cost of each interrupt. With the
  height under the cap (a miss costs 5) it gives the 17 misses from an active notification to
  an inactive one, with the room above the confidence (a hit costs 20) the 5 hits back. These
  are interrupts, not frames: interrupts count one frame again and again until the next one is
  measured, and so a single frame can flip the state (`flipped_by_one_frame`).

  Descent. While an inactivation is owed, a confidence under 20 comes with a pending inactive
  notification (`Owed`): the confidence passes 20 exactly, with a negative average
  (`Settled`), and the interrupt that takes it on raises the notification.
-/
import OtIpr.Radar.Latency
import OtIpr.Radar.Reports

namespace OtIpr

open Lib

variable {unique : UInt64}

/-! ## Counting frames -/

/-- An interrupt that finds `presence_detected` false. -/
def Obs.miss : Obs → Bool
  | .irq m => !m.result.presence_detected
  | _ => false

/-- An interrupt that finds `presence_detected` true. -/
def Obs.hit : Obs → Bool
  | .irq m => m.result.presence_detected
  | _ => false

/-- The potential rule for the confidence. `φ` is at least `c` after an interrupt with `P`, and
    each interrupt lowers it by at most its cost. -/
theorem potential_between (φ : ℕ → ℕ) (cost : Obs → ℕ) (P : Mem → Prop) (c : ℕ)
    (mark : ∀ s, Confident s → P s.mem →
      c ≤ φ (BURTC_IRQHandler s.mem).radarAppVars.detectConf)
    (lower : ∀ s, Confident s → φ s.mem.radarAppVars.detectConf ≤
      φ (BURTC_IRQHandler s.mem).radarAppVars.detectConf + cost (.irq s.mem))
    {es : List Ev} {a b : List Obs} {m : Mem}
    (h : (sysMachine unique).trace es = a ++ .irq m :: b) (hP : P m) :
    c ≤ φ ((sysMachine unique).state es).mem.radarAppVars.detectConf + (b.map cost).sum := by
  refine (sysMachine unique).potential_since (fun s => φ s.mem.radarAppVars.detectConf) cost
    (fun o => ∃ m, o = .irq m ∧ P m) c ?_ ?_ h ⟨m, rfl, hP⟩
  · rintro es e a _ b hstep ⟨m, rfl, hP⟩
    obtain ⟨rfl, rfl, -⟩ := irq_eq_sysStep hstep
    exact Nat.le_add_right_of_le (mark _ (confident unique es) hP)
  · intro es e
    by_cases he : e = .burtc
    · subst he
      exact lower _ (confident unique es)
    · obtain ⟨v, hv⟩ := sysStep_radarAppVars (s := (sysMachine unique).state es) he
      refine Nat.le_add_right_of_le (le_of_eq (congrArg φ ?_))
      rw [sysMachine_step, hv]

/-- From an interrupt that raises the active notification to one that raises the inactive
    notification, at least 17 interrupts find no presence. -/
theorem misses_until_inactive {es : List Ev} {a b c : List Obs} {m₁ m₂ : Mem}
    (h : (sysMachine unique).trace es = a ++ .irq m₁ :: (b ++ .irq m₂ :: c))
    (h₁ : SetsActive m₁) (h₂ : SetsInactive m₂) :
    17 ≤ (b ++ [Obs.irq m₂]).countP Obs.miss := by
  have hsplit : (sysMachine unique).trace es = (a ++ .irq m₁ :: b) ++ .irq m₂ :: c := by
    rw [h]
    simp
  obtain ⟨pre, hpre, rfl⟩ := irq_split rfl hsplit
  obtain ⟨hd₂, h20, -, -⟩ := (setsInactive_iff _).mp h₂
  have hheight : 100 ≤ min ((sysMachine unique).state pre).mem.radarAppVars.detectConf 100 +
      (b.map fun o => if o.miss then 5 else 0).sum := by
    refine potential_between (fun n => min n 100) _ SetsActive 100 ?_ ?_ hpre h₁
    · intro s hs hP
      obtain ⟨hd, hlo, hhi, -⟩ := (setsActive_iff _).mp hP
      rw [irq_detectConf hs.lt_256, if_pos hd, if_neg (by omega)]
      omega
    · intro s hs
      have hcost : (if (Obs.irq s.mem).miss then 5 else 0) =
          if s.mem.result.presence_detected then 0 else 5 := by
        cases hd : s.mem.result.presence_detected <;> simp [Obs.miss, hd]
      rw [irq_step hs.lt_256, hcost]
      exact detectCounter.height_le _ _
  rw [Machine.sum_map_cost, h20] at hheight
  rw [List.countP_append, List.countP_singleton, if_pos (by simp [Obs.miss, hd₂])]
  omega

/-- From an interrupt that raises the inactive notification to one that raises the active
    notification, at least 5 interrupts find presence. -/
theorem hits_until_active {es : List Ev} {a b c : List Obs} {m₁ m₂ : Mem}
    (h : (sysMachine unique).trace es = a ++ .irq m₁ :: (b ++ .irq m₂ :: c))
    (h₁ : SetsInactive m₁) (h₂ : SetsActive m₂) :
    5 ≤ (b ++ [Obs.irq m₂]).countP Obs.hit := by
  have hsplit : (sysMachine unique).trace es = (a ++ .irq m₁ :: b) ++ .irq m₂ :: c := by
    rw [h]
    simp
  obtain ⟨pre, hpre, rfl⟩ := irq_split rfl hsplit
  obtain ⟨hd₂, h80, -, -⟩ := (setsActive_iff _).mp h₂
  have hdepth : 105 ≤ 120 - max 10 ((sysMachine unique).state pre).mem.radarAppVars.detectConf +
      (b.map fun o => if o.hit then 20 else 0).sum := by
    refine potential_between (fun n => 120 - max 10 n) _ SetsInactive 105 ?_ ?_ hpre h₁
    · intro s hs hP
      obtain ⟨hd, h20, -, -⟩ := (setsInactive_iff _).mp hP
      rw [irq_detectConf hs.lt_256, hd, h20]
      decide
    · intro s hs
      rcases hs.phase with hb | hset
      · -- the boot interrupt lifts the confidence onto the floor
        rw [irq_step hs.lt_256, hb.conf, hb.quiet]
        exact Nat.le_add_right _ _
      · have hnow : 10 ≤ s.mem.radarAppVars.detectConf := hset.level.floor_le
        have hnext : 10 ≤ detectCounter.step s.mem.result.presence_detected
            s.mem.radarAppVars.detectConf := (LeakyCounter.step_valid _ hset.level).floor_le
        rw [irq_step hs.lt_256, max_eq_right hnow, max_eq_right hnext]
        exact detectCounter.depth_le _ hnow
  rw [Machine.sum_map_cost] at hdepth
  rw [List.countP_append, List.countP_singleton, if_pos (by simp [Obs.hit, hd₂])]
  omega

/-- Between a raised active and a later raised inactive notification at least 17 interrupts
    find no presence, and back at least 5 find presence, the last one counted. -/
theorem hysteresis_bound (unique : UInt64) (es : List Ev) (a b c : List Obs) (m₁ m₂ : Mem)
    (h : (sysMachine unique).trace es = a ++ .irq m₁ :: (b ++ .irq m₂ :: c)) :
    (SetsActive m₁ → SetsInactive m₂ → 17 ≤ (b ++ [Obs.irq m₂]).countP Obs.miss) ∧
      (SetsInactive m₁ → SetsActive m₂ → 5 ≤ (b ++ [Obs.irq m₂]).countP Obs.hit) :=
  ⟨misses_until_inactive h, hits_until_active h⟩

/-- Two interrupts of a run, what lies between them and what follows. -/
theorem trace_around (pre mid post : List Ev) :
    (sysMachine unique).trace (pre ++ .burtc :: (mid ++ .burtc :: post)) =
      (sysMachine unique).trace pre ++ .irq ((sysMachine unique).state pre).mem ::
        ((sysMachine unique).traceFrom ((sysMachine unique).state (pre ++ [.burtc])) mid ++
          .irq ((sysMachine unique).state (pre ++ .burtc :: mid)).mem ::
            (sysMachine unique).traceFrom
              (sysStep ((sysMachine unique).state (pre ++ .burtc :: mid)) .burtc).1 post) := by
  have hlast : (sysMachine unique).runFrom ((sysMachine unique).state (pre ++ [.burtc])) mid =
      (sysMachine unique).state (pre ++ .burtc :: mid) := by
    rw [← Machine.state_append, List.append_assoc, List.singleton_append]
  have hes : pre ++ .burtc :: (mid ++ .burtc :: post) =
      (pre ++ [.burtc]) ++ (mid ++ .burtc :: post) := by simp
  rw [hes, Machine.trace_append, Machine.trace_snoc, Machine.traceFrom_append, hlast]
  simp [Machine.traceFrom, sysStep]

/-- Boot, one detected frame, and the confidence at 90. -/
def rise : List Ev := .burtc :: stmts 7 (.sample true) ++ List.replicate 4 .burtc

/-- The handshake, the active notification, one empty frame, and the confidence at 20. -/
def fall : List Ev := .get :: stmts 16 (.sample false) ++ List.replicate 18 .burtc

/-- The inactive notification, one detected frame, and the confidence at 95. -/
def riseAgain : List Ev := stmts 17 (.sample true) ++ List.replicate 4 .burtc

/-- What a run shows after one interrupt, up to the next one it ends in. -/
def between (unique : UInt64) (pre mid : List Ev) : List Obs :=
  (sysMachine unique).traceFrom ((sysMachine unique).state (pre ++ [.burtc])) mid ++
    [.irq ((sysMachine unique).state (pre ++ .burtc :: mid)).mem]

theorem hysteresis_bound_cycle :
    17 ≤ (between 7 rise fall).countP Obs.miss ∧
      5 ≤ (between 7 (rise ++ .burtc :: fall) riseAgain).countP Obs.hit :=
  ⟨(hysteresis_bound 7 _ _ _ _ _ _ (trace_around rise fall [])).1
      (by decide +kernel) (by decide +kernel),
    (hysteresis_bound 7 _ _ _ _ _ _ (trace_around (rise ++ .burtc :: fall) riseAgain [])).2
      (by decide +kernel) (by decide +kernel)⟩

/-- The bound with frames in place of interrupts: as many frames are measured without presence
    from a raised active to a raised inactive notification, and with presence back. -/
def FlipTakesFrames (os : List Obs) : Prop :=
  ∀ a b c m₁ m₂, os = a ++ .irq m₁ :: (b ++ .irq m₂ :: c) →
    (SetsActive m₁ → SetsInactive m₂ →
      17 ≤ (frames b).countP fun r => !r.presence_detected) ∧
    (SetsInactive m₁ → SetsActive m₂ → 5 ≤ (frames b).countP fun r => r.presence_detected)

/-- The second active notification is sent, after a failed measurement. -/
def tellAgain : List Ev := stmts 16 { AlgoEnv.sample true with frame := none }

/-- The active notification, the inactive one, and the active one again. -/
def flips : List Ev :=
  (rise ++ .burtc :: fall) ++ .burtc :: (riseAgain ++ .burtc :: tellAgain)

/-- Three frames are measured, and each flips the reported state. -/
theorem flipped_by_one_frame :
    ¬ FlipTakesFrames ((sysMachine 7).trace flips) ∧
      (frames ((sysMachine 7).trace flips)).map PresenceResult.presence_detected =
        [true, false, true] ∧
      reports ((sysMachine 7).trace flips) = [['1'], ['0'], ['1']] := by
  refine ⟨fun h => ?_, by decide +kernel, by decide +kernel⟩
  have hfive := (h _ _ _ _ _ (trace_around (rise ++ .burtc :: fall) riseAgain tellAgain)).2
    (by decide +kernel) (by decide +kernel)
  exact absurd hfive (by decide +kernel)

/-! ## Every descent is noticed -/

/-- While an inactivation is owed, a confidence under 20 comes with its notification. -/
structure Owed (m : Mem) : Prop where
  require : m.radarCoapRequireInactivation = true
  noticed : m.radarAppVars.detectConf < 20 → m.radarCoapSendInactive = true

/-- The confidence passes 20 on its way down, by a missed frame. -/
theorem passes_20 {s : Sys} (h : Confident s) (h20 : 20 ≤ s.mem.radarAppVars.detectConf)
    (hlow : (BURTC_IRQHandler s.mem).radarAppVars.detectConf < 20) :
    s.mem.radarAppVars.detectConf = 20 ∧ s.mem.result.presence_detected = false := by
  rcases h.phase with hb | hs
  · rw [hb.conf] at h20
    omega
  · rw [irq_step h.lt_256] at hlow
    exact LeakyCounter.passes_at hs.level (by decide) (by decide) h20 hlow

/-- At 20 the average is negative. -/
theorem average_neg {s : Sys} (h : Confident s) (h20 : s.mem.radarAppVars.detectConf = 20) :
    s.mem.radarAppVars.dx < 0 := by
  rcases h.phase with hb | hs
  · rw [hb.conf] at h20
    cases h20
  · exact hs.falls h20

theorem owed_irq {s : Sys} (hs : Confident s) (h : Owed s.mem) :
    Owed (BURTC_IRQHandler s.mem) := by
  refine ⟨(irq_require s.mem).trans h.require, ?_⟩
  intro hlow
  rcases Nat.lt_or_ge s.mem.radarAppVars.detectConf 20 with hlt | hge
  · exact irq_sendInactive_of_pending (h.noticed hlt)
  · obtain ⟨h20, hd⟩ := passes_20 hs hge hlow
    rw [irq_sendInactive, decide_eq_true ⟨hd, h20, average_neg hs h20, h.require⟩, Bool.or_true]

/-- A statement clears an owed inactivation only at the head of the inactive branch, and an
    inactive notification only after that. -/
theorem owed_mainStep (env : AlgoEnv) {s : Sys} (hf : FlagsAt s.pc s.mem) (h : Owed s.mem) :
    (∃ m, .setRequire false m ∈ (mainStep env s).2) ∨ Owed (mainStep env s).1.mem := by
  obtain ⟨m, pc⟩ := s
  cases pc with
  | clearRequire => exact Or.inl ⟨m, by simp [mainStep]⟩
  | clearInactive =>
    have hr : m.radarCoapRequireInactivation = false := hf.1
    exact absurd h.require (by simp [hr])
  | setRequire => exact Or.inr ⟨rfl, h.noticed⟩
  | _ => exact Or.inr ⟨h.require, h.noticed⟩

theorem owed_sysStep (e : Ev) {s : Sys} (hs : Confident s) (hf : FlagsAt s.pc s.mem)
    (h : Owed s.mem) :
    (∃ m, .setRequire false m ∈ (sysStep s e).2) ∨ Owed (sysStep s e).1.mem := by
  rcases sysStep_cases s e with rfl | ⟨env, rfl⟩ | ⟨alive, vdd, coap, calls, hstep⟩
  · exact Or.inr (owed_irq hs h)
  · exact owed_mainStep env hf h
  · rw [hstep]
    exact Or.inr ⟨h.require, h.noticed⟩

/-- Since an inactivation was owed at 20 or above: it was cleared, or it is still owed. -/
theorem owed_since {es : List Ev} {a b : List Obs} {m : Mem}
    (h : (sysMachine unique).trace es = a ++ .setRequire true m :: b)
    (h20 : 20 ≤ m.radarAppVars.detectConf) :
    (∃ m', .setRequire false m' ∈ b) ∨ Owed ((sysMachine unique).state es).mem := by
  refine (sysMachine unique).since (fun es o b => ∀ m, o = .setRequire true m →
    20 ≤ m.radarAppVars.detectConf →
      (∃ m', .setRequire false m' ∈ b) ∨ Owed ((sysMachine unique).state es).mem)
    ?_ ?_ h m rfl h20
  · rintro es e u _ v hstep m rfl h20
    have hmem : .setRequire true m ∈ (sysStep ((sysMachine unique).state es) e).2 := by
      rw [← sysMachine_step unique, hstep]
      simp
    obtain ⟨⟨env, rfl⟩, hpc, rfl⟩ := setRequire_mem_sysStep hmem
    rw [Machine.state_snoc, sysMachine_step, sysStep, mainStep, hpc]
    exact Or.inr ⟨rfl, fun hlt => absurd h20 (Nat.not_le_of_lt hlt)⟩
  · intro es e o b ih m ho h20
    rw [Machine.state_snoc]
    rcases ih m ho h20 with ⟨m', hm'⟩ | howed
    · exact Or.inl ⟨m', List.mem_append_left _ hm'⟩
    · rcases owed_sysStep e (confident unique es) (flagsAt unique es) howed with ⟨m', hm'⟩ | hnext
      · exact Or.inl ⟨m', List.mem_append_right _ hm'⟩
      · exact Or.inr hnext

/-- The end of presence is never missed: after an inactivation was owed at 20 or above, a
    state under 20 has its notification pending or sent. On every descent the test at 20 is
    hit, by a missed frame, and its guard `dx < 0` holds. -/
theorem descent_noticed (unique : UInt64) (es : List Ev) :
    (∀ a b m, (sysMachine unique).trace es = a ++ .setRequire true m :: b →
      20 ≤ m.radarAppVars.detectConf →
      ((sysMachine unique).state es).mem.radarAppVars.detectConf < 20 →
      ((sysMachine unique).state es).mem.radarCoapSendInactive = true ∨
        ∃ m', .setRequire false m' ∈ b) ∧
    (∀ m, .irq m ∈ (sysMachine unique).trace es → 20 ≤ m.radarAppVars.detectConf →
      (BURTC_IRQHandler m).radarAppVars.detectConf < 20 →
      m.radarAppVars.detectConf = 20 ∧ m.result.presence_detected = false) ∧
    (∀ m, .irq m ∈ (sysMachine unique).trace es → m.result.presence_detected = false →
      m.radarAppVars.detectConf = 20 → m.radarAppVars.dx < 0) := by
  refine ⟨?_, ?_, ?_⟩
  · intro a b m h h20 hlow
    rcases owed_since h h20 with hcleared | howed
    · exact Or.inr hcleared
    · exact Or.inl (howed.noticed hlow)
  · intro m hm h20 hlow
    obtain ⟨s, hs, rfl⟩ := irq_confident hm
    exact passes_20 hs h20 hlow
  · intro m hm _ h20
    obtain ⟨s, hs, rfl⟩ := irq_confident hm
    exact average_neg hs h20

end OtIpr
