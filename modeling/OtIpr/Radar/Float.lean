/-
  The interrupt handler in single precision, under every interleaving.

  `radarAppVars.dx` is a C float. `BURTC_IRQHandler` reads it as an exact rational; here it is
  computed as the compiler does: `dx + delay` and `dx - delay` are float operations, the
  division by 2.0 is done in double precision, where it is exact, and the result is rounded
  to a float again (`flt`).

  The handler tests `dx` before it writes it, so from one state both handlers do the same but
  for the new `dx` (`irq32_withDx`). What does not read `dx` carries over from step to step
  (`float_invariant`). What reads it are signs, and the bounds behind them survive rounding,
  because rounding is monotone and the bounds are floats (`confident_step32`).
-/
import OtIpr.Radar.Traffic

namespace OtIpr

open Lib

/-! ## The handler -/

/-- Lines 110-111. -/
def saturated32 (m : Mem) : Mem :=
  { m with radarAppVars := { m.radarAppVars with
      dx := flt (m.radarAppVars.dx / 2)
      detectConf := RADAR_APP_DEFAULT_MAX_TH } }

/-- Lines 115-124. -/
def rising32 (m : Mem) : Mem :=
  let m := raiseActive m
  let v := { m.radarAppVars with
    detectConf := addConf m.radarAppVars.detectConf RADAR_APP_DEFAULT_TH_POS_RATE }
  let delay := frameDelay v
  BURTC_CompareSet delay
    { m with radarAppVars := { v with dx := flt (flt (v.dx + flt delay) / 2) } }

/-- Lines 130-137. -/
def falling32 (m : Mem) : Mem :=
  let m := raiseInactive m
  let v := { m.radarAppVars with
    detectConf := subConf m.radarAppVars.detectConf RADAR_APP_DEFAULT_TH_NEG_RATE }
  let delay := frameDelay v
  BURTC_CompareSet delay
    { m with radarAppVars := { v with dx := flt (flt (v.dx - flt delay) / 2) } }

/-- Lines 142-144. -/
def floored32 (m : Mem) : Mem :=
  { m with radarAppVars := { m.radarAppVars with
      dx := flt (m.radarAppVars.dx / 2)
      hystTrigFlag := false
      detectConf := RADAR_APP_DEFAULT_MIN_TH } }

/-- Lines 128-145. -/
def missed32 (m : Mem) : Mem :=
  let m := if m.radarAppVars.detectConf > RADAR_APP_DEFAULT_MIN_TH then falling32 m else m
  if m.radarAppVars.detectConf ≤ RADAR_APP_DEFAULT_MIN_TH then floored32 m else m

/-- `BURTC_IRQHandler()`. -/
def BURTC_IRQHandler32 (m : Mem) : Mem :=
  let m :=
    if m.result.presence_detected ∧ m.radarAppVars.detectConf ≥ RADAR_APP_DEFAULT_MAX_TH then
      saturated32 m
    else if m.result.presence_detected ∧ m.radarAppVars.detectConf < RADAR_APP_DEFAULT_MAX_TH then
      rising32 m
    else missed32 m
  { m with radarAppVars := { m.radarAppVars with clearToMeasure := true } }

/-- The memory with another average. -/
def withDx (d : ℚ) (m : Mem) : Mem := { m with radarAppVars := { m.radarAppVars with dx := d } }

/-- From one memory the two handlers differ in the new average only. -/
theorem irq32_withDx (m : Mem) :
    BURTC_IRQHandler32 m = withDx (BURTC_IRQHandler32 m).radarAppVars.dx (BURTC_IRQHandler m) := by
  unfold BURTC_IRQHandler32 BURTC_IRQHandler
  by_cases hsat : m.result.presence_detected = true ∧
      m.radarAppVars.detectConf ≥ RADAR_APP_DEFAULT_MAX_TH
  · rw [if_pos hsat, if_pos hsat]
    rfl
  · rw [if_neg hsat, if_neg hsat]
    by_cases hrise : m.result.presence_detected = true ∧
        m.radarAppVars.detectConf < RADAR_APP_DEFAULT_MAX_TH
    · rw [if_pos hrise, if_pos hrise]
      rfl
    · rw [if_neg hrise, if_neg hrise]
      unfold missed32 missed
      by_cases hgt : m.radarAppVars.detectConf > RADAR_APP_DEFAULT_MIN_TH
      · rw [if_pos hgt, if_pos hgt]
        have hconf : (falling32 m).radarAppVars.detectConf = (falling m).radarAppVars.detectConf :=
          rfl
        dsimp only
        rw [hconf]
        split_ifs <;> rfl
      · rw [if_neg hgt, if_neg hgt]
        dsimp only
        split_ifs <;> rfl

/-! ## Bounds survive rounding -/

theorem flt_le {x : ℚ} {c : ℤ} (hc : |c| < 2 ^ 24) (h : x ≤ c) : flt x ≤ c :=
  BinaryFormat.round_le (by decide) (BinaryFormat.representable_intCast hc (by decide)) h

theorem le_flt {x : ℚ} {c : ℤ} (hc : |c| < 2 ^ 24) (h : (c : ℚ) ≤ x) : (c : ℚ) ≤ flt x :=
  BinaryFormat.le_round (by decide) (BinaryFormat.representable_intCast hc (by decide)) h

theorem flt_natCast {n : ℕ} (hn : n < 2 ^ 24) : flt n = n := by
  have habs : |(n : ℤ)| < 2 ^ 24 := by
    rw [Nat.abs_cast]
    exact_mod_cast hn
  have h := BinaryFormat.round_of_representable (F := binary32)
    (BinaryFormat.representable_intCast habs (by decide))
  exact_mod_cast h

/-! ## The average -/

theorem irq32_dx_of_detected {m : Mem} (hd : m.result.presence_detected = true) :
    (BURTC_IRQHandler32 m).radarAppVars.dx =
      if 100 ≤ m.radarAppVars.detectConf then flt (m.radarAppVars.dx / 2)
      else flt (flt (m.radarAppVars.dx + flt (m.radarAppVars.frameSpacingMs /
        (addConf m.radarAppVars.detectConf 20 / 10) : ℕ)) / 2) := by
  unfold BURTC_IRQHandler32
  by_cases hc : 100 ≤ m.radarAppVars.detectConf
  · rw [if_pos ⟨hd, hc⟩, if_pos hc]
    rfl
  · obtain ⟨h, hra⟩ := raiseActive_eq m
    rw [if_neg (fun h => hc h.2), if_pos ⟨hd, Nat.lt_of_not_le hc⟩, if_neg hc]
    simp only [rising32, hra, BURTC_CompareSet, frameDelay, RADAR_APP_DEFAULT_TH_POS_RATE]

theorem irq32_missed {m : Mem} (hd : m.result.presence_detected = false) :
    (BURTC_IRQHandler32 m).radarAppVars.dx = (missed32 m).radarAppVars.dx := by
  unfold BURTC_IRQHandler32
  simp [hd]

theorem falling32_dx (m : Mem) :
    (falling32 m).radarAppVars.dx = flt (flt (m.radarAppVars.dx -
      flt (m.radarAppVars.frameSpacingMs / (subConf m.radarAppVars.detectConf 5 / 10) : ℕ))
        / 2) := by
  simp only [falling32, raiseInactive_eq, BURTC_CompareSet, frameDelay,
    RADAR_APP_DEFAULT_TH_NEG_RATE]

/-- Above the floor a missed frame falls by one step, onto the floor or not. -/
theorem missed32_of_gt {m : Mem} (h : 10 < m.radarAppVars.detectConf) :
    missed32 m = if (falling32 m).radarAppVars.detectConf ≤ 10 then floored32 (falling32 m)
      else falling32 m := by
  unfold missed32 RADAR_APP_DEFAULT_MIN_TH
  rw [if_pos h]

/-- A missed frame halves the average, subtracts a delay first, or does both. -/
theorem irq32_dx_missed_cases {m : Mem} (hd : m.result.presence_detected = false) :
    ∃ delay : ℕ, delay ≤ m.radarAppVars.frameSpacingMs ∧
      ((BURTC_IRQHandler32 m).radarAppVars.dx = flt (m.radarAppVars.dx / 2) ∨
        (BURTC_IRQHandler32 m).radarAppVars.dx =
          flt (flt (m.radarAppVars.dx - flt delay) / 2) ∨
        (BURTC_IRQHandler32 m).radarAppVars.dx =
          flt (flt (flt (m.radarAppVars.dx - flt delay) / 2) / 2)) := by
  rw [irq32_missed hd]
  by_cases hgt : 10 < m.radarAppVars.detectConf
  · rw [missed32_of_gt hgt]
    refine ⟨_, Nat.div_le_self m.radarAppVars.frameSpacingMs
      (subConf m.radarAppVars.detectConf 5 / 10), Or.inr ?_⟩
    split_ifs
    · refine Or.inr ?_
      show flt ((falling32 m).radarAppVars.dx / 2) = _
      rw [falling32_dx]
    · exact Or.inl (falling32_dx m)
  · unfold missed32 RADAR_APP_DEFAULT_MIN_TH
    rw [if_neg hgt]
    dsimp only
    rw [if_pos (Nat.le_of_not_lt hgt)]
    exact ⟨0, Nat.zero_le _, Or.inl rfl⟩

/-- A missed frame does not lift the average above a bound it is under. -/
theorem irq32_dx_le_of_missed {m : Mem} (hd : m.result.presence_detected = false)
    (hs : m.radarAppVars.frameSpacingMs = 3000) (h : m.radarAppVars.dx ≤ 1000) :
    (BURTC_IRQHandler32 m).radarAppVars.dx ≤ 1000 := by
  have hhalf : ∀ x : ℚ, x ≤ 1000 → flt (x / 2) ≤ 1000 := by
    intro x hx
    exact_mod_cast flt_le (c := 1000) (by norm_num) (by push_cast; linarith)
  have hsub : ∀ delay : ℕ, delay ≤ 3000 → flt (m.radarAppVars.dx - flt delay) ≤ 1000 := by
    intro delay hle
    rw [flt_natCast (by omega)]
    have hpos : (0 : ℚ) ≤ delay := Nat.cast_nonneg delay
    exact_mod_cast flt_le (c := 1000) (by norm_num) (by push_cast; linarith)
  obtain ⟨delay, hle, hdx⟩ := irq32_dx_missed_cases hd
  rw [hs] at hle
  rcases hdx with hdx | hdx | hdx
  · rw [hdx]
    exact hhalf _ h
  · rw [hdx]
    exact hhalf _ (hsub delay hle)
  · rw [hdx]
    exact hhalf _ (hhalf _ (hsub delay hle))

/-- No interrupt takes the average below -3000. -/
theorem irq32_dx_ge {m : Mem} (hs : m.radarAppVars.frameSpacingMs = 3000)
    (h : -3000 ≤ m.radarAppVars.dx) : -3000 ≤ (BURTC_IRQHandler32 m).radarAppVars.dx := by
  have hhalf : ∀ x : ℚ, -6000 ≤ x → -3000 ≤ flt (x / 2) := by
    intro x hx
    exact_mod_cast le_flt (c := -3000) (by norm_num) (by push_cast; linarith)
  have hround : ∀ x : ℚ, -6000 ≤ x → -6000 ≤ flt x := by
    intro x hx
    exact_mod_cast le_flt (c := -6000) (by norm_num) (by push_cast; exact hx)
  cases hd : m.result.presence_detected with
  | true =>
    rw [irq32_dx_of_detected hd, hs]
    have hle : 3000 / (addConf m.radarAppVars.detectConf 20 / 10) ≤ 3000 := Nat.div_le_self _ _
    generalize 3000 / (addConf m.radarAppVars.detectConf 20 / 10) = delay at hle ⊢
    have hpos : (0 : ℚ) ≤ delay := Nat.cast_nonneg delay
    rw [flt_natCast (by omega)]
    split_ifs
    · exact hhalf _ (by linarith)
    · exact hhalf _ (hround _ (by linarith))
  | false =>
    obtain ⟨delay, hle, hdx⟩ := irq32_dx_missed_cases hd
    rw [hs] at hle
    have hdelay : (delay : ℚ) ≤ 3000 := by exact_mod_cast hle
    rw [flt_natCast (by omega)] at hdx
    have hsub := hhalf _ (hround (m.radarAppVars.dx - delay) (by linarith))
    rcases hdx with hdx | hdx | hdx
    · rw [hdx]
      exact hhalf _ (by linarith)
    · rw [hdx]
      exact hsub
    · rw [hdx]
      exact hhalf _ (by linarith)

/-! ## Runs in single precision -/

/-- One event, with the handler in single precision. -/
def sysStep32 (s : Sys) : Ev → Sys × List Obs
  | .burtc => (⟨BURTC_IRQHandler32 s.mem, s.pc⟩, [.irq s.mem])
  | e => sysStep s e

/-- The sensor from boot, with `dx` in single precision. -/
def floatMachine (unique : UInt64) : Machine Sys Ev Obs :=
  ⟨⟨boot unique, .processAction⟩, sysStep32⟩

@[simp] theorem floatMachine_step (unique : UInt64) (s : Sys) (e : Ev) :
    (floatMachine unique).step s e = sysStep32 s e := rfl

/-- A step in single precision is the exact step with another average. -/
theorem sysStep32_withDx (s : Sys) (e : Ev) :
    ∃ d, sysStep32 s e = (⟨withDx d (sysStep s e).1.mem, (sysStep s e).1.pc⟩, (sysStep s e).2) := by
  cases e with
  | burtc =>
    refine ⟨(BURTC_IRQHandler32 s.mem).radarAppVars.dx, ?_⟩
    show ((⟨BURTC_IRQHandler32 s.mem, s.pc⟩ : Sys), _) = _
    rw [irq32_withDx]
    rfl
  | _ => exact ⟨_, rfl⟩

/-- At the level 20, which is only reached from 25, the average is negative: the delay 1500
    outweighs it by more than rounding can make up. -/
theorem irq32_falls {s : Sys} (h : Confident s)
    (h20 : (BURTC_IRQHandler s.mem).radarAppVars.detectConf = 20) :
    (BURTC_IRQHandler32 s.mem).radarAppVars.dx < 0 := by
  have hu8 := h.lt_256
  rw [irq_detectConf hu8] at h20
  cases hd : s.mem.result.presence_detected with
  | true =>
    have hfloor := h.floor_le hd
    rw [hd, if_pos rfl] at h20
    split_ifs at h20 <;> omega
  | false =>
    have h25 : s.mem.radarAppVars.detectConf = 25 := by
      rw [hd, if_neg (by decide)] at h20
      omega
    have hconf := falling_detectConf (m := s.mem) (by omega) hu8
    have hfalls : (BURTC_IRQHandler32 s.mem).radarAppVars.dx =
        (falling32 s.mem).radarAppVars.dx := by
      have hsame : (falling32 s.mem).radarAppVars.detectConf =
          (falling s.mem).radarAppVars.detectConf := rfl
      rw [irq32_missed hd, missed32_of_gt (by omega), hsame, hconf, if_neg (by omega)]
    have hdelay : s.mem.radarAppVars.frameSpacingMs /
        (subConf s.mem.radarAppVars.detectConf 5 / 10) = 1500 := by
      rw [h.spacing, h25]
      rfl
    have hdx := h.average
    have hsub : flt (s.mem.radarAppVars.dx - flt (1500 : ℕ)) ≤ -500 := by
      rw [flt_natCast (by omega)]
      exact_mod_cast flt_le (c := -500) (by norm_num) (by push_cast; linarith)
    rw [hfalls, falling32_dx, hdelay]
    generalize flt (s.mem.radarAppVars.dx - flt (1500 : ℕ)) = x at hsub
    have hhalf : flt (x / 2) ≤ -250 := by
      exact_mod_cast flt_le (c := -250) (by norm_num) (by push_cast; linarith)
    linarith

theorem irq32_average {s : Sys} (h : Confident s) :
    (BURTC_IRQHandler32 s.mem).radarAppVars.dx ≤ 1000 := by
  have hdx := h.average
  cases hd : s.mem.result.presence_detected with
  | true =>
    have hfloor := h.floor_le hd
    rw [irq32_dx_of_detected hd, h.spacing]
    split_ifs with hc
    · exact_mod_cast flt_le (c := 1000) (by norm_num) (by push_cast; linarith)
    · -- the delay after a hit is at most 3000 / 3
      have hdelay : 3000 / (addConf s.mem.radarAppVars.detectConf 20 / 10) ≤ 1000 := by
        have hq : 3 ≤ addConf s.mem.radarAppVars.detectConf 20 / 10 := by
          unfold addConf
          omega
        exact Nat.div_le_of_le_mul (by omega)
      have hcast : ((3000 / (addConf s.mem.radarAppVars.detectConf 20 / 10) : ℕ) : ℚ) ≤ 1000 := by
        exact_mod_cast hdelay
      rw [flt_natCast (by omega)]
      have hsum : flt (s.mem.radarAppVars.dx +
          (3000 / (addConf s.mem.radarAppVars.detectConf 20 / 10) : ℕ)) ≤ 2000 := by
        exact_mod_cast flt_le (c := 2000) (by norm_num) (by push_cast at hcast ⊢; linarith)
      exact_mod_cast flt_le (c := 1000) (by norm_num) (by push_cast at hsum ⊢; linarith)
  | false => exact irq32_dx_le_of_missed hd h.spacing hdx

theorem confident_step32 {s : Sys} (e : Ev) (h : Confident s) : Confident (sysStep32 s e).1 := by
  cases e with
  | burtc =>
    have hsettled := h.irq_settled
    show Confident ⟨BURTC_IRQHandler32 s.mem, s.pc⟩
    refine ⟨?_, irq32_average h, Or.inr ⟨?_, ?_⟩⟩
    · rw [irq32_withDx]
      exact (irq_frameSpacingMs s.mem).trans h.spacing
    · rw [irq32_withDx]
      exact hsettled.level
    · intro h20
      refine irq32_falls h ?_
      rw [irq32_withDx] at h20
      exact h20
  | _ => exact confident_step _ h

/-- Every state of every run in single precision. -/
theorem confident32 (unique : UInt64) (es : List Ev) :
    Confident ((floatMachine unique).state es) :=
  (floatMachine unique).invariant Confident (confident_boot unique)
    (fun _ e => confident_step32 e) es

/-- What does not read the average and is kept by exact steps holds in single precision. -/
theorem float_invariant (unique : UInt64) (I : Sys → List Obs → Prop)
    (hdx : ∀ m pc d os, I ⟨m, pc⟩ os → I ⟨withDx d m, pc⟩ os)
    (start : I ⟨boot unique, .processAction⟩ [])
    (keep : ∀ s e os, Confident s → I s os → I (sysStep s e).1 (os ++ (sysStep s e).2))
    (es : List Ev) : I ((floatMachine unique).state es) ((floatMachine unique).trace es) := by
  refine (floatMachine unique).invariant_trace I start ?_ es
  intro es e h
  obtain ⟨d, hstep⟩ := sysStep32_withDx ((floatMachine unique).state es) e
  rw [floatMachine_step, hstep]
  exact hdx _ _ d _ (keep _ e _ (confident32 unique es) h)

/-! ## What holds in single precision -/

/-- Since an inactivation was owed at 20 or above, it was cleared or is still owed. -/
def EndsNoticed (s : Sys) (os : List Obs) : Prop :=
  ∀ a b m, os = a ++ .setRequire true m :: b → 20 ≤ m.radarAppVars.detectConf →
    (∃ m', .setRequire false m' ∈ b) ∨ Owed s.mem

theorem endsNoticed_sysStep (e : Ev) {s : Sys} {os : List Obs} (hs : Confident s)
    (hf : FlagsAt s.pc s.mem) (h : EndsNoticed s os) :
    EndsNoticed (sysStep s e).1 (os ++ (sysStep s e).2) := by
  intro a b m hos h20
  rcases Machine.append_eq_append_cons hos with ⟨b', hold, rfl⟩ | ⟨a', -, hnew⟩
  · rcases h a b' m hold h20 with ⟨m', hm'⟩ | howed
    · exact Or.inl ⟨m', List.mem_append_left _ hm'⟩
    · rcases owed_sysStep e hs hf howed with ⟨m', hm'⟩ | hnext
      · exact Or.inl ⟨m', List.mem_append_right _ hm'⟩
      · exact Or.inr hnext
  · -- the step is line 309, taken at 20 or above
    have hmem : .setRequire true m ∈ (sysStep s e).2 := by
      rw [hnew]
      simp
    obtain ⟨⟨env, rfl⟩, hpc, rfl⟩ := setRequire_mem_sysStep hmem
    obtain ⟨mem, pc⟩ := s
    obtain rfl : pc = .setRequire := hpc
    exact Or.inr ⟨rfl, fun hlt => absurd h20 (Nat.not_le_of_lt hlt)⟩

/-- The invariants that do not read the average. -/
structure Sound (s : Sys) (os : List Obs) : Prop where
  flags : FlagsAt s.pc s.mem
  backed : Backed s
  toggle : Toggle ['1'] ['0'] (told s) (reports os)
  missLedger : MissLedger s os
  hitLedger : HitLedger s os
  noticed : EndsNoticed s os

theorem sound_sysStep (s : Sys) (e : Ev) (os : List Obs) (hs : Confident s) (h : Sound s os) :
    Sound (sysStep s e).1 (os ++ (sysStep s e).2) where
  flags := flagsAt_sysStep e h.flags
  backed := backed_sysStep e h.backed
  toggle := by
    rw [reports_append]
    exact toggle_sysStep e h.flags h.toggle
  missLedger := missLedger_sysStep e hs h.flags h.backed h.missLedger
  hitLedger := hitLedger_sysStep e hs h.flags h.backed h.hitLedger
  noticed := endsNoticed_sysStep e hs h.flags h.noticed

theorem sound32 (unique : UInt64) (es : List Ev) :
    Sound ((floatMachine unique).state es) ((floatMachine unique).trace es) := by
  refine float_invariant unique Sound ?_ ?_ sound_sysStep es
  · intro m pc d os h
    exact ⟨flagsAt_congr (m := m) rfl rfl rfl h.flags, h.backed, h.toggle,
      ⟨h.missLedger.spent, h.missLedger.saved⟩,
      ⟨h.hitLedger.spent, h.hitLedger.saved, h.hitLedger.announced⟩,
      fun a b n hos h20 => (h.noticed a b n hos h20).imp id fun ho => ⟨ho.require, ho.noticed⟩⟩
  · exact ⟨fun hi => Bool.noConfusion hi, trivial, Toggle.nil, missLedger_boot unique,
      hitLedger_boot unique, fun a b m hos _ => by simp at hos⟩

theorem average_ge32 (unique : UInt64) (es : List Ev) :
    -3000 ≤ ((floatMachine unique).state es).mem.radarAppVars.dx := by
  have h := (floatMachine unique).invariant
    (fun s => Confident s ∧ -3000 ≤ s.mem.radarAppVars.dx)
    ⟨confident_boot unique, by show (-3000 : ℚ) ≤ 1; norm_num⟩ ?_ es
  · exact h.2
  rintro s e ⟨hs, hdx⟩
  refine ⟨confident_step32 e hs, ?_⟩
  by_cases he : e = .burtc
  · subst he
    exact irq32_dx_ge hs.spacing hdx
  · obtain ⟨c, hc⟩ := sysStep_radarAppVars (s := s) he
    have hsame : sysStep32 s e = sysStep s e := by
      cases e with
      | burtc => exact absurd rfl he
      | _ => rfl
    rw [floatMachine_step, hsame, hc]
    exact hdx

/-- With `dx` in single precision, in every run: the average stays between -3000 and 1000 and
    is negative at 20; state reports alternate; an end of presence is noticed on every
    descent below 20; and reports are paid by 17 missed and 5 detected frames each. -/
theorem float_robust (unique : UInt64) (es : List Ev) :
    (-3000 ≤ ((floatMachine unique).state es).mem.radarAppVars.dx ∧
      ((floatMachine unique).state es).mem.radarAppVars.dx ≤ 1000) ∧
    (((floatMachine unique).state es).mem.radarAppVars.detectConf = 20 →
      ((floatMachine unique).state es).mem.radarAppVars.dx < 0) ∧
    reports ((floatMachine unique).trace es) =
      alternating ['1'] ['0'] (reports ((floatMachine unique).trace es)).length ∧
    (∀ a b m, (floatMachine unique).trace es = a ++ .setRequire true m :: b →
      20 ≤ m.radarAppVars.detectConf →
      ((floatMachine unique).state es).mem.radarAppVars.detectConf < 20 →
      ((floatMachine unique).state es).mem.radarCoapSendInactive = true ∨
        ∃ m', .setRequire false m' ∈ b) ∧
    17 * sends .inactive ((floatMachine unique).trace es) ≤
      misses ((floatMachine unique).trace es) ∧
    5 * sends .active ((floatMachine unique).trace es) ≤ hits ((floatMachine unique).trace es) := by
  have hconf := confident32 unique es
  have hsound := sound32 unique es
  have hends := hsound.missLedger.spent
  have hstarts := hsound.hitLedger.spent
  refine ⟨⟨average_ge32 unique es, hconf.average⟩, average_neg hconf, hsound.toggle.alternates,
    ?_, by omega, by omega⟩
  intro a b m hos h20 hlow
  rcases hsound.noticed a b m hos h20 with hcleared | howed
  · exact Or.inr hcleared
  · exact Or.inl (howed.noticed hlow)

end OtIpr
