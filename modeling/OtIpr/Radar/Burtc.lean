/-
  main.c, `BURTC_IRQHandler` (lines 106-152): the detection algorithm.

  One interrupt takes one of three branches. `saturated`: presence at or above the cap.
  `rising`: presence below the cap, the only place that raises `radarCoapSendActive`.
  `missed`: no presence, the only place that raises `radarCoapSendInactive`.

  What an interrupt does is said once, for each thing it writes: the confidence
  (`irq_detectConf`), the compare register (`irq_burtcCompare`), the two notification flags
  (`irq_sendActive`, `irq_sendInactive`), the average (`irq_dx_of_detected`,
  `irq_dx_of_missed`), and nothing else (`irq_frame`). Later modules use these and do not
  unfold the handler.

  The division by `detectConf / 10` is natural division; where the C divisor would be zero
  the model's quotient is 0. BURTC calls other than `BURTC_CompareSet` leave no trace in
  memory and are left out.
-/
import OtIpr.Radar.Memory
import Mathlib.Tactic.Linarith

namespace OtIpr

/-- `detectConf += rate` on a `uint8_t`. -/
def addConf (conf rate : ℕ) : ℕ := (conf + rate) % 256

/-- `detectConf -= rate` on a `uint8_t`. -/
def subConf (conf rate : ℕ) : ℕ := (conf + 256 - rate) % 256

theorem addConf_eq {conf rate : ℕ} (h : conf + rate < 256) : addConf conf rate = conf + rate :=
  Nat.mod_eq_of_lt h

theorem subConf_eq {conf rate : ℕ} (hle : rate ≤ conf) (h : conf < 256) :
    subConf conf rate = conf - rate := by
  unfold subConf
  omega

/-- `frameSpacingMs / (detectConf / 10)` -/
def frameDelay (v : RadarAppVars) : ℕ := v.frameSpacingMs / (v.detectConf / 10)

/-- `BURTC_CompareSet(0, delay > MIN ? delay : MIN)` -/
def BURTC_CompareSet (delay : ℕ) (m : Mem) : Mem :=
  { m with burtcCompare :=
      if delay > RADAR_APP_DEFAULT_MIN_FRAME_SPACING_MS then delay
      else RADAR_APP_DEFAULT_MIN_FRAME_SPACING_MS }

/-- Lines 110-111: presence detected, the confidence at or above the cap. -/
def saturated (m : Mem) : Mem :=
  { m with radarAppVars := { m.radarAppVars with
      dx := m.radarAppVars.dx / 2
      detectConf := RADAR_APP_DEFAULT_MAX_TH } }

/-- Lines 115-119: raise the active notification. -/
def raiseActive (m : Mem) : Mem :=
  if m.radarAppVars.detectConf ≥ RADAR_APP_DEFAULT_POS_TH ∧ m.radarAppVars.dx > 0 then
    { m with
      radarCoapSendActive := true
      radarAppVars := { m.radarAppVars with hystTrigFlag := true } }
  else m

/-- Lines 115-124: presence detected, the confidence below the cap. -/
def rising (m : Mem) : Mem :=
  let m := raiseActive m
  let v := { m.radarAppVars with
    detectConf := addConf m.radarAppVars.detectConf RADAR_APP_DEFAULT_TH_POS_RATE }
  let delay := frameDelay v
  BURTC_CompareSet delay { m with radarAppVars := { v with dx := (v.dx + delay) / 2 } }

/-- Lines 130-132: raise the inactive notification. -/
def raiseInactive (m : Mem) : Mem :=
  if m.radarAppVars.detectConf = RADAR_APP_DEFAULT_NEG_TH ∧ m.radarAppVars.dx < 0 then
    if m.radarCoapRequireInactivation then { m with radarCoapSendInactive := true } else m
  else m

/-- Lines 130-137: no presence, the confidence above the floor. -/
def falling (m : Mem) : Mem :=
  let m := raiseInactive m
  let v := { m.radarAppVars with
    detectConf := subConf m.radarAppVars.detectConf RADAR_APP_DEFAULT_TH_NEG_RATE }
  let delay := frameDelay v
  BURTC_CompareSet delay { m with radarAppVars := { v with dx := (v.dx - delay) / 2 } }

/-- Lines 142-144: the confidence at or below the floor. -/
def floored (m : Mem) : Mem :=
  { m with radarAppVars := { m.radarAppVars with
      dx := m.radarAppVars.dx / 2
      hystTrigFlag := false
      detectConf := RADAR_APP_DEFAULT_MIN_TH } }

/-- Lines 128-145: no presence. -/
def missed (m : Mem) : Mem :=
  let m := if m.radarAppVars.detectConf > RADAR_APP_DEFAULT_MIN_TH then falling m else m
  if m.radarAppVars.detectConf ≤ RADAR_APP_DEFAULT_MIN_TH then floored m else m

/-- `BURTC_IRQHandler()`. -/
def BURTC_IRQHandler (m : Mem) : Mem :=
  let m :=
    if m.result.presence_detected ∧ m.radarAppVars.detectConf ≥ RADAR_APP_DEFAULT_MAX_TH then
      saturated m
    else if m.result.presence_detected ∧ m.radarAppVars.detectConf < RADAR_APP_DEFAULT_MAX_TH then
      rising m
    else missed m
  { m with radarAppVars := { m.radarAppVars with clearToMeasure := true } }

/-- The branches of the handler, told apart by presence and the cap. -/
theorem irq_saturated {m : Mem} (hd : m.result.presence_detected = true)
    (hc : 100 ≤ m.radarAppVars.detectConf) :
    BURTC_IRQHandler m = { saturated m with
      radarAppVars := { (saturated m).radarAppVars with clearToMeasure := true } } := by
  unfold BURTC_IRQHandler
  rw [if_pos ⟨hd, hc⟩]

theorem irq_rising {m : Mem} (hd : m.result.presence_detected = true)
    (hc : m.radarAppVars.detectConf < 100) :
    BURTC_IRQHandler m = { rising m with
      radarAppVars := { (rising m).radarAppVars with clearToMeasure := true } } := by
  unfold BURTC_IRQHandler
  rw [if_neg (fun h => absurd h.2 (Nat.not_le_of_lt hc)), if_pos ⟨hd, hc⟩]

theorem irq_missed {m : Mem} (hd : m.result.presence_detected = false) :
    BURTC_IRQHandler m = { missed m with
      radarAppVars := { (missed m).radarAppVars with clearToMeasure := true } } := by
  unfold BURTC_IRQHandler
  simp [hd]

theorem raiseActive_eq (m : Mem) :
    ∃ h, raiseActive m =
      { m with
        radarAppVars := { m.radarAppVars with hystTrigFlag := h }
        radarCoapSendActive := m.radarCoapSendActive ||
          decide (80 ≤ m.radarAppVars.detectConf ∧ 0 < m.radarAppVars.dx) } := by
  unfold raiseActive RADAR_APP_DEFAULT_POS_TH
  split_ifs with h
  · exact ⟨true, by simp [h]⟩
  · refine ⟨m.radarAppVars.hystTrigFlag, ?_⟩
    rw [decide_eq_false h, Bool.or_false]

theorem raiseInactive_eq (m : Mem) :
    raiseInactive m =
      { m with
        radarCoapSendInactive := m.radarCoapSendInactive ||
          decide (m.radarAppVars.detectConf = 20 ∧ m.radarAppVars.dx < 0 ∧
            m.radarCoapRequireInactivation = true) } := by
  unfold raiseInactive RADAR_APP_DEFAULT_NEG_TH
  split_ifs with h hr
  · simp [h, hr]
  · rw [decide_eq_false (fun h' => hr h'.2.2), Bool.or_false]
  · rw [decide_eq_false (fun h' => h ⟨h'.1, h'.2.1⟩), Bool.or_false]

/-- Above the floor a missed frame falls by one step, onto the floor or not. -/
theorem missed_of_gt {m : Mem} (h : 10 < m.radarAppVars.detectConf) :
    missed m = if (falling m).radarAppVars.detectConf ≤ 10 then floored (falling m)
      else falling m := by
  unfold missed RADAR_APP_DEFAULT_MIN_TH
  rw [if_pos h]

theorem missed_of_le {m : Mem} (h : m.radarAppVars.detectConf ≤ 10) : missed m = floored m := by
  unfold missed RADAR_APP_DEFAULT_MIN_TH
  rw [if_neg (Nat.not_lt_of_le h), if_pos h]

theorem falling_detectConf {m : Mem} (h : 10 < m.radarAppVars.detectConf)
    (hu8 : m.radarAppVars.detectConf < 256) :
    (falling m).radarAppVars.detectConf = m.radarAppVars.detectConf - 5 := by
  simp only [falling, raiseInactive_eq, BURTC_CompareSet, RADAR_APP_DEFAULT_TH_NEG_RATE]
  exact subConf_eq (by omega) hu8

/-! ## The fields an interrupt does not write -/

/-- An interrupt writes `radarAppVars`, the two notification flags and the compare register. -/
theorem irq_frame (m : Mem) :
    ∃ v a i b, BURTC_IRQHandler m =
        { m with
          radarAppVars := v
          radarCoapSendActive := a
          radarCoapSendInactive := i
          burtcCompare := b } ∧
      v.frameSpacingMs = m.radarAppVars.frameSpacingMs ∧ v.clearToMeasure = true := by
  obtain ⟨h, hra⟩ := raiseActive_eq m
  cases hd : m.result.presence_detected with
  | true =>
    by_cases hc : 100 ≤ m.radarAppVars.detectConf
    · rw [irq_saturated hd hc]
      exact ⟨_, _, _, _, rfl, rfl, rfl⟩
    · rw [irq_rising hd (by omega)]
      simp only [rising, hra, BURTC_CompareSet]
      exact ⟨_, _, _, _, rfl, rfl, rfl⟩
  | false =>
    rw [irq_missed hd]
    simp only [missed, falling, raiseInactive_eq, BURTC_CompareSet, floored]
    split_ifs <;> exact ⟨_, _, _, _, rfl, rfl, rfl⟩

@[simp] theorem irq_result (m : Mem) : (BURTC_IRQHandler m).result = m.result := by
  obtain ⟨v, a, i, b, h, -, -⟩ := irq_frame m
  rw [h]

@[simp] theorem irq_require (m : Mem) :
    (BURTC_IRQHandler m).radarCoapRequireInactivation = m.radarCoapRequireInactivation := by
  obtain ⟨v, a, i, b, h, -, -⟩ := irq_frame m
  rw [h]

@[simp] theorem irq_coap (m : Mem) : (BURTC_IRQHandler m).coap = m.coap := by
  obtain ⟨v, a, i, b, h, -, -⟩ := irq_frame m
  rw [h]

@[simp] theorem irq_tx_buffer (m : Mem) : (BURTC_IRQHandler m).tx_buffer = m.tx_buffer := by
  obtain ⟨v, a, i, b, h, -, -⟩ := irq_frame m
  rw [h]

@[simp] theorem irq_clearToMeasure (m : Mem) :
    (BURTC_IRQHandler m).radarAppVars.clearToMeasure = true := by
  obtain ⟨v, a, i, b, h, -, hv⟩ := irq_frame m
  rw [h]
  exact hv

@[simp] theorem irq_frameSpacingMs (m : Mem) :
    (BURTC_IRQHandler m).radarAppVars.frameSpacingMs = m.radarAppVars.frameSpacingMs := by
  obtain ⟨v, a, i, b, h, hv, -⟩ := irq_frame m
  rw [h]
  exact hv

/-! ## The confidence -/

/-- One interrupt moves the confidence by +20 under the cap, back to 100 at or above it, and
    by -5 with the floor 10 when nothing is detected. -/
theorem irq_detectConf {m : Mem} (hu8 : m.radarAppVars.detectConf < 256) :
    (BURTC_IRQHandler m).radarAppVars.detectConf =
      if m.result.presence_detected then
        if 100 ≤ m.radarAppVars.detectConf then 100 else m.radarAppVars.detectConf + 20
      else max 10 (m.radarAppVars.detectConf - 5) := by
  cases hd : m.result.presence_detected with
  | true =>
    by_cases hc : 100 ≤ m.radarAppVars.detectConf
    · rw [irq_saturated hd hc]
      simp [saturated, RADAR_APP_DEFAULT_MAX_TH, hc]
    · obtain ⟨h, hra⟩ := raiseActive_eq m
      rw [irq_rising hd (by omega)]
      simp only [rising, hra, BURTC_CompareSet, RADAR_APP_DEFAULT_TH_POS_RATE, if_true, if_neg hc]
      exact addConf_eq (by omega)
  | false =>
    rw [irq_missed hd]
    simp only [Bool.false_eq_true, if_false]
    rcases Nat.lt_or_ge 10 m.radarAppVars.detectConf with h | h
    · have hf := falling_detectConf h hu8
      rw [missed_of_gt h, hf]
      by_cases h10 : m.radarAppVars.detectConf - 5 ≤ 10
      · rw [if_pos h10, max_eq_left h10]
        rfl
      · rw [if_neg h10, hf]
        omega
    · rw [missed_of_le h]
      simp only [floored, RADAR_APP_DEFAULT_MIN_TH]
      omega

/-! ## The compare register -/

/-- An interrupt that counts a frame programs the delay of the new confidence, at least 750;
    one at the cap or at the floor leaves the register alone. -/
theorem irq_burtcCompare (m : Mem) :
    (BURTC_IRQHandler m).burtcCompare =
      if m.result.presence_detected then
        if 100 ≤ m.radarAppVars.detectConf then m.burtcCompare
        else max (m.radarAppVars.frameSpacingMs / (addConf m.radarAppVars.detectConf 20 / 10)) 750
      else if 10 < m.radarAppVars.detectConf then
        max (m.radarAppVars.frameSpacingMs / (subConf m.radarAppVars.detectConf 5 / 10)) 750
      else m.burtcCompare := by
  have hmax : ∀ delay, (if delay > RADAR_APP_DEFAULT_MIN_FRAME_SPACING_MS then delay
      else RADAR_APP_DEFAULT_MIN_FRAME_SPACING_MS) = max delay 750 := by
    intro delay
    unfold RADAR_APP_DEFAULT_MIN_FRAME_SPACING_MS
    split_ifs <;> omega
  cases hd : m.result.presence_detected with
  | true =>
    by_cases hc : 100 ≤ m.radarAppVars.detectConf
    · rw [irq_saturated hd hc]
      simp only [saturated, if_true, if_pos hc]
    · obtain ⟨h, hra⟩ := raiseActive_eq m
      rw [irq_rising hd (by omega)]
      simp only [rising, hra, BURTC_CompareSet, hmax, frameDelay,
        RADAR_APP_DEFAULT_TH_POS_RATE, if_true, if_neg hc]
  | false =>
    rw [irq_missed hd]
    simp only [Bool.false_eq_true, if_false]
    by_cases hc : 10 < m.radarAppVars.detectConf
    · rw [missed_of_gt hc, if_pos hc]
      split_ifs <;> simp only [floored, falling, raiseInactive_eq, BURTC_CompareSet, hmax,
        frameDelay, RADAR_APP_DEFAULT_TH_NEG_RATE]
    · rw [missed_of_le (by omega), if_neg hc]
      rfl

/-! ## The notification flags -/

/-- The interrupt writes `radarCoapSendActive = true`. -/
def SetsActive (m : Mem) : Prop :=
  (BURTC_IRQHandler { m with radarCoapSendActive := false }).radarCoapSendActive = true

/-- The interrupt writes `radarCoapSendInactive = true`. -/
def SetsInactive (m : Mem) : Prop :=
  (BURTC_IRQHandler { m with radarCoapSendInactive := false }).radarCoapSendInactive = true

instance (m : Mem) : Decidable (SetsActive m) := inferInstanceAs (Decidable (_ = _))
instance (m : Mem) : Decidable (SetsInactive m) := inferInstanceAs (Decidable (_ = _))

/-- The active flag after an interrupt: raised by a detected frame in the window [80, 100)
    with a positive average, else as before. -/
theorem irq_sendActive (m : Mem) :
    (BURTC_IRQHandler m).radarCoapSendActive =
      (m.radarCoapSendActive ||
        decide (m.result.presence_detected = true ∧ 80 ≤ m.radarAppVars.detectConf ∧
          m.radarAppVars.detectConf < 100 ∧ 0 < m.radarAppVars.dx)) := by
  cases hd : m.result.presence_detected with
  | true =>
    by_cases hc : 100 ≤ m.radarAppVars.detectConf
    · rw [irq_saturated hd hc]
      simp [saturated]
      omega
    · obtain ⟨h, hra⟩ := raiseActive_eq m
      rw [irq_rising hd (by omega)]
      simp [rising, hra, BURTC_CompareSet, Nat.lt_of_not_le hc]
  | false =>
    rw [irq_missed hd]
    simp only [missed, falling, raiseInactive_eq, BURTC_CompareSet, floored]
    split_ifs <;> simp

theorem setsActive_iff (m : Mem) :
    SetsActive m ↔ m.result.presence_detected = true ∧ 80 ≤ m.radarAppVars.detectConf ∧
      m.radarAppVars.detectConf < 100 ∧ 0 < m.radarAppVars.dx := by
  simp [SetsActive, irq_sendActive]

/-- The inactive flag after an interrupt: raised by a missed frame at exactly 20 with a
    negative average while an inactivation is owed, else as before. -/
theorem irq_sendInactive (m : Mem) :
    (BURTC_IRQHandler m).radarCoapSendInactive =
      (m.radarCoapSendInactive ||
        decide (m.result.presence_detected = false ∧ m.radarAppVars.detectConf = 20 ∧
          m.radarAppVars.dx < 0 ∧ m.radarCoapRequireInactivation = true)) := by
  cases hd : m.result.presence_detected with
  | true =>
    by_cases hc : 100 ≤ m.radarAppVars.detectConf
    · rw [irq_saturated hd hc]
      simp [saturated]
    · obtain ⟨h, hra⟩ := raiseActive_eq m
      rw [irq_rising hd (by omega)]
      simp [rising, hra, BURTC_CompareSet]
  | false =>
    rw [irq_missed hd]
    rcases Nat.lt_or_ge 10 m.radarAppVars.detectConf with h | h
    · rw [missed_of_gt h]
      split_ifs <;> simp [falling, raiseInactive_eq, BURTC_CompareSet, floored]
    · rw [missed_of_le h]
      simp [floored]
      omega

theorem setsInactive_iff (m : Mem) :
    SetsInactive m ↔ m.result.presence_detected = false ∧ m.radarAppVars.detectConf = 20 ∧
      m.radarAppVars.dx < 0 ∧ m.radarCoapRequireInactivation = true := by
  simp [SetsInactive, irq_sendInactive]

/-! ## The average -/

/-- A detected frame averages the delay in, or halves the average at the cap. -/
theorem irq_dx_of_detected {m : Mem} (hd : m.result.presence_detected = true) :
    (BURTC_IRQHandler m).radarAppVars.dx =
      if 100 ≤ m.radarAppVars.detectConf then m.radarAppVars.dx / 2
      else (m.radarAppVars.dx + (m.radarAppVars.frameSpacingMs /
        (addConf m.radarAppVars.detectConf 20 / 10) : ℕ)) / 2 := by
  by_cases hc : 100 ≤ m.radarAppVars.detectConf
  · rw [irq_saturated hd hc, if_pos hc]
    rfl
  · obtain ⟨h, hra⟩ := raiseActive_eq m
    rw [irq_rising hd (by omega), if_neg hc]
    simp only [rising, hra, BURTC_CompareSet, frameDelay, RADAR_APP_DEFAULT_TH_POS_RATE]

/-- A missed frame averages the negated delay in, halves the average again where it reaches the
    floor, and only halves it at the floor. -/
theorem irq_dx_of_missed {m : Mem} (hd : m.result.presence_detected = false)
    (hu8 : m.radarAppVars.detectConf < 256) :
    (BURTC_IRQHandler m).radarAppVars.dx =
      if m.radarAppVars.detectConf ≤ 10 then m.radarAppVars.dx / 2
      else if m.radarAppVars.detectConf ≤ 15 then
        (m.radarAppVars.dx - (m.radarAppVars.frameSpacingMs /
          ((m.radarAppVars.detectConf - 5) / 10) : ℕ)) / 2 / 2
      else (m.radarAppVars.dx - (m.radarAppVars.frameSpacingMs /
        ((m.radarAppVars.detectConf - 5) / 10) : ℕ)) / 2 := by
  rw [irq_missed hd]
  by_cases hc : m.radarAppVars.detectConf ≤ 10
  · rw [missed_of_le hc, if_pos hc]
    rfl
  · have hf := falling_detectConf (by omega) hu8
    have hsub : subConf m.radarAppVars.detectConf 5 = m.radarAppVars.detectConf - 5 :=
      subConf_eq (by omega) hu8
    have hdx : (falling m).radarAppVars.dx = (m.radarAppVars.dx - (m.radarAppVars.frameSpacingMs /
        ((m.radarAppVars.detectConf - 5) / 10) : ℕ)) / 2 := by
      simp only [falling, raiseInactive_eq, BURTC_CompareSet, frameDelay,
        RADAR_APP_DEFAULT_TH_NEG_RATE, hsub]
    rw [missed_of_gt (by omega), hf, if_neg hc, ← hdx]
    by_cases hfloor : m.radarAppVars.detectConf ≤ 15
    · rw [if_pos (by omega), if_pos hfloor]
      rfl
    · rw [if_neg (by omega), if_neg hfloor]

/-- A missed frame halves the average, subtracts a delay first, or does both. -/
theorem irq_dx_missed_cases {m : Mem} (hd : m.result.presence_detected = false) :
    ∃ delay : ℕ, delay ≤ m.radarAppVars.frameSpacingMs ∧
      ((BURTC_IRQHandler m).radarAppVars.dx = m.radarAppVars.dx / 2 ∨
        (BURTC_IRQHandler m).radarAppVars.dx = (m.radarAppVars.dx - delay) / 2 ∨
        (BURTC_IRQHandler m).radarAppVars.dx = (m.radarAppVars.dx - delay) / 2 / 2) := by
  rw [irq_missed hd]
  rcases Nat.lt_or_ge 10 m.radarAppVars.detectConf with hc | hc
  · rw [missed_of_gt hc]
    refine ⟨_, Nat.div_le_self m.radarAppVars.frameSpacingMs
      (subConf m.radarAppVars.detectConf 5 / 10), Or.inr ?_⟩
    split_ifs
    · refine Or.inr ?_
      simp only [floored, falling, raiseInactive_eq, BURTC_CompareSet, frameDelay,
        RADAR_APP_DEFAULT_TH_NEG_RATE]
    · refine Or.inl ?_
      simp only [falling, raiseInactive_eq, BURTC_CompareSet, frameDelay,
        RADAR_APP_DEFAULT_TH_NEG_RATE]
  · rw [missed_of_le hc]
    exact ⟨0, Nat.zero_le _, Or.inl rfl⟩

/-- A missed frame does not lift the average above a bound it is under. -/
theorem irq_dx_le_of_missed {m : Mem} {B : ℚ} (hd : m.result.presence_detected = false)
    (hB : 0 ≤ B) (h : m.radarAppVars.dx ≤ B) : (BURTC_IRQHandler m).radarAppVars.dx ≤ B := by
  obtain ⟨delay, -, hdx⟩ := irq_dx_missed_cases hd
  have hdelay : (0 : ℚ) ≤ delay := Nat.cast_nonneg delay
  rcases hdx with hdx | hdx | hdx <;> rw [hdx] <;> linarith

/-- No interrupt takes the average below the negated frame spacing. -/
theorem irq_dx_ge {m : Mem} (h : -(m.radarAppVars.frameSpacingMs : ℚ) ≤ m.radarAppVars.dx) :
    -(m.radarAppVars.frameSpacingMs : ℚ) ≤ (BURTC_IRQHandler m).radarAppVars.dx := by
  have hspacing : (0 : ℚ) ≤ m.radarAppVars.frameSpacingMs := Nat.cast_nonneg _
  cases hd : m.result.presence_detected with
  | true =>
    rw [irq_dx_of_detected hd]
    generalize m.radarAppVars.frameSpacingMs / (addConf m.radarAppVars.detectConf 20 / 10) = delay
    have hdelay : (0 : ℚ) ≤ delay := Nat.cast_nonneg delay
    split_ifs <;> linarith
  | false =>
    obtain ⟨delay, hle, hdx⟩ := irq_dx_missed_cases hd
    have hdelay : (delay : ℚ) ≤ m.radarAppVars.frameSpacingMs := Nat.cast_le.mpr hle
    rcases hdx with hdx | hdx | hdx <;> rw [hdx] <;> linarith

end OtIpr
