/-
  The state reports of the sensor, under every interleaving.

  `radarCoapSendInactive` is read three times in one call of `radarAppAlgo` while interrupts
  come in between. `FlagsAt` says, statement by statement, how it stands to
  `radarCoapRequireInactivation` and to the digit in the buffer:
  * outside the state-change part, an inactive notification is pending only while an
    inactivation is owed;
  * from line 278 to line 300 the two flags are equal. An interrupt raises the notification
    only while an inactivation is owed, and there it is already pending, so the digit of
    line 295 and the branch of line 300 come from the same value;
  * in the inactive branch `radarCoapRequireInactivation` is cleared first, so no interrupt
    raises the notification again before it is cleared.

  `told` is what a receiver of all reports believes. It follows the owed inactivation except
  between the assignment of a branch and its send. Reports switch it back and forth
  (`reports_toggle`), hence they alternate.
-/
import OtIpr.Lib.Toggle
import OtIpr.Radar.Steps

namespace OtIpr

open Lib

/-! ## Reports -/

/-- The state digit that the state-change part hands to `appCoapRadarSender`. -/
def Obs.report : Obs → Option (List Char)
  | .sender .inactive m => some (stateOf m.tx_buffer)
  | .sender .active m => some (stateOf m.tx_buffer)
  | _ => none

/-- The state digits handed to `appCoapRadarSender`, oldest first. -/
def reports (os : List Obs) : List (List Char) := os.filterMap Obs.report

theorem reports_append (os ps : List Obs) : reports (os ++ ps) = reports os ++ reports ps :=
  List.filterMap_append

theorem reports_calls (calls : List OtCall) : reports (calls.map Obs.call) = [] := by
  unfold reports
  rw [List.filterMap_map]
  exact List.filterMap_eq_nil_iff.mpr (fun _ _ => rfl)

theorem reports_callSender (site : Site) (require_ack : Bool) (env : SenderEnv) (m : Mem) :
    reports (callSender site require_ack env m).2 =
      match site with
      | .alive => []
      | _ => [stateOf m.tx_buffer] := by
  have hcalls := reports_calls (appCoapRadarSender m.coap env m.tx_buffer require_ack).2
  rw [callSender_obs]
  cases site with
  | alive => exact hcalls
  | inactive => exact congrArg (stateOf m.tx_buffer :: ·) hcalls
  | active => exact congrArg (stateOf m.tx_buffer :: ·) hcalls

/-! ## The flags at each statement -/

/-- The digit that belongs to a value of `radarCoapSendInactive`. -/
def digitOf (sendInactive : Bool) : List Char := if sendInactive then ['0'] else ['1']

def FlagsAt : Pc → Mem → Prop
  | .readOpt, m => m.radarCoapSendInactive = m.radarCoapRequireInactivation
  | .clearBuffer _, m => m.radarCoapSendInactive = m.radarCoapRequireInactivation
  | .readRssi _, m => m.radarCoapSendInactive = m.radarCoapRequireInactivation
  | .format _ _, m => m.radarCoapSendInactive = m.radarCoapRequireInactivation
  | .testBranch, m =>
    m.radarCoapSendInactive = m.radarCoapRequireInactivation ∧
      stateOf m.tx_buffer = digitOf m.radarCoapSendInactive
  | .clearRequire, m =>
    m.radarCoapSendInactive = true ∧ m.radarCoapRequireInactivation = true ∧
      stateOf m.tx_buffer = ['0']
  | .clearActive, m => m.radarCoapRequireInactivation = false ∧ stateOf m.tx_buffer = ['0']
  | .clearInactive, m => m.radarCoapRequireInactivation = false ∧ stateOf m.tx_buffer = ['0']
  | .sendInactive, m =>
    m.radarCoapSendInactive = false ∧ m.radarCoapRequireInactivation = false ∧
      stateOf m.tx_buffer = ['0']
  | .setRequire, m =>
    m.radarCoapSendInactive = false ∧ m.radarCoapRequireInactivation = false ∧
      stateOf m.tx_buffer = ['1']
  | .clearActiveSent, m => m.radarCoapRequireInactivation = true ∧ stateOf m.tx_buffer = ['1']
  | .sendActive, m => m.radarCoapRequireInactivation = true ∧ stateOf m.tx_buffer = ['1']
  | _, m => m.radarCoapSendInactive = true → m.radarCoapRequireInactivation = true

/-- An interrupt changes the inactive notification only while an inactivation is owed. -/
theorem irq_sendInactive_of_not_require {m : Mem} (h : m.radarCoapRequireInactivation = false) :
    (BURTC_IRQHandler m).radarCoapSendInactive = m.radarCoapSendInactive := by
  rw [irq_sendInactive]
  simp [h]

/-- A pending inactive notification survives an interrupt. -/
theorem irq_sendInactive_of_pending {m : Mem} (h : m.radarCoapSendInactive = true) :
    (BURTC_IRQHandler m).radarCoapSendInactive = true := by
  rw [irq_sendInactive, h, Bool.true_or]

/-- Where the two flags are equal they stay equal: one of the two rules above applies. -/
theorem irq_flags_eq {m : Mem}
    (h : m.radarCoapSendInactive = m.radarCoapRequireInactivation) :
    (BURTC_IRQHandler m).radarCoapSendInactive = m.radarCoapSendInactive := by
  cases hr : m.radarCoapRequireInactivation with
  | true =>
    rw [hr] at h
    rw [h]
    exact irq_sendInactive_of_pending h
  | false => exact irq_sendInactive_of_not_require hr

theorem flagsAt_irq {pc : Pc} {m : Mem} (h : FlagsAt pc m) : FlagsAt pc (BURTC_IRQHandler m) := by
  cases pc with
  | readOpt | clearBuffer | readRssi | format =>
    exact (irq_flags_eq h).trans (by rw [irq_require]; exact h)
  | testBranch =>
    obtain ⟨heq, hbuf⟩ := h
    refine ⟨(irq_flags_eq heq).trans (by rw [irq_require]; exact heq), ?_⟩
    rw [irq_tx_buffer, irq_flags_eq heq]
    exact hbuf
  | clearRequire =>
    obtain ⟨hi, hr, hbuf⟩ := h
    exact ⟨irq_sendInactive_of_pending hi, by rw [irq_require, hr], by rw [irq_tx_buffer, hbuf]⟩
  | sendInactive | setRequire =>
    obtain ⟨hi, hr, hbuf⟩ := h
    exact ⟨(irq_sendInactive_of_not_require hr).trans hi, by rw [irq_require, hr],
      by rw [irq_tx_buffer, hbuf]⟩
  | clearActive | clearInactive | clearActiveSent | sendActive =>
    exact ⟨by rw [irq_require, h.1], by rw [irq_tx_buffer, h.2]⟩
  | _ =>
    intro hi
    rw [irq_require]
    cases hr : m.radarCoapRequireInactivation with
    | true => rfl
    | false =>
      rw [irq_sendInactive_of_not_require hr] at hi
      exact absurd (h hi) (by simp [hr])

/-- Of the memory `FlagsAt` reads the two flags and the buffer. -/
theorem flagsAt_congr {pc : Pc} {m m' : Mem}
    (hi : m'.radarCoapSendInactive = m.radarCoapSendInactive)
    (hr : m'.radarCoapRequireInactivation = m.radarCoapRequireInactivation)
    (hbuf : m'.tx_buffer = m.tx_buffer) (h : FlagsAt pc m) : FlagsAt pc m' := by
  cases pc <;> simp only [FlagsAt, hi, hr, hbuf] at h ⊢ <;> exact h

theorem flagsAt_mainStep (env : AlgoEnv) {s : Sys} (h : FlagsAt s.pc s.mem) :
    FlagsAt (mainStep env s).1.pc (mainStep env s).1.mem := by
  obtain ⟨m, pc⟩ := s
  cases pc with
  | testClear =>
    cases hc : m.radarAppVars.clearToMeasure <;> simpa [mainStep, hc, FlagsAt] using h
  | testEstablished =>
    cases hest : m.coap.appCoapConnectionEstablished <;> simpa [mainStep, hest, FlagsAt] using h
  | testActive =>
    cases ha : m.radarCoapSendActive <;> simpa [mainStep, ha, FlagsAt] using h
  | testRequire =>
    -- not owed: then nothing is pending, the flags are both false
    cases hr : m.radarCoapRequireInactivation with
    | true => simp [mainStep, hr, FlagsAt]
    | false => simpa [mainStep, hr, FlagsAt] using h
  | testInactive =>
    -- pending: then the inactivation is owed, the flags are both true
    cases hi : m.radarCoapSendInactive with
    | true => simpa [mainStep, hi, FlagsAt] using (h hi).symm
    | false => simp [mainStep, hi, FlagsAt]
  | format opt_buf rssi =>
    refine ⟨h, ?_⟩
    show stateOf (formatPayload (stateDigit m) opt_buf rssi m).tx_buffer =
      digitOf m.radarCoapSendInactive
    rw [stateOf_formatPayload]
    unfold stateDigit digitOf
    split <;> decide
  | testBranch =>
    obtain ⟨heq, hbuf⟩ := h
    cases hi : m.radarCoapSendInactive <;>
      simp_all [mainStep, FlagsAt, digitOf]
  | testAlive =>
    by_cases hal : AliveDue m <;> simpa [mainStep, hal, FlagsAt] using h
  | clearRequire => exact ⟨rfl, h.2.2⟩
  | clearActive => exact h
  | clearInactive => exact ⟨rfl, h⟩
  | sendInactive =>
    intro hi
    have hpending : m.radarCoapSendInactive = true := hi
    rw [h.1] at hpending
    cases hpending
  | setRequire => exact ⟨rfl, h.2.2⟩
  | clearActiveSent => exact h
  | sendActive => exact fun _ => h.1
  | _ => exact h

theorem flagsAt_sysStep (e : Ev) {s : Sys} (h : FlagsAt s.pc s.mem) :
    FlagsAt (sysStep s e).1.pc (sysStep s e).1.mem := by
  rcases sysStep_cases s e with rfl | ⟨env, rfl⟩ | ⟨alive, vdd, coap, calls, hstep⟩
  · exact flagsAt_irq h
  · exact flagsAt_mainStep env h
  · rw [hstep]
    exact flagsAt_congr (m := s.mem) rfl rfl rfl h

/-- Every state of every run. -/
theorem flagsAt (unique : UInt64) (es : List Ev) :
    FlagsAt ((sysMachine unique).state es).pc ((sysMachine unique).state es).mem :=
  (sysMachine unique).invariant (fun s => FlagsAt s.pc s.mem) (fun hi => Bool.noConfusion hi)
    (fun _ e => flagsAt_sysStep e) es

/-! ## What the receiver believes -/

/-- The state of the last report: the owed inactivation, except while a branch has written it
    and has not sent yet. -/
def told (s : Sys) : Bool :=
  match s.pc with
  | .clearActive | .clearInactive | .sendInactive => true
  | .clearActiveSent | .sendActive => false
  | _ => s.mem.radarCoapRequireInactivation

theorem toggle_mainStep (env : AlgoEnv) {s : Sys} {l : List (List Char)}
    (hf : FlagsAt s.pc s.mem) (h : Toggle ['1'] ['0'] (told s) l) :
    Toggle ['1'] ['0'] (told (mainStep env s).1) (l ++ reports (mainStep env s).2) := by
  obtain ⟨m, pc⟩ := s
  cases pc with
  | sendInactive =>
    obtain ⟨-, hr, hbuf⟩ := hf
    have hoff : told (mainStep env ⟨m, .sendInactive⟩).1 = false := hr
    have hsent : reports (mainStep env ⟨m, .sendInactive⟩).2 = [['0']] := by
      rw [← hbuf]
      exact reports_callSender .inactive true env.sender m
    rw [hoff, hsent]
    exact Toggle.turn_off h
  | sendActive =>
    obtain ⟨hr, hbuf⟩ := hf
    have hon : told (mainStep env ⟨m, .sendActive⟩).1 = true := hr
    have hsent : reports (mainStep env ⟨m, .sendActive⟩).2 = [['1']] := by
      rw [← hbuf]
      exact reports_callSender .active true env.sender m
    rw [hon, hsent]
    exact Toggle.turn_on h
  | sendAlive =>
    have hsent : reports (mainStep env ⟨m, .sendAlive⟩).2 = [] :=
      reports_callSender .alive false env.sender m
    rw [hsent, List.append_nil]
    exact h
  | clearRequire =>
    have hon : told ⟨m, .clearRequire⟩ = true := hf.2.1
    rw [hon] at h
    exact (List.append_nil l).symm ▸ h
  | setRequire =>
    have hoff : told ⟨m, .setRequire⟩ = false := hf.2.1
    rw [hoff] at h
    exact (List.append_nil l).symm ▸ h
  | _ =>
    -- the other statements send nothing and leave what was told
    simp only [mainStep, reports, Obs.report, List.filterMap_cons, List.filterMap_nil,
      List.append_nil]
    try split
    all_goals exact h

theorem told_congr {m m' : Mem} (pc : Pc)
    (hr : m'.radarCoapRequireInactivation = m.radarCoapRequireInactivation) :
    told ⟨m', pc⟩ = told ⟨m, pc⟩ := by
  cases pc <;> simp [told, hr]

theorem toggle_sysStep (e : Ev) {s : Sys} {l : List (List Char)} (hf : FlagsAt s.pc s.mem)
    (h : Toggle ['1'] ['0'] (told s) l) :
    Toggle ['1'] ['0'] (told (sysStep s e).1) (l ++ reports (sysStep s e).2) := by
  have silent : ∀ (m' : Mem) (os : List Obs),
      m'.radarCoapRequireInactivation = s.mem.radarCoapRequireInactivation → reports os = [] →
      Toggle ['1'] ['0'] (told ⟨m', s.pc⟩) (l ++ reports os) := by
    intro m' os hr hos
    rw [told_congr s.pc hr, hos, List.append_nil]
    exact h
  rcases sysStep_cases s e with rfl | ⟨env, rfl⟩ | ⟨alive, vdd, coap, calls, hstep⟩
  · exact silent _ _ (irq_require s.mem) rfl
  · exact toggle_mainStep env hf h
  · rw [hstep]
    exact silent _ _ rfl (reports_calls calls)

/-- The reports of a run alternate, and switch the receiver to what `told` says. -/
theorem reports_toggle (unique : UInt64) (es : List Ev) :
    Toggle ['1'] ['0'] (told ((sysMachine unique).state es))
      (reports ((sysMachine unique).trace es)) := by
  refine (sysMachine unique).invariant_trace
    (fun s os => Toggle ['1'] ['0'] (told s) (reports os)) Toggle.nil ?_ es
  intro es e h
  rw [reports_append]
  exact toggle_sysStep e (flagsAt unique es) h

/-! ## Digit and branch -/

/-- The statement that calls `appCoapRadarSender` at a site. -/
def Site.pc : Site → Pc
  | .inactive => .sendInactive
  | .active => .sendActive
  | .alive => .sendAlive

theorem sender_mem_sysStep {s : Sys} {e : Ev} {site : Site} {m : Mem}
    (h : .sender site m ∈ (sysStep s e).2) : s.pc = site.pc ∧ m = s.mem := by
  rcases sysStep_cases s e with rfl | ⟨env, rfl⟩ | ⟨alive, vdd, coap, calls, hstep⟩
  · simp [sysStep] at h
  · obtain ⟨mem, pc⟩ := s
    cases pc with
    | sendInactive | sendActive | sendAlive =>
      obtain ⟨rfl, rfl⟩ := sender_mem_callSender h
      exact ⟨rfl, rfl⟩
    | _ => simp [sysStep, mainStep] at h
  · simp [hstep] at h

/-- Every call of the sender is made with the buffer its statement promises. -/
theorem sender_mem_trace {unique : UInt64} {es : List Ev} {site : Site} {m : Mem}
    (h : .sender site m ∈ (sysMachine unique).trace es) : FlagsAt site.pc m := by
  obtain ⟨pre, e, -, hstep⟩ := (sysMachine unique).mem_trace h
  obtain ⟨hpc, rfl⟩ := sender_mem_sysStep hstep
  rw [← hpc]
  exact flagsAt unique pre

/-- `radarCoapRequireInactivation` is assigned at the head of each branch only. -/
theorem setRequire_mem_sysStep {s : Sys} {e : Ev} {b : Bool} {m : Mem}
    (h : .setRequire b m ∈ (sysStep s e).2) :
    (∃ env, e = .main env) ∧ s.pc = (if b then .setRequire else .clearRequire) ∧ m = s.mem := by
  rcases sysStep_cases s e with rfl | ⟨env, rfl⟩ | ⟨alive, vdd, coap, calls, hstep⟩
  · simp [sysStep] at h
  · refine ⟨⟨env, rfl⟩, ?_⟩
    obtain ⟨mem, pc⟩ := s
    cases pc with
    | setRequire | clearRequire =>
      obtain ⟨rfl, rfl⟩ := Obs.setRequire.inj (List.mem_singleton.mp h)
      exact ⟨rfl, rfl⟩
    | _ => simp [sysStep, mainStep, callSender_obs] at h
  · simp [hstep] at h

/-- Every assignment is made with the digit of its branch in the buffer. -/
theorem setRequire_mem_trace {unique : UInt64} {es : List Ev} {b : Bool} {m : Mem}
    (h : .setRequire b m ∈ (sysMachine unique).trace es) :
    stateOf m.tx_buffer = digitOf (!b) := by
  obtain ⟨pre, e, -, hstep⟩ := (sysMachine unique).mem_trace h
  obtain ⟨-, hpc, rfl⟩ := setRequire_mem_sysStep hstep
  have hf := flagsAt unique pre
  rw [hpc] at hf
  cases b with
  | true => exact hf.2.2
  | false => exact hf.2.2

/-- State payloads alternate 1, 0, 1, 0, …, and the digit agrees with the branch: 1 where
    `radarCoapRequireInactivation` is set and in the send that follows, 0 where it is cleared
    and in the send that follows. -/
theorem state_reports_alternate (unique : UInt64) (es : List Ev) :
    reports ((sysMachine unique).trace es) =
        alternating ['1'] ['0'] (reports ((sysMachine unique).trace es)).length ∧
      (∀ m, .sender .active m ∈ (sysMachine unique).trace es → stateOf m.tx_buffer = ['1']) ∧
      (∀ m, .sender .inactive m ∈ (sysMachine unique).trace es → stateOf m.tx_buffer = ['0']) ∧
      (∀ m, .setRequire true m ∈ (sysMachine unique).trace es → stateOf m.tx_buffer = ['1']) ∧
      (∀ m, .setRequire false m ∈ (sysMachine unique).trace es →
        stateOf m.tx_buffer = ['0']) :=
  ⟨(reports_toggle unique es).alternates, fun _ h => (sender_mem_trace h).2,
    fun _ h => (sender_mem_trace h).2.2, fun _ h => setRequire_mem_trace h,
    fun _ h => setRequire_mem_trace h⟩

end OtIpr
