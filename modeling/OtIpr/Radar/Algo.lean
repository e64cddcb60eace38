/-
  main.c, `radarAppAlgo` (lines 261-341): one call of the main loop's body, run without
  interruption.

  The call measures a frame if an interrupt asked for one (`measure`), then does at most one
  of three transmissions: `notifyInactive` (lines 302-305), `notifyActive` (309-311) or
  `notifyAlive` (316-339). What the stack, the radar and the light sensor answer is in the
  `AlgoEnv` of the call.

  `Obs` is what a run of the program shows: interrupts with the memory they start from, calls
  of `acc_detector_presence_get_next` and their returns, assignments of
  `radarCoapRequireInactivation`, calls of `appCoapRadarSender` with the memory they are made
  in, and calls into OpenThread.
-/
import OtIpr.Coap.Permissions
import OtIpr.Coap.Sender
import OtIpr.Opt3001
import OtIpr.Radar.Burtc

namespace OtIpr

open Lib

/-- The three calls of `appCoapRadarSender` (lines 305, 311 and 339). -/
inductive Site where
  | inactive
  | active
  | alive
  deriving DecidableEq, Repr

inductive Obs where
  | irq (m : Mem)
  | getNext
  | frame (r : Option PresenceResult)
  | setRequire (b : Bool) (m : Mem)
  | sender (site : Site) (m : Mem)
  | call (c : OtCall)

/-- What one call of `radarAppAlgo` is answered. `frame` is the measurement of
    `acc_detector_presence_get_next`; `none` is a failure, which leaves `result` as it was. -/
structure AlgoEnv where
  frame : Option PresenceResult
  i2c : I2C
  rssi : Int8
  sender : SenderEnv

/-- The state digit the server reads in a buffer. -/
def stateOf (tx_buffer : List Char) : List Char := stateField (cstr NUL tx_buffer)

/-- The arguments of the `snprintf` call with state digit `state`. -/
def payloadOf (state : Int8) (opt_buf : ℚ) (rssi : Int8) (m : Mem) : Payload where
  device_type := 0
  eui_h := eui_h m.eui
  eui_l := eui_l m.eui
  state := state
  presence_score := toUInt32 (flt (m.result.presence_score * 1000))
  presence_distance := toUInt32 (flt (m.result.presence_distance * 1000))
  opt_buf := toUInt32 opt_buf
  vdd_meas := m.vdd_meas
  rssi := rssi
  appCoapSendTxCtr := m.appCoapSendTxCtr + 1

/-- `memset(tx_buffer, 0, 254)` -/
def clearTxBuffer (m : Mem) : Mem := { m with tx_buffer := memset m.tx_buffer NUL 254 }

/-- `snprintf(tx_buffer, 254, ..., ++appCoapSendTxCtr)` -/
def formatPayload (state : Int8) (opt_buf : ℚ) (rssi : Int8) (m : Mem) : Mem :=
  { m with
    tx_buffer := snprintf NUL m.tx_buffer 254 (payloadText (payloadOf state opt_buf rssi m))
    appCoapSendTxCtr := m.appCoapSendTxCtr + 1 }

/-- `!radarCoapSendInactive` -/
def stateDigit (m : Mem) : Int8 := if m.radarCoapSendInactive then 0 else 1

/-- `appCoapRadarSender(tx_buffer, require_ack)` -/
def callSender (site : Site) (require_ack : Bool) (env : SenderEnv) (m : Mem) :
    Mem × List Obs :=
  let (c, calls) := appCoapRadarSender m.coap env m.tx_buffer require_ack
  ({ m with coap := c }, .sender site m :: calls.map .call)

/-- Lines 263-273: measure a frame if one is asked for. -/
def measure (env : AlgoEnv) (m : Mem) : Mem × List Obs :=
  if m.radarAppVars.clearToMeasure then
    let m := { m with result := env.frame.getD m.result }
    ({ m with radarAppVars := { m.radarAppVars with clearToMeasure := false } },
      [.getNext, .frame env.frame])
  else (m, [])

/-- Lines 302-305. -/
def notifyInactive (env : AlgoEnv) (m : Mem) : Mem × List Obs :=
  let sent := callSender .inactive true env.sender
    { m with
      radarCoapRequireInactivation := false
      radarCoapSendActive := false
      radarCoapSendInactive := false }
  (sent.1, .setRequire false m :: sent.2)

/-- Lines 309-311. -/
def notifyActive (env : AlgoEnv) (m : Mem) : Mem × List Obs :=
  let sent := callSender .active true env.sender
    { m with
      radarCoapRequireInactivation := true
      radarCoapSendActive := false }
  (sent.1, .setRequire true m :: sent.2)

/-- Lines 278-312: a change of state is transmitted. -/
def notifyState (env : AlgoEnv) (m : Mem) : Mem × List Obs :=
  let opt_buf := opt3001_conv (opt3001_read env.i2c)
  let m := clearTxBuffer m
  let m := formatPayload (stateDigit m) opt_buf env.rssi m
  if m.radarCoapSendInactive then notifyInactive env m else notifyActive env m

/-- Lines 316-339: the alive packet. -/
def notifyAlive (env : AlgoEnv) (m : Mem) : Mem × List Obs :=
  let m := { m with appCoapSendAlive := false }
  let opt_buf := opt3001_conv (opt3001_read env.i2c)
  callSender .alive false env.sender (formatPayload (-1) opt_buf env.rssi (clearTxBuffer m))

/-- Line 276: a change of state is pending. -/
def StatePending (m : Mem) : Prop :=
  m.coap.appCoapConnectionEstablished = true ∧
    ((m.radarCoapSendActive = true ∧ m.radarCoapRequireInactivation = false) ∨
      m.radarCoapSendInactive = true)

/-- Line 314: an alive packet is due. -/
def AliveDue (m : Mem) : Prop :=
  m.coap.appCoapConnectionEstablished = true ∧ m.appCoapSendAlive = true

instance (m : Mem) : Decidable (StatePending m) := inferInstanceAs (Decidable (_ ∧ _))
instance (m : Mem) : Decidable (AliveDue m) := inferInstanceAs (Decidable (_ ∧ _))

/-- Lines 276-340. -/
def transmit (env : AlgoEnv) (m : Mem) : Mem × List Obs :=
  if StatePending m then notifyState env m
  else if AliveDue m then notifyAlive env m
  else (m, [])

/-- `radarAppAlgo()` -/
def radarAppAlgo (env : AlgoEnv) (m : Mem) : Mem × List Obs :=
  ((transmit env (measure env m).1).1, (measure env m).2 ++ (transmit env (measure env m).1).2)

/-! ## Payloads -/

/-- The state digit is read back from the formatted buffer. -/
theorem stateOf_formatPayload (state : Int8) (opt_buf : ℚ) (rssi : Int8) (m : Mem) :
    stateOf (formatPayload state opt_buf rssi m).tx_buffer = fmtD state.toInt := by
  unfold stateOf formatPayload
  rw [cstr_snprintf_payload, stateField_payloadText]
  rfl

/-- `mf` is `m` with a payload of state digit `state` in the buffer. -/
def Formatted (state : Int8) (m mf : Mem) : Prop :=
  ∃ opt_buf rssi, mf = formatPayload state opt_buf rssi (clearTxBuffer m)

theorem Formatted.frame {state : Int8} {m mf : Mem} (h : Formatted state m mf) :
    ∃ buf ctr, mf = { m with tx_buffer := buf, appCoapSendTxCtr := ctr } := by
  obtain ⟨opt_buf, rssi, rfl⟩ := h
  exact ⟨_, _, rfl⟩

theorem Formatted.stateOf_eq {state : Int8} {m mf : Mem} (h : Formatted state m mf) :
    stateOf mf.tx_buffer = fmtD state.toInt := by
  obtain ⟨opt_buf, rssi, rfl⟩ := h
  exact stateOf_formatPayload state opt_buf rssi _

/-- The buffer holds a whole payload. -/
theorem Formatted.cstr_eq {state : Int8} {m mf : Mem} (h : Formatted state m mf) :
    ∃ p, cstr NUL mf.tx_buffer = payloadText p := by
  obtain ⟨opt_buf, rssi, rfl⟩ := h
  exact ⟨_, cstr_snprintf_payload _ _⟩

/-! ## What each part writes -/

section CallSender

variable (site : Site) (require_ack : Bool) (env : SenderEnv) (m : Mem)

/-- The sender leaves the memory of main.c alone; of app_coap.c it writes the counter. -/
theorem callSender_frame :
    ∃ n, (callSender site require_ack env m).1 =
      { m with coap := { m.coap with appCoapFailCtr := n } } := by
  obtain ⟨n, hn⟩ := sender_frame m.coap env m.tx_buffer require_ack
  refine ⟨n, ?_⟩
  unfold callSender
  rw [← hn]

theorem callSender_obs :
    (callSender site require_ack env m).2 =
      .sender site m ::
        (appCoapRadarSender m.coap env m.tx_buffer require_ack).2.map Obs.call := rfl

@[simp] theorem callSender_established :
    (callSender site require_ack env m).1.coap.appCoapConnectionEstablished =
      m.coap.appCoapConnectionEstablished := by
  obtain ⟨n, hn⟩ := callSender_frame site require_ack env m
  rw [hn]

end CallSender

/-- The calls of a request or of the sender show nothing else. -/
theorem mem_map_call {o : Obs} {calls : List OtCall} (h : o ∈ calls.map Obs.call) :
    ∃ c, o = .call c := by
  obtain ⟨c, -, rfl⟩ := List.mem_map.mp h
  exact ⟨c, rfl⟩

theorem sender_mem_callSender {site site' : Site} {require_ack : Bool} {env : SenderEnv}
    {m m' : Mem} (h : .sender site' m' ∈ (callSender site require_ack env m).2) :
    site' = site ∧ m' = m := by
  rw [callSender_obs] at h
  rcases List.mem_cons.mp h with h | h
  · exact ⟨(Obs.sender.inj h).1, (Obs.sender.inj h).2⟩
  · obtain ⟨c, hc⟩ := mem_map_call h
    cases hc

theorem measure_cases (env : AlgoEnv) (m : Mem) :
    (m.radarAppVars.clearToMeasure = true ∧ measure env m =
      ({ m with
          result := env.frame.getD m.result
          radarAppVars := { m.radarAppVars with clearToMeasure := false } },
        [.getNext, .frame env.frame])) ∨
    (m.radarAppVars.clearToMeasure = false ∧ measure env m = (m, [])) := by
  unfold measure
  cases m.radarAppVars.clearToMeasure with
  | true => exact Or.inl ⟨rfl, rfl⟩
  | false => exact Or.inr ⟨rfl, rfl⟩

/-- The three transmissions, each from a memory `mf` in which its payload is formatted, and
    the call that makes none. -/
theorem transmit_cases (env : AlgoEnv) (m : Mem) :
    (m.coap.appCoapConnectionEstablished = true ∧ m.radarCoapSendInactive = true ∧
      ∃ mf, Formatted 0 m mf ∧ transmit env m = notifyInactive env mf) ∨
    (m.coap.appCoapConnectionEstablished = true ∧ m.radarCoapSendInactive = false ∧
      m.radarCoapSendActive = true ∧ m.radarCoapRequireInactivation = false ∧
      ∃ mf, Formatted 1 m mf ∧ transmit env m = notifyActive env mf) ∨
    (¬ StatePending m ∧ m.coap.appCoapConnectionEstablished = true ∧
      ∃ mf, Formatted (-1) { m with appCoapSendAlive := false } mf ∧
        transmit env m = callSender .alive false env.sender mf) ∨
    (¬ StatePending m ∧ transmit env m = (m, [])) := by
  by_cases hp : StatePending m
  · obtain ⟨hest, hflags⟩ := hp
    have htr : transmit env m = notifyState env m := if_pos ⟨hest, hflags⟩
    cases hi : m.radarCoapSendInactive with
    | true =>
      have hdigit : stateDigit (clearTxBuffer m) = 0 := if_pos hi
      refine Or.inl ⟨hest, rfl, _, ⟨opt3001_conv (opt3001_read env.i2c), env.rssi, rfl⟩,
        htr.trans ?_⟩
      rw [← hdigit]
      exact if_pos hi
    | false =>
      have hdigit : stateDigit (clearTxBuffer m) = 1 := if_neg (ne_true_of_eq_false hi)
      obtain ⟨ha, hr⟩ : m.radarCoapSendActive = true ∧ m.radarCoapRequireInactivation = false := by
        simpa [hi] using hflags
      refine Or.inr (Or.inl ⟨hest, rfl, ha, hr, _,
        ⟨opt3001_conv (opt3001_read env.i2c), env.rssi, rfl⟩, htr.trans ?_⟩)
      rw [← hdigit]
      exact if_neg (ne_true_of_eq_false hi)
  · have htr : transmit env m = if AliveDue m then notifyAlive env m else (m, []) := if_neg hp
    by_cases hal : AliveDue m
    · exact Or.inr (Or.inr (Or.inl
        ⟨hp, hal.1, _, ⟨opt3001_conv (opt3001_read env.i2c), env.rssi, rfl⟩,
          htr.trans (if_pos hal)⟩))
    · exact Or.inr (Or.inr (Or.inr ⟨hp, htr.trans (if_neg hal)⟩))

end OtIpr
