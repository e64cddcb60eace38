/-
  What the sensor records of the server and what the server was sent, with atomic main-loop
  iterations and any failures of the stack.

  A notification is cleared before it is sent, and the sender returns nothing: a failed send
  is not retried. So `radarCoapRequireInactivation` follows the last state payload handed to
  the sender (`reports_loop`), not the last one the stack accepted; a failed first send
  separates the two (`lost_report`). They agree as long as the last state payload was sent
  without an error (`require_tracks_reports`): an accepted payload is the one handed over
  (`algo_accepted`).
-/
import OtIpr.Radar.Boundary
import OtIpr.Radar.Reports

namespace OtIpr

open Lib

/-! ## Accepted state payloads -/

/-- The state, 1 or 0, of a payload that `otCoapSendRequestWithParameters` accepted. -/
def Obs.acceptedState : Obs → Option (List Char)
  | .call c => (c.acceptedPayload.map stateField).filter fun d => d = ['1'] ∨ d = ['0']
  | _ => none

/-- The accepted states, oldest first. -/
def acceptedStates (os : List Obs) : List (List Char) := os.filterMap Obs.acceptedState

/-- `radarCoapRequireInactivation` is true exactly when the last accepted state is 1. -/
def RecordsAccepted (m : Mem) (os : List Obs) : Prop :=
  m.radarCoapRequireInactivation = true ↔ (acceptedStates os).getLast? = some ['1']

theorem acceptedStates_append (os ps : List Obs) :
    acceptedStates (os ++ ps) = acceptedStates os ++ acceptedStates ps :=
  List.filterMap_append

theorem acceptedStates_calls (calls : List OtCall) :
    acceptedStates (calls.map Obs.call) =
      ((calls.filterMap OtCall.acceptedPayload).map stateField).filter
        fun d => d = ['1'] ∨ d = ['0'] := by
  induction calls with
  | nil => rfl
  | cons c calls ih =>
    unfold acceptedStates at ih ⊢
    rw [List.map_cons, List.filterMap_cons, List.filterMap_cons, ih]
    cases hc : c.acceptedPayload with
    | none => simp [Obs.acceptedState, hc]
    | some p =>
      by_cases hp : stateField p = ['1'] ∨ stateField p = ['0'] <;>
        simp [Obs.acceptedState, hc, hp, Option.filter]

/-- A send that hands over a whole payload. -/
theorem acceptedStates_callSender {site : Site} {require_ack : Bool} {env : SenderEnv} {m : Mem}
    (hbuf : ∃ p, cstr NUL m.tx_buffer = payloadText p) :
    acceptedStates (callSender site require_ack env m).2 =
      (if sendError env m.tx_buffer = .OT_ERROR_NONE then [stateOf m.tx_buffer] else []).filter
        fun d => d = ['1'] ∨ d = ['0'] := by
  obtain ⟨p, hp⟩ := hbuf
  have hlen := strlen_payload hp
  rw [callSender_obs]
  show acceptedStates ((appCoapRadarSender m.coap env m.tx_buffer require_ack).2.map Obs.call) = _
  rw [acceptedStates_calls, sender_accepted _ _ _ _ hlen]
  split_ifs <;> rfl

/-- Responses are not requests: a request on the permissions resource sends no state. -/
theorem acceptedStates_permissions (r : Request) (env : ResponseEnv) (m : Mem) :
    acceptedStates (processRequest r env m).2 = [] := by
  have hcalls : (appCoapPermissionsHandler m.coap r env).2.filterMap OtCall.acceptedPayload =
      [] := by
    unfold appCoapPermissionsHandler respond
    cases env.newMessage with
    | none => rfl
    | some msg =>
      dsimp only
      split_ifs <;> rfl
  unfold processRequest
  rw [acceptedStates_calls, hcalls]
  rfl

/-! ## One call -/

/-- A state payload is accepted as it is reported, or its send failed. -/
theorem callSender_accepted (site : Site) {require_ack : Bool} {env : SenderEnv} {m : Mem}
    (hsite : site ≠ .alive) (hbuf : ∃ p, cstr NUL m.tx_buffer = payloadText p)
    (hst : stateOf m.tx_buffer = ['1'] ∨ stateOf m.tx_buffer = ['0']) :
    acceptedStates (callSender site require_ack env m).2 =
        reports (callSender site require_ack env m).2 ∨
      (¬ env.Succeeds ∧ acceptedStates (callSender site require_ack env m).2 = []) := by
  have hreports : reports (callSender site require_ack env m).2 = [stateOf m.tx_buffer] := by
    rw [reports_callSender]
    cases site with
    | alive => exact absurd rfl hsite
    | inactive => rfl
    | active => rfl
  rw [acceptedStates_callSender hbuf, hreports]
  by_cases herr : sendError env m.tx_buffer = .OT_ERROR_NONE
  · rw [if_pos herr, List.filter_cons_of_pos (by simpa using hst)]
    exact Or.inl rfl
  · rw [if_neg herr]
    exact Or.inr ⟨fun h => herr (h.sendError_eq _), rfl⟩

/-- A call's accepted states are its reports, or the send failed and there are none. -/
theorem algo_accepted (env : AlgoEnv) (m : Mem) :
    acceptedStates (radarAppAlgo env m).2 = reports (radarAppAlgo env m).2 ∨
      (¬ env.sender.Succeeds ∧ acceptedStates (radarAppAlgo env m).2 = []) := by
  have hmeasured : acceptedStates (measure env m).2 = [] ∧ reports (measure env m).2 = [] := by
    rcases measure_cases env m with ⟨-, h⟩ | ⟨-, h⟩ <;> rw [h] <;> exact ⟨rfl, rfl⟩
  rw [radarAppAlgo, acceptedStates_append, reports_append, hmeasured.1, hmeasured.2,
    List.nil_append, List.nil_append]
  generalize (measure env m).1 = m₁
  rcases transmit_cases env m₁ with ⟨-, -, mf, hmf, ht⟩ | ⟨-, -, -, -, mf, hmf, ht⟩ |
    ⟨-, -, mf, hmf, ht⟩ | ⟨-, ht⟩
  · rw [ht]
    exact callSender_accepted .inactive (by decide) hmf.cstr_eq
      (Or.inr hmf.stateOf_eq)
  · rw [ht]
    exact callSender_accepted .active (by decide) hmf.cstr_eq (Or.inl hmf.stateOf_eq)
  · -- the alive packet carries state -1: it neither reports nor is accepted as a state
    have hst : stateOf mf.tx_buffer = ['-', '1'] := hmf.stateOf_eq
    rw [ht, acceptedStates_callSender hmf.cstr_eq, reports_callSender, hst]
    split_ifs <;> exact Or.inl rfl
  · rw [ht]
    exact Or.inl rfl

/-- An event accepts what it reports, or nothing. -/
theorem step_accepted (m : Mem) (e : Ev) :
    acceptedStates (loopStep m e).2 = reports (loopStep m e).2 ∨
      acceptedStates (loopStep m e).2 = [] := by
  cases e with
  | burtc => exact Or.inr rfl
  | alive_cb => exact Or.inr rfl
  | iadc data => exact Or.inr rfl
  | permissions r env => exact Or.inr (acceptedStates_permissions r env m)
  | main env => exact (algo_accepted env m).imp id And.right

/-- A run that reports nothing accepts nothing. -/
theorem accepted_of_silent (unique : UInt64) (es : List Ev) {m : Mem}
    (h : reports ((loopMachine unique).traceFrom m es) = []) :
    acceptedStates ((loopMachine unique).traceFrom m es) = [] := by
  induction es generalizing m with
  | nil => rfl
  | cons e es ih =>
    rw [Machine.traceFrom, reports_append, List.append_eq_nil_iff] at h
    rw [Machine.traceFrom, acceptedStates_append, ih h.2, List.append_nil]
    rcases step_accepted m e with heq | hnil
    · exact heq.trans h.1
    · exact hnil

/-! ## Whole runs -/

/-- At a boundary the receiver of all reports believes what the sensor owes. -/
theorem reports_loop (unique : UInt64) (es : List Ev) :
    Toggle ['1'] ['0'] ((loopMachine unique).state es).radarCoapRequireInactivation
      (reports ((loopMachine unique).trace es)) := by
  obtain ⟨fs, hstate, htrace⟩ := (loop_embeds unique).run es
  have h := reports_toggle unique fs
  rw [hstate, htrace] at h
  exact h

/-- A call that reports leaves neither notification pending, whatever the stack answers. -/
theorem cleared_of_report {env : AlgoEnv} {m : Mem} (h : reports (radarAppAlgo env m).2 ≠ []) :
    (radarAppAlgo env m).1.radarCoapSendActive = false ∧
      (radarAppAlgo env m).1.radarCoapSendInactive = false := by
  have hmeasured : reports (measure env m).2 = [] := by
    rcases measure_cases env m with ⟨-, h⟩ | ⟨-, h⟩ <;> rw [h] <;> rfl
  rw [radarAppAlgo, reports_append, hmeasured, List.nil_append] at h
  rw [radarAppAlgo]
  generalize (measure env m).1 = m₁ at h ⊢
  rcases transmit_cases env m₁ with ⟨-, -, mf, -, ht⟩ | ⟨-, hi, -, -, mf, hmf, ht⟩ |
    ⟨-, -, mf, -, ht⟩ | ⟨-, ht⟩
  · rw [ht]
    exact ⟨rfl, rfl⟩
  · obtain ⟨buf, ctr, rfl⟩ := hmf.frame
    rw [ht]
    exact ⟨rfl, hi⟩
  · rw [ht] at h
    exact absurd (reports_callSender .alive false env.sender mf) h
  · rw [ht] at h
    exact absurd rfl h

/-- After the last report was sent without an error, the record agrees with what was
    accepted. -/
theorem records_of_succeeds (unique : UInt64) {pre post : List Ev} {env : AlgoEnv}
    (hsend : env.sender.Succeeds)
    (hlast : reports (radarAppAlgo env ((loopMachine unique).state pre)).2 ≠ [])
    (hsilent : reports ((loopMachine unique).traceFrom
      ((loopMachine unique).state (pre ++ [.main env])) post) = []) :
    RecordsAccepted ((loopMachine unique).state (pre ++ .main env :: post))
      ((loopMachine unique).trace (pre ++ .main env :: post)) := by
  have hes : pre ++ .main env :: post = (pre ++ [.main env]) ++ post := by simp
  have hstep : acceptedStates (radarAppAlgo env ((loopMachine unique).state pre)).2 =
      reports (radarAppAlgo env ((loopMachine unique).state pre)).2 := by
    rcases algo_accepted env ((loopMachine unique).state pre) with h | ⟨h, -⟩
    · exact h
    · exact absurd hsend h
  have hsame : (acceptedStates ((loopMachine unique).trace (pre ++ .main env :: post))).getLast? =
      (reports ((loopMachine unique).trace (pre ++ .main env :: post))).getLast? := by
    rw [hes, Machine.trace_append, Machine.trace_snoc, acceptedStates_append, reports_append,
      accepted_of_silent unique post hsilent, hsilent, acceptedStates_append, reports_append,
      List.append_nil, List.append_nil, loopMachine_step, loopStep, hstep,
      List.getLast?_append_of_ne_nil _ hlast, List.getLast?_append_of_ne_nil _ hlast]
  unfold RecordsAccepted
  rw [hsame]
  exact (reports_loop unique _).getLast?_eq_some (by decide)

/-- The sensor's record of the server. At every boundary the owed inactivation is the state
    of the last payload handed to the sender, sent or not. A call that hands one over clears
    both notifications, whatever the stack answers; and if none of its calls of the stack
    fails, the record agrees with the last accepted state until the next report. -/
theorem require_tracks_reports (unique : UInt64) (es : List Ev) :
    (((loopMachine unique).state es).radarCoapRequireInactivation = true ↔
      (reports ((loopMachine unique).trace es)).getLast? = some ['1']) ∧
    ∀ pre env post, es = pre ++ .main env :: post →
      reports (radarAppAlgo env ((loopMachine unique).state pre)).2 ≠ [] →
      (((loopMachine unique).state (pre ++ [.main env])).radarCoapSendActive = false ∧
        ((loopMachine unique).state (pre ++ [.main env])).radarCoapSendInactive = false) ∧
      (env.sender.Succeeds →
        reports ((loopMachine unique).traceFrom
          ((loopMachine unique).state (pre ++ [.main env])) post) = [] →
        RecordsAccepted ((loopMachine unique).state es) ((loopMachine unique).trace es)) := by
  refine ⟨(reports_loop unique es).getLast?_eq_some (by decide), ?_⟩
  rintro pre env post rfl hlast
  refine ⟨?_, fun hsend hsilent => records_of_succeeds unique hsend hlast hsilent⟩
  rw [Machine.state_snoc]
  exact cleared_of_report hlast

/-- Boot and one detected frame, counted five times; the handshake; the active notification,
    whose `otCoapSendRequestWithParameters` fails. -/
def failedReport : List Ev :=
  [.burtc, .main (.sample true)] ++ List.replicate 5 .burtc ++
    [.get, .main { AlgoEnv.sample true with
      sender := { SenderEnv.accepted with sendRequest := .OT_ERROR_NO_BUFS } }]

/-- Nothing was accepted, the record says state 1, and nothing is pending. -/
theorem lost_report :
    ¬ RecordsAccepted ((loopMachine 7).state failedReport) ((loopMachine 7).trace failedReport) ∧
      ((loopMachine 7).state failedReport).radarCoapSendActive = false := by
  refine ⟨?_, by decide +kernel⟩
  intro h
  have hnone : (acceptedStates ((loopMachine 7).trace failedReport)).getLast? = none := by
    decide +kernel
  have hlast := h.mp (by decide +kernel)
  rw [hnone] at hlast
  cases hlast

end OtIpr
