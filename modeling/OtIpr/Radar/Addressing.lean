/-
  Where the sensor sends to, under every interleaving.

  The permissions resource and the main loop share the globals of app_coap.c: the handler
  stores a session (`resource_name`, `brAddr`, `selfAddr`, `appCoapConnectionEstablished`), the
  sender reads it at every send. `handled` lists the requests a run has handled. `session`:
  whatever the interrupts and the sends in between, the globals are those that the requests
  alone leave (`coapAfter`), up to the failure counter.

  So each message goes to the peer that asked last, under the name it asked for, and none goes
  out before a peer has asked (`requests_addressed`).
-/
import OtIpr.Coap.Handshake
import OtIpr.Radar.Sequence

namespace OtIpr

open Lib

/-! ## The session -/

/-- The request that an event handles. -/
def handledBy (s : Sys) : Ev → List Exchange
  | .permissions r env => if s.pc = .processAction then [(r, env)] else []
  | _ => []

/-- The requests that a run has handled, oldest first. -/
def handled (unique : UInt64) (es : List Ev) : List Exchange :=
  ((sysMachine unique).watch handledBy).trace es

/-- `c` is `c'` up to the failure counter. -/
def SameButFailures (c c' : Coap) : Prop := ∃ n, c = { c' with appCoapFailCtr := n }

theorem coapAfter_snoc (rs : List Exchange) (x : Exchange) :
    coapAfter (rs ++ [x]) = (appCoapPermissionsHandler (coapAfter rs) x.1 x.2).1 := by
  unfold coapAfter
  rw [List.foldl_append]
  rfl

/-- The handler neither reads nor writes the failure counter. -/
theorem SameButFailures.handler {c c' : Coap} (h : SameButFailures c c') (r : Request)
    (env : ResponseEnv) :
    SameButFailures (appCoapPermissionsHandler c r env).1
      (appCoapPermissionsHandler c' r env).1 := by
  obtain ⟨n, rfl⟩ := h
  refine ⟨n, ?_⟩
  unfold appCoapPermissionsHandler respond
  cases env.newMessage with
  | none => rfl
  | some m =>
    dsimp only
    split_ifs <;> rfl

theorem SameButFailures.sender {c c' : Coap} (h : SameButFailures c c') (env : SenderEnv)
    (buf : List Char) (require_ack : Bool) :
    SameButFailures (appCoapRadarSender c env buf require_ack).1 c' := by
  obtain ⟨n, rfl⟩ := h
  obtain ⟨k, hk⟩ := sender_frame { c' with appCoapFailCtr := n } env buf require_ack
  exact ⟨k, hk⟩

theorem session_mainStep (env : AlgoEnv) {s : Sys} {c : Coap} (h : SameButFailures s.mem.coap c) :
    SameButFailures (mainStep env s).1.mem.coap c := by
  obtain ⟨m, pc⟩ := s
  cases pc with
  | sendInactive | sendActive | sendAlive => exact h.sender env.sender m.tx_buffer _
  | _ => exact h

theorem session_sysStep (e : Ev) {s : Sys} {rs : List Exchange}
    (h : SameButFailures s.mem.coap (coapAfter rs)) :
    SameButFailures (sysStep s e).1.mem.coap (coapAfter (rs ++ handledBy s e)) := by
  cases e with
  | burtc =>
    show SameButFailures (BURTC_IRQHandler s.mem).coap (coapAfter (rs ++ []))
    rw [irq_coap, List.append_nil]
    exact h
  | alive_cb => exact (List.append_nil rs).symm ▸ h
  | iadc data => exact (List.append_nil rs).symm ▸ h
  | permissions r env =>
    simp only [sysStep, handledBy]
    split_ifs
    · rw [coapAfter_snoc]
      exact h.handler r env
    · rw [List.append_nil]
      exact h
  | main env =>
    show SameButFailures _ (coapAfter (rs ++ []))
    rw [List.append_nil]
    exact session_mainStep env h

/-- In every state of every run the session is that of the requests handled so far. -/
theorem session (unique : UInt64) (es : List Ev) :
    SameButFailures ((sysMachine unique).state es).mem.coap (coapAfter (handled unique es)) := by
  rw [← (sysMachine unique).state_watch handledBy]
  exact ((sysMachine unique).watch handledBy).invariant_trace
    (fun s rs => SameButFailures s.mem.coap (coapAfter rs)) ⟨0, rfl⟩
    (fun _ e h => session_sysStep e h) es

/-! ## No message without a session -/

/-- The statements that are only reached over a true read of `appCoapConnectionEstablished`. -/
def Pc.connected : Pc → Bool
  | .processAction | .testClear | .getNext | .inGetNext | .clearFlag => false
  | .testEstablished | .testAlive => false
  | _ => true

/-- A connection is never withdrawn, and the statements behind the test have seen it. -/
def Connected (s : Sys) : Prop :=
  s.pc.connected = true → s.mem.coap.appCoapConnectionEstablished = true

theorem connected_mainStep (env : AlgoEnv) {s : Sys} (h : Connected s) :
    Connected (mainStep env s).1 := by
  obtain ⟨m, pc⟩ := s
  cases pc with
  | testClear =>
    intro hc
    cases hm : m.radarAppVars.clearToMeasure <;> simp [mainStep, hm, Pc.connected] at hc
  | testEstablished =>
    intro hc
    cases hest : m.coap.appCoapConnectionEstablished with
    | true => exact hest
    | false => simp [mainStep, hest, Pc.connected] at hc
  | testAlive =>
    intro hc
    by_cases hal : AliveDue m
    · exact hal.1
    · simp [mainStep, hal, Pc.connected] at hc
  | testActive | testRequire | testInactive | testBranch => exact fun _ => h rfl
  | processAction | getNext | inGetNext | clearFlag | sendInactive | sendActive | sendAlive =>
    exact fun hc => Bool.noConfusion hc
  | _ => exact h

theorem connected_sysStep (e : Ev) {s : Sys} (h : Connected s) : Connected (sysStep s e).1 := by
  cases e with
  | burtc =>
    intro hc
    show (BURTC_IRQHandler s.mem).coap.appCoapConnectionEstablished = true
    rw [irq_coap]
    exact h hc
  | alive_cb => exact h
  | iadc data => exact h
  | permissions r env =>
    simp only [sysStep]
    split_ifs
    · exact fun _ => rfl
    · exact h
  | main env => exact connected_mainStep env h

theorem connected_state (unique : UInt64) (es : List Ev) :
    Connected ((sysMachine unique).state es) :=
  (sysMachine unique).invariant Connected (fun hc => Bool.noConfusion hc)
    (fun _ e => connected_sysStep e) es

/-- The connection is established by requests only. -/
theorem established_iff (rs : List Exchange) :
    (coapAfter rs).appCoapConnectionEstablished = true ↔ rs ≠ [] := by
  rcases List.eq_nil_or_concat' rs with rfl | ⟨p, x, rfl⟩
  · exact iff_of_false (fun h => Bool.noConfusion h) (fun h => h rfl)
  · exact iff_of_true (after_snoc p x).1 (by simp)

/-! ## The kind of a message -/

/-- At the send of an alive packet the message formatted last carries state -1. -/
def AliveAt (s : Sys) (last : Option Payload) : Prop :=
  s.pc = .sendAlive → ∃ p, last = some p ∧ p.state = -1

theorem aliveAt_sysStep (e : Ev) {s : Sys} {ps : List Payload} (h : AliveAt s ps.getLast?) :
    AliveAt (sysStep s e).1 (ps ++ formatted s e).getLast? := by
  have hkept : AliveAt s (ps ++ []).getLast? := (List.append_nil ps).symm ▸ h
  cases e with
  | burtc => exact hkept
  | alive_cb => exact hkept
  | iadc data => exact hkept
  | permissions r env =>
    simp only [sysStep]
    split_ifs <;> exact hkept
  | main env =>
    obtain ⟨m, pc⟩ := s
    cases pc with
    | formatAlive opt_buf rssi => exact fun _ => ⟨_, List.getLast?_concat, rfl⟩
    | testClear | testEstablished | testActive | testRequire | testInactive | testBranch
    | testAlive =>
      intro hpc
      simp only [sysStep, mainStep] at hpc
      split at hpc <;> cases hpc
    | _ =>
      intro hpc
      cases hpc

theorem aliveAt (unique : UInt64) (es : List Ev) :
    AliveAt ((sysMachine unique).state es) (payloads unique es).getLast? := by
  rw [← (sysMachine unique).state_watch formatted]
  exact ((sysMachine unique).watch formatted).invariant_trace
    (fun s ps => AliveAt s ps.getLast?) (fun hpc => by cases hpc)
    (fun _ e h => aliveAt_sysStep e h) es

/-- A state report is confirmable, an alive packet is not. -/
def Site.require_ack : Site → Bool
  | .alive => false
  | _ => true

/-- At a send, the site tells whether the message carries a state. -/
theorem state_of_site {unique : UInt64} {es : List Ev} {site : Site} {p : Payload}
    (hpc : ((sysMachine unique).state es).pc = site.pc)
    (hlast : (payloads unique es).getLast? = some p)
    (hbuf : ((sysMachine unique).state es).mem.tx_buffer = bufferOf p) :
    site.require_ack = true ↔ p.state ≠ -1 := by
  have hdigit : stateOf ((sysMachine unique).state es).mem.tx_buffer = fmtD p.state.toInt := by
    unfold stateOf
    rw [hbuf, cstr_bufferOf, stateField_payloadText]
  have hflags := flagsAt unique es
  rw [hpc] at hflags
  cases site with
  | alive =>
    obtain ⟨q, hq, hstate⟩ := aliveAt unique es hpc
    rw [hlast] at hq
    obtain rfl := Option.some.inj hq
    exact iff_of_false (fun h => Bool.noConfusion h) (fun h => h hstate)
  | inactive =>
    have h0 : fmtD p.state.toInt = ['0'] := hdigit.symm.trans hflags.2.2
    refine iff_of_true rfl fun hneg => ?_
    rw [hneg] at h0
    exact absurd h0 (by decide)
  | active =>
    have h1 : fmtD p.state.toInt = ['1'] := hdigit.symm.trans hflags.2
    refine iff_of_true rfl fun hneg => ?_
    rw [hneg] at h1
    exact absurd h1 (by decide)

/-! ## Addresses -/

/-- The requests handed to the stack. -/
def sentRequests (os : List Obs) : List SentRequest :=
  os.filterMap fun o => match o with
    | .call c => c.sentRequest
    | _ => none

/-- `q` is a request that a send makes after the run `es`. -/
structure Addressed (unique : UInt64) (es : List Ev) (q : SentRequest) : Prop where
  peer : ∃ x, (handled unique es).getLast? = some x ∧ q.mPeerAddr = x.1.mPeerAddr
  uriPath : q.request.uriPath = cstr NUL (coapAfter (handled unique es)).resource_name
  method : q.request.code = .PUT
  message : ∃ p, (payloads unique es).getLast? = some p ∧ q.request.payload = payloadText p ∧
    (q.request.type = .CONFIRMABLE ↔ p.state ≠ -1)

theorem sentRequests_calls (calls : List OtCall) :
    sentRequests (calls.map .call) = calls.filterMap OtCall.sentRequest :=
  List.filterMap_map

/-- The request of a send, if any. -/
theorem sentRequests_callSender {site : Site} {require_ack : Bool} {env : SenderEnv} {m : Mem}
    {p : Payload} (hbuf : m.tx_buffer = bufferOf p) {q : SentRequest}
    (hq : q ∈ sentRequests (callSender site require_ack env m).2) :
    q = requestOf m.coap env m.tx_buffer require_ack := by
  have hlen : strlen NUL m.tx_buffer < 2 ^ 16 := by
    rw [hbuf]
    exact strlen_payload (cstr_bufferOf p)
  rw [callSender_obs] at hq
  have hmem : q ∈ (appCoapRadarSender m.coap env m.tx_buffer require_ack).2.filterMap
      OtCall.sentRequest := by
    rw [← sentRequests_calls]
    exact hq
  rcases sender_requests m.coap env m.tx_buffer require_ack hlen with h | h
  · rw [h] at hmem
    cases hmem
  · rw [h] at hmem
    exact List.mem_singleton.mp hmem

/-- Only a send hands a request over. -/
theorem sentRequests_sysStep {s : Sys} {e : Ev} {q : SentRequest}
    (hq : q ∈ sentRequests (sysStep s e).2) :
    ∃ site : Site, ∃ env : SenderEnv, s.pc = site.pc ∧
      q ∈ sentRequests (callSender site site.require_ack env s.mem).2 := by
  cases e with
  | burtc => cases hq
  | alive_cb => cases hq
  | iadc data => cases hq
  | permissions r env =>
    simp only [sysStep] at hq
    split_ifs at hq
    · have hnone : sentRequests (processRequest r env s.mem).2 = [] := by
        unfold processRequest
        rw [sentRequests_calls]
        exact handler_requests _ r env
      rw [hnone] at hq
      cases hq
    · cases hq
  | main env =>
    obtain ⟨m, pc⟩ := s
    cases pc with
    | sendInactive => exact ⟨.inactive, env.sender, rfl, hq⟩
    | sendActive => exact ⟨.active, env.sender, rfl, hq⟩
    | sendAlive => exact ⟨.alive, env.sender, rfl, hq⟩
    | _ => cases hq

/-- Whatever may happen next in a run: a request that goes out carries the message formatted
    last, goes to the peer whose request was handled last, as a PUT on the resource named by
    the requests so far, and is confirmable exactly if the message carries a state. Before a
    peer has asked, none goes out. -/
theorem requests_addressed (unique : UInt64) (es : List Ev) (e : Ev) :
    ∀ q ∈ sentRequests (sysStep ((sysMachine unique).state es) e).2, Addressed unique es q := by
  intro q hq
  obtain ⟨site, env, hpc, hmem⟩ := sentRequests_sysStep hq
  obtain ⟨p, hlast, hbuf⟩ := bufferAt_send unique hpc
  obtain ⟨n, hn⟩ := session unique es
  have hreq := sentRequests_callSender hbuf hmem
  have hest : (coapAfter (handled unique es)).appCoapConnectionEstablished = true := by
    have h : ((sysMachine unique).state es).mem.coap.appCoapConnectionEstablished = true :=
      connected_state unique es (by rw [hpc]; cases site <;> rfl)
    rw [hn] at h
    exact h
  rw [hn] at hreq
  refine ⟨?_, ?_, ?_, p, hlast, ?_, ?_⟩
  · rcases List.eq_nil_or_concat' (handled unique es) with hnil | ⟨rs, x, hrs⟩
    · exact absurd hnil ((established_iff _).mp hest)
    · refine ⟨x, by rw [hrs]; exact List.getLast?_concat, ?_⟩
      rw [hreq, hrs]
      exact (after_snoc rs x).2.1
  · rw [hreq]
    rfl
  · rw [hreq]
    rfl
  · rw [hreq, requestOf_payload, hbuf, cstr_bufferOf]
  · rw [← state_of_site hpc hlast hbuf, hreq]
    exact requestOf_confirmable _ env _ site.require_ack

/-- The alive packet after a handshake with the peer 1, up to its send. -/
def aliveFormatted : List Ev := .get :: .alive_cb :: stmts 11 (.sample false)

theorem requests_addressed_alive :
    Addressed 7 aliveFormatted
      ⟨⟨.NON_CONFIRMABLE, .PUT, [], [], payloadText ⟨0, 0, 7, -1, 0, 0, 1280, 0, -60, 1⟩⟩, 1,
        .OT_ERROR_NONE⟩ :=
  requests_addressed 7 aliveFormatted (.main (.sample false)) _ (by decide +kernel)

end OtIpr
