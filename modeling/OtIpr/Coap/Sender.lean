/-
  app_coap.c, `appCoapRadarSender` and `appCoapCheckConnection` (lines 115-190).

  The sender returns nothing; of the globals it writes the failure counter only
  (`sender_frame`). `sendError` is the value of its local `error` at the exit label.
-/
import OtIpr.Coap.Basic

namespace OtIpr

open Lib

/-- The stack's results during one call of the sender. -/
structure SenderEnv where
  role : OtDeviceRole
  newMessage : MsgPtr
  token : List UInt8
  appendUriPathOptions : OtError
  setPayloadMarker : OtError
  append : OtError
  sendRequest : OtError
  deriving DecidableEq, Repr

/-- The recovery branch of `appCoapCheckConnection` (lines 180-187). -/
def recovery : List OtCall :=
  [.otThreadBecomeDetached, .sleepyInit, .setNetworkConfiguration, .otIp6SetEnabled true,
    .otThreadSetEnabled true, .appCoapInit]

/-- `appCoapCheckConnection()`. -/
def appCoapCheckConnection (c : Coap) (role : OtDeviceRole) : Coap × List OtCall :=
  if ¬ c.appCoapConnectionEstablished then (c, [])
  else if role ≠ .CHILD ∨ c.appCoapFailCtr > 10 then
    ({ c with appCoapFailCtr := 0 }, recovery)
  else (c, [])

/-- The sender from `otCoapMessageInit` to the exit label (lines 129-155): the value of
    `error` at the label and the calls made. `message` is not tested for NULL before it is
    used. -/
def fillAndSend (c : Coap) (env : SenderEnv) (buf : List Char) (coapType : OtCoapType) :
    OtError × List OtCall :=
  let message := env.newMessage
  let uriPath := cstr NUL c.resource_name
  let started : List OtCall :=
    [.otCoapMessageInit message coapType .PUT, .otCoapMessageGenerateToken message,
      .otCoapMessageAppendUriPathOptions message uriPath env.appendUriPathOptions]
  if env.appendUriPathOptions ≠ .OT_ERROR_NONE then (env.appendUriPathOptions, started)
  else
    let payloadLength : UInt16 := UInt16.ofNat (strlen NUL buf)
    let body := buf.take payloadLength.toNat
    let marked : List OtCall :=
      if payloadLength > 0 then [.otCoapMessageSetPayloadMarker message env.setPayloadMarker]
      else []
    if payloadLength > 0 ∧ env.setPayloadMarker ≠ .OT_ERROR_NONE then
      (env.setPayloadMarker, started ++ marked)
    else
      let appended : List OtCall :=
        if payloadLength > 0 then [.otMessageAppend message body env.append] else []
      if payloadLength > 0 ∧ env.append ≠ .OT_ERROR_NONE then
        (env.append, started ++ marked ++ appended)
      else
        (env.sendRequest, started ++ marked ++ appended ++
          [.otCoapSendRequestWithParameters message ⟨coapType, .PUT, env.token, uriPath, body⟩
            c.brAddr env.sendRequest])

/-- `appCoapRadarSender(buf, require_ack)`. -/
def appCoapRadarSender (c : Coap) (env : SenderEnv) (buf : List Char) (require_ack : Bool) :
    Coap × List OtCall :=
  let (c, check) := appCoapCheckConnection c env.role
  let coapType : OtCoapType := if require_ack then .CONFIRMABLE else .NON_CONFIRMABLE
  let (error, calls) := fillAndSend c env buf coapType
  -- exit:
  let failed := error ≠ .OT_ERROR_NONE ∧ env.newMessage ≠ none
  let c := if failed then { c with appCoapFailCtr := 0 } else c
  let freed : List OtCall := if failed then [.otMessageFree env.newMessage] else []
  let c := if error ≠ .OT_ERROR_NONE then { c with appCoapFailCtr := c.appCoapFailCtr + 1 } else c
  (c, check ++ .otCoapNewMessage env.newMessage :: calls ++ freed)

/-- The value of the sender's `error` at its exit label. -/
def sendError (env : SenderEnv) (buf : List Char) : OtError :=
  (fillAndSend .boot env buf .CONFIRMABLE).1

/-- Every call of the stack on behalf of the message succeeds. -/
def SenderEnv.Succeeds (env : SenderEnv) : Prop :=
  env.appendUriPathOptions = .OT_ERROR_NONE ∧ env.setPayloadMarker = .OT_ERROR_NONE ∧
    env.append = .OT_ERROR_NONE ∧ env.sendRequest = .OT_ERROR_NONE

/-- The error does not depend on the globals or on the message type. -/
theorem fillAndSend_error (c : Coap) (env : SenderEnv) (buf : List Char) (t : OtCoapType) :
    (fillAndSend c env buf t).1 = sendError env buf := by
  simp only [sendError, fillAndSend]
  split_ifs <;> rfl

theorem check_frame (c : Coap) (role : OtDeviceRole) :
    ∃ n, (appCoapCheckConnection c role).1 = { c with appCoapFailCtr := n } := by
  unfold appCoapCheckConnection
  split_ifs
  · exact ⟨_, rfl⟩
  · exact ⟨_, rfl⟩
  · exact ⟨_, rfl⟩

/-- The sender writes no global but the failure counter. -/
theorem sender_frame (c : Coap) (env : SenderEnv) (buf : List Char) (require_ack : Bool) :
    ∃ n, (appCoapRadarSender c env buf require_ack).1 = { c with appCoapFailCtr := n } := by
  obtain ⟨n, hn⟩ := check_frame c env.role
  simp only [appCoapRadarSender, hn]
  split_ifs <;> exact ⟨_, rfl⟩

/-- The counter after a send, from its value after the check at the start: a failure with a
    message at hand resets the counter and then counts one. -/
theorem sender_failCtr (c : Coap) (env : SenderEnv) (buf : List Char) (require_ack : Bool) :
    (appCoapRadarSender c env buf require_ack).1.appCoapFailCtr =
      if sendError env buf = .OT_ERROR_NONE then
        (appCoapCheckConnection c env.role).1.appCoapFailCtr
      else if env.newMessage = none then
        (appCoapCheckConnection c env.role).1.appCoapFailCtr + 1
      else 1 := by
  simp only [appCoapRadarSender, fillAndSend_error]
  split_ifs <;> simp_all

/-! ## Accepted requests -/

/-- The payload of a request that the stack accepted. -/
def OtCall.acceptedPayload : OtCall → Option (List Char)
  | .otCoapSendRequestWithParameters _ request _ .OT_ERROR_NONE => some request.payload
  | _ => none

/-- The body that goes on the wire is the buffer's string: its length fits the 16-bit
    `payloadLength`. -/
theorem body_eq_cstr (buf : List Char) (h : strlen NUL buf < 2 ^ 16) :
    buf.take (UInt16.ofNat (strlen NUL buf)).toNat = cstr NUL buf := by
  rw [UInt16.toNat_ofNat_of_lt' (by simpa [UInt16.size] using h)]
  exact take_strlen NUL buf

/-- Filling and sending hands over the buffer's string, and only when no call fails. -/
theorem fillAndSend_accepted (c : Coap) (env : SenderEnv) (buf : List Char) (t : OtCoapType)
    (h : strlen NUL buf < 2 ^ 16) :
    (fillAndSend c env buf t).2.filterMap OtCall.acceptedPayload =
      if (fillAndSend c env buf t).1 = .OT_ERROR_NONE then [cstr NUL buf] else [] := by
  simp only [fillAndSend, body_eq_cstr buf h]
  cases hsend : env.sendRequest <;> split_ifs <;>
    first
    | rfl
    | contradiction
    | exact absurd ‹_› (by simp [*])

/-- The same of a whole send. -/
theorem sender_accepted (c : Coap) (env : SenderEnv) (buf : List Char) (require_ack : Bool)
    (h : strlen NUL buf < 2 ^ 16) :
    (appCoapRadarSender c env buf require_ack).2.filterMap OtCall.acceptedPayload =
      if sendError env buf = .OT_ERROR_NONE then [cstr NUL buf] else [] := by
  have hcheck : (appCoapCheckConnection c env.role).2.filterMap OtCall.acceptedPayload = [] := by
    unfold appCoapCheckConnection
    split_ifs <;> rfl
  have hfreed : ∀ p : Prop, [Decidable p] →
      (if p then [OtCall.otMessageFree env.newMessage] else []).filterMap
        OtCall.acceptedPayload = [] := by
    intro p _
    split_ifs <;> rfl
  simp only [appCoapRadarSender, List.filterMap_append, List.filterMap_cons, hcheck,
    fillAndSend_accepted _ _ _ _ h, fillAndSend_error, hfreed, List.nil_append, List.append_nil,
    OtCall.acceptedPayload]

/-! ## Message bodies -/

/-- The payload bytes that a call hands to the stack: appended to a message, or in a message
    that is sent. -/
def OtCall.body : OtCall → Option (List Char)
  | .otMessageAppend _ bytes _ => some bytes
  | .otCoapSendRequestWithParameters _ request _ _ => some request.payload
  | _ => none

/-- The sender hands over the buffer's string and nothing else, whatever the stack answers. -/
theorem sender_body (c : Coap) (env : SenderEnv) (buf : List Char) (require_ack : Bool)
    (h : strlen NUL buf < 2 ^ 16) {call : OtCall}
    (hcall : call ∈ (appCoapRadarSender c env buf require_ack).2) {b : List Char}
    (hb : call.body = some b) : b = cstr NUL buf := by
  have hcheck : ∀ call ∈ (appCoapCheckConnection c env.role).2, call.body = none := by
    unfold appCoapCheckConnection recovery
    split_ifs <;> simp [OtCall.body]
  have hfill : ∀ c' t, ∀ call ∈ (fillAndSend c' env buf t).2,
      call.body = none ∨ call.body = some (cstr NUL buf) := by
    intro c' t
    simp only [fillAndSend, body_eq_cstr buf h]
    split_ifs <;> simp [OtCall.body]
  have hfreed : ∀ p : Prop, [Decidable p] →
      ∀ call ∈ if p then [OtCall.otMessageFree env.newMessage] else [], call.body = none := by
    intro p _
    split_ifs <;> simp [OtCall.body]
  have hbody : call.body = none ∨ call.body = some (cstr NUL buf) := by
    unfold appCoapRadarSender at hcall
    dsimp only at hcall
    rcases List.mem_append.mp hcall with hcall | hcall
    · rcases List.mem_append.mp hcall with hcall | hcall
      · exact Or.inl (hcheck call hcall)
      · rcases List.mem_cons.mp hcall with rfl | hcall
        · exact Or.inl rfl
        · exact hfill _ _ call hcall
    · exact Or.inl (hfreed _ call hcall)
  rcases hbody with hnone | hsome
  · rw [hnone] at hb
    cases hb
  · rw [hsome] at hb
    exact (Option.some.inj hb).symm

theorem SenderEnv.Succeeds.sendError_eq {env : SenderEnv} (h : env.Succeeds) (buf : List Char) :
    sendError env buf = .OT_ERROR_NONE := by
  obtain ⟨huri, hmarker, happend, hsend⟩ := h
  simp [sendError, fillAndSend, huri, hmarker, happend, hsend]

end OtIpr
