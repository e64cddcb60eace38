/-
  The requests that reach the stack.

  A call of `appCoapRadarSender` hands over at most one request, and what is in it is fixed by
  the globals, the buffer and the acknowledgement the caller asks for (`sender_requests`). The
  permissions handler answers with responses only (`handler_requests`).
-/
import OtIpr.Coap.Permissions
import OtIpr.Coap.Sender

namespace OtIpr

open Lib

/-- The arguments and the result of `otCoapSendRequestWithParameters`. -/
structure SentRequest where
  request : OtMessage
  mPeerAddr : OtIp6Address
  error : OtError
  deriving DecidableEq, Repr

def OtCall.sentRequest : OtCall → Option SentRequest
  | .otCoapSendRequestWithParameters _ request mPeerAddr error => some ⟨request, mPeerAddr, error⟩
  | _ => none

/-- The request of a call of the sender, if it gets that far. -/
def requestOf (c : Coap) (env : SenderEnv) (buf : List Char) (require_ack : Bool) :
    SentRequest where
  request := ⟨if require_ack then .CONFIRMABLE else .NON_CONFIRMABLE, .PUT, env.token,
    cstr NUL c.resource_name, cstr NUL buf⟩
  mPeerAddr := c.brAddr
  error := env.sendRequest

theorem requestOf_payload (c : Coap) (env : SenderEnv) (buf : List Char) (require_ack : Bool) :
    (requestOf c env buf require_ack).request.payload = cstr NUL buf := rfl

theorem requestOf_confirmable (c : Coap) (env : SenderEnv) (buf : List Char)
    (require_ack : Bool) :
    (requestOf c env buf require_ack).request.type = .CONFIRMABLE ↔ require_ack = true := by
  cases require_ack <;> simp [requestOf]

/-- An accepted payload is the payload of a request that was handed over. -/
theorem acceptedPayload_eq (call : OtCall) :
    call.acceptedPayload =
      (call.sentRequest.filter fun q => q.error = .OT_ERROR_NONE).map
        fun q => q.request.payload := by
  cases call with
  | otCoapSendRequestWithParameters message request mPeerAddr error =>
    cases error <;> rfl
  | _ => rfl

theorem acceptedPayload_of_sentRequest {calls : List OtCall}
    (h : calls.filterMap OtCall.sentRequest = []) :
    calls.filterMap OtCall.acceptedPayload = [] := by
  refine List.filterMap_eq_nil_iff.mpr fun call hcall => ?_
  rw [acceptedPayload_eq, List.filterMap_eq_nil_iff.mp h call hcall]
  rfl

/-- The check at the start of a send reconnects, it sends nothing itself. -/
theorem check_requests (c : Coap) (role : OtDeviceRole) :
    (appCoapCheckConnection c role).2.filterMap OtCall.sentRequest = [] := by
  unfold appCoapCheckConnection
  split_ifs <;> rfl

theorem fillAndSend_requests (c : Coap) (env : SenderEnv) (buf : List Char) (t : OtCoapType)
    (h : strlen NUL buf < 2 ^ 16) :
    (fillAndSend c env buf t).2.filterMap OtCall.sentRequest = [] ∨
      (fillAndSend c env buf t).2.filterMap OtCall.sentRequest =
        [⟨⟨t, .PUT, env.token, cstr NUL c.resource_name, cstr NUL buf⟩, c.brAddr,
          env.sendRequest⟩] := by
  simp only [fillAndSend, body_eq_cstr buf h]
  -- one way out in each failure exit, and the send at the end
  split_ifs <;> first | exact Or.inl rfl | exact Or.inr rfl

/-- A call of the sender hands over its request or none. -/
theorem sender_requests (c : Coap) (env : SenderEnv) (buf : List Char) (require_ack : Bool)
    (h : strlen NUL buf < 2 ^ 16) :
    (appCoapRadarSender c env buf require_ack).2.filterMap OtCall.sentRequest = [] ∨
      (appCoapRadarSender c env buf require_ack).2.filterMap OtCall.sentRequest =
        [requestOf c env buf require_ack] := by
  have hfreed : ∀ p : Prop, [Decidable p] →
      (if p then [OtCall.otMessageFree env.newMessage] else []).filterMap OtCall.sentRequest =
        [] := by
    intro p _
    split_ifs <;> rfl
  obtain ⟨n, hn⟩ := check_frame c env.role
  have hcalls : (appCoapRadarSender c env buf require_ack).2.filterMap OtCall.sentRequest =
      (fillAndSend { c with appCoapFailCtr := n } env buf
        (if require_ack then .CONFIRMABLE else .NON_CONFIRMABLE)).2.filterMap
          OtCall.sentRequest := by
    simp only [appCoapRadarSender, List.filterMap_append, List.filterMap_cons, check_requests,
      hfreed, hn, List.nil_append, List.append_nil, OtCall.sentRequest]
  rw [hcalls]
  exact fillAndSend_requests _ env buf _ h

/-- A response is not a request. -/
theorem handler_requests (c : Coap) (r : Request) (env : ResponseEnv) :
    (appCoapPermissionsHandler c r env).2.filterMap OtCall.sentRequest = [] := by
  unfold appCoapPermissionsHandler respond
  cases env.newMessage with
  | none => rfl
  | some msg =>
    dsimp only
    split_ifs <;> rfl

end OtIpr
