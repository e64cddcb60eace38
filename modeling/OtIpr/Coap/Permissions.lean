/-
  app_coap.c, `appCoapPermissionsHandler` (lines 62-112): the handshake.

  The handler stores the peer's addresses first and sets `appCoapConnectionEstablished` after
  its exit label, so every path writes all three (`handler_writes`). Only the response depends
  on the method and on the stack.
-/
import OtIpr.Coap.Basic

namespace OtIpr

open Lib

/-- A request on the permissions resource: what the handler reads of `aMessage` (the payload
    from its offset on) and of `aMessageInfo`. -/
structure Request where
  code : OtCoapCode
  token : List UInt8
  payload : List Char
  mPeerAddr : OtIp6Address
  mSockAddr : OtIp6Address
  deriving DecidableEq, Repr

/-- The stack's results while one request is handled. -/
structure ResponseEnv where
  newMessage : MsgPtr
  setPayloadMarker : OtError
  append : OtError
  sendResponse : OtError
  deriving DecidableEq, Repr

def ack : List Char := ['a', 'c', 'k']
def nack : List Char := ['n', 'a', 'c', 'k']

/-- `otMessageRead(aMessage, offset, buf, length)`: at most `length` bytes are copied. -/
def otMessageRead (payload buf : List Char) (length : ℕ) : List Char :=
  store buf (payload.take length)

/-- The handler between the address stores and the exit label (lines 68-103): the globals,
    the value of `error` at the label, and the calls made. -/
def respond (c : Coap) (r : Request) (env : ResponseEnv) : Coap × OtError × List OtCall :=
  match env.newMessage with
  | none => (c, .OT_ERROR_NO_BUFS, [.otCoapNewMessage none])
  | some m =>
    let prepared : List OtCall :=
      [.otCoapNewMessage (some m),
        .otCoapMessageInitResponse (some m) .ACKNOWLEDGMENT .CHANGED,
        .otCoapMessageSetToken (some m) r.token,
        .otCoapMessageSetPayloadMarker (some m) env.setPayloadMarker]
    -- sizeof(resource_name) - 1
    let c := { c with resource_name := otMessageRead r.payload c.resource_name 31 }
    if r.code = .GET then
      let calls := prepared ++ [.otMessageAppend (some m) ack env.append]
      if env.append ≠ .OT_ERROR_NONE then (c, env.append, calls)
      else (c, env.sendResponse, calls ++
        [.otCoapSendResponse (some m) ⟨.ACKNOWLEDGMENT, .CHANGED, r.token, [], ack⟩
          env.sendResponse])
    else
      let calls := prepared ++ [.otMessageAppend (some m) nack env.append,
        .otCoapMessageSetCode (some m) .METHOD_NOT_ALLOWED]
      if env.append ≠ .OT_ERROR_NONE then (c, env.append, calls)
      else (c, env.sendResponse, calls ++
        [.otCoapSendResponse (some m) ⟨.ACKNOWLEDGMENT, .METHOD_NOT_ALLOWED, r.token, [], nack⟩
          env.sendResponse])

/-- `appCoapPermissionsHandler(aContext, aMessage, aMessageInfo)`. -/
def appCoapPermissionsHandler (c : Coap) (r : Request) (env : ResponseEnv) :
    Coap × List OtCall :=
  let c := { c with brAddr := r.mPeerAddr, selfAddr := r.mSockAddr }
  let (c, error, calls) := respond c r env
  -- exit:
  let freed : List OtCall :=
    if error ≠ .OT_ERROR_NONE ∧ env.newMessage ≠ none then [.otMessageFree env.newMessage] else []
  ({ c with appCoapConnectionEstablished := true }, calls ++ freed)

/-- Filling the response writes nothing but `resource_name`. -/
theorem respond_frame (c : Coap) (r : Request) (env : ResponseEnv) :
    (respond c r env).1.brAddr = c.brAddr ∧ (respond c r env).1.selfAddr = c.selfAddr ∧
      (respond c r env).1.appCoapFailCtr = c.appCoapFailCtr := by
  unfold respond
  split
  · exact ⟨rfl, rfl, rfl⟩
  · dsimp only
    split_ifs <;> exact ⟨rfl, rfl, rfl⟩

/-- On every path the handler leaves the connection established and stores the peer's
    addresses; it does not touch the failure counter. -/
theorem handler_writes (c : Coap) (r : Request) (env : ResponseEnv) :
    (appCoapPermissionsHandler c r env).1.appCoapConnectionEstablished = true ∧
      (appCoapPermissionsHandler c r env).1.brAddr = r.mPeerAddr ∧
      (appCoapPermissionsHandler c r env).1.selfAddr = r.mSockAddr ∧
      (appCoapPermissionsHandler c r env).1.appCoapFailCtr = c.appCoapFailCtr := by
  obtain ⟨hbr, hself, hctr⟩ :=
    respond_frame { c with brAddr := r.mPeerAddr, selfAddr := r.mSockAddr } r env
  exact ⟨rfl, hbr, hself, hctr⟩

/-! ## The response -/

/-- An `otCoapSendResponse` call that hands over an 'ack' and is accepted. -/
def OtCall.acceptedAck : OtCall → Bool
  | .otCoapSendResponse _ response error => response.payload = ack ∧ error = .OT_ERROR_NONE
  | _ => false

/-- A GET whose 'ack' response is allocated, filled and accepted. -/
def Acked (r : Request) (env : ResponseEnv) : Prop :=
  r.code = .GET ∧ env.newMessage ≠ none ∧ env.append = .OT_ERROR_NONE ∧
    env.sendResponse = .OT_ERROR_NONE

instance (r : Request) (env : ResponseEnv) : Decidable (Acked r env) :=
  inferInstanceAs (Decidable (_ ∧ _))

/-- The handler hands over an accepted 'ack' exactly for the requests of `Acked`. -/
theorem acceptedAck_iff (c : Coap) (r : Request) (env : ResponseEnv) :
    (appCoapPermissionsHandler c r env).2.any OtCall.acceptedAck = true ↔ Acked r env := by
  have hnack : ¬ nack = ack := by decide
  unfold appCoapPermissionsHandler respond Acked
  cases hm : env.newMessage with
  | none => simp [OtCall.acceptedAck]
  | some m =>
    by_cases hget : r.code = .GET <;> by_cases happ : env.append = .OT_ERROR_NONE <;>
      by_cases hsend : env.sendResponse = .OT_ERROR_NONE <;>
      simp [hget, happ, hsend, hnack, OtCall.acceptedAck]

end OtIpr
