/-
  app_coap.c: the data of the CoAP client.

  `Coap` is the module's globals. A call into OpenThread is an `OtCall`: the function, the
  message pointer it is applied to (`none` is NULL) and, where the stack decides the result,
  the result it returned. OpenThread itself is not part of the repository; its results come
  from the `ResponseEnv` and `SenderEnv` of each call.

  GPIO outputs (the LEDs) are left out: nothing reads them.
-/
import OtIpr.Payload

namespace OtIpr

open Lib

/-- The result codes of the stack. `other` is any further error. -/
inductive OtError where
  | OT_ERROR_NONE
  | OT_ERROR_NO_BUFS
  | other (code : ℕ)
  deriving DecidableEq, Repr

/-- CoAP codes. `other` is any further method or response code. -/
inductive OtCoapCode where
  | GET
  | PUT
  | CHANGED
  | METHOD_NOT_ALLOWED
  | other (code : ℕ)
  deriving DecidableEq, Repr

inductive OtCoapType where
  | CONFIRMABLE
  | NON_CONFIRMABLE
  | ACKNOWLEDGMENT
  deriving DecidableEq, Repr

inductive OtDeviceRole where
  | DISABLED
  | DETACHED
  | CHILD
  | ROUTER
  | LEADER
  deriving DecidableEq, Repr

/-- The 16 bytes of an IPv6 address. -/
abbrev OtIp6Address := BitVec 128

/-- A pointer returned by `otCoapNewMessage`; `none` is NULL. -/
abbrev MsgPtr := Option ℕ

/-- What a message holds when it is given to the stack for sending. -/
structure OtMessage where
  type : OtCoapType
  code : OtCoapCode
  token : List UInt8
  uriPath : List Char
  payload : List Char
  deriving DecidableEq, Repr

/-- Calls that reach the stack, in the order they are made. -/
inductive OtCall where
  | otCoapNewMessage (message : MsgPtr)
  | otCoapMessageInit (message : MsgPtr) (type : OtCoapType) (code : OtCoapCode)
  | otCoapMessageInitResponse (message : MsgPtr) (type : OtCoapType) (code : OtCoapCode)
  | otCoapMessageSetToken (message : MsgPtr) (token : List UInt8)
  | otCoapMessageGenerateToken (message : MsgPtr)
  | otCoapMessageSetPayloadMarker (message : MsgPtr) (error : OtError)
  | otCoapMessageAppendUriPathOptions (message : MsgPtr) (uriPath : List Char) (error : OtError)
  | otMessageAppend (message : MsgPtr) (bytes : List Char) (error : OtError)
  | otCoapMessageSetCode (message : MsgPtr) (code : OtCoapCode)
  | otCoapSendResponse (message : MsgPtr) (response : OtMessage) (error : OtError)
  | otCoapSendRequestWithParameters (message : MsgPtr) (request : OtMessage)
      (mPeerAddr : OtIp6Address) (error : OtError)
  | otMessageFree (message : MsgPtr)
  | otThreadBecomeDetached
  | sleepyInit
  | setNetworkConfiguration
  | otIp6SetEnabled (enabled : Bool)
  | otThreadSetEnabled (enabled : Bool)
  | appCoapInit
  deriving DecidableEq, Repr

/-- The globals of app_coap.c. -/
structure Coap where
  resource_name : List Char
  brAddr : OtIp6Address
  selfAddr : OtIp6Address
  appCoapConnectionEstablished : Bool
  appCoapFailCtr : UInt32
  deriving DecidableEq, Repr

/-- The globals as the C runtime initialises them. -/
def Coap.boot : Coap where
  resource_name := List.replicate 32 NUL
  brAddr := 0
  selfAddr := 0
  appCoapConnectionEstablished := false
  appCoapFailCtr := 0

end OtIpr
