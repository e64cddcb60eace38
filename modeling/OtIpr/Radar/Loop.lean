/-
  The sensor as a machine whose main-loop iterations are atomic.

  Events are the interrupts (`burtc`, `alive_cb`, `iadc`), a request on the permissions
  resource (handled by `app_process_action` in the main loop) and a call of `radarAppAlgo`.
  A run is any list of events: every order of interrupts and iterations, every sequence of
  presence results, every connection time, every answer of the stack.
-/
import OtIpr.Lib.Machine
import OtIpr.Radar.Algo

namespace OtIpr

open Lib

inductive Ev where
  | burtc
  | alive_cb
  | iadc (data : UInt32)
  | permissions (r : Request) (env : ResponseEnv)
  | main (env : AlgoEnv)

/-- `app_process_action` delivers one request to `appCoapPermissionsHandler`. -/
def processRequest (r : Request) (env : ResponseEnv) (m : Mem) : Mem × List Obs :=
  ({ m with coap := (appCoapPermissionsHandler m.coap r env).1 },
    (appCoapPermissionsHandler m.coap r env).2.map .call)

@[simp] theorem processRequest_radarAppVars (r : Request) (env : ResponseEnv) (m : Mem) :
    (processRequest r env m).1.radarAppVars = m.radarAppVars := rfl

@[simp] theorem processRequest_sendActive (r : Request) (env : ResponseEnv) (m : Mem) :
    (processRequest r env m).1.radarCoapSendActive = m.radarCoapSendActive := rfl

@[simp] theorem processRequest_require (r : Request) (env : ResponseEnv) (m : Mem) :
    (processRequest r env m).1.radarCoapRequireInactivation =
      m.radarCoapRequireInactivation := rfl

@[simp] theorem processRequest_established (r : Request) (env : ResponseEnv) (m : Mem) :
    (processRequest r env m).1.coap.appCoapConnectionEstablished = true := rfl

/-- One event; a `main` event is a whole call of `radarAppAlgo`. -/
def loopStep (m : Mem) : Ev → Mem × List Obs
  | .burtc => (BURTC_IRQHandler m, [.irq m])
  | .alive_cb => (alive_cb m, [])
  | .iadc data => (IADC_IRQHandler data m, [])
  | .permissions r env => processRequest r env m
  | .main env => radarAppAlgo env m

/-- The sensor from boot, with atomic main-loop iterations. -/
def loopMachine (unique : UInt64) : Machine Mem Ev Obs := ⟨boot unique, loopStep⟩

@[simp] theorem loopMachine_step (unique : UInt64) (m : Mem) (e : Ev) :
    (loopMachine unique).step m e = loopStep m e := rfl

/-! ## Sample events -/

/-- A sender whose calls all succeed. -/
def SenderEnv.accepted : SenderEnv where
  role := .CHILD
  newMessage := some 0
  token := []
  appendUriPathOptions := .OT_ERROR_NONE
  setPayloadMarker := .OT_ERROR_NONE
  append := .OT_ERROR_NONE
  sendRequest := .OT_ERROR_NONE

/-- A frame with the given presence; the light sensor is ready and the stack accepts. -/
def AlgoEnv.sample (detected : Bool) : AlgoEnv where
  frame := some ⟨detected, 0, 0⟩
  i2c := fun _ _ => 0x0080
  rssi := -60
  sender := .accepted

/-- The server's GET, answered. -/
def Ev.get : Ev :=
  .permissions ⟨.GET, [], [], 1, 2⟩
    ⟨some 0, .OT_ERROR_NONE, .OT_ERROR_NONE, .OT_ERROR_NONE⟩

end OtIpr
