/-
  Message buffers over histories of `appCoapRadarSender` and `appCoapPermissionsHandler` calls.

  A message is acquired by `otCoapNewMessage`, used by the calls that fill it, and released by
  `otMessageFree` or by a send that the stack accepts. The handler checks its allocation; on
  every path it releases what it acquired (`handler_clean`). So does the sender when it gets a
  message (`sender_clean`), but it does not check: a failed allocation is filled all the same
  (`sender_uses_null`). `buffers_accounted_iff` puts the two together.
-/
import OtIpr.Coap.Permissions
import OtIpr.Coap.Sender
import OtIpr.Lib.Machine
import OtIpr.Lib.Ownership

namespace OtIpr

open Lib

/-- A call of one of the two functions. -/
inductive CoapEv where
  | send (env : SenderEnv) (buf : List Char) (require_ack : Bool)
  | request (r : Request) (env : ResponseEnv)

def coapStep (c : Coap) : CoapEv → Coap × List OtCall
  | .send env buf require_ack => appCoapRadarSender c env buf require_ack
  | .request r env => appCoapPermissionsHandler c r env

/-- The client from boot. -/
def coapMachine : Machine Coap CoapEv OtCall := ⟨.boot, coapStep⟩

/-- What a call does to the ownership of messages. NULL is never acquired. -/
def OtCall.actions : OtCall → List (Action MsgPtr)
  | .otCoapNewMessage none => []
  | .otCoapNewMessage (some m) => [.acquire (some m)]
  | .otCoapMessageInit m _ _ => [.use m]
  | .otCoapMessageInitResponse m _ _ => [.use m]
  | .otCoapMessageSetToken m _ => [.use m]
  | .otCoapMessageGenerateToken m => [.use m]
  | .otCoapMessageSetPayloadMarker m _ => [.use m]
  | .otCoapMessageAppendUriPathOptions m _ _ => [.use m]
  | .otMessageAppend m _ _ => [.use m]
  | .otCoapMessageSetCode m _ => [.use m]
  | .otCoapSendResponse m _ error => if error = .OT_ERROR_NONE then [.release m] else [.use m]
  | .otCoapSendRequestWithParameters m _ _ error =>
    if error = .OT_ERROR_NONE then [.release m] else [.use m]
  | .otMessageFree m => [.release m]
  | _ => []

/-- Every action on a message, in order. -/
def messageActions (calls : List OtCall) : List (Action MsgPtr) := calls.flatMap OtCall.actions

/-- Messages are acquired, used and released as they should: every message that is acquired is
    released once before its pointer is handed out again, and NULL is never touched. -/
structure BuffersAccounted (calls : List OtCall) : Prop where
  clean : Clean (messageActions calls)
  once : ∀ a m b, messageActions calls = a ++ .acquire m :: b →
    ∃ c d, b = c ++ .release m :: d ∧ .acquire m ∉ c ∧ .release m ∉ c
  noNull : .use none ∉ messageActions calls ∧ .release none ∉ messageActions calls

/-- Every send of the history gets its message. -/
def SendsAllocated (es : List CoapEv) : Prop :=
  ∀ env buf require_ack, .send env buf require_ack ∈ es → env.newMessage ≠ none

theorem messageActions_append (a b : List OtCall) :
    messageActions (a ++ b) = messageActions a ++ messageActions b := List.flatMap_append

/-- NULL is never acquired. -/
theorem acquire_null_not_mem (calls : List OtCall) :
    Action.acquire (none : MsgPtr) ∉ messageActions calls := by
  intro h
  obtain ⟨c, -, hc⟩ := List.mem_flatMap.mp h
  cases c with
  | otCoapNewMessage m => cases m <;> simp [OtCall.actions] at hc
  | otCoapSendResponse m r e => simp only [OtCall.actions] at hc; split_ifs at hc <;> simp at hc
  | otCoapSendRequestWithParameters m r a e =>
    simp only [OtCall.actions] at hc; split_ifs at hc <;> simp at hc
  | _ => simp [OtCall.actions] at hc

theorem BuffersAccounted.of_clean {calls : List OtCall} (h : Clean (messageActions calls)) :
    BuffersAccounted calls where
  clean := h
  once _ _ _ hsplit := h.released_once hsplit
  noNull := h.untouched (acquire_null_not_mem calls)

/-! ## One call -/

/-- The handler releases what it acquires, on every path. -/
theorem handler_clean (c : Coap) (r : Request) (env : ResponseEnv) :
    Clean (messageActions (appCoapPermissionsHandler c r env).2) := by
  unfold appCoapPermissionsHandler respond
  cases hm : env.newMessage with
  | none => rfl
  | some m =>
    dsimp only
    by_cases hget : r.code = .GET <;> by_cases happ : env.append = .OT_ERROR_NONE <;>
      by_cases hsend : env.sendResponse = .OT_ERROR_NONE <;>
      simp [hget, happ, hsend, messageActions, OtCall.actions, Clean, holding, Action.apply]

theorem check_actions (c : Coap) (role : OtDeviceRole) :
    messageActions (appCoapCheckConnection c role).2 = [] := by
  unfold appCoapCheckConnection
  split_ifs <;> rfl

/-- Filling and sending a message that is held gives it away exactly if no call fails. -/
theorem fillAndSend_holding (c : Coap) {env : SenderEnv} (buf : List Char) (t : OtCoapType)
    {m : ℕ} (hm : env.newMessage = some m) :
    holding (messageActions (fillAndSend c env buf t).2) [some m] =
      some (if (fillAndSend c env buf t).1 = .OT_ERROR_NONE then [] else [some m]) := by
  unfold fillAndSend
  rw [hm]
  dsimp only
  split_ifs <;> simp_all [messageActions, OtCall.actions, holding, Action.apply]

/-- A sender that gets a message releases it, on every path. -/
theorem sender_clean (c : Coap) {env : SenderEnv} (buf : List Char) (require_ack : Bool)
    (h : env.newMessage ≠ none) :
    Clean (messageActions (appCoapRadarSender c env buf require_ack).2) := by
  obtain ⟨m, hm⟩ := Option.ne_none_iff_exists'.mp h
  have hnew : ∀ calls, holding (messageActions (.otCoapNewMessage (some m) :: calls)) [] =
      holding (messageActions calls) [some m] := fun _ => rfl
  unfold Clean appCoapRadarSender
  dsimp only
  rw [List.append_assoc, messageActions_append, check_actions, List.nil_append, hm,
    List.cons_append, hnew, messageActions_append, holding_append, fillAndSend_holding _ _ _ hm,
    Option.bind_some, fillAndSend_error]
  by_cases herror : sendError env buf = .OT_ERROR_NONE
  · simp [herror, messageActions, holding]
  · simp [herror, messageActions, OtCall.actions, holding, Action.apply]

/-- A sender without a message uses NULL. -/
theorem sender_uses_null (c : Coap) {env : SenderEnv} (buf : List Char) (require_ack : Bool)
    (h : env.newMessage = none) :
    .use none ∈ messageActions (appCoapRadarSender c env buf require_ack).2 := by
  have hfill : ∀ c' t, .otCoapMessageInit none t .PUT ∈ (fillAndSend c' env buf t).2 := by
    intro c' t
    unfold fillAndSend
    rw [h]
    dsimp only
    split_ifs <;> simp
  have hinit : .otCoapMessageInit none (if require_ack then .CONFIRMABLE else .NON_CONFIRMABLE)
      .PUT ∈ (appCoapRadarSender c env buf require_ack).2 := by
    unfold appCoapRadarSender
    simp [hfill]
  exact List.mem_flatMap.mpr ⟨_, hinit, List.mem_cons_self⟩

/-! ## Histories -/

theorem coapStep_clean (c : Coap) {e : CoapEv}
    (h : ∀ env buf require_ack, e = .send env buf require_ack → env.newMessage ≠ none) :
    Clean (messageActions (coapStep c e).2) := by
  cases e with
  | send env buf require_ack => exact sender_clean c buf require_ack (h _ _ _ rfl)
  | request r env => exact handler_clean c r env

/-- The message buffers of a history are accounted for exactly if every send gets its message. -/
theorem buffers_accounted_iff (es : List CoapEv) :
    BuffersAccounted (coapMachine.trace es) ↔ SendsAllocated es := by
  constructor
  · intro h env buf require_ack hmem hnull
    obtain ⟨pre, post, rfl⟩ := List.append_of_mem hmem
    have huse := sender_uses_null (coapMachine.state pre) buf require_ack hnull
    obtain ⟨call, hcall, hact⟩ := List.mem_flatMap.mp huse
    refine h.noNull.1 (List.mem_flatMap.mpr ⟨call, ?_, hact⟩)
    exact coapMachine.mem_trace_of_step (e := .send env buf require_ack)
      ⟨post, by simp⟩ hcall
  · intro h
    refine BuffersAccounted.of_clean ?_
    induction es using List.reverseRecOn with
    | nil => exact clean_nil
    | append_singleton es e ih =>
      rw [Machine.trace_snoc, messageActions_append]
      refine (ih fun env buf require_ack hmem => ?_).append (coapStep_clean _ ?_)
      · exact h env buf require_ack (List.mem_append_left _ hmem)
      · rintro env buf require_ack rfl
        exact h env buf require_ack (List.mem_append_right _ List.mem_cons_self)

/-- A send whose message is not allocated; the stack refuses NULL. -/
def unallocated : CoapEv :=
  .send ⟨.CHILD, none, [], .other 7, .OT_ERROR_NONE, .OT_ERROR_NONE, .OT_ERROR_NONE⟩
    ['1', NUL] true

theorem buffers_not_accounted : ¬ BuffersAccounted (coapMachine.trace [unallocated]) := by
  intro h
  exact absurd h.clean (by decide)

end OtIpr
