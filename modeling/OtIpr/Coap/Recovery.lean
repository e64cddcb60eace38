/-
  Recovery after failed sends, over histories of `appCoapRadarSender` calls on an established
  connection, with the device a child and every message allocated (`ChildSend`).

  A failed send with a message at hand sets `appCoapFailCtr` to 0 before it counts the
  failure. The counter never exceeds 1 (`Healthy`), and the recovery branch of
  `appCoapCheckConnection` is never taken by the counter (`not_recovers`).
-/
import OtIpr.Coap.Permissions
import OtIpr.Coap.Sender

namespace OtIpr

open Lib

/-- A call of the sender as a child, with its message allocated. -/
structure ChildSend where
  env : SenderEnv
  buf : List Char
  require_ack : Bool
  child : env.role = .CHILD
  allocated : env.newMessage ≠ none

/-- The send ends with an error. -/
def ChildSend.Failed (s : ChildSend) : Prop := sendError s.env s.buf ≠ .OT_ERROR_NONE

instance (s : ChildSend) : Decidable s.Failed := inferInstanceAs (Decidable (_ ≠ _))

/-- The globals after the handshake. -/
def connected (r : Request) (renv : ResponseEnv) : Coap :=
  (appCoapPermissionsHandler .boot r renv).1

/-- The globals after one send, and after a history of sends. -/
def afterSend (c : Coap) (s : ChildSend) : Coap :=
  (appCoapRadarSender c s.env s.buf s.require_ack).1

def afterSends (c : Coap) (ss : List ChildSend) : Coap := ss.foldl afterSend c

/-- The check at the start of a send executes the recovery branch. -/
def Recovers (c : Coap) : Prop :=
  appCoapCheckConnection c .CHILD = ({ c with appCoapFailCtr := 0 }, recovery)

instance (c : Coap) : Decidable (Recovers c) := inferInstanceAs (Decidable (_ = _))

/-- The consecutive failed sends since the last recovery, from `n` before the history. -/
def failures (c : Coap) (n : ℕ) : List ChildSend → ℕ
  | [] => n
  | s :: ss =>
    let n := if Recovers c then 0 else n
    failures (afterSend c s) (if s.Failed then n + 1 else 0) ss

/-- Established, and the counter at most 1. -/
structure Healthy (c : Coap) : Prop where
  established : c.appCoapConnectionEstablished = true
  failCtr_le : c.appCoapFailCtr ≤ 1

theorem healthy_connected (r : Request) (renv : ResponseEnv) : Healthy (connected r renv) := by
  obtain ⟨hest, -, -, hctr⟩ := handler_writes .boot r renv
  refine ⟨hest, ?_⟩
  unfold connected
  rw [hctr]
  decide

/-- A healthy child passes the check. -/
theorem check_of_healthy {c : Coap} (h : Healthy c) :
    appCoapCheckConnection c .CHILD = (c, []) := by
  have hctr : ¬ c.appCoapFailCtr > 10 := by
    have := h.failCtr_le
    exact fun hgt => absurd (UInt32.lt_of_lt_of_le hgt this) (by decide)
  unfold appCoapCheckConnection
  simp [h.established, hctr]

theorem not_recovers {c : Coap} (h : Healthy c) : ¬ Recovers c := by
  unfold Recovers
  rw [check_of_healthy h]
  intro heq
  have hcalls : [] = recovery := congrArg Prod.snd heq
  exact absurd hcalls (by decide)

theorem healthy_afterSend {c : Coap} (s : ChildSend) (h : Healthy c) :
    Healthy (afterSend c s) := by
  have hctr := sender_failCtr c s.env s.buf s.require_ack
  obtain ⟨n, hn⟩ := sender_frame c s.env s.buf s.require_ack
  rw [s.child, check_of_healthy h, if_neg s.allocated] at hctr
  refine ⟨?_, ?_⟩
  · unfold afterSend
    rw [hn]
    exact h.established
  · unfold afterSend
    rw [hctr]
    split_ifs
    · exact h.failCtr_le
    · decide

theorem healthy_afterSends {c : Coap} (ss : List ChildSend) (h : Healthy c) :
    Healthy (afterSends c ss) := by
  induction ss generalizing c with
  | nil => exact h
  | cons s ss ih => exact ih (healthy_afterSend s h)

/-- Eleven consecutive failures never trigger the recovery: the next check recovers after them
    only in histories that have fewer. The counter does not get past 1. -/
theorem recovery_iff (r : Request) (renv : ResponseEnv) (ss : List ChildSend) :
    ((11 ≤ failures (connected r renv) 0 ss → Recovers (afterSends (connected r renv) ss)) ↔
      failures (connected r renv) 0 ss < 11) ∧
    (afterSends (connected r renv) ss).appCoapFailCtr ≤ 1 := by
  have hhealthy := healthy_afterSends ss (healthy_connected r renv)
  have hnot := not_recovers hhealthy
  refine ⟨⟨?_, ?_⟩, hhealthy.failCtr_le⟩
  · intro h
    exact Nat.lt_of_not_le fun hge => hnot (h hge)
  · intro hlt hge
    omega

/-- A send whose request is refused by the stack. -/
def refused : ChildSend where
  env := ⟨.CHILD, some 0, [], .OT_ERROR_NONE, .OT_ERROR_NONE, .OT_ERROR_NONE, .OT_ERROR_NO_BUFS⟩
  buf := ['1', NUL]
  require_ack := true
  child := rfl
  allocated := by decide

/-- The server's GET, answered. -/
def firstGet : Request × ResponseEnv :=
  (⟨.GET, [], [], 1, 2⟩, ⟨some 0, .OT_ERROR_NONE, .OT_ERROR_NONE, .OT_ERROR_NONE⟩)

/-- Eleven refused sends, and the next check does not recover. -/
theorem no_recovery :
    ¬ (11 ≤ failures (connected firstGet.1 firstGet.2) 0 (List.replicate 11 refused) →
      Recovers (afterSends (connected firstGet.1 firstGet.2) (List.replicate 11 refused))) := by
  intro h
  exact absurd (h (by decide +kernel)) (by decide +kernel)

end OtIpr
