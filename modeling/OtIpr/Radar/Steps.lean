/-
  The sensor as a machine whose main loop runs statement by statement.

  `Pc` is where the main loop stands: each value is one statement of `radarAppAlgo`, or one
  read of a volatile flag in its conditions. A `main` event runs that statement; an interrupt
  may come at any of them, also while `acc_detector_presence_get_next` blocks (`inGetNext`).
  Requests on the permissions resource are handled between two calls (`processAction`).
  `sysStep_cases` says once what an event can do; invariants are derived from it.

  `loop_embeds`: a run of `loopMachine` is a run of this machine in which no interrupt comes
  during a call, with the same observations. What holds of every run here holds there.
-/
import OtIpr.Radar.Loop

namespace OtIpr

open Lib

/-- Where the main loop stands, by the line of main.c it runs next. -/
inductive Pc where
  /-- Line 381: `app_process_action`, between two calls of `radarAppAlgo`. -/
  | processAction
  /-- Line 263. -/
  | testClear
  /-- Line 267: the call starts. -/
  | getNext
  /-- Line 267: the call blocks, then returns. -/
  | inGetNext
  /-- Line 271. -/
  | clearFlag
  /-- Line 276, the four reads. -/
  | testEstablished
  | testActive
  | testRequire
  | testInactive
  /-- Lines 278, 279 and 281; `opt_buf` and `rssi` are the locals. -/
  | readOpt
  | clearBuffer (opt_buf : ℚ)
  | readRssi (opt_buf : ℚ)
  /-- Line 295. -/
  | format (opt_buf : ℚ) (rssi : Int8)
  /-- Line 300. -/
  | testBranch
  /-- Lines 302-305. -/
  | clearRequire
  | clearActive
  | clearInactive
  | sendInactive
  /-- Lines 309-311. -/
  | setRequire
  | clearActiveSent
  | sendActive
  /-- Line 314. -/
  | testAlive
  /-- Line 316. -/
  | clearAlive
  /-- Lines 317, 318 and 320. -/
  | readOptAlive
  | clearBufferAlive (opt_buf : ℚ)
  | readRssiAlive (opt_buf : ℚ)
  /-- Line 334. -/
  | formatAlive (opt_buf : ℚ) (rssi : Int8)
  /-- Line 339. -/
  | sendAlive
  deriving DecidableEq

structure Sys where
  mem : Mem
  pc : Pc

/-- The statement at `pc`. -/
def mainStep (env : AlgoEnv) (s : Sys) : Sys × List Obs :=
  let m := s.mem
  match s.pc with
  | .processAction => (⟨m, .testClear⟩, [])
  | .testClear =>
    (⟨m, if m.radarAppVars.clearToMeasure then .getNext else .testEstablished⟩, [])
  | .getNext => (⟨m, .inGetNext⟩, [.getNext])
  | .inGetNext => (⟨{ m with result := env.frame.getD m.result }, .clearFlag⟩, [.frame env.frame])
  | .clearFlag =>
    (⟨{ m with radarAppVars := { m.radarAppVars with clearToMeasure := false } },
      .testEstablished⟩, [])
  | .testEstablished =>
    (⟨m, if m.coap.appCoapConnectionEstablished then .testActive else .testAlive⟩, [])
  | .testActive => (⟨m, if m.radarCoapSendActive then .testRequire else .testInactive⟩, [])
  | .testRequire =>
    (⟨m, if m.radarCoapRequireInactivation then .testInactive else .readOpt⟩, [])
  | .testInactive => (⟨m, if m.radarCoapSendInactive then .readOpt else .testAlive⟩, [])
  | .readOpt => (⟨m, .clearBuffer (opt3001_conv (opt3001_read env.i2c))⟩, [])
  | .clearBuffer opt_buf => (⟨clearTxBuffer m, .readRssi opt_buf⟩, [])
  | .readRssi opt_buf => (⟨m, .format opt_buf env.rssi⟩, [])
  | .format opt_buf rssi => (⟨formatPayload (stateDigit m) opt_buf rssi m, .testBranch⟩, [])
  | .testBranch => (⟨m, if m.radarCoapSendInactive then .clearRequire else .setRequire⟩, [])
  | .clearRequire =>
    (⟨{ m with radarCoapRequireInactivation := false }, .clearActive⟩, [.setRequire false m])
  | .clearActive => (⟨{ m with radarCoapSendActive := false }, .clearInactive⟩, [])
  | .clearInactive => (⟨{ m with radarCoapSendInactive := false }, .sendInactive⟩, [])
  | .sendInactive =>
    (⟨(callSender .inactive true env.sender m).1, .processAction⟩,
      (callSender .inactive true env.sender m).2)
  | .setRequire =>
    (⟨{ m with radarCoapRequireInactivation := true }, .clearActiveSent⟩, [.setRequire true m])
  | .clearActiveSent => (⟨{ m with radarCoapSendActive := false }, .sendActive⟩, [])
  | .sendActive =>
    (⟨(callSender .active true env.sender m).1, .processAction⟩,
      (callSender .active true env.sender m).2)
  | .testAlive => (⟨m, if AliveDue m then .clearAlive else .processAction⟩, [])
  | .clearAlive => (⟨{ m with appCoapSendAlive := false }, .readOptAlive⟩, [])
  | .readOptAlive => (⟨m, .clearBufferAlive (opt3001_conv (opt3001_read env.i2c))⟩, [])
  | .clearBufferAlive opt_buf => (⟨clearTxBuffer m, .readRssiAlive opt_buf⟩, [])
  | .readRssiAlive opt_buf => (⟨m, .formatAlive opt_buf env.rssi⟩, [])
  | .formatAlive opt_buf rssi => (⟨formatPayload (-1) opt_buf rssi m, .sendAlive⟩, [])
  | .sendAlive =>
    (⟨(callSender .alive false env.sender m).1, .processAction⟩,
      (callSender .alive false env.sender m).2)

/-- One event; a `main` event is one statement. A request waits for `processAction`. -/
def sysStep (s : Sys) : Ev → Sys × List Obs
  | .burtc => (⟨BURTC_IRQHandler s.mem, s.pc⟩, [.irq s.mem])
  | .alive_cb => (⟨alive_cb s.mem, s.pc⟩, [])
  | .iadc data => (⟨IADC_IRQHandler data s.mem, s.pc⟩, [])
  | .permissions r env =>
    if s.pc = .processAction then
      (⟨(processRequest r env s.mem).1, s.pc⟩, (processRequest r env s.mem).2)
    else (s, [])
  | .main env => mainStep env s

/-- What one event can do: an interrupt of the timer, a statement, or neither. Then the main
    loop stays where it is, three globals may change, and only calls of the stack are shown. -/
theorem sysStep_cases (s : Sys) (e : Ev) :
    e = .burtc ∨ (∃ env, e = .main env) ∨ ∃ alive vdd coap, ∃ calls : List OtCall,
      sysStep s e =
        (⟨{ s.mem with appCoapSendAlive := alive, vdd_meas := vdd, coap := coap }, s.pc⟩,
          calls.map .call) := by
  cases e with
  | burtc => exact Or.inl rfl
  | alive_cb => exact Or.inr (Or.inr ⟨_, _, _, [], rfl⟩)
  | iadc data => exact Or.inr (Or.inr ⟨_, _, _, [], rfl⟩)
  | permissions r env =>
    refine Or.inr (Or.inr ?_)
    simp only [sysStep]
    split_ifs
    · exact ⟨_, _, _, _, rfl⟩
    · exact ⟨_, _, _, [], rfl⟩
  | main env => exact Or.inr (Or.inl ⟨env, rfl⟩)

/-- The sensor from boot, statement by statement. -/
def sysMachine (unique : UInt64) : Machine Sys Ev Obs := ⟨⟨boot unique, .processAction⟩, sysStep⟩

@[simp] theorem sysMachine_step (unique : UInt64) (s : Sys) (e : Ev) :
    (sysMachine unique).step s e = sysStep s e := rfl

/-! ## Atomic iterations are runs of statements -/

/-- `k` statements in a row. -/
abbrev stmts (k : ℕ) (env : AlgoEnv) : List Ev := List.replicate k (.main env)

variable (unique : UInt64)

/-- A run of statements from `s` ends in `t` and shows `os`. -/
def Runs (env : AlgoEnv) (s t : Sys) (os : List Obs) : Prop :=
  ∃ k, (sysMachine unique).runFrom s (stmts k env) = t ∧
    (sysMachine unique).traceFrom s (stmts k env) = os

/-- One statement, then the rest. -/
theorem Runs.cons {env : AlgoEnv} {s t : Sys} {os : List Obs}
    (h : Runs unique env (mainStep env s).1 t os) :
    Runs unique env s t ((mainStep env s).2 ++ os) := by
  obtain ⟨k, hrun, htrace⟩ := h
  refine ⟨k + 1, hrun, ?_⟩
  rw [← htrace]
  rfl

theorem Runs.trans {env : AlgoEnv} {s t u : Sys} {os ps : List Obs}
    (h : Runs unique env s t os) (h' : Runs unique env t u ps) :
    Runs unique env s u (os ++ ps) := by
  obtain ⟨j, rfl, rfl⟩ := h
  obtain ⟨k, rfl, rfl⟩ := h'
  refine ⟨j + k, ?_, ?_⟩
  · rw [stmts, List.replicate_add, Machine.runFrom_append]
  · rw [stmts, List.replicate_add, Machine.traceFrom_append]

/-- Lines 263-273. -/
theorem runs_measure (env : AlgoEnv) (m : Mem) :
    Runs unique env ⟨m, .testClear⟩ ⟨(measure env m).1, .testEstablished⟩ (measure env m).2 := by
  rcases measure_cases env m with ⟨hc, hm⟩ | ⟨hc, hm⟩
  · rw [hm]
    refine ⟨4, ?_, ?_⟩ <;>
      simp [stmts, Machine.runFrom, Machine.traceFrom, List.replicate_succ, sysStep, mainStep, hc]
  · rw [hm]
    refine ⟨1, ?_, ?_⟩ <;>
      simp [stmts, Machine.runFrom, Machine.traceFrom, sysStep, mainStep, hc]

/-- Line 276. -/
theorem runs_test (env : AlgoEnv) (m : Mem) :
    Runs unique env ⟨m, .testEstablished⟩
      ⟨m, if StatePending m then .readOpt else .testAlive⟩ [] := by
  cases hest : m.coap.appCoapConnectionEstablished with
  | false =>
    refine ⟨1, ?_, ?_⟩ <;>
      simp [stmts, Machine.runFrom, Machine.traceFrom, sysStep, mainStep, StatePending, hest]
  | true =>
    cases ha : m.radarCoapSendActive with
    | false =>
      refine ⟨3, ?_, ?_⟩ <;>
        simp [stmts, Machine.runFrom, Machine.traceFrom, List.replicate_succ, sysStep, mainStep,
          StatePending, hest, ha]
    | true =>
      cases hr : m.radarCoapRequireInactivation with
      | false =>
        refine ⟨3, ?_, ?_⟩ <;>
          simp [stmts, Machine.runFrom, Machine.traceFrom, List.replicate_succ, sysStep, mainStep,
            StatePending, hest, ha, hr]
      | true =>
        refine ⟨4, ?_, ?_⟩ <;>
          simp [stmts, Machine.runFrom, Machine.traceFrom, List.replicate_succ, sysStep, mainStep,
            StatePending, hest, ha, hr]

/-- Lines 278-312. -/
theorem runs_notifyState (env : AlgoEnv) (m : Mem) :
    Runs unique env ⟨m, .readOpt⟩ ⟨(notifyState env m).1, .processAction⟩
      (notifyState env m).2 := by
  cases hi : m.radarCoapSendInactive with
  | true =>
    refine ⟨9, ?_, ?_⟩ <;>
      simp [stmts, Machine.runFrom, Machine.traceFrom, List.replicate_succ, sysStep, mainStep,
        notifyState, notifyInactive, formatPayload, clearTxBuffer, hi]
  | false =>
    refine ⟨8, ?_, ?_⟩ <;>
      simp [stmts, Machine.runFrom, Machine.traceFrom, List.replicate_succ, sysStep, mainStep,
        notifyState, notifyActive, formatPayload, clearTxBuffer, hi]

/-- Lines 314-340. -/
theorem runs_alive (env : AlgoEnv) (m : Mem) :
    Runs unique env ⟨m, .testAlive⟩
      ⟨(if AliveDue m then notifyAlive env m else (m, [])).1, .processAction⟩
      (if AliveDue m then notifyAlive env m else (m, [])).2 := by
  by_cases hal : AliveDue m
  · refine ⟨7, ?_, ?_⟩ <;>
      simp [stmts, Machine.runFrom, Machine.traceFrom, List.replicate_succ, sysStep, mainStep,
        notifyAlive, hal]
  · refine ⟨1, ?_, ?_⟩ <;>
      simp [stmts, Machine.runFrom, Machine.traceFrom, sysStep, mainStep, hal]

/-- Lines 276-340. -/
theorem runs_transmit (env : AlgoEnv) (m : Mem) :
    Runs unique env ⟨m, .testEstablished⟩ ⟨(transmit env m).1, .processAction⟩
      (transmit env m).2 := by
  have htest := runs_test unique env m
  unfold transmit
  by_cases hp : StatePending m
  · rw [if_pos hp] at htest ⊢
    exact htest.trans unique (runs_notifyState unique env m)
  · rw [if_neg hp] at htest ⊢
    exact htest.trans unique (runs_alive unique env m)

/-- A call of `radarAppAlgo` is a run of its statements. -/
theorem runs_radarAppAlgo (env : AlgoEnv) (m : Mem) :
    Runs unique env ⟨m, .processAction⟩ ⟨(radarAppAlgo env m).1, .processAction⟩
      (radarAppAlgo env m).2 :=
  Runs.cons unique
    ((runs_measure unique env m).trans unique (runs_transmit unique env (measure env m).1))

/-- Atomic iterations are runs of statements with no interrupt in between. -/
theorem loop_embeds :
    Embedding (loopMachine unique) (sysMachine unique) (fun m => ⟨m, .processAction⟩) where
  init := rfl
  step m e := by
    cases e with
    | main env =>
      obtain ⟨k, hrun, htrace⟩ := runs_radarAppAlgo unique env m
      exact ⟨stmts k env, hrun, htrace⟩
    | burtc => exact ⟨[.burtc], rfl, rfl⟩
    | alive_cb => exact ⟨[.alive_cb], rfl, rfl⟩
    | iadc data => exact ⟨[.iadc data], rfl, rfl⟩
    | permissions r env =>
      refine ⟨[.permissions r env], rfl, ?_⟩
      exact List.append_nil _

end OtIpr
