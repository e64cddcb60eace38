/-
  main.c, `initRadar` and `update_configuration`, and the measurements that follow.

  The radar library comes with a contract in its headers: nothing before a successful
  `acc_rss_activate`, no null pointers but where the header allows them, arguments in range,
  no measurement without an activated detector. `rssContract` checks calls against it.

  `initRadar` goes on after each of its errors. `rss_contract_iff`: over a whole run the
  contract is kept exactly if all four steps of the initialisation succeed, or only the last
  one fails and nothing is ever measured. And measurements come: an interrupt of the timer
  that does not fall into one is followed by a new one (`interrupt_measured`).
-/
import OtIpr.Radar.Measurement
import OtIpr.Radar.Response

namespace OtIpr

open Lib

variable {unique : UInt64}

/-! ## The library -/

/-- The setters that `update_configuration` calls, with their arguments. -/
inductive PresenceSetting where
  | update_rate (v : ℚ)
  | detection_threshold (v : ℚ)
  | start (v : ℚ)
  | length (v : ℚ)
  | power_save_mode_off
  | nbr_removed_pc (n : ℕ)
  | service_profile (n : ℕ)
  | hw_accelerated_average_samples (n : ℕ)
deriving Repr, DecidableEq

/-- A call of the library. A pointer argument is whether it is not NULL, and so is the result
    of a function that creates something. -/
inductive RssCall where
  | rss_activate (ok : Bool)
  | rss_deactivate
  | configuration_create (ok : Bool)
  | configuration_set (configuration : Bool) (setting : PresenceSetting)
  | configuration_destroy (configuration : Bool)
  | presence_create (configuration ok : Bool)
  | presence_activate (handle ok : Bool)
  | presence_destroy (handle : Bool)
  | get_next (handle : Bool)
deriving Repr, DecidableEq

/-- The ranges of acc_detector_presence.h. -/
def PresenceSetting.valid : PresenceSetting → Bool
  | .nbr_removed_pc n => n ≤ 2
  | .service_profile n => 1 ≤ n && n ≤ 5
  | .hw_accelerated_average_samples n => 1 ≤ n && n ≤ 63
  | _ => true

/-- The library as its headers describe it. -/
structure RssState where
  active : Bool
  activated : Bool      -- the presence detector
deriving Repr, DecidableEq

/-- Whether a call is allowed, and what it does. Before a successful `acc_rss_activate` any
    other call is undefined behaviour. -/
def rssContract (s : RssState) : RssCall → Option RssState
  | .rss_activate ok => some { s with active := ok }
  | .rss_deactivate => if s.active then some ⟨false, false⟩ else none
  | .configuration_create _ => if s.active then some s else none
  | .configuration_set configuration setting =>
    if s.active && configuration && setting.valid then some s else none
  | .configuration_destroy configuration => if s.active && configuration then some s else none
  | .presence_create configuration _ => if s.active && configuration then some s else none
  | .presence_activate handle ok =>
    if s.active && handle then some { s with activated := ok } else none
  | .presence_destroy handle =>
    if s.active then some { s with activated := s.activated && !handle } else none
  | .get_next handle => if s.active && handle && s.activated then some s else none

/-! ## The code -/

def DEFAULT_START_M : ℚ := flt (2 / 10)
def DEFAULT_LENGTH_M : ℚ := flt (155 / 100)
def DEFAULT_UPDATE_RATE : ℚ := 1
def DEFAULT_DETECTION_THRESHOLD : ℚ := 2
def DEFAULT_NBR_REMOVED_PC : ℕ := 1
def DEFAULT_SERVICE_PROFILE : ℕ := 4

/-- `update_configuration(presence_configuration)` -/
def update_configuration (presence_configuration : Bool) : List RssCall :=
  [.update_rate DEFAULT_UPDATE_RATE,
    .detection_threshold DEFAULT_DETECTION_THRESHOLD,
    .start DEFAULT_START_M,
    .length DEFAULT_LENGTH_M,
    .power_save_mode_off,
    .nbr_removed_pc DEFAULT_NBR_REMOVED_PC,
    .service_profile DEFAULT_SERVICE_PROFILE,
    .hw_accelerated_average_samples 63].map (.configuration_set presence_configuration)

/-- What the library answers `initRadar`. -/
structure RssEnv where
  rss_activate : Bool
  configuration_create : Bool
  presence_create : Bool
  presence_activate : Bool
deriving Repr, DecidableEq

/-- `initRadar()`: whether `handle` is not NULL in the end, and the calls. The destroy functions
    set their pointer to NULL. -/
def initRadar (env : RssEnv) : Bool × List RssCall :=
  let calls := [.rss_activate env.rss_activate]
  let presence_configuration := env.configuration_create
  let calls := calls ++ [.configuration_create presence_configuration]
  let calls := if !presence_configuration then calls ++ [.rss_deactivate] else calls
  let calls := calls ++ update_configuration presence_configuration
  let handle := env.presence_create
  let calls := calls ++ [.presence_create presence_configuration handle]
  let (presence_configuration, calls) :=
    if !handle then
      (false, calls ++ [.configuration_destroy presence_configuration, .rss_deactivate])
    else (presence_configuration, calls)
  let calls := calls ++ [.configuration_destroy presence_configuration]
  let calls := calls ++ [.presence_activate handle env.presence_activate]
  if !env.presence_activate then
    (false, calls ++ [.presence_destroy handle, .rss_deactivate])
  else (handle, calls)

/-- The call of a measurement: line 267 passes the global `handle`. -/
def Obs.rssCall (handle : Bool) : Obs → Option RssCall
  | .getNext => some (.get_next handle)
  | _ => none

/-- The calls of the library from boot: `initRadar`, and the measurements of a run. -/
def rssCalls (env : RssEnv) (os : List Obs) : List RssCall :=
  (initRadar env).2 ++ os.filterMap (Obs.rssCall (initRadar env).1)

/-- No call is undefined behaviour. -/
def RssContractKept (calls : List RssCall) : Prop :=
  (calls.foldlM rssContract ⟨false, false⟩).isSome = true

/-! ## The initialisation -/

/-- All steps before the activation of the detector succeed. -/
def RssEnv.created (env : RssEnv) : Bool :=
  env.rss_activate && env.configuration_create && env.presence_create

/-- The state `initRadar` leaves the library in: nothing, if the contract was broken. -/
theorem initRadar_contract (env : RssEnv) :
    (initRadar env).2.foldlM rssContract ⟨false, false⟩ =
      if env.created then some ⟨env.presence_activate, env.presence_activate⟩ else none := by
  obtain ⟨a, c, p, v⟩ := env
  cases a <;> cases c <;> cases p <;> cases v <;> rfl

theorem initRadar_handle (env : RssEnv) :
    (initRadar env).1 = (env.presence_activate && env.presence_create) := by
  obtain ⟨a, c, p, v⟩ := env
  cases v <;> rfl

/-! ## The measurements -/

/-- Measurements of an activated detector keep the contract, any other one breaks it. -/
theorem measurements_contract (handle v : Bool) (os : List Obs) :
    ((os.filterMap (Obs.rssCall handle)).foldlM rssContract ⟨v, v⟩).isSome = true ↔
      (handle && v) = true ∨ .getNext ∉ os := by
  induction os with
  | nil => simp
  | cons o os ih =>
    cases o with
    | getNext =>
      show ((.get_next handle :: os.filterMap (Obs.rssCall handle)).foldlM rssContract
        ⟨v, v⟩).isSome = true ↔ _
      rw [List.foldlM_cons]
      cases handle <;> cases v <;> simp_all [rssContract]
    | _ =>
      rw [List.filterMap_cons_none rfl, ih]
      simp

/-- A measurement is due: the interrupt has asked for it, and it was not begun. -/
structure MeasureDue (s : Sys) : Prop where
  asked : s.mem.radarAppVars.clearToMeasure = true
  outside : ¬ Measuring s.pc

/-- The statements up to the measurement, when it is due. -/
def Pc.toGetNext : Pc → ℕ
  | .getNext => 0
  | .testClear => 1
  | .processAction => 2
  | .sendInactive | .sendActive | .sendAlive => 3
  | .clearInactive | .clearActiveSent | .formatAlive _ _ => 4
  | .clearActive | .setRequire | .readRssiAlive _ => 5
  | .clearRequire | .clearBufferAlive _ => 6
  | .testBranch | .readOptAlive => 7
  | .format _ _ | .clearAlive => 8
  | .readRssi _ | .testAlive => 9
  | .clearBuffer _ => 10
  | .readOpt => 11
  | .testInactive => 12
  | .testRequire => 13
  | .testActive => 14
  | .testEstablished => 15
  | .inGetNext | .clearFlag => 0

theorem measureDue_mainStep (env : AlgoEnv) {s : Sys} (h : MeasureDue s) :
    (∃ o ∈ (mainStep env s).2, o = .getNext) ∨
      (MeasureDue (mainStep env s).1 ∧ (mainStep env s).1.pc.toGetNext < s.pc.toGetNext) := by
  obtain ⟨hasked, houtside⟩ := h
  obtain ⟨m, pc⟩ := s
  cases pc with
  | getNext => exact Or.inl ⟨_, List.mem_cons_self, rfl⟩
  | inGetNext => exact absurd (Or.inl rfl) houtside
  | clearFlag => exact absurd (Or.inr rfl) houtside
  | testClear =>
    have hm : m.radarAppVars.clearToMeasure = true := hasked
    exact Or.inr ⟨⟨hasked, by simp [mainStep, hm, Measuring]⟩, by simp [mainStep, hm, Pc.toGetNext]⟩
  | testEstablished | testActive | testRequire | testInactive | testBranch | testAlive =>
    refine Or.inr ⟨⟨hasked, ?_⟩, ?_⟩
    · simp only [mainStep, Measuring]
      split <;> simp
    · simp only [mainStep]
      split <;> simp [Pc.toGetNext]
  | sendInactive | sendActive | sendAlive =>
    refine Or.inr ⟨⟨?_, by simp [mainStep, Measuring]⟩, by simp [mainStep, Pc.toGetNext]⟩
    -- the sender leaves the memory of main.c alone
    exact hasked
  | _ => exact Or.inr ⟨⟨hasked, by simp [mainStep, Measuring]⟩, by simp [mainStep, Pc.toGetNext]⟩

/-- After an interrupt of the timer outside a measurement a new one begins, within 16
    statements. -/
theorem interrupt_measured (unique : UInt64) (pre post : List Ev)
    (hpost : 16 ≤ post.countP Ev.isMain)
    (houtside : ¬ Measuring ((sysMachine unique).state pre).pc) :
    .getNext ∈ (sysMachine unique).traceFrom
      ((sysMachine unique).state (pre ++ [.burtc])) post := by
  rw [Machine.state_snoc]
  have hdue : MeasureDue (sysStep ((sysMachine unique).state pre) .burtc).1 :=
    ⟨irq_clearToMeasure _, houtside⟩
  have hrank : (sysStep ((sysMachine unique).state pre) .burtc).1.pc.toGetNext ≤ 15 := by
    cases (sysStep ((sysMachine unique).state pre) .burtc).1.pc <;> simp [Pc.toGetNext]
  obtain ⟨o, ho, rfl⟩ : ∃ o ∈ (sysMachine unique).traceFrom
      (sysStep ((sysMachine unique).state pre) .burtc).1 post, o = .getNext :=
    statements_respond MeasureDue Pc.toGetNext _ (fun _ env h => measureDue_mainStep env h)
      (fun s h => ⟨irq_clearToMeasure s.mem, h.outside⟩)
      (fun s alive vdd coap _ _ h => ⟨h.asked, h.outside⟩) hdue (by omega)
  exact ho

/-- When the contract of the radar library is kept, over the initialisation and any run after
    it: exactly if RSS is activated and the configuration and the detector are created, and
    the detector is activated or nothing is ever measured. And after any interrupt of the
    timer that does not fall into a measurement, a new one begins within 16 statements. -/
theorem rss_contract_iff (env : RssEnv) (unique : UInt64) (es : List Ev) :
    (RssContractKept (rssCalls env ((sysMachine unique).trace es)) ↔
      env.created = true ∧
        (env.presence_activate = true ∨ .getNext ∉ (sysMachine unique).trace es)) ∧
    ∀ pre post, es = pre ++ .burtc :: post → 16 ≤ post.countP Ev.isMain →
      ¬ Measuring ((sysMachine unique).state pre).pc →
        .getNext ∈ (sysMachine unique).traceFrom
          ((sysMachine unique).state (pre ++ [.burtc])) post := by
  refine ⟨?_, fun pre post _ hpost => interrupt_measured unique pre post hpost⟩
  unfold RssContractKept rssCalls
  rw [List.foldlM_append, initRadar_contract, initRadar_handle]
  cases hc : env.created with
  | false => simp
  | true =>
    have hp : env.presence_create = true := by
      unfold RssEnv.created at hc
      simp only [Bool.and_eq_true] at hc
      exact hc.2
    simp only [if_true, Option.bind_eq_bind, Option.bind_some, true_and]
    rw [measurements_contract, hp, Bool.and_true, Bool.and_self]

end OtIpr
