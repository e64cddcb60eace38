/-
  main.c: the globals shared by the main loop and the interrupt handlers.

  `dx`, `presence_score` and `presence_distance` are C floats, read as rationals; `flt` rounds
  to the nearest float. `dx` is exact here, and in single precision in `Radar.Float`.
  `detectConf` is a `uint8_t`: the two updates in `BURTC_IRQHandler` wrap at 256. The fields
  `threshold` and `prev` of `radarAppVars` are written at boot and never read; they are left
  out. `burtcCompare` is the value last given to `BURTC_CompareSet`.
-/
import OtIpr.Coap.Basic
import OtIpr.Lib.BinaryFloat

namespace OtIpr

open Lib

def RADAR_APP_DEFAULT_MAX_TH : ℕ := 100
def RADAR_APP_DEFAULT_MIN_TH : ℕ := 10
def RADAR_APP_DEFAULT_POS_TH : ℕ := 80
def RADAR_APP_DEFAULT_NEG_TH : ℕ := 20
def RADAR_APP_DEFAULT_TH_POS_RATE : ℕ := 20
def RADAR_APP_DEFAULT_TH_NEG_RATE : ℕ := 5
def RADAR_APP_DEFAULT_FRAME_SPACING_MS : ℕ := 3000
def RADAR_APP_DEFAULT_MIN_FRAME_SPACING_MS : ℕ := 750

/-- `acc_detector_presence_result_t`: the fields the application reads. -/
structure PresenceResult where
  presence_detected : Bool
  presence_score : ℚ
  presence_distance : ℚ
  deriving DecidableEq

/-- `radarAppVars`. -/
structure RadarAppVars where
  frameSpacingMs : ℕ
  detectConf : ℕ
  hystTrigFlag : Bool
  clearToMeasure : Bool
  dx : ℚ
  deriving DecidableEq

/-- The globals of main.c and app_coap.c, and the BURTC compare register. -/
structure Mem where
  radarAppVars : RadarAppVars
  result : PresenceResult
  radarCoapSendActive : Bool
  radarCoapSendInactive : Bool
  radarCoapRequireInactivation : Bool
  appCoapSendAlive : Bool
  appCoapSendTxCtr : UInt32
  vdd_meas : UInt32
  eui : UInt64
  tx_buffer : List Char
  burtcCompare : ℕ
  coap : Coap
  deriving DecidableEq

/-- `initBURTC()`: the first compare value. -/
def initBURTC (m : Mem) : Mem :=
  { m with burtcCompare := m.radarAppVars.frameSpacingMs / m.radarAppVars.detectConf }

/-- The globals when `main` enters its loop. `unique` is `SYSTEM_GetUnique()`. -/
def boot (unique : UInt64) : Mem :=
  initBURTC
    { radarAppVars := ⟨RADAR_APP_DEFAULT_FRAME_SPACING_MS, 1, false, false, 1⟩
      result := ⟨false, 0, 0⟩
      radarCoapSendActive := false
      radarCoapSendInactive := false
      radarCoapRequireInactivation := false
      appCoapSendAlive := false
      appCoapSendTxCtr := 0
      vdd_meas := 0
      eui := unique
      tx_buffer := List.replicate 255 NUL
      burtcCompare := 0
      coap := .boot }

/-- `eui._32b.h` -/
def eui_h (eui : UInt64) : UInt32 := (eui >>> 32).toUInt32

/-- `eui._32b.l` -/
def eui_l (eui : UInt64) : UInt32 := eui.toUInt32

/-- The value of a C float expression, stored as a float. -/
def flt (x : ℚ) : ℚ := binary32.round x

/-- `(uint32_t) x` of a C float, in the range for which C defines it. -/
def toUInt32 (x : ℚ) : UInt32 := UInt32.ofNat x.floor.toNat

/-- `alive_cb` -/
def alive_cb (m : Mem) : Mem := { m with appCoapSendAlive := true }

/-- `IADC_IRQHandler` on the sample it pulls. -/
def IADC_IRQHandler (data : UInt32) (m : Mem) : Mem := { m with vdd_meas := data * 1200 / 1000 }

end OtIpr
