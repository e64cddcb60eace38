/-
  opt3001.c over the sensor it drives: registers, conversions and bus errors.

  The sensor is the one of opt3001.h. A conversion ends between any two accesses to the bus and
  sets the ready flag CRF; in single-shot mode it is the last one. Reading the configuration
  clears the flag. A transfer may break off after any of its bytes; its result is not looked
  at, and the bytes that did not come are zero (`received`). Whether the sensor takes a read
  that broke off for a read is left open. `Opt3001.i2c` is what one call of `opt3001_read`
  meets, so the facts about its loop apply.

  * `light_register_iff`: a call takes the result register exactly if one of its first 254 polls
    got through whole while a conversion was unread; else it takes the configuration, as if it
    were light.
  * `readings_classified`: in every run a reading is what a transfer brought of the latest
    conversion or of a configuration word.
-/
import OtIpr.Opt3001
import OtIpr.Lib.Machine
import Mathlib.Tactic.Common

namespace OtIpr

open Lib

def REG_LOWLIMIT : UInt8 := 0x02

def OPT3001_CFG_FL : UInt16 := (1 : UInt16) <<< 5
def OPT3001_CFG_FH : UInt16 := (1 : UInt16) <<< 6
def OPT3001_CFG_CRF : UInt16 := (1 : UInt16) <<< 7
def OPT3001_CFG_OVF : UInt16 := (1 : UInt16) <<< 8
def OPT3001_CFG_M_MASK : UInt16 := (3 : UInt16) <<< 9

def DEFAULT_CONFIG_SHDWN : UInt16 := 0xc810

/-! ## The sensor -/

/-- The registers of the sensor. -/
structure Opt3001 where
  result : UInt16
  configuration : UInt16
  lowLimit : UInt16
deriving Repr, DecidableEq

/-- A conversion: its result, and the flags it leaves. -/
structure Conversion where
  raw : UInt16
  flags : UInt16
deriving Repr, DecidableEq

namespace Opt3001

/-- The bits a conversion sets as its result has it. -/
def resultFlags : UInt16 := OPT3001_CFG_OVF ||| OPT3001_CFG_FH ||| OPT3001_CFG_FL

def converting (c : Opt3001) : Bool := c.configuration &&& OPT3001_CFG_M_MASK != 0

/-- The mode bits M1 and M0 are 01. -/
def singleShot (c : Opt3001) : Bool :=
  c.configuration &&& OPT3001_CFG_M_MASK == (1 : UInt16) <<< 9

/-- A conversion ends, unless the sensor is shut down. After a single shot it is. -/
def convert (c : Opt3001) (v : Conversion) : Opt3001 :=
  if c.converting then
    let configuration :=
      if c.singleShot then c.configuration &&& ~~~OPT3001_CFG_M_MASK else c.configuration
    { c with
      result := v.raw,
      configuration :=
        (configuration &&& ~~~resultFlags) ||| (v.flags &&& resultFlags) ||| OPT3001_CFG_CRF }
  else c

def content (c : Opt3001) (reg : UInt8) : UInt16 :=
  if reg = REG_RESULT then c.result
  else if reg = REG_CONFIGURATION then c.configuration
  else if reg = REG_LOWLIMIT then c.lowLimit
  else 0

/-- What reading the configuration does to it. -/
def configurationRead (c : Opt3001) : Opt3001 :=
  { c with
    configuration :=
      c.configuration &&& ~~~(OPT3001_CFG_CRF ||| OPT3001_CFG_FH ||| OPT3001_CFG_FL) }

/-- A register is written. The status bits of the configuration are read-only, and CRF is
    cleared. -/
def write (c : Opt3001) (reg : UInt8) (value : UInt16) : Opt3001 :=
  if reg = REG_CONFIGURATION then
    { c with
      configuration :=
        (value &&& ~~~(resultFlags ||| OPT3001_CFG_CRF)) ||| (c.configuration &&& resultFlags) }
  else if reg = REG_LOWLIMIT then { c with lowLimit := value }
  else c

/-- The two bytes the sensor sends for a register, the high byte first. -/
def answer (c : Opt3001) (reg : UInt8) : List UInt8 :=
  [(c.content reg >>> 8).toUInt8, (c.content reg).toUInt8]

/-- The sensor takes the bytes written to a register, the high byte first. After one byte the
    low byte is as it was. -/
def writeBytes (c : Opt3001) (reg : UInt8) : List UInt8 → Opt3001
  | [] => c
  | [high] => c.write reg ((high.toUInt16 <<< 8) ||| (c.content reg &&& 0x00FF))
  | high :: low :: _ => c.write reg ((high.toUInt16 <<< 8) ||| low.toUInt16)

end Opt3001

/-! ## The driver -/

/-- `opt3001_read_reg`: `bytes` is what the transfer brought into the cleared `data`. -/
def opt3001_read_reg (bytes : List UInt8) : UInt16 :=
  let data0 := bytes.getD 0 0
  let data1 := bytes.getD 1 0
  (data0.toUInt16 <<< 8) ||| data1.toUInt16

/-- `opt3001_write_reg(reg, dataL, dataH)`: the sensor takes `dataL`, which is sent first, for
    the high byte. `bytes` of the two get through. -/
def opt3001_write_reg (bytes : ℕ) (c : Opt3001) (reg dataL dataH : UInt8) : Opt3001 :=
  c.writeBytes reg ([dataL, dataH].take bytes)

/-- `opt3001_init()`, with the data bytes that get through of its two transfers. -/
def opt3001_init (bytes₁ bytes₂ : ℕ) (c : Opt3001) : Opt3001 :=
  opt3001_write_reg bytes₂ (opt3001_write_reg bytes₁ c REG_CONFIGURATION 0b11000110 0)
    REG_LOWLIMIT 0b11000000 0

/-- One access of a call: the conversions that end before it, how many of the two data bytes
    get through, and whether the sensor takes it for a read if it breaks off. -/
structure BusAccess where
  conversions : List Conversion
  bytes : ℕ
  taken : Bool
deriving Repr, DecidableEq

/-- The sensor takes the access for a read. -/
def BusAccess.reaches (b : BusAccess) : Bool := 2 ≤ b.bytes || b.taken

namespace Opt3001

def settle (c : Opt3001) (l : List Conversion) : Opt3001 := l.foldl convert c

/-- The sensor at the `n`-th access of a call, when all before were polls. -/
def before (c : Opt3001) (bus : ℕ → BusAccess) : ℕ → Opt3001
  | 0 => c.settle (bus 0).conversions
  | n + 1 =>
    (if (bus n).reaches then (c.before bus n).configurationRead else c.before bus n).settle
      (bus (n + 1)).conversions

/-- What a call of `opt3001_read` meets. -/
def i2c (c : Opt3001) (bus : ℕ → BusAccess) : I2C := fun n reg =>
  opt3001_read_reg (((c.before bus n).answer reg).take (bus n).bytes)

/-- The sensor after the call. -/
def after (c : Opt3001) (bus : ℕ → BusAccess) : Opt3001 :=
  let n := polls (c.i2c bus)
  if returnedRegister (c.i2c bus) = REG_CONFIGURATION ∧ (bus n).reaches = true then
    (c.before bus n).configurationRead
  else c.before bus n

end Opt3001

/-! ## Bytes and bits -/

theorem uint16_or_and (a b m : UInt16) : (a ||| b) &&& m = (a &&& m) ||| (b &&& m) := by
  apply UInt16.toBitVec_inj.mp
  simp only [UInt16.toBitVec_and, UInt16.toBitVec_or, BitVec.and_or_distrib_right]

/-- What a transfer of `n` bytes brings of a word. -/
def received (n : ℕ) (w : UInt16) : UInt16 :=
  if 2 ≤ n then w else if n = 1 then w &&& 0xFF00 else 0

theorem received_zero (w : UInt16) : received 0 w = 0 := rfl

theorem received_one (w : UInt16) : received 1 w = w &&& 0xFF00 := rfl

theorem received_whole {n : ℕ} (h : 2 ≤ n) (w : UInt16) : received n w = w := if_pos h

/-- Of a word a transfer brings nothing, the word, or its high byte. -/
theorem received_cases (n : ℕ) (w : UInt16) :
    received n w = 0 ∨ received n w = w ∨ received n w = w &&& 0xFF00 := by
  unfold received
  split_ifs
  · exact Or.inr (Or.inl rfl)
  · exact Or.inr (Or.inr rfl)
  · exact Or.inl rfl

/-- The high byte of a word, in its place. -/
theorem high_toNat (v : UInt16) : (v &&& 0xFF00).toNat = v.toNat / 256 * 256 := by
  have hlt : v.toNat < 65536 := v.toNat_lt
  have hshift : (v.toNat &&& 0xFF00) >>> 8 = v.toNat / 256 := by
    rw [Nat.shiftRight_and_distrib, Nat.shiftRight_eq_div_pow]
    show v.toNat / 256 &&& 2 ^ 8 - 1 = _
    rw [Nat.and_two_pow_sub_one_eq_mod]
    exact Nat.mod_eq_of_lt (by omega)
  have hlow : (v.toNat &&& 0xFF00) % 256 = 0 := by
    rw [← Nat.and_two_pow_sub_one_eq_mod _ 8, Nat.and_assoc]
    exact Nat.and_zero _
  rw [Nat.shiftRight_eq_div_pow] at hshift
  rw [UInt16.toNat_and]
  show v.toNat &&& 0xFF00 = _
  omega

/-- Two bytes make up a word. -/
theorem bytes_toNat (high low : UInt8) :
    ((high.toUInt16 <<< 8) ||| low.toUInt16).toNat = high.toNat * 256 + low.toNat := by
  have hhigh : high.toNat < 256 := high.toNat_lt
  have hlow : low.toNat < 2 ^ 8 := low.toNat_lt
  have height : UInt16.toNat 8 % 16 = 8 := rfl
  have hshift : high.toNat <<< 8 % 2 ^ 16 = high.toNat <<< 8 := by
    rw [Nat.shiftLeft_eq]
    exact Nat.mod_eq_of_lt (by omega)
  simp only [UInt16.toNat_or, UInt16.toNat_shiftLeft, UInt8.toNat_toUInt16, height]
  rw [hshift, ← Nat.shiftLeft_add_eq_or_of_lt hlow, Nat.shiftLeft_eq]

/-- The bytes of a register read back as the register, or as much of it as came. -/
theorem read_reg_answer (c : Opt3001) (reg : UInt8) (n : ℕ) :
    opt3001_read_reg ((c.answer reg).take n) = received n (c.content reg) := by
  unfold Opt3001.answer
  generalize c.content reg = v
  have hlt : v.toNat < 65536 := v.toNat_lt
  have hhigh : ((v >>> 8).toUInt8).toNat = v.toNat / 256 := by
    have height : UInt16.toNat 8 % 16 = 8 := rfl
    rw [UInt16.toNat_toUInt8, UInt16.toNat_shiftRight, height, Nat.shiftRight_eq_div_pow]
    exact Nat.mod_eq_of_lt (by omega)
  match n with
  | 0 =>
    rw [List.take_zero, received_zero]
    decide
  | 1 =>
    apply UInt16.toNat_inj.mp
    show (((v >>> 8).toUInt8.toUInt16 <<< 8) ||| (0 : UInt8).toUInt16).toNat = _
    rw [bytes_toNat, hhigh, received_one, high_toNat]
    exact Nat.add_zero _
  | n + 2 =>
    apply UInt16.toNat_inj.mp
    show (((v >>> 8).toUInt8.toUInt16 <<< 8) ||| v.toUInt8.toUInt16).toNat = _
    rw [bytes_toNat, hhigh, received_whole (by omega), UInt16.toNat_toUInt8]
    omega

namespace Opt3001

/-! ## Flags and modes -/

/-- The ready flag. -/
def crf (c : Opt3001) : Bool := c.configuration &&& OPT3001_CFG_CRF != 0

/-- The bits of the configuration that are no status bits. -/
def setup (c : Opt3001) : UInt16 := c.configuration &&& 0xFE1F

/-- What a conversion leaves of the set-up: a single shot clears the mode bits. -/
def spent (setup : UInt16) : UInt16 :=
  if setup &&& OPT3001_CFG_M_MASK == (1 : UInt16) <<< 9 then setup &&& ~~~OPT3001_CFG_M_MASK
  else setup

variable (c : Opt3001)

/-- What a conversion sets are status bits. -/
theorem resultFlags_status : resultFlags &&& 0xFE1F = 0 := by decide

theorem mode_setup : c.setup &&& OPT3001_CFG_M_MASK = c.configuration &&& OPT3001_CFG_M_MASK := by
  have hmask : (0xFE1F : UInt16) &&& OPT3001_CFG_M_MASK = OPT3001_CFG_M_MASK := by decide
  unfold setup
  rw [UInt16.and_assoc, hmask]

theorem converting_eq : c.converting = (c.setup &&& OPT3001_CFG_M_MASK != 0) := by
  rw [mode_setup]
  rfl

theorem singleShot_eq :
    c.singleShot = (c.setup &&& OPT3001_CFG_M_MASK == (1 : UInt16) <<< 9) := by
  rw [mode_setup]
  rfl

theorem converting_congr {c c' : Opt3001} (h : c'.setup = c.setup) :
    c'.converting = c.converting := by
  rw [converting_eq, converting_eq, h]

theorem singleShot_congr {c c' : Opt3001} (h : c'.setup = c.setup) :
    c'.singleShot = c.singleShot := by
  rw [singleShot_eq, singleShot_eq, h]

theorem spent_setup :
    spent c.setup = if c.singleShot then c.setup &&& ~~~OPT3001_CFG_M_MASK else c.setup := by
  rw [singleShot_eq]
  rfl

/-- A single shot is a mode in which the sensor converts. -/
theorem converting_of_singleShot (h : c.singleShot = true) : c.converting = true := by
  unfold singleShot at h
  unfold converting
  rw [beq_iff_eq] at h
  rw [h]
  decide

theorem mode_spent (w : UInt16) :
    spent w &&& OPT3001_CFG_M_MASK =
      if w &&& OPT3001_CFG_M_MASK == (1 : UInt16) <<< 9 then 0 else w &&& OPT3001_CFG_M_MASK := by
  have hclear : ~~~OPT3001_CFG_M_MASK &&& OPT3001_CFG_M_MASK = 0 := by decide
  unfold spent
  split_ifs
  · rw [UInt16.and_assoc, hclear, UInt16.and_zero]
  · rfl

@[simp] theorem spent_spent (w : UInt16) : spent (spent w) = spent w := by
  refine if_neg ?_
  rw [mode_spent]
  split_ifs with h
  · decide
  · exact h

@[simp] theorem setup_convert (v : Conversion) : (c.convert v).setup = spent c.setup := by
  have hkeep : ~~~resultFlags &&& 0xFE1F = 0xFE1F := by decide
  have hcrf : OPT3001_CFG_CRF &&& 0xFE1F = 0 := by decide
  have hcomm : ~~~OPT3001_CFG_M_MASK &&& 0xFE1F = 0xFE1F &&& ~~~OPT3001_CFG_M_MASK := by decide
  rw [spent_setup, convert]
  cases hs : c.singleShot with
  | true =>
    rw [if_pos (c.converting_of_singleShot hs)]
    simp only [if_true, setup, uint16_or_and, UInt16.and_assoc, hkeep, resultFlags_status, hcrf,
      hcomm, UInt16.and_zero, UInt16.or_zero]
  | false =>
    cases c.converting with
    | true =>
      simp only [if_true, Bool.false_eq_true, if_false, setup, uint16_or_and, UInt16.and_assoc,
        hkeep, resultFlags_status, hcrf, UInt16.and_zero, UInt16.or_zero]
    | false => rfl

@[simp] theorem setup_configurationRead : c.configurationRead.setup = c.setup := by
  have hkeep : ~~~(OPT3001_CFG_CRF ||| OPT3001_CFG_FH ||| OPT3001_CFG_FL) &&& 0xFE1F = 0xFE1F := by
    decide
  unfold configurationRead setup
  simp only [UInt16.and_assoc, hkeep]

theorem crf_convert (v : Conversion) : (c.convert v).crf = (c.crf || c.converting) := by
  unfold convert
  cases c.converting with
  | false => simp
  | true =>
    have hset : OPT3001_CFG_CRF &&& OPT3001_CFG_CRF = OPT3001_CFG_CRF := by decide
    simp only [if_true, Bool.or_true, crf, uint16_or_and, hset, bne_iff_ne]
    intro h
    exact absurd (UInt16.or_eq_zero_iff.mp h).2 (by decide)

@[simp] theorem crf_configurationRead : c.configurationRead.crf = false := by
  have hclear : ~~~(OPT3001_CFG_CRF ||| OPT3001_CFG_FH ||| OPT3001_CFG_FL) &&& OPT3001_CFG_CRF =
      0 := by decide
  unfold configurationRead crf
  simp only [UInt16.and_assoc, hclear, UInt16.and_zero]
  rfl

theorem result_convert (v : Conversion) :
    (c.convert v).result = if c.converting then v.raw else c.result := by
  unfold convert
  split_ifs <;> rfl

/-- The sensor converts on after a conversion, unless it was a single shot. -/
theorem converting_convert (v : Conversion) :
    (c.convert v).converting = (c.converting && !c.singleShot) := by
  rw [converting_eq, setup_convert, mode_spent, ← singleShot_eq]
  cases c.singleShot with
  | true => simp
  | false => simpa using (converting_eq c).symm

theorem singleShot_convert (v : Conversion) : (c.convert v).singleShot = false := by
  have hmode : ((0 : UInt16) == (1 : UInt16) <<< 9) = false := by decide
  rw [singleShot_eq, setup_convert, mode_spent, ← singleShot_eq]
  cases hs : c.singleShot with
  | true => exact hmode
  | false => exact (singleShot_eq c).symm.trans hs

/-! ## The sensor during a call -/

/-- Of the conversions that may end, those that do. -/
def counted (l : List Conversion) : List Conversion :=
  if c.converting then if c.singleShot then l.take 1 else l else []

theorem settle_append (l l' : List Conversion) :
    c.settle (l ++ l') = (c.settle l).settle l' := List.foldl_append

@[simp] theorem setup_settle (l : List Conversion) :
    (c.settle l).setup = if l = [] then c.setup else spent c.setup := by
  induction l generalizing c with
  | nil => rfl
  | cons v l ih =>
    show ((c.convert v).settle l).setup = _
    rw [ih, setup_convert, spent_spent, ite_self]
    exact (if_neg (List.cons_ne_nil v l)).symm

theorem crf_settle (l : List Conversion) :
    (c.settle l).crf = true ↔ c.crf = true ∨ c.converting = true ∧ l ≠ [] := by
  induction l generalizing c with
  | nil => simp [settle]
  | cons v l ih =>
    show ((c.convert v).settle l).crf = true ↔ _
    rw [ih, crf_convert, converting_convert]
    cases c.converting <;> simp

theorem result_settle (l : List Conversion) :
    (c.settle l).result = ((c.counted l).getLast?.map Conversion.raw).getD c.result := by
  induction l generalizing c with
  | nil => simp [settle, counted]
  | cons v l ih =>
    show ((c.convert v).settle l).result = _
    rw [ih, result_convert]
    unfold counted
    rw [converting_convert, singleShot_convert]
    cases hc : c.converting with
    | false => simp
    | true =>
      cases c.singleShot with
      | true => simp
      | false => cases h : l.getLast? <;> simp [List.getLast?_cons, h]

theorem counted_congr {c c' : Opt3001} (h : c'.setup = c.setup) (l : List Conversion) :
    c'.counted l = c.counted l := by
  unfold counted
  rw [converting_congr h, singleShot_congr h]

/-- Conversions do not look at the status bits. -/
theorem settle_congr {c c' : Opt3001} (hsetup : c'.setup = c.setup)
    (hresult : c'.result = c.result) (l : List Conversion) :
    (c'.settle l).setup = (c.settle l).setup ∧ (c'.settle l).result = (c.settle l).result := by
  rw [setup_settle, setup_settle, result_settle, result_settle, counted_congr hsetup, hsetup,
    hresult]
  exact ⟨rfl, rfl⟩

theorem converting_settle (l : List Conversion) :
    (c.settle l).converting = true ↔
      c.converting = true ∧ (c.singleShot = true → l = []) := by
  cases l with
  | nil => simp [settle]
  | cons v l =>
    have hlast : (c.settle (v :: l)).setup = (c.convert v).setup := by
      rw [setup_settle, if_neg (List.cons_ne_nil v l), setup_convert]
    rw [converting_congr hlast, converting_convert]
    cases c.converting <;> cases c.singleShot <;> simp

variable (bus : ℕ → BusAccess)

/-- The conversions that may have ended by the `n`-th access. -/
def conversionsBy (bus : ℕ → BusAccess) (n : ℕ) : List Conversion :=
  (List.range (n + 1)).flatMap fun k => (bus k).conversions

theorem conversionsBy_zero : conversionsBy bus 0 = (bus 0).conversions := by
  simp [conversionsBy]

theorem conversionsBy_succ (n : ℕ) :
    conversionsBy bus (n + 1) = conversionsBy bus n ++ (bus (n + 1)).conversions := by
  unfold conversionsBy
  rw [List.range_succ, List.flatMap_append, List.flatMap_singleton]

theorem conversionsBy_eq_nil {n : ℕ} :
    conversionsBy bus n = [] ↔ ∀ i < n + 1, (bus i).conversions = [] := by
  simp [conversionsBy, List.flatMap_eq_nil_iff]

/-- Polls leave the result and the set-up alone. -/
theorem before_eq (n : ℕ) :
    (c.before bus n).setup = (c.settle (conversionsBy bus n)).setup ∧
      (c.before bus n).result = (c.settle (conversionsBy bus n)).result := by
  induction n with
  | zero => rw [before, conversionsBy_zero]; exact ⟨rfl, rfl⟩
  | succ n ih =>
    obtain ⟨hsetup, hresult⟩ := ih
    rw [before, conversionsBy_succ, settle_append]
    split_ifs
    · exact settle_congr ((setup_configurationRead _).trans hsetup) hresult _
    · exact settle_congr hsetup hresult _

/-- A conversion ends right before access `j`. -/
def Converts (j : ℕ) : Prop :=
  (bus j).conversions ≠ [] ∧ c.converting = true ∧
    (c.singleShot = true → ∀ i < j, (bus i).conversions = [])

/-- At access `k` a measurement is ready that no poll has read away: it was ready when the call
    began, or a conversion ended before access `j`, and since then no poll was taken for a
    read. -/
def Unread (k : ℕ) : Prop :=
  (c.crf = true ∧ ∀ i < k, (bus i).reaches = false) ∨
    ∃ j ≤ k, c.Converts bus j ∧ ∀ i < k, j ≤ i → (bus i).reaches = false

theorem unread_zero : c.Unread bus 0 ↔ c.crf = true ∨ c.Converts bus 0 := by
  simp [Unread]

theorem unread_succ (k : ℕ) :
    c.Unread bus (k + 1) ↔
      (c.Unread bus k ∧ (bus k).reaches = false) ∨ c.Converts bus (k + 1) := by
  constructor
  · rintro (⟨hcrf, hmissed⟩ | ⟨j, hj, hconv, hmissed⟩)
    · exact Or.inl ⟨Or.inl ⟨hcrf, fun i hi => hmissed i (by omega)⟩, hmissed k (by omega)⟩
    · rcases Nat.lt_or_ge k j with hlt | hle
      · obtain rfl : j = k + 1 := by omega
        exact Or.inr hconv
      · exact Or.inl ⟨Or.inr ⟨j, hle, hconv, fun i hi => hmissed i (by omega)⟩,
          hmissed k (by omega) hle⟩
  · have hlast : ∀ i < k + 1, i < k ∨ i = k := fun i hi => by omega
    rintro (⟨⟨hcrf, hmissed⟩ | ⟨j, hj, hconv, hmissed⟩, hk⟩ | hconv)
    · refine Or.inl ⟨hcrf, fun i hi => ?_⟩
      rcases hlast i hi with hi | rfl
      · exact hmissed i hi
      · exact hk
    · refine Or.inr ⟨j, by omega, hconv, fun i hi hji => ?_⟩
      rcases hlast i hi with hi | rfl
      · exact hmissed i hi hji
      · exact hk
    · exact Or.inr ⟨k + 1, Nat.le_refl _, hconv, fun i hi hle => by omega⟩

/-- The flag tells whether a measurement is unread. -/
theorem crf_before (k : ℕ) : (c.before bus k).crf = true ↔ c.Unread bus k := by
  induction k with
  | zero =>
    rw [before, crf_settle, unread_zero]
    simp [Converts, and_comm]
  | succ k ih =>
    have hconverting : (c.before bus k).converting = true ∧ (bus (k + 1)).conversions ≠ [] ↔
        c.Converts bus (k + 1) := by
      rw [converting_congr (c.before_eq bus k).1, converting_settle, conversionsBy_eq_nil]
      unfold Converts
      tauto
    rw [before, unread_succ, ← ih, ← hconverting, crf_settle]
    cases (bus k).reaches with
    | true =>
      simp only [if_true, crf_configurationRead, Bool.true_eq_false, and_false, false_or,
        Bool.false_eq_true, converting_congr (setup_configurationRead (c.before bus k))]
    | false => simp

/-- A poll sees a measurement ready if it gets through whole with the flag set. -/
theorem ready_iff (k : ℕ) :
    Ready (c.i2c bus) k ↔ 2 ≤ (bus k).bytes ∧ (c.before bus k).crf = true := by
  have hcrf : (c.before bus k).crf = true ↔
      (c.before bus k).content REG_CONFIGURATION &&& 0x80 ≠ 0 := bne_iff_ne
  have hhigh : (0xFF00 : UInt16) &&& 0x80 = 0 := by decide
  unfold Ready i2c
  rw [read_reg_answer, hcrf]
  match h : (bus k).bytes with
  | 0 => simp [received_zero]
  | 1 => simp [received_one, UInt16.and_assoc, hhigh]
  | n + 2 => simp [received_whole]

/-! ## What a call returns -/

/-- One of the first 254 polls gets through whole while a measurement is unread. -/
def Measured : Prop := ∃ k < 254, 2 ≤ (bus k).bytes ∧ c.Unread bus k

/-- The register returned, by the polls of any bus. -/
theorem returned_result_iff (i2c : I2C) :
    returnedRegister i2c = REG_RESULT ↔ ∃ k < 254, Ready i2c k := by
  have hreg : returnedRegister i2c = REG_RESULT ↔ polls i2c ≠ 255 := by
    unfold returnedRegister max_wait
    split_ifs with h
    · exact iff_of_false (by decide) (not_not.mpr h)
    · exact iff_of_true rfl h
  rw [hreg]
  rcases busy_or_ready i2c with hbusy | ⟨k, hk, hready, hbusy⟩
  · rw [polls_of_busy hbusy]
    refine iff_of_false (not_not.mpr rfl) ?_
    rintro ⟨k, hk, hready⟩
    exact hbusy k (by omega) hready
  · rw [polls_of_ready hk hready hbusy]
    constructor
    · intro hne
      exact ⟨k, by omega, hready⟩
    · rintro ⟨j, hj, hreadyj⟩ hlast
      exact hbusy j (by omega) hreadyj

theorem returned_register_iff :
    returnedRegister (c.i2c bus) = REG_RESULT ↔ c.Measured bus := by
  rw [returned_result_iff]
  unfold Measured
  simp only [ready_iff, crf_before]

theorem returned_configuration (h : ¬ c.Measured bus) :
    returnedRegister (c.i2c bus) = REG_CONFIGURATION := by
  rw [← returned_register_iff] at h
  unfold returnedRegister at h ⊢
  split_ifs at h ⊢
  · rfl
  · exact absurd rfl h

/-- What the last access of a call brings. -/
theorem read_eq :
    opt3001_read (c.i2c bus) = received (bus (polls (c.i2c bus))).bytes
      ((c.before bus (polls (c.i2c bus))).content (returnedRegister (c.i2c bus))) := by
  rw [opt3001_read_eq]
  exact read_reg_answer _ _ _

/-- The latest conversion that ended by the end of a call, or else the result before it. -/
def latestIn : UInt16 :=
  ((c.counted (conversionsBy bus (polls (c.i2c bus)))).getLast?.map Conversion.raw).getD c.result

/-- The set-up at the end of a call. -/
def setupIn : UInt16 :=
  if conversionsBy bus (polls (c.i2c bus)) = [] then c.setup else spent c.setup

theorem content_result (c : Opt3001) : c.content REG_RESULT = c.result := rfl

theorem content_configuration (c : Opt3001) :
    c.content REG_CONFIGURATION &&& 0xFE1F = c.setup := rfl

theorem result_last : (c.before bus (polls (c.i2c bus))).result = c.latestIn bus :=
  (c.before_eq bus _).2.trans (result_settle c _)

theorem setup_last : (c.before bus (polls (c.i2c bus))).setup = c.setupIn bus :=
  (c.before_eq bus _).1.trans (setup_settle c _)

/-- What a call returns, for any times of the conversions and any bytes that the transfers
    bring. It takes the result register exactly if one of the first 254 polls gets through
    whole while a measurement is unread; and then its value is the latest conversion. Otherwise
    it is the configuration, taken for light. Of either the last transfer may bring the high
    byte only, or nothing. -/
theorem light_register_iff :
    (returnedRegister (c.i2c bus) = REG_RESULT ↔ c.Measured bus) ∧
    (c.Measured bus → opt3001_read (c.i2c bus) =
      received (bus (polls (c.i2c bus))).bytes (c.latestIn bus)) ∧
    (¬ c.Measured bus → ∃ configuration, configuration &&& 0xFE1F = c.setupIn bus ∧
      opt3001_read (c.i2c bus) = received (bus (polls (c.i2c bus))).bytes configuration) := by
  refine ⟨c.returned_register_iff bus, fun h => ?_, fun h => ?_⟩
  · rw [read_eq, (c.returned_register_iff bus).mpr h, content_result, result_last]
  · rw [read_eq, c.returned_configuration bus h]
    exact ⟨_, (content_configuration _).trans (c.setup_last bus), rfl⟩

end Opt3001

/-- A sensor set up by `opt3001_init`. -/
def initialised : Opt3001 := opt3001_init 2 2 ⟨0, DEFAULT_CONFIG_SHDWN, 0⟩

/-- A conversion ends before the fourth poll, and of the fifth access `bytes` get through. -/
def oneConversion (bytes : ℕ) : ℕ → BusAccess := fun k =>
  ⟨if k = 3 then [⟨0x1234, 0⟩] else [], if k = 4 then bytes else 2, true⟩

/-- A conversion read whole and by its high byte, and none. -/
theorem light_register_iff_ready :
    opt3001_read (initialised.i2c (oneConversion 2)) = 0x1234 ∧
      opt3001_read (initialised.i2c (oneConversion 1)) = 0x1200 ∧
      ∃ configuration, configuration &&& 0xFE1F = 0xC600 ∧
        opt3001_read (initialised.i2c fun _ => ⟨[], 2, true⟩) = configuration := by
  have hmeasured : ∀ bytes, initialised.Measured (oneConversion bytes) := by
    intro bytes
    refine ⟨3, by decide, Nat.le_refl 2, Or.inr ⟨3, Nat.le_refl 3, ⟨List.cons_ne_nil _ _, ?_⟩, ?_⟩⟩
    · exact ⟨by decide, fun hs => absurd hs (by decide)⟩
    · exact fun i hi hle => absurd hi (Nat.not_lt_of_le hle)
  have hnone : ¬ initialised.Measured fun _ => ⟨[], 2, true⟩ := by
    rintro ⟨k, -, -, ⟨hcrf, -⟩ | ⟨j, -, ⟨hconv, -⟩, -⟩⟩
    · exact absurd hcrf (by decide)
    · exact hconv rfl
  refine ⟨?_, ?_, ?_⟩
  · exact ((Opt3001.light_register_iff initialised (oneConversion 2)).2.1 (hmeasured 2)).trans
      (by decide +kernel)
  · exact ((Opt3001.light_register_iff initialised (oneConversion 1)).2.1 (hmeasured 1)).trans
      (by decide +kernel)
  · obtain ⟨configuration, hsetup, hread⟩ :=
      (Opt3001.light_register_iff initialised fun _ => ⟨[], 2, true⟩).2.2 hnone
    exact ⟨configuration, hsetup.trans (by decide +kernel), hread⟩

/-! ## Runs -/

inductive LightEv where
  | init (bytes₁ bytes₂ : ℕ)
  | convert (v : Conversion)
  | read (bus : ℕ → BusAccess)

inductive LightObs where
  | converted (raw : UInt16)
  | reading (value : UInt16)
deriving Repr, DecidableEq

namespace Opt3001

/-- The conversions of a call, in order. -/
def convertedDuring (c : Opt3001) (bus : ℕ → BusAccess) : List LightObs :=
  (c.counted (conversionsBy bus (polls (c.i2c bus)))).map fun v => .converted v.raw

def step (c : Opt3001) : LightEv → Opt3001 × List LightObs
  | .init bytes₁ bytes₂ => (opt3001_init bytes₁ bytes₂ c, [])
  | .convert v => (c.convert v, if c.converting then [.converted v.raw] else [])
  | .read bus => (c.after bus, c.convertedDuring bus ++ [.reading (opt3001_read (c.i2c bus))])

/-- The driver and a sensor that starts in any state. -/
def machine (c₀ : Opt3001) : Machine Opt3001 LightEv LightObs := ⟨c₀, step⟩

/-- The set-up after `opt3001_init`: the word it writes, or its high byte before the low bits of
    the old one, or the old one. -/
def initSetup (bytes : ℕ) (setup : UInt16) : UInt16 :=
  if 2 ≤ bytes then 0xC600 else if bytes = 1 then 0xC600 ||| (setup &&& 0x1F) else setup

/-- The set-ups of a run: that of the start, also after its single shot, and those that
    `opt3001_init` makes of it. -/
def setups (c₀ : Opt3001) : List UInt16 :=
  [c₀.setup, spent c₀.setup, 0xC600, 0xC600 ||| (c₀.setup &&& 0x1F)]

end Opt3001

/-- The result of a conversion that was observed. -/
def LightObs.raw : LightObs → Option UInt16
  | .converted raw => some raw
  | .reading _ => none

/-- The latest conversion observed, or what the result register held at the start. -/
def latestConversion (c₀ : Opt3001) (os : List LightObs) : UInt16 :=
  (os.filterMap LightObs.raw).getLast?.getD c₀.result

/-- Every reading is what a transfer brings of the latest conversion, or of a configuration
    word with a set-up in `S`. -/
def ReadingsClassified (S : UInt16 → Prop) (c₀ : Opt3001) (os : List LightObs) : Prop :=
  ∀ a v b, os = a ++ .reading v :: b →
    ∃ n w, v = received n w ∧ (w = latestConversion c₀ a ∨ S (w &&& 0xFE1F))

/-- What holds of the sensor along a run. -/
structure LightRun (S : UInt16 → Prop) (c₀ c : Opt3001) (os : List LightObs) : Prop where
  result : c.result = latestConversion c₀ os
  setup : S c.setup
  classified : ReadingsClassified S c₀ os

variable {S : UInt16 → Prop}

/-- Observations without a reading leave the readings as they were. -/
theorem classified_append {c₀ : Opt3001} {os ps : List LightObs}
    (h : ReadingsClassified S c₀ os) (hps : ∀ v, .reading v ∉ ps) :
    ReadingsClassified S c₀ (os ++ ps) := by
  intro a v b heq
  rcases Machine.append_eq_append_cons heq with ⟨b', hos, -⟩ | ⟨a', -, hmem⟩
  · exact h a v b' hos
  · exact absurd (hmem ▸ List.mem_append_right a' List.mem_cons_self) (hps v)

namespace Opt3001

variable (c : Opt3001)

@[simp] theorem result_write (reg : UInt8) (value : UInt16) :
    (c.write reg value).result = c.result := by
  unfold write
  split_ifs <;> rfl

theorem setup_write_configuration (value : UInt16) :
    (c.write REG_CONFIGURATION value).setup = value &&& 0xFE1F := by
  have hkeep : ~~~(resultFlags ||| OPT3001_CFG_CRF) &&& 0xFE1F = 0xFE1F := by decide
  unfold write setup
  simp only [if_true, uint16_or_and, UInt16.and_assoc, hkeep, resultFlags_status,
    UInt16.and_zero, UInt16.or_zero]

@[simp] theorem result_writeBytes (reg : UInt8) (bytes : List UInt8) :
    (c.writeBytes reg bytes).result = c.result := by
  match bytes with
  | [] => rfl
  | [high] => exact c.result_write reg _
  | high :: low :: _ => exact c.result_write reg _

theorem setup_writeBytes_lowLimit (bytes : List UInt8) :
    (c.writeBytes REG_LOWLIMIT bytes).setup = c.setup := by
  match bytes with
  | [] => rfl
  | [high] => rfl
  | high :: low :: _ => rfl

theorem setup_init (bytes₁ bytes₂ : ℕ) :
    (opt3001_init bytes₁ bytes₂ c).setup = initSetup bytes₁ c.setup := by
  unfold opt3001_init opt3001_write_reg
  rw [setup_writeBytes_lowLimit]
  match bytes₁ with
  | 0 => rfl
  | 1 =>
    have hword : ((0b11000110 : UInt8).toUInt16 <<< 8) &&& 0xFE1F = 0xC600 := by decide
    have hlow : (0x00FF : UInt16) &&& 0xFE1F = 0xFE1F &&& 0x1F := by decide
    refine (c.setup_write_configuration _).trans ?_
    rw [uint16_or_and, hword]
    show _ = 0xC600 ||| (c.setup &&& 0x1F)
    rw [setup, UInt16.and_assoc, UInt16.and_assoc, ← hlow]
    rfl
  | n + 2 =>
    have hword : ((0b11000110 : UInt8).toUInt16 <<< 8 ||| (0 : UInt8).toUInt16) &&& 0xFE1F =
        0xC600 := by decide
    refine (c.setup_write_configuration _).trans (hword.trans ?_)
    exact (if_pos (by omega)).symm

theorem result_init (bytes₁ bytes₂ : ℕ) : (opt3001_init bytes₁ bytes₂ c).result = c.result := by
  unfold opt3001_init opt3001_write_reg
  rw [result_writeBytes, result_writeBytes]

variable (bus : ℕ → BusAccess)

@[simp] theorem result_after : (c.after bus).result = c.latestIn bus := by
  unfold after
  dsimp only
  split_ifs <;> exact c.result_last bus

@[simp] theorem setup_after : (c.after bus).setup = c.setupIn bus := by
  unfold after
  dsimp only
  split_ifs
  · rw [setup_configurationRead, setup_last]
  · exact c.setup_last bus

theorem read_cases :
    ∃ n w, opt3001_read (c.i2c bus) = received n w ∧
      (w = c.latestIn bus ∨ w &&& 0xFE1F = c.setupIn bus) := by
  refine ⟨_, _, c.read_eq bus, ?_⟩
  unfold returnedRegister
  split_ifs
  · exact Or.inr ((content_configuration _).trans (c.setup_last bus))
  · exact Or.inl ((content_result _).trans (c.result_last bus))

/-- A call leaves the latest of its conversions in the result register. -/
theorem latest_during {c₀ : Opt3001} {os : List LightObs}
    (h : c.result = latestConversion c₀ os) :
    latestConversion c₀ (os ++ c.convertedDuring bus) = c.latestIn bus := by
  unfold latestIn convertedDuring
  generalize c.counted (conversionsBy bus (polls (c.i2c bus))) = l
  have hraw : (l.map fun v => LightObs.converted v.raw).filterMap LightObs.raw =
      l.map Conversion.raw := by
    rw [List.filterMap_map]
    exact congrFun (List.filterMap_eq_map (f := Conversion.raw)) _
  unfold latestConversion at h ⊢
  rw [List.filterMap_append, hraw, List.getLast?_append, List.getLast?_map, h]
  cases l.getLast? <;> rfl

end Opt3001

theorem latestConversion_reading (c₀ : Opt3001) (os : List LightObs) (v : UInt16) :
    latestConversion c₀ (os ++ [.reading v]) = latestConversion c₀ os := by
  unfold latestConversion
  rw [List.filterMap_append]
  simp [LightObs.raw]

/-- A step keeps the set-ups in a set that single shots, and its initialisation, keep. -/
theorem lightRun_step {c₀ c : Opt3001} {os : List LightObs} (e : LightEv)
    (hspent : ∀ w, S w → S (Opt3001.spent w))
    (hinit : ∀ bytes₁ bytes₂, e = .init bytes₁ bytes₂ → ∀ w, S w → S (Opt3001.initSetup bytes₁ w))
    (h : LightRun S c₀ c os) : LightRun S c₀ (c.step e).1 (os ++ (c.step e).2) := by
  obtain ⟨hresult, hsetup, hclass⟩ := h
  cases e with
  | init bytes₁ bytes₂ =>
    simp only [Opt3001.step, List.append_nil]
    refine ⟨(c.result_init bytes₁ bytes₂).trans hresult, ?_, hclass⟩
    rw [Opt3001.setup_init]
    exact hinit bytes₁ bytes₂ rfl _ hsetup
  | convert v =>
    refine ⟨?_, ?_, classified_append hclass ?_⟩
    · simp only [Opt3001.step, Opt3001.result_convert]
      cases hc : c.converting with
      | false => simpa using hresult
      | true => simp [latestConversion, LightObs.raw]
    · simp only [Opt3001.step, Opt3001.setup_convert]
      exact hspent _ hsetup
    · intro w
      simp only [Opt3001.step]
      split_ifs <;> simp
  | read bus =>
    have hduring := c.latest_during bus hresult
    have hsetupIn : S (c.setupIn bus) := by
      unfold Opt3001.setupIn
      split_ifs
      · exact hsetup
      · exact hspent _ hsetup
    refine ⟨?_, ?_, ?_⟩
    · simp only [Opt3001.step, Opt3001.result_after]
      rw [← List.append_assoc, latestConversion_reading, hduring]
    · simp only [Opt3001.step, Opt3001.setup_after]
      exact hsetupIn
    · have hconv : ∀ v, .reading v ∉ c.convertedDuring bus := by
        intro v
        simp [Opt3001.convertedDuring]
      have hbefore := classified_append hclass hconv
      intro a v b heq
      simp only [Opt3001.step, ← List.append_assoc] at heq
      rcases Machine.append_eq_append_cons heq with ⟨b', hos, -⟩ | ⟨a', ha, hlast⟩
      · exact hbefore a v b' hos
      · -- the reading itself
        obtain ⟨rfl, hv, -⟩ := Machine.singleton_eq_append_cons hlast
        obtain rfl : v = opt3001_read (c.i2c bus) := LightObs.reading.inj hv
        rw [List.append_nil] at ha
        rw [ha, hduring]
        obtain ⟨n, w, hread, hw | hw⟩ := c.read_cases bus
        · exact ⟨n, w, hread, Or.inl hw⟩
        · exact ⟨n, w, hread, Or.inr (hw ▸ hsetupIn)⟩

theorem lightRun (c₀ : Opt3001) (es : List LightEv) (hstart : S c₀.setup)
    (hspent : ∀ w, S w → S (Opt3001.spent w))
    (hinit : ∀ bytes₁ bytes₂, .init bytes₁ bytes₂ ∈ es →
      ∀ w, S w → S (Opt3001.initSetup bytes₁ w)) :
    LightRun S c₀ ((Opt3001.machine c₀).state es) ((Opt3001.machine c₀).trace es) := by
  induction es using List.reverseRecOn with
  | nil => exact ⟨rfl, hstart, fun a v b heq => by simp at heq⟩
  | append_singleton es e ih =>
    have hbefore := ih fun bytes₁ bytes₂ he => hinit bytes₁ bytes₂ (List.mem_append_left _ he)
    rw [Machine.state_snoc, Machine.trace_snoc]
    refine lightRun_step e hspent (fun bytes₁ bytes₂ he => ?_) hbefore
    exact hinit bytes₁ bytes₂ (List.mem_append_right _ (he ▸ List.mem_cons_self))

/-- The set-ups of a run are closed under single shots. -/
theorem spent_mem_setups (c₀ : Opt3001) {w : UInt16} (h : w ∈ c₀.setups) :
    Opt3001.spent w ∈ c₀.setups := by
  have hlow : (0x1F : UInt16) &&& OPT3001_CFG_M_MASK = 0 := by decide
  have hmode : Opt3001.spent (0xC600 ||| (c₀.setup &&& 0x1F)) = 0xC600 ||| (c₀.setup &&& 0x1F) := by
    refine if_neg ?_
    rw [uint16_or_and, UInt16.and_assoc, hlow, UInt16.and_zero]
    decide
  have hword : Opt3001.spent 0xC600 = 0xC600 := by decide
  simp only [Opt3001.setups, List.mem_cons, List.not_mem_nil, or_false] at h ⊢
  rcases h with rfl | rfl | rfl | rfl
  · exact Or.inr (Or.inl rfl)
  · exact Or.inr (Or.inl (Opt3001.spent_spent _))
  · exact Or.inr (Or.inr (Or.inl hword))
  · exact Or.inr (Or.inr (Or.inr hmode))

/-- The low bits of every set-up are zero or those of the start. -/
theorem initSetup_mem_setups (c₀ : Opt3001) (bytes : ℕ) {w : UInt16} (h : w ∈ c₀.setups) :
    Opt3001.initSetup bytes w ∈ c₀.setups := by
  have hspent : Opt3001.spent c₀.setup &&& 0x1F = c₀.setup &&& 0x1F := by
    have hkeep : ~~~OPT3001_CFG_M_MASK &&& 0x1F = 0x1F := by decide
    unfold Opt3001.spent
    split_ifs
    · rw [UInt16.and_assoc, hkeep]
    · rfl
  have hword : (0xC600 : UInt16) &&& 0x1F = 0 := by decide
  have htwice : (0x1F : UInt16) &&& 0x1F = 0x1F := by decide
  have hlow : w &&& 0x1F = 0 ∨ w &&& 0x1F = c₀.setup &&& 0x1F := by
    simp only [Opt3001.setups, List.mem_cons, List.not_mem_nil, or_false] at h
    rcases h with rfl | rfl | rfl | rfl
    · exact Or.inr rfl
    · exact Or.inr hspent
    · exact Or.inl hword
    · rw [uint16_or_and, hword, UInt16.zero_or, UInt16.and_assoc, htwice]
      exact Or.inr rfl
  unfold Opt3001.initSetup
  split_ifs
  · simp [Opt3001.setups]
  · rcases hlow with hlow | hlow <;> rw [hlow] <;> simp [Opt3001.setups]
  · exact h

/-- In every run of the driver over the sensor, from any state of the sensor, with conversions
    at any time and transfers that break off after any of their bytes: each reading is what a
    transfer brings of the latest conversion or of a configuration word. The set-up of that
    word is the one of the start, or what its single shot or `opt3001_init` makes of it. -/
theorem readings_classified (c₀ : Opt3001) (es : List LightEv) :
    ReadingsClassified (· ∈ c₀.setups) c₀ ((Opt3001.machine c₀).trace es) :=
  (lightRun c₀ es List.mem_cons_self (fun _ => spent_mem_setups c₀)
    fun bytes₁ _ _ _ => initSetup_mem_setups c₀ bytes₁).classified

end OtIpr
