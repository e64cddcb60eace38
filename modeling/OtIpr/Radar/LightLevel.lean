/-
  The firmware over its light sensor: what messages say about the light.

  `firmware` couples the machine of main.c with the sensor of opt3001.h. The statements at
  lines 278 and 317 run `opt3001_read` over the sensor; conversions end at any time, also
  between two accesses of a call, and any transfer may break off. The sensor's part of a run is
  a run of the sensor's own machine (`lightTrace_eq`), so its readings are classified; and the
  level in a message is its latest reading (`drafted_firmware`).

  `light_levels_classified`: a message tells the level of the latest conversion before its
  reading, or a lower one if that transfer broke off, or a level that the configuration is
  mistaken for.
-/
import OtIpr.LightSensor
import OtIpr.Radar.Contents

namespace OtIpr

open Lib

/-! ## The firmware and the sensor -/

/-- What may happen: an event of main.c, where a statement that reads the light meets `bus`;
    or a conversion between the readings. -/
inductive FirmwareEv where
  | ev (e : Ev) (bus : ℕ → BusAccess)
  | convert (v : Conversion)

/-- A statement reads the light from the sensor. -/
def sensed (c : Opt3001) (bus : ℕ → BusAccess) : Ev → Ev
  | .main env => .main { env with i2c := c.i2c bus }
  | e => e

/-- What an event is for the sensor. -/
def lightEvents (f : Sys × Opt3001) : FirmwareEv → List LightEv
  | .ev e bus => if e.isMain && f.1.pc.readsLight then [.read bus] else []
  | .convert v => [.convert v]

def firmwareStep (f : Sys × Opt3001) : FirmwareEv → (Sys × Opt3001) × List Obs
  | .ev e bus =>
    (((sysStep f.1 (sensed f.2 bus e)).1,
      if e.isMain && f.1.pc.readsLight then f.2.after bus else f.2),
      (sysStep f.1 (sensed f.2 bus e)).2)
  | .convert v => ((f.1, f.2.convert v), [])

/-- From boot; line 358 has initialised the sensor, as far as its transfers got through. -/
def firmware (unique : UInt64) (bytes₁ bytes₂ : ℕ) (c₀ : Opt3001) :
    Machine (Sys × Opt3001) FirmwareEv Obs :=
  ⟨(⟨boot unique, .processAction⟩, opt3001_init bytes₁ bytes₂ c₀), firmwareStep⟩

/-- What the sensor shows: its conversions, and the readings that the firmware makes. -/
def lightShown (f : Sys × Opt3001) (e : FirmwareEv) : List LightObs :=
  (lightEvents f e).flatMap fun x => (f.2.step x).2

def LightObs.value : LightObs → Option UInt16
  | .converted _ => none
  | .reading value => some value

/-- The latest reading. -/
def lastReading (os : List LightObs) : Option UInt16 := (os.filterMap LightObs.value).getLast?

/-- The conversions and the readings of a run. -/
def lightTrace (M : Machine (Sys × Opt3001) FirmwareEv Obs) (es : List FirmwareEv) :
    List LightObs :=
  (M.watch lightShown).trace es

/-- A level that `v` stands for is read at all times. -/
def levelOf (v : Option UInt16) : Sources where
  lux _ x := ∃ raw, v = some raw ∧ x = opt3001_conv raw
  rssi _ _ := True
  vdd _ _ := True

/-! ## Readings -/

theorem lastReading_append {os ps : List LightObs} (hps : ∀ v, .reading v ∉ ps) :
    lastReading (os ++ ps) = lastReading os := by
  have hnone : ps.filterMap LightObs.value = [] := by
    refine List.filterMap_eq_nil_iff.mpr fun o ho => ?_
    cases o with
    | converted raw => rfl
    | reading v => exact absurd ho (hps v)
  unfold lastReading
  rw [List.filterMap_append, hnone, List.append_nil]

theorem lastReading_snoc (os : List LightObs) (v : UInt16) :
    lastReading (os ++ [.reading v]) = some v := by
  unfold lastReading
  rw [List.filterMap_append]
  exact List.getLast?_concat

theorem lastReading_split {os : List LightObs} {v : UInt16} (h : lastReading os = some v) :
    ∃ a b, os = a ++ .reading v :: b ∧ ∀ w, .reading w ∉ b := by
  induction os using List.reverseRecOn with
  | nil => cases h
  | append_singleton os o ih =>
    cases o with
    | converted raw =>
      rw [lastReading_append (by simp)] at h
      obtain ⟨a, b, rfl, hb⟩ := ih h
      refine ⟨a, b ++ [.converted raw], by simp, fun w hw => ?_⟩
      rcases List.mem_append.mp hw with hw | hw
      · exact hb w hw
      · simp at hw
    | reading w =>
      rw [lastReading_snoc] at h
      obtain rfl := Option.some.inj h
      exact ⟨os, [], rfl, fun _ => List.not_mem_nil⟩

/-! ## Runs -/

variable (unique : UInt64) (bytes₁ bytes₂ : ℕ) (c₀ : Opt3001)

/-- The sensor's part of a run is a run of its own machine. -/
theorem lightTrace_eq (es : List FirmwareEv) :
    lightTrace (firmware unique bytes₁ bytes₂ c₀) es =
      (Opt3001.machine (opt3001_init bytes₁ bytes₂ c₀)).trace
        (((firmware unique bytes₁ bytes₂ c₀).watch lightEvents).trace es) := by
  refine Machine.component_trace _ _ Prod.snd lightEvents lightShown rfl ?_ ?_ es
  · rintro f (⟨e, bus⟩ | v)
    · show (if e.isMain && f.1.pc.readsLight then f.2.after bus else f.2) =
        Machine.runFrom _ f.2 (if e.isMain && f.1.pc.readsLight then [LightEv.read bus] else [])
      split_ifs <;> rfl
    · rfl
  · rintro f (⟨e, bus⟩ | v)
    · unfold lightShown lightEvents
      dsimp only
      split_ifs <;> rfl
    · rfl

/-- The firmware does not initialise the sensor again. -/
theorem init_not_mem_lightEvents (es : List FirmwareEv) {b₁ b₂ : ℕ} :
    .init b₁ b₂ ∉ ((firmware unique bytes₁ bytes₂ c₀).watch lightEvents).trace es := by
  intro h
  obtain ⟨pre, e, -, hmem⟩ := Machine.mem_trace _ h
  rw [Machine.state_watch] at hmem
  cases e with
  | ev e bus =>
    simp only [Machine.watch, lightEvents] at hmem
    split_ifs at hmem <;> simp at hmem
  | convert v => simp [Machine.watch, lightEvents] at hmem

theorem lightTrace_snoc (es : List FirmwareEv) (e : FirmwareEv) :
    lightTrace (firmware unique bytes₁ bytes₂ c₀) (es ++ [e]) =
      lightTrace (firmware unique bytes₁ bytes₂ c₀) es ++
        lightShown ((firmware unique bytes₁ bytes₂ c₀).state es) e := by
  unfold lightTrace
  rw [Machine.trace_snoc, Machine.state_watch]
  rfl

/-- The message on its way has the level of the latest reading. -/
theorem drafted_firmware (es : List FirmwareEv) :
    Drafted (levelOf (lastReading (lightTrace (firmware unique bytes₁ bytes₂ c₀) es)))
      ((firmware unique bytes₁ bytes₂ c₀).state es).1 := by
  induction es using List.reverseRecOn with
  | nil => trivial
  | append_singleton es e ih =>
    rw [lightTrace_snoc, Machine.state_snoc]
    generalize lightTrace (firmware unique bytes₁ bytes₂ c₀) es = os at ih ⊢
    generalize (firmware unique bytes₁ bytes₂ c₀).state es = f at ih ⊢
    obtain ⟨s, c⟩ := f
    cases e with
    | convert v =>
      have hnone : ∀ w, .reading w ∉ lightShown (s, c) (.convert v) := by
        intro w
        simp only [lightShown, lightEvents, List.flatMap_singleton, Opt3001.step]
        split_ifs <;> simp
      rw [lastReading_append hnone]
      exact ih
    | ev e bus =>
      by_cases he : e.isMain = false
      · have hsensed : sensed c bus e = e := by
          cases e with
          | main env => cases he
          | _ => rfl
        have hshown : lightShown (s, c) (.ev e bus) = [] := by
          simp [lightShown, lightEvents, he]
        rw [hshown, List.append_nil]
        show Drafted _ (sysStep s (sensed c bus e)).1
        rw [hsensed]
        exact drafted_other he ih (fun _ _ h => h) (fun _ _ h => h) (fun _ _ h => h)
      · cases e with
        | main env =>
          show Drafted _ (mainStep { env with i2c := c.i2c bus } s).1
          cases hreads : s.pc.readsLight with
          | true =>
            have hshown : lightShown (s, c) (.ev (.main env) bus) =
                c.convertedDuring bus ++ [.reading (opt3001_read (c.i2c bus))] := by
              simp [lightShown, lightEvents, Ev.isMain, hreads, Opt3001.step]
            rw [hshown, ← List.append_assoc, lastReading_snoc]
            exact drafted_mainStep _ ih (fun _ => ⟨_, rfl, rfl⟩)
              (fun hnot => absurd (hreads.symm.trans hnot) (by decide))
              (fun _ _ h => h) trivial (fun _ _ h => h) trivial
          | false =>
            have hshown : lightShown (s, c) (.ev (.main env) bus) = [] := by
              simp [lightShown, lightEvents, hreads]
            rw [hshown, List.append_nil]
            exact drafted_mainStep _ ih
              (fun hread => absurd (hreads.symm.trans hread) (by decide))
              (fun _ _ _ h => h) (fun _ _ h => h) trivial (fun _ _ h => h) trivial
        | _ => exact absurd rfl he

/-! ## Levels -/

/-- The level that a reading stands for: 12 bits, scaled by the exponent above them. -/
theorem level_toNat (raw : UInt16) :
    (toUInt32 (opt3001_conv raw)).toNat =
      raw.toNat % 4096 * (10 * 2 ^ (raw.toNat / 4096)) := by
  have hlt : raw.toNat < 65536 := raw.toNat_lt
  have hm : (raw &&& 0x0FFF).toNat = raw.toNat % 4096 := by
    rw [UInt16.toNat_and]
    exact Nat.and_two_pow_sub_one_eq_mod _ 12
  have he : ((raw &&& 0xF000) >>> 12).toNat = raw.toNat / 4096 := by
    rw [UInt16.toNat_shiftRight, UInt16.toNat_and]
    show (raw.toNat &&& 0xF000) >>> 12 = _
    rw [Nat.shiftRight_and_distrib, Nat.shiftRight_eq_div_pow]
    show raw.toNat / 4096 &&& 2 ^ 4 - 1 = _
    rw [Nat.and_two_pow_sub_one_eq_mod]
    exact Nat.mod_eq_of_lt (by omega)
  have hconv : opt3001_conv raw =
      (((raw.toNat % 4096 * (10 * 2 ^ (raw.toNat / 4096)) : ℕ) : ℤ) : ℚ) := by
    unfold opt3001_conv
    rw [hm, he]
    push_cast
    rfl
  have hpow : 2 ^ (raw.toNat / 4096) ≤ 2 ^ 15 := Nat.pow_le_pow_right (by decide) (by omega)
  have hbound : raw.toNat % 4096 * (10 * 2 ^ (raw.toNat / 4096)) < 2 ^ 32 :=
    calc raw.toNat % 4096 * (10 * 2 ^ (raw.toNat / 4096))
        ≤ 4095 * (10 * 2 ^ 15) := Nat.mul_le_mul (by omega) (Nat.mul_le_mul_left 10 hpow)
      _ < 2 ^ 32 := by decide
  unfold toUInt32
  rw [hconv, Rat.floor_intCast, Int.toNat_natCast]
  exact Nat.mod_eq_of_lt hbound

/-- The levels of the configuration that `opt3001_init` writes, for any status bits. -/
theorem level_of_configuration {raw : UInt16} (h : raw &&& 0xFE1F = 0xC600) :
    62914560 ≤ (toUInt32 (opt3001_conv raw)).toNat ∧
      (toUInt32 (opt3001_conv raw)).toNat ≤ 82575360 := by
  have hlt : raw.toNat < 65536 := raw.toNat_lt
  have hand : raw.toNat &&& 0xFE1F = 0xC600 := by
    have hn := congrArg UInt16.toNat h
    rwa [UInt16.toNat_and] at hn
  -- the bits above and below the status bits
  have hhigh : raw.toNat / 512 = 99 := by
    have hshift : (raw.toNat &&& 0xFE1F) >>> 9 = 0xC600 >>> 9 := congrArg (· >>> 9) hand
    rw [Nat.shiftRight_and_distrib, Nat.shiftRight_eq_div_pow] at hshift
    have hmod : raw.toNat / 512 % 128 = 99 := by
      rw [← Nat.and_two_pow_sub_one_eq_mod _ 7]
      exact hshift
    omega
  have hlow : raw.toNat % 32 = 0 := by
    have hmask : (raw.toNat &&& 0xFE1F) &&& 0x1F = 0xC600 &&& 0x1F := congrArg (· &&& 0x1F) hand
    rw [Nat.and_assoc] at hmask
    rw [← Nat.and_two_pow_sub_one_eq_mod _ 5]
    exact hmask
  have hexp : raw.toNat / 4096 = 12 := by omega
  rw [level_toNat, hexp]
  omega

/-- A transfer that breaks off never raises the level. -/
theorem level_received_le (n : ℕ) (w : UInt16) :
    (toUInt32 (opt3001_conv (received n w))).toNat ≤ (toUInt32 (opt3001_conv w)).toNat := by
  rcases received_cases n w with hr | hr | hr <;> rw [hr]
  · rw [level_toNat]
    exact (Nat.zero_mul _).trans_le (Nat.zero_le _)
  · have hexp : w.toNat / 256 * 256 / 4096 = w.toNat / 4096 := by omega
    rw [level_toNat, level_toNat, high_toNat, hexp]
    exact Nat.mul_le_mul_right _ (by omega)

/-- And so are those of the high byte alone. -/
theorem level_of_received {n : ℕ} {w : UInt16} (h : w &&& 0xFE1F = 0xC600)
    (hne : received n w ≠ 0) :
    62914560 ≤ (toUInt32 (opt3001_conv (received n w))).toNat ∧
      (toUInt32 (opt3001_conv (received n w))).toNat ≤ 82575360 := by
  refine level_of_configuration ?_
  rcases received_cases n w with hr | hr | hr
  · exact absurd hr hne
  · rw [hr, h]
  · have hcomm : (0xFF00 : UInt16) &&& 0xFE1F = 0xFE1F &&& 0xFF00 := by decide
    rw [hr, UInt16.and_assoc, hcomm, ← UInt16.and_assoc, h]
    decide

/-- What a message says about the light, in every run of the firmware over the sensor. Its
    level is that of the latest reading, and this is what a transfer brought of a word: of the
    latest conversion, of which the message then tells the level or a lower one; or of the
    configuration, with the set-up that `opt3001_init` left or what a single shot makes of it.
    If the initialisation got through, the configuration passes for zero or for a level between
    62914560 and 82575360. -/
theorem light_levels_classified (es : List FirmwareEv) (e : FirmwareEv) (site : Site) (m : Mem)
    (h : .sender site m ∈ ((firmware unique bytes₁ bytes₂ c₀).step
      ((firmware unique bytes₁ bytes₂ c₀).state es) e).2) :
    ∃ p a b n w, cstr NUL m.tx_buffer = payloadText p ∧
      lightTrace (firmware unique bytes₁ bytes₂ c₀) es = a ++ .reading (received n w) :: b ∧
      (∀ v, .reading v ∉ b) ∧ p.opt_buf = toUInt32 (opt3001_conv (received n w)) ∧
      ((w = latestConversion c₀ a ∧
          p.opt_buf.toNat ≤ (toUInt32 (opt3001_conv (latestConversion c₀ a))).toNat) ∨
        ((w &&& 0xFE1F = Opt3001.initSetup bytes₁ c₀.setup ∨
            w &&& 0xFE1F = Opt3001.spent (Opt3001.initSetup bytes₁ c₀.setup)) ∧
          (2 ≤ bytes₁ → received n w = 0 ∨
            62914560 ≤ p.opt_buf.toNat ∧ p.opt_buf.toNat ≤ 82575360))) := by
  have hdraft := drafted_firmware unique bytes₁ bytes₂ c₀ es
  have hread := lightTrace_eq unique bytes₁ bytes₂ c₀ es
  generalize lightTrace (firmware unique bytes₁ bytes₂ c₀) es = os at hdraft hread ⊢
  have hsend : ((firmware unique bytes₁ bytes₂ c₀).state es).1.pc = site.pc ∧
      m = ((firmware unique bytes₁ bytes₂ c₀).state es).1.mem := by
    cases e with
    | ev e bus => exact sender_mem_sysStep h
    | convert v => cases h
  obtain ⟨hpc, rfl⟩ := hsend
  obtain ⟨p, htext, hreports⟩ := hdraft.sent hpc
  obtain ⟨level, ⟨v, hv, rfl⟩, hopt⟩ := hreports.opt_buf
  obtain ⟨a, b, hos, hb⟩ := lastReading_split hv
  -- the sensor is initialised once, before the run
  have hclass := (lightRun (S := fun w => w = Opt3001.initSetup bytes₁ c₀.setup ∨
      w = Opt3001.spent (Opt3001.initSetup bytes₁ c₀.setup)) (opt3001_init bytes₁ bytes₂ c₀)
    (((firmware unique bytes₁ bytes₂ c₀).watch lightEvents).trace es)
    (Or.inl (c₀.setup_init bytes₁ bytes₂)) ?_ ?_).classified
  · rw [← hread] at hclass
    obtain ⟨n, w, rfl, hw⟩ := hclass a v b hos
    have hlatest : latestConversion (opt3001_init bytes₁ bytes₂ c₀) a = latestConversion c₀ a := by
      unfold latestConversion
      rw [Opt3001.result_init]
    refine ⟨p, a, b, n, w, htext, hos, hb, hopt, ?_⟩
    rw [hopt]
    rcases hw with hw | hw
    · rw [hlatest] at hw
      exact Or.inl ⟨hw, hw ▸ level_received_le n w⟩
    · refine Or.inr ⟨hw, fun hbytes => ?_⟩
      have hword : w &&& 0xFE1F = 0xC600 := by
        have hinit : Opt3001.initSetup bytes₁ c₀.setup = 0xC600 := if_pos hbytes
        have hspent : Opt3001.spent 0xC600 = 0xC600 := by decide
        rcases hw with hw | hw
        · exact hw.trans hinit
        · rw [hw, hinit, hspent]
      by_cases hzero : received n w = 0
      · exact Or.inl hzero
      · exact Or.inr (level_of_received hword hzero)
  · rintro w (rfl | rfl)
    · exact Or.inr rfl
    · exact Or.inr (Opt3001.spent_spent _)
  · intro b₁ b₂ hinit
    exact absurd hinit (init_not_mem_lightEvents unique bytes₁ bytes₂ c₀ es)

/-- A light sensor as it powers up. -/
def powerUp : Opt3001 := ⟨0, DEFAULT_CONFIG_SHDWN, 0⟩

/-- An alive packet, up to its send, while nothing converts. -/
def dark : List FirmwareEv := aliveFormatted.map fun e => .ev e fun _ => ⟨[], 2, true⟩

theorem light_levels_classified_dark :
    ∃ p a b n w, cstr NUL ((firmware 7 2 2 powerUp).state dark).1.mem.tx_buffer = payloadText p ∧
      lightTrace (firmware 7 2 2 powerUp) dark = a ++ .reading (received n w) :: b ∧
      (∀ v, .reading v ∉ b) ∧ p.opt_buf = toUInt32 (opt3001_conv (received n w)) ∧
      ((w = latestConversion powerUp a ∧
          p.opt_buf.toNat ≤ (toUInt32 (opt3001_conv (latestConversion powerUp a))).toNat) ∨
        ((w &&& 0xFE1F = Opt3001.initSetup 2 powerUp.setup ∨
            w &&& 0xFE1F = Opt3001.spent (Opt3001.initSetup 2 powerUp.setup)) ∧
          (2 ≤ 2 → received n w = 0 ∨
            62914560 ≤ p.opt_buf.toNat ∧ p.opt_buf.toNat ≤ 82575360))) := by
  have hsend : ((firmware 7 2 2 powerUp).state dark).1.pc = Site.alive.pc := by
    decide +kernel
  refine light_levels_classified 7 2 2 powerUp dark
    (.ev (.main (.sample false)) fun _ => ⟨[], 2, true⟩) .alive _ ?_
  generalize (firmware 7 2 2 powerUp).state dark = f at hsend ⊢
  obtain ⟨⟨m, pc⟩, c⟩ := f
  obtain rfl := hsend
  exact List.mem_cons_self

end OtIpr
