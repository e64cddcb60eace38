/-
  acc_hal_integration_efr.c, `acc_hal_integration_wait_for_sensor_interrupt`, statement by
  statement: the wait for the radar's interrupt line among interrupts.

  Between two statements time may pass, the sensor may move the INT pin, and other interrupts
  may come. `initGPIO` configures the pin's interrupt on rising edges only. The loop tests the
  pin with interrupts disabled right before it sleeps; an interrupt that comes then stays
  pending, and WFI does not sleep or wakes.

  * `waits_accepted`: each call accesses the hardware and returns as the function of `Hal/Wait`
    does in the world it met.
  * `rise_answered`: a pin that rises and stays high makes the call return true, whatever the
    statement it rose at, without help of another interrupt.
  * `sleeps_past_timeout`: the timeout alone never ends the sleep.
-/
import OtIpr.Hal.Wait
import OtIpr.Lib.Machine

namespace OtIpr

open Lib

variable (T : Sleeptimer)

/-- The statement to run next. -/
inductive WaitPc where
  | idle         -- no call
  | readBegin    -- 144
  | testPin      -- 145
  | testTicks    -- 146
  | disable      -- 149
  | testAgain    -- 151
  | wfi          -- 153
  | asleep
  | enable       -- 157
  | readPin      -- 160
deriving Repr, DecidableEq

/-- The core, the pin and the clock. -/
structure Core where
  pc : WaitPc
  time : ℕ
  pin : Bool
  masked : Bool         -- PRIMASK
  pending : Bool        -- an enabled interrupt is pending
  timeout_ms : UInt32
  wait_begin_ms : UInt32
deriving Repr, DecidableEq

/-- What may happen next. -/
inductive WaitEv where
  | call (timeout_ms : UInt32)
  | cpu                    -- the next statement
  | isr                    -- the handlers of the pending interrupts
  | tick
  | drive (level : Bool)   -- the sensor drives the pin
  | other                  -- another interrupt comes
deriving Repr, DecidableEq

inductive WaitObs where
  | called (timeout_ms : UInt32)
  | access (time : ℕ) (pin : Bool)
  | returned (high : Bool)
deriving Repr, DecidableEq

/-- `GPIO_PinInGet` and `sl_sleeptimer_get_tick_count`: an access to the hardware. -/
def Core.accessed (s : Core) : WaitObs := .access s.time s.pin

/-- One statement of `acc_hal_integration_wait_for_sensor_interrupt`. -/
def waitStatement (s : Core) : Core × List WaitObs :=
  match s.pc with
  | .idle => (s, [])
  | .readBegin =>
    ({ s with pc := .testPin, wait_begin_ms := T.get_tick_count s.time }, [s.accessed])
  | .testPin => ({ s with pc := if s.pin then .readPin else .testTicks }, [s.accessed])
  | .testTicks =>
    ({ s with
        pc := if T.get_tick_count s.time - s.wait_begin_ms < s.timeout_ms then .disable
          else .readPin },
      [s.accessed])
  | .disable => ({ s with pc := .testAgain, masked := true }, [])
  | .testAgain => ({ s with pc := if s.pin then .enable else .wfi }, [s.accessed])
  | .wfi => ({ s with pc := if s.pending then .enable else .asleep }, [])
  | .asleep => ({ s with pc := if s.pending then .enable else .asleep }, [])
  | .enable => ({ s with pc := .testPin, masked := false }, [])
  | .readPin => ({ s with pc := .idle }, [s.accessed, .returned s.pin])

def waitStep (s : Core) : WaitEv → Core × List WaitObs
  | .call timeout_ms =>
    if s.pc = .idle then
      ({ s with pc := .readBegin, timeout_ms := timeout_ms }, [.called timeout_ms])
    else (s, [])
  | .cpu => waitStatement T s
  | .isr => ({ s with pending := s.pending && s.masked }, [])
  | .tick => ({ s with time := s.time + 1 }, [])
  | .drive level => ({ s with pin := level, pending := s.pending || (level && !s.pin) }, [])
  | .other => ({ s with pending := true }, [])

/-- After `initGPIO`; no call yet. -/
def Core.start : Core where
  pc := .idle
  time := 0
  pin := false
  masked := false
  pending := false
  timeout_ms := 0
  wait_begin_ms := 0

def waitMachine : Machine Core WaitEv WaitObs := ⟨.start, waitStep T⟩

@[simp] theorem waitMachine_step (s : Core) (e : WaitEv) :
    (waitMachine T).step s e = waitStep T s e := rfl

/-! ## The worlds of the calls -/

/-- The latest instant of some accesses. -/
def latest (acc : List (ℕ × Bool)) : ℕ := (acc.map Prod.fst).foldl max 0

theorem latest_append (acc : List (ℕ × Bool)) (x : ℕ × Bool) :
    latest (acc ++ [x]) = max (latest acc) x.1 := by
  unfold latest
  rw [List.map_append, List.foldl_append]
  rfl

theorem latest_mono {acc acc' : List (ℕ × Bool)} (h : acc <+: acc') : latest acc ≤ latest acc' := by
  obtain ⟨rest, rfl⟩ := h
  induction rest using List.reverseRecOn with
  | nil => rw [List.append_nil]
  | append_singleton rest x ih =>
    rw [← List.append_assoc, latest_append]
    exact ih.trans (Nat.le_max_left _ _)

/-- The world that shows these instants and levels, in this order. -/
def worldOf (acc : List (ℕ × Bool)) : World where
  time n := latest (acc.take (n + 1))
  pin n := (acc[n]?.map Prod.snd).getD false
  monotone := fun _ _ hmn => latest_mono (List.take_prefix_take_left (Nat.succ_le_succ hmn))

section Append

variable {acc : List (ℕ × Bool)} {x : ℕ × Bool} {n : ℕ}

theorem worldOf_time_append (h : n < acc.length) :
    (worldOf (acc ++ [x])).time n = (worldOf acc).time n := by
  show latest ((acc ++ [x]).take (n + 1)) = latest (acc.take (n + 1))
  rw [List.take_append_of_le_length h]

theorem worldOf_pin_append (h : n < acc.length) :
    (worldOf (acc ++ [x])).pin n = (worldOf acc).pin n := by
  show ((acc ++ [x])[n]?.map Prod.snd).getD false = (acc[n]?.map Prod.snd).getD false
  rw [List.getElem?_append_left h]

/-- The newest access is shown as it was. -/
theorem worldOf_time_last (h : latest acc ≤ x.1) :
    (worldOf (acc ++ [x])).time acc.length = x.1 := by
  show latest ((acc ++ [x]).take (acc.length + 1)) = x.1
  rw [List.take_of_length_le (by simp), latest_append, Nat.max_eq_right h]

theorem worldOf_pin_last : (worldOf (acc ++ [x])).pin acc.length = x.2 := by
  show ((acc ++ [x])[acc.length]?.map Prod.snd).getD false = x.2
  rw [List.getElem?_append_right (Nat.le_refl _), Nat.sub_self]
  rfl

variable {T} {timeout_ms : UInt32}

theorem withinTimeout_append (h : n < acc.length) :
    withinTimeout T (worldOf (acc ++ [x])) timeout_ms n ↔
      withinTimeout T (worldOf acc) timeout_ms n := by
  unfold withinTimeout
  rw [worldOf_time_append h, worldOf_time_append (by omega)]

/-- A further access leaves the passes before it. -/
theorem stays_append {j : ℕ} (h : 2 + 3 * j < acc.length) :
    Stays T (worldOf (acc ++ [x])) timeout_ms j ↔ Stays T (worldOf acc) timeout_ms j := by
  unfold Stays
  rw [worldOf_pin_append (by omega), withinTimeout_append h]

/-- Enough fuel reaches the pass that leaves. -/
theorem returns_of_leaves {w : World} {k fuel : ℕ} (hk : LeavesAt T w timeout_ms k)
    (hfuel : k < fuel) :
    acc_hal_integration_wait_for_sensor_interrupt T w timeout_ms fuel =
      some (lastAccess w k, w.pin (lastAccess w k)) := by
  have hexit : firstExit (Stays T w timeout_ms) fuel 0 = some k :=
    firstExit_eq_some.mpr ⟨Nat.zero_le _, by omega, hk.1, fun j _ hj => hk.2 j hj⟩
  have hloop : waitLoop T w timeout_ms fuel 1 =
      (firstExit (Stays T w timeout_ms) fuel 0).map (lastAccess w) := waitLoop_eq fuel 0
  unfold acc_hal_integration_wait_for_sensor_interrupt
  rw [hloop, hexit]
  rfl

end Append

/-! ## The statements follow the function -/

/-- What may be observed next. Outside of a call, only a call. In a call with `timeout_ms`,
    accesses to the hardware, and a return as the function makes it in their world. -/
def waitSpec : Option (UInt32 × List (ℕ × Bool)) → WaitObs →
    Option (Option (UInt32 × List (ℕ × Bool)))
  | none, .called timeout_ms => some (some (timeout_ms, []))
  | some (timeout_ms, acc), .access time pin => some (some (timeout_ms, acc ++ [(time, pin)]))
  | some (timeout_ms, acc), .returned high =>
    if acc_hal_integration_wait_for_sensor_interrupt T (worldOf acc) timeout_ms acc.length =
        some (acc.length - 1, high) then some none
    else none
  | _, _ => none

/-- Where the function stands at a statement, after the accesses `acc`. -/
def PositionAt (timeout_ms : UInt32) (acc : List (ℕ × Bool)) : WaitPc → Prop
  | .idle => False
  | .readBegin => acc = []
  | .testPin | .wfi | .asleep | .enable =>
    ∃ k, acc.length = 1 + 3 * k ∧ ∀ j < k, Stays T (worldOf acc) timeout_ms j
  | .testTicks =>
    ∃ k, acc.length = 2 + 3 * k ∧ (worldOf acc).pin (1 + 3 * k) = false ∧
      ∀ j < k, Stays T (worldOf acc) timeout_ms j
  | .disable | .testAgain =>
    ∃ k, acc.length = 3 + 3 * k ∧ ∀ j ≤ k, Stays T (worldOf acc) timeout_ms j
  | .readPin =>
    ∃ k, (∀ j < k, Stays T (worldOf acc) timeout_ms j) ∧
      (((worldOf acc).pin (1 + 3 * k) = true ∧ acc.length = 2 + 3 * k) ∨
        ((worldOf acc).pin (1 + 3 * k) = false ∧
          ¬ withinTimeout T (worldOf acc) timeout_ms (2 + 3 * k) ∧ acc.length = 3 + 3 * k))

/-- The core in a call with `timeout_ms`, after the accesses `acc`. -/
structure Calling (timeout_ms : UInt32) (acc : List (ℕ × Bool)) (s : Core) : Prop where
  timeout : s.timeout_ms = timeout_ms
  latest_le : latest acc ≤ s.time
  begin_eq : s.pc ≠ .readBegin → s.wait_begin_ms = T.get_tick_count ((worldOf acc).time 0)
  position : PositionAt T timeout_ms acc s.pc

def Waits : Option (UInt32 × List (ℕ × Bool)) → Core → Prop
  | none, s => s.pc = .idle
  | some (timeout_ms, acc), s => Calling T timeout_ms acc s

variable {T}

/-- What a call makes of the core does not depend on the pin or on interrupts. -/
theorem calling_congr {timeout_ms : UInt32} {acc : List (ℕ × Bool)} {s t : Core}
    (h : Calling T timeout_ms acc s) (hpc : t.pc = s.pc) (htime : s.time ≤ t.time)
    (hto : t.timeout_ms = s.timeout_ms) (hbegin : t.wait_begin_ms = s.wait_begin_ms) :
    Calling T timeout_ms acc t where
  timeout := hto.trans h.timeout
  latest_le := h.latest_le.trans htime
  begin_eq := fun hne => hbegin.trans (h.begin_eq (by rwa [hpc] at hne))
  position := by rw [hpc]; exact h.position

theorem calling_statement {timeout_ms : UInt32} {acc : List (ℕ × Bool)} {s : Core}
    (h : Calling T timeout_ms acc s) :
    ∃ k, (waitStatement T s).2.foldlM (waitSpec T) (some (timeout_ms, acc)) = some k ∧
      Waits T k (waitStatement T s).1 := by
  obtain ⟨hto, hle, hbegin, hpos⟩ := h
  -- what an access adds
  have hlatest : latest (acc ++ [(s.time, s.pin)]) ≤ s.time := by
    rw [latest_append]
    exact Nat.max_le.mpr ⟨hle, Nat.le_refl _⟩
  have hstart : acc ≠ [] → (worldOf (acc ++ [(s.time, s.pin)])).time 0 = (worldOf acc).time 0 :=
    fun hne => worldOf_time_append (List.length_pos_iff.mpr hne)
  unfold waitStatement
  cases hp : s.pc with
  | idle =>
    rw [hp] at hpos
    exact absurd hpos id
  | readBegin =>
    rw [hp] at hpos
    obtain rfl : acc = [] := hpos
    refine ⟨some (timeout_ms, [(s.time, s.pin)]), rfl, hto, hlatest, fun _ => ?_, 0, rfl, nofun⟩
    show T.get_tick_count s.time = T.get_tick_count ((worldOf ([] ++ [(s.time, s.pin)])).time 0)
    rw [show (0 : ℕ) = ([] : List (ℕ × Bool)).length from rfl, worldOf_time_last hle]
  | testPin =>
    rw [hp] at hpos hbegin
    obtain ⟨k, hlen, hstay⟩ := hpos
    have hstay' : ∀ j < k, Stays T (worldOf (acc ++ [(s.time, s.pin)])) timeout_ms j :=
      fun j hj => (stays_append (by omega)).mpr (hstay j hj)
    have hpin : (worldOf (acc ++ [(s.time, s.pin)])).pin (1 + 3 * k) = s.pin := by
      rw [← hlen, worldOf_pin_last]
    have hlen' : (acc ++ [(s.time, s.pin)]).length = 2 + 3 * k := by
      rw [List.length_append, hlen, List.length_singleton]
      omega
    have hbegin' : s.wait_begin_ms =
        T.get_tick_count ((worldOf (acc ++ [(s.time, s.pin)])).time 0) := by
      rw [hstart (List.ne_nil_of_length_pos (by omega))]
      exact hbegin (by decide)
    refine ⟨some (timeout_ms, acc ++ [(s.time, s.pin)]), rfl, hto, hlatest, fun _ => hbegin', ?_⟩
    cases hs : s.pin with
    | true =>
      rw [hs] at hpin hlen' hstay'
      exact ⟨k, hstay', Or.inl ⟨hpin, hlen'⟩⟩
    | false =>
      rw [hs] at hpin hlen' hstay'
      exact ⟨k, hlen', hpin, hstay'⟩
  | testTicks =>
    rw [hp] at hpos hbegin
    obtain ⟨k, hlen, hpin, hstay⟩ := hpos
    have hstay' : ∀ j < k, Stays T (worldOf (acc ++ [(s.time, s.pin)])) timeout_ms j :=
      fun j hj => (stays_append (by omega)).mpr (hstay j hj)
    have hpin' : (worldOf (acc ++ [(s.time, s.pin)])).pin (1 + 3 * k) = false := by
      rw [worldOf_pin_append (by omega)]
      exact hpin
    have hlen' : (acc ++ [(s.time, s.pin)]).length = 3 + 3 * k := by
      rw [List.length_append, hlen, List.length_singleton]
      omega
    have hbegin' : s.wait_begin_ms =
        T.get_tick_count ((worldOf (acc ++ [(s.time, s.pin)])).time 0) := by
      rw [hstart (List.ne_nil_of_length_pos (by omega))]
      exact hbegin (by decide)
    -- the statement compares what the function compares
    have hwithin : withinTimeout T (worldOf (acc ++ [(s.time, s.pin)])) timeout_ms (2 + 3 * k) ↔
        T.get_tick_count s.time - s.wait_begin_ms < s.timeout_ms := by
      unfold withinTimeout
      rw [hto, hbegin', ← hlen, worldOf_time_last hle]
    refine ⟨some (timeout_ms, acc ++ [(s.time, s.pin)]), rfl, hto, hlatest, fun _ => hbegin', ?_⟩
    dsimp only
    split_ifs with hticks
    · refine ⟨k, hlen', fun j hj => ?_⟩
      rcases Nat.lt_or_eq_of_le hj with hlt | rfl
      · exact hstay' j hlt
      · exact ⟨hpin', hwithin.mpr hticks⟩
    · exact ⟨k, hstay', Or.inr ⟨hpin', fun hw => hticks (hwithin.mp hw), hlen'⟩⟩
  | disable =>
    rw [hp] at hpos hbegin
    exact ⟨some (timeout_ms, acc), rfl, hto, hle, fun _ => hbegin (by decide), hpos⟩
  | testAgain =>
    rw [hp] at hpos hbegin
    obtain ⟨k, hlen, hstay⟩ := hpos
    have hnext : ∃ k', (acc ++ [(s.time, s.pin)]).length = 1 + 3 * k' ∧
        ∀ j < k', Stays T (worldOf (acc ++ [(s.time, s.pin)])) timeout_ms j := by
      refine ⟨k + 1, ?_, fun j hj => (stays_append (by omega)).mpr (hstay j (by omega))⟩
      rw [List.length_append, hlen, List.length_singleton]
      omega
    have hbegin' : s.wait_begin_ms =
        T.get_tick_count ((worldOf (acc ++ [(s.time, s.pin)])).time 0) := by
      rw [hstart (List.ne_nil_of_length_pos (by omega))]
      exact hbegin (by decide)
    refine ⟨some (timeout_ms, acc ++ [(s.time, s.pin)]), rfl, hto, hlatest, fun _ => hbegin', ?_⟩
    dsimp only
    split_ifs
    · exact hnext
    · exact hnext
  | wfi =>
    rw [hp] at hpos hbegin
    refine ⟨some (timeout_ms, acc), rfl, hto, hle, fun _ => hbegin (by decide), ?_⟩
    dsimp only
    split_ifs
    · exact hpos
    · exact hpos
  | asleep =>
    rw [hp] at hpos hbegin
    refine ⟨some (timeout_ms, acc), rfl, hto, hle, fun _ => hbegin (by decide), ?_⟩
    dsimp only
    split_ifs
    · exact hpos
    · exact hpos
  | enable =>
    rw [hp] at hpos hbegin
    exact ⟨some (timeout_ms, acc), rfl, hto, hle, fun _ => hbegin (by decide), hpos⟩
  | readPin =>
    rw [hp] at hpos
    obtain ⟨k, hstay, hleave⟩ := hpos
    have hlen : 2 + 3 * k ≤ acc.length := by
      rcases hleave with ⟨-, hlen⟩ | ⟨-, -, hlen⟩ <;> omega
    have hleaves : LeavesAt T (worldOf (acc ++ [(s.time, s.pin)])) timeout_ms k := by
      refine ⟨fun hk => ?_, fun j hj => (stays_append (by omega)).mpr (hstay j hj)⟩
      have hlow := hk.1
      rw [worldOf_pin_append (by omega)] at hlow
      rcases hleave with ⟨hhigh, -⟩ | ⟨-, hout, hlen'⟩
      · exact absurd (hlow.symm.trans hhigh) (by decide)
      · exact hout ((withinTimeout_append (by omega)).mp hk.2)
    have hlast : lastAccess (worldOf (acc ++ [(s.time, s.pin)])) k = acc.length := by
      unfold lastAccess
      rw [worldOf_pin_append (by omega)]
      rcases hleave with ⟨hhigh, hlen'⟩ | ⟨hlow, -, hlen'⟩
      · rw [if_pos hhigh, hlen']
      · rw [hlow, if_neg (by decide), hlen']
    have hreturn : acc_hal_integration_wait_for_sensor_interrupt T
        (worldOf (acc ++ [(s.time, s.pin)])) timeout_ms (acc ++ [(s.time, s.pin)]).length =
        some ((acc ++ [(s.time, s.pin)]).length - 1, s.pin) := by
      rw [returns_of_leaves hleaves (by rw [List.length_append]; omega), hlast, worldOf_pin_last,
        List.length_append, List.length_singleton, Nat.add_sub_cancel]
    refine ⟨none, ?_, rfl⟩
    show (if _ then some none else none) >>= _ = some none
    rw [if_pos hreturn]
    rfl

theorem waits_waitStep {k : Option (UInt32 × List (ℕ × Bool))} {s : Core} (e : WaitEv)
    (h : Waits T k s) :
    ∃ k', (waitStep T s e).2.foldlM (waitSpec T) k = some k' ∧ Waits T k' (waitStep T s e).1 := by
  match k, h with
  | none, hidle =>
    cases e with
    | call timeout_ms =>
      have hstep : waitStep T s (.call timeout_ms) =
          ({ s with pc := .readBegin, timeout_ms := timeout_ms }, [.called timeout_ms]) :=
        if_pos hidle
      rw [hstep]
      exact ⟨some (timeout_ms, []), rfl, rfl, Nat.zero_le _, fun hne => absurd rfl hne, rfl⟩
    | cpu =>
      have hstep : waitStatement T s = (s, []) := by
        unfold waitStatement
        rw [show s.pc = .idle from hidle]
      exact ⟨none, by rw [waitStep, hstep]; rfl, by rw [waitStep, hstep]; exact hidle⟩
    | _ => exact ⟨none, rfl, hidle⟩
  | some (timeout_ms, acc), hcall =>
    cases e with
    | call timeout =>
      have hbusy : s.pc ≠ .idle := by
        intro hp
        have hpos := Calling.position hcall
        rw [hp] at hpos
        exact hpos
      have hstep : waitStep T s (.call timeout) = (s, []) := if_neg hbusy
      rw [hstep]
      exact ⟨some (timeout_ms, acc), rfl, hcall⟩
    | cpu => exact calling_statement hcall
    | tick => exact ⟨some (timeout_ms, acc), rfl, calling_congr hcall rfl (Nat.le_succ _) rfl rfl⟩
    | _ => exact ⟨some (timeout_ms, acc), rfl, calling_congr hcall rfl (Nat.le_refl _) rfl rfl⟩

variable (T) in
/-- The wait, statement by statement and under every interleaving with the pin, the clock and
    interrupts, refines the function: each call accesses the hardware in the function's order,
    and returns what the function returns in the world of these accesses. -/
theorem waits_accepted (es : List WaitEv) :
    (((waitMachine T).trace es).foldlM (waitSpec T) none).isSome = true := by
  obtain ⟨k, hk, -⟩ := (waitMachine T).accepted (waitSpec T) none (Waits T) rfl
    (fun k s e h => waits_waitStep e h) es
  rw [hk]
  rfl

/-! ## No rise is slept through -/

/-- With interrupts disabled. -/
def WaitPc.guarded : WaitPc → Bool
  | .testAgain | .wfi | .asleep | .enable => true
  | _ => false

/-- Where the core sleeps or is about to, a high pin has its interrupt pending. -/
structure Guarded (s : Core) : Prop where
  masked : s.masked = s.pc.guarded
  pending : s.pc = .wfi ∨ s.pc = .asleep → s.pin = true → s.pending = true

theorem guarded_statement {s : Core} (h : Guarded s) : Guarded (waitStatement T s).1 := by
  obtain ⟨hmasked, hpending⟩ := h
  unfold waitStatement
  cases hp : s.pc with
  | idle =>
    refine ⟨hmasked, fun hw => ?_⟩
    simp [hp] at hw
  | testPin =>
    rw [hp] at hmasked
    cases hs : s.pin with
    | true => exact ⟨hmasked, nofun⟩
    | false => exact ⟨hmasked, nofun⟩
  | testTicks =>
    rw [hp] at hmasked
    dsimp only
    split_ifs
    · exact ⟨hmasked, nofun⟩
    · exact ⟨hmasked, nofun⟩
  | testAgain =>
    rw [hp] at hmasked
    cases hs : s.pin with
    | true => exact ⟨hmasked, nofun⟩
    -- the pin is low, and from here on a rise stays pending
    | false => exact ⟨hmasked, fun _ => nofun⟩
  | wfi =>
    rw [hp] at hmasked hpending
    cases hs : s.pending with
    | true => exact ⟨hmasked, nofun⟩
    | false => exact ⟨hmasked, fun _ hpin => hs.symm.trans (hpending (Or.inl rfl) hpin)⟩
  | asleep =>
    rw [hp] at hmasked hpending
    cases hs : s.pending with
    | true => exact ⟨hmasked, nofun⟩
    | false => exact ⟨hmasked, fun _ hpin => hs.symm.trans (hpending (Or.inr rfl) hpin)⟩
  | readBegin | readPin =>
    rw [hp] at hmasked
    exact ⟨hmasked, nofun⟩
  | disable | enable => exact ⟨rfl, nofun⟩

theorem guarded_waitStep {s : Core} (e : WaitEv) (h : Guarded s) : Guarded (waitStep T s e).1 := by
  cases e with
  | call timeout_ms =>
    simp only [waitStep]
    split_ifs with hidle
    · exact ⟨by rw [h.masked, hidle]; rfl, nofun⟩
    · exact h
  | cpu => exact guarded_statement h
  | isr =>
    refine ⟨h.masked, fun hw hpin => ?_⟩
    have hguard : s.pc.guarded = true := by
      rcases hw with hp | hp <;> rw [show s.pc = _ from hp] <;> rfl
    show (s.pending && s.masked) = true
    rw [h.pending hw hpin, h.masked, hguard]
    rfl
  | tick => exact ⟨h.masked, h.pending⟩
  | drive level =>
    refine ⟨h.masked, fun hw hpin => ?_⟩
    have hlevel : level = true := hpin
    show (s.pending || (level && !s.pin)) = true
    rw [hlevel]
    cases hs : s.pin with
    | true => rw [h.pending hw hs, Bool.true_or]
    | false => exact Bool.or_true _
  | other => exact ⟨h.masked, fun _ _ => rfl⟩

theorem guarded (es : List WaitEv) : Guarded ((waitMachine T).state es) :=
  (waitMachine T).invariant Guarded ⟨rfl, nofun⟩ (fun _ e h => guarded_waitStep e h) es

def WaitEv.isCpu : WaitEv → Bool
  | .cpu => true
  | _ => false

/-- The statements before the return, at a high pin. -/
def WaitPc.toReturn : WaitPc → ℕ
  | .testPin => 1
  | .readBegin | .enable => 2
  | .testAgain | .wfi | .asleep => 3
  | .disable => 4
  | .testTicks => 5
  | .idle | .readPin => 0

/-- In a call, with the pin high. -/
structure High (s : Core) : Prop where
  guarded : Guarded s
  busy : s.pc ≠ .idle
  pin : s.pin = true

/-- At a high pin every statement comes closer to the return. -/
theorem high_statement {s : Core} (h : High s) :
    WaitObs.returned true ∈ (waitStatement T s).2 ∨
      (High (waitStatement T s).1 ∧
        (waitStatement T s).1.pc.toReturn + 1 ≤ s.pc.toReturn) := by
  have hnext := guarded_statement (T := T) h.guarded
  obtain ⟨⟨-, hpending⟩, hbusy, hpin⟩ := h
  cases hp : s.pc with
  | idle => exact absurd hp hbusy
  | readPin =>
    refine Or.inl ?_
    simp [waitStatement, hp, hpin]
  | readBegin | disable | enable =>
    refine Or.inr ⟨⟨hnext, ?_, ?_⟩, ?_⟩
    · simp [waitStatement, hp]
    · simp [waitStatement, hp, hpin]
    · simp [waitStatement, hp, WaitPc.toReturn]
  | testPin | testAgain =>
    refine Or.inr ⟨⟨hnext, ?_, ?_⟩, ?_⟩
    · simp [waitStatement, hp, hpin]
    · simp [waitStatement, hp, hpin]
    · simp [waitStatement, hp, hpin, WaitPc.toReturn]
  | testTicks =>
    refine Or.inr ⟨⟨hnext, ?_, ?_⟩, ?_⟩
    · simp only [waitStatement, hp]
      split_ifs <;> decide
    · simp [waitStatement, hp, hpin]
    · simp only [waitStatement, hp]
      split_ifs <;> decide
  | wfi | asleep =>
    have hpend : s.pending = true := hpending (by simp [hp]) hpin
    refine Or.inr ⟨⟨hnext, ?_, ?_⟩, ?_⟩
    · simp [waitStatement, hp, hpend]
    · simp [waitStatement, hp, hpin]
    · simp [waitStatement, hp, hpend, WaitPc.toReturn]

/-- No rise of the pin is slept through. From any statement of a call, if the pin is high and
    stays high, six statements bring the return of true, without any other interrupt. -/
theorem rise_answered (T : Sleeptimer) (es fs : List WaitEv)
    (hcall : ((waitMachine T).state es).pc ≠ .idle)
    (hpin : ((waitMachine T).state es).pin = true) (hhigh : ∀ e ∈ fs, e ≠ .drive false)
    (hfs : 6 ≤ fs.countP WaitEv.isCpu) :
    .returned true ∈ (waitMachine T).traceFrom ((waitMachine T).state es) fs := by
  have hrank : ((waitMachine T).state es).pc.toReturn ≤ 5 := by
    cases ((waitMachine T).state es).pc <;> simp [WaitPc.toReturn]
  have hans : ∃ o ∈ (waitMachine T).traceFrom ((waitMachine T).state es) fs,
      o = .returned true := by
    refine (waitMachine T).responds_while (· ≠ .drive false) WaitEv.isCpu High
      (fun s => s.pc.toReturn) _ ?_ ⟨guarded es, hcall, hpin⟩ hhigh (by omega)
    intro s e he h
    have hnext := guarded_waitStep (T := T) e h.guarded
    cases e with
    | cpu =>
      rcases high_statement (T := T) h with hret | hnext
      · exact Or.inl ⟨_, hret, rfl⟩
      · exact Or.inr hnext
    | call timeout_ms =>
      have hstep : waitStep T s (.call timeout_ms) = (s, []) := if_neg h.busy
      rw [waitMachine_step, hstep]
      exact Or.inr ⟨h, Nat.le_refl _⟩
    | drive level =>
      have hlevel : level = true := by
        cases level with
        | true => rfl
        | false => exact absurd rfl he
      exact Or.inr ⟨⟨hnext, h.busy, hlevel⟩, Nat.le_refl _⟩
    | _ => exact Or.inr ⟨⟨hnext, h.busy, h.pin⟩, Nat.le_refl _⟩
  obtain ⟨o, ho, rfl⟩ := hans
  exact ho

/-- The pin rises right before the core sleeps, at WFI. -/
def riseAtWfi : List WaitEv := .call 100 :: List.replicate 5 .cpu ++ [.drive true]

theorem rise_answered_wfi :
    .returned true ∈ (waitMachine .reference).traceFrom
      ((waitMachine .reference).state riseAtWfi) (List.replicate 6 .cpu) :=
  rise_answered .reference riseAtWfi (List.replicate 6 .cpu) (by decide +kernel)
    (by decide +kernel) (by decide) (by decide)

/-! ## The timeout -/

def WaitObs.isReturned : WaitObs → Bool
  | .returned _ => true
  | _ => false

/-- The timeout does not end the sleep. Once the core sleeps with nothing pending, the call
    does not return, however long it takes, unless the pin rises or another interrupt comes. -/
theorem sleeps_past_timeout (T : Sleeptimer) (es fs : List WaitEv)
    (hasleep : ((waitMachine T).state es).pc = .asleep)
    (hpending : ((waitMachine T).state es).pending = false)
    (hfs : ∀ e ∈ fs, e ≠ .other ∧ e ≠ .drive true) :
    ((waitMachine T).state (es ++ fs)).pc = .asleep ∧
      ∀ o ∈ (waitMachine T).traceFrom ((waitMachine T).state es) fs, o.isReturned = false := by
  have hkeep : ∀ s e, e ≠ .other ∧ e ≠ .drive true → s.pc = .asleep ∧ s.pending = false →
      (((waitMachine T).step s e).1.pc = .asleep ∧
        ((waitMachine T).step s e).1.pending = false) ∧
      ∀ o ∈ ((waitMachine T).step s e).2, o.isReturned = false := by
    rintro s e ⟨hother, hrise⟩ ⟨hpc, hquiet⟩
    rw [waitMachine_step]
    cases e with
    | call timeout_ms =>
      have hstep : waitStep T s (.call timeout_ms) = (s, []) :=
        if_neg (by rw [hpc]; decide)
      rw [hstep]
      exact ⟨⟨hpc, hquiet⟩, nofun⟩
    | cpu => simp [waitStep, waitStatement, hpc, hquiet]
    | isr => simp [waitStep, hpc, hquiet]
    | tick => simp [waitStep, hpc, hquiet]
    | drive level =>
      cases level with
      | true => exact absurd rfl hrise
      | false => simp [waitStep, hpc, hquiet]
    | other => exact absurd rfl hother
  refine ⟨?_, (waitMachine T).observes_while _ (fun s => s.pc = .asleep ∧ s.pending = false) _
    hkeep ⟨hasleep, hpending⟩ hfs⟩
  rw [Machine.state_append]
  exact ((waitMachine T).keeps_while _ (fun s => s.pc = .asleep ∧ s.pending = false)
    (fun s e he h => (hkeep s e he h).1) ⟨hasleep, hpending⟩ hfs).1

/-- A wait of 2 ticks that sleeps through 5. -/
theorem sleeps_past_timeout_five :
    ((waitMachine .reference).state ((.call 2 :: List.replicate 6 .cpu) ++
        (List.replicate 5 .tick ++ [.cpu]))).pc = .asleep ∧
      ∀ o ∈ (waitMachine .reference).traceFrom
          ((waitMachine .reference).state (.call 2 :: List.replicate 6 .cpu))
          (List.replicate 5 .tick ++ [.cpu]), o.isReturned = false :=
  sleeps_past_timeout .reference (.call 2 :: List.replicate 6 .cpu)
    (List.replicate 5 .tick ++ [.cpu]) (by decide +kernel) (by decide +kernel) (by decide)

end OtIpr
