/-
  acc_hal_integration_efr.c, `acc_hal_integration_sensor_transfer` and `LDMA_IRQHandler`: a
  buffer exchanged with the radar sensor, in place, by two DMA channels.

  The machine runs one statement of the transfer at a time. Before each of them the hardware
  may move bytes, and interrupts may be taken: the one of the DMA, which sets
  `_await_ldma_spi`, and any other. The queues of the EUSART have no bound here; a bound only
  rules out some of these orders. Left out: an overflow of the receive queue, and DMA bus
  errors, on which the handler stops at a breakpoint.

  `transfers_accepted`: in every run, as the caller sees it, each call sends its buffer byte by
  byte with the chip selected and returns with the bytes received against it.
-/
import OtIpr.Lib.Exchange
import OtIpr.Lib.Machine
import Mathlib.Tactic.Common

namespace OtIpr

open Lib

/-- The size of the largest transfer that the HAL announces. -/
def A111_SPI_MAX_TRANSFER_SIZE : ℕ := 2048

/-- The argument of a call: `buffer` with `buffer_size`, as the HAL announces it. -/
structure TransferBuffer where
  bytes : List UInt8
  nonempty : bytes ≠ []
  le_max : bytes.length ≤ A111_SPI_MAX_TRANSFER_SIZE

/-- The statement to run next. -/
inductive TransferPc where
  | idle         -- no call
  | assertCs     -- 96
  | clearAwait   -- 98
  | startRx      -- 112
  | startTx      -- 113
  | testAwait    -- 116
  | enterEm1     -- 117
  | asleep       -- in EM1
  | deassertCs   -- 120
deriving Repr, DecidableEq

/-- The core, the bus and the two DMA channels. -/
structure Bus where
  pc : TransferPc
  cs : Bool                    -- level of A111_CS_PIN
  await_ldma_spi : Bool
  exchange : Duplex UInt8      -- `buffer`, the positions of the channels, and the EUSART queues
  txEnabled : Bool
  rxEnabled : Bool
  txDone : Bool                -- the done flags of `LDMA_IntGet()`
  rxDone : Bool
deriving Repr, DecidableEq

/-- What may happen next. -/
inductive BusEv where
  | call (buffer : TransferBuffer)
  | cpu              -- the next statement
  | ldma             -- the interrupt of the DMA
  | other            -- any other interrupt
  | load             -- the transmit channel moves a byte
  | swap (b : UInt8) -- the EUSART sends a byte and receives `b`
  | store            -- the receive channel moves a byte

inductive BusObs where
  | called (old : List UInt8)
  | wire (cs : Bool) (out inp : UInt8)
  | returned (new : List UInt8)
deriving Repr, DecidableEq

/-! ## The code -/

/-- `LDMA_IRQHandler()` -/
def LDMA_IRQHandler (s : Bus) : Bus :=
  let s := if s.txDone then { s with txDone := false } else s
  if s.rxDone then { s with rxDone := false, await_ldma_spi := true } else s

/-- An interrupt ends EM1. -/
def wake (s : Bus) : Bus :=
  if s.pc = .asleep then { s with pc := .testAwait } else s

/-- One statement of `acc_hal_integration_sensor_transfer`. The core does not enter EM1 with
    an interrupt of the DMA pending. -/
def transferStep (s : Bus) : Bus × List BusObs :=
  match s.pc with
  | .idle => (s, [])
  | .assertCs => ({ s with pc := .clearAwait, cs := false }, [])
  | .clearAwait => ({ s with pc := .startRx, await_ldma_spi := false }, [])
  | .startRx => ({ s with pc := .startTx, rxEnabled := true }, [])
  | .startTx => ({ s with pc := .testAwait, txEnabled := true }, [])
  | .testAwait => ({ s with pc := if s.await_ldma_spi then .deassertCs else .enterEm1 }, [])
  | .enterEm1 => ({ s with pc := if s.txDone || s.rxDone then .testAwait else .asleep }, [])
  | .asleep => (s, [])
  | .deassertCs => ({ s with pc := .idle, cs := true }, [.returned s.exchange.buffer])

/-! ## The hardware -/

/-- The transmit channel moves a byte; after the last it is done. -/
def loadByte (s : Bus) : Bus :=
  if s.txEnabled then
    let x := s.exchange.load
    if x.read = x.buffer.length then
      { s with exchange := x, txEnabled := false, txDone := true }
    else { s with exchange := x }
  else s

/-- The EUSART exchanges a byte, at the level of the chip select. -/
def swapByte (b : UInt8) (s : Bus) : Bus × List BusObs :=
  match (s.exchange.swap b).2 with
  | some a => ({ s with exchange := (s.exchange.swap b).1 }, [.wire s.cs a b])
  | none => (s, [])

/-- The receive channel moves a byte; after the last it is done. -/
def storeByte (s : Bus) : Bus :=
  if s.rxEnabled then
    let x := s.exchange.store
    if x.written = x.buffer.length then
      { s with exchange := x, rxEnabled := false, rxDone := true }
    else { s with exchange := x }
  else s

def busStep (s : Bus) : BusEv → Bus × List BusObs
  | .call buffer =>
    if s.pc = .idle then
      ({ s with
          pc := .assertCs,
          exchange :=
            { s.exchange with buffer := buffer.bytes, read := 0, written := 0 } },
        [.called buffer.bytes])
    else (s, [])
  | .cpu => transferStep s
  | .ldma => (if s.txDone || s.rxDone then wake (LDMA_IRQHandler s) else s, [])
  | .other => (wake s, [])
  | .load => (loadByte s, [])
  | .swap b => swapByte b s
  | .store => (storeByte s, [])

/-- After `initGPIO` and `initLDMA`. -/
def Bus.start : Bus where
  pc := .idle
  cs := true
  await_ldma_spi := false
  exchange := ⟨[], 0, [], [], 0⟩
  txEnabled := false
  rxEnabled := false
  txDone := false
  rxDone := false

def busMachine : Machine Bus BusEv BusObs := ⟨.start, busStep⟩

@[simp] theorem busMachine_step (s : Bus) (e : BusEv) : busMachine.step s e = busStep s e := rfl

/-! ## What the caller sees -/

/-- A call under way: its buffer, and the bytes exchanged so far. -/
structure TransferCall where
  old : List UInt8
  sent : List UInt8
  received : List UInt8

/-- What may be observed next. Outside of a call, only a call. In a call, the next byte of its
    buffer with the chip selected; and, with all of them sent, the return with what was
    received in the buffer. -/
def transferSpec : Option TransferCall → BusObs → Option (Option TransferCall)
  | none, .called old => some (some ⟨old, [], []⟩)
  | some c, .wire false a b =>
    if c.old[c.sent.length]? = some a then
      some (some ⟨c.old, c.sent ++ [a], c.received ++ [b]⟩)
    else none
  | some c, .returned new => if c.sent = c.old ∧ c.received = new then some none else none
  | _, _ => none

/-! ## The phases of a call -/

/-- Between calls nothing is enabled, pending or queued. -/
structure Resting (s : Bus) : Prop where
  pc : s.pc = .idle
  txEnabled : s.txEnabled = false
  rxEnabled : s.rxEnabled = false
  txDone : s.txDone = false
  rxDone : s.rxDone = false
  outgoing : s.exchange.outgoing = []
  incoming : s.exchange.incoming = []

/-- Before the transmit channel is started (lines 96 to 113). -/
structure Opening (s : Bus) : Prop where
  pc : s.pc = .assertCs ∨ s.pc = .clearAwait ∨ s.pc = .startRx ∨ s.pc = .startTx
  cs : s.pc ≠ .assertCs → s.cs = false
  await : s.pc = .startRx ∨ s.pc = .startTx → s.await_ldma_spi = false
  txEnabled : s.txEnabled = false
  rxEnabled : s.rxEnabled = decide (s.pc = .startTx)
  txDone : s.txDone = false
  rxDone : s.rxDone = false
  outgoing : s.exchange.outgoing = []
  incoming : s.exchange.incoming = []
  read : s.exchange.read = 0
  written : s.exchange.written = 0

/-- The transmit channel in a transfer of `n` bytes. -/
structure Sending (n : ℕ) (s : Bus) : Prop where
  enabled : s.txEnabled = true → s.txDone = false ∧ s.exchange.read < n
  disabled : s.txEnabled = false → s.exchange.read = n

/-- The receive channel still runs. -/
structure Receiving (n : ℕ) (s : Bus) : Prop where
  rxEnabled : s.rxEnabled = true
  rxDone : s.rxDone = false
  await : s.await_ldma_spi = false
  written : s.exchange.written < n

/-- The receive channel is done, and its interrupt is pending. -/
structure Received (n : ℕ) (s : Bus) : Prop where
  rxEnabled : s.rxEnabled = false
  rxDone : s.rxDone = true
  await : s.await_ldma_spi = false
  written : s.exchange.written = n

/-- The handler has run: no interrupt of the DMA is pending, and none will be. -/
structure Handled (n : ℕ) (s : Bus) : Prop where
  rxEnabled : s.rxEnabled = false
  rxDone : s.rxDone = false
  txEnabled : s.txEnabled = false
  txDone : s.txDone = false
  await : s.await_ldma_spi = true
  written : s.exchange.written = n

/-- The loop of lines 116 and 117. -/
def TransferPc.waits : TransferPc → Bool
  | .testAwait | .enterEm1 | .asleep => true
  | _ => false

/-- In the loop, with both channels started. -/
structure Waiting (n : ℕ) (s : Bus) : Prop where
  pc : s.pc.waits = true
  cs : s.cs = false
  sending : Sending n s
  receiving : Receiving n s ∨ Received n s ∨ Handled n s

/-- After the loop. -/
structure Closing (n : ℕ) (s : Bus) : Prop where
  pc : s.pc = .deassertCs
  cs : s.cs = false
  handled : Handled n s

/-- The bus during the call `c`. -/
structure InCall (c : TransferCall) (s : Bus) : Prop where
  exchanges : Exchanges c.old c.sent c.received s.exchange
  written_le : s.exchange.written ≤ c.old.length
  nonempty : c.old ≠ []
  phase : Opening s ∨ Waiting c.old.length s ∨ Closing c.old.length s

/-- The bus follows the caller's view. -/
def Follows : Option TransferCall → Bus → Prop
  | none, s => Resting s
  | some c, s => InCall c s

theorem LDMA_IRQHandler_eq (s : Bus) :
    LDMA_IRQHandler s =
      { s with txDone := false, rxDone := false,
               await_ldma_spi := s.await_ldma_spi || s.rxDone } := by
  obtain ⟨pc, cs, await, x, te, re, td, rd⟩ := s
  cases td <;> cases rd <;> simp [LDMA_IRQHandler]

/-- An interrupt leaves everything but the sleep. -/
theorem wake_eq (s : Bus) :
    wake s = { s with pc := if s.pc = .asleep then .testAwait else s.pc } := by
  unfold wake
  split <;> rfl

theorem Resting.wake_eq {s : Bus} (h : Resting s) : wake s = s := by
  unfold wake
  rw [h.pc, if_neg (by decide)]

theorem Opening.wake_eq {s : Bus} (h : Opening s) : wake s = s := by
  unfold wake
  rw [if_neg]
  rcases h.pc with hp | hp | hp | hp <;> rw [hp] <;> decide

theorem waits_wake {pc : TransferPc} (h : pc.waits = true) :
    (if pc = .asleep then TransferPc.testAwait else pc).waits = true := by
  split
  · rfl
  · exact h

/-! ## The hardware in a call -/

/-- The receive channel's progress is its own; once it is over, so is the transmit channel. -/
theorem progress_congr {n : ℕ} {s t : Bus} (h : Receiving n s ∨ Received n s ∨ Handled n s)
    (henabled : t.rxEnabled = s.rxEnabled) (hdone : t.rxDone = s.rxDone)
    (hawait : t.await_ldma_spi = s.await_ldma_spi)
    (hwritten : t.exchange.written = s.exchange.written)
    (hsent : Handled n s → t.txEnabled = false ∧ t.txDone = false) :
    Receiving n t ∨ Received n t ∨ Handled n t := by
  rcases h with hr | hr | hh
  · exact Or.inl ⟨henabled.trans hr.rxEnabled, hdone.trans hr.rxDone, hawait.trans hr.await,
      by rw [hwritten]; exact hr.written⟩
  · exact Or.inr (Or.inl ⟨henabled.trans hr.rxEnabled, hdone.trans hr.rxDone,
      hawait.trans hr.await, hwritten.trans hr.written⟩)
  · obtain ⟨hte, htd⟩ := hsent hh
    exact Or.inr (Or.inr ⟨henabled.trans hh.rxEnabled, hdone.trans hh.rxDone, hte, htd,
      hawait.trans hh.await, hwritten.trans hh.written⟩)

theorem Handled.sent {n : ℕ} {s : Bus} (h : Handled n s) :
    s.txEnabled = false ∧ s.txDone = false :=
  ⟨h.txEnabled, h.txDone⟩

/-- A running transmit channel is in the loop. -/
theorem InCall.sending {c : TransferCall} {s : Bus} (h : InCall c s) (hte : s.txEnabled = true) :
    Waiting c.old.length s := by
  rcases h.phase with ho | hw | hc
  · exact absurd (hte.symm.trans ho.txEnabled) (by decide)
  · exact hw
  · exact absurd (hte.symm.trans hc.handled.txEnabled) (by decide)

theorem inCall_load {c : TransferCall} {s : Bus} (h : InCall c s) : InCall c (loadByte s) := by
  cases hte : s.txEnabled with
  | false =>
    unfold loadByte
    rw [hte]
    exact h
  | true =>
    obtain ⟨hpc, hcs, hsend, hrecv⟩ := h.sending hte
    obtain ⟨hdone, hlt⟩ := hsend.enabled hte
    have hex := h.exchanges.load h.written_le
    have hread : s.exchange.load.read = s.exchange.read + 1 :=
      Duplex.load_read (by rw [h.exchanges.length]; exact hlt)
    have hwritten : s.exchange.load.written ≤ c.old.length := by
      rw [Duplex.load_written]
      exact h.written_le
    have hrun : ¬ Handled c.old.length s := fun hh =>
      absurd (hte.symm.trans hh.txEnabled) (by decide)
    unfold loadByte
    rw [if_pos hte]
    dsimp only
    rw [hex.length]
    split_ifs with hlast
    · exact ⟨hex, hwritten, h.nonempty, Or.inr (Or.inl ⟨hpc, hcs, ⟨nofun, fun _ => hlast⟩,
        progress_congr hrecv rfl rfl rfl (Duplex.load_written _) (absurd · hrun)⟩)⟩
    · have hmore : s.exchange.load.read < c.old.length := by omega
      exact ⟨hex, hwritten, h.nonempty, Or.inr (Or.inl ⟨hpc, hcs,
        ⟨fun _ => ⟨hdone, hmore⟩, fun hd => absurd (hte.symm.trans hd) (by decide)⟩,
        progress_congr hrecv rfl rfl rfl (Duplex.load_written _) (absurd · hrun)⟩)⟩

/-- The EUSART exchanges a byte only with the chip selected: the next byte of the buffer. -/
theorem inCall_swap (b : UInt8) {c : TransferCall} {s : Bus} (h : InCall c s) :
    ∃ c', (swapByte b s).2.foldlM transferSpec (some c) = some (some c') ∧
      InCall c' (swapByte b s).1 := by
  unfold swapByte
  cases hsw : (s.exchange.swap b).2 with
  | none => exact ⟨c, rfl, h⟩
  | some a =>
    have hphase : ¬ Opening s := by
      intro ho
      unfold Duplex.swap at hsw
      rw [ho.outgoing] at hsw
      cases hsw
    have hcs : s.cs = false := by
      rcases h.phase with ho | hw | hc
      · exact absurd ho hphase
      · exact hw.cs
      · exact hc.cs
    refine ⟨⟨c.old, c.sent ++ [a], c.received ++ [b]⟩, ?_, h.exchanges.swap hsw, ?_, h.nonempty, ?_⟩
    · rw [List.foldlM_cons, hcs]
      simp only [transferSpec, h.exchanges.next_eq hsw, if_true]
      rfl
    · show (s.exchange.swap b).1.written ≤ c.old.length
      rw [Duplex.swap_written]
      exact h.written_le
    · rcases h.phase with ho | hw | hc
      · exact absurd ho hphase
      · refine Or.inr (Or.inl ⟨hw.pc, hw.cs, ⟨fun ht => ?_, fun ht => ?_⟩,
          progress_congr hw.receiving rfl rfl rfl (Duplex.swap_written b _) Handled.sent⟩)
        · refine ⟨(hw.sending.enabled ht).1, ?_⟩
          rw [Duplex.swap_read]
          exact (hw.sending.enabled ht).2
        · rw [Duplex.swap_read]
          exact hw.sending.disabled ht
      · obtain ⟨hpc, hcs, hh⟩ := hc
        exact Or.inr (Or.inr ⟨hpc, hcs, hh.rxEnabled, hh.rxDone, hh.txEnabled, hh.txDone,
          hh.await, (Duplex.swap_written b _).trans hh.written⟩)

theorem inCall_store {c : TransferCall} {s : Bus} (h : InCall c s) : InCall c (storeByte s) := by
  cases hre : s.rxEnabled with
  | false =>
    unfold storeByte
    rw [hre]
    exact h
  | true =>
    obtain ⟨hex, hle⟩ := h.exchanges.store h.written_le
    have hlen := hex.length
    unfold storeByte
    rw [if_pos hre]
    dsimp only
    by_cases hin : s.exchange.incoming = []
    · -- nothing has arrived, and the last byte is still missing
      have hlt : s.exchange.written < c.old.length := by
        rcases h.phase with ho | hw | hc
        · rw [ho.written]
          exact List.length_pos_iff.mpr h.nonempty
        · rcases hw.receiving with hr | hr | hh
          · exact hr.written
          · exact absurd (hre.symm.trans hr.rxEnabled) (by decide)
          · exact absurd (hre.symm.trans hh.rxEnabled) (by decide)
        · exact absurd (hre.symm.trans hc.handled.rxEnabled) (by decide)
      rw [Duplex.store_eq_self hin, h.exchanges.length, if_neg (by omega)]
      exact h
    · have hw : Waiting c.old.length s := by
        rcases h.phase with ho | hw | hc
        · exact absurd ho.incoming hin
        · exact hw
        · exact absurd (hre.symm.trans hc.handled.rxEnabled) (by decide)
      obtain ⟨hpc, hcs, hsend, hrecv⟩ := hw
      have hr : Receiving c.old.length s := by
        rcases hrecv with hr | hr | hh
        · exact hr
        · exact absurd (hre.symm.trans hr.rxEnabled) (by decide)
        · exact absurd (hre.symm.trans hh.rxEnabled) (by decide)
      have hsend' : Sending c.old.length { s with exchange := s.exchange.store } := by
        refine ⟨fun ht => ?_, fun ht => ?_⟩
        · rw [Duplex.store_read]
          exact hsend.enabled ht
        · rw [Duplex.store_read]
          exact hsend.disabled ht
      rw [hlen]
      split_ifs with hlast
      · exact ⟨hex, hle, h.nonempty, Or.inr (Or.inl ⟨hpc, hcs,
          ⟨hsend'.enabled, hsend'.disabled⟩, Or.inr (Or.inl ⟨rfl, rfl, hr.await, hlast⟩)⟩)⟩
      · have hmore : s.exchange.store.written < c.old.length := by omega
        exact ⟨hex, hle, h.nonempty, Or.inr (Or.inl ⟨hpc, hcs, hsend',
          Or.inl ⟨hr.rxEnabled, hr.rxDone, hr.await, hmore⟩⟩)⟩

/-! ## Interrupts in a call -/

theorem inCall_wake {c : TransferCall} {s : Bus} (h : InCall c s) : InCall c (wake s) := by
  obtain ⟨hex, hle, hne, hphase⟩ := h
  rcases hphase with ho | hw | hc
  · rw [ho.wake_eq]
    exact ⟨hex, hle, hne, Or.inl ho⟩
  · rw [wake_eq]
    exact ⟨hex, hle, hne, Or.inr (Or.inl ⟨waits_wake hw.pc, hw.cs,
      ⟨hw.sending.enabled, hw.sending.disabled⟩,
      progress_congr hw.receiving rfl rfl rfl rfl Handled.sent⟩)⟩
  · have hwake : wake s = s := by
      unfold wake
      rw [hc.pc, if_neg (by decide)]
    rw [hwake]
    exact ⟨hex, hle, hne, Or.inr (Or.inr hc)⟩

/-- Once all is stored, all was read: the transmit channel is done. -/
theorem Received.txEnabled {c : TransferCall} {s : Bus} (h : InCall c s)
    (hr : Received c.old.length s) (hs : Sending c.old.length s) : s.txEnabled = false := by
  cases hte : s.txEnabled with
  | false => rfl
  | true =>
    have hlt := (hs.enabled hte).2
    have hle := h.exchanges.written_le h.written_le
    rw [hr.written] at hle
    omega

theorem inCall_ldma {c : TransferCall} {s : Bus} (h : InCall c s)
    (hpending : (s.txDone || s.rxDone) = true) : InCall c (LDMA_IRQHandler s) := by
  have hw : Waiting c.old.length s := by
    rcases h.phase with ho | hw | hc
    · rw [ho.txDone, ho.rxDone] at hpending
      cases hpending
    · exact hw
    · rw [hc.handled.txDone, hc.handled.rxDone] at hpending
      cases hpending
  rw [LDMA_IRQHandler_eq]
  refine ⟨h.exchanges, h.written_le, h.nonempty, Or.inr (Or.inl ⟨hw.pc, hw.cs,
    ⟨fun ht => ⟨rfl, (hw.sending.enabled ht).2⟩, hw.sending.disabled⟩, ?_⟩)⟩
  rcases hw.receiving with hr | hr | hh
  · refine Or.inl ⟨hr.rxEnabled, rfl, ?_, hr.written⟩
    show (s.await_ldma_spi || s.rxDone) = false
    rw [hr.await, hr.rxDone]
    rfl
  · have htx : s.txEnabled = false := hr.txEnabled h hw.sending
    refine Or.inr (Or.inr ⟨hr.rxEnabled, rfl, htx, rfl, ?_, hr.written⟩)
    show (s.await_ldma_spi || s.rxDone) = true
    rw [hr.rxDone, Bool.or_true]
  · rw [hh.txDone, hh.rxDone] at hpending
    cases hpending

/-! ## The statements of a call -/

theorem inCall_statement {c : TransferCall} {s : Bus} (h : InCall c s) :
    ∃ k, (transferStep s).2.foldlM transferSpec (some c) = some k ∧
      Follows k (transferStep s).1 := by
  obtain ⟨hex, hle, hne, hphase⟩ := h
  rcases hphase with ho | hw | hc
  · obtain ⟨hpc, hcs, hawait, hte, hre, htd, hrd, hout, hin, hread, hwritten⟩ := ho
    have hpos : 0 < c.old.length := List.length_pos_iff.mpr hne
    unfold transferStep
    rcases hpc with hp | hp | hp | hp <;> rw [hp] at hcs hawait hre ⊢
    · exact ⟨some c, rfl, hex, hle, hne, Or.inl ⟨Or.inr (Or.inl rfl), fun _ => rfl, nofun, hte,
        hre, htd, hrd, hout, hin, hread, hwritten⟩⟩
    · exact ⟨some c, rfl, hex, hle, hne, Or.inl ⟨Or.inr (Or.inr (Or.inl rfl)),
        fun _ => hcs (by decide), fun _ => rfl, hte, hre, htd, hrd, hout, hin, hread, hwritten⟩⟩
    · exact ⟨some c, rfl, hex, hle, hne, Or.inl ⟨Or.inr (Or.inr (Or.inr rfl)),
        fun _ => hcs (by decide), fun _ => hawait (Or.inl rfl), hte, rfl, htd, hrd, hout, hin,
        hread, hwritten⟩⟩
    · refine ⟨some c, rfl, hex, hle, hne, Or.inr (Or.inl ⟨rfl, hcs (by decide),
        ⟨fun _ => ⟨htd, ?_⟩, nofun⟩, Or.inl ⟨hre, hrd, hawait (Or.inr rfl), ?_⟩⟩)⟩
      · rw [hread]
        exact hpos
      · rw [hwritten]
        exact hpos
  · obtain ⟨hpc, hcs, hsend, hrecv⟩ := hw
    unfold transferStep
    cases hp : s.pc with
    | testAwait =>
      dsimp only
      cases ha : s.await_ldma_spi with
      | true =>
        rcases hrecv with hr | hr | hh
        · exact absurd (ha.symm.trans hr.await) (by decide)
        · exact absurd (ha.symm.trans hr.await) (by decide)
        · exact ⟨some c, rfl, hex, hle, hne, Or.inr (Or.inr ⟨rfl, hcs, hh.rxEnabled, hh.rxDone,
            hh.txEnabled, hh.txDone, rfl, hh.written⟩)⟩
      | false =>
        exact ⟨some c, rfl, hex, hle, hne, Or.inr (Or.inl ⟨rfl, hcs,
          ⟨hsend.enabled, hsend.disabled⟩, progress_congr hrecv rfl rfl ha.symm rfl Handled.sent⟩)⟩
    | enterEm1 =>
      have hwaits : (if s.txDone || s.rxDone then TransferPc.testAwait else .asleep).waits =
          true := by
        split <;> rfl
      exact ⟨some c, rfl, hex, hle, hne, Or.inr (Or.inl ⟨hwaits, hcs,
        ⟨hsend.enabled, hsend.disabled⟩,
        progress_congr hrecv rfl rfl rfl rfl Handled.sent⟩)⟩
    | asleep => exact ⟨some c, rfl, hex, hle, hne, Or.inr (Or.inl ⟨hpc, hcs, hsend, hrecv⟩)⟩
    | _ =>
      rw [hp] at hpc
      cases hpc
  · obtain ⟨hpc, hcs, hh⟩ := hc
    obtain ⟨hsent, hbuf, hout, hin⟩ := hex.finished hh.written
    unfold transferStep
    rw [hpc]
    refine ⟨none, ?_, rfl, hh.txEnabled, hh.rxEnabled, hh.txDone, hh.rxDone, hout, hin⟩
    rw [List.foldlM_cons]
    simp only [transferSpec, hsent, hbuf, and_self, if_true]
    rfl

/-! ## The caller's view -/

theorem resting_busStep {s : Bus} (h : Resting s) (e : BusEv) :
    ∃ k, (busStep s e).2.foldlM transferSpec none = some k ∧ Follows k (busStep s e).1 := by
  have hrest := h
  obtain ⟨hpc, hte, hre, htd, hrd, hout, hin⟩ := h
  cases e with
  | call buffer =>
    refine ⟨some ⟨buffer.bytes, [], []⟩, ?_, ?_⟩
    · show (if s.pc = .idle then _ else _ : Bus × List BusObs).2.foldlM transferSpec none = _
      rw [if_pos hpc]
      rfl
    · have hstep : (busStep s (.call buffer)).1 =
          { s with pc := .assertCs, exchange := ⟨buffer.bytes, 0, [], [], 0⟩ } := by
        simp only [busStep, if_pos hpc, hout, hin]
      rw [hstep]
      exact ⟨Exchanges.start _, Nat.zero_le _, buffer.nonempty, Or.inl ⟨Or.inl rfl,
        fun hne => absurd rfl hne, by simp, hte, hre, htd, hrd, rfl, rfl, rfl, rfl⟩⟩
  | cpu =>
    have hstep : transferStep s = (s, []) := by
      unfold transferStep
      rw [hpc]
    exact ⟨none, by rw [busStep, hstep]; rfl, by rw [busStep, hstep]; exact hrest⟩
  | ldma =>
    have hstep : busStep s .ldma = (s, []) := by
      simp [busStep, htd, hrd]
    exact ⟨none, by rw [hstep]; rfl, by rw [hstep]; exact hrest⟩
  | other => exact ⟨none, rfl, by rw [busStep, hrest.wake_eq]; exact hrest⟩
  | load =>
    have hstep : loadByte s = s := by
      unfold loadByte
      rw [hte]
      rfl
    exact ⟨none, rfl, by rw [busStep, hstep]; exact hrest⟩
  | swap b =>
    have hstep : swapByte b s = (s, []) := by
      unfold swapByte Duplex.swap
      rw [hout]
    exact ⟨none, by rw [busStep, hstep]; rfl, by rw [busStep, hstep]; exact hrest⟩
  | store =>
    have hstep : storeByte s = s := by
      unfold storeByte
      rw [hre]
      rfl
    exact ⟨none, rfl, by rw [busStep, hstep]; exact hrest⟩

theorem inCall_busStep {c : TransferCall} {s : Bus} (h : InCall c s) (e : BusEv) :
    ∃ k, (busStep s e).2.foldlM transferSpec (some c) = some k ∧ Follows k (busStep s e).1 := by
  cases e with
  | call buffer =>
    have hbusy : s.pc ≠ .idle := by
      intro hpc
      rcases h.phase with ho | hw | hc
      · have hp := ho.pc
        rw [hpc] at hp
        simp at hp
      · have hp := hw.pc
        rw [hpc] at hp
        cases hp
      · exact absurd (hpc.symm.trans hc.pc) (by decide)
    have hstep : busStep s (.call buffer) = (s, []) := if_neg hbusy
    exact ⟨some c, by rw [hstep]; rfl, by rw [hstep]; exact h⟩
  | cpu => exact inCall_statement h
  | ldma =>
    refine ⟨some c, rfl, ?_⟩
    show InCall c (if s.txDone || s.rxDone then wake (LDMA_IRQHandler s) else s)
    split_ifs with hpending
    · exact inCall_wake (inCall_ldma h hpending)
    · exact h
  | other => exact ⟨some c, rfl, inCall_wake h⟩
  | load => exact ⟨some c, rfl, inCall_load h⟩
  | swap b =>
    obtain ⟨c', hc', hnext⟩ := inCall_swap b h
    exact ⟨some c', hc', hnext⟩
  | store => exact ⟨some c, rfl, inCall_store h⟩

theorem follows_run (es : List BusEv) :
    ∃ k, (busMachine.trace es).foldlM transferSpec none = some k ∧
      Follows k (busMachine.state es) := by
  refine busMachine.accepted transferSpec none Follows ?_ ?_ es
  · exact ⟨rfl, rfl, rfl, rfl, rfl, rfl, rfl⟩
  · intro k s e h
    cases k with
    | none => exact resting_busStep h e
    | some c => exact inCall_busStep h e

/-- The transfer keeps its contract, whatever the order of statements, channels, EUSART and
    interrupts. Calls do not overlap. Each sends its buffer in order, every byte with the chip
    selected, and none is sent outside of a call; it returns once all are sent, with the bytes
    received against them in the buffer. -/
theorem transfers_accepted (es : List BusEv) :
    ((busMachine.trace es).foldlM transferSpec none).isSome = true := by
  obtain ⟨k, hk, -⟩ := follows_run es
  rw [hk]
  rfl

end OtIpr
