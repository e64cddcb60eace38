/-
  acc_hal_integration_efr.c, lines 116 and 117: the wait for the end of a transfer.

  The loop tests `_await_ldma_spi` and enters EM1 with interrupts enabled, so the handler may
  run in between. Then the flag is set and nothing is pending, and the core sleeps on.

  * `sleeps_through_iff`: the core sleeps through a completed transfer exactly if that was so.
  * `transfer_returns`: only another interrupt ends it then; in every other case a completed
    transfer returns with the next two statements.
  * `sleeps_through_any`: it may happen to every transfer.
-/
import OtIpr.Hal.Transfer

namespace OtIpr

open Lib

/-! ## The lost wake-up -/

/-- What a step in a call can do to the core. -/
theorem core_cases {s : Bus} (hbusy : s.pc ≠ .idle) (e : BusEv) :
    e = .cpu ∨
      (e = .ldma ∧
        (busStep s e).1 = if s.txDone || s.rxDone then wake (LDMA_IRQHandler s) else s) ∨
      (e = .other ∧ (busStep s e).1 = wake s) ∨
      (e ≠ .other ∧ (busStep s e).1.pc = s.pc ∧
        (busStep s e).1.await_ldma_spi = s.await_ldma_spi) := by
  cases e with
  | cpu => exact Or.inl rfl
  | ldma => exact Or.inr (Or.inl ⟨rfl, rfl⟩)
  | other => exact Or.inr (Or.inr (Or.inl ⟨rfl, rfl⟩))
  | call buffer =>
    have hstep : busStep s (.call buffer) = (s, []) := if_neg hbusy
    exact Or.inr (Or.inr (Or.inr ⟨by simp, by rw [hstep], by rw [hstep]⟩))
  | load =>
    refine Or.inr (Or.inr (Or.inr ⟨by simp, ?_⟩))
    simp only [busStep, loadByte]
    split_ifs <;> exact ⟨rfl, rfl⟩
  | swap b =>
    refine Or.inr (Or.inr (Or.inr ⟨by simp, ?_⟩))
    simp only [busStep, swapByte]
    split <;> exact ⟨rfl, rfl⟩
  | store =>
    refine Or.inr (Or.inr (Or.inr ⟨by simp, ?_⟩))
    simp only [busStep, storeByte]
    split_ifs <;> exact ⟨rfl, rfl⟩

/-- The core is at `pc`, with `_await_ldma_spi` set. -/
def AwaitedAt (pc : TransferPc) (s : Bus) : Prop := s.pc = pc ∧ s.await_ldma_spi = true

instance (pc : TransferPc) (s : Bus) : Decidable (AwaitedAt pc s) :=
  inferInstanceAs (Decidable (_ ∧ _))

/-- Once the completion is handled no interrupt of the DMA is pending. -/
theorem AwaitedAt.quiet {pc : TransferPc} {s : Bus} {k : Option TransferCall} (h : Follows k s)
    (hbusy : pc ≠ .idle) (ha : AwaitedAt pc s) : s.txDone = false ∧ s.rxDone = false := by
  obtain ⟨rfl, hawait⟩ := ha
  cases k with
  | none => exact absurd (Resting.pc h) hbusy
  | some c =>
    rcases InCall.phase h with ho | hwait | hc
    · exact ⟨ho.txDone, ho.rxDone⟩
    · rcases hwait.receiving with hr | hr | hh
      · exact absurd (hawait.symm.trans hr.await) (by decide)
      · exact absurd (hawait.symm.trans hr.await) (by decide)
      · exact ⟨hh.txDone, hh.rxDone⟩
    · exact ⟨hc.handled.txDone, hc.handled.rxDone⟩

/-- The core is there in a state the caller's view can follow. -/
def StaysAt (pc : TransferPc) (s : Bus) : Prop := (∃ k, Follows k s) ∧ AwaitedAt pc s

theorem follows_busStep {s : Bus} (h : ∃ k, Follows k s) (e : BusEv) :
    ∃ k, Follows k (busStep s e).1 := by
  obtain ⟨k, hk⟩ := h
  cases k with
  | none =>
    obtain ⟨k', -, hk'⟩ := resting_busStep hk e
    exact ⟨k', hk'⟩
  | some c =>
    obtain ⟨k', -, hk'⟩ := inCall_busStep hk e
    exact ⟨k', hk'⟩

/-- Awake, and with the completion handled, only a statement moves the core. -/
theorem staysAt_awake {pc : TransferPc} (hbusy : pc ≠ .idle) (hawake : pc ≠ .asleep) {s : Bus}
    {e : BusEv} (he : e ≠ .cpu) (h : StaysAt pc s) : StaysAt pc (busStep s e).1 := by
  refine ⟨follows_busStep h.1 e, ?_⟩
  obtain ⟨⟨k, hk⟩, ha⟩ := h
  obtain ⟨htd, hrd⟩ := ha.quiet hk hbusy
  rcases core_cases (by rw [ha.1]; exact hbusy) e with rfl | ⟨-, hstep⟩ | ⟨-, hstep⟩ |
      ⟨-, hpc, hawait⟩
  · exact absurd rfl he
  · rw [hstep, htd, hrd]
    exact ha
  · have hwake : wake s = s := by
      unfold wake
      rw [ha.1, if_neg hawake]
    rw [hstep, hwake]
    exact ha
  · exact ⟨hpc.trans ha.1, hawait.trans ha.2⟩

/-- Asleep, only another interrupt moves the core. -/
theorem staysAt_asleep {s : Bus} {e : BusEv} (he : e ≠ .other) (h : StaysAt .asleep s) :
    StaysAt .asleep (busStep s e).1 := by
  refine ⟨follows_busStep h.1 e, ?_⟩
  obtain ⟨⟨k, hk⟩, ha⟩ := h
  obtain ⟨htd, hrd⟩ := ha.quiet hk (by decide)
  rcases core_cases (by rw [ha.1]; decide) e with rfl | ⟨-, hstep⟩ | ⟨rfl, -⟩ | ⟨-, hpc, hawait⟩
  · show AwaitedAt .asleep (transferStep s).1
    unfold transferStep
    rw [ha.1]
    exact ha
  · rw [hstep, htd, hrd]
    exact ha
  · exact absurd rfl he
  · exact ⟨hpc.trans ha.1, hawait.trans ha.2⟩

theorem busy_of_waits {pc : TransferPc} (hw : pc.waits = true) : pc ≠ .idle := by
  rintro rfl
  cases hw

/-- A wake-up leads to the test of line 116 only. -/
theorem pc_of_wake {s : Bus} {pc : TransferPc} (hpc : pc ≠ .testAwait) (h : (wake s).pc = pc) :
    s.pc = pc := by
  rw [wake_eq] at h
  dsimp only at h
  split_ifs at h
  · exact absurd h.symm hpc
  · exact h

/-- The core comes to line 117 and to the sleep from within the loop. -/
theorem waits_of_next {s : Bus} {e : BusEv}
    (h : (busStep s e).1.pc = .enterEm1 ∨ (busStep s e).1.pc = .asleep) : s.pc.waits = true := by
  have hwake : ∀ t : Bus, (wake t).pc = .enterEm1 ∨ (wake t).pc = .asleep → t.pc.waits = true := by
    rintro t (ht | ht) <;> rw [pc_of_wake (by decide) ht] <;> rfl
  cases e with
  | cpu =>
    simp only [busStep, transferStep] at h
    cases hp : s.pc <;> simp [hp, TransferPc.waits] at h ⊢
  | call buffer =>
    simp only [busStep] at h
    split_ifs at h with hidle
    · simp at h
    · rcases h with hp | hp <;> rw [hp] <;> rfl
  | ldma =>
    simp only [busStep] at h
    split_ifs at h with hpending
    · have hw := hwake _ h
      rwa [LDMA_IRQHandler_eq] at hw
    · rcases h with hp | hp <;> rw [hp] <;> rfl
  | other => exact hwake s h
  | load =>
    simp only [busStep, loadByte] at h
    split_ifs at h <;> rcases h with hp | hp <;> rw [show s.pc = _ from hp] <;> rfl
  | swap b =>
    simp only [busStep, swapByte] at h
    split at h <;> rcases h with hp | hp <;> rw [show s.pc = _ from hp] <;> rfl
  | store =>
    simp only [busStep, storeByte] at h
    split_ifs at h <;> rcases h with hp | hp <;> rw [show s.pc = _ from hp] <;> rfl

/-- Between test and sleep the flag is set by the handler, at the last byte. -/
theorem entered_enterEm1 {s : Bus} {e : BusEv} (hno : ¬ AwaitedAt .enterEm1 s)
    (h : AwaitedAt .enterEm1 (busStep s e).1) :
    e = .ldma ∧ s.pc = .enterEm1 ∧ s.rxDone = true := by
  obtain ⟨hpc, ha⟩ := h
  rcases core_cases (busy_of_waits (waits_of_next (Or.inl hpc))) e with
      rfl | ⟨rfl, hstep⟩ | ⟨-, hstep⟩ | ⟨-, hpc', ha'⟩
  · -- the test of line 116 found the flag clear
    have hw := waits_of_next (Or.inl hpc)
    simp only [busStep, transferStep] at hpc ha
    cases hp : s.pc with
    | testAwait =>
      simp only [hp] at hpc ha
      rw [if_pos ha] at hpc
      cases hpc
    | enterEm1 => exact absurd ⟨hp, by simpa only [hp] using ha⟩ hno
    | asleep =>
      simp only [hp] at hpc
      cases hpc
    | _ =>
      rw [hp] at hw
      cases hw
  · rw [hstep] at hpc ha
    split_ifs at hpc ha with hpending
    · have hp : s.pc = .enterEm1 := by
        have hpc' := pc_of_wake (by decide) hpc
        rwa [LDMA_IRQHandler_eq] at hpc'
      rw [wake_eq, LDMA_IRQHandler_eq] at ha
      refine ⟨rfl, hp, ?_⟩
      cases hs : s.await_ldma_spi with
      | true => exact absurd ⟨hp, hs⟩ hno
      | false =>
        have hor : (s.await_ldma_spi || s.rxDone) = true := ha
        rwa [hs, Bool.false_or] at hor
    · exact absurd ⟨hpc, ha⟩ hno
  · rw [hstep] at hpc ha
    rw [wake_eq] at ha
    exact absurd ⟨pc_of_wake (by decide) hpc, ha⟩ hno
  · exact absurd ⟨hpc'.symm.trans hpc, ha'.symm.trans ha⟩ hno

/-- The core falls asleep with the flag set by line 117 alone. -/
theorem entered_asleep {s : Bus} {e : BusEv} (hno : ¬ AwaitedAt .asleep s)
    (h : AwaitedAt .asleep (busStep s e).1) : e = .cpu ∧ AwaitedAt .enterEm1 s := by
  obtain ⟨hpc, ha⟩ := h
  have hwake : ∀ t : Bus, (wake t).pc ≠ .asleep := by
    intro t
    rw [wake_eq]
    cases t.pc <;> simp
  have hw := waits_of_next (Or.inr hpc)
  rcases core_cases (busy_of_waits hw) e with rfl | ⟨-, hstep⟩ | ⟨-, hstep⟩ | ⟨-, hpc', ha'⟩
  · simp only [busStep, transferStep] at hpc ha
    cases hp : s.pc with
    | testAwait =>
      simp only [hp] at hpc
      split_ifs at hpc
    | enterEm1 => exact ⟨rfl, hp, by simpa only [hp] using ha⟩
    | asleep => exact absurd ⟨hp, by simpa only [hp] using ha⟩ hno
    | _ =>
      rw [hp] at hw
      cases hw
  · rw [hstep] at hpc ha
    split_ifs at hpc ha
    · exact absurd hpc (hwake _)
    · exact absurd ⟨hpc, ha⟩ hno
  · rw [hstep] at hpc
    exact absurd hpc (hwake s)
  · exact absurd ⟨hpc'.symm.trans hpc, ha'.symm.trans ha⟩ hno

/-- The handler at the last byte sets the flag, and ends a sleep. -/
theorem staysAt_ldma {s : Bus} (h : ∃ k, Follows k s) (hrd : s.rxDone = true) :
    StaysAt (if s.pc = .asleep then .testAwait else s.pc) (busStep s .ldma).1 := by
  refine ⟨follows_busStep h _, ?_⟩
  have hstep : (busStep s .ldma).1 = wake (LDMA_IRQHandler s) := by
    simp only [busStep, hrd, Bool.or_true, if_true]
  rw [hstep, wake_eq, LDMA_IRQHandler_eq]
  refine ⟨rfl, ?_⟩
  simp only [hrd, Bool.or_true]

/-- Line 117 with the flag set: nothing is pending, so the core sleeps. -/
theorem staysAt_sleep {s : Bus} (h : StaysAt .enterEm1 s) : StaysAt .asleep (busStep s .cpu).1 := by
  obtain ⟨⟨k, hk⟩, hat⟩ := h
  obtain ⟨htd, hrd⟩ := hat.quiet hk (by decide)
  refine ⟨follows_busStep ⟨k, hk⟩ _, ?_⟩
  show AwaitedAt .asleep (transferStep s).1
  unfold transferStep
  simp only [hat.1, htd, hrd, Bool.or_self]
  exact ⟨rfl, hat.2⟩

theorem follows_state (es : List BusEv) : ∃ k, Follows k (busMachine.state es) := by
  obtain ⟨k, -, hk⟩ := follows_run es
  exact ⟨k, hk⟩

/-- The handler between test and sleep: the core sleeps, until another interrupt. -/
theorem sleeps_through {pre mid post : List BusEv} (hpc : (busMachine.state pre).pc = .enterEm1)
    (hrd : (busMachine.state pre).rxDone = true) (hmid : ∀ e ∈ mid, e ≠ .cpu)
    (hpost : ∀ e ∈ post, e ≠ .other) :
    AwaitedAt .asleep (busMachine.state (pre ++ .ldma :: (mid ++ .cpu :: post))) := by
  have hset := staysAt_ldma (follows_state pre) hrd
  rw [hpc, if_neg (by decide)] at hset
  have hready := busMachine.keeps_while (· ≠ .cpu) (StaysAt .enterEm1)
    (fun s e he h => staysAt_awake (by decide) (by decide) he h) hset hmid
  have hsleep := staysAt_sleep hready
  have hend := busMachine.keeps_while (· ≠ .other) (StaysAt .asleep)
    (fun s e he h => staysAt_asleep he h) hsleep hpost
  rw [Machine.state_append]
  show AwaitedAt .asleep (busMachine.runFrom
    (busStep (busMachine.state pre) .ldma).1 (mid ++ .cpu :: post))
  rw [Machine.runFrom_append]
  exact hend.2

/-- The lost wake-up. The core sleeps with the transfer complete exactly if the completion
    interrupt was handled after the test of line 116 and before line 117, and no other
    interrupt has come since. -/
theorem sleeps_through_iff (es : List BusEv) :
    AwaitedAt .asleep (busMachine.state es) ↔
      ∃ pre mid post, es = pre ++ .ldma :: (mid ++ .cpu :: post) ∧
        (busMachine.state pre).pc = .enterEm1 ∧ (busMachine.state pre).rxDone = true ∧
        (∀ e ∈ mid, e ≠ .cpu) ∧ ∀ e ∈ post, e ≠ .other := by
  constructor
  · intro h
    obtain ⟨pre, e, post, rfl, hno, hpost⟩ :=
      busMachine.entered (AwaitedAt .asleep) (by decide) h
    have hentry := hpost [] (List.nil_prefix)
    rw [Machine.state_snoc] at hentry
    obtain ⟨rfl, hbefore⟩ := entered_asleep hno hentry
    obtain ⟨pre', e', mid, rfl, hno', hmid⟩ :=
      busMachine.entered (AwaitedAt .enterEm1) (by decide) hbefore
    have hset := hmid [] (List.nil_prefix)
    rw [Machine.state_snoc] at hset
    obtain ⟨rfl, hpc, hrd⟩ := entered_enterEm1 hno' hset
    refine ⟨pre', mid, post, by simp, hpc, hrd, ?_, ?_⟩
    · -- a statement would have left line 117
      rintro _ he rfl
      obtain ⟨a, b, rfl⟩ := List.append_of_mem he
      have hat := hmid a ⟨_, rfl⟩
      have hnext := hmid (a ++ [.cpu]) ⟨b, by simp⟩
      rw [← List.cons_append, ← List.append_assoc, Machine.state_snoc] at hnext
      have hpc' := hnext.1
      simp only [busMachine_step, busStep, transferStep, hat.1] at hpc'
      split_ifs at hpc'
    · rintro _ he rfl
      obtain ⟨a, b, rfl⟩ := List.append_of_mem he
      have hnext := hpost (a ++ [.other]) ⟨b, by simp⟩
      rw [← List.cons_append, ← List.append_assoc, Machine.state_snoc] at hnext
      have hpc' := hnext.1
      rw [busMachine_step, show (busStep _ BusEv.other).1 = wake _ from rfl, wake_eq] at hpc'
      dsimp only at hpc'
      split_ifs at hpc' with hasleep
      exact hasleep hpc'
  · rintro ⟨pre, mid, post, rfl, hpc, hrd, hmid, hpost⟩
    exact sleeps_through hpc hrd hmid hpost

/-! ## The return -/

def BusEv.isCpu : BusEv → Bool
  | .cpu => true
  | _ => false

def BusObs.isReturned : BusObs → Bool
  | .returned _ => true
  | _ => false

theorem isCpu_iff {e : BusEv} : e.isCpu = true ↔ e = .cpu := by
  cases e <;> simp [BusEv.isCpu]

/-- The completion handled: the core is on its way out of the loop. -/
def Leaving (s : Bus) : Prop := StaysAt .testAwait s ∨ StaysAt .deassertCs s

/-- The statements before the return. -/
def TransferPc.toReturn : TransferPc → ℕ
  | .testAwait => 1
  | _ => 0

/-- Out of the loop the call returns with the next statements, whatever comes between. -/
theorem leaving_returns {s : Bus} (h : Leaving s) {gs : List BusEv}
    (hgs : 2 ≤ gs.countP BusEv.isCpu) :
    ∃ o ∈ busMachine.traceFrom s gs, o.isReturned = true := by
  refine busMachine.responds BusEv.isCpu Leaving (fun s => s.pc.toReturn)
    (fun o => o.isReturned = true) ?_ h ?_
  · intro s e h
    by_cases he : e = .cpu
    · subst he
      rcases h with h | h
      · refine Or.inr ⟨Or.inr ⟨follows_busStep h.1 _, ?_⟩, ?_⟩
        · show AwaitedAt .deassertCs (transferStep s).1
          unfold transferStep
          simp only [h.2.1, h.2.2, if_true]
          exact ⟨rfl, rfl⟩
        · show (transferStep s).1.pc.toReturn + 1 ≤ s.pc.toReturn
          unfold transferStep
          simp only [h.2.1, h.2.2, if_true]
          exact Nat.le_refl _
      · refine Or.inl ⟨.returned s.exchange.buffer, ?_, rfl⟩
        show _ ∈ (transferStep s).2
        unfold transferStep
        rw [h.2.1]
        exact List.mem_singleton_self _
    · have hno : e.isCpu = false := by
        rw [Bool.eq_false_iff]
        exact fun hc => he (isCpu_iff.mp hc)
      rw [hno]
      rcases h with h | h
      · have hnext := staysAt_awake (by decide) (by decide) he h
        refine Or.inr ⟨Or.inl hnext, ?_⟩
        rw [busMachine_step, hnext.2.1, h.2.1]
        exact Nat.le_refl _
      · have hnext := staysAt_awake (by decide) (by decide) he h
        refine Or.inr ⟨Or.inr hnext, ?_⟩
        rw [busMachine_step, hnext.2.1, h.2.1]
        exact Nat.le_refl _
  · have hrank : s.pc.toReturn ≤ 1 := by
      cases s.pc <;> simp [TransferPc.toReturn]
    omega

/-- The last byte is stored in the loop. -/
theorem waits_of_rxDone {s : Bus} (h : ∃ k, Follows k s) (hrd : s.rxDone = true) :
    s.pc.waits = true := by
  obtain ⟨k, hk⟩ := h
  cases k with
  | none => exact absurd (hrd.symm.trans (Resting.rxDone hk)) (by decide)
  | some c =>
    rcases InCall.phase hk with ho | hw | hc
    · exact absurd (hrd.symm.trans ho.rxDone) (by decide)
    · exact hw.pc
    · exact absurd (hrd.symm.trans hc.handled.rxDone) (by decide)

/-- The flag was set between test and sleep. -/
def Lost (s : Bus) : Prop := StaysAt .enterEm1 s ∨ StaysAt .asleep s

/-- With the flag set before the sleep, the core sleeps until another interrupt. -/
theorem sleeps_on {s : Bus} {e : BusEv} (he : e ≠ .other) (h : Lost s) :
    Lost (busStep s e).1 ∧ ∀ o ∈ (busStep s e).2, o.isReturned = false := by
  have hpc : s.pc = .enterEm1 ∨ s.pc = .asleep := h.imp (·.2.1) (·.2.1)
  refine ⟨?_, ?_⟩
  · rcases h with h | h
    · by_cases hcpu : e = .cpu
      · subst hcpu
        exact Or.inr (staysAt_sleep h)
      · exact Or.inl (staysAt_awake (by decide) (by decide) hcpu h)
    · exact Or.inr (staysAt_asleep he h)
  · intro o ho
    cases e with
    | cpu =>
      simp only [busStep, transferStep] at ho
      rcases hpc with hp | hp <;> rw [hp] at ho <;> cases ho
    | call buffer =>
      have hbusy : s.pc ≠ .idle := by
        rcases hpc with hp | hp <;> rw [hp] <;> decide
      rw [show busStep s (.call buffer) = (s, []) from if_neg hbusy] at ho
      cases ho
    | swap b =>
      simp only [busStep, swapByte] at ho
      split at ho
      · obtain rfl := List.mem_singleton.mp ho
        rfl
      · cases ho
    | _ => cases ho

/-- When a completed transfer returns. If the completion interrupt is handled anywhere but
    between the test of line 116 and line 117, the next two statements bring the return,
    whatever comes between. If it is handled there, the call does not return until another
    interrupt comes; and when one comes while the core sleeps, two statements bring the
    return. -/
theorem transfer_returns (es : List BusEv) (hdone : (busMachine.state es).rxDone = true) :
    ((busMachine.state es).pc ≠ .enterEm1 → ∀ gs : List BusEv, 2 ≤ gs.countP BusEv.isCpu →
      ∃ o ∈ busMachine.traceFrom (busMachine.state (es ++ [.ldma])) gs, o.isReturned = true) ∧
    ((busMachine.state es).pc = .enterEm1 → ∀ gs : List BusEv, (∀ e ∈ gs, e ≠ .other) →
      (∀ o ∈ busMachine.traceFrom (busMachine.state (es ++ [.ldma])) gs, o.isReturned = false) ∧
      (.cpu ∈ gs → ∀ hs : List BusEv, 2 ≤ hs.countP BusEv.isCpu →
        ∃ o ∈ busMachine.traceFrom (busMachine.state (es ++ .ldma :: gs)) (.other :: hs),
          o.isReturned = true)) := by
  have hset := staysAt_ldma (follows_state es) hdone
  have hwaits := waits_of_rxDone (follows_state es) hdone
  refine ⟨fun hpc gs hgs => ?_, fun hpc gs hgs => ?_⟩
  · rw [Machine.state_snoc]
    refine leaving_returns (Or.inl ?_) hgs
    cases hp : (busMachine.state es).pc with
    | testAwait | asleep =>
      rw [hp] at hset
      exact hset
    | enterEm1 => exact absurd hp hpc
    | _ =>
      rw [hp] at hwaits
      cases hwaits
  · rw [hpc, if_neg (by decide)] at hset
    refine ⟨?_, fun hcpu hs hhs => ?_⟩
    · rw [Machine.state_snoc]
      exact busMachine.observes_while (· ≠ .other) Lost _ (fun s e he h => sleeps_on he h)
        (Or.inl hset) hgs
    · -- the core is asleep after the first statement, and stays so
      obtain ⟨a, b, rfl⟩ := List.append_of_mem hcpu
      have hbefore := busMachine.keeps_while (· ≠ .other) Lost (fun s e he h => (sleeps_on he h).1)
        (Or.inl hset) fun e he => hgs e (List.mem_append_left _ he)
      have hsleep : StaysAt .asleep
          (busStep (busMachine.runFrom (busStep (busMachine.state es) .ldma).1 a) .cpu).1 := by
        rcases hbefore with h | h
        · exact staysAt_sleep h
        · exact staysAt_asleep nofun h
      have hend := busMachine.keeps_while (· ≠ .other) (StaysAt .asleep)
        (fun s e he h => staysAt_asleep he h) hsleep
        fun e he => hgs e (List.mem_append_right _ (List.mem_cons_of_mem _ he))
      rw [Machine.state_append]
      show ∃ o ∈ busMachine.traceFrom (busMachine.runFrom
        (busStep (busMachine.state es) .ldma).1 (a ++ .cpu :: b)) (.other :: hs), _
      rw [Machine.runFrom_append]
      obtain ⟨hfollow, hpc', hawait⟩ := hend
      have hwoken : StaysAt .testAwait (busStep (busMachine.runFrom (busStep
          (busMachine.runFrom (busStep (busMachine.state es) .ldma).1 a) .cpu).1 b) .other).1 := by
        refine ⟨follows_busStep hfollow _, ?_⟩
        show AwaitedAt .testAwait (wake _)
        rw [wake_eq]
        exact ⟨if_pos hpc', hawait⟩
      obtain ⟨o, ho, hret⟩ := leaving_returns (Or.inl hwoken) hhs
      exact ⟨o, List.mem_append_right _ ho, hret⟩

/-- A transfer of one byte, up to the interrupt at its end. -/
def oneByte : List BusEv :=
  .call ⟨[7], by decide, by decide⟩ :: List.replicate 5 .cpu ++ [.load, .swap 9, .store]

theorem transfer_returns_lost :
    (∀ o ∈ busMachine.traceFrom (busMachine.state (oneByte ++ [.ldma])) [.cpu],
      o.isReturned = false) ∧
    ∃ o ∈ busMachine.traceFrom (busMachine.state (oneByte ++ .ldma :: [.cpu]))
      (.other :: [.cpu, .cpu]), o.isReturned = true :=
  have h := (transfer_returns oneByte (by decide)).2 (by decide) [.cpu] (by simp)
  ⟨h.1, h.2 (by simp) [.cpu, .cpu] (by decide)⟩

/-! ## Every transfer -/

/-- The hardware exchanges one byte. -/
def round : List BusEv := [.load, .swap 0, .store]

theorem round_exchange {s : Bus} (hte : s.txEnabled = true) (hre : s.rxEnabled = true)
    (hout : s.exchange.outgoing = []) (hin : s.exchange.incoming = [])
    (h : s.exchange.read < s.exchange.buffer.length) :
    (busMachine.runFrom s round).pc = s.pc ∧
      (busMachine.runFrom s round).await_ldma_spi = s.await_ldma_spi ∧
      (busMachine.runFrom s round).exchange =
        ⟨s.exchange.buffer.set s.exchange.written 0, s.exchange.read + 1, [], [],
          s.exchange.written + 1⟩ := by
  obtain ⟨hsent, hstored⟩ := Duplex.round_eq hout hin h 0
  have hload : ∃ te td, loadByte s =
      { s with exchange := s.exchange.load, txEnabled := te, txDone := td } := by
    unfold loadByte
    rw [if_pos hte]
    dsimp only
    split_ifs
    · exact ⟨_, _, rfl⟩
    · exact ⟨_, _, rfl⟩
  obtain ⟨te, td, hload⟩ := hload
  show (storeByte (swapByte 0 (loadByte s)).1).pc = _ ∧
    (storeByte (swapByte 0 (loadByte s)).1).await_ldma_spi = _ ∧
    (storeByte (swapByte 0 (loadByte s)).1).exchange = _
  rw [hload]
  simp only [swapByte, hsent, storeByte, hre, if_true, hstored]
  split_ifs <;> exact ⟨rfl, rfl, rfl⟩

/-- One more byte, before the sleep. -/
theorem inCall_round {c : TransferCall} {s : Bus} (h : InCall c s) (hpc : s.pc = .enterEm1)
    (hr : Receiving c.old.length s) (hout : s.exchange.outgoing = [])
    (hin : s.exchange.incoming = []) :
    ∃ c', InCall c' (busMachine.runFrom s round) ∧ c'.old.length = c.old.length ∧
      (busMachine.runFrom s round).pc = .enterEm1 ∧
      (busMachine.runFrom s round).exchange.outgoing = [] ∧
      (busMachine.runFrom s round).exchange.incoming = [] ∧
      (busMachine.runFrom s round).exchange.written = s.exchange.written + 1 ∧
      (Receiving c'.old.length (busMachine.runFrom s round) ∨
        (busMachine.runFrom s round).rxDone = true) := by
  have hread : s.exchange.read = s.exchange.written := by
    have hsent := h.exchanges.sent_length
    have hstored := h.exchanges.written_add h.written_le
    rw [hout] at hsent
    rw [hin] at hstored
    simp only [List.length_nil] at hsent hstored
    omega
  have hlt : s.exchange.read < c.old.length := by rw [hread]; exact hr.written
  have hwait : ∀ {c' : TransferCall} {t : Bus}, InCall c' t → t.pc = .enterEm1 →
      Waiting c'.old.length t := by
    intro c' t ht hp
    rcases ht.phase with ho | hw | hc
    · have hp' := ho.pc
      rw [hp] at hp'
      simp at hp'
    · exact hw
    · exact absurd (hp.symm.trans hc.pc) (by decide)
  have hte : s.txEnabled = true := by
    cases hte : s.txEnabled with
    | true => rfl
    | false =>
      have hall := (hwait h hpc).sending.disabled hte
      omega
  obtain ⟨hpc', hawait, hex⟩ := round_exchange hte hr.rxEnabled hout hin
    (by rw [h.exchanges.length]; exact hlt)
  obtain ⟨c', -, hswap⟩ := inCall_swap 0 (inCall_load h)
  have hnext : InCall c' (busMachine.runFrom s round) := inCall_store hswap
  have hp := hpc'.trans hpc
  have hlen := hnext.exchanges.length
  rw [hex, List.length_set, h.exchanges.length] at hlen
  refine ⟨c', hnext, hlen.symm, hp, by rw [hex], by rw [hex], by rw [hex], ?_⟩
  rcases (hwait hnext hp).receiving with hr' | hr' | hh
  · exact Or.inl hr'
  · exact Or.inr hr'.rxDone
  · exact absurd (hh.await.symm.trans (hawait.trans hr.await)) (by decide)

/-- Before the sleep the hardware may exchange all that is left. -/
theorem completes_before_sleep (m : ℕ) {s : Bus} {c : TransferCall} (h : InCall c s)
    (hpc : s.pc = .enterEm1) (hr : Receiving c.old.length s)
    (hout : s.exchange.outgoing = []) (hin : s.exchange.incoming = [])
    (hm : c.old.length ≤ s.exchange.written + m) :
    ∃ fs, (busMachine.runFrom s fs).pc = .enterEm1 ∧ (busMachine.runFrom s fs).rxDone = true := by
  induction m generalizing s c with
  | zero =>
    have hlt := hr.written
    omega
  | succ m ih =>
    obtain ⟨c', hnext, hlen, hp, hout', hin', hwritten, hr' | hdone⟩ :=
      inCall_round h hpc hr hout hin
    · obtain ⟨fs, hfs⟩ := ih hnext hp hr' hout' hin' (by omega)
      exact ⟨round ++ fs, by rw [Machine.runFrom_append]; exact hfs⟩
    · exact ⟨round, hp, hdone⟩

/-- Whatever a transfer's buffer, the core may sleep through its end. -/
theorem sleeps_through_any (buffer : TransferBuffer) :
    ∃ fs, AwaitedAt .asleep (busMachine.state (.call buffer :: fs)) := by
  -- up to line 117 nothing has moved
  obtain ⟨k, hk⟩ := follows_state (.call buffer :: List.replicate 5 .cpu)
  have hstate : busMachine.state (.call buffer :: List.replicate 5 .cpu) =
      ⟨.enterEm1, false, false, ⟨buffer.bytes, 0, [], [], 0⟩, true, true, false, false⟩ := rfl
  rw [hstate] at hk
  cases k with
  | none => exact absurd (Resting.pc hk) nofun
  | some c =>
    have hlen : buffer.bytes.length = c.old.length := InCall.exchanges hk |>.length
    have hpos : 0 < c.old.length := List.length_pos_iff.mpr (InCall.nonempty hk)
    obtain ⟨fs, hpc, hrd⟩ := completes_before_sleep c.old.length hk rfl ⟨rfl, rfl, rfl, hpos⟩
      rfl rfl (by omega)
    have hend : AwaitedAt .asleep (busMachine.state
        ((.call buffer :: (List.replicate 5 .cpu ++ fs)) ++ .ldma :: ([] ++ .cpu :: []))) :=
      sleeps_through (by rw [← List.cons_append, Machine.state_append, hstate]; exact hpc)
        (by rw [← List.cons_append, Machine.state_append, hstate]; exact hrd) nofun nofun
    exact ⟨List.replicate 5 .cpu ++ fs ++ [.ldma, .cpu], by simpa using hend⟩

end OtIpr
