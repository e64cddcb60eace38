/-
  How much a run sends and measures, under every interleaving.

  Messages cost frames. `MissLedger` pays 17 missed frames for every report of an end of
  presence, `HitLedger` 5 detected frames for every report of a start. The confidence is the
  account: while a presence is reported, or announced by a pending notification, the misses
  that took it down from the cap are saved for the report of the end; otherwise the hits that
  took it up from 15 are saved for the report of a start.

  * `traffic_bounded`: the number of messages of each kind, against frames and timer events.
  * `traffic_paced`: the same against time, by the sum of the intervals that passed. The
    measurements of the radar are paced too, one in 750 ms at most.
-/
import OtIpr.Radar.Latency
import OtIpr.Radar.Response

namespace OtIpr

open Lib

/-! ## Counting messages -/

/-- The number of messages sent at a site. -/
def sends (site : Site) (os : List Obs) : ℕ := os.countP (Obs.sentAt site)

/-- The frames that interrupts counted without and with presence. -/
def misses (os : List Obs) : ℕ := os.countP Obs.miss

def hits (os : List Obs) : ℕ := os.countP Obs.hit

theorem sends_append (site : Site) (os ps : List Obs) :
    sends site (os ++ ps) = sends site os + sends site ps := List.countP_append

theorem misses_append (os ps : List Obs) : misses (os ++ ps) = misses os + misses ps :=
  List.countP_append

theorem hits_append (os ps : List Obs) : hits (os ++ ps) = hits os + hits ps :=
  List.countP_append

/-- Calls of the stack count as nothing. -/
theorem countP_calls (p : Obs → Bool) (hp : ∀ c, p (.call c) = false) (calls : List OtCall) :
    (calls.map Obs.call).countP p = 0 := by
  refine List.countP_eq_zero.mpr fun o ho => ?_
  obtain ⟨c, rfl⟩ := mem_map_call ho
  rw [hp c]
  decide

theorem sends_callSender (site site' : Site) (require_ack : Bool) (env : SenderEnv) (m : Mem) :
    sends site (callSender site' require_ack env m).2 = if site' = site then 1 else 0 := by
  rw [callSender_obs]
  unfold sends
  rw [List.countP_cons, countP_calls _ (fun _ => rfl), Nat.zero_add]
  simp [Obs.sentAt]

/-- A statement sends a message of a site if the main loop stands at the site. -/
theorem sends_mainStep (site : Site) (env : AlgoEnv) (s : Sys) :
    sends site (mainStep env s).2 = if s.pc = site.pc then 1 else 0 := by
  obtain ⟨m, pc⟩ := s
  cases pc with
  | sendInactive =>
    simp only [mainStep, sends_callSender]
    cases site <;> rfl
  | sendActive =>
    simp only [mainStep, sends_callSender]
    cases site <;> rfl
  | sendAlive =>
    simp only [mainStep, sends_callSender]
    cases site <;> rfl
  | _ => cases site <;> rfl

/-- Statements count no frame. -/
theorem frames_mainStep (env : AlgoEnv) (s : Sys) :
    misses (mainStep env s).2 = 0 ∧ hits (mainStep env s).2 = 0 := by
  refine ⟨List.countP_eq_zero.mpr fun o ho => ?_, List.countP_eq_zero.mpr fun o ho => ?_⟩
  · cases o with
    | irq m => exact absurd ho (irq_not_mem_mainStep env s m)
    | _ => exact Bool.false_ne_true
  · cases o with
    | irq m => exact absurd ho (irq_not_mem_mainStep env s m)
    | _ => exact Bool.false_ne_true

theorem detectConf_mainStep (env : AlgoEnv) (s : Sys) :
    (mainStep env s).1.mem.radarAppVars.detectConf = s.mem.radarAppVars.detectConf := by
  obtain ⟨c, hc⟩ := mainStep_radarAppVars env s
  rw [hc]

/-! ## Where the account stands -/

/-- Presence is reported, and its end not noticed yet. -/
def Reported (m : Mem) : Prop :=
  m.radarCoapRequireInactivation = true ∧ m.radarCoapSendInactive = false

/-- An active notification is pending that the inactive branch will not withdraw. -/
def Announced (s : Sys) : Prop :=
  s.pc ≠ .clearActive ∧ s.mem.radarCoapSendActive = true ∧
    s.mem.radarCoapRequireInactivation = false

/-- An end of presence that is noticed and not reported yet. -/
def endsPending (s : Sys) : ℕ :=
  if s.mem.radarCoapSendInactive = true ∨ s.pc.endsPresence = true then 1 else 0

/-- A start of presence that the active branch has recorded and not reported yet. -/
def startsPending (s : Sys) : ℕ := if s.pc.startsPresence = true then 1 else 0

/-- The active branch is only on its way with an active notification. -/
def Backed (s : Sys) : Prop :=
  match s.pc with
  | .testRequire | .setRequire => s.mem.radarCoapSendActive = true
  | .readOpt | .clearBuffer _ | .readRssi _ | .format _ _ | .testBranch =>
    s.mem.radarCoapSendInactive = false → s.mem.radarCoapSendActive = true
  | _ => True

theorem irq_sendActive_of_pending {m : Mem} (h : m.radarCoapSendActive = true) :
    (BURTC_IRQHandler m).radarCoapSendActive = true := by
  rw [irq_sendActive, h, Bool.true_or]

theorem backed_irq {s : Sys} (h : Backed s) : Backed ⟨BURTC_IRQHandler s.mem, s.pc⟩ := by
  have hlate : (s.mem.radarCoapSendInactive = false → s.mem.radarCoapSendActive = true) →
      (BURTC_IRQHandler s.mem).radarCoapSendInactive = false →
        (BURTC_IRQHandler s.mem).radarCoapSendActive = true := by
    intro hb hi
    refine irq_sendActive_of_pending (hb ?_)
    cases hnow : s.mem.radarCoapSendInactive with
    | true => exact absurd (irq_sendInactive_of_pending hnow) (by simp [hi])
    | false => rfl
  obtain ⟨m, pc⟩ := s
  cases pc with
  | testRequire | setRequire => exact irq_sendActive_of_pending h
  | readOpt | clearBuffer | readRssi | format | testBranch => exact hlate h
  | _ => exact trivial

theorem backed_mainStep (env : AlgoEnv) {s : Sys} (h : Backed s) : Backed (mainStep env s).1 := by
  obtain ⟨m, pc⟩ := s
  cases pc with
  | testClear =>
    cases hc : m.radarAppVars.clearToMeasure <;> simp [mainStep, hc, Backed]
  | testEstablished =>
    cases hest : m.coap.appCoapConnectionEstablished <;> simp [mainStep, hest, Backed]
  | testActive => cases ha : m.radarCoapSendActive <;> simp [mainStep, ha, Backed]
  | testRequire =>
    have ha : m.radarCoapSendActive = true := h
    cases hr : m.radarCoapRequireInactivation <;> simp [mainStep, hr, ha, Backed]
  | testInactive => cases hi : m.radarCoapSendInactive <;> simp [mainStep, hi, Backed]
  | testBranch =>
    cases hi : m.radarCoapSendInactive with
    | true => simp [mainStep, hi, Backed]
    | false =>
      have ha : m.radarCoapSendActive = true := h hi
      simp [mainStep, hi, ha, Backed]
  | testAlive => by_cases hal : AliveDue m <;> simp [mainStep, hal, Backed]
  | readOpt | clearBuffer | readRssi | format => exact h
  | _ => exact trivial

theorem backed_sysStep (e : Ev) {s : Sys} (h : Backed s) : Backed (sysStep s e).1 := by
  rcases sysStep_cases s e with rfl | ⟨env, rfl⟩ | ⟨alive, vdd, coap, calls, hstep⟩
  · exact backed_irq h
  · exact backed_mainStep env h
  · rw [hstep]
    exact h

theorem backed (unique : UInt64) (es : List Ev) : Backed ((sysMachine unique).state es) :=
  (sysMachine unique).invariant Backed trivial (fun _ e => backed_sysStep e) es

/-! ## Statements and the account -/

/-- The three flags: active and inactive notification, and the owed inactivation. -/
def flags (m : Mem) : Bool × Bool × Bool :=
  (m.radarCoapSendActive, m.radarCoapSendInactive, m.radarCoapRequireInactivation)

/-- What a statement does to the flags: each branch of the state-change part writes them one
    by one on its way to the send; all other statements keep them and stay outside. -/
theorem mainStep_flags (env : AlgoEnv) (s : Sys) :
    (s.pc = .clearRequire ∧ (mainStep env s).1.pc = .clearActive ∧
      flags (mainStep env s).1.mem =
        (s.mem.radarCoapSendActive, s.mem.radarCoapSendInactive, false)) ∨
    (s.pc = .clearActive ∧ (mainStep env s).1.pc = .clearInactive ∧
      flags (mainStep env s).1.mem =
        (false, s.mem.radarCoapSendInactive, s.mem.radarCoapRequireInactivation)) ∨
    (s.pc = .clearInactive ∧ (mainStep env s).1.pc = .sendInactive ∧
      flags (mainStep env s).1.mem =
        (s.mem.radarCoapSendActive, false, s.mem.radarCoapRequireInactivation)) ∨
    (s.pc = .setRequire ∧ (mainStep env s).1.pc = .clearActiveSent ∧
      flags (mainStep env s).1.mem =
        (s.mem.radarCoapSendActive, s.mem.radarCoapSendInactive, true)) ∨
    (s.pc = .clearActiveSent ∧ (mainStep env s).1.pc = .sendActive ∧
      flags (mainStep env s).1.mem =
        (false, s.mem.radarCoapSendInactive, s.mem.radarCoapRequireInactivation)) ∨
    (s.pc.endsPresence = decide (s.pc = .sendInactive) ∧
      s.pc.startsPresence = decide (s.pc = .sendActive) ∧ s.pc ≠ .setRequire ∧
      (mainStep env s).1.pc.endsPresence = false ∧
      (mainStep env s).1.pc.startsPresence = false ∧
      flags (mainStep env s).1.mem = flags s.mem) := by
  obtain ⟨m, pc⟩ := s
  cases pc with
  | clearRequire => exact Or.inl ⟨rfl, rfl, rfl⟩
  | clearActive => exact Or.inr (Or.inl ⟨rfl, rfl, rfl⟩)
  | clearInactive => exact Or.inr (Or.inr (Or.inl ⟨rfl, rfl, rfl⟩))
  | setRequire => exact Or.inr (Or.inr (Or.inr (Or.inl ⟨rfl, rfl, rfl⟩)))
  | clearActiveSent => exact Or.inr (Or.inr (Or.inr (Or.inr (Or.inl ⟨rfl, rfl, rfl⟩))))
  | testClear | testEstablished | testActive | testRequire | testInactive | testBranch
  | testAlive =>
    refine Or.inr (Or.inr (Or.inr (Or.inr (Or.inr ⟨rfl, rfl, by simp, ?_, ?_, rfl⟩))))
    · simp only [mainStep]
      split <;> rfl
    · simp only [mainStep]
      split <;> rfl
  | _ => exact Or.inr (Or.inr (Or.inr (Or.inr (Or.inr ⟨rfl, rfl, by simp, rfl, rfl, rfl⟩))))

section Statements

variable (env : AlgoEnv) {s : Sys}

/-- A report of an end takes what was pending. -/
theorem endsPending_mainStep (hf : FlagsAt s.pc s.mem) :
    sends .inactive (mainStep env s).2 + endsPending (mainStep env s).1 = endsPending s := by
  rw [sends_mainStep]
  unfold endsPending
  rcases mainStep_flags env s with ⟨hpc, hpc', h⟩ | ⟨hpc, hpc', h⟩ | ⟨hpc, hpc', h⟩ |
    ⟨hpc, hpc', h⟩ | ⟨hpc, hpc', h⟩ | ⟨hends, -, -, hends', -, h⟩
  all_goals
    simp only [flags, Prod.mk.injEq] at h
    obtain ⟨-, hi, -⟩ := h
  · rw [hpc] at hf
    simp [hpc, hpc', hf.1, Site.pc, Pc.endsPresence]
  · simp [hpc, hpc', Site.pc, Pc.endsPresence]
  · simp [hpc, hpc', Site.pc, Pc.endsPresence]
  · simp [hpc, hpc', hi, Site.pc, Pc.endsPresence]
  · simp [hpc, hpc', hi, Site.pc, Pc.endsPresence]
  · by_cases hpc : s.pc = .sendInactive
    · rw [hpc] at hf
      rw [hends', hends, hpc, hi, hf.1]
      decide
    · simp [hpc, hends, hends', hi, Site.pc]

/-- A report of a start takes what was pending; line 309 makes it pending. -/
theorem startsPending_mainStep :
    sends .active (mainStep env s).2 + startsPending (mainStep env s).1 =
      startsPending s + if s.pc = .setRequire then 1 else 0 := by
  rw [sends_mainStep]
  unfold startsPending
  rcases mainStep_flags env s with ⟨hpc, hpc', -⟩ | ⟨hpc, hpc', -⟩ | ⟨hpc, hpc', -⟩ |
    ⟨hpc, hpc', -⟩ | ⟨hpc, hpc', -⟩ | ⟨-, hstarts, hset, -, hstarts', -⟩
  · simp [hpc, hpc', Site.pc, Pc.startsPresence]
  · simp [hpc, hpc', Site.pc, Pc.startsPresence]
  · simp [hpc, hpc', Site.pc, Pc.startsPresence]
  · simp [hpc, hpc', Site.pc, Pc.startsPresence]
  · simp [hpc, hpc', Site.pc, Pc.startsPresence]
  · by_cases hpc : s.pc = .sendActive
    · rw [hstarts', hstarts, hpc]
      decide
    · simp [hpc, hset, hstarts, hstarts', Site.pc]

/-- A statement announces no presence. -/
theorem announced_mainStep (h : Announced (mainStep env s).1) : Announced s := by
  obtain ⟨hne, ha', hr'⟩ := h
  rcases mainStep_flags env s with ⟨hpc, hpc', h⟩ | ⟨hpc, hpc', h⟩ | ⟨hpc, hpc', h⟩ |
    ⟨hpc, hpc', h⟩ | ⟨hpc, hpc', h⟩ | ⟨hends, -, -, -, -, h⟩
  all_goals
    simp only [flags, Prod.mk.injEq] at h
    obtain ⟨ha, -, hr⟩ := h
    rw [ha] at ha'
    rw [hr] at hr'
  · exact absurd hpc' hne
  · cases ha'
  · exact ⟨by simp [hpc], ha', hr'⟩
  · cases hr'
  · cases ha'
  · refine ⟨fun hpc => ?_, ha', hr'⟩
    rw [hpc] at hends
    exact absurd hends (by decide)

/-- A presence is reported by line 309, where it is announced. -/
theorem reported_mainStep (hf : FlagsAt s.pc s.mem) (hb : Backed s)
    (h : Reported (mainStep env s).1.mem) : Reported s.mem ∨ Announced s := by
  obtain ⟨hr', hi'⟩ := h
  rcases mainStep_flags env s with ⟨hpc, hpc', h⟩ | ⟨hpc, hpc', h⟩ | ⟨hpc, hpc', h⟩ |
    ⟨hpc, hpc', h⟩ | ⟨hpc, hpc', h⟩ | ⟨-, -, -, -, -, h⟩
  all_goals
    simp only [flags, Prod.mk.injEq] at h
    obtain ⟨-, hi, hr⟩ := h
    rw [hi] at hi'
    rw [hr] at hr'
  · cases hr'
  · exact Or.inl ⟨hr', hi'⟩
  · rw [hpc] at hf
    exact absurd (hf.1.symm.trans hr') (by decide)
  · rw [hpc] at hf
    unfold Backed at hb
    rw [hpc] at hb
    exact Or.inr ⟨by simp [hpc], hb, hf.2.1⟩
  · exact Or.inl ⟨hr', hi'⟩
  · exact Or.inl ⟨hr', hi'⟩

/-- A reported presence stays reported until its end is noticed. -/
theorem reported_kept (hf : FlagsAt s.pc s.mem) (h : Reported s.mem) :
    Reported (mainStep env s).1.mem := by
  obtain ⟨hr, hi⟩ := h
  rcases mainStep_flags env s with ⟨hpc, hpc', h⟩ | ⟨hpc, hpc', h⟩ | ⟨hpc, hpc', h⟩ |
    ⟨hpc, hpc', h⟩ | ⟨hpc, hpc', h⟩ | ⟨-, -, -, -, -, h⟩
  all_goals
    simp only [flags, Prod.mk.injEq] at h
    obtain ⟨-, hi', hr'⟩ := h
  · rw [hpc] at hf
    exact absurd (hf.1.symm.trans hi) (by decide)
  · exact ⟨hr'.trans hr, hi'.trans hi⟩
  · exact ⟨hr'.trans hr, hi'⟩
  · exact ⟨hr', hi'.trans hi⟩
  · exact ⟨hr'.trans hr, hi'.trans hi⟩
  · exact ⟨hr'.trans hr, hi'.trans hi⟩

end Statements

/-! ## Interrupts and the account -/

/-- What an interrupt does to the flags and the confidence: a hit may raise the active
    notification, from 80 on; a miss at 20 notices the end of a reported presence; any other
    miss only lowers the confidence. -/
theorem irq_account {s : Sys} (hs : Confident s) :
    (s.mem.result.presence_detected = true ∧
      (BURTC_IRQHandler s.mem).radarAppVars.detectConf =
        (if 100 ≤ s.mem.radarAppVars.detectConf then 100
          else s.mem.radarAppVars.detectConf + 20) ∧
      (flags (BURTC_IRQHandler s.mem) = flags s.mem ∨
        (80 ≤ s.mem.radarAppVars.detectConf ∧ flags (BURTC_IRQHandler s.mem) =
          (true, s.mem.radarCoapSendInactive, s.mem.radarCoapRequireInactivation)))) ∨
    (s.mem.result.presence_detected = false ∧
      s.mem.radarAppVars.detectConf = 20 ∧ s.mem.radarCoapRequireInactivation = true ∧
      (BURTC_IRQHandler s.mem).radarAppVars.detectConf = 15 ∧
      flags (BURTC_IRQHandler s.mem) = (s.mem.radarCoapSendActive, true, true)) ∨
    (s.mem.result.presence_detected = false ∧
      (BURTC_IRQHandler s.mem).radarAppVars.detectConf =
        max 10 (s.mem.radarAppVars.detectConf - 5) ∧
      flags (BURTC_IRQHandler s.mem) = flags s.mem) := by
  have hconf := irq_detectConf hs.lt_256
  have hact := irq_sendActive s.mem
  have hina := irq_sendInactive s.mem
  unfold flags
  rw [irq_require, hact, hina]
  cases hd : s.mem.result.presence_detected with
  | true =>
    rw [hd, if_pos rfl] at hconf
    refine Or.inl ⟨rfl, hconf, ?_⟩
    by_cases hset : SetsActive s.mem
    · obtain ⟨-, h80, hlt, hdx⟩ := (setsActive_iff _).mp hset
      exact Or.inr ⟨h80, by simp [h80, hlt, hdx]⟩
    · have hno : ¬ (80 ≤ s.mem.radarAppVars.detectConf ∧ s.mem.radarAppVars.detectConf < 100 ∧
          0 < s.mem.radarAppVars.dx) := fun hc => hset ((setsActive_iff _).mpr ⟨hd, hc⟩)
      exact Or.inl (by simp [hno])
  | false =>
    rw [hd, if_neg (by decide)] at hconf
    by_cases hset : SetsInactive s.mem
    · obtain ⟨-, h20, hdx, hr⟩ := (setsInactive_iff _).mp hset
      rw [h20] at hconf
      exact Or.inr (Or.inl ⟨rfl, h20, hr, hconf, by simp [h20, hdx, hr]⟩)
    · have hno : ¬ (s.mem.radarAppVars.detectConf = 20 ∧ s.mem.radarAppVars.dx < 0 ∧
          s.mem.radarCoapRequireInactivation = true) :=
        fun hc => hset ((setsInactive_iff _).mpr ⟨hd, hc⟩)
      exact Or.inr (Or.inr ⟨rfl, hconf, by simp [hno]⟩)

/-- An interrupt that leaves the flags leaves where the account stands. -/
theorem account_of_flags {s : Sys} {m : Mem} (h : flags m = flags s.mem) :
    (Reported m ↔ Reported s.mem) ∧ (Announced ⟨m, s.pc⟩ ↔ Announced s) ∧
      endsPending ⟨m, s.pc⟩ = endsPending s := by
  simp only [flags, Prod.mk.injEq] at h
  obtain ⟨ha, hi, hr⟩ := h
  unfold Reported Announced endsPending
  rw [ha, hi, hr]
  exact ⟨Iff.rfl, Iff.rfl, rfl⟩

theorem counts_irq (m : Mem) (os : List Obs) :
    misses (os ++ [.irq m]) = misses os + (if m.result.presence_detected then 0 else 1) ∧
      hits (os ++ [.irq m]) = hits os + (if m.result.presence_detected then 1 else 0) ∧
      ∀ site, sends site (os ++ [.irq m]) = sends site os := by
  refine ⟨?_, ?_, fun site => ?_⟩
  · rw [misses_append]
    cases hd : m.result.presence_detected <;> simp [misses, Obs.miss, hd]
  · rw [hits_append]
    cases hd : m.result.presence_detected <;> simp [hits, Obs.hit, hd]
  · rw [sends_append]
    rfl

/-! ## Reports of an end cost misses -/

/-- 17 misses are spent on every end that is noticed. While a presence is reported or
    announced, the misses since the cap are saved as well, each worth 5 of the confidence. -/
structure MissLedger (s : Sys) (os : List Obs) : Prop where
  spent : 17 * (sends .inactive os + endsPending s) ≤ misses os
  saved : Reported s.mem ∨ Announced s →
    85 * (sends .inactive os + endsPending s) + 100 ≤
      5 * misses os + min s.mem.radarAppVars.detectConf 100

/-- The account of a statement, or of an event that leaves the flags and the confidence. -/
theorem MissLedger.keep {s s' : Sys} {os ps : List Obs} (h : MissLedger s os)
    (hends : sends .inactive ps + endsPending s' = endsPending s) (hps : misses ps = 0)
    (hconf : s'.mem.radarAppVars.detectConf = s.mem.radarAppVars.detectConf)
    (hsaved : Reported s'.mem ∨ Announced s' → Reported s.mem ∨ Announced s) :
    MissLedger s' (os ++ ps) := by
  refine ⟨?_, fun hs => ?_⟩
  · have hspent := h.spent
    rw [sends_append, misses_append, hps]
    omega
  · have hsave := h.saved (hsaved hs)
    rw [sends_append, misses_append, hps, hconf]
    omega

theorem missLedger_irq {s : Sys} {os : List Obs} (hs : Confident s) (h : MissLedger s os) :
    MissLedger ⟨BURTC_IRQHandler s.mem, s.pc⟩ (os ++ [.irq s.mem]) := by
  obtain ⟨hspent, hsaved⟩ := h
  obtain ⟨hmisses, -, hsends⟩ := counts_irq s.mem os
  rcases irq_account hs with ⟨hd, hconf, hflags⟩ | ⟨hd, h20, hr, hconf, hflags⟩ |
    ⟨hd, hconf, hflags⟩
  · -- a hit only raises the confidence; it announces a presence at the cap
    rw [hd, if_pos rfl] at hmisses
    have hends : endsPending ⟨BURTC_IRQHandler s.mem, s.pc⟩ = endsPending s := by
      rcases hflags with hsame | ⟨-, hset⟩
      · exact (account_of_flags hsame).2.2
      · have hi := congrArg (fun f => f.2.1) hset
        unfold endsPending
        rw [show (BURTC_IRQHandler s.mem).radarCoapSendInactive = _ from hi]
    refine ⟨?_, fun hs' => ?_⟩
    · rw [hsends, hends, hmisses]
      exact hspent
    · rw [hsends, hends, hmisses]
      show _ ≤ 5 * (misses os + 0) + min (BURTC_IRQHandler s.mem).radarAppVars.detectConf 100
      rw [hconf]
      rcases hflags with hsame | ⟨h80, -⟩
      · obtain ⟨hrep, han, -⟩ := account_of_flags hsame
        have hsave := hsaved (hs'.imp hrep.mp han.mp)
        split <;> omega
      · split <;> omega
  · -- the end is noticed at 20: 16 misses are saved, this is the 17th
    rw [hd, if_neg (by decide)] at hmisses
    simp only [flags, Prod.mk.injEq] at hflags
    obtain ⟨-, hi', hr'⟩ := hflags
    have hends : endsPending ⟨BURTC_IRQHandler s.mem, s.pc⟩ = 1 := if_pos (Or.inl hi')
    refine ⟨?_, fun hs' => ?_⟩
    · rw [hsends, hends, hmisses]
      cases hnow : s.mem.radarCoapSendInactive with
      | true =>
        have hwas : endsPending s = 1 := if_pos (Or.inl hnow)
        rw [hwas] at hspent
        omega
      | false =>
        have hsave := hsaved (Or.inl ⟨hr, hnow⟩)
        rw [h20] at hsave
        omega
    · rcases hs' with hrep | han
      · exact absurd (hi'.symm.trans hrep.2) (by decide)
      · exact absurd (hr'.symm.trans han.2.2) (by decide)
  · -- another miss is saved
    rw [hd, if_neg (by decide)] at hmisses
    obtain ⟨hrep, han, hends⟩ := account_of_flags hflags
    refine ⟨?_, fun hs' => ?_⟩
    · rw [hsends, hends, hmisses]
      omega
    · have hsave := hsaved (hs'.imp hrep.mp han.mp)
      rw [hsends, hends, hmisses]
      show _ ≤ 5 * (misses os + 1) + min (BURTC_IRQHandler s.mem).radarAppVars.detectConf 100
      rw [hconf]
      omega

theorem missLedger_sysStep (e : Ev) {s : Sys} {os : List Obs} (hs : Confident s)
    (hf : FlagsAt s.pc s.mem) (hb : Backed s) (h : MissLedger s os) :
    MissLedger (sysStep s e).1 (os ++ (sysStep s e).2) := by
  rcases sysStep_cases s e with rfl | ⟨env, rfl⟩ | ⟨alive, vdd, coap, calls, hstep⟩
  · exact missLedger_irq hs h
  · refine h.keep (endsPending_mainStep env hf) (frames_mainStep env _).1 ?_ ?_
    · exact detectConf_mainStep env _
    · exact fun hs => hs.elim (reported_mainStep env hf hb)
        (fun han => Or.inr (announced_mainStep env han))
  · rw [hstep]
    refine h.keep ?_ (countP_calls _ (fun _ => rfl) calls) rfl id
    have hnone : sends .inactive (calls.map .call) = 0 := countP_calls _ (fun _ => rfl) calls
    rw [hnone, Nat.zero_add]
    rfl

theorem missLedger_boot (unique : UInt64) : MissLedger ⟨boot unique, .processAction⟩ [] :=
  ⟨Nat.le_refl _, fun hs => hs.elim (fun h => Bool.noConfusion h.1)
    (fun h => Bool.noConfusion h.2.1)⟩

theorem missLedger (unique : UInt64) (es : List Ev) :
    MissLedger ((sysMachine unique).state es) ((sysMachine unique).trace es) :=
  (sysMachine unique).invariant_trace MissLedger (missLedger_boot unique)
    (fun es e h => missLedger_sysStep e (confident unique es) (flagsAt unique es)
      (backed unique es) h) es

/-! ## Reports of a start cost hits -/

/-- 5 hits are spent on every start that is reported or recorded. Unless a presence is
    reported, the confidence above 15 is paid by further hits, each worth 20 of it; and a
    presence that is announced has its 5 hits already. -/
structure HitLedger (s : Sys) (os : List Obs) : Prop where
  spent : 5 * (sends .active os + startsPending s) ≤ hits os
  saved : ¬ Reported s.mem → 100 * (sends .active os + startsPending s) +
    s.mem.radarAppVars.detectConf ≤ 20 * hits os + 15
  announced : Announced s → 5 * (sends .active os + startsPending s + 1) ≤ hits os

theorem hitLedger_irq {s : Sys} {os : List Obs} (hs : Confident s) (h : HitLedger s os) :
    HitLedger ⟨BURTC_IRQHandler s.mem, s.pc⟩ (os ++ [.irq s.mem]) := by
  obtain ⟨hspent, hsaved, han⟩ := h
  obtain ⟨-, hhits, hsends⟩ := counts_irq s.mem os
  have hstarts : startsPending ⟨BURTC_IRQHandler s.mem, s.pc⟩ = startsPending s := rfl
  rcases irq_account hs with ⟨hd, hconf, hflags⟩ | ⟨hd, h20, hr, hconf, hflags⟩ |
    ⟨hd, hconf, hflags⟩
  · rw [hd, if_pos rfl] at hhits
    refine ⟨?_, fun hrep => ?_, fun hann => ?_⟩
    · rw [hsends, hstarts, hhits]
      omega
    · rw [hsends, hstarts, hhits]
      show _ + (BURTC_IRQHandler s.mem).radarAppVars.detectConf ≤ _
      rw [hconf]
      have hsave := hsaved ?_
      · split <;> omega
      · rcases hflags with hsame | ⟨-, hset⟩
        · exact fun hold => hrep ((account_of_flags hsame).1.mpr hold)
        · simp only [flags, Prod.mk.injEq] at hset
          exact fun hold => hrep ⟨hset.2.2.trans hold.1, hset.2.1.trans hold.2⟩
    · rw [hsends, hstarts, hhits]
      rcases hflags with hsame | ⟨h80, hset⟩
      · have hold := han ((account_of_flags hsame).2.1.mp hann)
        omega
      · -- raised at 80 or above: 4 hits are saved, this is the 5th
        simp only [flags, Prod.mk.injEq] at hset
        have hr : s.mem.radarCoapRequireInactivation = false := hset.2.2.symm.trans hann.2.2
        have hsave := hsaved fun hold => absurd (hold.1.symm.trans hr) (by decide)
        omega
  · rw [hd, if_neg (by decide)] at hhits
    simp only [flags, Prod.mk.injEq] at hflags
    refine ⟨?_, fun _ => ?_, fun hann => ?_⟩
    · rw [hsends, hstarts, hhits]
      exact hspent
    · -- from 20 down to 15, where nothing more is to be paid
      rw [hsends, hstarts, hhits]
      show _ + (BURTC_IRQHandler s.mem).radarAppVars.detectConf ≤ _
      rw [hconf]
      omega
    · exact absurd (hflags.2.2.symm.trans hann.2.2) (by decide)
  · rw [hd, if_neg (by decide)] at hhits
    obtain ⟨hrep', hann', -⟩ := account_of_flags hflags
    refine ⟨?_, fun hrep => ?_, fun hann => ?_⟩
    · rw [hsends, hstarts, hhits]
      exact hspent
    · have hsave := hsaved fun hold => hrep (hrep'.mpr hold)
      rw [hsends, hstarts, hhits]
      show _ + (BURTC_IRQHandler s.mem).radarAppVars.detectConf ≤ _
      rw [hconf]
      omega
    · rw [hsends, hstarts, hhits]
      exact han (hann'.mp hann)

theorem hitLedger_mainStep (env : AlgoEnv) {s : Sys} {os : List Obs} (hf : FlagsAt s.pc s.mem)
    (hb : Backed s) (h : HitLedger s os) :
    HitLedger (mainStep env s).1 (os ++ (mainStep env s).2) := by
  obtain ⟨hspent, hsaved, han⟩ := h
  have hstarts := startsPending_mainStep env (s := s)
  have hhits : hits (os ++ (mainStep env s).2) = hits os := by
    rw [hits_append, (frames_mainStep env s).2, Nat.add_zero]
  have hconf := detectConf_mainStep env s
  by_cases hpc : s.pc = .setRequire
  · -- line 309 records an announced presence
    rw [if_pos hpc] at hstarts
    have hold : Announced s := by
      unfold Backed at hb
      rw [hpc] at hf hb
      exact ⟨by simp [hpc], hb, hf.2.1⟩
    have hnow := han hold
    have hnext : Reported (mainStep env s).1.mem := by
      rw [hpc] at hf
      obtain ⟨m, pc⟩ := s
      obtain rfl : pc = .setRequire := hpc
      exact ⟨rfl, hf.1⟩
    refine ⟨?_, fun hrep => absurd hnext hrep, fun hann => ?_⟩
    · rw [sends_append, hhits]
      omega
    · exact absurd (hnext.1.symm.trans hann.2.2) (by decide)
  · rw [if_neg hpc] at hstarts
    refine ⟨?_, fun hrep => ?_, fun hann => ?_⟩
    · rw [sends_append, hhits]
      omega
    · have hsave := hsaved fun hold => hrep (reported_kept env hf hold)
      rw [sends_append, hhits, hconf]
      omega
    · have hnow := han (announced_mainStep env hann)
      rw [sends_append, hhits]
      omega

theorem hitLedger_sysStep (e : Ev) {s : Sys} {os : List Obs} (hs : Confident s)
    (hf : FlagsAt s.pc s.mem) (hb : Backed s) (h : HitLedger s os) :
    HitLedger (sysStep s e).1 (os ++ (sysStep s e).2) := by
  rcases sysStep_cases s e with rfl | ⟨env, rfl⟩ | ⟨alive, vdd, coap, calls, hstep⟩
  · exact hitLedger_irq hs h
  · exact hitLedger_mainStep env hf hb h
  · have hsends : sends .active (os ++ calls.map .call) = sends .active os := by
      rw [sends_append]
      exact congrArg _ (countP_calls _ (fun _ => rfl) calls)
    have hhits : hits (os ++ calls.map .call) = hits os := by
      rw [hits_append]
      exact congrArg _ (countP_calls _ (fun _ => rfl) calls)
    rw [hstep]
    exact ⟨by rw [hsends, hhits]; exact h.spent, by rw [hsends, hhits]; exact h.saved,
      by rw [hsends, hhits]; exact h.announced⟩

theorem hitLedger_boot (unique : UInt64) : HitLedger ⟨boot unique, .processAction⟩ [] := by
  have hboot : (boot unique).radarAppVars.detectConf = 1 := rfl
  refine ⟨Nat.le_refl _, fun _ => ?_, fun h => Bool.noConfusion h.2.1⟩
  rw [hboot]
  exact Nat.le_of_ble_eq_true rfl

theorem hitLedger (unique : UInt64) (es : List Ev) :
    HitLedger ((sysMachine unique).state es) ((sysMachine unique).trace es) :=
  (sysMachine unique).invariant_trace HitLedger (hitLedger_boot unique)
    (fun es e h => hitLedger_sysStep e (confident unique es) (flagsAt unique es)
      (backed unique es) h) es

/-! ## Alive packets -/

/-- The alive timer expires. -/
def Ev.isAlive : Ev → Bool
  | .alive_cb => true
  | _ => false

/-- The alive branch, once it has cleared `appCoapSendAlive`. -/
def Pc.answersAlive : Pc → Bool
  | .readOptAlive | .clearBufferAlive _ | .readRssiAlive _ | .formatAlive _ _ | .sendAlive => true
  | _ => false

/-- An expiry that is pending, and one that is being answered. -/
def alivesPending (s : Sys) : ℕ :=
  (if s.mem.appCoapSendAlive = true then 1 else 0) + if s.pc.answersAlive = true then 1 else 0

/-- The alive branch is entered with a pending expiry. -/
def AliveBacked (s : Sys) : Prop := s.pc = .clearAlive → s.mem.appCoapSendAlive = true

theorem aliveBacked_sysStep (e : Ev) {s : Sys} (h : AliveBacked s) :
    AliveBacked (sysStep s e).1 := by
  cases hmain : e.isMain with
  | true =>
    cases e with
    | main env =>
      obtain ⟨m, pc⟩ := s
      cases pc with
      | testAlive =>
        intro hpc
        by_cases hal : AliveDue m
        · exact hal.2
        · simp [sysStep, mainStep, hal] at hpc
      | testClear | testEstablished | testActive | testRequire | testInactive | testBranch =>
        intro hpc
        simp only [sysStep, mainStep] at hpc
        split at hpc <;> cases hpc
      | _ =>
        intro hpc
        cases hpc
    | _ => cases hmain
  | false =>
    by_cases hb : e = .burtc
    · subst hb
      exact fun hpc => (irq_alive s.mem).trans (h hpc)
    · obtain ⟨alive, vdd, coap, hstep, hal, -⟩ := other_sysStep (s := s) hmain hb
      rw [hstep]
      exact fun hpc => hal (h hpc)

theorem alivesPending_mainStep (env : AlgoEnv) {s : Sys} (h : AliveBacked s) :
    sends .alive (mainStep env s).2 + alivesPending (mainStep env s).1 ≤ alivesPending s := by
  rw [sends_mainStep]
  obtain ⟨m, pc⟩ := s
  cases pc with
  | clearAlive =>
    have hal : m.appCoapSendAlive = true := h rfl
    simp [alivesPending, mainStep, hal, Pc.answersAlive, Site.pc]
  | sendAlive =>
    -- the packet is sent: one expiry less is pending
    show 1 + ((if m.appCoapSendAlive = true then 1 else 0) + 0) ≤
      (if m.appCoapSendAlive = true then 1 else 0) + 1
    omega
  | testClear | testEstablished | testActive | testRequire | testInactive | testBranch
  | testAlive =>
    rw [if_neg (by simp [Site.pc]), Nat.zero_add]
    simp only [mainStep]
    split <;> exact Nat.le_refl _
  | _ => exact Nat.le_of_eq (Nat.zero_add _)

theorem alivesPending_sysStep (e : Ev) {s : Sys} (h : AliveBacked s) :
    sends .alive (sysStep s e).2 + alivesPending (sysStep s e).1 ≤
      alivesPending s + if e.isAlive then 1 else 0 := by
  cases e with
  | burtc =>
    show 0 + alivesPending ⟨BURTC_IRQHandler s.mem, s.pc⟩ ≤ alivesPending s + 0
    unfold alivesPending
    rw [irq_alive, Nat.zero_add]
    exact Nat.le_refl _
  | alive_cb =>
    show 0 + (1 + if s.pc.answersAlive = true then 1 else 0) ≤
      (if s.mem.appCoapSendAlive = true then 1 else 0) +
        (if s.pc.answersAlive = true then 1 else 0) + 1
    omega
  | iadc data => exact Nat.le_of_eq (Nat.zero_add _)
  | permissions r env =>
    have hnone : sends .alive (processRequest r env s.mem).2 = 0 :=
      countP_calls _ (fun _ => rfl) _
    show _ ≤ alivesPending s + 0
    simp only [sysStep]
    split_ifs
    · rw [hnone]
      exact Nat.le_of_eq (Nat.zero_add _)
    · exact Nat.le_of_eq (Nat.zero_add _)
  | main env => exact alivesPending_mainStep env h

/-- Every alive packet answers an expiry of the timer of its own. -/
theorem alives_bounded (unique : UInt64) (es : List Ev) :
    sends .alive ((sysMachine unique).trace es) + alivesPending ((sysMachine unique).state es) ≤
      es.countP Ev.isAlive := by
  refine (sysMachine unique).answers_le_requests alivesPending _ Ev.isAlive rfl ?_ es
  intro es e
  exact alivesPending_sysStep e ((sysMachine unique).invariant AliveBacked
    (fun hpc => by cases hpc) (fun _ e => aliveBacked_sysStep e) es)

/-! ## Measurements -/

/-- A call of `acc_detector_presence_get_next`. -/
def Obs.isGetNext : Obs → Bool
  | .getNext => true
  | _ => false

/-- A request for a frame that no call has taken up. -/
def framesPending (s : Sys) : ℕ :=
  if s.mem.radarAppVars.clearToMeasure = true ∧ s.pc ≠ .inGetNext ∧ s.pc ≠ .clearFlag then 1
  else 0

/-- A call is made for a request only. -/
def FrameBacked (s : Sys) : Prop :=
  s.pc = .getNext → s.mem.radarAppVars.clearToMeasure = true

theorem frameBacked_sysStep (e : Ev) {s : Sys} (h : FrameBacked s) :
    FrameBacked (sysStep s e).1 := by
  rcases sysStep_cases s e with rfl | ⟨env, rfl⟩ | ⟨alive, vdd, coap, calls, hstep⟩
  · exact fun _ => irq_clearToMeasure s.mem
  · obtain ⟨m, pc⟩ := s
    cases pc with
    | testClear =>
      intro hpc
      cases hc : m.radarAppVars.clearToMeasure with
      | true => exact hc
      | false => simp [sysStep, mainStep, hc] at hpc
    | testEstablished | testActive | testRequire | testInactive | testBranch | testAlive =>
      intro hpc
      simp only [sysStep, mainStep] at hpc
      split at hpc <;> cases hpc
    | _ =>
      intro hpc
      cases hpc
  · rw [hstep]
    exact h

theorem framesPending_mainStep (env : AlgoEnv) {s : Sys} (h : FrameBacked s) :
    (mainStep env s).2.countP Obs.isGetNext + framesPending (mainStep env s).1 ≤
      framesPending s := by
  obtain ⟨m, pc⟩ := s
  cases pc with
  | getNext =>
    have hc : m.radarAppVars.clearToMeasure = true := h rfl
    simp [framesPending, mainStep, Obs.isGetNext, hc]
  | clearFlag => simp [framesPending, mainStep]
  | inGetNext => simp [framesPending, mainStep, Obs.isGetNext]
  | testClear =>
    cases hc : m.radarAppVars.clearToMeasure <;> simp [framesPending, mainStep, hc]
  | sendInactive | sendActive | sendAlive =>
    have hcalls := countP_calls Obs.isGetNext (fun _ => rfl)
    simp [framesPending, mainStep, callSender_obs, Obs.isGetNext, hcalls]
    exact Nat.le_refl _
  | clearRequire | setRequire => simp [framesPending, mainStep, Obs.isGetNext]
  | testEstablished | testActive | testRequire | testInactive | testBranch | testAlive =>
    simp only [mainStep]
    split <;> simp [framesPending]
  | _ => simp [framesPending, mainStep, clearTxBuffer, formatPayload]

/-- Every measurement answers an interrupt of its own. -/
theorem frames_bounded (unique : UInt64) (es : List Ev) :
    ((sysMachine unique).trace es).countP Obs.isGetNext +
      framesPending ((sysMachine unique).state es) ≤ es.countP Ev.isBurtc := by
  refine (sysMachine unique).answers_le_requests framesPending _ Ev.isBurtc rfl ?_ es
  intro es e
  have hbacked := (sysMachine unique).invariant FrameBacked (fun hpc => by cases hpc)
    (fun _ e => frameBacked_sysStep e) es
  rcases sysStep_cases ((sysMachine unique).state es) e with rfl | ⟨env, rfl⟩ |
    ⟨alive, vdd, coap, calls, hstep⟩
  · show 0 + framesPending _ ≤ _ + 1
    have hone : framesPending ⟨BURTC_IRQHandler ((sysMachine unique).state es).mem,
        ((sysMachine unique).state es).pc⟩ ≤ 1 := by
      unfold framesPending
      split <;> omega
    show 0 + framesPending ⟨BURTC_IRQHandler ((sysMachine unique).state es).mem,
        ((sysMachine unique).state es).pc⟩ ≤ _ + 1
    omega
  · exact framesPending_mainStep env hbacked
  · rw [sysMachine_step, hstep, countP_calls _ (fun _ => rfl), Nat.zero_add]
    exact Nat.le_add_right _ _

/-! ## Traffic -/

/-- Every interrupt counts a frame, with presence or without. -/
theorem frames_counted (unique : UInt64) (es : List Ev) :
    misses ((sysMachine unique).trace es) + hits ((sysMachine unique).trace es) =
      es.countP Ev.isBurtc := by
  induction es using List.reverseRecOn with
  | nil => rfl
  | append_singleton es e ih =>
    rw [Machine.trace_snoc, misses_append, hits_append, List.countP_append, ← ih]
    have hstep : misses (sysStep ((sysMachine unique).state es) e).2 +
        hits (sysStep ((sysMachine unique).state es) e).2 = [e].countP Ev.isBurtc := by
      cases e with
      | burtc =>
        cases hd : ((sysMachine unique).state es).mem.result.presence_detected <;>
          simp [sysStep, misses, hits, Obs.miss, Obs.hit, hd, Ev.isBurtc]
      | main env =>
        obtain ⟨hm, hh⟩ := frames_mainStep env ((sysMachine unique).state es)
        simp [sysStep, hm, hh, Ev.isBurtc]
      | alive_cb => rfl
      | iadc data => rfl
      | permissions r env =>
        simp only [sysStep]
        split_ifs
        · exact congrArg₂ (· + ·) (countP_calls _ (fun _ => rfl) _)
            (countP_calls _ (fun _ => rfl) _)
        · rfl
    show _ + misses (sysStep _ e).2 + (_ + hits (sysStep _ e).2) = _
    omega

/-- What a run sends. A report of an end is paid by 17 frames without presence of its own, a
    report of a start by 5 frames with presence, and an alive packet by an expiry of its
    timer; and there are no other messages. -/
theorem traffic_bounded (unique : UInt64) (es : List Ev) :
    17 * sends .inactive ((sysMachine unique).trace es) ≤
        misses ((sysMachine unique).trace es) ∧
      5 * sends .active ((sysMachine unique).trace es) ≤ hits ((sysMachine unique).trace es) ∧
      sends .alive ((sysMachine unique).trace es) ≤ es.countP Ev.isAlive ∧
      (texts ((sysMachine unique).trace es)).length =
        sends .inactive ((sysMachine unique).trace es) +
          sends .active ((sysMachine unique).trace es) +
          sends .alive ((sysMachine unique).trace es) := by
  have hends := (missLedger unique es).spent
  have hstarts := (hitLedger unique es).spent
  have halives := alives_bounded unique es
  refine ⟨by omega, by omega, by omega, ?_⟩
  generalize (sysMachine unique).trace es = os
  induction os with
  | nil => rfl
  | cons o os ih =>
    cases o with
    | sender site m =>
      unfold texts sends at ih ⊢
      cases site <;> simp [Obs.text, Obs.sentAt, ih] <;> omega
    | _ => exact ih

/-- An interrupt ends an interval of at least 750 ms. -/
theorem intervals_ge (unique : UInt64) (es : List Ev) :
    750 * es.countP Ev.isBurtc ≤ (intervals ((sysMachine unique).trace es)).sum := by
  induction es using List.reverseRecOn with
  | nil => exact Nat.le_refl _
  | append_singleton es e ih =>
    rw [Machine.trace_snoc, intervals_append, List.sum_append, List.countP_append]
    by_cases he : e = .burtc
    · subst he
      obtain ⟨hconf, htimed⟩ := timed unique es
      have hreg : 750 ≤ ((sysMachine unique).state es).mem.burtcCompare := by
        rcases hconf.phase with hb | hs
        · rw [htimed.boot hb.conf]
          decide
        · rw [htimed.settled hs.level.floor_le]
          exact le_max_left _ _
      show 750 * (_ + 1) ≤ _ + ((sysMachine unique).state es).mem.burtcCompare
      omega
    · have hno : [e].countP Ev.isBurtc = 0 := by
        cases e with
        | burtc => exact absurd rfl he
        | _ => rfl
      rw [hno]
      omega

/-- State reports by their digits. -/
theorem sends_eq_count (os : List Obs)
    (hdigits : ∀ site m, .sender site m ∈ os → FlagsAt site.pc m) :
    sends .active os = (reports os).count ['1'] ∧
      sends .inactive os = (reports os).count ['0'] := by
  induction os with
  | nil => exact ⟨rfl, rfl⟩
  | cons o os ih =>
    obtain ⟨hone, hzero⟩ := ih fun site m hm => hdigits site m (List.mem_cons_of_mem _ hm)
    cases o with
    | sender site m =>
      have hflags := hdigits site m List.mem_cons_self
      unfold sends reports at hone hzero ⊢
      cases site with
      | alive => exact ⟨hone, hzero⟩
      | inactive =>
        have h0 : stateOf m.tx_buffer = ['0'] := hflags.2.2
        simp [Obs.sentAt, Obs.report, hone, hzero, h0]
      | active =>
        have h1 : stateOf m.tx_buffer = ['1'] := hflags.2
        simp [Obs.sentAt, Obs.report, hone, hzero, h1]
    | _ => exact ⟨hone, hzero⟩

/-- Reports of a start and of an end come in turn, so their numbers differ by one at most. -/
theorem sends_alternate (unique : UInt64) (es : List Ev) :
    sends .inactive ((sysMachine unique).trace es) ≤ sends .active ((sysMachine unique).trace es) ∧
      sends .active ((sysMachine unique).trace es) ≤
        sends .inactive ((sysMachine unique).trace es) + 1 := by
  obtain ⟨hone, hzero⟩ := sends_eq_count ((sysMachine unique).trace es)
    fun _ _ hm => sender_mem_trace hm
  have halt := (reports_toggle unique es).alternates
  have hcounts := count_alternating (x := ['1']) (y := ['0']) (by decide)
    (reports ((sysMachine unique).trace es)).length
  rw [← halt] at hcounts
  omega

/-- The pace of a run, by the timer intervals that have passed. A frame is measured every
    750 ms at most. A start and an end of presence are reported every 16.5 s at most, and of
    starts there is one more at most. -/
theorem traffic_paced (unique : UInt64) (es : List Ev) :
    750 * ((sysMachine unique).trace es).countP Obs.isGetNext ≤
        (intervals ((sysMachine unique).trace es)).sum ∧
      16500 * sends .inactive ((sysMachine unique).trace es) ≤
        (intervals ((sysMachine unique).trace es)).sum ∧
      sends .active ((sysMachine unique).trace es) ≤
        sends .inactive ((sysMachine unique).trace es) + 1 := by
  have hframes := frames_bounded unique es
  have hcounted := frames_counted unique es
  have htime := intervals_ge unique es
  have hends := (missLedger unique es).spent
  have hstarts := (hitLedger unique es).spent
  obtain ⟨hle, hone⟩ := sends_alternate unique es
  exact ⟨by omega, by omega, hone⟩

end OtIpr
