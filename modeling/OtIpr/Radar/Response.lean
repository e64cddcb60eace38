/-
  Pending notifications are answered, under every interleaving.

  A pending notification is a flag in memory; the main loop answers it with a message when it
  comes by. Interrupts may come at any statement in between, so the bounds here count
  statements of the main loop. Each answer has its rank: how many statements it is away, at
  most, from where the main loop stands.

  * `notifications_answered`: a pending inactive notification is answered within 25
    statements, an active one within 24 unless its withdrawal is just being written.
  * `alive_answered`: after the alive timer some message is sent within 18 statements.
  * `end_of_presence_reported`: a reported presence that misses 20 frames in a row is reported
    over after 25 statements more.
  * `start_of_presence_reported`: from a confidence of 25 or below, five detected frames in a
    row are reported after 24 statements more.
-/
import OtIpr.Radar.Addressing
import OtIpr.Radar.Hysteresis
import OtIpr.Radar.Latency

namespace OtIpr

open Lib

variable {unique : UInt64}

/-! ## Statements -/

/-- A statement of the main loop. -/
def Ev.isMain : Ev → Bool
  | .main _ => true
  | _ => false

/-- Events other than interrupts of the timer and statements: the main loop stays, and of what
    an answer depends on they may raise the alive flag and establish a connection. -/
theorem other_sysStep {s : Sys} {e : Ev} (he : e.isMain = false) (hb : e ≠ .burtc) :
    ∃ alive vdd coap, (sysStep s e).1 =
        ⟨{ s.mem with appCoapSendAlive := alive, vdd_meas := vdd, coap := coap }, s.pc⟩ ∧
      (s.mem.appCoapSendAlive = true → alive = true) ∧
      (s.mem.coap.appCoapConnectionEstablished = true →
        coap.appCoapConnectionEstablished = true) := by
  cases e with
  | burtc => exact absurd rfl hb
  | main env => cases he
  | alive_cb => exact ⟨_, _, _, rfl, fun _ => rfl, id⟩
  | iadc data => exact ⟨_, _, _, rfl, id, id⟩
  | permissions r env =>
    simp only [sysStep]
    split_ifs
    · exact ⟨_, _, _, rfl, id, fun _ => rfl⟩
    · exact ⟨_, _, _, rfl, id, id⟩

/-- The rule for answers by the main loop. A statement answers, or keeps `P` and comes closer;
    other events keep `P`. -/
theorem statements_respond (P : Sys → Prop) (rank : Pc → ℕ) (answer : Obs → Prop)
    (stmt : ∀ s env, P s → (∃ o ∈ (mainStep env s).2, answer o) ∨
      (P (mainStep env s).1 ∧ rank (mainStep env s).1.pc < rank s.pc))
    (irq : ∀ s, P s → P ⟨BURTC_IRQHandler s.mem, s.pc⟩)
    (other : ∀ s alive vdd coap, (s.mem.appCoapSendAlive = true → alive = true) →
      (s.mem.coap.appCoapConnectionEstablished = true →
        coap.appCoapConnectionEstablished = true) → P s →
      P ⟨{ s.mem with appCoapSendAlive := alive, vdd_meas := vdd, coap := coap }, s.pc⟩)
    {s : Sys} {fs : List Ev} (h : P s) (hfs : rank s.pc < fs.countP Ev.isMain) :
    ∃ o ∈ (sysMachine unique).traceFrom s fs, answer o := by
  refine (sysMachine unique).responds Ev.isMain P (fun s => rank s.pc) answer ?_ h hfs
  intro s e h
  cases hmain : e.isMain with
  | true =>
    cases e with
    | main env =>
      rcases stmt s env h with hans | ⟨hnext, hrank⟩
      · exact Or.inl hans
      · exact Or.inr ⟨hnext, hrank⟩
    | _ => cases hmain
  | false =>
    by_cases hb : e = .burtc
    · subst hb
      exact Or.inr ⟨irq s h, le_of_eq rfl⟩
    · obtain ⟨alive, vdd, coap, hstep, halive, hest⟩ := other_sysStep (s := s) hmain hb
      rw [sysMachine_step, hstep]
      exact Or.inr ⟨other s alive vdd coap halive hest h, le_of_eq rfl⟩

@[simp] theorem established_mainStep (env : AlgoEnv) (s : Sys) :
    (mainStep env s).1.mem.coap.appCoapConnectionEstablished =
      s.mem.coap.appCoapConnectionEstablished := by
  obtain ⟨m, pc⟩ := s
  cases pc with
  | sendInactive => exact callSender_established .inactive true env.sender m
  | sendActive => exact callSender_established .active true env.sender m
  | sendAlive => exact callSender_established .alive false env.sender m
  | _ => rfl

/-- An interrupt of the radar timer leaves the alive flag. -/
theorem irq_alive (m : Mem) : (BURTC_IRQHandler m).appCoapSendAlive = m.appCoapSendAlive := by
  obtain ⟨v, a, i, b, h, -, -⟩ := irq_frame m
  rw [h]

/-! ## The inactive notification -/

/-- The inactive branch, once it has cleared `radarCoapRequireInactivation`. -/
def Pc.endsPresence : Pc → Bool
  | .clearActive | .clearInactive | .sendInactive => true
  | _ => false

/-- An inactive notification is pending or being sent, on an established connection. -/
structure InactiveDue (s : Sys) : Prop where
  established : s.mem.coap.appCoapConnectionEstablished = true
  flags : FlagsAt s.pc s.mem
  due : s.mem.radarCoapSendInactive = true ∨ s.pc.endsPresence = true

/-- The statements up to the send of the inactive branch, when its notification is due. -/
def Pc.toInactive : Pc → ℕ
  | .sendInactive => 0
  | .clearInactive => 1
  | .clearActive => 2
  | .clearRequire => 3
  | .testBranch => 4
  | .format _ _ => 5
  | .readRssi _ => 6
  | .clearBuffer _ => 7
  | .readOpt => 8
  | .testInactive => 9
  | .testRequire => 10
  | .testActive => 11
  | .testEstablished => 12
  | .clearFlag => 13
  | .inGetNext => 14
  | .getNext => 15
  | .testClear => 16
  | .processAction => 17
  | .sendActive => 18
  | .clearActiveSent => 19
  | .setRequire => 20
  | .sendAlive => 18
  | .formatAlive _ _ => 19
  | .readRssiAlive _ => 20
  | .clearBufferAlive _ => 21
  | .readOptAlive => 22
  | .clearAlive => 23
  | .testAlive => 24

/-- A call of the sender at a site. -/
def Obs.sentAt (site : Site) : Obs → Bool
  | .sender site' _ => site' = site
  | _ => false

/-- A due notification stays due until the inactive branch sends. -/
theorem inactiveDue_kept (env : AlgoEnv) {s : Sys} (h : InactiveDue s)
    (hpc : s.pc ≠ .sendInactive) : InactiveDue (mainStep env s).1 := by
  refine ⟨(established_mainStep env s).trans h.established, flagsAt_mainStep env h.flags, ?_⟩
  obtain ⟨-, -, hdue⟩ := h
  obtain ⟨m, pc⟩ := s
  cases pc with
  | sendInactive => exact absurd rfl hpc
  | clearRequire | clearActive | clearInactive => exact Or.inr rfl
  | _ =>
    -- the statements outside the branch leave the flag
    exact Or.inl (hdue.resolve_right fun hp => Bool.noConfusion hp)

/-- Until then each statement comes closer: the tests lead into the inactive branch. -/
theorem toInactive_lt (env : AlgoEnv) {s : Sys} (h : InactiveDue s)
    (hpc : s.pc ≠ .sendInactive) : (mainStep env s).1.pc.toInactive < s.pc.toInactive := by
  obtain ⟨hest, hf, hdue⟩ := h
  obtain ⟨m, pc⟩ := s
  cases pc with
  | sendInactive => exact absurd rfl hpc
  | setRequire =>
    -- with a notification pending the test of line 300 does not lead here
    have hi : m.radarCoapSendInactive = true := hdue.resolve_right fun hp => Bool.noConfusion hp
    exact absurd hf.1 (by simp [hi])
  | testEstablished =>
    have hest' : m.coap.appCoapConnectionEstablished = true := hest
    simp [mainStep, hest', Pc.toInactive]
  | testInactive | testBranch =>
    have hi : m.radarCoapSendInactive = true := hdue.resolve_right fun hp => Bool.noConfusion hp
    simp [mainStep, hi, Pc.toInactive]
  | testClear | testActive | testRequire | testAlive =>
    simp only [mainStep]
    split <;> simp [Pc.toInactive]
  | _ => simp [mainStep, Pc.toInactive]

theorem inactiveDue_irq {s : Sys} (h : InactiveDue s) :
    InactiveDue ⟨BURTC_IRQHandler s.mem, s.pc⟩ where
  established := by
    rw [irq_coap]
    exact h.established
  flags := flagsAt_irq h.flags
  due := h.due.imp irq_sendInactive_of_pending id

/-- A due inactive notification is answered within 25 statements. -/
theorem inactive_answered {s : Sys} (h : InactiveDue s) {fs : List Ev}
    (hfs : 25 ≤ fs.countP Ev.isMain) :
    ∃ o ∈ (sysMachine unique).traceFrom s fs, o.sentAt .inactive := by
  have hrank : s.pc.toInactive ≤ 24 := by
    cases s.pc <;> simp [Pc.toInactive]
  refine statements_respond InactiveDue Pc.toInactive _ ?_ (fun _ => inactiveDue_irq) ?_ h
    (by omega)
  · intro s env h
    by_cases hpc : s.pc = .sendInactive
    · obtain ⟨m, pc⟩ := s
      subst hpc
      exact Or.inl ⟨_, List.mem_cons_self, rfl⟩
    · exact Or.inr ⟨inactiveDue_kept env h hpc, toInactive_lt env h hpc⟩
  · intro s alive vdd coap _ hest h
    exact ⟨hest h.established, flagsAt_congr (m := s.mem) rfl rfl rfl h.flags, h.due⟩

/-! ## The active notification -/

/-- The active branch, once it has set `radarCoapRequireInactivation`. -/
def Pc.startsPresence : Pc → Bool
  | .clearActiveSent | .sendActive => true
  | _ => false

/-- An active notification is pending or being sent, on an established connection, and the
    inactive branch is not just withdrawing it (line 303). -/
structure ActiveDue (s : Sys) : Prop where
  established : s.mem.coap.appCoapConnectionEstablished = true
  flags : FlagsAt s.pc s.mem
  due : (s.mem.radarCoapSendActive = true ∧ s.mem.radarCoapRequireInactivation = false ∧
    s.pc ≠ .clearActive) ∨ s.pc.startsPresence = true

/-- The statements up to the send of the active branch, when its notification is due. The
    inactive branch is left from line 304 on only. -/
def Pc.toActive : Pc → ℕ
  | .sendActive => 0
  | .clearActiveSent => 1
  | .setRequire => 2
  | .testBranch => 3
  | .format _ _ => 4
  | .readRssi _ => 5
  | .clearBuffer _ => 6
  | .readOpt => 7
  | .testRequire => 8
  | .testActive => 9
  | .testEstablished => 10
  | .clearFlag => 11
  | .inGetNext => 12
  | .getNext => 13
  | .testClear => 14
  | .processAction => 15
  | .sendInactive => 16
  | .clearInactive => 17
  | .clearActive => 0
  | .clearRequire => 0
  | .sendAlive => 16
  | .formatAlive _ _ => 17
  | .readRssiAlive _ => 18
  | .clearBufferAlive _ => 19
  | .readOptAlive => 20
  | .clearAlive => 21
  | .testAlive => 22
  | .testInactive => 23

/-- A due notification stays due until the active branch sends, and each statement comes
    closer: no inactivation is owed, so nothing leads into the inactive branch. -/
theorem activeDue_mainStep (env : AlgoEnv) {s : Sys} (h : ActiveDue s) (hpc : s.pc ≠ .sendActive) :
    ActiveDue (mainStep env s).1 ∧ (mainStep env s).1.pc.toActive < s.pc.toActive := by
  have hest := (established_mainStep env s).trans h.established
  have hflags := flagsAt_mainStep env h.flags
  obtain ⟨hest', hf, hdue⟩ := h
  obtain ⟨m, pc⟩ := s
  cases pc with
  | sendActive => exact absurd rfl hpc
  | clearActiveSent => exact ⟨⟨hest, hflags, Or.inr rfl⟩, by simp [mainStep, Pc.toActive]⟩
  | setRequire => exact ⟨⟨hest, hflags, Or.inr rfl⟩, by simp [mainStep, Pc.toActive]⟩
  | clearRequire =>
    obtain ⟨-, hr, -⟩ := hdue.resolve_right fun hp => Bool.noConfusion hp
    exact absurd (hf.2.1.symm.trans hr) (by decide)
  | clearActive => exact absurd rfl (hdue.resolve_right fun hp => Bool.noConfusion hp).2.2
  | testEstablished =>
    have hm : m.coap.appCoapConnectionEstablished = true := hest'
    obtain ⟨ha, hr, -⟩ := hdue.resolve_right fun hp => Bool.noConfusion hp
    exact ⟨⟨hest, hflags, Or.inl ⟨ha, hr, by simp [mainStep, hm]⟩⟩,
      by simp [mainStep, hm, Pc.toActive]⟩
  | testActive =>
    obtain ⟨ha, hr, -⟩ := hdue.resolve_right fun hp => Bool.noConfusion hp
    have hm : m.radarCoapSendActive = true := ha
    exact ⟨⟨hest, hflags, Or.inl ⟨ha, hr, by simp [mainStep, hm]⟩⟩,
      by simp [mainStep, hm, Pc.toActive]⟩
  | testRequire =>
    obtain ⟨ha, hr, -⟩ := hdue.resolve_right fun hp => Bool.noConfusion hp
    have hm : m.radarCoapRequireInactivation = false := hr
    exact ⟨⟨hest, hflags, Or.inl ⟨ha, hr, by simp [mainStep, hm]⟩⟩,
      by simp [mainStep, hm, Pc.toActive]⟩
  | testBranch =>
    obtain ⟨ha, hr, -⟩ := hdue.resolve_right fun hp => Bool.noConfusion hp
    have hi : m.radarCoapSendInactive = false := hf.1.trans hr
    exact ⟨⟨hest, hflags, Or.inl ⟨ha, hr, by simp [mainStep, hi]⟩⟩,
      by simp [mainStep, hi, Pc.toActive]⟩
  | testClear | testInactive | testAlive =>
    obtain ⟨ha, hr, -⟩ := hdue.resolve_right fun hp => Bool.noConfusion hp
    refine ⟨⟨hest, hflags, Or.inl ⟨ha, hr, ?_⟩⟩, ?_⟩
    · simp only [mainStep]
      split <;> simp
    · simp only [mainStep]
      split <;> simp [Pc.toActive]
  | _ =>
    obtain ⟨ha, hr, -⟩ := hdue.resolve_right fun hp => Bool.noConfusion hp
    exact ⟨⟨hest, hflags, Or.inl ⟨ha, hr, by simp [mainStep]⟩⟩, by simp [mainStep, Pc.toActive]⟩

theorem activeDue_irq {s : Sys} (h : ActiveDue s) :
    ActiveDue ⟨BURTC_IRQHandler s.mem, s.pc⟩ where
  established := by
    rw [irq_coap]
    exact h.established
  flags := flagsAt_irq h.flags
  due := by
    refine h.due.imp ?_ id
    rintro ⟨ha, hr, hpc⟩
    refine ⟨?_, by rw [irq_require]; exact hr, hpc⟩
    rw [irq_sendActive, ha, Bool.true_or]

/-- A due active notification is answered within 24 statements. -/
theorem active_answered {s : Sys} (h : ActiveDue s) {fs : List Ev}
    (hfs : 24 ≤ fs.countP Ev.isMain) :
    ∃ o ∈ (sysMachine unique).traceFrom s fs, o.sentAt .active := by
  have hrank : s.pc.toActive ≤ 23 := by
    cases s.pc <;> simp [Pc.toActive]
  refine statements_respond ActiveDue Pc.toActive _ ?_ (fun _ => activeDue_irq) ?_ h (by omega)
  · intro s env h
    by_cases hpc : s.pc = .sendActive
    · obtain ⟨m, pc⟩ := s
      subst hpc
      exact Or.inl ⟨_, List.mem_cons_self, rfl⟩
    · exact Or.inr (activeDue_mainStep env h hpc)
  · intro s alive vdd coap _ hest h
    exact ⟨hest h.established, flagsAt_congr (m := s.mem) rfl rfl rfl h.flags, h.due⟩

/-- With a connection, every pending notification is answered, whatever interrupts come in
    between: an inactive one within 25 statements of the main loop, an active one that no
    owed inactivation holds back within 24. The exception is an active notification that the
    inactive branch is about to withdraw, at line 303. -/
theorem notifications_answered (unique : UInt64) (es fs : List Ev)
    (hest : ((sysMachine unique).state es).mem.coap.appCoapConnectionEstablished = true) :
    (((sysMachine unique).state es).mem.radarCoapSendInactive = true →
      25 ≤ fs.countP Ev.isMain →
      ∃ o ∈ (sysMachine unique).traceFrom ((sysMachine unique).state es) fs,
        o.sentAt .inactive) ∧
    (((sysMachine unique).state es).mem.radarCoapSendActive = true →
      ((sysMachine unique).state es).mem.radarCoapRequireInactivation = false →
      ((sysMachine unique).state es).pc ≠ .clearActive →
      24 ≤ fs.countP Ev.isMain →
      ∃ o ∈ (sysMachine unique).traceFrom ((sysMachine unique).state es) fs,
        o.sentAt .active) := by
  refine ⟨?_, ?_⟩
  · intro hi hfs
    exact inactive_answered ⟨hest, flagsAt unique es, Or.inl hi⟩ hfs
  · intro ha hr hpc hfs
    exact active_answered ⟨hest, flagsAt unique es, Or.inl ⟨ha, hr, hpc⟩⟩ hfs

/-- A detected frame counted at 90, and the handshake: an active notification is pending. -/
def risen : List Ev := rise ++ [.burtc, .get]

theorem notifications_answered_risen :
    ∃ o ∈ (sysMachine 7).traceFrom ((sysMachine 7).state risen) (stmts 24 (.sample false)),
      o.sentAt .active :=
  (notifications_answered 7 risen (stmts 24 (.sample false)) (by decide +kernel)).2
    (by decide +kernel) (by decide +kernel) (by decide +kernel) (by decide +kernel)

/-! ## The alive packet -/

/-- The statements that lead to a message without a further test of whether to send one. -/
def Pc.transmits : Pc → Bool
  | .processAction | .testClear | .getNext | .inGetNext | .clearFlag => false
  | .testEstablished | .testActive | .testRequire | .testInactive | .testAlive => false
  | _ => true

/-- An alive packet is due or a message is under way, on an established connection. -/
structure MessageDue (s : Sys) : Prop where
  established : s.mem.coap.appCoapConnectionEstablished = true
  due : s.mem.appCoapSendAlive = true ∨ s.pc.transmits = true

/-- The statements up to the next send, when a message is due. -/
def Pc.toMessage : Pc → ℕ
  | .sendInactive | .sendActive | .sendAlive => 0
  | .clearInactive => 1
  | .clearActive => 2
  | .clearRequire => 3
  | .clearActiveSent => 1
  | .setRequire => 2
  | .testBranch => 4
  | .format _ _ => 5
  | .readRssi _ => 6
  | .clearBuffer _ => 7
  | .readOpt => 8
  | .formatAlive _ _ => 1
  | .readRssiAlive _ => 2
  | .clearBufferAlive _ => 3
  | .readOptAlive => 4
  | .clearAlive => 5
  | .testAlive => 6
  | .testInactive => 9
  | .testRequire => 10
  | .testActive => 11
  | .testEstablished => 12
  | .clearFlag => 13
  | .inGetNext => 14
  | .getNext => 15
  | .testClear => 16
  | .processAction => 17

/-- A due message stays due until one is sent, and each statement comes closer. -/
theorem messageDue_mainStep (env : AlgoEnv) {s : Sys} (h : MessageDue s) :
    (∃ o ∈ (mainStep env s).2, o.text.isSome = true) ∨
      (MessageDue (mainStep env s).1 ∧ (mainStep env s).1.pc.toMessage < s.pc.toMessage) := by
  have hest := (established_mainStep env s).trans h.established
  obtain ⟨hest', hdue⟩ := h
  obtain ⟨m, pc⟩ := s
  cases pc with
  | sendInactive | sendActive | sendAlive => exact Or.inl ⟨_, List.mem_cons_self, rfl⟩
  | testEstablished =>
    have hm : m.coap.appCoapConnectionEstablished = true := hest'
    exact Or.inr ⟨⟨hest, hdue.imp id fun hp => Bool.noConfusion hp⟩,
      by simp [mainStep, hm, Pc.toMessage]⟩
  | testAlive =>
    have hal : AliveDue m := ⟨hest', hdue.resolve_right fun hp => Bool.noConfusion hp⟩
    refine Or.inr ⟨⟨hest, Or.inr ?_⟩, ?_⟩
    · simp [mainStep, hal, Pc.transmits]
    · simp [mainStep, hal, Pc.toMessage]
  | testBranch =>
    refine Or.inr ⟨⟨hest, Or.inr ?_⟩, ?_⟩
    · simp only [mainStep]
      split <;> rfl
    · simp only [mainStep]
      split <;> simp [Pc.toMessage]
  | processAction | testClear | getNext | inGetNext | clearFlag | testActive | testRequire
  | testInactive =>
    refine Or.inr ⟨⟨hest, Or.inl (hdue.resolve_right fun hp => Bool.noConfusion hp)⟩, ?_⟩
    simp only [mainStep]
    try split
    all_goals simp [Pc.toMessage]
  | _ => exact Or.inr ⟨⟨hest, Or.inr rfl⟩, by simp [mainStep, Pc.toMessage]⟩

/-- With a connection, an alive packet that is due leads to a message within 18 statements: the
    alive packet, or a state report that goes first. -/
theorem alive_answered (unique : UInt64) (es fs : List Ev)
    (hest : ((sysMachine unique).state es).mem.coap.appCoapConnectionEstablished = true)
    (halive : ((sysMachine unique).state es).mem.appCoapSendAlive = true)
    (hfs : 18 ≤ fs.countP Ev.isMain) :
    texts ((sysMachine unique).traceFrom ((sysMachine unique).state es) fs) ≠ [] := by
  have hrank : ((sysMachine unique).state es).pc.toMessage ≤ 17 := by
    cases ((sysMachine unique).state es).pc <;> simp [Pc.toMessage]
  obtain ⟨o, ho, hans⟩ : ∃ o ∈ (sysMachine unique).traceFrom ((sysMachine unique).state es) fs,
      o.text.isSome = true := by
    refine statements_respond MessageDue Pc.toMessage _
      (fun _ env h => messageDue_mainStep env h) ?_ ?_ ⟨hest, Or.inl halive⟩ (by omega)
    · intro s h
      exact ⟨by rw [irq_coap]; exact h.established, by rw [irq_alive]; exact h.due⟩
    · intro s alive vdd coap hal hest h
      exact ⟨hest h.established, h.due.imp hal id⟩
  obtain ⟨t, ht⟩ := Option.isSome_iff_exists.mp hans
  exact List.ne_nil_of_mem (List.mem_filterMap.mpr ⟨o, ho, ht⟩)

theorem alive_answered_first :
    texts ((sysMachine 7).traceFrom ((sysMachine 7).state [.get, .alive_cb])
      (stmts 18 (.sample false))) ≠ [] :=
  alive_answered 7 [.get, .alive_cb] (stmts 18 (.sample false)) (by decide +kernel)
    (by decide +kernel) (by decide +kernel)

/-! ## The end of presence -/

/-- An interrupt of the timer. -/
def Ev.isBurtc : Ev → Bool
  | .burtc => true
  | _ => false

/-- A presence was reported, and its end is owed, pending or being sent. -/
structure Ending (s : Sys) : Prop where
  established : s.mem.coap.appCoapConnectionEstablished = true
  confident : Confident s
  flags : FlagsAt s.pc s.mem
  due : Owed s.mem ∨ s.pc.endsPresence = true

theorem established_sysStep (e : Ev) {s : Sys}
    (h : s.mem.coap.appCoapConnectionEstablished = true) :
    (sysStep s e).1.mem.coap.appCoapConnectionEstablished = true := by
  cases hmain : e.isMain with
  | true =>
    cases e with
    | main env => exact (established_mainStep env s).trans h
    | _ => cases hmain
  | false =>
    by_cases hb : e = .burtc
    · subst hb
      show (BURTC_IRQHandler s.mem).coap.appCoapConnectionEstablished = true
      rw [irq_coap]
      exact h
    · obtain ⟨alive, vdd, coap, hstep, -, hest⟩ := other_sysStep (s := s) hmain hb
      rw [hstep]
      exact hest h

/-- From line 303 on the inactive branch runs to its send. -/
theorem endsPresence_sysStep (e : Ev) {s : Sys} (h : s.pc.endsPresence = true) :
    (∃ o ∈ (sysStep s e).2, o.sentAt .inactive) ∨ (sysStep s e).1.pc.endsPresence = true := by
  cases hmain : e.isMain with
  | true =>
    cases e with
    | main env =>
      obtain ⟨m, pc⟩ := s
      cases pc with
      | sendInactive => exact Or.inl ⟨_, List.mem_cons_self, rfl⟩
      | clearActive | clearInactive => exact Or.inr rfl
      | _ => cases h
    | _ => cases hmain
  | false =>
    by_cases hb : e = .burtc
    · subst hb
      exact Or.inr h
    · obtain ⟨alive, vdd, coap, hstep, -, -⟩ := other_sysStep (s := s) hmain hb
      rw [hstep]
      exact Or.inr h

theorem ending_sysStep (e : Ev) {s : Sys} (h : Ending s) :
    (∃ o ∈ (sysStep s e).2, o.sentAt .inactive) ∨ Ending (sysStep s e).1 := by
  have hest := established_sysStep e h.established
  have hconf := confident_step e h.confident
  have hflags := flagsAt_sysStep e h.flags
  rcases h.due with howed | hpc
  · rcases owed_sysStep e h.confident h.flags howed with ⟨m, hm⟩ | hnext
    · -- the branch is entered: line 302 was just run
      obtain ⟨⟨env, rfl⟩, hpc, -⟩ := setRequire_mem_sysStep hm
      refine Or.inr ⟨hest, hconf, hflags, Or.inr ?_⟩
      obtain ⟨mem, pc⟩ := s
      obtain rfl : pc = .clearRequire := hpc
      rfl
    · exact Or.inr ⟨hest, hconf, hflags, Or.inl hnext⟩
  · rcases endsPresence_sysStep e hpc with hans | hnext
    · exact Or.inl hans
    · exact Or.inr ⟨hest, hconf, hflags, Or.inr hnext⟩

/-- The confidence after a step in which no interrupt finds presence. -/
theorem conf_of_missed {s : Sys} {e : Ev} (hs : Confident s)
    (hmiss : ∀ o ∈ (sysStep s e).2, o.hit = false) :
    (sysStep s e).1.mem.radarAppVars.detectConf ≤
      max 10 (s.mem.radarAppVars.detectConf - if e.isBurtc then 5 else 0) := by
  by_cases hb : e = .burtc
  · subst hb
    have hd : s.mem.result.presence_detected = false := hmiss _ (List.mem_singleton_self _)
    show (BURTC_IRQHandler s.mem).radarAppVars.detectConf ≤ _
    rw [irq_detectConf hs.lt_256, hd]
    exact le_of_eq rfl
  · obtain ⟨v, hv⟩ := sysStep_radarAppVars (s := s) hb
    have hno : e.isBurtc = false := by
      cases e with
      | burtc => exact absurd rfl hb
      | _ => rfl
    rw [hv, hno]
    exact le_max_right _ _

/-- While every interrupt misses, the end is sent or the confidence falls by 5 each. -/
theorem ending_falls {gs : List Ev} {s : Sys} (h : Ending s)
    (hmiss : ∀ o ∈ (sysMachine unique).traceFrom s gs, o.hit = false) :
    (∃ o ∈ (sysMachine unique).traceFrom s gs, o.sentAt .inactive) ∨
      (Ending ((sysMachine unique).runFrom s gs) ∧
        ((sysMachine unique).runFrom s gs).mem.radarAppVars.detectConf ≤
          max 10 (s.mem.radarAppVars.detectConf - 5 * gs.countP Ev.isBurtc)) := by
  induction gs generalizing s with
  | nil => exact Or.inr ⟨h, le_max_right _ _⟩
  | cons e gs ih =>
    have hstep := conf_of_missed h.confident fun o ho => hmiss o (List.mem_append_left _ ho)
    rcases ending_sysStep e h with ⟨o, ho, hans⟩ | hnext
    · exact Or.inl ⟨o, List.mem_append_left _ ho, hans⟩
    · rcases ih hnext fun o ho => hmiss o (List.mem_append_right _ ho) with
        ⟨o, ho, hans⟩ | ⟨hend, hconf⟩
      · exact Or.inl ⟨o, List.mem_append_right _ ho, hans⟩
      · refine Or.inr ⟨hend, hconf.trans ?_⟩
        rw [List.countP_cons]
        cases hb : e.isBurtc with
        | true =>
          rw [hb, if_pos rfl] at hstep
          rw [if_pos rfl]
          omega
        | false =>
          rw [hb, if_neg (by decide)] at hstep
          rw [if_neg (by decide)]
          omega

/-- The end of a reported presence is reported. On an established connection, from any state
    in which an inactivation is owed at a confidence of at least 20: once 20 interrupts in a
    row have found no presence, 25 more statements of the main loop bring the report. What
    the main loop and other interrupts do in the meantime does not matter. -/
theorem end_of_presence_reported (unique : UInt64) (es gs fs : List Ev)
    (hest : ((sysMachine unique).state es).mem.coap.appCoapConnectionEstablished = true)
    (hreq : ((sysMachine unique).state es).mem.radarCoapRequireInactivation = true)
    (h20 : 20 ≤ ((sysMachine unique).state es).mem.radarAppVars.detectConf)
    (hmiss : ∀ o ∈ (sysMachine unique).traceFrom ((sysMachine unique).state es) gs,
      o.hit = false)
    (hgs : 20 ≤ gs.countP Ev.isBurtc) (hfs : 25 ≤ fs.countP Ev.isMain) :
    ∃ o ∈ (sysMachine unique).traceFrom ((sysMachine unique).state es) (gs ++ fs),
      o.sentAt .inactive := by
  have hconf := confident unique es
  have hbound : ((sysMachine unique).state es).mem.radarAppVars.detectConf ≤ 115 := by
    rcases hconf.phase with hb | hs
    · rw [hb.conf]
      decide
    · exact (level_bounds hs.level).2.1
  have hstart : Ending ((sysMachine unique).state es) :=
    ⟨hest, hconf, flagsAt unique es, Or.inl ⟨hreq, fun hlt => absurd h20 (by omega)⟩⟩
  rw [Machine.traceFrom_append]
  rcases ending_falls hstart hmiss with ⟨o, ho, hans⟩ | ⟨hend, hlow⟩
  · exact ⟨o, List.mem_append_left _ ho, hans⟩
  · have hdue : InactiveDue ((sysMachine unique).runFrom ((sysMachine unique).state es) gs) :=
      ⟨hend.established, hend.flags, hend.due.imp (fun howed => howed.noticed (by omega)) id⟩
    obtain ⟨o, ho, hans⟩ : ∃ o ∈ (sysMachine unique).traceFrom
        ((sysMachine unique).runFrom ((sysMachine unique).state es) gs) fs,
        o.sentAt .inactive := inactive_answered hdue hfs
    exact ⟨o, List.mem_append_right _ ho, hans⟩

/-- The active notification is reported; the last frame is empty. -/
def reported : List Ev := risen ++ stmts 16 (.sample false)

theorem end_of_presence_reported_fall :
    ∃ o ∈ (sysMachine 7).traceFrom ((sysMachine 7).state reported)
      (List.replicate 20 .burtc ++ stmts 25 (.sample false)), o.sentAt .inactive :=
  end_of_presence_reported 7 reported (List.replicate 20 .burtc) (stmts 25 (.sample false))
    (by decide +kernel) (by decide +kernel)
    (by decide +kernel) (by decide +kernel) (by decide +kernel) (by decide +kernel)

/-! ## The start of presence -/

/-- After `n` detected frames in a row from 25 or below: where the confidence stands, and how
    low the average may be. -/
def Climbed : ℕ → ℕ → ℚ → Prop
  | 0, conf, dx => conf ≤ 25 ∧ -3000 ≤ dx
  | 1, conf, dx => (30 ≤ conf ∧ conf < 40 ∧ -1000 ≤ dx) ∨ (40 ≤ conf ∧ conf < 50 ∧ -1125 ≤ dx)
  | 2, conf, dx => (50 ≤ conf ∧ conf < 60 ∧ -200 ≤ dx) ∨ (60 ≤ conf ∧ conf < 70 ∧ -313 ≤ dx)
  | 3, conf, dx => (70 ≤ conf ∧ conf < 80 ∧ 114 ≤ dx) ∨ (80 ≤ conf ∧ conf < 90 ∧ 31 ≤ dx)
  | 4, conf, dx => 90 ≤ conf ∧ conf < 100 ∧ 223 ≤ dx
  | _, _, _ => False

/-- A detected frame below the cap, with the quotient of the new confidence. -/
theorem irq_climb {s : Sys} (h : Confident s) (hd : s.mem.result.presence_detected = true)
    {q : ℕ} (hq : (s.mem.radarAppVars.detectConf + 20) / 10 = q)
    (hc : s.mem.radarAppVars.detectConf < 100) :
    (BURTC_IRQHandler s.mem).radarAppVars.detectConf = s.mem.radarAppVars.detectConf + 20 ∧
      (BURTC_IRQHandler s.mem).radarAppVars.dx =
        (s.mem.radarAppVars.dx + (3000 / q : ℕ)) / 2 := by
  refine ⟨?_, ?_⟩
  · rw [irq_detectConf h.lt_256, if_pos hd, if_neg (by omega)]
  · rw [irq_dx_of_detected hd, if_neg (by omega), h.spacing, addConf_eq (by omega), hq]

/-- Another detected frame climbs one step, or raises the active notification. -/
theorem climbed_irq {s : Sys} {n : ℕ} (h : Confident s)
    (hd : s.mem.result.presence_detected = true)
    (hn : Climbed n s.mem.radarAppVars.detectConf s.mem.radarAppVars.dx) :
    SetsActive s.mem ∨ Climbed (n + 1) (BURTC_IRQHandler s.mem).radarAppVars.detectConf
      (BURTC_IRQHandler s.mem).radarAppVars.dx := by
  have hfloor := h.floor_le hd
  match n, hn with
  | 0, ⟨hc, hdx⟩ =>
    refine Or.inr ?_
    rcases Nat.lt_or_ge s.mem.radarAppVars.detectConf 20 with hlt | hge
    · obtain ⟨hconf, hnew⟩ := irq_climb h hd (q := 3) (by omega) (by omega)
      exact Or.inl ⟨by omega, by omega, by rw [hnew]; norm_num; linarith⟩
    · obtain ⟨hconf, hnew⟩ := irq_climb h hd (q := 4) (by omega) (by omega)
      exact Or.inr ⟨by omega, by omega, by rw [hnew]; norm_num; linarith⟩
  | 1, Or.inl ⟨hlo, hhi, hdx⟩ =>
    obtain ⟨hconf, hnew⟩ := irq_climb h hd (q := 5) (by omega) (by omega)
    exact Or.inr (Or.inl ⟨by omega, by omega, by rw [hnew]; norm_num; linarith⟩)
  | 1, Or.inr ⟨hlo, hhi, hdx⟩ =>
    obtain ⟨hconf, hnew⟩ := irq_climb h hd (q := 6) (by omega) (by omega)
    exact Or.inr (Or.inr ⟨by omega, by omega, by rw [hnew]; norm_num; linarith⟩)
  | 2, Or.inl ⟨hlo, hhi, hdx⟩ =>
    obtain ⟨hconf, hnew⟩ := irq_climb h hd (q := 7) (by omega) (by omega)
    exact Or.inr (Or.inl ⟨by omega, by omega, by rw [hnew]; norm_num; linarith⟩)
  | 2, Or.inr ⟨hlo, hhi, hdx⟩ =>
    obtain ⟨hconf, hnew⟩ := irq_climb h hd (q := 8) (by omega) (by omega)
    exact Or.inr (Or.inr ⟨by omega, by omega, by rw [hnew]; norm_num; linarith⟩)
  | 3, Or.inl ⟨hlo, hhi, hdx⟩ =>
    obtain ⟨hconf, hnew⟩ := irq_climb h hd (q := 9) (by omega) (by omega)
    exact Or.inr ⟨by omega, by omega, by rw [hnew]; norm_num; linarith⟩
  | 3, Or.inr ⟨hlo, hhi, hdx⟩ =>
    exact Or.inl ((setsActive_iff _).mpr ⟨hd, hlo, by omega, by linarith⟩)
  | 4, ⟨hlo, hhi, hdx⟩ =>
    exact Or.inl ((setsActive_iff _).mpr ⟨hd, by omega, hhi, by linarith⟩)

/-- A due active notification is answered, or stays due over a step. -/
theorem activeDue_sysStep (e : Ev) {s : Sys} (h : ActiveDue s) :
    (∃ o ∈ (sysStep s e).2, o.sentAt .active) ∨ ActiveDue (sysStep s e).1 := by
  cases hmain : e.isMain with
  | true =>
    cases e with
    | main env =>
      by_cases hpc : s.pc = .sendActive
      · obtain ⟨m, pc⟩ := s
        subst hpc
        exact Or.inl ⟨_, List.mem_cons_self, rfl⟩
      · exact Or.inr (activeDue_mainStep env h hpc).1
    | _ => cases hmain
  | false =>
    by_cases hb : e = .burtc
    · subst hb
      exact Or.inr (activeDue_irq h)
    · obtain ⟨alive, vdd, coap, hstep, -, hest⟩ := other_sysStep (s := s) hmain hb
      rw [hstep]
      exact Or.inr
        ⟨hest h.established, flagsAt_congr (m := s.mem) rfl rfl rfl h.flags, h.due⟩

/-- No presence is reported, and `n` detected frames in a row have counted. -/
structure Starting (n : ℕ) (s : Sys) : Prop where
  established : s.mem.coap.appCoapConnectionEstablished = true
  confident : Confident s
  flags : FlagsAt s.pc s.mem
  idle : s.mem.radarCoapRequireInactivation = false
  entered : s.pc ≠ .clearActive
  climbed : Climbed n s.mem.radarAppVars.detectConf s.mem.radarAppVars.dx

/-- A statement before the report: with no inactivation owed the inactive branch is not
    entered, and line 312 is the one statement that owes one. -/
theorem starting_mainStep {n : ℕ} (env : AlgoEnv) {s : Sys} (h : Starting n s) :
    ActiveDue (mainStep env s).1 ∨ Starting n (mainStep env s).1 := by
  have hest := (established_mainStep env s).trans h.established
  have hconf := confident_step (.main env) h.confident
  have hflags := flagsAt_mainStep env h.flags
  have hclimb : Climbed n (mainStep env s).1.mem.radarAppVars.detectConf
      (mainStep env s).1.mem.radarAppVars.dx := by
    obtain ⟨c, hc⟩ := mainStep_radarAppVars env s
    rw [hc]
    exact h.climbed
  obtain ⟨-, -, hf, hidle, hentered, -⟩ := h
  obtain ⟨m, pc⟩ := s
  cases pc with
  | setRequire => exact Or.inl ⟨hest, hflags, Or.inr rfl⟩
  | clearActive => exact absurd rfl hentered
  | clearRequire => exact absurd (hf.2.1.symm.trans hidle) (by decide)
  | testBranch =>
    have hi : m.radarCoapSendInactive = false := hf.1.trans hidle
    exact Or.inr ⟨hest, hconf, hflags, hidle, by simp [mainStep, hi], hclimb⟩
  | testClear | testEstablished | testActive | testRequire | testInactive | testAlive =>
    refine Or.inr ⟨hest, hconf, hflags, hidle, ?_, hclimb⟩
    simp only [mainStep]
    split <;> simp
  | sendInactive | sendActive | sendAlive =>
    -- the sender leaves the memory of main.c alone
    exact Or.inr ⟨hest, hconf, hflags, hidle, by simp [mainStep], hclimb⟩
  | _ => exact Or.inr ⟨hest, hconf, hflags, hidle, by simp [mainStep], hclimb⟩

/-- An interrupt that finds presence before the report. -/
theorem starting_irq {n : ℕ} {s : Sys} (h : Starting n s)
    (hd : s.mem.result.presence_detected = true) :
    ActiveDue ⟨BURTC_IRQHandler s.mem, s.pc⟩ ∨
      Starting (n + 1) ⟨BURTC_IRQHandler s.mem, s.pc⟩ := by
  have hest : (BURTC_IRQHandler s.mem).coap.appCoapConnectionEstablished = true := by
    rw [irq_coap]
    exact h.established
  have hidle : (BURTC_IRQHandler s.mem).radarCoapRequireInactivation = false := by
    rw [irq_require]
    exact h.idle
  rcases climbed_irq h.confident hd h.climbed with hset | hclimb
  · have hactive : (BURTC_IRQHandler s.mem).radarCoapSendActive = true := by
      rw [irq_sendActive, decide_eq_true ((setsActive_iff _).mp hset), Bool.or_true]
    exact Or.inl ⟨hest, flagsAt_irq h.flags, Or.inl ⟨hactive, hidle, h.entered⟩⟩
  · exact Or.inr
      ⟨hest, confident_step .burtc h.confident, flagsAt_irq h.flags, hidle, h.entered, hclimb⟩

/-- A step before the report in which no interrupt misses. -/
theorem starting_sysStep {n : ℕ} (e : Ev) {s : Sys} (h : Starting n s)
    (hhit : ∀ o ∈ (sysStep s e).2, o.miss = false) :
    ActiveDue (sysStep s e).1 ∨
      Starting (n + if e.isBurtc then 1 else 0) (sysStep s e).1 := by
  cases hmain : e.isMain with
  | true =>
    cases e with
    | main env => exact starting_mainStep env h
    | _ => cases hmain
  | false =>
    by_cases hb : e = .burtc
    · subst hb
      have hd : (!s.mem.result.presence_detected) = false :=
        hhit _ (List.mem_singleton_self _)
      exact starting_irq h (by simpa using hd)
    · have hno : e.isBurtc = false := by
        cases e with
        | burtc => exact absurd rfl hb
        | _ => rfl
      obtain ⟨alive, vdd, coap, hstep, -, hest⟩ := other_sysStep (s := s) hmain hb
      have hconf := confident_step e h.confident
      rw [hno]
      rw [hstep] at hconf ⊢
      exact Or.inr ⟨hest h.established, hconf, flagsAt_congr (m := s.mem) rfl rfl rfl h.flags,
        h.idle, h.entered, h.climbed⟩

theorem activeDue_run (unique : UInt64) (gs : List Ev) {s : Sys} (h : ActiveDue s) :
    (∃ o ∈ (sysMachine unique).traceFrom s gs, o.sentAt .active) ∨
      ActiveDue ((sysMachine unique).runFrom s gs) := by
  induction gs generalizing s with
  | nil => exact Or.inr h
  | cons e gs ih =>
    rcases activeDue_sysStep e h with ⟨o, ho, hans⟩ | hnext
    · exact Or.inl ⟨o, List.mem_append_left _ ho, hans⟩
    · exact (ih hnext).imp (fun ⟨o, ho, hans⟩ => ⟨o, List.mem_append_right _ ho, hans⟩) id

/-- While every interrupt finds presence, the start is sent or due, or each has counted. -/
theorem starting_climbs {gs : List Ev} {n : ℕ} {s : Sys} (h : Starting n s)
    (hhit : ∀ o ∈ (sysMachine unique).traceFrom s gs, o.miss = false) :
    (∃ o ∈ (sysMachine unique).traceFrom s gs, o.sentAt .active) ∨
      ActiveDue ((sysMachine unique).runFrom s gs) ∨
      Starting (n + gs.countP Ev.isBurtc) ((sysMachine unique).runFrom s gs) := by
  induction gs generalizing n s with
  | nil => exact Or.inr (Or.inr h)
  | cons e gs ih =>
    rcases starting_sysStep e h fun o ho => hhit o (List.mem_append_left _ ho) with hdue | hnext
    · rcases activeDue_run unique gs hdue with ⟨o, ho, hans⟩ | hend
      · exact Or.inl ⟨o, List.mem_append_right _ ho, hans⟩
      · exact Or.inr (Or.inl hend)
    · rcases ih hnext fun o ho => hhit o (List.mem_append_right _ ho) with
        ⟨o, ho, hans⟩ | hdue | hend
      · exact Or.inl ⟨o, List.mem_append_right _ ho, hans⟩
      · exact Or.inr (Or.inl hdue)
      · refine Or.inr (Or.inr ?_)
        rw [List.countP_cons, Nat.add_comm (gs.countP Ev.isBurtc), ← Nat.add_assoc]
        exact hend

/-- Five detected frames in a row are one too many to stay below the threshold. -/
theorem Starting.lt_five {n : ℕ} {s : Sys} (h : Starting n s) : n < 5 := by
  refine Nat.lt_of_not_le fun hn => ?_
  obtain ⟨k, rfl⟩ := Nat.exists_eq_add_of_le' hn
  exact h.climbed

/-- A presence is reported. On an established connection, from any state with the confidence
    at 25 or below in which no inactivation is owed: once five interrupts in a row have found
    presence, 24 more statements of the main loop bring the report, if it was not sent
    before. What the main loop does between the interrupts does not matter, unless it is just
    leaving the inactive branch (line 303), which withdraws the notification. -/
theorem start_of_presence_reported (unique : UInt64) (es gs fs : List Ev)
    (hest : ((sysMachine unique).state es).mem.coap.appCoapConnectionEstablished = true)
    (hidle : ((sysMachine unique).state es).mem.radarCoapRequireInactivation = false)
    (hpc : ((sysMachine unique).state es).pc ≠ .clearActive)
    (h25 : ((sysMachine unique).state es).mem.radarAppVars.detectConf ≤ 25)
    (hhit : ∀ o ∈ (sysMachine unique).traceFrom ((sysMachine unique).state es) gs,
      o.miss = false)
    (hgs : 5 ≤ gs.countP Ev.isBurtc) (hfs : 24 ≤ fs.countP Ev.isMain) :
    ∃ o ∈ (sysMachine unique).traceFrom ((sysMachine unique).state es) (gs ++ fs),
      o.sentAt .active := by
  have hgoing : Going ((sysMachine unique).state es) :=
    going (M := sysMachine unique) rfl (going_boot unique) es
  have hstart : Starting 0 ((sysMachine unique).state es) :=
    ⟨hest, confident unique es, flagsAt unique es, hidle, hpc, h25, hgoing.average⟩
  rw [Machine.traceFrom_append]
  rcases starting_climbs hstart hhit with ⟨o, ho, hans⟩ | hdue | hend
  · exact ⟨o, List.mem_append_left _ ho, hans⟩
  · obtain ⟨o, ho, hans⟩ : ∃ o ∈ (sysMachine unique).traceFrom
        ((sysMachine unique).runFrom ((sysMachine unique).state es) gs) fs,
        o.sentAt .active := active_answered hdue hfs
    exact ⟨o, List.mem_append_right _ ho, hans⟩
  · exact absurd hend.lt_five (by omega)

/-- One frame detected at rest, after the handshake. -/
def seen : List Ev := .burtc :: .get :: stmts 7 (.sample true)

theorem start_of_presence_reported_rise :
    ∃ o ∈ (sysMachine 7).traceFrom ((sysMachine 7).state seen)
      (List.replicate 5 .burtc ++ stmts 24 (.sample false)), o.sentAt .active :=
  start_of_presence_reported 7 seen (List.replicate 5 .burtc) (stmts 24 (.sample false))
    (by decide +kernel) (by decide +kernel) (by decide +kernel) (by decide +kernel)
    (by decide +kernel) (by decide +kernel) (by decide +kernel)

end OtIpr
