/-
  The timer and the measurement: the interrupt consumes the last frame, the main loop
  produces it, and `clearToMeasure` is all that passes between them.

  Repeats. The interrupt never looks at `clearToMeasure`. With several interrupts between two
  iterations, or after a failed measurement, it finds the last frame again (`result_since`)
  and counts it like a fresh one (`Counts`). `Tally` keeps the books of a trace: an interrupt
  that raises the confidence has a detected frame of its own or is a repeat
  (`frames_recounted`).

  Requests. The main loop tests the request before `acc_detector_presence_get_next` and
  clears it after. An interrupt in between (`Measuring`) sets a flag that is then cleared; in
  a run without such an interrupt every request is kept (`request_kept`).
-/
import OtIpr.Radar.Boundary

namespace OtIpr

open Lib

/-! ## Repeated frames, with atomic iterations -/

/-- What a trace says of the frames and the interrupts. -/
structure Tally where
  /-- A frame was measured since the last interrupt. -/
  fresh : Bool
  /-- Successful frames that detected presence. -/
  detected : ℕ
  /-- Interrupts with no successful frame since the previous one. -/
  repeated : ℕ
  /-- Interrupts that raise `detectConf`. -/
  raised : ℕ

def Tally.note (t : Tally) : Obs → Tally
  | .irq m =>
    { t with
      fresh := false
      repeated := if t.fresh then t.repeated else t.repeated + 1
      raised :=
        if m.radarAppVars.detectConf < (BURTC_IRQHandler m).radarAppVars.detectConf then
          t.raised + 1
        else t.raised }
  | .frame (some r) =>
    { t with
      fresh := true
      detected := if r.presence_detected then t.detected + 1 else t.detected }
  | _ => t

/-- The tally of what was observed since an interrupt. -/
def tally (os : List Obs) : Tally := os.foldl Tally.note ⟨false, 0, 0, 0⟩

theorem tally_append (os ps : List Obs) : tally (os ++ ps) = ps.foldl Tally.note (tally os) :=
  List.foldl_append

/-- An observation that is no interrupt and no successful frame. -/
def Obs.Silent (o : Obs) : Prop := (∀ m, o ≠ .irq m) ∧ ∀ r, o ≠ .frame (some r)

theorem note_silent (t : Tally) {o : Obs} (h : o.Silent) : t.note o = t := by
  cases o with
  | irq m => exact absurd rfl (h.1 m)
  | frame r =>
    cases r with
    | none => rfl
    | some r => exact absurd rfl (h.2 r)
  | _ => rfl

theorem foldl_silent (t : Tally) {os : List Obs} (h : ∀ o ∈ os, o.Silent) :
    os.foldl Tally.note t = t := by
  induction os with
  | nil => rfl
  | cons o os ih =>
    rw [List.foldl_cons, note_silent t (h o List.mem_cons_self)]
    exact ih fun o' ho' => h o' (List.mem_cons_of_mem _ ho')

theorem silent_calls {calls : List OtCall} : ∀ o ∈ calls.map Obs.call, o.Silent := by
  intro o ho
  obtain ⟨c, rfl⟩ := mem_map_call ho
  exact ⟨fun _ h => Obs.noConfusion h, fun _ h => Obs.noConfusion h⟩

/-- A call shows at most one successful frame, and `result` is that frame. -/
theorem algo_frames (env : AlgoEnv) (m : Mem) :
    (∃ r os, (radarAppAlgo env m).2 = .getNext :: .frame (some r) :: os ∧
      (∀ o ∈ os, o.Silent) ∧ (radarAppAlgo env m).1.result = r) ∨
    ((∀ o ∈ (radarAppAlgo env m).2, o.Silent) ∧ (radarAppAlgo env m).1.result = m.result) := by
  have htransmit : ∀ m₁, ∀ o ∈ (transmit env m₁).2, o.Silent := by
    intro m₁ o ho
    rcases mem_transmit env m₁ ho with ⟨b, m', rfl⟩ | ⟨site, m', rfl⟩ | ⟨c, rfl⟩ <;>
      exact ⟨fun _ h => Obs.noConfusion h, fun _ h => Obs.noConfusion h⟩
  rw [radarAppAlgo, (transmit_frame env _).2.1]
  rcases measure_cases env m with ⟨-, hm⟩ | ⟨-, hm⟩
  · cases hf : env.frame with
    | some r =>
      refine Or.inl ⟨r, _, ?_, htransmit (measure env m).1, ?_⟩
      · rw [hm, hf]
        rfl
      · rw [hm, hf]
        rfl
    | none =>
      rw [hm, hf]
      refine Or.inr ⟨?_, rfl⟩
      intro o ho
      rcases List.mem_append.mp ho with ho | ho
      · rcases List.mem_cons.mp ho with rfl | ho
        · exact ⟨fun _ h => Obs.noConfusion h, fun _ h => Obs.noConfusion h⟩
        · rw [List.mem_singleton.mp ho]
          exact ⟨fun _ h => Obs.noConfusion h, fun _ h => by cases h⟩
      · exact htransmit _ o ho
  · rw [hm]
    exact Or.inr ⟨htransmit m, rfl⟩

/-- An event other than an interrupt: one successful frame that becomes the result, or
    nothing of the kind. -/
theorem step_frames {m : Mem} {e : Ev} (he : e ≠ .burtc) :
    (∃ r os, (loopStep m e).2 = .getNext :: .frame (some r) :: os ∧ (∀ o ∈ os, o.Silent) ∧
      (loopStep m e).1.result = r) ∨
    ((∀ o ∈ (loopStep m e).2, o.Silent) ∧ (loopStep m e).1.result = m.result) := by
  cases e with
  | burtc => exact absurd rfl he
  | alive_cb => exact Or.inr ⟨fun o ho => absurd ho List.not_mem_nil, rfl⟩
  | iadc data => exact Or.inr ⟨fun o ho => absurd ho List.not_mem_nil, rfl⟩
  | permissions r env => exact Or.inr ⟨silent_calls, rfl⟩
  | main env => exact algo_frames env m

/-- The rule for what was observed since an interrupt. -/
theorem since_irq {unique : UInt64} (J : List Ev → Mem → List Obs → Prop)
    (mark : ∀ es, J (es ++ [.burtc]) ((loopMachine unique).state es) [])
    (keep : ∀ es e m b, J es m b →
      J (es ++ [e]) m (b ++ (loopStep ((loopMachine unique).state es) e).2))
    {es : List Ev} {a b : List Obs} {m : Mem}
    (h : (loopMachine unique).trace es = a ++ .irq m :: b) : J es m b := by
  refine (loopMachine unique).since (fun es o b => ∀ m, o = .irq m → J es m b) ?_ ?_ h m rfl
  · rintro es e u _ v hstep m rfl
    obtain ⟨rfl, rfl, -, rfl⟩ := irq_eq_loopStep hstep
    exact mark es
  · intro es e o b ih m ho
    exact keep es e m b (ih m ho)

/-- With no successful frame since an interrupt, the result is the one it saw. -/
theorem result_since {unique : UInt64} {es : List Ev} {a b : List Obs} {m : Mem}
    (h : (loopMachine unique).trace es = a ++ .irq m :: b) (hb : ∀ r, .frame (some r) ∉ b) :
    ((loopMachine unique).state es).result = m.result := by
  refine since_irq (fun es m b => (∀ r, .frame (some r) ∉ b) →
    ((loopMachine unique).state es).result = m.result) ?_ ?_ h hb
  · intro es _
    rw [Machine.state_snoc]
    exact irq_result _
  · intro es e m b ih hb
    have hbefore := ih fun r hr => hb r (List.mem_append_left _ hr)
    rw [Machine.state_snoc, loopMachine_step]
    by_cases he : e = .burtc
    · subst he
      exact (irq_result _).trans hbefore
    · rcases step_frames (m := (loopMachine unique).state es) he with ⟨r, os, hos, -, -⟩ | ⟨-, hres⟩
      · refine absurd (List.mem_append_right b ?_) (hb r)
        rw [hos]
        simp
      · exact hres.trans hbefore

/-- A detected frame that no interrupt has counted yet. -/
def Tally.due (t : Tally) (m : Mem) : ℕ :=
  if t.fresh = true ∧ m.result.presence_detected = true then 1 else 0

/-- The books balance: each raise, and the frame that is due, has a detected frame of its own
    or is a repeat. -/
structure Balanced (m : Mem) (t : Tally) : Prop where
  floor_le : 10 ≤ m.radarAppVars.detectConf
  balance : t.raised + t.due m ≤ t.detected + t.repeated

theorem balanced_irq {m : Mem} {t : Tally} (hs : Confident ⟨m, .processAction⟩)
    (h : Balanced m t) : Balanced (BURTC_IRQHandler m) (t.note (.irq m)) := by
  have hu8 : m.radarAppVars.detectConf < 256 := hs.lt_256
  have hfloor := h.floor_le
  have hbal := h.balance
  refine ⟨hs.irq_settled.level.floor_le, ?_⟩
  have hdue : (t.note (.irq m)).due (BURTC_IRQHandler m) = 0 :=
    if_neg fun hf => Bool.noConfusion hf.1
  have hraised : (t.note (.irq m)).raised ≤ t.raised + 1 := by
    simp only [Tally.note]
    split_ifs <;> omega
  have hdetected : (t.note (.irq m)).detected = t.detected := rfl
  have hrepeated : (t.note (.irq m)).repeated = if t.fresh then t.repeated else t.repeated + 1 :=
    rfl
  rw [hdue, hdetected, hrepeated]
  unfold Tally.due at hbal
  cases hd : m.result.presence_detected with
  | true =>
    -- the due frame pays for the raise, a repeat for itself
    cases hf : t.fresh with
    | true =>
      rw [if_pos ⟨hf, hd⟩] at hbal
      rw [if_pos rfl]
      omega
    | false =>
      rw [if_neg (by decide)]
      omega
  | false =>
    -- a missed frame raises nothing
    have hkeep : (t.note (.irq m)).raised = t.raised := by
      refine if_neg ?_
      rw [irq_detectConf hu8, hd]
      simp only [Bool.false_eq_true, if_false]
      omega
    rw [hkeep]
    split_ifs <;> omega

/-- A detected frame enters on both sides; what is due of the frame before it is dropped. -/
theorem balanced_frame {m m' : Mem} {t : Tally} {r : PresenceResult} (h : Balanced m t)
    (hconf : m'.radarAppVars.detectConf = m.radarAppVars.detectConf) (hres : m'.result = r) :
    Balanced m' (t.note (.frame (some r))) := by
  have hbal := h.balance
  refine ⟨hconf.symm ▸ h.floor_le, ?_⟩
  show t.raised + (if true = true ∧ m'.result.presence_detected = true then 1 else 0) ≤
    (if r.presence_detected then t.detected + 1 else t.detected) + t.repeated
  rw [hres]
  cases r.presence_detected with
  | true =>
    rw [if_pos ⟨rfl, rfl⟩, if_pos rfl]
    omega
  | false =>
    rw [if_neg (fun hf => Bool.noConfusion hf.2), if_neg (by decide)]
    omega

theorem balanced_step {m : Mem} {t : Tally} (e : Ev) (hs : Confident ⟨m, .processAction⟩)
    (h : Balanced m t) : Balanced (loopStep m e).1 ((loopStep m e).2.foldl Tally.note t) := by
  by_cases he : e = .burtc
  · subst he
    exact balanced_irq hs h
  · obtain ⟨c, hc⟩ := loopStep_radarAppVars (m := m) he
    have hconf : (loopStep m e).1.radarAppVars.detectConf = m.radarAppVars.detectConf := by
      rw [hc]
    rcases step_frames (m := m) he with ⟨r, os, hos, hsilent, hres⟩ | ⟨hsilent, hres⟩
    · rw [hos, List.foldl_cons, List.foldl_cons, foldl_silent _ hsilent]
      exact balanced_frame h hconf hres
    · rw [foldl_silent _ hsilent]
      refine ⟨hconf.symm ▸ h.floor_le, ?_⟩
      have hbal := h.balance
      unfold Tally.due at hbal ⊢
      rw [hres]
      exact hbal

theorem balanced_since {unique : UInt64} {es : List Ev} {a b : List Obs} {m : Mem}
    (h : (loopMachine unique).trace es = a ++ .irq m :: b) :
    Balanced ((loopMachine unique).state es) (tally b) := by
  refine since_irq (fun es _ b => Balanced ((loopMachine unique).state es) (tally b)) ?_ ?_ h
  · intro es
    rw [Machine.state_snoc]
    exact ⟨(confident_loop unique es).irq_settled.level.floor_le, Nat.le_refl _⟩
  · intro es e m b ih
    rw [Machine.state_snoc, tally_append]
    exact balanced_step e (confident_loop unique es) ih

/-- An interrupt that leaves the confidence, the average and the notifications alone. -/
def Ignores (m : Mem) : Prop :=
  (BURTC_IRQHandler m).radarAppVars.detectConf = m.radarAppVars.detectConf ∧
    (BURTC_IRQHandler m).radarAppVars.dx = m.radarAppVars.dx ∧
    (BURTC_IRQHandler m).radarCoapSendActive = m.radarCoapSendActive ∧
    (BURTC_IRQHandler m).radarCoapSendInactive = m.radarCoapSendInactive

/-- No frame is counted twice: an interrupt with no successful frame since the previous one
    changes nothing, and after the first interrupt there are at most as many raises as
    detected frames. -/
def CountedOnce (os : List Obs) : Prop :=
  (∀ a b c m₁ m₂, os = a ++ .irq m₁ :: (b ++ .irq m₂ :: c) → (∀ m, .irq m ∉ b) →
    (∀ r, .frame (some r) ∉ b) → Ignores m₂) ∧
  ∀ a b m, os = a ++ .irq m :: b → (∀ m', .irq m' ∉ a) → (tally b).raised ≤ (tally b).detected

/-- The interrupt counts the frame `r`: what it leaves in the confidence, the average and the
    notification flags is what the algorithm makes of `r`. -/
structure Counts (r : PresenceResult) (m : Mem) : Prop where
  confidence : (BURTC_IRQHandler m).radarAppVars.detectConf =
    if r.presence_detected then
      if 100 ≤ m.radarAppVars.detectConf then 100 else m.radarAppVars.detectConf + 20
    else max 10 (m.radarAppVars.detectConf - 5)
  average : (BURTC_IRQHandler m).radarAppVars.dx =
    if r.presence_detected then
      if 100 ≤ m.radarAppVars.detectConf then m.radarAppVars.dx / 2
      else (m.radarAppVars.dx + (m.radarAppVars.frameSpacingMs /
        ((m.radarAppVars.detectConf + 20) / 10) : ℕ)) / 2
    else if m.radarAppVars.detectConf ≤ 10 then m.radarAppVars.dx / 2
    else if m.radarAppVars.detectConf ≤ 15 then
      (m.radarAppVars.dx - (m.radarAppVars.frameSpacingMs /
        ((m.radarAppVars.detectConf - 5) / 10) : ℕ)) / 2 / 2
    else (m.radarAppVars.dx - (m.radarAppVars.frameSpacingMs /
      ((m.radarAppVars.detectConf - 5) / 10) : ℕ)) / 2
  active : (BURTC_IRQHandler m).radarCoapSendActive =
    (m.radarCoapSendActive || decide (r.presence_detected = true ∧
      80 ≤ m.radarAppVars.detectConf ∧ m.radarAppVars.detectConf < 100 ∧ 0 < m.radarAppVars.dx))
  inactive : (BURTC_IRQHandler m).radarCoapSendInactive =
    (m.radarCoapSendInactive || decide (r.presence_detected = false ∧
      m.radarAppVars.detectConf = 20 ∧ m.radarAppVars.dx < 0 ∧
      m.radarCoapRequireInactivation = true))

/-- Any interrupt counts the frame that is in memory, fresh or not. -/
theorem irq_counts {m : Mem} (hu8 : m.radarAppVars.detectConf < 256) : Counts m.result m := by
  refine ⟨irq_detectConf hu8, ?_, irq_sendActive m, irq_sendInactive m⟩
  cases hd : m.result.presence_detected with
  | true =>
    rw [irq_dx_of_detected hd, if_pos rfl]
    split_ifs with hc
    · rfl
    · rw [addConf_eq (by omega)]
  | false =>
    rw [irq_dx_of_missed hd hu8, if_neg Bool.false_ne_true]

/-- Every interrupt of a run counts. -/
theorem counts_of_irq {unique : UInt64} {es : List Ev} {a b : List Obs} {m : Mem}
    (h : (loopMachine unique).trace es = a ++ .irq m :: b) : Counts m.result m := by
  obtain ⟨pre, e, post, u, v, -, hstep, -, -⟩ := (loopMachine unique).trace_split h
  obtain ⟨-, rfl, -, -⟩ := irq_eq_loopStep hstep
  exact irq_counts (confident_loop unique pre).lt_256

/-- Frames are counted as often as interrupts come. An interrupt with no successful frame since
    an earlier one finds that one's result again, and counts it as that one did; after any
    interrupt there are at most as many raises as detected frames and repeats. -/
theorem frames_recounted (unique : UInt64) (es : List Ev) :
    (∀ a b c m₁ m₂,
      (loopMachine unique).trace es = a ++ .irq m₁ :: (b ++ .irq m₂ :: c) →
      (∀ r, .frame (some r) ∉ b) →
        m₂.result = m₁.result ∧ Counts m₁.result m₁ ∧ Counts m₁.result m₂) ∧
    (∀ a b m, (loopMachine unique).trace es = a ++ .irq m :: b →
      (tally b).raised ≤ (tally b).detected + (tally b).repeated) := by
  refine ⟨?_, ?_⟩
  · intro a b c m₁ m₂ h hb
    have hsplit : (loopMachine unique).trace es = (a ++ .irq m₁ :: b) ++ .irq m₂ :: c := by
      rw [h]
      simp
    have hresult : m₂.result = m₁.result := by
      obtain ⟨pre, e, post, u, v, -, hstep, hp, -⟩ := (loopMachine unique).trace_split hsplit
      obtain ⟨rfl, rfl, rfl, -⟩ := irq_eq_loopStep hstep
      rw [List.append_nil] at hp
      exact result_since hp.symm hb
    have hcounts₂ := counts_of_irq hsplit
    rw [hresult] at hcounts₂
    exact ⟨hresult, counts_of_irq h, hcounts₂⟩
  · intro a b m h
    have hbal := (balanced_since h).balance
    omega

/-- Boot, one detected frame, and five interrupts. -/
def oneFrame : List Ev := .main (.sample true) :: List.replicate 5 .burtc

/-- One detected frame is counted five times and raises the active notification alone. -/
theorem frame_counted_twice :
    ¬ CountedOnce ((loopMachine 7).trace (.burtc :: oneFrame)) ∧
      ((loopMachine 7).state (.burtc :: oneFrame)).radarCoapSendActive = true := by
  refine ⟨?_, by decide +kernel⟩
  intro h
  have hcount := h.2 [] ((loopMachine 7).traceFrom (BURTC_IRQHandler (boot 7)) oneFrame) (boot 7)
    rfl (fun _ hm => absurd hm List.not_mem_nil)
  exact absurd hcount (by decide +kernel)

/-! ## Lost requests, at every statement -/

/-- The measurement has started and its request is not cleared yet. -/
def Measuring (pc : Pc) : Prop := pc = .inGetNext ∨ pc = .clearFlag

instance (pc : Pc) : Decidable (Measuring pc) := inferInstanceAs (Decidable (_ ∨ _))

/-- If an interrupt came since the last measurement started, its request stands. -/
def RequestKept (unique : UInt64) (es : List Ev) : Prop :=
  ∀ a b, (sysMachine unique).trace es = a ++ .getNext :: b → .getNext ∉ b → (∃ m, .irq m ∈ b) →
    ((sysMachine unique).state es).mem.radarAppVars.clearToMeasure = true

/-- No interrupt comes between the start of a measurement and the clearing of its request. -/
def Undisturbed (unique : UInt64) (es : List Ev) : Prop :=
  ∀ pre, pre ++ [.burtc] <+: es → ¬ Measuring ((sysMachine unique).state pre).pc

theorem Undisturbed.mono {unique : UInt64} {es fs : List Ev} (h : Undisturbed unique fs)
    (hes : es <+: fs) : Undisturbed unique es := fun pre hpre => h pre (hpre.trans hes)

/-- After an interrupt the request stands, outside the measurement. -/
def Requested (s : Sys) (b : List Obs) : Prop :=
  (∃ m, .irq m ∈ b) → s.mem.radarAppVars.clearToMeasure = true ∧ ¬ Measuring s.pc

/-- Only `clearFlag` drops a request, and only the start of a measurement leads there. -/
theorem requested_mainStep (env : AlgoEnv) {s : Sys} {b : List Obs} (h : Requested s b)
    (hnext : .getNext ∉ (mainStep env s).2) :
    Requested (mainStep env s).1 (b ++ (mainStep env s).2) := by
  rintro ⟨m, hm⟩
  have hirq : .irq m ∈ b := by
    rcases List.mem_append.mp hm with hm | hm
    · exact hm
    · exact absurd hm (irq_not_mem_mainStep env s m)
  obtain ⟨hclear, hpc⟩ := h ⟨m, hirq⟩
  obtain ⟨mem, pc⟩ := s
  cases pc with
  | getNext => exact absurd List.mem_cons_self hnext
  | inGetNext => exact absurd (Or.inl rfl) hpc
  | clearFlag => exact absurd (Or.inr rfl) hpc
  | _ =>
    refine ⟨hclear, ?_⟩
    simp only [mainStep, Measuring]
    try split
    all_goals simp

theorem requested_sysStep (e : Ev) {s : Sys} {b : List Obs} (h : Requested s b)
    (hirq : e = .burtc → ¬ Measuring s.pc) (hnext : .getNext ∉ (sysStep s e).2) :
    Requested (sysStep s e).1 (b ++ (sysStep s e).2) := by
  have silent : ∀ os : List Obs, (∀ m, .irq m ∉ os) → Requested s (b ++ os) := by
    rintro os hos ⟨m, hm⟩
    rcases List.mem_append.mp hm with hm | hm
    · exact h ⟨m, hm⟩
    · exact absurd hm (hos m)
  rcases sysStep_cases s e with rfl | ⟨env, rfl⟩ | ⟨alive, vdd, coap, calls, hstep⟩
  · exact fun _ => ⟨irq_clearToMeasure s.mem, hirq rfl⟩
  · exact requested_mainStep env h hnext
  · rw [hstep]
    exact silent _ fun m hm => by simp at hm

theorem getNext_mem_sysStep {s : Sys} {e : Ev} (h : .getNext ∈ (sysStep s e).2) :
    (sysStep s e).2 = [.getNext] := by
  rcases sysStep_cases s e with rfl | ⟨env, rfl⟩ | ⟨alive, vdd, coap, calls, hstep⟩
  · simp [sysStep] at h
  · obtain ⟨m, pc⟩ := s
    cases pc with
    | getNext => rfl
    | _ => simp [sysStep, mainStep, callSender_obs] at h
  · simp [hstep] at h

/-- In an undisturbed run every request is kept. -/
theorem kept_of_undisturbed (unique : UInt64) {es : List Ev} (h : Undisturbed unique es) :
    RequestKept unique es := by
  intro a b htrace hb hirq
  have hrequested : Requested ((sysMachine unique).state es) b := by
    refine (sysMachine unique).since (fun es o b => Undisturbed unique es → o = .getNext →
      .getNext ∉ b → Requested ((sysMachine unique).state es) b) ?_ ?_ htrace h rfl hb
    · rintro es e u _ v hstep - rfl - ⟨m, hm⟩
      have hmem : .getNext ∈ (sysStep ((sysMachine unique).state es) e).2 := by
        rw [← sysMachine_step unique, hstep]
        simp
      have hone := (getNext_mem_sysStep hmem).symm.trans hstep
      rw [(Machine.singleton_eq_append_cons hone).2.2] at hm
      cases hm
    · intro es e o b ih hun ho hb
      have hbefore := ih (hun.mono (List.prefix_append es [e])) ho
        fun hm => hb (List.mem_append_left _ hm)
      rw [Machine.state_snoc]
      refine requested_sysStep e hbefore ?_ fun hm => hb (List.mem_append_right _ hm)
      rintro rfl
      exact hun es (List.prefix_refl _)
  exact (hrequested hirq).1

/-- A measurement is under way because it has just started, or it was under way before. -/
theorem measuring_sysStep {s : Sys} {e : Ev} (h : Measuring (sysStep s e).1.pc) :
    (sysStep s e).2 = [.getNext] ∨ (Measuring s.pc ∧ .getNext ∉ (sysStep s e).2) := by
  rcases sysStep_cases s e with rfl | ⟨env, rfl⟩ | ⟨alive, vdd, coap, calls, hstep⟩
  · exact Or.inr ⟨h, by simp [sysStep]⟩
  · obtain ⟨m, pc⟩ := s
    cases pc with
    | getNext => exact Or.inl rfl
    | inGetNext => exact Or.inr ⟨Or.inl rfl, by simp [sysStep, mainStep]⟩
    | _ =>
      simp only [sysStep, mainStep, Measuring] at h
      try split at h
      all_goals simp at h
  · rw [hstep] at h ⊢
    exact Or.inr ⟨h, by simp⟩

/-- While a measurement is under way, the trace shows its start. -/
theorem started_of_measuring (unique : UInt64) (es : List Ev) :
    Measuring ((sysMachine unique).state es).pc →
      ∃ a b, (sysMachine unique).trace es = a ++ .getNext :: b ∧ .getNext ∉ b := by
  have hboot : ¬ Measuring .processAction := by decide
  refine (sysMachine unique).invariant_trace (fun s os => Measuring s.pc →
    ∃ a b, os = a ++ .getNext :: b ∧ .getNext ∉ b) (fun h => absurd h hboot) ?_ es
  intro es e ih h
  rcases measuring_sysStep h with hstart | ⟨hbefore, hnot⟩
  · exact ⟨_, [], by rw [sysMachine_step, hstart], List.not_mem_nil⟩
  · obtain ⟨a, b, htrace, hb⟩ := ih hbefore
    refine ⟨a, b ++ (sysStep ((sysMachine unique).state es) e).2, ?_, ?_⟩
    · rw [htrace, sysMachine_step, List.append_assoc, List.cons_append]
    · intro hm
      rcases List.mem_append.mp hm with hm | hm
      · exact hb hm
      · exact hnot hm

/-- The rest of a measurement: at most two statements, no new start, the request cleared. -/
theorem rest_of_measuring (unique : UInt64) (env : AlgoEnv) {s : Sys} (h : Measuring s.pc) :
    ∃ k ≤ 2, .getNext ∉ (sysMachine unique).traceFrom s (stmts k env) ∧
      ((sysMachine unique).runFrom s (stmts k env)).mem.radarAppVars.clearToMeasure = false := by
  obtain ⟨m, pc⟩ := s
  rcases h with h | h
  · obtain rfl : pc = .inGetNext := h
    exact ⟨2, by decide, by simp [stmts, Machine.traceFrom, List.replicate_succ, sysStep, mainStep],
      rfl⟩
  · obtain rfl : pc = .clearFlag := h
    exact ⟨1, by decide, by simp [stmts, Machine.traceFrom, sysStep, mainStep], rfl⟩

/-- An interrupt during a measurement loses its request when the measurement ends. -/
theorem lost_of_measuring (unique : UInt64) (env : AlgoEnv) {pre : List Ev}
    (h : Measuring ((sysMachine unique).state pre).pc) :
    ∃ k ≤ 2, ¬ RequestKept unique (pre ++ [.burtc] ++ stmts k env) := by
  obtain ⟨a, b, htrace, hb⟩ := started_of_measuring unique pre h
  have hpc : Measuring ((sysMachine unique).state (pre ++ [.burtc])).pc := by
    rw [Machine.state_snoc]
    exact h
  obtain ⟨k, hk, hnot, hclear⟩ := rest_of_measuring unique env hpc
  refine ⟨k, hk, fun hkept => ?_⟩
  have hstands := hkept a (b ++ .irq ((sysMachine unique).state pre).mem ::
    (sysMachine unique).traceFrom ((sysMachine unique).state (pre ++ [.burtc])) (stmts k env))
    ?_ ?_ ⟨((sysMachine unique).state pre).mem, by simp⟩
  · rw [Machine.state_append, hclear] at hstands
    cases hstands
  · rw [Machine.trace_append, Machine.trace_snoc, htrace]
    simp [sysStep]
  · intro hm
    rcases List.mem_append.mp hm with hm | hm
    · exact hb hm
    · exact hnot (by simpa using hm)

/-- In an undisturbed run no measurement request is lost. Otherwise an interrupt came during a
    measurement, and its request is lost with at most two more statements, whatever the
    frame. -/
theorem request_kept (unique : UInt64) (es : List Ev) :
    (Undisturbed unique es → RequestKept unique es) ∧
    (¬ Undisturbed unique es → ∃ pre, pre ++ [.burtc] <+: es ∧
      Measuring ((sysMachine unique).state pre).pc ∧
      ∀ env, ∃ k ≤ 2, ¬ RequestKept unique (pre ++ [.burtc] ++ stmts k env)) := by
  refine ⟨kept_of_undisturbed unique, ?_⟩
  intro h
  simp only [Undisturbed, not_forall, not_not] at h
  obtain ⟨pre, hpre, hpc⟩ := h
  exact ⟨pre, hpre, hpc, fun env => lost_of_measuring unique env hpc⟩

/-- Boot, and the first measurement started; an interrupt; the measurement ends. -/
def disturbed : List Ev := .burtc :: stmts 3 (.sample true) ++ .burtc :: stmts 2 (.sample true)

theorem request_lost : ¬ RequestKept 7 disturbed := by
  intro h
  have hstands := h [.irq (boot 7)]
    [.irq ((sysMachine 7).state (.burtc :: stmts 3 (.sample true))).mem,
      .frame (AlgoEnv.sample true).frame] rfl (by simp) ⟨_, List.mem_cons_self⟩
  exact absurd hstands (by decide +kernel)

end OtIpr
