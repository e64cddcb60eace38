/-
  Main-loop boundaries: what one atomic call of `radarAppAlgo` does, and what holds between
  two calls.

  `algo_vars`, `algo_flags` and `algo_sender` say once what a call writes, which notification
  it takes and what it hands to the sender. Later modules use these and do not unfold the
  call. `Boundary` is what they give of every boundary: an inactivation is owed only after
  the handshake, and a pending inactive notification is taken by the next call, so until then
  no frame is measured and the confidence stays under 20.
-/
import OtIpr.Radar.Confidence

namespace OtIpr

open Lib

/-! ## One call of radarAppAlgo -/

section Algo

variable (env : AlgoEnv) (m : Mem)

/-- A measurement writes the result and `clearToMeasure`. -/
theorem measure_frame :
    ∃ r c, (measure env m).1 =
      { m with result := r, radarAppVars := { m.radarAppVars with clearToMeasure := c } } := by
  rcases measure_cases env m with ⟨-, h⟩ | ⟨-, h⟩
  · rw [h]
    exact ⟨_, _, rfl⟩
  · rw [h]
    exact ⟨m.result, m.radarAppVars.clearToMeasure, rfl⟩

/-- A transmission writes none of `radarAppVars`, the result and the established flag. -/
theorem transmit_frame :
    (transmit env m).1.radarAppVars = m.radarAppVars ∧ (transmit env m).1.result = m.result ∧
      (transmit env m).1.coap.appCoapConnectionEstablished =
        m.coap.appCoapConnectionEstablished := by
  rcases transmit_cases env m with ⟨-, -, mf, hmf, h⟩ | ⟨-, -, -, -, mf, hmf, h⟩ |
    ⟨-, -, mf, hmf, h⟩ | ⟨-, h⟩
  · obtain ⟨buf, ctr, rfl⟩ := hmf.frame
    rw [h]
    exact ⟨rfl, rfl, callSender_established .inactive true _ _⟩
  · obtain ⟨buf, ctr, rfl⟩ := hmf.frame
    rw [h]
    exact ⟨rfl, rfl, callSender_established .active true _ _⟩
  · obtain ⟨buf, ctr, rfl⟩ := hmf.frame
    rw [h]
    exact ⟨rfl, rfl, callSender_established .alive false _ _⟩
  · rw [h]
    exact ⟨rfl, rfl, rfl⟩

/-- Of `radarAppVars` a call writes `clearToMeasure` only. -/
theorem algo_vars :
    ∃ c, (radarAppAlgo env m).1.radarAppVars = { m.radarAppVars with clearToMeasure := c } := by
  obtain ⟨r, c, h⟩ := measure_frame env m
  refine ⟨c, ?_⟩
  rw [radarAppAlgo, (transmit_frame env _).1, h]

theorem algo_established :
    (radarAppAlgo env m).1.coap.appCoapConnectionEstablished =
      m.coap.appCoapConnectionEstablished := by
  obtain ⟨r, c, h⟩ := measure_frame env m
  rw [radarAppAlgo, (transmit_frame env _).2.2, h]

/-- The notification a call takes: a pending inactive one, else a pending active one that is
    not owed an inactivation, else none. -/
theorem algo_flags :
    (m.radarCoapSendInactive = true ∧
      (radarAppAlgo env m).1.radarCoapRequireInactivation = false ∧
      (radarAppAlgo env m).1.radarCoapSendActive = false ∧
      (radarAppAlgo env m).1.radarCoapSendInactive = false) ∨
    (m.coap.appCoapConnectionEstablished = true ∧ m.radarCoapSendInactive = false ∧
      (radarAppAlgo env m).1.radarCoapRequireInactivation = true ∧
      (radarAppAlgo env m).1.radarCoapSendActive = false ∧
      (radarAppAlgo env m).1.radarCoapSendInactive = false) ∨
    (¬ StatePending m ∧
      (radarAppAlgo env m).1.radarCoapRequireInactivation = m.radarCoapRequireInactivation ∧
      (radarAppAlgo env m).1.radarCoapSendActive = m.radarCoapSendActive ∧
      (radarAppAlgo env m).1.radarCoapSendInactive = m.radarCoapSendInactive) := by
  obtain ⟨r, c, hm⟩ := measure_frame env m
  rw [radarAppAlgo, hm]
  rcases transmit_cases env { m with
      result := r
      radarAppVars := { m.radarAppVars with clearToMeasure := c } } with
    ⟨-, hi, mf, -, h⟩ | ⟨hest, hi, ha, hr, mf, hmf, h⟩ | ⟨hp, -, mf, hmf, h⟩ | ⟨hp, h⟩
  · rw [h]
    exact Or.inl ⟨hi, rfl, rfl, rfl⟩
  · obtain ⟨buf, ctr, rfl⟩ := hmf.frame
    rw [h]
    exact Or.inr (Or.inl ⟨hest, hi, rfl, rfl, hi⟩)
  · obtain ⟨buf, ctr, rfl⟩ := hmf.frame
    rw [h]
    exact Or.inr (Or.inr ⟨hp, rfl, rfl, rfl⟩)
  · rw [h]
    exact Or.inr (Or.inr ⟨hp, rfl, rfl, rfl⟩)

/-- A measurement shows neither an interrupt nor a send. -/
theorem mem_measure {o : Obs} (h : o ∈ (measure env m).2) : o = .getNext ∨ ∃ r, o = .frame r := by
  rcases measure_cases env m with ⟨-, hm⟩ | ⟨-, hm⟩
  · rw [hm] at h
    rcases List.mem_cons.mp h with rfl | h
    · exact Or.inl rfl
    · exact Or.inr ⟨_, List.mem_singleton.mp h⟩
  · rw [hm] at h
    cases h

/-- A transmission shows an assignment, a send and calls of the stack. -/
theorem mem_transmit {o : Obs} (h : o ∈ (transmit env m).2) :
    (∃ b m', o = .setRequire b m') ∨ (∃ site m', o = .sender site m') ∨ ∃ c, o = .call c := by
  have hsender : ∀ site b mf, o ∈ (callSender site b env.sender mf).2 →
      (∃ site m', o = .sender site m') ∨ ∃ c, o = .call c := by
    intro site b mf ho
    rcases List.mem_cons.mp ho with ho | ho
    · exact Or.inl ⟨_, _, ho⟩
    · exact Or.inr (mem_map_call ho)
  rcases transmit_cases env m with ⟨-, -, mf, -, ht⟩ | ⟨-, -, -, -, mf, -, ht⟩ |
    ⟨-, -, mf, -, ht⟩ | ⟨-, ht⟩
  · rw [ht] at h
    rcases List.mem_cons.mp h with h | h
    · exact Or.inl ⟨_, _, h⟩
    · exact Or.inr (hsender _ _ _ h)
  · rw [ht] at h
    rcases List.mem_cons.mp h with h | h
    · exact Or.inl ⟨_, _, h⟩
    · exact Or.inr (hsender _ _ _ h)
  · rw [ht] at h
    exact Or.inr (hsender _ _ _ h)
  · rw [ht] at h
    cases h

theorem irq_not_mem_algo (m' : Mem) : .irq m' ∉ (radarAppAlgo env m).2 := by
  intro h
  rcases List.mem_append.mp h with h | h
  · rcases mem_measure env m h with h | ⟨r, h⟩ <;> cases h
  · rcases mem_transmit env _ h with ⟨b, m', h⟩ | ⟨site, m', h⟩ | ⟨c, h⟩ <;> cases h

end Algo

/-- What a call hands to the sender: state 0 from the inactive branch, state 1 from the active
    branch, which takes a pending active notification that is not owed an inactivation, and
    state -1 from the alive packet. -/
theorem algo_sender {env : AlgoEnv} {m m' : Mem} {site : Site}
    (h : .sender site m' ∈ (radarAppAlgo env m).2) :
    m'.radarAppVars.detectConf = m.radarAppVars.detectConf ∧
      ((site = .inactive ∧ stateOf m'.tx_buffer = ['0']) ∨
        (site = .active ∧ stateOf m'.tx_buffer = ['1'] ∧ m.radarCoapSendActive = true ∧
          m.radarCoapRequireInactivation = false) ∨
        (site = .alive ∧ stateOf m'.tx_buffer = ['-', '1'])) := by
  rcases List.mem_append.mp h with h | h
  · rcases mem_measure env m h with h | ⟨r, h⟩ <;> cases h
  obtain ⟨r, c, hm⟩ := measure_frame env m
  rw [hm] at h
  rcases transmit_cases env { m with
      result := r
      radarAppVars := { m.radarAppVars with clearToMeasure := c } } with
    ⟨-, -, mf, hmf, ht⟩ | ⟨-, -, ha, hr, mf, hmf, ht⟩ | ⟨-, -, mf, hmf, ht⟩ | ⟨-, ht⟩
  · have hstate := hmf.stateOf_eq
    obtain ⟨buf, ctr, rfl⟩ := hmf.frame
    rw [ht] at h
    rcases List.mem_cons.mp h with h | h
    · cases h
    · obtain ⟨rfl, rfl⟩ := sender_mem_callSender h
      exact ⟨rfl, Or.inl ⟨rfl, hstate⟩⟩
  · have hstate := hmf.stateOf_eq
    obtain ⟨buf, ctr, rfl⟩ := hmf.frame
    rw [ht] at h
    rcases List.mem_cons.mp h with h | h
    · cases h
    · obtain ⟨rfl, rfl⟩ := sender_mem_callSender h
      exact ⟨rfl, Or.inr (Or.inl ⟨rfl, hstate, ha, hr⟩)⟩
  · have hstate := hmf.stateOf_eq
    obtain ⟨buf, ctr, rfl⟩ := hmf.frame
    rw [ht] at h
    obtain ⟨rfl, rfl⟩ := sender_mem_callSender h
    exact ⟨rfl, Or.inr (Or.inr ⟨rfl, hstate⟩)⟩
  · rw [ht] at h
    cases h

/-- The call that takes the active notification hands over state 1. -/
theorem algo_sends_active {m : Mem} (env : AlgoEnv)
    (hest : m.coap.appCoapConnectionEstablished = true) (hi : m.radarCoapSendInactive = false)
    (ha : m.radarCoapSendActive = true) (hr : m.radarCoapRequireInactivation = false) :
    ∃ m', .sender .active m' ∈ (radarAppAlgo env m).2 ∧ stateOf m'.tx_buffer = ['1'] ∧
      m'.radarAppVars.detectConf = m.radarAppVars.detectConf := by
  obtain ⟨r, c, hm⟩ := measure_frame env m
  rw [radarAppAlgo, hm]
  rcases transmit_cases env { m with
      result := r
      radarAppVars := { m.radarAppVars with clearToMeasure := c } } with
    ⟨-, hi', -⟩ | ⟨-, -, -, -, mf, hmf, ht⟩ | ⟨hp, -⟩ | ⟨hp, -⟩
  · exact absurd (hi.symm.trans hi') (by decide)
  · have hstate := hmf.stateOf_eq
    obtain ⟨buf, ctr, rfl⟩ := hmf.frame
    rw [ht]
    exact ⟨_, List.mem_append_right _ (List.mem_cons_of_mem _ List.mem_cons_self), hstate, rfl⟩
  · exact absurd ⟨hest, Or.inl ⟨ha, hr⟩⟩ hp
  · exact absurd ⟨hest, Or.inl ⟨ha, hr⟩⟩ hp

theorem irq_mem_loopStep {m m' : Mem} {e : Ev} (h : .irq m' ∈ (loopStep m e).2) :
    e = .burtc ∧ m' = m := by
  cases e with
  | burtc => exact ⟨rfl, by simpa [loopStep] using h⟩
  | alive_cb => simp [loopStep] at h
  | iadc data => simp [loopStep] at h
  | permissions r env =>
    obtain ⟨c, hc⟩ := mem_map_call h
    cases hc
  | main env => exact absurd h (irq_not_mem_algo env m m')

/-- An interrupt is the only observation of its event. -/
theorem irq_eq_loopStep {m m' : Mem} {e : Ev} {u v : List Obs}
    (h : (loopStep m e).2 = u ++ .irq m' :: v) : e = .burtc ∧ m = m' ∧ u = [] ∧ v = [] := by
  have hmem : .irq m' ∈ (loopStep m e).2 := by rw [h]; simp
  obtain ⟨rfl, rfl⟩ := irq_mem_loopStep hmem
  obtain ⟨hu, -, hv⟩ := Machine.singleton_eq_append_cons h
  exact ⟨rfl, rfl, hu, hv⟩

/-- Interrupts are the only writers of the confidence and of the average. -/
theorem loopStep_radarAppVars {m : Mem} {e : Ev} (h : e ≠ .burtc) :
    ∃ c, (loopStep m e).1.radarAppVars = { m.radarAppVars with clearToMeasure := c } := by
  cases e with
  | burtc => exact absurd rfl h
  | alive_cb => exact ⟨_, rfl⟩
  | iadc data => exact ⟨_, rfl⟩
  | permissions r env => exact ⟨_, rfl⟩
  | main env => exact algo_vars env m

/-! ## Every boundary -/

structure Boundary (m : Mem) : Prop where
  established : m.radarCoapRequireInactivation = true →
    m.coap.appCoapConnectionEstablished = true
  pending : m.radarCoapSendInactive = true →
    m.radarCoapRequireInactivation = true ∧ m.result.presence_detected = false ∧
      m.radarAppVars.detectConf < 20

/-- After a call nothing inactive is pending: the next call takes it. -/
theorem Boundary.algo_taken {m : Mem} (h : Boundary m) (env : AlgoEnv) :
    (radarAppAlgo env m).1.radarCoapSendInactive = false := by
  rcases algo_flags env m with ⟨-, -, -, hi⟩ | ⟨-, -, -, -, hi⟩ | ⟨hp, -, -, hi⟩
  · exact hi
  · exact hi
  · rw [hi]
    cases hpend : m.radarCoapSendInactive with
    | false => rfl
    | true => exact absurd ⟨h.established (h.pending hpend).1, Or.inr hpend⟩ hp

theorem boundary_irq {m : Mem} (hu8 : m.radarAppVars.detectConf < 256) (h : Boundary m) :
    Boundary (BURTC_IRQHandler m) := by
  refine ⟨by rw [irq_require, irq_coap]; exact h.established, ?_⟩
  intro hi
  rw [irq_sendInactive, Bool.or_eq_true, decide_eq_true_eq] at hi
  rw [irq_require, irq_result, irq_detectConf hu8]
  rcases hi with hi | ⟨hd, h20, -, hr⟩
  · obtain ⟨hr, hd, hlt⟩ := h.pending hi
    refine ⟨hr, hd, ?_⟩
    rw [hd]
    simp only [Bool.false_eq_true, if_false]
    omega
  · refine ⟨hr, hd, ?_⟩
    rw [hd, h20]
    decide

theorem boundary_step {m : Mem} (e : Ev) (hu8 : m.radarAppVars.detectConf < 256)
    (h : Boundary m) : Boundary (loopStep m e).1 := by
  cases e with
  | burtc => exact boundary_irq hu8 h
  | alive_cb => exact ⟨h.established, h.pending⟩
  | iadc data => exact ⟨h.established, h.pending⟩
  | permissions r env => exact ⟨fun _ => rfl, h.pending⟩
  | main env =>
    refine ⟨?_, fun hi => absurd hi (by simp [loopStep, h.algo_taken env])⟩
    show (radarAppAlgo env m).1.radarCoapRequireInactivation = true → _
    rw [loopStep, algo_established]
    rcases algo_flags env m with ⟨-, hr, -⟩ | ⟨hest, -⟩ | ⟨-, hr, -⟩
    · rw [hr]
      exact fun hf => Bool.noConfusion hf
    · exact fun _ => hest
    · rw [hr]
      exact h.established

/-- Every boundary of every run. -/
theorem boundary (unique : UInt64) (es : List Ev) : Boundary ((loopMachine unique).state es) := by
  refine (loopMachine unique).invariant_trace (fun m _ => Boundary m)
    ⟨fun hf => Bool.noConfusion hf, fun hf => Bool.noConfusion hf⟩ ?_ es
  intro es e h
  exact boundary_step e (confident_loop unique es).lt_256 h

end OtIpr
