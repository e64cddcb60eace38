/-
  What a message reports, under every interleaving.

  The fields of a message are collected over four statements (lines 278 to 295, or 317 to 334)
  and sent a few statements later, while interrupts and requests may come in between.
  `Drafted` follows a message from its first read to its send, for any account of the reads
  (`Sources`) that ages with the statements of the main loop.

  `messages_current`: a message that is sent has the score and the distance of the latest frame
  measured (the float product by 1000, cut), the light level and the signal strength that were
  read for it, and the supply voltage that was the latest at its format; and it is sent a fixed
  number of statements later.
-/
import OtIpr.Radar.Response

namespace OtIpr

open Lib

/-! ## A message on its way -/

/-- What was read `k` statements ago, the latest statement being 0: a light level, a signal
    strength, and the supply voltage by then. -/
structure Sources where
  lux : ℕ → ℚ → Prop
  rssi : ℕ → Int8 → Prop
  vdd : ℕ → UInt32 → Prop

/-- The payload `p`, formatted `k` statements ago, is made of these reads and of the frame `r`. -/
structure Reports (S : Sources) (r : PresenceResult) (k : ℕ) (p : Payload) : Prop where
  presence_score : p.presence_score = toUInt32 (flt (r.presence_score * 1000))
  presence_distance : p.presence_distance = toUInt32 (flt (r.presence_distance * 1000))
  opt_buf : ∃ opt_buf, S.lux (k + 3) opt_buf ∧ p.opt_buf = toUInt32 opt_buf
  rssi : S.rssi (k + 1) p.rssi
  vdd_meas : S.vdd k p.vdd_meas

/-- The buffer holds a message that was formatted `k` statements ago, and reports what is in
    memory. -/
def HoldsMessage (S : Sources) (k : ℕ) (m : Mem) : Prop :=
  ∃ p, cstr NUL m.tx_buffer = payloadText p ∧ Reports S m.result k p

/-- The message between its first read and its send. -/
def Drafted (S : Sources) (s : Sys) : Prop :=
  match s.pc with
  | .clearBuffer opt_buf | .clearBufferAlive opt_buf => S.lux 0 opt_buf
  | .readRssi opt_buf | .readRssiAlive opt_buf => S.lux 1 opt_buf
  | .format opt_buf rssi | .formatAlive opt_buf rssi => S.lux 2 opt_buf ∧ S.rssi 0 rssi
  | .testBranch | .sendAlive => HoldsMessage S 0 s.mem
  | .clearRequire | .setRequire => HoldsMessage S 1 s.mem
  | .clearActive | .clearActiveSent => HoldsMessage S 2 s.mem
  | .clearInactive | .sendActive => HoldsMessage S 3 s.mem
  | .sendInactive => HoldsMessage S 4 s.mem
  | _ => True

/-- The statements that a message has behind it since its format, when it is sent. -/
def Site.sinceFormat : Site → ℕ
  | .inactive => 4
  | .active => 3
  | .alive => 0

/-- The statements at lines 278 and 317. -/
def Pc.readsLight : Pc → Bool
  | .readOpt | .readOptAlive => true
  | _ => false

variable {S S' : Sources} {s : Sys} {m m' : Mem} {k : ℕ}

theorem HoldsMessage.weaken (h : HoldsMessage S k m) (hbuf : m'.tx_buffer = m.tx_buffer)
    (hres : m'.result = m.result) {k' : ℕ} (hlux : ∀ v, S.lux (k + 3) v → S'.lux (k' + 3) v)
    (hrssi : ∀ v, S.rssi (k + 1) v → S'.rssi (k' + 1) v) (hvdd : ∀ v, S.vdd k v → S'.vdd k' v) :
    HoldsMessage S' k' m' := by
  obtain ⟨p, htext, hscore, hdist, ⟨v, hv, hopt⟩, hr, hsupply⟩ := h
  refine ⟨p, by rw [hbuf]; exact htext, ?_, ?_, ⟨v, hlux v hv, hopt⟩, hrssi _ hr, hvdd _ hsupply⟩
  · rw [hres]
    exact hscore
  · rw [hres]
    exact hdist

/-- A format puts the message together. -/
theorem holdsMessage_format {opt_buf : ℚ} {rssi : Int8} (state : Int8)
    (hlux : S'.lux 3 opt_buf) (hrssi : S'.rssi 1 rssi) (hvdd : S'.vdd 0 m.vdd_meas) :
    HoldsMessage S' 0 (formatPayload state opt_buf rssi m) :=
  ⟨_, cstr_formatPayload state opt_buf rssi m, rfl, rfl, ⟨opt_buf, hlux, rfl⟩, hrssi, hvdd⟩

/-- A statement, with the reads one statement older. Only the read of the light level may start
    the account anew. -/
theorem drafted_mainStep (env : AlgoEnv) (h : Drafted S s)
    (hread : s.pc.readsLight = true → S'.lux 0 (opt3001_conv (opt3001_read env.i2c)))
    (hlux : s.pc.readsLight = false → ∀ k v, S.lux k v → S'.lux (k + 1) v)
    (hrssi : ∀ k v, S.rssi k v → S'.rssi (k + 1) v) (hrssi0 : S'.rssi 0 env.rssi)
    (hvdd : ∀ k v, S.vdd k v → S'.vdd (k + 1) v) (hvdd0 : S'.vdd 0 s.mem.vdd_meas) :
    Drafted S' (mainStep env s).1 := by
  obtain ⟨m, pc⟩ := s
  have hkeep : ∀ k, pc.readsLight = false → HoldsMessage S k m → ∀ m' : Mem,
      m'.tx_buffer = m.tx_buffer → m'.result = m.result → HoldsMessage S' (k + 1) m' :=
    fun k hpc hm m' hbuf hres =>
      hm.weaken hbuf hres (hlux hpc (k + 3)) (hrssi (k + 1)) (hvdd k)
  cases pc with
  | readOpt | readOptAlive => exact hread rfl
  | clearBuffer opt_buf | clearBufferAlive opt_buf => exact hlux rfl 0 _ h
  | readRssi opt_buf | readRssiAlive opt_buf => exact ⟨hlux rfl 1 _ h, hrssi0⟩
  | format opt_buf rssi | formatAlive opt_buf rssi =>
    exact holdsMessage_format _ (hlux rfl 2 _ h.1) (hrssi 0 _ h.2) hvdd0
  | testBranch =>
    have hnext := hkeep 0 rfl h m rfl rfl
    simp only [mainStep]
    split <;> exact hnext
  | clearRequire | setRequire => exact hkeep 1 rfl h _ rfl rfl
  | clearActive | clearActiveSent => exact hkeep 2 rfl h _ rfl rfl
  | clearInactive => exact hkeep 3 rfl h _ rfl rfl
  | testClear | testEstablished | testActive | testRequire | testInactive | testAlive =>
    simp only [mainStep]
    split <;> trivial
  | _ => trivial

/-- Any other event, with the same reads: it writes neither the buffer nor the frame. -/
theorem drafted_other {e : Ev} (he : e.isMain = false) (h : Drafted S s)
    (hlux : ∀ k v, S.lux k v → S'.lux k v) (hrssi : ∀ k v, S.rssi k v → S'.rssi k v)
    (hvdd : ∀ k v, S.vdd k v → S'.vdd k v) : Drafted S' (sysStep s e).1 := by
  have hstep : ∃ m', (sysStep s e).1 = ⟨m', s.pc⟩ ∧ m'.tx_buffer = s.mem.tx_buffer ∧
      m'.result = s.mem.result := by
    rcases sysStep_cases s e with rfl | ⟨env, rfl⟩ | ⟨alive, vdd, coap, calls, hstep⟩
    · exact ⟨_, rfl, irq_tx_buffer _, irq_result _⟩
    · cases he
    · exact ⟨_, congrArg Prod.fst hstep, rfl, rfl⟩
  obtain ⟨m', hnext, hbuf, hres⟩ := hstep
  have hkeep : ∀ k, HoldsMessage S k s.mem → HoldsMessage S' k m' := fun k hm =>
    hm.weaken hbuf hres (hlux _) (hrssi _) (hvdd _)
  rw [hnext]
  obtain ⟨m, pc⟩ := s
  cases pc with
  | clearBuffer opt_buf | clearBufferAlive opt_buf => exact hlux _ _ h
  | readRssi opt_buf | readRssiAlive opt_buf => exact hlux _ _ h
  | format opt_buf rssi | formatAlive opt_buf rssi => exact ⟨hlux _ _ h.1, hrssi _ _ h.2⟩
  | testBranch | sendAlive => exact hkeep 0 h
  | clearRequire | setRequire => exact hkeep 1 h
  | clearActive | clearActiveSent => exact hkeep 2 h
  | clearInactive | sendActive => exact hkeep 3 h
  | sendInactive => exact hkeep 4 h
  | _ => trivial

/-- At a send. -/
theorem Drafted.sent {site : Site} (h : Drafted S s) (hpc : s.pc = site.pc) :
    HoldsMessage S site.sinceFormat s.mem := by
  unfold Drafted at h
  rw [hpc] at h
  cases site <;> exact h

/-! ## The reads of a run -/

/-- What a statement of the main loop is answered. -/
def Ev.statement : Ev → Option AlgoEnv
  | .main env => some env
  | _ => none

/-- What the statements of a run were answered, the latest first. -/
def answers (es : List Ev) : List AlgoEnv := (es.filterMap Ev.statement).reverse

/-- The sample that an interrupt of the ADC brings, in mV. -/
def Ev.sample : Ev → Option UInt32
  | .iadc data => some (data * 1200 / 1000)
  | _ => none

/-- The latest sample of the supply voltage. -/
def supply (es : List Ev) : UInt32 := (es.filterMap Ev.sample).getLast?.getD 0

/-- The latest frame that was measured. -/
def latestFrame (unique : UInt64) (os : List Obs) : PresenceResult :=
  (frames os).getLast?.getD (boot unique).result

/-- What the statements of a run have read. -/
def readsOf (es : List Ev) : Sources where
  lux k v := ∃ env, (answers es)[k]? = some env ∧ v = opt3001_conv (opt3001_read env.i2c)
  rssi k v := ∃ env, (answers es)[k]? = some env ∧ v = env.rssi
  vdd k v := ∃ pre env post, es = pre ++ .main env :: post ∧ post.countP Ev.isMain = k ∧
    v = supply pre

theorem answers_main (es : List Ev) (env : AlgoEnv) :
    answers (es ++ [.main env]) = env :: answers es := by
  unfold answers
  rw [List.filterMap_append, List.reverse_append]
  rfl

theorem answers_other (es : List Ev) {e : Ev} (he : e.isMain = false) :
    answers (es ++ [e]) = answers es := by
  have hnone : e.statement = none := by
    cases e with
    | main env => cases he
    | _ => rfl
  unfold answers
  rw [List.filterMap_append, List.filterMap_cons_none hnone, List.filterMap_nil, List.append_nil]

theorem supply_snoc (es : List Ev) (e : Ev) :
    supply (es ++ [e]) = e.sample.getD (supply es) := by
  unfold supply
  rw [List.filterMap_append, List.getLast?_append]
  cases he : e.sample <;> simp [he]

theorem vdd_mainStep (env : AlgoEnv) (s : Sys) :
    (mainStep env s).1.mem.vdd_meas = s.mem.vdd_meas := by
  obtain ⟨m, pc⟩ := s
  cases pc <;> rfl

/-- The supply voltage in memory is the latest sample. -/
theorem supply_mem (unique : UInt64) (es : List Ev) :
    ((sysMachine unique).state es).mem.vdd_meas = supply es := by
  induction es using List.reverseRecOn with
  | nil => rfl
  | append_singleton es e ih =>
    rw [Machine.state_snoc, sysMachine_step, supply_snoc, ← ih]
    cases e with
    | burtc =>
      obtain ⟨v, a, i, b, hirq, -, -⟩ := irq_frame ((sysMachine unique).state es).mem
      show (BURTC_IRQHandler _).vdd_meas = _
      rw [hirq]
      rfl
    | alive_cb => rfl
    | iadc data => rfl
    | permissions r env =>
      simp only [sysStep]
      split_ifs <;> rfl
    | main env => exact vdd_mainStep env _

/-- The frame in memory is the latest one. -/
theorem result_mem (unique : UInt64) (es : List Ev) :
    ((sysMachine unique).state es).mem.result =
      latestFrame unique ((sysMachine unique).trace es) := by
  induction es using List.reverseRecOn with
  | nil => rfl
  | append_singleton es e ih =>
    rw [Machine.state_snoc, Machine.trace_snoc, sysMachine_step, result_sysStep, ih]
    unfold latestFrame
    rw [frames_append, List.getLast?_append]
    cases (frames (sysStep ((sysMachine unique).state es) e).2).getLast? <;> rfl

/-- Every state of every run. -/
theorem drafted (unique : UInt64) (es : List Ev) :
    Drafted (readsOf es) ((sysMachine unique).state es) := by
  induction es using List.reverseRecOn with
  | nil => trivial
  | append_singleton es e ih =>
    rw [Machine.state_snoc]
    by_cases he : e.isMain = false
    · refine drafted_other he ih ?_ ?_ ?_
      · rintro k v ⟨env, hk, hv⟩
        exact ⟨env, by rw [answers_other es he]; exact hk, hv⟩
      · rintro k v ⟨env, hk, hv⟩
        exact ⟨env, by rw [answers_other es he]; exact hk, hv⟩
      · rintro k v ⟨pre, env, post, rfl, hk, hv⟩
        refine ⟨pre, env, post ++ [e], by simp, ?_, hv⟩
        rw [List.countP_append, List.countP_singleton, he, hk]
        rfl
    · cases e with
      | main env =>
        refine drafted_mainStep env ih (fun _ => ⟨env, by rw [answers_main]; rfl, rfl⟩)
          (fun _ => ?_) ?_ ⟨env, by rw [answers_main]; rfl, rfl⟩ ?_
          ⟨es, env, [], rfl, rfl, supply_mem unique es⟩
        · rintro k v ⟨env', hk, hv⟩
          exact ⟨env', by rw [answers_main]; exact hk, hv⟩
        · rintro k v ⟨env', hk, hv⟩
          exact ⟨env', by rw [answers_main]; exact hk, hv⟩
        · rintro k v ⟨pre, env', post, rfl, hk, hv⟩
          refine ⟨pre, env', post ++ [.main env], by simp, ?_, hv⟩
          rw [List.countP_append, List.countP_singleton, hk]
          rfl
      | _ => exact absurd rfl he

/-- A message is current when it is sent. Its score and its distance are those of the latest
    frame that was measured. Its light level was read three statements before its format, its
    signal strength one before, and its supply voltage was the latest sample at the format; and
    the format was 4, 3 or 0 statements ago, by the site. -/
theorem messages_current (unique : UInt64) (es : List Ev) (e : Ev) (site : Site) (m : Mem)
    (h : .sender site m ∈ (sysStep ((sysMachine unique).state es) e).2) :
    ∃ p, cstr NUL m.tx_buffer = payloadText p ∧
      Reports (readsOf es) (latestFrame unique ((sysMachine unique).trace es))
        site.sinceFormat p := by
  obtain ⟨hpc, rfl⟩ := sender_mem_sysStep h
  rw [← result_mem]
  exact (drafted unique es).sent hpc

/-- The product is rounded before it is cut: a score of 0.005f is sent as 5, not as 4. -/
example : toUInt32 (flt (flt (5 / 1000) * 1000)) = 5 ∧ toUInt32 (flt (5 / 1000) * 1000) = 4 := by
  decide +kernel

theorem messages_current_alive :
    ∃ p, cstr NUL ((sysMachine 7).state aliveFormatted).mem.tx_buffer = payloadText p ∧
      Reports (readsOf aliveFormatted) (latestFrame 7 ((sysMachine 7).trace aliveFormatted))
        0 p := by
  have hsend : ((sysMachine 7).state aliveFormatted).pc = Site.alive.pc := by decide +kernel
  refine messages_current 7 aliveFormatted (.main (.sample false)) .alive _ ?_
  generalize (sysMachine 7).state aliveFormatted = s at hsend ⊢
  obtain ⟨m, pc⟩ := s
  obtain rfl := hsend
  exact List.mem_cons_self

end OtIpr
