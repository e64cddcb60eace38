/-
  The messages of a run, in the order they are sent, under every interleaving.

  A message is formatted into `tx_buffer` (lines 295 and 334), stays there for a few statements
  and is given to `appCoapRadarSender`. The buffer is a queue of at most one message
  (`unsent`): what is formatted comes out in order and exactly once (`texts_conserved`).

  The format counts messages in `appCoapSendTxCtr` and stamps them with the sensor's EUI
  (`Stamped`), so a text tells its sensor, up to the digits of the EUI, and its position in the
  run, up to the width of the counter (`same_message`). The stack may refuse a message. What it
  accepts is in order and has the numbers of its positions, so the server sees a refusal as a
  gap (`accepted_in_order`).
-/
import OtIpr.Coap.Requests
import OtIpr.Identifier
import OtIpr.Radar.Body

namespace OtIpr

open Lib

/-! ## What is formatted and what is sent -/

/-- The text that a call of `appCoapRadarSender` is given. -/
def Obs.text : Obs → Option (List Char)
  | .sender _ m => some (cstr NUL m.tx_buffer)
  | _ => none

/-- The texts given to `appCoapRadarSender`, oldest first. -/
def texts (os : List Obs) : List (List Char) := os.filterMap Obs.text

/-- A payload that the stack accepted. -/
def Obs.accepted : Obs → Option (List Char)
  | .call c => c.acceptedPayload
  | _ => none

/-- The accepted payloads, oldest first. -/
def acceptedTexts (os : List Obs) : List (List Char) := os.filterMap Obs.accepted

/-- The statements after a format, up to the send. -/
def Pc.afterFormat : Pc → Bool
  | .testBranch | .clearRequire | .clearActive | .clearInactive | .sendInactive => true
  | .setRequire | .clearActiveSent | .sendActive | .sendAlive => true
  | _ => false

/-- The message that is formatted and not sent yet. -/
def unsent (s : Sys) : List (List Char) :=
  if s.pc.afterFormat then [cstr NUL s.mem.tx_buffer] else []

theorem texts_append (os ps : List Obs) : texts (os ++ ps) = texts os ++ texts ps :=
  List.filterMap_append

theorem texts_calls (calls : List OtCall) : texts (calls.map .call) = [] := by
  unfold texts
  rw [List.filterMap_map]
  exact List.filterMap_eq_nil_iff.mpr (fun _ _ => rfl)

theorem texts_callSender (site : Site) (require_ack : Bool) (env : SenderEnv) (m : Mem) :
    texts (callSender site require_ack env m).2 = [cstr NUL m.tx_buffer] := by
  rw [callSender_obs]
  show cstr NUL m.tx_buffer :: texts (List.map Obs.call _) = _
  rw [texts_calls]

theorem cstr_formatPayload (state : Int8) (opt_buf : ℚ) (rssi : Int8) (m : Mem) :
    cstr NUL (formatPayload state opt_buf rssi m).tx_buffer =
      payloadText (payloadOf state opt_buf rssi m) :=
  cstr_snprintf_payload _ _

/-- A statement keeps the message in the buffer, formats one or sends one. -/
theorem unsent_mainStep (env : AlgoEnv) (s : Sys) :
    unsent s ++ (formatted s (.main env)).map payloadText =
      texts (mainStep env s).2 ++ unsent (mainStep env s).1 := by
  obtain ⟨m, pc⟩ := s
  cases pc with
  | format opt_buf rssi =>
    show [payloadText _] = [cstr NUL (formatPayload (stateDigit m) opt_buf rssi m).tx_buffer]
    rw [cstr_formatPayload]
  | formatAlive opt_buf rssi =>
    show [payloadText _] = [cstr NUL (formatPayload (-1) opt_buf rssi m).tx_buffer]
    rw [cstr_formatPayload]
  | sendInactive | sendActive | sendAlive =>
    simp only [mainStep, texts_callSender]
    rfl
  | testClear | testEstablished | testActive | testRequire | testInactive | testBranch
  | testAlive =>
    simp only [mainStep]
    split <;> rfl
  | _ => rfl

theorem unsent_sysStep (s : Sys) (e : Ev) :
    unsent s ++ (formatted s e).map payloadText =
      texts (sysStep s e).2 ++ unsent (sysStep s e).1 := by
  cases e with
  | burtc =>
    show unsent s ++ [] = [] ++ unsent ⟨BURTC_IRQHandler s.mem, s.pc⟩
    unfold unsent
    rw [irq_tx_buffer, List.append_nil, List.nil_append]
  | alive_cb => exact List.append_nil _
  | iadc data => exact List.append_nil _
  | permissions r env =>
    have hsilent : texts (processRequest r env s.mem).2 = [] := texts_calls _
    show unsent s ++ [] = _
    simp only [sysStep]
    split_ifs
    · rw [hsilent, List.append_nil]
      rfl
    · exact List.append_nil _
  | main env => exact unsent_mainStep env s

/-- What a run formats is what it has sent, and after it the message in the buffer. -/
theorem texts_conserved (unique : UInt64) (es : List Ev) :
    (payloads unique es).map payloadText =
      texts ((sysMachine unique).trace es) ++ unsent ((sysMachine unique).state es) := by
  have hmap : (payloads unique es).map payloadText =
      ((sysMachine unique).watch fun s e => (formatted s e).map payloadText).trace es := by
    induction es using List.reverseRecOn with
    | nil => rfl
    | append_singleton es e ih =>
      unfold payloads at ih ⊢
      rw [Machine.trace_snoc, Machine.trace_snoc, List.map_append, ih, Machine.state_watch,
        Machine.state_watch]
      rfl
  rw [hmap]
  exact (sysMachine unique).conservation unsent _ Obs.text rfl unsent_sysStep es

/-! ## The stamps -/

/-- What the format writes into the message at position `k` of a run, counted from 0. -/
structure Stamped (unique : UInt64) (k : ℕ) (p : Payload) : Prop where
  device_type : p.device_type = 0
  eui : (p.eui_h, p.eui_l) = (eui_h unique, eui_l unique)
  state : p.state = 1 ∨ p.state = 0 ∨ p.state = -1
  number : p.appCoapSendTxCtr = UInt32.ofNat (k + 1)

/-- The memory's EUI is the sensor's, its counter counts the payloads, and they are stamped. -/
structure Counting (unique : UInt64) (m : Mem) (ps : List Payload) : Prop where
  eui : m.eui = unique
  counter : m.appCoapSendTxCtr = UInt32.ofNat ps.length
  stamped : ∀ k p, ps[k]? = some p → Stamped unique k p

theorem Counting.congr {unique : UInt64} {m m' : Mem} {ps : List Payload}
    (h : Counting unique m ps) (heui : m'.eui = m.eui)
    (hctr : m'.appCoapSendTxCtr = m.appCoapSendTxCtr) : Counting unique m' ps :=
  ⟨heui.trans h.eui, hctr.trans h.counter, h.stamped⟩

/-- A format stamps the next message. -/
theorem Counting.format {unique : UInt64} {m : Mem} {ps : List Payload}
    (h : Counting unique m ps) {state : Int8} (hstate : state = 1 ∨ state = 0 ∨ state = -1)
    (opt_buf : ℚ) (rssi : Int8) :
    Counting unique (formatPayload state opt_buf rssi m)
      (ps ++ [payloadOf state opt_buf rssi m]) := by
  have hnext : m.appCoapSendTxCtr + 1 = UInt32.ofNat (ps.length + 1) := by
    rw [h.counter, UInt32.ofNat_add]
    rfl
  refine ⟨h.eui, ?_, ?_⟩
  · show m.appCoapSendTxCtr + 1 = _
    rw [hnext, List.length_append, List.length_singleton]
  · intro k p hk
    rcases Nat.lt_or_ge k ps.length with hlt | hge
    · rw [List.getElem?_append_left hlt] at hk
      exact h.stamped k p hk
    · rw [List.getElem?_append_right hge] at hk
      rw [List.getElem?_singleton] at hk
      split_ifs at hk with hzero
      have hlast : k = ps.length := by omega
      obtain rfl := Option.some.inj hk
      refine ⟨rfl, ?_, hstate, ?_⟩
      · show (eui_h m.eui, eui_l m.eui) = _
        rw [h.eui]
      · show m.appCoapSendTxCtr + 1 = _
        rw [hnext, hlast]

theorem stateDigit_cases (m : Mem) : stateDigit m = 1 ∨ stateDigit m = 0 ∨ stateDigit m = -1 := by
  unfold stateDigit
  split
  · exact Or.inr (Or.inl rfl)
  · exact Or.inl rfl

theorem counting_mainStep (env : AlgoEnv) {unique : UInt64} {s : Sys} {ps : List Payload}
    (h : Counting unique s.mem ps) :
    Counting unique (mainStep env s).1.mem (ps ++ formatted s (.main env)) := by
  obtain ⟨m, pc⟩ := s
  cases pc with
  | format opt_buf rssi => exact h.format (stateDigit_cases m) opt_buf rssi
  | formatAlive opt_buf rssi => exact h.format (Or.inr (Or.inr rfl)) opt_buf rssi
  | sendInactive =>
    obtain ⟨n, hn⟩ := callSender_frame .inactive true env.sender m
    rw [formatted, List.append_nil]
    simp only [mainStep, hn]
    exact h.congr rfl rfl
  | sendActive =>
    obtain ⟨n, hn⟩ := callSender_frame .active true env.sender m
    rw [formatted, List.append_nil]
    simp only [mainStep, hn]
    exact h.congr rfl rfl
  | sendAlive =>
    obtain ⟨n, hn⟩ := callSender_frame .alive false env.sender m
    rw [formatted, List.append_nil]
    simp only [mainStep, hn]
    exact h.congr rfl rfl
  | _ =>
    rw [formatted, List.append_nil]
    exact h.congr rfl rfl

theorem counting_sysStep (e : Ev) {unique : UInt64} {s : Sys} {ps : List Payload}
    (h : Counting unique s.mem ps) :
    Counting unique (sysStep s e).1.mem (ps ++ formatted s e) := by
  cases e with
  | burtc =>
    obtain ⟨v, a, i, b, hirq, -, -⟩ := irq_frame s.mem
    show Counting unique (BURTC_IRQHandler s.mem) (ps ++ [])
    rw [hirq, List.append_nil]
    exact h.congr rfl rfl
  | alive_cb => exact (List.append_nil ps).symm ▸ h.congr rfl rfl
  | iadc data => exact (List.append_nil ps).symm ▸ h.congr rfl rfl
  | permissions r env =>
    show Counting unique _ (ps ++ [])
    rw [List.append_nil]
    simp only [sysStep]
    split_ifs
    · exact h.congr rfl rfl
    · exact h
  | main env => exact counting_mainStep env h

/-- Every state of every run. -/
theorem counting (unique : UInt64) (es : List Ev) :
    Counting unique ((sysMachine unique).state es).mem (payloads unique es) := by
  rw [← (sysMachine unique).state_watch formatted]
  exact ((sysMachine unique).watch formatted).invariant_trace
    (fun s ps => Counting unique s.mem ps) ⟨rfl, rfl, fun k p hk => by simp at hk⟩
    (fun _ e h => counting_sysStep e h) es

/-- Messages are sent in the order they are formatted, each exactly once. At most one is
    formatted and not sent, and none between two calls of `radarAppAlgo`. The message at
    position `k` of a run is stamped with the sensor's EUI and with `k + 1`. -/
theorem messages_in_order (unique : UInt64) (es : List Ev) :
    (payloads unique es).map payloadText =
        texts ((sysMachine unique).trace es) ++ unsent ((sysMachine unique).state es) ∧
      (unsent ((sysMachine unique).state es)).length ≤ 1 ∧
      (((sysMachine unique).state es).pc = .processAction →
        unsent ((sysMachine unique).state es) = []) ∧
      ∀ k p, (payloads unique es)[k]? = some p → Stamped unique k p := by
  refine ⟨texts_conserved unique es, ?_, ?_, (counting unique es).stamped⟩
  · unfold unsent
    split <;> simp
  · intro hpc
    unfold unsent
    rw [hpc]
    rfl

/-! ## Telling messages apart -/

/-- The message at position `k` that was given to the sender. -/
theorem text_stamped {unique : UInt64} {es : List Ev} {k : ℕ} {t : List Char}
    (h : (texts ((sysMachine unique).trace es))[k]? = some t) :
    ∃ p, t = payloadText p ∧ Stamped unique k p := by
  have hall : ((payloads unique es).map payloadText)[k]? = some t := by
    rw [texts_conserved, List.getElem?_append_left (List.getElem?_eq_some_iff.mp h).1]
    exact h
  rw [List.getElem?_map] at hall
  obtain ⟨p, hp, rfl⟩ := Option.map_eq_some_iff.mp hall
  exact ⟨p, rfl, (counting unique es).stamped k p hp⟩

/-- The EUI as the format writes it. -/
def euiDigits (unique : UInt64) : List Char := fmtLx (eui_h unique) ++ fmtLx (eui_l unique)

/-- Two sensors send the same message only if their EUIs have the same digits, and only at
    positions that the 32-bit counter does not tell apart. -/
theorem same_message (u v : UInt64) (es fs : List Ev) (i j : ℕ) (t : List Char)
    (hi : (texts ((sysMachine u).trace es))[i]? = some t)
    (hj : (texts ((sysMachine v).trace fs))[j]? = some t) :
    euiDigits u = euiDigits v ∧ i % 2 ^ 32 = j % 2 ^ 32 := by
  obtain ⟨p, hp, hpstamp⟩ := text_stamped hi
  obtain ⟨q, hq, hqstamp⟩ := text_stamped hj
  have hfields := payloadFields_injective (hp.symm.trans hq)
  simp only [payloadFields, List.cons.injEq, and_true] at hfields
  obtain ⟨-, hid, -, -, -, -, -, -, hctr⟩ := hfields
  obtain ⟨hph, hpl⟩ := Prod.mk.inj hpstamp.eui
  obtain ⟨hqh, hql⟩ := Prod.mk.inj hqstamp.eui
  rw [hph, hpl, hqh, hql] at hid
  refine ⟨hid, ?_⟩
  have hnum : UInt32.ofNat (i + 1) = UInt32.ofNat (j + 1) := by
    rw [← hpstamp.number, ← hqstamp.number]
    exact fmtLu_injective hctr
  have hmod : (i + 1) % 2 ^ 32 = (j + 1) % 2 ^ 32 := by
    have h := congrArg UInt32.toNat hnum
    simpa using h
  omega

/-- The handshake, and an alive packet. -/
def aliveRun : List Ev := .get :: .alive_cb :: stmts 12 (.sample false)

/-- Two sensors whose EUIs have the digits "111" send the same first message. -/
theorem same_message_alive :
    euiDigits 0x0000000100000011 = euiDigits 0x0000001100000001 ∧ 0 % 2 ^ 32 = 0 % 2 ^ 32 :=
  same_message _ _ aliveRun aliveRun 0 0 (payloadText ⟨0, 0x1, 0x11, -1, 0, 0, 1280, 0, -60, 1⟩)
    (by decide +kernel) (by decide +kernel)

/-! ## What the stack accepts -/

/-- The counter field of a message. -/
def counterField (text : List Char) : List Char := field ',' 8 text

/-- The counter field at position `k`. -/
def number (k : ℕ) : List Char := fmtLu (UInt32.ofNat (k + 1))

theorem counterField_payloadText (p : Payload) :
    counterField (payloadText p) = fmtLu p.appCoapSendTxCtr := by
  rw [payloadText_eq_join]
  exact field_join ',' (comma_not_mem_payloadFields p) (by simp [payloadFields]) 8

/-- The messages of a run are numbered in a row. -/
theorem texts_numbered (unique : UInt64) (es : List Ev) :
    (texts ((sysMachine unique).trace es)).map counterField =
      (List.range (texts ((sysMachine unique).trace es)).length).map number := by
  refine List.ext_getElem? fun k => ?_
  rw [List.getElem?_map, List.getElem?_map]
  cases hk : (texts ((sysMachine unique).trace es))[k]? with
  | none =>
    have hlen := List.getElem?_eq_none_iff.mp hk
    rw [List.getElem?_eq_none_iff.mpr (by simpa using hlen)]
    rfl
  | some t =>
    obtain ⟨hlt, -⟩ := List.getElem?_eq_some_iff.mp hk
    obtain ⟨p, hp, hstamp⟩ := text_stamped hk
    rw [List.getElem?_range hlt]
    show some (counterField t) = some (number k)
    rw [hp, counterField_payloadText, hstamp.number]
    rfl

theorem acceptedTexts_append (os ps : List Obs) :
    acceptedTexts (os ++ ps) = acceptedTexts os ++ acceptedTexts ps :=
  List.filterMap_append

theorem acceptedTexts_calls (calls : List OtCall) :
    acceptedTexts (calls.map .call) = calls.filterMap OtCall.acceptedPayload :=
  List.filterMap_map

/-- The stack accepts the text it is given, or nothing. -/
theorem accepted_callSender {site : Site} {require_ack : Bool} {env : SenderEnv} {m : Mem}
    {p : Payload} (h : m.tx_buffer = bufferOf p) :
    (acceptedTexts (callSender site require_ack env m).2).Sublist
      (texts (callSender site require_ack env m).2) := by
  have hlen : strlen NUL m.tx_buffer < 2 ^ 16 := by
    rw [h]
    exact strlen_payload (cstr_bufferOf p)
  have haccepted : acceptedTexts (callSender site require_ack env m).2 =
      if sendError env m.tx_buffer = .OT_ERROR_NONE then [cstr NUL m.tx_buffer] else [] := by
    rw [callSender_obs, ← sender_accepted m.coap env m.tx_buffer require_ack hlen]
    exact acceptedTexts_calls _
  rw [texts_callSender, haccepted]
  split_ifs
  · exact List.Sublist.refl _
  · exact List.nil_sublist _

theorem accepted_sysStep (unique : UInt64) (es : List Ev) (e : Ev) :
    (acceptedTexts (sysStep ((sysMachine unique).state es) e).2).Sublist
      (texts (sysStep ((sysMachine unique).state es) e).2) := by
  cases e with
  | burtc => exact List.nil_sublist _
  | alive_cb => exact List.nil_sublist _
  | iadc data => exact List.nil_sublist _
  | permissions r env =>
    simp only [sysStep]
    split_ifs
    · have hnone : acceptedTexts (processRequest r env ((sysMachine unique).state es).mem).2 =
          [] := by
        unfold processRequest
        rw [acceptedTexts_calls]
        exact acceptedPayload_of_sentRequest (handler_requests _ r env)
      rw [hnone]
      exact List.nil_sublist _
    · exact List.nil_sublist _
  | main env =>
    have hsend : ∀ site : Site, ((sysMachine unique).state es).pc = site.pc →
        ∃ p, ((sysMachine unique).state es).mem.tx_buffer = bufferOf p := by
      intro site hpc
      obtain ⟨p, -, hbuf⟩ := bufferAt_send unique hpc
      exact ⟨p, hbuf⟩
    generalize (sysMachine unique).state es = s at hsend ⊢
    obtain ⟨m, pc⟩ := s
    cases pc with
    | sendInactive =>
      obtain ⟨p, hbuf⟩ := hsend .inactive rfl
      exact accepted_callSender hbuf
    | sendActive =>
      obtain ⟨p, hbuf⟩ := hsend .active rfl
      exact accepted_callSender hbuf
    | sendAlive =>
      obtain ⟨p, hbuf⟩ := hsend .alive rfl
      exact accepted_callSender hbuf
    | _ => exact List.nil_sublist _

/-- What the stack accepts is among the messages of the run, in their order. The counter
    fields the server reads are the numbers of the accepted positions: a refused message
    leaves a gap, and no message is accepted twice. -/
theorem accepted_in_order (unique : UInt64) (es : List Ev) :
    (acceptedTexts ((sysMachine unique).trace es)).Sublist
        (texts ((sysMachine unique).trace es)) ∧
      ∃ ks : List ℕ, ks.Sublist (List.range (texts ((sysMachine unique).trace es)).length) ∧
        (acceptedTexts ((sysMachine unique).trace es)).map counterField = ks.map number := by
  have hsub : (acceptedTexts ((sysMachine unique).trace es)).Sublist
      (texts ((sysMachine unique).trace es)) := by
    induction es using List.reverseRecOn with
    | nil => exact List.Sublist.refl _
    | append_singleton es e ih =>
      rw [Machine.trace_snoc, acceptedTexts_append, texts_append]
      exact ih.append (accepted_sysStep unique es e)
  refine ⟨hsub, ?_⟩
  have hfields := hsub.map counterField
  rw [texts_numbered] at hfields
  obtain ⟨ks, hks, heq⟩ := List.sublist_map_iff.mp hfields
  exact ⟨ks, hks, heq⟩

end OtIpr
