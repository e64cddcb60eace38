/-
  The message body, from the format to the stack, under every interleaving.

  A payload of any field values stays below the limit of `snprintf`. So it is written whole
  into the cleared buffer and `strlen` counts all of it (`written_whole`), and the sender
  hands over these bytes and no others (`sent_whole`).

  `payloads` lists what a run has formatted (lines 295 and 334). `BufferAt` says, statement by
  statement, what `tx_buffer` holds: nothing from the `memset` to the format, and from there
  to the send the payload formatted last. Interrupts do not write it.
-/
import OtIpr.Radar.Reports

namespace OtIpr

open Lib

/-! ## One payload -/

/-- `tx_buffer` once `p` is formatted: lines 279 and 295, or 318 and 334. -/
def txBuffer (p : Payload) (tx_buffer : List Char) : List Char :=
  snprintf NUL (memset tx_buffer NUL 254) 254 (payloadText p)

/-- `payloadLength = strlen(buf)`, a `uint16_t`. -/
def payloadLength (buf : List Char) : UInt16 := UInt16.ofNat (strlen NUL buf)

/-- The text is as short as promised, all of it is in the buffer with terminators up to the
    limit, and `payloadLength` is its length. -/
structure WrittenWhole (p : Payload) (tx_buffer : List Char) : Prop where
  short : (payloadText p).length < 90
  written : txBuffer p tx_buffer =
    payloadText p ++ List.replicate (254 - (payloadText p).length) NUL ++ tx_buffer.drop 254
  covered : (payloadLength (txBuffer p tx_buffer)).toNat = (payloadText p).length

/-- The bytes that the sender hands over are `text`, and a message with them is accepted
    unless a call fails. -/
structure SentWhole (c : Coap) (env : SenderEnv) (buf : List Char) (require_ack : Bool)
    (text : List Char) : Prop where
  body : ∀ call ∈ (appCoapRadarSender c env buf require_ack).2, ∀ b, call.body = some b → b = text
  accepted : (appCoapRadarSender c env buf require_ack).2.filterMap OtCall.acceptedPayload =
    if sendError env buf = .OT_ERROR_NONE then [text] else []

theorem written_whole (p : Payload) (tx_buffer : List Char) : WrittenWhole p tx_buffer where
  short := payloadText_length p
  written := snprintf_memset NUL tx_buffer _ (Nat.lt_trans (payloadText_length p) (by decide))
  covered := by
    have htext : cstr NUL (txBuffer p tx_buffer) = payloadText p := cstr_snprintf_payload _ p
    unfold payloadLength
    rw [UInt16.toNat_ofNat_of_lt' (strlen_payload htext), strlen, htext]

/-- The sender of a buffer that holds a payload. -/
theorem sent_whole {p : Payload} {buf : List Char} (h : cstr NUL buf = payloadText p) (c : Coap)
    (env : SenderEnv) (require_ack : Bool) : SentWhole c env buf require_ack (payloadText p) where
  body call hcall b hb := by
    rw [← h]
    exact sender_body c env buf require_ack (strlen_payload h) hcall hb
  accepted := by
    rw [← h]
    exact sender_accepted c env buf require_ack (strlen_payload h)

/-! ## Runs -/

/-- The payload that a statement formats. -/
def formatted (s : Sys) : Ev → List Payload
  | .main _ =>
    match s.pc with
    | .format opt_buf rssi => [payloadOf (stateDigit s.mem) opt_buf rssi s.mem]
    | .formatAlive opt_buf rssi => [payloadOf (-1) opt_buf rssi s.mem]
    | _ => []
  | _ => []

/-- The payloads that a run has formatted, oldest first. -/
def payloads (unique : UInt64) (es : List Ev) : List Payload :=
  ((sysMachine unique).watch formatted).trace es

/-- The buffer after the `memset`: its last byte, beyond the 254, is never written. -/
def clearedBuffer : List Char := List.replicate 255 NUL

/-- The buffer with the text of `p`, and terminators to its end. -/
def bufferOf (p : Payload) : List Char :=
  payloadText p ++ List.replicate (255 - (payloadText p).length) NUL

def BufferAt : Pc → List Char → Option Payload → Prop
  | .readRssi _, buf, _ | .format _ _, buf, _ => buf = clearedBuffer
  | .readRssiAlive _, buf, _ | .formatAlive _ _, buf, _ => buf = clearedBuffer
  | .testBranch, buf, last => ∃ p, last = some p ∧ buf = bufferOf p
  | .clearRequire, buf, last | .clearActive, buf, last | .clearInactive, buf, last
  | .sendInactive, buf, last => ∃ p, last = some p ∧ buf = bufferOf p
  | .setRequire, buf, last | .clearActiveSent, buf, last
  | .sendActive, buf, last => ∃ p, last = some p ∧ buf = bufferOf p
  | .sendAlive, buf, last => ∃ p, last = some p ∧ buf = bufferOf p
  | _, buf, _ => buf.drop 254 = [NUL]

theorem memset_cleared {buf : List Char} (h : buf.drop 254 = [NUL]) :
    memset buf NUL 254 = clearedBuffer := by
  unfold memset clearedBuffer
  rw [h]
  exact List.replicate_succ'.symm

theorem snprintf_cleared (p : Payload) :
    snprintf NUL clearedBuffer 254 (payloadText p) = bufferOf p := by
  have hlen := payloadText_length p
  have hcount : 255 - (payloadText p).length = 255 - ((payloadText p).length + 1) + 1 := by omega
  unfold bufferOf clearedBuffer
  rw [snprintf_eq NUL _ _ (Nat.lt_trans hlen (by decide)), List.drop_replicate, hcount,
    List.replicate_succ]

theorem drop_bufferOf (p : Payload) : (bufferOf p).drop 254 = [NUL] := by
  have hlen := payloadText_length p
  have hleft : 255 - (payloadText p).length - (254 - (payloadText p).length) = 1 := by omega
  unfold bufferOf
  rw [List.drop_append, List.drop_of_length_le (by omega), List.drop_replicate, hleft]
  rfl

theorem cstr_bufferOf (p : Payload) : cstr NUL (bufferOf p) = payloadText p := by
  rw [← snprintf_cleared]
  exact cstr_snprintf_payload _ p

theorem bufferAt_mainStep (env : AlgoEnv) {s : Sys} {ps : List Payload}
    (h : BufferAt s.pc s.mem.tx_buffer ps.getLast?) :
    BufferAt (mainStep env s).1.pc (mainStep env s).1.mem.tx_buffer
      (ps ++ formatted s (.main env)).getLast? := by
  obtain ⟨m, pc⟩ := s
  cases pc with
  | clearBuffer opt_buf | clearBufferAlive opt_buf => exact memset_cleared h
  | format opt_buf rssi | formatAlive opt_buf rssi =>
    have hbuf : m.tx_buffer = clearedBuffer := h
    refine ⟨_, List.getLast?_concat, ?_⟩
    show snprintf NUL m.tx_buffer 254 _ = _
    rw [hbuf]
    exact snprintf_cleared _
  | testBranch =>
    rw [formatted, List.append_nil]
    cases hi : m.radarCoapSendInactive <;> simp only [mainStep, hi] <;> exact h
  | sendInactive | sendActive | sendAlive =>
    obtain ⟨p, -, hbuf⟩ := h
    show m.tx_buffer.drop 254 = [NUL]
    rw [hbuf]
    exact drop_bufferOf p
  | testClear | testEstablished | testActive | testRequire | testInactive | testAlive =>
    simp only [mainStep]
    split <;> exact h
  | _ =>
    rw [formatted, List.append_nil]
    exact h

theorem bufferAt_sysStep (e : Ev) {s : Sys} {ps : List Payload}
    (h : BufferAt s.pc s.mem.tx_buffer ps.getLast?) :
    BufferAt (sysStep s e).1.pc (sysStep s e).1.mem.tx_buffer
      (ps ++ formatted s e).getLast? := by
  cases e with
  | burtc =>
    show BufferAt s.pc (BURTC_IRQHandler s.mem).tx_buffer (ps ++ []).getLast?
    rw [irq_tx_buffer, List.append_nil]
    exact h
  | alive_cb => exact (List.append_nil ps).symm ▸ h
  | iadc data => exact (List.append_nil ps).symm ▸ h
  | permissions r env =>
    show BufferAt _ _ (ps ++ []).getLast?
    rw [List.append_nil]
    simp only [sysStep]
    split_ifs <;> exact h
  | main env => exact bufferAt_mainStep env h

/-- Every state of every run. -/
theorem bufferAt (unique : UInt64) (es : List Ev) :
    BufferAt ((sysMachine unique).state es).pc ((sysMachine unique).state es).mem.tx_buffer
      (payloads unique es).getLast? := by
  rw [← (sysMachine unique).state_watch formatted]
  exact ((sysMachine unique).watch formatted).invariant_trace
    (fun s ps => BufferAt s.pc s.mem.tx_buffer ps.getLast?) rfl
    (fun _ e h => bufferAt_sysStep e h) es

/-- At each of the three sends the buffer holds the payload formatted last. -/
theorem bufferAt_send (unique : UInt64) {es : List Ev} {site : Site}
    (h : ((sysMachine unique).state es).pc = site.pc) :
    ∃ p, (payloads unique es).getLast? = some p ∧
      ((sysMachine unique).state es).mem.tx_buffer = bufferOf p := by
  have hbuf := bufferAt unique es
  rw [h] at hbuf
  cases site <;> exact hbuf

/-- Payloads are never truncated. Whatever the fields and the old contents of the buffer, a
    payload is written whole and sent whole; and what a run sends is the payload it formatted
    last. -/
theorem payloads_not_truncated :
    (∀ p tx_buffer, WrittenWhole p tx_buffer) ∧
    (∀ p tx_buffer c env require_ack,
      SentWhole c env (txBuffer p tx_buffer) require_ack (payloadText p)) ∧
    ∀ unique es (site : Site), ((sysMachine unique).state es).pc = site.pc →
      ∃ p, (payloads unique es).getLast? = some p ∧
        ((sysMachine unique).state es).mem.tx_buffer = bufferOf p ∧
        ∀ c env require_ack, SentWhole c env ((sysMachine unique).state es).mem.tx_buffer
          require_ack (payloadText p) := by
  refine ⟨written_whole, ?_, ?_⟩
  · intro p tx_buffer
    exact sent_whole (cstr_snprintf_payload _ p)
  · intro unique es site hpc
    obtain ⟨p, hlast, hbuf⟩ := bufferAt_send unique hpc
    refine ⟨p, hlast, hbuf, ?_⟩
    rw [hbuf]
    exact sent_whole (cstr_bufferOf p)

end OtIpr
