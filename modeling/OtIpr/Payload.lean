/-
  The CoAP payload of `radarAppAlgo` (main.c, lines 283-299 and 322-338).

  `payloadText` expands the format "%d,%lx%lx,%d,%lu,%lu,%lu,%lu,%d,%lu" of both `snprintf`
  calls. Nine fields are delimited by commas; the second holds the two EUI words with
  nothing between them. `payloadText_length` is the bound the source promises ("max <90
  chars"), so the 254-byte limit never cuts a payload (`cstr_snprintf_payload`), and the
  server reads the state digit back from the third field (`stateField_payloadText`).
-/
import OtIpr.Lib.CString
import OtIpr.Lib.Numerals

namespace OtIpr

open Lib

/-- The string terminator. -/
def NUL : Char := Char.ofNat 0

/-- The arguments of the two `snprintf` calls, at the widths of the source. -/
structure Payload where
  device_type : UInt8
  eui_h : UInt32
  eui_l : UInt32
  state : Int8
  presence_score : UInt32
  presence_distance : UInt32
  opt_buf : UInt32
  vdd_meas : UInt32
  rssi : Int8
  appCoapSendTxCtr : UInt32
  deriving DecidableEq, Repr

/-! ## Formatting -/

/-- `%d` -/
def fmtD (i : ℤ) : List Char :=
  if i < 0 then '-' :: Nat.toDigits 10 i.natAbs else Nat.toDigits 10 i.natAbs

/-- `%lu` -/
def fmtLu (n : UInt32) : List Char := Nat.toDigits 10 n.toNat

/-- `%lx` -/
def fmtLx (n : UInt32) : List Char := Nat.toDigits 16 n.toNat

/-- "%d,%lx%lx,%d,%lu,%lu,%lu,%lu,%d,%lu" -/
def payloadText (p : Payload) : List Char :=
  fmtD p.device_type.toNat ++ [','] ++ fmtLx p.eui_h ++ fmtLx p.eui_l ++ [','] ++
    fmtD p.state.toInt ++ [','] ++ fmtLu p.presence_score ++ [','] ++
    fmtLu p.presence_distance ++ [','] ++ fmtLu p.opt_buf ++ [','] ++ fmtLu p.vdd_meas ++
    [','] ++ fmtD p.rssi.toInt ++ [','] ++ fmtLu p.appCoapSendTxCtr

/-- The delimited fields of the payload. -/
def payloadFields (p : Payload) : List (List Char) :=
  [fmtD p.device_type.toNat, fmtLx p.eui_h ++ fmtLx p.eui_l, fmtD p.state.toInt,
    fmtLu p.presence_score, fmtLu p.presence_distance, fmtLu p.opt_buf, fmtLu p.vdd_meas,
    fmtD p.rssi.toInt, fmtLu p.appCoapSendTxCtr]

theorem payloadText_eq_join (p : Payload) : payloadText p = joinFields ',' (payloadFields p) := by
  unfold payloadText payloadFields joinFields
  simp only [List.intercalate_cons_cons, List.intercalate_singleton, List.append_assoc]

/-! ## Characters -/

/-- What the three conversions write: a minus sign or a digit. -/
def NumeralChar (c : Char) : Prop := c = '-' ∨ ∃ d, c = Nat.digitChar d

theorem numeralChar_ne {c : Char} (h : NumeralChar c) : c ≠ ',' ∧ c ≠ NUL := by
  rcases h with rfl | ⟨d, rfl⟩
  · decide
  · exact ⟨Nat.digitChar_ne ',' (by decide), Nat.digitChar_ne NUL (by decide)⟩

theorem numeral_fmtD {i : ℤ} {c : Char} (h : c ∈ fmtD i) : NumeralChar c := by
  unfold fmtD at h
  split at h
  · rcases List.mem_cons.mp h with h | h
    · exact Or.inl h
    · exact Or.inr (mem_toDigits (by decide) h)
  · exact Or.inr (mem_toDigits (by decide) h)

theorem numeral_fmtLu {n : UInt32} {c : Char} (h : c ∈ fmtLu n) : NumeralChar c :=
  Or.inr (mem_toDigits (by decide) h)

theorem numeral_fmtLx {n : UInt32} {c : Char} (h : c ∈ fmtLx n) : NumeralChar c :=
  Or.inr (mem_toDigits (by decide) h)

theorem numeral_payloadFields {p : Payload} {f : List Char} (hf : f ∈ payloadFields p)
    {c : Char} (hc : c ∈ f) : NumeralChar c := by
  simp only [payloadFields, List.mem_cons, List.not_mem_nil, or_false] at hf
  rcases hf with rfl | rfl | rfl | rfl | rfl | rfl | rfl | rfl | rfl
  · exact numeral_fmtD hc
  · rcases List.mem_append.mp hc with hc | hc
    · exact numeral_fmtLx hc
    · exact numeral_fmtLx hc
  · exact numeral_fmtD hc
  · exact numeral_fmtLu hc
  · exact numeral_fmtLu hc
  · exact numeral_fmtLu hc
  · exact numeral_fmtLu hc
  · exact numeral_fmtD hc
  · exact numeral_fmtLu hc

theorem comma_not_mem_payloadFields (p : Payload) : ∀ f ∈ payloadFields p, ',' ∉ f :=
  fun _ hf hc => (numeralChar_ne (numeral_payloadFields hf hc)).1 rfl

theorem nul_not_mem_payloadText (p : Payload) : NUL ∉ payloadText p := by
  rw [payloadText_eq_join]
  intro h
  rcases mem_joinFields h with h | ⟨f, hf, hc⟩
  · exact absurd h (by decide)
  · exact (numeralChar_ne (numeral_payloadFields hf hc)).2 rfl

/-! ## Lengths -/

theorem length_fmtLu (n : UInt32) : (fmtLu n).length ≤ 10 :=
  length_toDigits_le (by decide) (by decide) (Nat.lt_trans n.toNat_lt (by decide))

theorem length_fmtLx (n : UInt32) : (fmtLx n).length ≤ 8 :=
  length_toDigits_le (by decide) (by decide) (Nat.lt_of_lt_of_le n.toNat_lt (by decide))

/-- `%d` of a number of at most three digits. -/
theorem length_fmtD {i : ℤ} (h : i.natAbs < 1000) : (fmtD i).length ≤ 4 := by
  have := length_toDigits_le (b := 10) (k := 3) (by decide) (by decide) h
  unfold fmtD
  split
  · rw [List.length_cons]; omega
  · omega

theorem length_fmtD_int8 (i : Int8) : (fmtD i.toInt).length ≤ 4 := by
  have h1 := i.le_toInt
  have h2 := i.toInt_lt
  exact length_fmtD (by omega)

/-- The bound promised at both `snprintf` calls: "CoAP Payload String (max <90 chars)". -/
theorem payloadText_length (p : Payload) : (payloadText p).length < 90 := by
  have hd : (fmtD p.device_type.toNat).length ≤ 4 := by
    have := p.device_type.toNat_lt
    exact length_fmtD (by omega)
  have h1 := length_fmtLx p.eui_h
  have h2 := length_fmtLx p.eui_l
  have h3 := length_fmtD_int8 p.state
  have h4 := length_fmtLu p.presence_score
  have h5 := length_fmtLu p.presence_distance
  have h6 := length_fmtLu p.opt_buf
  have h7 := length_fmtLu p.vdd_meas
  have h8 := length_fmtD_int8 p.rssi
  have h9 := length_fmtLu p.appCoapSendTxCtr
  unfold payloadText
  simp only [List.length_append, List.length_singleton]
  omega

/-! ## The transmit buffer -/

/-- `snprintf(tx_buffer, 254, ...)` writes the payload whole. -/
theorem cstr_snprintf_payload (tx_buffer : List Char) (p : Payload) :
    cstr NUL (snprintf NUL tx_buffer 254 (payloadText p)) = payloadText p :=
  cstr_snprintf NUL _ _ (nul_not_mem_payloadText p)
    (Nat.lt_trans (payloadText_length p) (by decide))

/-- The length of a payload in a buffer fits 16 bits. -/
theorem strlen_payload {buf : List Char} {p : Payload} (h : cstr NUL buf = payloadText p) :
    strlen NUL buf < 2 ^ 16 := by
  unfold strlen
  rw [h]
  exact Nat.lt_trans (payloadText_length p) (by decide)

/-- The state field of a payload: the third field of its text. -/
def stateField (text : List Char) : List Char := field ',' 2 text

theorem stateField_payloadText (p : Payload) : stateField (payloadText p) = fmtD p.state.toInt := by
  rw [payloadText_eq_join]
  exact field_join ',' (comma_not_mem_payloadFields p) (by simp [payloadFields]) 2

end OtIpr
