/-
  Which sensor a payload names.

  A text delimited by commas tells its fields, and every field but the second tells the
  number it is written from (`payloadText_inj`). The second field runs the two words of the
  EUI together with no padding and nothing between them. `SameDigits` says when two EUIs are
  written alike; `decodable_iff`: the payloads of two sensors can be told apart exactly when
  their EUIs are not written alike, and always when their low words have the same width.
-/
import OtIpr.Payload

namespace OtIpr

open Lib

/-- "%lx%lx": the identifier field of a payload. -/
def identifier (p : Payload) : List Char := fmtLx p.eui_h ++ fmtLx p.eui_l

/-- The number of digits of "%lx". -/
def hexWidth (n : UInt32) : ℕ := Nat.log 16 n.toNat + 1

/-- Two different EUIs with the same digits: both high words are positive, and each high word
    shifted by the digits of its low word makes up the same number. -/
def SameDigits (p q : Payload) : Prop :=
  (p.eui_h, p.eui_l) ≠ (q.eui_h, q.eui_l) ∧ 0 < p.eui_h.toNat ∧ 0 < q.eui_h.toNat ∧
    p.eui_h.toNat * 16 ^ hexWidth p.eui_l + p.eui_l.toNat =
      q.eui_h.toNat * 16 ^ hexWidth q.eui_l + q.eui_l.toNat

instance (p q : Payload) : Decidable (SameDigits p q) := inferInstanceAs (Decidable (_ ∧ _))

/-- Two payloads are told apart by their texts, and two EUIs by their identifier fields. -/
def Decodable (p q : Payload) : Prop :=
  (payloadText p = payloadText q → p = q) ∧
    (identifier p = identifier q → (p.eui_h, p.eui_l) = (q.eui_h, q.eui_l))

/-! ## Numerals of the fields -/

theorem fmtLu_injective {m n : UInt32} (h : fmtLu m = fmtLu n) : m = n :=
  UInt32.toNat_inj.mp (toDigits_injective (by decide) (by decide) h)

/-- A sign or none, and the digits of the absolute value. -/
theorem fmtD_injective {i j : ℤ} (h : fmtD i = fmtD j) : i = j := by
  have hminus : ∀ m n : ℕ, '-' :: Nat.toDigits 10 m ≠ Nat.toDigits 10 n := by
    intro m n heq
    obtain ⟨d, hd⟩ := mem_toDigits (by decide) (heq ▸ List.mem_cons_self)
    exact Nat.digitChar_ne '-' (by decide) hd.symm
  unfold fmtD at h
  split_ifs at h with hi hj hj
  · have := toDigits_injective (by decide) (by decide) (List.cons.inj h).2
    omega
  · exact absurd h (hminus _ _)
  · exact absurd h.symm (hminus _ _)
  · have := toDigits_injective (by decide) (by decide) h
    omega

theorem identifier_eq_iff (p q : Payload) :
    identifier p = identifier q ↔
      (p.eui_h, p.eui_l) = (q.eui_h, q.eui_l) ∨ SameDigits p q := by
  have hwidth : ∀ n : UInt32, (Nat.toDigits 16 n.toNat).length = hexWidth n :=
    fun n => length_toDigits (by decide) n.toNat
  have hpair : (p.eui_h, p.eui_l) = (q.eui_h, q.eui_l) ↔
      p.eui_h.toNat = q.eui_h.toNat ∧ p.eui_l.toNat = q.eui_l.toNat := by
    rw [Prod.mk.injEq, UInt32.toNat_inj, UInt32.toNat_inj]
  unfold identifier fmtLx
  rw [toDigits_append_inj (by decide) (by decide), hwidth, hwidth, ← hpair]
  by_cases heui : (p.eui_h, p.eui_l) = (q.eui_h, q.eui_l)
  · exact iff_of_true (Or.inl heui) (Or.inl heui)
  · exact or_congr_right ⟨fun h => ⟨heui, h⟩, fun h => h.2⟩

/-- Low words of one width never make two EUIs look alike. -/
theorem not_sameDigits_of_width {p q : Payload} (h : hexWidth p.eui_l = hexWidth q.eui_l) :
    ¬ SameDigits p q := by
  rintro ⟨hne, -, -, heq⟩
  have hp : p.eui_l.toNat < 16 ^ hexWidth p.eui_l := Nat.lt_pow_succ_log_self (by decide) _
  have hq : q.eui_l.toNat < 16 ^ hexWidth p.eui_l := by
    rw [h]
    exact Nat.lt_pow_succ_log_self (by decide) _
  rw [← h, Nat.mul_comm, Nat.mul_comm q.eui_h.toNat] at heq
  have hlow := congrArg (· % 16 ^ hexWidth p.eui_l) heq
  simp only [Nat.mul_add_mod, Nat.mod_eq_of_lt hp, Nat.mod_eq_of_lt hq] at hlow
  have hhigh := congrArg (· / 16 ^ hexWidth p.eui_l) heq
  have hpos : 0 < 16 ^ hexWidth p.eui_l := Nat.pow_pos (by decide)
  simp only [Nat.mul_add_div hpos, Nat.div_eq_of_lt hp, Nat.div_eq_of_lt hq,
    Nat.add_zero] at hhigh
  exact hne (Prod.ext (UInt32.toNat_inj.mp hhigh) (UInt32.toNat_inj.mp hlow))

/-! ## Payloads -/

/-- Equal texts have equal fields. -/
theorem payloadFields_injective {p q : Payload} (h : payloadText p = payloadText q) :
    payloadFields p = payloadFields q := by
  have hsplit : ∀ r : Payload, (payloadText r).splitOn ',' = payloadFields r := by
    intro r
    rw [payloadText_eq_join]
    exact splitOn_joinFields ',' (comma_not_mem_payloadFields r) (by simp [payloadFields])
  rw [← hsplit p, h, hsplit q]

/-- Payloads of one EUI are told apart by their texts. -/
theorem payloadText_inj {p q : Payload} (h : payloadText p = payloadText q)
    (heui : (p.eui_h, p.eui_l) = (q.eui_h, q.eui_l)) : p = q := by
  have hf := payloadFields_injective h
  simp only [payloadFields, List.cons.injEq, and_true] at hf
  obtain ⟨hdev, -, hstate, hscore, hdist, hopt, hvdd, hrssi, hctr⟩ := hf
  obtain ⟨hh, hl⟩ := Prod.mk.inj heui
  obtain ⟨pdev, ph, pl, pstate, pscore, pdist, popt, pvdd, prssi, pctr⟩ := p
  obtain ⟨qdev, qh, ql, qstate, qscore, qdist, qopt, qvdd, qrssi, qctr⟩ := q
  dsimp only at *
  have hdev' : pdev = qdev := UInt8.toNat_inj.mp (Int.ofNat_inj.mp (fmtD_injective hdev))
  rw [hdev', hh, hl, Int8.toInt_inj.mp (fmtD_injective hstate), fmtLu_injective hscore,
    fmtLu_injective hdist, fmtLu_injective hopt, fmtLu_injective hvdd,
    Int8.toInt_inj.mp (fmtD_injective hrssi), fmtLu_injective hctr]

theorem decodable_of_not_sameDigits {p q : Payload} (hsame : ¬ SameDigits p q) :
    Decodable p q := by
  have hid : identifier p = identifier q → (p.eui_h, p.eui_l) = (q.eui_h, q.eui_l) := by
    intro h
    rcases (identifier_eq_iff p q).mp h with heui | hdigits
    · exact heui
    · exact absurd hdigits hsame
  refine ⟨fun h => ?_, hid⟩
  have hf := payloadFields_injective h
  simp only [payloadFields, List.cons.injEq] at hf
  exact payloadText_inj h (hid hf.2.1)

/-- Payloads and EUIs can be decoded exactly when the two EUIs do not have the same digits; in
    particular when their low words have as many digits. -/
theorem decodable_iff (p q : Payload) :
    (Decodable p q ↔ ¬ SameDigits p q) ∧
      (hexWidth p.eui_l = hexWidth q.eui_l → Decodable p q) := by
  refine ⟨⟨?_, decodable_of_not_sameDigits⟩, fun hwidth =>
    decodable_of_not_sameDigits (not_sameDigits_of_width hwidth)⟩
  rintro ⟨-, hid⟩ hsame
  exact hsame.1 (hid ((identifier_eq_iff p q).mpr (Or.inr hsame)))

/-- A report of presence from the sensor with the given EUI. -/
def reportFrom (eui_h eui_l : UInt32) : Payload := ⟨0, eui_h, eui_l, 1, 0, 0, 0, 3000, -60, 1⟩

/-- "1" and "11" read as "11" and "1". -/
theorem same_text_of_two_sensors :
    ¬ Decodable (reportFrom 0x1 0x11) (reportFrom 0x11 0x1) := by
  intro h
  exact absurd (h.1 (by decide)) (by decide)

end OtIpr
