/-
  Binary floating-point numbers as rationals, and rounding to nearest with ties to even.
  Nothing here names a program.

  A format has a precision `prec` in bits and a least exponent `emin`: its numbers are the
  integers below `2 ^ prec` in magnitude times `2 ^ e` with `emin ≤ e` (`Representable`).
  Subnormals are among them; there is no greatest number, so overflow is not modelled. `round`
  rounds on the grid of the binade that the number lies in.

  Rules used by the developments over it:
  * `round_mono`: rounding is monotone, across binades too.
  * `round_of_representable`: it leaves representable numbers alone.
  * `round_le`, `le_round`: so a representable bound survives rounding.
-/
import Mathlib.Algebra.Order.Ring.Int
import Mathlib.Data.Int.Log
import Mathlib.Data.Rat.Floor
import Mathlib.Tactic.Linarith
import Mathlib.Tactic.Ring

namespace OtIpr.Lib

/-! ## Integers nearest to a rational -/

/-- The nearest integer; of two the even one. -/
def nearestEven (x : ℚ) : ℤ :=
  if x - ⌊x⌋ < 1 / 2 then ⌊x⌋
  else if 1 / 2 < x - ⌊x⌋ then ⌊x⌋ + 1
  else if ⌊x⌋ % 2 = 0 then ⌊x⌋ else ⌊x⌋ + 1

theorem floor_le_nearestEven (x : ℚ) : ⌊x⌋ ≤ nearestEven x := by
  unfold nearestEven
  split_ifs <;> omega

theorem nearestEven_le_floor_succ (x : ℚ) : nearestEven x ≤ ⌊x⌋ + 1 := by
  unfold nearestEven
  split_ifs <;> omega

@[simp] theorem nearestEven_intCast (n : ℤ) : nearestEven n = n := by
  unfold nearestEven
  rw [Int.floor_intCast, sub_self, if_pos (by norm_num)]

theorem nearestEven_mono {x y : ℚ} (h : x ≤ y) : nearestEven x ≤ nearestEven y := by
  rcases (Int.floor_le_floor h).lt_or_eq with hlt | heq
  · have hx := nearestEven_le_floor_succ x
    have hy := floor_le_nearestEven y
    omega
  · -- in one unit interval the fractions decide
    have hfrac : x - ⌊x⌋ ≤ y - ⌊y⌋ := by
      rw [heq]
      exact sub_le_sub_right h _
    unfold nearestEven
    rw [heq] at hfrac ⊢
    split_ifs with h1 h2 h3 h4 h5 h6 h7 h8 h9 <;> first | omega | linarith

theorem nearestEven_neg (x : ℚ) : nearestEven (-x) = -nearestEven x := by
  rcases eq_or_ne x ⌊x⌋ with hint | hne
  · rw [hint, ← Int.cast_neg, nearestEven_intCast, nearestEven_intCast]
  · -- off the integers the fraction of `-x` is the complement of that of `x`
    have hlt : (⌊x⌋ : ℚ) < x := lt_of_le_of_ne (Int.floor_le x) (Ne.symm hne)
    have hsucc := Int.lt_floor_add_one x
    have hfloor : ⌊-x⌋ = -⌊x⌋ - 1 := by
      rw [Int.floor_eq_iff]
      push_cast
      constructor <;> linarith
    have hfrac : -x - (⌊-x⌋ : ℚ) = 1 - (x - ⌊x⌋) := by
      rw [hfloor]
      push_cast
      ring
    unfold nearestEven
    rw [hfrac, hfloor]
    split_ifs <;> first | omega | (exfalso; linarith)

/-! ## Formats -/

/-- The bits of a mantissa and the exponent of the least positive number. -/
structure BinaryFormat where
  prec : ℕ
  emin : ℤ

namespace BinaryFormat

variable (F : BinaryFormat)

/-- The exponent of the last place of `x`. -/
def ulpExp (x : ℚ) : ℤ := max (Int.log 2 |x| - (F.prec - 1)) F.emin

/-- Round to nearest, ties to even. -/
def round (x : ℚ) : ℚ := nearestEven (x / 2 ^ F.ulpExp x) * 2 ^ F.ulpExp x

/-- A number of the format. -/
def Representable (x : ℚ) : Prop :=
  ∃ m e : ℤ, |m| < 2 ^ F.prec ∧ F.emin ≤ e ∧ x = m * 2 ^ e

theorem two_zpow_pos (e : ℤ) : (0 : ℚ) < 2 ^ e := zpow_pos (by norm_num) e

/-- An integer times a power of two is an integer on every finer grid. -/
theorem grid (m : ℤ) {e f : ℤ} (h : f ≤ e) : ∃ n : ℤ, (m : ℚ) * 2 ^ e / 2 ^ f = n := by
  obtain ⟨k, hk⟩ := Int.eq_ofNat_of_zero_le (sub_nonneg.mpr h)
  refine ⟨m * 2 ^ k, ?_⟩
  have he : e = f + k := by omega
  rw [he, zpow_add₀ (by norm_num), mul_div_assoc, mul_div_cancel_left₀ _ (two_zpow_pos f).ne',
    zpow_natCast]
  push_cast
  ring

@[simp] theorem ulpExp_neg (x : ℚ) : F.ulpExp (-x) = F.ulpExp x := by
  unfold ulpExp
  rw [abs_neg]

@[simp] theorem round_neg (x : ℚ) : F.round (-x) = -F.round x := by
  unfold round
  rw [ulpExp_neg, neg_div, nearestEven_neg]
  push_cast
  ring

@[simp] theorem round_zero : F.round 0 = 0 := by
  unfold round
  rw [zero_div, ← Int.cast_zero, nearestEven_intCast]
  simp

/-- A number on its own grid is left alone. -/
theorem round_of_grid {x : ℚ} {n : ℤ} (h : x / 2 ^ F.ulpExp x = n) : F.round x = x := by
  unfold round
  rw [h, nearestEven_intCast, ← h, div_mul_cancel₀ _ (two_zpow_pos _).ne']

theorem round_of_representable {x : ℚ} (h : F.Representable x) : F.round x = x := by
  obtain ⟨m, e, hm, he, hx⟩ := h
  rcases eq_or_ne m 0 with rfl | hne
  · rw [hx, Int.cast_zero, zero_mul, round_zero]
  · have habs : |x| < (2 : ℚ) ^ (F.prec + e) := by
      rw [hx, abs_mul, abs_of_pos (two_zpow_pos e), zpow_add₀ (by norm_num), zpow_natCast]
      refine mul_lt_mul_of_pos_right ?_ (two_zpow_pos e)
      exact_mod_cast hm
    have hpos : 0 < |x| := by
      rw [abs_pos, hx]
      exact mul_ne_zero (by exact_mod_cast hne) (two_zpow_pos e).ne'
    have hlog : Int.log 2 |x| < F.prec + e := (Int.lt_zpow_iff_log_lt (by decide) hpos).mp habs
    have hulp : F.ulpExp x ≤ e := by
      unfold ulpExp
      omega
    obtain ⟨n, hn⟩ := grid m hulp
    exact F.round_of_grid (by rw [← hn, ← hx])

theorem ulpExp_mono {x y : ℚ} (hx : 0 < x) (h : x ≤ y) : F.ulpExp x ≤ F.ulpExp y := by
  unfold ulpExp
  rw [abs_of_pos hx, abs_of_pos (hx.trans_le h)]
  exact max_le_max_right _ (sub_le_sub_right (Int.log_mono_right hx h) _)

/-- On the grid of one binade. -/
theorem round_mono_of_ulpExp {x y : ℚ} (h : x ≤ y) (hu : F.ulpExp x = F.ulpExp y) :
    F.round x ≤ F.round y := by
  unfold round
  rw [hu]
  refine mul_le_mul_of_nonneg_right ?_ (two_zpow_pos _).le
  exact_mod_cast nearestEven_mono (div_le_div_of_nonneg_right h (two_zpow_pos _).le)

/-- Across binades: the power of two in between is on both grids. -/
theorem round_mono_of_lt {x y : ℚ} (hprec : 0 < F.prec) (hx : 0 < x) (hy : 0 < y)
    (hu : F.ulpExp x < F.ulpExp y) : F.round x ≤ F.round y := by
  have hye : F.ulpExp y = Int.log 2 y - (F.prec - 1) := by
    unfold ulpExp at hu ⊢
    rw [abs_of_pos hy] at hu ⊢
    omega
  have hlog : Int.log 2 x < Int.log 2 y := by
    unfold ulpExp at hu
    rw [abs_of_pos hx, abs_of_pos hy] at hu
    omega
  have hbelow : x ≤ 2 ^ Int.log 2 y :=
    ((Int.lt_zpow_iff_log_lt (by decide) hx).mpr hlog).le
  have habove : (2 : ℚ) ^ Int.log 2 y ≤ y := Int.zpow_log_le_self (by decide) hy
  have hgrid : ∀ f, f ≤ Int.log 2 y → ∃ n : ℤ, (2 : ℚ) ^ Int.log 2 y / 2 ^ f = n := by
    intro f hf
    obtain ⟨n, hn⟩ := grid 1 hf
    exact ⟨n, by rw [← hn, Int.cast_one, one_mul]⟩
  have hfx : F.ulpExp x ≤ Int.log 2 y := by omega
  have hfy : F.ulpExp y ≤ Int.log 2 y := by omega
  obtain ⟨n, hn⟩ := hgrid _ hfx
  obtain ⟨k, hk⟩ := hgrid _ hfy
  calc F.round x ≤ n * 2 ^ F.ulpExp x := by
        refine mul_le_mul_of_nonneg_right ?_ (two_zpow_pos _).le
        have hle : x / 2 ^ F.ulpExp x ≤ n := by
          rw [← hn]
          exact div_le_div_of_nonneg_right hbelow (two_zpow_pos _).le
        exact_mod_cast (nearestEven_mono hle).trans_eq (nearestEven_intCast n)
    _ = 2 ^ Int.log 2 y := by rw [← hn, div_mul_cancel₀ _ (two_zpow_pos _).ne']
    _ = k * 2 ^ F.ulpExp y := by rw [← hk, div_mul_cancel₀ _ (two_zpow_pos _).ne']
    _ ≤ F.round y := by
        refine mul_le_mul_of_nonneg_right ?_ (two_zpow_pos _).le
        have hle : (k : ℚ) ≤ y / 2 ^ F.ulpExp y := by
          rw [← hk]
          exact div_le_div_of_nonneg_right habove (two_zpow_pos _).le
        exact_mod_cast (nearestEven_intCast k).symm.trans_le (nearestEven_mono hle)

theorem round_nonneg {x : ℚ} (h : 0 ≤ x) : 0 ≤ F.round x := by
  refine mul_nonneg ?_ (two_zpow_pos _).le
  have hle := nearestEven_mono (div_nonneg h (two_zpow_pos (F.ulpExp x)).le)
  rw [← Int.cast_zero, nearestEven_intCast] at hle
  exact_mod_cast hle

theorem round_mono_of_pos {x y : ℚ} (hprec : 0 < F.prec) (hx : 0 < x) (h : x ≤ y) :
    F.round x ≤ F.round y := by
  rcases (F.ulpExp_mono hx h).lt_or_eq with hlt | heq
  · exact F.round_mono_of_lt hprec hx (hx.trans_le h) hlt
  · exact F.round_mono_of_ulpExp h heq

/-- Rounding is monotone. -/
theorem round_mono {x y : ℚ} (hprec : 0 < F.prec) (h : x ≤ y) : F.round x ≤ F.round y := by
  rcases lt_or_ge 0 x with hx | hx
  · exact F.round_mono_of_pos hprec hx h
  · rcases lt_or_ge y 0 with hy | hy
    · -- both negative: rounding is odd
      have hneg := F.round_mono_of_pos hprec (neg_pos.mpr hy) (neg_le_neg h)
      rw [round_neg, round_neg] at hneg
      exact neg_le_neg_iff.mp hneg
    · have hneg := F.round_nonneg (neg_nonneg.mpr hx)
      rw [round_neg] at hneg
      exact (neg_nonneg.mp hneg).trans (F.round_nonneg hy)

variable {F}

theorem round_le {x c : ℚ} (hprec : 0 < F.prec) (hc : F.Representable c) (h : x ≤ c) :
    F.round x ≤ c :=
  (F.round_mono hprec h).trans_eq (F.round_of_representable hc)

theorem le_round {x c : ℚ} (hprec : 0 < F.prec) (hc : F.Representable c) (h : c ≤ x) :
    c ≤ F.round x :=
  (F.round_of_representable hc).symm.trans_le (F.round_mono hprec h)

/-- Integers of at most the precision are representable. -/
theorem representable_intCast {n : ℤ} (hn : |n| < 2 ^ F.prec) (hemin : F.emin ≤ 0) :
    F.Representable n :=
  ⟨n, 0, hn, hemin, by rw [zpow_zero, mul_one]⟩

end BinaryFormat

/-- IEEE 754 single precision. -/
def binary32 : BinaryFormat := ⟨24, -149⟩

end OtIpr.Lib
