import Mathlib.Data.Int.Log
import Mathlib.Data.Rat.Floor
import Mathlib.Tactic.Linarith
import Mathlib.Tactic.NormNum
import Mathlib.Tactic.Positivity

set_option autoImplicit false

namespace Rust

-- A finite f64 that is not negative, as the rational number it stands for.
-- Conversions and operations give the exact result rounded to 53 significant
-- bits; only numbers far inside the range of the exponent are rounded here.
def nearest (q : ℚ) : ℤ :=
  if q - ⌊q⌋ < 1 / 2 ∨ q - ⌊q⌋ = 1 / 2 ∧ ⌊q⌋ % 2 = 0 then ⌊q⌋ else ⌊q⌋ + 1

def ulp (q : ℚ) : ℚ := 2 ^ (Int.log 2 q - 52)

def roundF64 (q : ℚ) : ℚ := nearest (q / ulp q) * ulp q

-- value as f64
def asF64 (value : UInt64) : ℚ := roundF64 value.toNat

def f64Div (a b : ℚ) : ℚ := roundF64 (a / b)

theorem nearest_bounds (q : ℚ) : q - 1 / 2 ≤ nearest q ∧ (nearest q : ℚ) ≤ q + 1 / 2 := by
  have low := Int.floor_le q
  have high := Int.lt_floor_add_one q
  unfold nearest
  split
  · rename_i down
    have below : q - ⌊q⌋ ≤ 1 / 2 := by
      rcases down with below | tie
      · exact below.le
      · exact tie.1.le
    constructor <;> linarith
  · rename_i up
    rw [not_or, not_lt] at up
    push_cast
    constructor <;> linarith [up.1]

theorem nearest_int (value : ℤ) : nearest value = value := by
  simp [nearest]

theorem ulp_pos (q : ℚ) : 0 < ulp q := zpow_pos (by norm_num) _

theorem ulp_le (q : ℚ) (positive : 0 < q) : ulp q ≤ q / 2 ^ 52 := by
  have leading : (2 : ℚ) ^ Int.log 2 q ≤ q := Int.zpow_log_le_self (by norm_num) positive
  have shift : ulp q = 2 ^ Int.log 2 q / 2 ^ 52 := by
    rw [ulp, zpow_sub₀ (by norm_num)]
    norm_num
  rw [shift]
  exact div_le_div_of_nonneg_right leading (by norm_num)

-- Rounding moves a number by half a unit in its last place at most.
theorem round_bounds (q : ℚ) (positive : 0 < q) :
    q * (1 - 1 / 2 ^ 53) ≤ roundF64 q ∧ roundF64 q ≤ q * (1 + 1 / 2 ^ 53) := by
  have unit := ulp_pos q
  have small := ulp_le q positive
  have whole : q / ulp q * ulp q = q := div_mul_cancel₀ q unit.ne'
  obtain ⟨low, high⟩ := nearest_bounds (q / ulp q)
  have lowScaled := mul_le_mul_of_nonneg_right low unit.le
  have highScaled := mul_le_mul_of_nonneg_right high unit.le
  rw [sub_mul, whole] at lowScaled
  rw [add_mul, whole] at highScaled
  unfold roundF64
  constructor
  · linarith
  · linarith

-- Between 2^63 and 2^64 the last place is worth 2048.
theorem ulp_top (q : ℚ) (low : 2 ^ 63 ≤ q) (high : q < 2 ^ 64) : ulp q = 2048 := by
  have positive : 0 < q := lt_of_lt_of_le (by norm_num) low
  have atLeast : (63 : ℤ) ≤ Int.log 2 q := (Int.zpow_le_iff_le_log (by norm_num) positive).mp (by exact_mod_cast low)
  have below : Int.log 2 q < 64 := (Int.lt_zpow_iff_log_lt (by norm_num) positive).mp (by exact_mod_cast high)
  have log : Int.log 2 q = 63 := by omega
  rw [ulp, log]
  norm_num

theorem round_top_int (value : ℤ) (low : 2 ^ 52 ≤ value) (high : value < 2 ^ 53) :
    roundF64 (value * 2048) = value * 2048 := by
  have lowQ : (2 : ℚ) ^ 52 ≤ value := by exact_mod_cast low
  have highQ : (value : ℚ) < 2 ^ 53 := by exact_mod_cast high
  rw [roundF64, ulp_top (value * 2048) (by linarith) (by linarith), mul_div_cancel_right₀ _ (by norm_num), nearest_int]

theorem round_one : roundF64 1 = 1 := by
  have log : Int.log 2 (1 : ℚ) = 0 := Int.log_one_right 2
  have unit : ulp 1 = 1 / 2 ^ 52 := by
    rw [ulp, log]
    norm_num
  have whole : (1 : ℚ) / (1 / 2 ^ 52) = ((2 ^ 52 : ℤ) : ℚ) := by norm_num
  rw [roundF64, unit, whole, nearest_int]
  norm_num

section Quotient

variable (a b : UInt64)

theorem as_f64_zero : asF64 0 = 0 := by
  simp [asF64, roundF64, nearest]

theorem f64_div_zero (divisor : ℚ) : f64Div 0 divisor = 0 := by
  simp [f64Div, roundF64, nearest]

theorem as_f64_one : asF64 1 = 1 := round_one

theorem quotient_small (nonzero : a ≠ 0) (large : 2 ≤ b.toNat) : f64Div (asF64 a) (asF64 b) ≤ 2 ^ 64 - 1 := by
  have positive : (0 : ℚ) < a.toNat := by
    exact_mod_cast Nat.pos_of_ne_zero (fun zero => nonzero (UInt64.toNat_inj.mp zero))
  have bound : (a.toNat : ℚ) < 2 ^ 64 := by exact_mod_cast a.toNat_lt
  have two : (2 : ℚ) ≤ b.toNat := by exact_mod_cast large
  obtain ⟨low, high⟩ := round_bounds a.toNat positive
  have divisor := (round_bounds b.toNat (by linarith)).1
  have least : (19 : ℚ) / 10 ≤ asF64 b := by
    refine le_trans ?_ divisor
    linarith
  have most : asF64 a ≤ 2 ^ 64 * (1 + 1 / 2 ^ 53) := by
    refine le_trans high ?_
    linarith
  have nonnegative : 0 < asF64 a := lt_of_lt_of_le (by linarith) low
  have quotient : asF64 a / asF64 b ≤ 2 ^ 64 * (3 / 4) := by
    rw [div_le_iff₀ (by linarith)]
    linarith
  have rounded := (round_bounds (asF64 a / asF64 b) (div_pos nonnegative (by linarith))).2
  refine le_trans rounded ?_
  linarith

-- A divisor of 1 leaves what the dividend is rounded to.
-- A divisor of 1 leaves what the dividend is rounded to, which reaches 2^64
-- half a unit before it.
theorem quotient_early (nonzero : a ≠ 0) (early : a.toNat < 2 ^ 64 - 1024) : f64Div (asF64 a) (asF64 1) ≤ 2 ^ 64 - 1 := by
  have positive : (0 : ℚ) < a.toNat := by
    exact_mod_cast Nat.pos_of_ne_zero (fun zero => nonzero (UInt64.toNat_inj.mp zero))
  rw [as_f64_one, f64Div, div_one]
  by_cases high : 2 ^ 63 ≤ a.toNat
  · have low : (2 : ℚ) ^ 63 ≤ a.toNat := by exact_mod_cast high
    have bound : (a.toNat : ℚ) < 2 ^ 64 - 1024 := by
      have cast : ((a.toNat + 1024 : ℕ) : ℚ) < ((2 ^ 64 : ℕ) : ℚ) := by exact_mod_cast (by omega : a.toNat + 1024 < 2 ^ 64)
      push_cast at cast
      linarith
    obtain ⟨least, most⟩ := nearest_bounds ((a.toNat : ℚ) / 2048)
    have below : nearest ((a.toNat : ℚ) / 2048) < 2 ^ 53 := by
      have cast : (nearest ((a.toNat : ℚ) / 2048) : ℚ) < ((2 ^ 53 : ℤ) : ℚ) := by
        push_cast
        linarith
      exact_mod_cast cast
    have above : 2 ^ 52 ≤ nearest ((a.toNat : ℚ) / 2048) := by
      have cast : (((2 ^ 52 : ℤ) - 1 : ℤ) : ℚ) < nearest ((a.toNat : ℚ) / 2048) := by
        push_cast
        linarith
      have integral : (2 ^ 52 : ℤ) - 1 < nearest ((a.toNat : ℚ) / 2048) := by exact_mod_cast cast
      omega
    have rounded : asF64 a = nearest ((a.toNat : ℚ) / 2048) * 2048 := by
      rw [asF64, roundF64, ulp_top _ low (by linarith)]
    have last : (nearest ((a.toNat : ℚ) / 2048) : ℚ) ≤ ((2 ^ 53 - 1 : ℤ) : ℚ) := by exact_mod_cast Int.le_sub_one_of_lt below
    rw [rounded, round_top_int _ above below]
    push_cast at last
    linarith
  · have low : (a.toNat : ℚ) < 2 ^ 63 := by exact_mod_cast Nat.lt_of_not_le high
    obtain ⟨least, most⟩ := round_bounds a.toNat positive
    have again := (round_bounds (asF64 a) (lt_of_lt_of_le (by linarith) least)).2
    have once : asF64 a ≤ 2 ^ 63 * (1 + 1 / 2 ^ 53) := by
      refine le_trans most ?_
      linarith
    refine le_trans again ?_
    linarith

theorem late_quotient (late : 2 ^ 64 - 1024 ≤ a.toNat) : f64Div (asF64 a) (asF64 1) = 2 ^ 64 := by
  have bound : (a.toNat : ℚ) < 2 ^ 64 := by exact_mod_cast a.toNat_lt
  have low : (2 : ℚ) ^ 64 - 1024 ≤ a.toNat := by
    have cast : ((2 ^ 64 : ℕ) : ℚ) ≤ ((a.toNat + 1024 : ℕ) : ℚ) := by exact_mod_cast (by omega : 2 ^ 64 ≤ a.toNat + 1024)
    push_cast at cast
    linarith
  have floor : ⌊(a.toNat : ℚ) / 2048⌋ = 2 ^ 53 - 1 := by
    rw [Int.floor_eq_iff]
    push_cast
    constructor <;> linarith
  have up : nearest ((a.toNat : ℚ) / 2048) = 2 ^ 53 := by
    rw [nearest, floor, if_neg]
    · norm_num
    · push_cast
      rw [not_or, not_lt]
      refine ⟨by linarith, fun tie => ?_⟩
      exact absurd tie.2 (by decide)
  have rounded : asF64 a = 2 ^ 64 := by
    rw [asF64, roundF64, ulp_top _ (by linarith) bound, up]
    norm_num
  have log : Int.log 2 ((2 : ℚ) ^ 64) = 64 := by
    have power := Int.log_zpow (R := ℚ) (b := 2) (by norm_num) 64
    exact_mod_cast power
  have unit : ulp (2 ^ 64) = 4096 := by
    rw [ulp, log]
    norm_num
  have whole : (2 : ℚ) ^ 64 / 4096 = ((2 ^ 52 : ℤ) : ℚ) := by norm_num
  rw [as_f64_one, f64Div, div_one, rounded, roundF64, unit, whole, nearest_int]
  norm_num

theorem quotient_bound (positive : b ≠ 0) (early : ¬ (b = 1 ∧ 2 ^ 64 - 1024 ≤ a.toNat)) :
    f64Div (asF64 a) (asF64 b) ≤ 2 ^ 64 - 1 := by
  by_cases zero : a = 0
  · rw [zero, as_f64_zero, f64_div_zero]
    norm_num
  · by_cases one : b = 1
    · rw [one]
      exact quotient_early a zero (Nat.lt_of_not_le (fun late => early ⟨one, late⟩))
    · have large : 2 ≤ b.toNat := by
        have notZero : b.toNat ≠ 0 := fun same => positive (UInt64.toNat_inj.mp same)
        have notOne : b.toNat ≠ 1 := fun same => one (UInt64.toNat_inj.mp same)
        omega
      exact quotient_small a b zero large

end Quotient

end Rust
