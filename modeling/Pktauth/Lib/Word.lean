import Mathlib.Logic.Function.Basic

set_option autoImplicit false

namespace Word

-- A word equal to its own right shift has no highest set bit.
theorem shift_fixed_zero (word shift : UInt64) (positive : 0 < shift.toNat) (bound : shift.toNat < 64)
    (fixed : word = word >>> shift) : word = 0 := by
  have value := congrArg UInt64.toNat fixed
  rw [UInt64.toNat_shiftRight, Nat.mod_eq_of_lt bound, Nat.shiftRight_eq_div_pow] at value
  have smaller : 1 < 2 ^ shift.toNat := Nat.one_lt_two_pow (by omega)
  apply UInt64.toNat_inj.mp
  by_contra nonzero
  have shrinks := Nat.div_lt_self (Nat.pos_of_ne_zero nonzero) smaller
  omega

theorem xor_shift_injective (shift : UInt64) (positive : 0 < shift.toNat) (bound : shift.toNat < 64) :
    Function.Injective (fun word : UInt64 => word ^^^ (word >>> shift)) := by
  intro a b same
  apply UInt64.xor_eq_zero_iff.mp
  apply shift_fixed_zero (a ^^^ b) shift positive bound
  apply UInt64.xor_eq_zero_iff.mp
  calc
    (a ^^^ b) ^^^ ((a ^^^ b) >>> shift) = (a ^^^ (a >>> shift)) ^^^ (b ^^^ (b >>> shift)) := by
      rw [UInt64.shiftRight_xor, UInt64.xor_assoc, UInt64.xor_assoc, ← UInt64.xor_assoc b, UInt64.xor_comm b,
        UInt64.xor_assoc (a >>> shift)]
    _ = 0 := UInt64.xor_eq_zero_iff.mpr same

theorem mul_injective (factor inverse : UInt64) (unit : factor * inverse = 1) :
    Function.Injective (fun word : UInt64 => word * factor) := by
  intro a b same
  have scaled := congrArg (fun word => word * inverse) same
  simpa only [UInt64.mul_assoc, unit, UInt64.mul_one] using scaled

theorem index_injective (factor inverse : UInt64) (unit : factor * inverse = 1) (a b : Nat) (smallA : a < UInt64.size)
    (smallB : b < UInt64.size) (same : UInt64.ofNat a * factor = UInt64.ofNat b * factor) : a = b := by
  have values := congrArg UInt64.toNat (mul_injective factor inverse unit same)
  rwa [UInt64.toNat_ofNat_of_lt' smallA, UInt64.toNat_ofNat_of_lt' smallB] at values

end Word
