import Mathlib.Algebra.Ring.Nat
import Pktauth.Rust.Slice

set_option autoImplicit false

namespace Rust

-- What byte-handling code does with a byte: it writes literals, it branches on
-- the numeric value, and it compares through xor. Code written against these
-- three runs on u8, and unchanged on bytes that carry more than their value.
class ByteLike (β : Type) where
  ofByte : UInt8 → β
  value : β → UInt8
  xor : β → β → UInt8

class LawfulByteLike (β : Type) [ByteLike β] : Prop where
  value_of_byte : ∀ byte : UInt8, ByteLike.value (ByteLike.ofByte byte : β) = byte
  xor_eq_zero : ∀ a b : β, ByteLike.xor a b = 0 ↔ a = b

instance : ByteLike UInt8 where
  ofByte byte := byte
  value byte := byte
  xor a b := a ^^^ b

@[simp] theorem u8_of_byte (byte : UInt8) : (ByteLike.ofByte byte : UInt8) = byte := rfl
@[simp] theorem u8_value (byte : UInt8) : ByteLike.value byte = byte := rfl

instance : LawfulByteLike UInt8 where
  value_of_byte _ := rfl
  xor_eq_zero _ _ := UInt8.xor_eq_zero_iff

@[simp] theorem map_u8_of_byte (bytes : List UInt8) : bytes.map (ByteLike.ofByte : UInt8 → UInt8) = bytes := List.map_id bytes
@[simp] theorem map_u8_value (bytes : List UInt8) : bytes.map (ByteLike.value : UInt8 → UInt8) = bytes := List.map_id bytes

theorem map_value_of_byte {β : Type} [ByteLike β] [LawfulByteLike β] (bytes : List UInt8) :
    (bytes.map (ByteLike.ofByte : UInt8 → β)).map ByteLike.value = bytes := by
  simp [List.map_map, Function.comp_def, LawfulByteLike.value_of_byte]

theorem of_byte_injective {β : Type} [ByteLike β] [LawfulByteLike β] :
    Function.Injective (ByteLike.ofByte : UInt8 → β) := by
  intro a b same
  simpa only [LawfulByteLike.value_of_byte] using congrArg (ByteLike.value (β := β)) same

def u16ToBeBytes (word : UInt16) : List UInt8 := [(word >>> 8).toUInt8, word.toUInt8]

def u16FromBeBytes (high low : UInt8) : UInt16 := (high.toUInt16 <<< 8) ||| low.toUInt16

theorem u16_from_be_bytes_to_nat (high low : UInt8) :
    (u16FromBeBytes high low).toNat = high.toNat * 256 + low.toNat := by
  have lowBound : low.toNat < 2 ^ 8 := low.toNat_lt
  have highBound : high.toNat < 2 ^ 8 := high.toNat_lt
  have shifted : (high.toUInt16 <<< 8).toNat = 2 ^ 8 * high.toNat := by
    simp only [UInt16.toNat_shiftLeft, UInt8.toNat_toUInt16, UInt16.reduceToNat, Nat.shiftLeft_eq, Nat.reduceMod, Nat.reducePow]
    omega
  rw [u16FromBeBytes, UInt16.toNat_or, shifted, UInt8.toNat_toUInt16, ← Nat.two_pow_add_eq_or_of_lt lowBound]
  omega

theorem u16_upper_byte (word : UInt16) : ((word >>> 8).toUInt8).toNat = word.toNat / 256 := by
  have bound : word.toNat < 2 ^ 16 := word.toNat_lt
  simp only [UInt16.toNat_toUInt8, UInt16.toNat_shiftRight, UInt16.reduceToNat, Nat.shiftRight_eq_div_pow, Nat.reduceMod,
    Nat.reducePow]
  omega

theorem u16_be_bytes_iff (high low : UInt8) (word : UInt16) :
    u16FromBeBytes high low = word ↔ [high, low] = u16ToBeBytes word := by
  have lowBound : low.toNat < 2 ^ 8 := low.toNat_lt
  have highBound : high.toNat < 2 ^ 8 := high.toNat_lt
  have wordBound : word.toNat < 2 ^ 16 := word.toNat_lt
  rw [u16ToBeBytes, List.cons.injEq, List.cons.injEq, ← UInt16.toNat_inj, ← UInt8.toNat_inj, ← UInt8.toNat_inj,
    u16_from_be_bytes_to_nat, u16_upper_byte, UInt16.toNat_toUInt8]
  simp only [and_true]
  omega

inductive Endian where
  | little
  | big
deriving DecidableEq, Repr

def u64ToLeBytes (word : UInt64) : List UInt8 :=
  [word.toUInt8, (word >>> 8).toUInt8, (word >>> 16).toUInt8, (word >>> 24).toUInt8, (word >>> 32).toUInt8,
    (word >>> 40).toUInt8, (word >>> 48).toUInt8, (word >>> 56).toUInt8]

def u64ToNeBytes (endian : Endian) (word : UInt64) : Sized UInt8 8 :=
  match endian with
  | .little => ⟨u64ToLeBytes word, rfl⟩
  | .big => ⟨(u64ToLeBytes word).reverse, rfl⟩

def u64ToBeBytes (word : UInt64) : Sized UInt8 8 := ⟨(u64ToLeBytes word).reverse, rfl⟩

def leValue : List UInt8 → Nat
  | [] => 0
  | byte :: bytes => byte.toNat + 256 * leValue bytes

theorem le_value_u64 (word : UInt64) : leValue (u64ToLeBytes word) = word.toNat := by
  have bound : word.toNat < 18446744073709551616 := word.toNat_lt
  simp only [u64ToLeBytes, leValue, UInt64.toNat_toUInt8, UInt64.toNat_shiftRight, UInt64.reduceToNat, Nat.reduceMod,
    Nat.shiftRight_eq_div_pow, Nat.reducePow]
  omega

theorem le_value_drop (bytes : List UInt8) (count : Nat) : leValue (bytes.drop count) = leValue bytes / 256 ^ count := by
  induction count generalizing bytes with
  | zero => simp
  | succ count ih =>
      cases bytes with
      | nil => simp [leValue]
      | cons byte bytes =>
          have small : byte.toNat < 256 := byte.toNat_lt
          have shifted : leValue (byte :: bytes) / 256 = leValue bytes := by
            rw [leValue]
            omega
          rw [List.drop_succ_cons, ih, Nat.pow_succ', ← Nat.div_div_eq_div_mul, shifted]

theorem le_value_injective (a b : List UInt8) (width : a.length = b.length) (same : leValue a = leValue b) : a = b := by
  induction a generalizing b with
  | nil => exact (List.length_eq_zero_iff.mp width.symm).symm
  | cons byte bytes ih =>
      cases b with
      | nil => simp at width
      | cons other others =>
          have small : byte.toNat < 256 := byte.toNat_lt
          have smallOther : other.toNat < 256 := other.toNat_lt
          simp only [leValue] at same
          rw [ih others (by simpa using width) (by omega), UInt8.toNat_inj.mp (show byte.toNat = other.toNat by omega)]

theorem u64_le_bytes_injective (a b : UInt64) (same : u64ToLeBytes a = u64ToLeBytes b) : a = b := by
  apply UInt64.toNat_inj.mp
  rw [← le_value_u64 a, ← le_value_u64 b, same]

theorem u64_ne_bytes_injective (endian : Endian) (a b : UInt64)
    (same : (u64ToNeBytes endian a).val = (u64ToNeBytes endian b).val) : a = b := by
  apply u64_le_bytes_injective
  cases endian with
  | little => exact same
  | big => exact List.reverse_injective same

theorem or_fold_eq_zero {α : Type} (summand : α → UInt8) (list : List α) (start : UInt8) :
    list.foldl (fun acc item => acc ||| summand item) start = 0 ↔ start = 0 ∧ ∀ item ∈ list, summand item = 0 := by
  induction list generalizing start with
  | nil => simp
  | cons head tail ih =>
      rw [List.foldl_cons, ih, UInt8.or_eq_zero_iff]
      simp [and_assoc]

end Rust
