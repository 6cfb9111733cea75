import Mathlib.Data.List.Basic
import Mathlib.Data.List.Nodup

set_option autoImplicit false

namespace Rust

-- What a checked operation does instead of returning. A panic is a value
-- here, so that its absence can be stated and proved.
inductive Panic where
  | expect (message : String)
  | assertion (message : String)
  | sliceRange
  | copyLength
  | chunkSize
  | overflow
  | resumed
deriving DecidableEq, Repr

abbrev Exec (α : Type) := Except Panic α

@[simp] theorem exec_bind_ok {α β : Type} (value : α) (next : α → Exec β) :
    ((Except.ok value : Exec α) >>= next) = next value := rfl

@[simp] theorem exec_bind_error {α β : Type} (panic : Panic) (next : α → Exec β) :
    ((Except.error panic : Exec α) >>= next) = Except.error panic := rfl

@[simp] theorem exec_pure {α : Type} (value : α) : (pure value : Exec α) = Except.ok value := rfl

def expect {α : Type} (message : String) : Option α → Exec α
  | some value => .ok value
  | none => .error (.expect message)

@[simp] theorem expect_some {α : Type} (message : String) (value : α) : expect message (some value) = .ok value := rfl

def assert (condition : Prop) [Decidable condition] (message : String) : Exec Unit :=
  if condition then .ok () else .error (.assertion message)

theorem assert_true (condition : Prop) [Decidable condition] (message : String) (holds : condition) :
    assert condition message = .ok () := by
  simp [assert, holds]

abbrev Sized (α : Type) (n : Nat) := { list : List α // list.length = n }

@[simp] theorem sized_length {α : Type} {n : Nat} (array : Sized α n) : array.val.length = n := array.2

theorem sized_ext {α : Type} {n : Nat} (a b : Sized α n) (same : a.val = b.val) : a = b := Subtype.ext same

def filled {α : Type} (n : Nat) (value : α) : Sized α n := ⟨List.replicate n value, List.length_replicate⟩

-- slice.get(start..stop)
def sliceGet {α : Type} (slice : List α) (start stop : Nat) : Option (List α) :=
  if start ≤ stop ∧ stop ≤ slice.length then some ((slice.drop start).take (stop - start)) else none

theorem slice_get_some {α : Type} (slice : List α) (start stop : Nat) (order : start ≤ stop) (bound : stop ≤ slice.length) :
    sliceGet slice start stop = some ((slice.drop start).take (stop - start)) := by
  simp [sliceGet, order, bound]

theorem slice_get_none {α : Type} (slice : List α) (start stop : Nat) (bound : slice.length < stop) :
    sliceGet slice start stop = none := by
  have outside : ¬ (start ≤ stop ∧ stop ≤ slice.length) := by omega
  simp only [sliceGet, if_neg outside]

theorem slice_get_append {α : Type} (before field after : List α) :
    sliceGet (before ++ (field ++ after)) before.length (before.length + field.length) = some field := by
  rw [slice_get_some _ _ _ (Nat.le_add_right _ _) (by simp only [List.length_append]; omega)]
  simp

theorem slice_get_subset {α : Type} (slice field : List α) (start stop : Nat) (found : sliceGet slice start stop = some field) :
    field ⊆ slice := by
  by_cases range : start ≤ stop ∧ stop ≤ slice.length
  · rw [sliceGet, if_pos range, Option.some.injEq] at found
    subst found
    exact fun value member => List.mem_of_mem_drop (List.mem_of_mem_take member)
  · rw [sliceGet, if_neg range] at found
    cases found

-- &slice[..stop], which panics where get would answer none.
def sliceFront {α : Type} (slice : List α) (stop : Nat) : Exec (List α) :=
  match sliceGet slice 0 stop with
  | none => .error .sliceRange
  | some front => .ok front

-- array[start..stop].copy_from_slice(source)
def copyFromSlice {α : Type} {n : Nat} (array : Sized α n) (start stop : Nat) (source : List α) : Exec (Sized α n) :=
  if range : start ≤ stop ∧ stop ≤ n then
    if same : source.length = stop - start then
      .ok ⟨array.val.take start ++ (source ++ array.val.drop stop), by
        simp only [List.length_append, List.length_take, List.length_drop, sized_length]
        omega⟩
    else .error .copyLength
  else .error .sliceRange

theorem copy_from_slice_next {α : Type} {n : Nat} (array : Sized α n) (written source rest : List α)
    (layout : array.val = written ++ rest) (fits : source.length ≤ rest.length) :
    ∃ result : Sized α n,
      copyFromSlice array written.length (written.length + source.length) source = .ok result ∧
        result.val = (written ++ source) ++ rest.drop source.length := by
  have total : written.length + rest.length = n := by
    rw [← List.length_append, ← layout, sized_length]
  have range : written.length ≤ written.length + source.length ∧ written.length + source.length ≤ n := by omega
  have same : source.length = written.length + source.length - written.length := by omega
  have length : ((written ++ source) ++ rest.drop source.length).length = n := by
    simp only [List.length_append, List.length_drop]
    omega
  refine ⟨⟨_, length⟩, ?_, rfl⟩
  rw [copyFromSlice, dif_pos range, dif_pos same]
  congr 2
  simp [layout, List.append_assoc]

theorem copy_from_slice_whole {α : Type} {n : Nat} (array : Sized α n) (source : List α) (same : source.length = n) :
    copyFromSlice array 0 n source = .ok ⟨source, same⟩ := by
  obtain ⟨result, copied, value⟩ := copy_from_slice_next array [] source array.val rfl (by simp [same])
  rw [List.length_nil, Nat.zero_add, same] at copied
  rw [List.nil_append, List.drop_of_length_le (by simp [same]), List.append_nil] at value
  rw [copied, sized_ext result ⟨source, same⟩ value]

def resize {α : Type} (vec : List α) (len : Nat) (value : α) : List α :=
  if len ≤ vec.length then vec.take len else vec ++ List.replicate (len - vec.length) value

theorem resize_length {α : Type} (vec : List α) (len : Nat) (value : α) : (resize vec len value).length = len := by
  by_cases shorter : len ≤ vec.length
  · simp [resize, shorter]
  · rw [resize, if_neg shorter, List.length_append, List.length_replicate]
    omega

theorem resize_grows {α : Type} (vec : List α) (len : Nat) (value : α) (room : vec.length < len) :
    resize vec len value = vec ++ List.replicate (len - vec.length) value := by
  rw [resize, if_neg (Nat.not_le_of_lt room)]

-- Addition on a 64-bit usize, which panics on overflow.
def usizeAdd (a b : Nat) : Exec Nat := if a + b < UInt64.size then .ok (a + b) else .error .overflow

def checkedSub (a b : Nat) : Option Nat := if b ≤ a then some (a - b) else none

-- A subslice still points into the slice it was taken from: two chunks with
-- equal bytes at different offsets are different chunks.
structure Chunk (α : Type) where
  offset : Nat
  bytes : List α
deriving DecidableEq

def chunkAt {α : Type} (slice : List α) (size index : Nat) : Chunk α :=
  ⟨index * size, (slice.drop (index * size)).take size⟩

-- slice.chunks(size): the last chunk is shorter when size does not divide the
-- length, and an empty slice has no chunks.
def chunks {α : Type} (slice : List α) (size : Nat) : Exec (List (Chunk α)) :=
  if size = 0 then .error .chunkSize
  else .ok ((List.range ((slice.length + size - 1) / size)).map (chunkAt slice size))

theorem chunks_distinct {α : Type} (slice : List α) (size : Nat) (list : List (Chunk α))
    (split : chunks slice size = .ok list) : list.Nodup := by
  by_cases zero : size = 0
  · simp [chunks, zero] at split
  · rw [chunks, if_neg zero, Except.ok.injEq] at split
    subst split
    refine List.Nodup.map ?_ List.nodup_range
    intro a b same
    exact Nat.eq_of_mul_eq_mul_right (Nat.pos_of_ne_zero zero) (congrArg Chunk.offset same)

end Rust
