import Pktauth.Rust.Byte

set_option autoImplicit false

namespace Pktauth.Echo

open Rust

def pingPayload (seq : UInt64) (size : Nat) : Exec (List UInt8) := do
  let payload : Sized UInt8 size := filled size 0
  let seqBytes := u64ToBeBytes seq
  let header := min seqBytes.val.length size
  let source ← sliceFront seqBytes.val header
  let payload ← copyFromSlice payload 0 header source
  let body := (payload.val.drop header).mapIdx (fun i _ => UInt8.ofNat (i % 251))
  .ok (payload.val.take header ++ body)

-- The whole payload as one expression: the front of the sequence number, then
-- the running pattern.
def payloadOf (seq : UInt64) (size : Nat) : List UInt8 :=
  (u64ToBeBytes seq).val.take size ++ (List.range (size - 8)).map (fun i => UInt8.ofNat (i % 251))

def carriedSeq (payload : List UInt8) : Nat := leValue (payload.take 8).reverse

theorem ping_payload_eq (seq : UInt64) (size : Nat) : pingPayload seq size = .ok (payloadOf seq size) := by
  have bound : min 8 size ≤ (u64ToBeBytes seq).val.length := by
    rw [sized_length]
    omega
  have source : sliceFront (u64ToBeBytes seq).val (min 8 size) = .ok ((u64ToBeBytes seq).val.take (min 8 size)) := by
    rw [sliceFront, slice_get_some _ _ _ (Nat.zero_le _) bound]
    rfl
  have width : ((u64ToBeBytes seq).val.take (min 8 size)).length = min 8 size := List.length_take_of_le bound
  obtain ⟨copied, copiedEq, copiedVal⟩ := copy_from_slice_next (filled size (0 : UInt8)) []
    ((u64ToBeBytes seq).val.take (min 8 size)) (List.replicate size 0) rfl (by rw [width, List.length_replicate]; omega)
  rw [List.length_nil, Nat.zero_add, width] at copiedEq
  have front : copied.val.take (min 8 size) = (u64ToBeBytes seq).val.take (min 8 size) := by
    rw [copiedVal, List.nil_append]
    exact List.take_left' width
  have back : copied.val.drop (min 8 size) = List.replicate (size - 8) 0 := by
    rw [copiedVal, List.nil_append, List.drop_left' width, width, List.drop_replicate]
    congr 1
    omega
  have shortened : (u64ToBeBytes seq).val.take (min 8 size) = (u64ToBeBytes seq).val.take size := by
    rw [Nat.min_comm, ← List.take_take, List.take_of_length_le (i := 8) (by simp)]
  have pattern : (List.replicate (size - 8) (0 : UInt8)).mapIdx (fun i _ => UInt8.ofNat (i % 251)) =
      (List.range (size - 8)).map (fun i => UInt8.ofNat (i % 251)) := by
    apply List.ext_getElem
    · simp
    · intro index _ _
      simp
  rw [pingPayload]
  simp only [sized_length, source, exec_bind_ok, copiedEq, front, back, pattern]
  rw [shortened, payloadOf]

theorem payload_length (seq : UInt64) (size : Nat) : (payloadOf seq size).length = size := by
  simp only [payloadOf, List.length_append, List.length_take, sized_length, List.length_map, List.length_range]
  omega

theorem payload_front (seq : UInt64) (size : Nat) : (payloadOf seq size).take 8 = (u64ToBeBytes seq).val.take size := by
  by_cases short : size ≤ 8
  · have empty : size - 8 = 0 := by omega
    rw [payloadOf, empty, List.range_zero, List.map_nil, List.append_nil, List.take_take]
    congr 1
    omega
  · have whole : (u64ToBeBytes seq).val.take size = (u64ToBeBytes seq).val := List.take_of_length_le (by rw [sized_length]; omega)
    rw [payloadOf, whole]
    exact List.take_left' (sized_length _)

-- A short payload carries the leading bytes of the sequence number, so what
-- it loses are the low-order ones.
theorem payload_carries (seq : UInt64) (size : Nat) : carriedSeq (payloadOf seq size) = seq.toNat / 256 ^ (8 - size) := by
  have reversed : ((u64ToBeBytes seq).val.take size).reverse = (u64ToLeBytes seq).drop (8 - size) := by
    rw [u64ToBeBytes, List.take_reverse, List.reverse_reverse]
    rfl
  rw [carriedSeq, payload_front, reversed, le_value_drop, le_value_u64]

theorem payload_eq_iff (seq seq' : UInt64) (size : Nat) :
    payloadOf seq size = payloadOf seq' size ↔ seq.toNat / 256 ^ (8 - size) = seq'.toNat / 256 ^ (8 - size) := by
  constructor
  · intro same
    rw [← payload_carries seq size, ← payload_carries seq' size, same]
  · intro same
    have fronts : ((u64ToBeBytes seq).val.take size).reverse = ((u64ToBeBytes seq').val.take size).reverse := by
      apply le_value_injective
      · simp
      · have carried := (payload_carries seq size).trans (same.trans (payload_carries seq' size).symm)
        rwa [carriedSeq, carriedSeq, payload_front, payload_front] at carried
    rw [payloadOf, payloadOf, List.reverse_injective fronts]

theorem ping_payload_round_trip (seq : UInt64) (size : Nat) :
    ∃ payload, pingPayload seq size = .ok payload ∧ payload.length = size ∧
      carriedSeq payload = seq.toNat / 256 ^ (8 - size) ∧
      (∀ index, 8 ≤ index → index < size → payload[index]? = some (UInt8.ofNat ((index - 8) % 251))) ∧
      ∀ seq', pingPayload seq' size = .ok payload ↔ seq'.toNat / 256 ^ (8 - size) = seq.toNat / 256 ^ (8 - size) := by
  refine ⟨payloadOf seq size, ping_payload_eq seq size, payload_length seq size, payload_carries seq size, ?_, ?_⟩
  · intro index behind inside
    have width : ((u64ToBeBytes seq).val.take size).length = 8 := by
      rw [List.length_take, sized_length]
      omega
    rw [payloadOf, List.getElem?_append_right (by omega), width, List.getElem?_map, List.getElem?_range (by omega)]
    rfl
  · intro seq'
    rw [ping_payload_eq, Except.ok.injEq]
    exact payload_eq_iff seq' seq size

end Pktauth.Echo
