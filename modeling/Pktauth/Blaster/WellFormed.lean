import Pktauth.Lib.Quic
import Pktauth.Blaster.Distinct

set_option autoImplicit false

namespace Pktauth.Blaster

open Rust Auth Quic

theorem length_word (length : Nat) (small : length < 16384) :
    (0x4000 ||| UInt16.ofNat length : UInt16).toNat = 16384 + length := by
  have narrow : length < UInt16.size := by
    simp only [UInt16.size]
    omega
  have limit : length < 2 ^ 14 := small
  rw [UInt16.toNat_or, UInt16.toNat_ofNat_of_lt' narrow]
  exact (Nat.two_pow_add_eq_or_of_lt limit 1).symm

theorem read_length_field (length : Nat) (small : length < 16384) (rest : List UInt8) :
    readVarint (u16ToBeBytes (0x4000 ||| UInt16.ofNat length) ++ rest) = some (length, rest) := by
  have word := length_word length small
  have high := u16_upper_byte (0x4000 ||| UInt16.ofNat length)
  have low : ((0x4000 ||| UInt16.ofNat length : UInt16).toUInt8).toNat = length % 256 := by
    rw [UInt16.toNat_toUInt8, word]
    omega
  rw [word] at high
  have width : [(0x4000 ||| UInt16.ofNat length : UInt16).toUInt8].length =
      varintTail ((0x4000 ||| UInt16.ofNat length : UInt16) >>> 8).toUInt8 := by
    have one : (16384 + length) / 256 / 64 = 1 := by omega
    simp only [varintTail, high, one, List.length_singleton]
  have value : 256 * ((16384 + length) / 256 % 64) + length % 256 = length := by omega
  rw [u16ToBeBytes, List.cons_append, read_varint_append _ _ rest width, List.foldl_cons, List.foldl_nil, high, low, value]

def remainder (size : Nat) : List UInt8 := List.replicate 4 0 ++ List.replicate (size - 54) 0x42

theorem remainder_length (size : Nat) (low : 1200 ≤ size) : (remainder size).length = size - 50 := by
  simp only [remainder, List.length_append, List.length_replicate]
  omega

theorem read_initial_layout (size : Nat) (low : 1200 ≤ size) (high : size < 16434) (dcid : Sized UInt8 20) :
    readInitial (layout size dcid).bytes = some
      ⟨0xc3, dcid.val, List.replicate 20 0x5a, [], size - 50, remainder size, List.replicate 4 0,
        List.replicate (size - 54) 0x42⟩ := by
  have version (bytes : List UInt8) : splitFront 4 (0 :: 0 :: 0 :: 1 :: bytes) = some ([0, 0, 0, 1], bytes) :=
    split_front_append [0, 0, 0, 1] bytes 4 rfl
  have destination (bytes : List UInt8) : readCid (20 :: (dcid.val ++ bytes)) = some (dcid.val, bytes) := by
    have read := read_cid_append dcid.val bytes (Nat.le_of_eq dcid.2)
    rwa [dcid.2] at read
  have source (bytes : List UInt8) : readCid (20 :: (List.replicate 20 0x5a ++ bytes)) = some (List.replicate 20 0x5a, bytes) :=
    read_cid_append (List.replicate 20 0x5a) bytes (by decide)
  have noToken (bytes : List UInt8) : readVarint (0 :: bytes) = some (0, bytes) := read_varint_append 0 [] bytes rfl
  have empty (bytes : List UInt8) : splitFront 0 bytes = some ([], bytes) := split_front_append [] bytes 0 rfl
  have length := read_length_field (size - 50) (by omega) (remainder size)
  have body : splitFront (size - 50) (remainder size) = some (remainder size, []) := by
    rw [← remainder_length size low, split_front_whole]
  have number : splitFront 4 (remainder size) = some (List.replicate 4 0, List.replicate (size - 54) 0x42) :=
    split_front_append _ _ 4 rfl
  have tail : trailer size = 20 :: (List.replicate 20 0x5a ++ 0 ::
      (u16ToBeBytes (0x4000 ||| UInt16.ofNat (size - 50)) ++ remainder size)) := by
    simp only [trailer, remainder, List.append_assoc, List.cons_append]
  have bytes : (layout size dcid).bytes = 0xc3 :: 0 :: 0 :: 0 :: 1 :: 20 :: (dcid.val ++ trailer size) := rfl
  rw [bytes, tail, readInitial, if_pos (by decide)]
  have numberLength : (0xc3 : UInt8).toNat % 4 + 1 = 4 := by decide
  simp only [version, destination, source, noToken, empty, length, body, numberLength, number, Option.bind_eq_bind,
    Option.bind_some, if_true]

-- The bytes the last call wrote, or those new left when there was none.
def lastWritten (endian : Endian) (seed : UInt64) : Nat → Sized UInt8 20
  | 0 => filled 20 0
  | earlier + 1 => dcidAfter endian seed (3 * earlier)

theorem randomized_layout (endian : Endian) (size : Nat) (template : InitialTemplate)
    (built : InitialTemplate.new size = .ok (.ok template)) (seed : UInt64) (count : Nat) :
    ∃ rng, randomizeTimes endian count template ⟨seed⟩ = .ok (layout size (lastWritten endian seed count), rng) := by
  cases count with
  | zero =>
      obtain ⟨_, _, rfl⟩ := new_ok size template built
      exact ⟨_, rfl⟩
  | succ earlier => exact ⟨_, blasted_packet endian size template built seed earlier⟩

theorem layout_length (size : Nat) (low : 1200 ≤ size) (dcid : Sized UInt8 20) : (layout size dcid).bytes.length = size := by
  simp only [layout_bytes, trailer, List.length_append, List.length_cons, List.length_nil, List.length_replicate, sized_length,
    u16ToBeBytes]
  omega

theorem layout_outside (size : Nat) (dcid dcid' : Sized UInt8 20) (index : Nat) (outside : index < 6 ∨ 26 ≤ index) :
    (layout size dcid).bytes[index]? = (layout size dcid').bytes[index]? := by
  have front : ([0xc3, 0, 0, 0, 1, 20] : List UInt8).length = 6 := rfl
  rcases outside with before | after
  · rw [layout_bytes, layout_bytes, List.getElem?_append_left (by omega), List.getElem?_append_left (by omega)]
  · have behind (field : Sized UInt8 20) : (layout size field).bytes[index]? = (trailer size)[index - 26]? := by
      rw [layout_bytes, List.getElem?_append_right (by omega), List.getElem?_append_right (by rw [sized_length]; omega),
        sized_length, front, Nat.sub_sub]
    rw [behind dcid, behind dcid']

theorem template_stays_well_formed (endian : Endian) (size : Nat) (template : InitialTemplate)
    (built : InitialTemplate.new size = .ok (.ok template)) (rng : SplitMix64) (count : Nat) :
    ∃ blasted after packet, randomizeTimes endian count template rng = .ok (blasted, after) ∧
      blasted.bytes.length = size ∧
      readInitial blasted.bytes = some packet ∧ packet.length = packet.remaining.length ∧ packet.coalesced = [] ∧
      packet.packetNumber ++ packet.payload = packet.remaining ∧
      blasted.dcidOffset = template.dcidOffset ∧
      destinationCid blasted.bytes = some (lastWritten endian rng.state count).val ∧
      blasted.dcid = some (lastWritten endian rng.state count).val ∧ packet.dcid = (lastWritten endian rng.state count).val ∧
      ∀ index, index < template.dcidOffset ∨ template.dcidOffset + 20 ≤ index →
        blasted.bytes[index]? = template.bytes[index]? := by
  obtain ⟨low, high, shape⟩ := new_ok size template built
  obtain ⟨after, run⟩ := randomized_layout endian size template built rng.state count
  have left := remainder_length size low
  refine ⟨_, after, _, run, layout_length size low _, read_initial_layout size low high _, left.symm, ?_, rfl, ?_,
    destination_cid_datagram initialHeader _ (trailer size), layout_dcid size _, rfl, ?_⟩
  · exact List.drop_of_length_le (Nat.le_of_eq left)
  · rw [shape]
    rfl
  · intro index outside
    rw [shape] at outside ⊢
    exact layout_outside size _ _ index outside

theorem template_stays_well_formed_sample :
    ∃ template blasted after packet, InitialTemplate.new 16433 = .ok (.ok template) ∧
      randomizeTimes .little 1 template ⟨firstSeed⟩ = .ok (blasted, after) ∧ readInitial blasted.bytes = some packet ∧
      packet.length = packet.remaining.length := by
  have built := new_fits 16433 (by decide) (by decide)
  obtain ⟨blasted, after, packet, run, _, read, length, _⟩ := template_stays_well_formed .little 16433 _ built ⟨firstSeed⟩ 1
  exact ⟨_, blasted, after, packet, built, run, read, length⟩

end Pktauth.Blaster
