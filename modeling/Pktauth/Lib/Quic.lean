import Mathlib.Data.List.Basic

set_option autoImplicit false

namespace Quic

def splitFront (count : Nat) (bytes : List UInt8) : Option (List UInt8 × List UInt8) :=
  if count ≤ bytes.length then some (bytes.take count, bytes.drop count) else none

-- The two top bits of the first byte give the length of a variable-length
-- integer, the other bits open its big-endian value.
def varintTail (first : UInt8) : Nat :=
  match first.toNat / 64 with
  | 0 => 0
  | 1 => 1
  | 2 => 3
  | _ => 7

def readVarint : List UInt8 → Option (Nat × List UInt8)
  | [] => none
  | first :: bytes => do
      let (tail, bytes) ← splitFront (varintTail first) bytes
      some (tail.foldl (fun value byte => 256 * value + byte.toNat) (first.toNat % 64), bytes)

-- A connection ID is at most 20 bytes long in version 1.
def readCid : List UInt8 → Option (List UInt8 × List UInt8)
  | [] => none
  | length :: bytes => if length.toNat ≤ 20 then splitFront length.toNat bytes else none

structure Initial where
  flags : UInt8
  dcid : List UInt8
  scid : List UInt8
  token : List UInt8
  length : Nat
  -- Everything after the Length field, then what of it belongs to the packet.
  remaining : List UInt8
  packetNumber : List UInt8
  payload : List UInt8
deriving DecidableEq

def Initial.coalesced (packet : Initial) : List UInt8 := packet.remaining.drop packet.length

-- Long header form, fixed bit, packet type Initial, and version 1; the low two
-- bits of the flags are one less than the length of the packet number.
def readInitial : List UInt8 → Option Initial
  | [] => none
  | flags :: bytes =>
      if flags.toNat / 16 = 12 then do
        let (version, bytes) ← splitFront 4 bytes
        if version = [0, 0, 0, 1] then do
          let (dcid, bytes) ← readCid bytes
          let (scid, bytes) ← readCid bytes
          let (tokenLength, bytes) ← readVarint bytes
          let (token, bytes) ← splitFront tokenLength bytes
          let (length, remaining) ← readVarint bytes
          let (body, _) ← splitFront length remaining
          let (packetNumber, payload) ← splitFront (flags.toNat % 4 + 1) body
          some ⟨flags, dcid, scid, token, length, remaining, packetNumber, payload⟩
        else none
      else none

theorem split_front_append (front rest : List UInt8) (count : Nat) (width : front.length = count) :
    splitFront count (front ++ rest) = some (front, rest) := by
  subst width
  simp [splitFront]

theorem split_front_whole (bytes : List UInt8) : splitFront bytes.length bytes = some (bytes, []) := by
  simp [splitFront]

theorem read_varint_append (first : UInt8) (tail rest : List UInt8) (width : tail.length = varintTail first) :
    readVarint (first :: (tail ++ rest)) =
      some (tail.foldl (fun value byte => 256 * value + byte.toNat) (first.toNat % 64), rest) := by
  simp only [readVarint, split_front_append tail rest _ width]
  rfl

theorem read_cid_append (cid rest : List UInt8) (short : cid.length ≤ 20) :
    readCid (UInt8.ofNat cid.length :: (cid ++ rest)) = some (cid, rest) := by
  have length : (UInt8.ofNat cid.length).toNat = cid.length := UInt8.toNat_ofNat_of_lt' (by simp only [UInt8.size]; omega)
  rw [readCid, length, if_pos short, split_front_append cid rest _ rfl]

end Quic
