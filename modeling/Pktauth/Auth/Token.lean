import Pktauth.Rust.Byte
import Pktauth.Rust.Net

set_option autoImplicit false

namespace Pktauth.Auth

open Rust

def tokenLen : Nat := 20
def selectorLen : Nat := 2
def nonceLen : Nat := 8
def tagLen : Nat := 10
def aesBlockLen : Nat := 16

def fAb : Sized UInt8 16 :=
  ⟨[0xa0, 0xb1, 0xc2, 0xd3, 0xe4, 0xf5, 0x06, 0x17, 0x28, 0x39, 0x4a, 0x5b, 0x6c, 0x7d, 0x8e, 0x9f], rfl⟩

def fBa : Sized UInt8 16 :=
  ⟨[0x5f, 0x4e, 0x3d, 0x2c, 0x1b, 0x0a, 0xf9, 0xe8, 0xd7, 0xc6, 0xb5, 0xa4, 0x93, 0x82, 0x71, 0x60], rfl⟩

structure Peers where
  client : Ipv4Addr
  server : Ipv4Addr
deriving DecidableEq, Repr

inductive Direction where
  | clientToServer
  | serverToClient
deriving DecidableEq, Repr

def Direction.selector : Direction → UInt16
  | .clientToServer => 0x0001
  | .serverToClient => 0x0002

def Direction.key : Direction → Sized UInt8 16
  | .clientToServer => fAb
  | .serverToClient => fBa

def Direction.fromSelector (selector : UInt16) : Option Direction :=
  if selector = 0x0001 then some .clientToServer
  else if selector = 0x0002 then some .serverToClient
  else none

def Direction.path (direction : Direction) (peers : Peers) : Ipv4Addr × Ipv4Addr :=
  match direction with
  | .clientToServer => (peers.client, peers.server)
  | .serverToClient => (peers.server, peers.client)

-- The aes crate: one block cipher call under a 16-byte key. Nothing below
-- depends on which function it is.
abbrev Cipher (β : Type) := Sized UInt8 16 → Sized β 16 → Sized β 16

section Operations

variable {β : Type} [ByteLike β] (aes : Cipher β)

def tag (key : Sized UInt8 16) (nonce : List β) (src dst : Ipv4Addr) : Exec (Sized β 10) := do
  assert (nonce.length = nonceLen) "nonce must be exactly 64 bits"
  let message : Sized β 16 := filled 16 (ByteLike.ofByte 0)
  let message ← copyFromSlice message 0 nonceLen nonce
  let message ← copyFromSlice message nonceLen (nonceLen + 4) (src.octets.map ByteLike.ofByte)
  let message ← copyFromSlice message (nonceLen + 4) aesBlockLen (dst.octets.map ByteLike.ofByte)
  let block := aes key message
  copyFromSlice (filled 10 (ByteLike.ofByte 0)) 0 tagLen (block.val.take tagLen)

def assemble (direction : Direction) (nonce : List β) (src dst : Ipv4Addr) : Exec (Sized β 20) := do
  let token : Sized β 20 := filled 20 (ByteLike.ofByte 0)
  let token ← copyFromSlice token 0 selectorLen ((u16ToBeBytes direction.selector).map ByteLike.ofByte)
  let token ← copyFromSlice token selectorLen (selectorLen + nonceLen) nonce
  let tag ← tag aes direction.key nonce src dst
  copyFromSlice token (selectorLen + nonceLen) tokenLen tag.val

-- The random generator fills the nonce; what it draws is an argument here.
def mintBetween (nonce : Sized β 8) (direction : Direction) (src dst : Ipv4Addr) : Exec (Sized β 20) :=
  assemble aes direction nonce.val src dst

def mint (nonce : Sized β 8) (direction : Direction) (peers : Peers) : Exec (Sized β 20) :=
  let path := direction.path peers
  mintBetween aes nonce direction path.1 path.2

end Operations

-- The authenticated message and the token layout, as single expressions. The
-- code above writes them field by field into zeroed arrays.
section Layout

variable {β : Type} [ByteLike β]

def message (nonce : Sized β 8) (src dst : Ipv4Addr) : Sized β 16 :=
  ⟨nonce.val ++ (src.octets.map ByteLike.ofByte ++ dst.octets.map ByteLike.ofByte), by simp⟩

def tagOf (aes : Cipher β) (key : Sized UInt8 16) (nonce : Sized β 8) (src dst : Ipv4Addr) : Sized β 10 :=
  ⟨(aes key (message nonce src dst)).val.take 10, by simp⟩

def tokenOf (aes : Cipher β) (direction : Direction) (nonce : Sized β 8) (src dst : Ipv4Addr) : Sized β 20 :=
  ⟨(u16ToBeBytes direction.selector).map ByteLike.ofByte ++
    (nonce.val ++ (tagOf aes direction.key nonce src dst).val), by simp [u16ToBeBytes]⟩

variable (aes : Cipher β)

theorem tag_eq (key : Sized UInt8 16) (nonce : Sized β 8) (src dst : Ipv4Addr) :
    tag aes key nonce.val src dst = .ok (tagOf aes key nonce src dst) := by
  obtain ⟨first, firstEq, firstVal⟩ := copy_from_slice_next (filled 16 (ByteLike.ofByte 0 : β)) [] nonce.val
    (List.replicate 16 (ByteLike.ofByte 0)) rfl (by simp)
  obtain ⟨second, secondEq, secondVal⟩ := copy_from_slice_next first nonce.val (src.octets.map ByteLike.ofByte)
    (List.replicate 8 (ByteLike.ofByte 0)) (by simpa using firstVal) (by simp)
  obtain ⟨third, thirdEq, thirdVal⟩ := copy_from_slice_next second (nonce.val ++ src.octets.map ByteLike.ofByte)
    (dst.octets.map ByteLike.ofByte) (List.replicate 4 (ByteLike.ofByte 0)) (by simpa using secondVal) (by simp)
  have block : third = message nonce src dst := by
    apply sized_ext
    simpa [message] using thirdVal
  obtain ⟨result, resultEq, resultVal⟩ := copy_from_slice_next (filled 10 (ByteLike.ofByte 0 : β)) []
    ((aes key (message nonce src dst)).val.take 10) (List.replicate 10 (ByteLike.ofByte 0)) rfl (by simp)
  have final : result = tagOf aes key nonce src dst := by
    apply sized_ext
    simpa [tagOf] using resultVal
  have truncated : ((aes key (message nonce src dst)).val.take 10).length = 10 := by simp
  simp only [List.length_nil, Nat.zero_add, List.length_append, List.length_map, sized_length, ipv4_octets_length,
    truncated, Nat.reduceAdd] at firstEq secondEq thirdEq resultEq
  have checked : assert (nonce.val.length = nonceLen) "nonce must be exactly 64 bits" = .ok () :=
    assert_true _ _ (sized_length nonce)
  rw [tag, checked]
  simp only [nonceLen, tagLen, aesBlockLen, exec_bind_ok, firstEq, secondEq, thirdEq, block, resultEq, final,
    Nat.reduceAdd]

theorem assemble_eq (direction : Direction) (nonce : Sized β 8) (src dst : Ipv4Addr) :
    assemble aes direction nonce.val src dst = .ok (tokenOf aes direction nonce src dst) := by
  obtain ⟨first, firstEq, firstVal⟩ := copy_from_slice_next (filled 20 (ByteLike.ofByte 0 : β)) []
    ((u16ToBeBytes direction.selector).map ByteLike.ofByte) (List.replicate 20 (ByteLike.ofByte 0)) rfl
    (by simp [u16ToBeBytes])
  obtain ⟨second, secondEq, secondVal⟩ := copy_from_slice_next first ((u16ToBeBytes direction.selector).map ByteLike.ofByte)
    nonce.val (List.replicate 18 (ByteLike.ofByte 0)) (by simpa [u16ToBeBytes] using firstVal) (by simp)
  obtain ⟨third, thirdEq, thirdVal⟩ := copy_from_slice_next second
    ((u16ToBeBytes direction.selector).map ByteLike.ofByte ++ nonce.val) (tagOf aes direction.key nonce src dst).val
    (List.replicate 10 (ByteLike.ofByte 0)) (by simpa using secondVal) (by simp)
  have final : third = tokenOf aes direction nonce src dst := by
    apply sized_ext
    simpa [tokenOf] using thirdVal
  have selectorLength : (u16ToBeBytes direction.selector).length = 2 := rfl
  simp only [List.length_nil, Nat.zero_add, List.length_append, List.length_map, sized_length, selectorLength,
    Nat.reduceAdd] at firstEq secondEq thirdEq
  simp only [assemble, selectorLen, nonceLen, tokenLen, firstEq, exec_bind_ok, secondEq, tag_eq, thirdEq, final,
    Nat.reduceAdd]

theorem mint_between_eq (nonce : Sized β 8) (direction : Direction) (src dst : Ipv4Addr) :
    mintBetween aes nonce direction src dst = .ok (tokenOf aes direction nonce src dst) :=
  assemble_eq aes direction nonce src dst

end Layout

theorem from_selector_selector (direction : Direction) : Direction.fromSelector direction.selector = some direction := by
  cases direction <;> rfl

theorem from_selector_some (selector : UInt16) (direction : Direction)
    (found : Direction.fromSelector selector = some direction) : selector = direction.selector := by
  unfold Direction.fromSelector at found
  split at found
  · cases found
    assumption
  · split at found
    · cases found
      assumption
    · cases found

theorem key_injective (a b : Direction) (same : a.key = b.key) : a = b := by
  cases a <;> cases b
  · rfl
  · exact absurd same (by decide)
  · exact absurd same (by decide)
  · rfl

end Pktauth.Auth
