import Mathlib.Logic.Equiv.Basic
import Pktauth.Auth.Acceptance

set_option autoImplicit false

namespace Pktauth.Auth

open Rust

theorem message_injective {β : Type} [ByteLike β] [LawfulByteLike β] (nonce nonce' : Sized β 8) (src src' dst dst' : Ipv4Addr)
    (same : message nonce src dst = message nonce' src' dst') : nonce = nonce' ∧ src = src' ∧ dst = dst' := by
  have lists := congrArg Subtype.val same
  simp only [message] at lists
  obtain ⟨nonces, addresses⟩ := List.append_inj lists (by simp)
  obtain ⟨sources, destinations⟩ := List.append_inj addresses (by simp)
  have octets := List.map_injective_iff.mpr (of_byte_injective (β := β))
  exact ⟨sized_ext _ _ nonces, ipv4_octets_injective _ _ (octets sources), ipv4_octets_injective _ _ (octets destinations)⟩

theorem token_of_tag (aes : Cipher UInt8) (direction : Direction) (nonce : Sized UInt8 8) (src dst : Ipv4Addr) :
    (tokenOf aes direction nonce src dst).val.drop 10 = (tagOf aes direction.key nonce src dst).val := by
  simp [tokenOf, u16ToBeBytes]

theorem verify_other_direction (aes : Cipher UInt8) (direction other : Direction) (nonce : Sized UInt8 8)
    (src dst src' dst' : Ipv4Addr) (different : other ≠ direction) :
    verify aes (tokenOf aes direction nonce src dst).val other src' dst' = .ok (.error .wrongDirection) := by
  have fields := verify_fields aes (direction.selector >>> 8).toUInt8 direction.selector.toUInt8 nonce
    (tagOf aes direction.key nonce src dst) other src' dst'
  have selector : u16FromBeBytes (direction.selector >>> 8).toUInt8 direction.selector.toUInt8 = direction.selector :=
    (u16_be_bytes_iff _ _ _).mpr rfl
  simp only [judge, u8_value, selector, from_selector_selector, if_pos (Ne.symm different)] at fields
  exact fields

-- A block cipher is a permutation, so images that agree on the ten bytes kept
-- by the truncation are told apart by the six bytes it drops.
theorem truncation_collision (aes : Cipher UInt8) (key : Sized UInt8 16) (permutation : Function.Bijective (aes key))
    (a b : Sized UInt8 16) (different : a ≠ b) (agree : (aes key a).val.take 10 = (aes key b).val.take 10) :
    (aes key a).val.drop 10 ≠ (aes key b).val.drop 10 := by
  intro rest
  apply different
  apply permutation.injective
  apply sized_ext
  rw [← List.take_append_drop 10 (aes key a).val, ← List.take_append_drop 10 (aes key b).val, agree, rest]

theorem verified_variants_collide (aes : Cipher UInt8) (permutation : ∀ key, Function.Bijective (aes key))
    (direction : Direction) (src dst : Ipv4Addr) (token : List UInt8)
    (accepted : verify aes token direction src dst = .ok (.ok ())) :
    (∀ (other : Direction) (src' dst' : Ipv4Addr), other ≠ direction →
      verify aes token other src' dst' = .ok (.error .wrongDirection)) ∧
    (∀ token' : List UInt8, token'.length = 20 → token' ≠ token → (token'.drop 2).take 8 = (token.drop 2).take 8 →
      ∃ error, verify aes token' direction src dst = .ok (.error error)) ∧
    (∀ (token' : List UInt8) (src' dst' : Ipv4Addr), token'.drop 10 = token.drop 10 →
      verify aes token' direction src' dst' = .ok (.ok ()) →
      ∃ nonce nonce' : Sized UInt8 8, nonce.val = (token.drop 2).take 8 ∧ nonce'.val = (token'.drop 2).take 8 ∧
        ((nonce', src', dst') = (nonce, src, dst) ∨
          (message nonce src dst ≠ message nonce' src' dst' ∧
            (aes direction.key (message nonce src dst)).val.take 10 =
              (aes direction.key (message nonce' src' dst')).val.take 10 ∧
            (aes direction.key (message nonce src dst)).val.drop 10 ≠
              (aes direction.key (message nonce' src' dst')).val.drop 10))) := by
  obtain ⟨nonce, rfl⟩ := (verify_ok_iff_token aes token direction src dst).mp accepted
  refine ⟨fun other src' dst' => verify_other_direction aes direction other nonce src dst src' dst', ?_, ?_⟩
  · intro token' _ different sameNonce
    obtain ⟨result, verified⟩ := verify_total aes token' direction src dst
    cases result with
    | error error => exact ⟨error, verified⟩
    | ok =>
        obtain ⟨nonce', rfl⟩ := (verify_ok_iff_token aes token' direction src dst).mp verified
        rw [token_of_nonce, token_of_nonce] at sameNonce
        exact absurd (by rw [sized_ext nonce' nonce sameNonce]) different
  · intro token' src' dst' sameTag verified
    obtain ⟨nonce', rfl⟩ := (verify_ok_iff_token aes token' direction src' dst').mp verified
    refine ⟨nonce, nonce', (token_of_nonce ..).symm, (token_of_nonce ..).symm, ?_⟩
    rw [token_of_tag, token_of_tag] at sameTag
    by_cases same : message nonce src dst = message nonce' src' dst'
    · obtain ⟨rfl, rfl, rfl⟩ := message_injective nonce nonce' src src' dst dst' same
      exact Or.inl rfl
    · exact Or.inr ⟨same, sameTag.symm,
        truncation_collision aes direction.key (permutation direction.key) _ _ same sameTag.symm⟩

-- AES-128 under F_AB of the block made from nonce 07..07, 10.0.0.1 and
-- 10.0.0.2, carried by the transposition of that block and its image.
def sampleNonce : Sized UInt8 8 := ⟨[7, 7, 7, 7, 7, 7, 7, 7], rfl⟩
def sampleClient : Ipv4Addr := ⟨10, 0, 0, 1⟩
def sampleServer : Ipv4Addr := ⟨10, 0, 0, 2⟩
def sampleImage : Sized UInt8 16 :=
  ⟨[0xe3, 0x47, 0xb3, 0x31, 0x83, 0xf4, 0xdf, 0x4c, 0x1b, 0x96, 0x12, 0x6b, 0xd3, 0xcf, 0xd0, 0xf7], rfl⟩

def sampleCipher : Cipher UInt8 :=
  fun _ => Equiv.swap (message sampleNonce sampleClient sampleServer) sampleImage

theorem verified_variants_collide_sample :
    verify sampleCipher [0, 1, 7, 7, 7, 7, 7, 7, 7, 7, 0xe3, 0x47, 0xb3, 0x31, 0x83, 0xf4, 0xdf, 0x4c, 0x1b, 0x96]
        .clientToServer sampleClient sampleServer = .ok (.ok ()) ∧
      verify sampleCipher [0, 1, 7, 7, 7, 7, 7, 7, 7, 7, 0xe3, 0x47, 0xb3, 0x31, 0x83, 0xf4, 0xdf, 0x4c, 0x1b, 0x96]
        .serverToClient sampleServer sampleClient = .ok (.error .wrongDirection) := by
  have accepted : verify sampleCipher
      [0, 1, 7, 7, 7, 7, 7, 7, 7, 7, 0xe3, 0x47, 0xb3, 0x31, 0x83, 0xf4, 0xdf, 0x4c, 0x1b, 0x96]
      .clientToServer sampleClient sampleServer = .ok (.ok ()) := by decide +kernel
  exact ⟨accepted, (verified_variants_collide sampleCipher (fun _ => Equiv.bijective _) .clientToServer sampleClient
    sampleServer _ accepted).1 .serverToClient sampleServer sampleClient (by decide)⟩

end Pktauth.Auth
