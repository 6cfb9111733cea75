import Pktauth.Auth.CidGenerator
import Pktauth.Auth.Collision

set_option autoImplicit false

namespace Pktauth.Auth

open Rust

-- What the code relies on in the truncated cipher: under one key and nonce, a
-- tag belongs to one pair of addresses. There are 2^64 pairs and 2^80 tags.
def DistinctTags (aes : Cipher UInt8) (key : Sized UInt8 16) (nonce : Sized UInt8 8) : Prop :=
  ∀ src dst src' dst' : Ipv4Addr, tagOf aes key nonce src dst = tagOf aes key nonce src' dst' → src = src' ∧ dst = dst'

section Binding

variable (aes : Cipher UInt8) (direction : Direction) (nonce : Sized UInt8 8)

theorem token_of_injective (src dst src' dst' : Ipv4Addr) (distinct : DistinctTags aes direction.key nonce)
    (same : (tokenOf aes direction nonce src dst).val = (tokenOf aes direction nonce src' dst').val) :
    src = src' ∧ dst = dst' := by
  have tags := congrArg (List.drop 10) same
  rw [token_of_tag, token_of_tag] at tags
  exact distinct src dst src' dst' (sized_ext _ _ tags)

theorem verify_token_iff (src dst src' dst' : Ipv4Addr) (distinct : DistinctTags aes direction.key nonce) :
    verify aes (tokenOf aes direction nonce src dst).val direction src' dst' = .ok (.ok ()) ↔ src' = src ∧ dst' = dst := by
  rw [verify_ok_iff_token]
  constructor
  · intro accepted
    obtain ⟨nonce', shape⟩ := accepted
    have nonces := congrArg (fun token => (token.drop 2).take 8) shape
    simp only [token_of_nonce] at nonces
    rw [← sized_ext nonce nonce' nonces] at shape
    obtain ⟨sources, destinations⟩ := token_of_injective aes direction nonce src dst src' dst' distinct shape
    exact ⟨sources.symm, destinations.symm⟩
  · intro same
    obtain ⟨rfl, rfl⟩ := same
    exact ⟨nonce, rfl⟩

-- A datagram whose destination ID is a token is accepted on the path the token
-- names and on no other, whatever form its header has.
theorem check_token_iff (src dst localIp : Ipv4Addr) (distinct : DistinctTags aes direction.key nonce) (header : Header)
    (tail : List UInt8) (source : IpAddr) :
    (Authenticator.new direction localIp).check aes (header.datagram (tokenOf aes direction nonce src dst) tail) source =
        .ok (.ok ()) ↔
      source = .v4 src ∧ localIp = dst := by
  cases source with
  | v6 octets =>
      constructor
      · intro accepted
        cases accepted
      · intro path
        cases path.1
  | v4 address =>
      rw [check_datagram, IpAddr.v4.injEq]
      exact verify_token_iff aes direction nonce src dst address localIp distinct

theorem check_rejects_iff (authenticator : Authenticator) (datagram : List UInt8) (source : IpAddr) :
    (∃ error, authenticator.check aes datagram source = .ok (.error error)) ↔
      authenticator.check aes datagram source ≠ .ok (.ok ()) := by
  obtain ⟨result, checked⟩ := check_total aes authenticator datagram source
  rw [checked]
  cases result with
  | error error => simp
  | ok => simp

theorem unspecified_token_rejected_iff (localIp : Ipv4Addr) (distinct : DistinctTags aes direction.key nonce) (header : Header)
    (tail : List UInt8) (source : IpAddr) :
    (∃ error, (Authenticator.new direction localIp).check aes
        (header.datagram (tokenOf aes direction nonce Ipv4Addr.unspecified localIp) tail) source = .ok (.error error)) ↔
      source ≠ .v4 Ipv4Addr.unspecified := by
  rw [check_rejects_iff, Ne, check_token_iff aes direction nonce Ipv4Addr.unspecified localIp localIp distinct]
  simp

theorem fail_closed_rejected_iff (localIp : Ipv4Addr) (distinct : DistinctTags aes direction.key nonce) :
    (∃ cid, (AuthCidGenerator.new direction localIp).generateCid aes nonce = .ok cid ∧
      ∀ (header : Header) (tail : List UInt8) (source : IpAddr),
        (∃ error, (Authenticator.new direction localIp).check aes (header.datagram cid tail) source = .ok (.error error)) ↔
          source ≠ .v4 Ipv4Addr.unspecified) ∧
    (∀ (octets : Sized UInt8 16) (port : UInt16) (hint : Option IpAddr),
      ∃ cid, (AuthCidGenerator.new direction localIp).generateCidFor aes nonce ⟨.v6 octets, port⟩ hint = .ok cid ∧
        ∀ (header : Header) (tail : List UInt8) (source : IpAddr),
          (∃ error, (Authenticator.new direction localIp).check aes (header.datagram cid tail) source = .ok (.error error)) ↔
            source ≠ .v4 Ipv4Addr.unspecified) := by
  have minted := mint_between_eq aes nonce direction Ipv4Addr.unspecified localIp
  have rejected := unspecified_token_rejected_iff aes direction nonce localIp distinct
  constructor
  · exact ⟨_, minted, rejected⟩
  · intro octets port hint
    exact ⟨_, minted, rejected⟩

end Binding

-- AES-128 under F_AB on the two blocks made from nonce 07..07, server 10.0.0.2
-- and either 10.0.0.1 or the unspecified address. Elsewhere the halves of the
-- block change places, so that the addresses fill the tag.
def unspecifiedImage : Sized UInt8 16 :=
  ⟨[0xac, 0x24, 0x83, 0x43, 0x50, 0xa3, 0xa0, 0x6d, 0x5a, 0x6b, 0x0a, 0xe7, 0x66, 0x7f, 0x61, 0x70], rfl⟩

def bindingCipher : Cipher UInt8 := fun _ block =>
  if block = message sampleNonce sampleClient sampleServer then sampleImage
  else if block = message sampleNonce Ipv4Addr.unspecified sampleServer then unspecifiedImage
  else ⟨block.val.drop 8 ++ block.val.take 8, by simp⟩

theorem binding_tag (key : Sized UInt8 16) (src dst : Ipv4Addr) :
    (tagOf bindingCipher key sampleNonce src dst).val =
      if src = sampleClient ∧ dst = sampleServer then sampleImage.val.take 10
      else if src = Ipv4Addr.unspecified ∧ dst = sampleServer then unspecifiedImage.val.take 10
      else src.octets ++ (dst.octets ++ [7, 7]) := by
  have blocks (src' dst' : Ipv4Addr) : message sampleNonce src dst = message sampleNonce src' dst' ↔ src = src' ∧ dst = dst' := by
    constructor
    · intro same
      exact (message_injective sampleNonce sampleNonce src src' dst dst' same).2
    · intro same
      rw [same.1, same.2]
  simp only [tagOf, bindingCipher, blocks]
  by_cases client : src = sampleClient ∧ dst = sampleServer
  · simp only [if_pos client]
  · by_cases wildcard : src = Ipv4Addr.unspecified ∧ dst = sampleServer
    · simp only [if_neg client, if_pos wildcard]
    · simp only [if_neg client, if_neg wildcard]
      rfl

-- The pair a tag of this cipher was made for, read back from the tag.
def bindingOwner (tag : List UInt8) : Ipv4Addr × Ipv4Addr :=
  if tag = sampleImage.val.take 10 then (sampleClient, sampleServer)
  else if tag = unspecifiedImage.val.take 10 then (Ipv4Addr.unspecified, sampleServer)
  else (⟨tag.getD 0 0, tag.getD 1 0, tag.getD 2 0, tag.getD 3 0⟩, ⟨tag.getD 4 0, tag.getD 5 0, tag.getD 6 0, tag.getD 7 0⟩)

theorem binding_owner (key : Sized UInt8 16) (src dst : Ipv4Addr) :
    bindingOwner (tagOf bindingCipher key sampleNonce src dst).val = (src, dst) := by
  rw [binding_tag]
  by_cases client : src = sampleClient ∧ dst = sampleServer
  · rw [if_pos client, client.1, client.2]
    rfl
  · by_cases wildcard : src = Ipv4Addr.unspecified ∧ dst = sampleServer
    · rw [if_neg client, if_pos wildcard, wildcard.1, wildcard.2]
      rfl
    · -- The nonce bytes at the end tell a plain tag from both images.
      have ending : (src.octets ++ (dst.octets ++ [7, 7])).drop 8 = [7, 7] := rfl
      have notClient : src.octets ++ (dst.octets ++ [7, 7]) ≠ sampleImage.val.take 10 := by
        intro same
        rw [same] at ending
        exact absurd ending (by decide)
      have notWildcard : src.octets ++ (dst.octets ++ [7, 7]) ≠ unspecifiedImage.val.take 10 := by
        intro same
        rw [same] at ending
        exact absurd ending (by decide)
      rw [if_neg client, if_neg wildcard, bindingOwner, if_neg notClient, if_neg notWildcard]
      rfl

theorem binding_distinct (key : Sized UInt8 16) : DistinctTags bindingCipher key sampleNonce := by
  intro src dst src' dst' same
  have owners := congrArg (fun tag => bindingOwner tag.val) same
  simp only [binding_owner, Prod.mk.injEq] at owners
  exact owners

theorem fail_closed_rejected_iff_sample :
    ∃ cid, (AuthCidGenerator.new .clientToServer sampleServer).generateCid bindingCipher sampleNonce = .ok cid ∧
      ∃ error, (Authenticator.new .clientToServer sampleServer).check bindingCipher
        (Header.datagram cid [] (.short 0x40 (by decide))) (.v4 sampleClient) = .ok (.error error) := by
  obtain ⟨cid, generated, rejected⟩ := (fail_closed_rejected_iff bindingCipher .clientToServer sampleNonce sampleServer
    (binding_distinct _)).1
  exact ⟨cid, generated, (rejected _ [] (.v4 sampleClient)).mpr (by decide)⟩

theorem fail_closed_cid_accepted :
    DistinctTags bindingCipher Direction.clientToServer.key sampleNonce ∧
      ∃ cid, (AuthCidGenerator.new .clientToServer sampleServer).generateCid bindingCipher sampleNonce = .ok cid ∧
        cid.val = [0, 1, 7, 7, 7, 7, 7, 7, 7, 7, 0xac, 0x24, 0x83, 0x43, 0x50, 0xa3, 0xa0, 0x6d, 0x5a, 0x6b] ∧
        (Authenticator.new .clientToServer sampleServer).check bindingCipher
          (Header.datagram cid [] (.short 0x40 (by decide))) (.v4 Ipv4Addr.unspecified) = .ok (.ok ()) := by
  have distinct := binding_distinct Direction.clientToServer.key
  refine ⟨distinct, _, mint_between_eq bindingCipher sampleNonce _ _ _, by decide +kernel, ?_⟩
  exact (check_token_iff bindingCipher .clientToServer sampleNonce Ipv4Addr.unspecified sampleServer sampleServer distinct
    _ [] _).mpr ⟨rfl, rfl⟩

end Pktauth.Auth
