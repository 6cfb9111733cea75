import Pktauth.Auth.Verify

set_option autoImplicit false

namespace Pktauth.Auth

open Rust

-- The two QUIC header forms a datagram may open with, up to the destination
-- connection ID. The length of a short header's ID is not on the wire.
inductive Header where
  | long (first : UInt8) (topSet : first &&& 0x80 ≠ 0) (version : Sized UInt8 4)
  | short (first : UInt8) (topClear : first &&& 0x80 = 0)

def Header.datagram (cid : Sized UInt8 20) (tail : List UInt8) : Header → List UInt8
  | .long first _ version => first :: (version.val ++ 20 :: (cid.val ++ tail))
  | .short first _ => first :: (cid.val ++ tail)

theorem destination_cid_datagram (header : Header) (cid : Sized UInt8 20) (tail : List UInt8) :
    destinationCid (header.datagram cid tail) = some cid.val := by
  cases header with
  | long first topSet version =>
      obtain ⟨bytes, four⟩ := version
      match bytes, four with
      | [v0, v1, v2, v3], _ =>
          have field : sliceGet (first :: v0 :: v1 :: v2 :: v3 :: 20 :: (cid.val ++ tail)) 6 26 = some cid.val := by
            simpa using slice_get_append [first, v0, v1, v2, v3, 20] cid.val tail
          simpa [destinationCid, Header.datagram, topSet, tokenLen] using field
  | short first topClear =>
      have field : sliceGet (first :: (cid.val ++ tail)) 1 21 = some cid.val := by
        simpa using slice_get_append [first] cid.val tail
      simpa [destinationCid, Header.datagram, topClear, tokenLen] using field

theorem short_header_token (first : UInt8) (rest : List UInt8) (topClear : first &&& 0x80 = 0) (cid : Sized UInt8 20)
    (found : destinationCid (first :: rest) = some cid.val) :
    ∃ tail, first :: rest = Header.datagram cid tail (.short first topClear) := by
  have field : sliceGet (first :: rest) 1 21 = some cid.val := by
    simpa [destinationCid, topClear, tokenLen] using found
  by_cases bound : 21 ≤ (first :: rest).length
  · rw [slice_get_some _ _ _ (by omega) bound] at field
    have split : rest.take 20 = cid.val := by simpa using field
    exact ⟨rest.drop 20, by rw [Header.datagram, ← split, List.take_append_drop]⟩
  · rw [slice_get_none _ _ _ (by omega)] at field
    cases field

-- The ID has full token length only when the length byte says so.
theorem long_header_token (first v0 v1 v2 v3 byte : UInt8) (body : List UInt8) (topSet : first &&& 0x80 ≠ 0)
    (cid : Sized UInt8 20) (found : destinationCid (first :: v0 :: v1 :: v2 :: v3 :: byte :: body) = some cid.val) :
    ∃ tail, first :: v0 :: v1 :: v2 :: v3 :: byte :: body =
      Header.datagram cid tail (.long first topSet ⟨[v0, v1, v2, v3], rfl⟩) := by
  by_cases large : byte.toNat > 20
  · simp [destinationCid, topSet, tokenLen, large] at found
  · have field : sliceGet (first :: v0 :: v1 :: v2 :: v3 :: byte :: body) 6 (6 + byte.toNat) = some cid.val := by
      simpa [destinationCid, topSet, tokenLen, large] using found
    by_cases bound : 6 + byte.toNat ≤ (first :: v0 :: v1 :: v2 :: v3 :: byte :: body).length
    · rw [slice_get_some _ _ _ (by omega) bound] at field
      have split : body.take byte.toNat = cid.val := by simpa using field
      have full : byte.toNat = 20 := by
        have lengths := congrArg List.length split
        simp only [List.length_cons] at bound
        simp only [List.length_take, sized_length] at lengths
        omega
      have literal : byte = 20 := UInt8.toNat_inj.mp full
      refine ⟨body.drop 20, ?_⟩
      rw [full] at split
      simp only [Header.datagram, literal, ← split, List.cons_append, List.nil_append, List.take_append_drop]
    · rw [slice_get_none _ _ _ (by omega)] at field
      cases field

theorem destination_cid_token (datagram : List UInt8) (cid : Sized UInt8 20)
    (found : destinationCid datagram = some cid.val) : ∃ header tail, datagram = Header.datagram cid tail header := by
  cases datagram with
  | nil => simp [destinationCid] at found
  | cons first rest =>
      by_cases topClear : first &&& 0x80 = 0
      · exact ⟨.short first topClear, short_header_token first rest topClear cid found⟩
      · rcases rest with _ | ⟨v0, _ | ⟨v1, _ | ⟨v2, _ | ⟨v3, _ | ⟨byte, body⟩⟩⟩⟩⟩
        · simp [destinationCid, topClear] at found
        · simp [destinationCid, topClear] at found
        · simp [destinationCid, topClear] at found
        · simp [destinationCid, topClear] at found
        · simp [destinationCid, topClear] at found
        · exact ⟨.long first topClear ⟨[v0, v1, v2, v3], rfl⟩, long_header_token first v0 v1 v2 v3 byte body topClear cid found⟩

theorem check_datagram (aes : Cipher UInt8) (authenticator : Authenticator) (header : Header) (cid : Sized UInt8 20)
    (tail : List UInt8) (src : Ipv4Addr) :
    authenticator.check aes (header.datagram cid tail) (.v4 src) =
      verify aes cid.val authenticator.inbound src authenticator.localIp := by
  simp only [Authenticator.check, destination_cid_datagram]

theorem check_ok_token (aes : Cipher UInt8) (authenticator : Authenticator) (datagram : List UInt8) (src : IpAddr)
    (accepted : authenticator.check aes datagram src = .ok (.ok ())) :
    ∃ (s : Ipv4Addr) (nonce : Sized UInt8 8) (header : Header) (tail : List UInt8), src = .v4 s ∧
      datagram = header.datagram (tokenOf aes authenticator.inbound nonce s authenticator.localIp) tail := by
  cases src with
  | v6 octets => cases accepted
  | v4 s =>
      cases found : destinationCid datagram with
      | none =>
          rw [Authenticator.check, found] at accepted
          cases accepted
      | some cid =>
          rw [Authenticator.check, found] at accepted
          obtain ⟨nonce, rfl⟩ := (verify_ok_iff_token aes cid _ s _).mp accepted
          obtain ⟨header, tail, shape⟩ := destination_cid_token datagram _ found
          exact ⟨s, nonce, header, tail, rfl, shape⟩

theorem token_of_nonce (aes : Cipher UInt8) (direction : Direction) (nonce : Sized UInt8 8) (src dst : Ipv4Addr) :
    ((tokenOf aes direction nonce src dst).val.drop 2).take 8 = nonce.val := by
  simp [tokenOf, u16ToBeBytes]

theorem check_accepts_exactly (aes : Cipher UInt8) (direction : Direction) (localIp : Ipv4Addr) :
    (∀ (datagram : List UInt8) (src : IpAddr),
      (Authenticator.new direction localIp).check aes datagram src = .ok (.ok ()) ↔
        ∃ (s : Ipv4Addr) (nonce : Sized UInt8 8) (token : Sized UInt8 20) (header : Header) (tail : List UInt8),
          src = .v4 s ∧ assemble aes direction nonce.val s localIp = .ok token ∧ datagram = header.datagram token tail) ∧
    (∀ (s : Ipv4Addr) (nonce : Sized UInt8 8) (header : Header) (tail : List UInt8),
      ∃! token : Sized UInt8 20, (token.val.drop 2).take 8 = nonce.val ∧
        (Authenticator.new direction localIp).check aes (header.datagram token tail) (.v4 s) = .ok (.ok ())) := by
  refine ⟨fun datagram src => ⟨fun accepted => ?_, ?_⟩, fun s nonce header tail => ?_⟩
  · obtain ⟨s, nonce, header, tail, source, shape⟩ := check_ok_token aes _ datagram src accepted
    exact ⟨s, nonce, _, header, tail, source, assemble_eq aes direction nonce s localIp, shape⟩
  · rintro ⟨s, nonce, token, header, tail, rfl, assembled, rfl⟩
    rw [assemble_eq, Except.ok.injEq] at assembled
    rw [check_datagram, verify_ok_iff_token, ← assembled]
    exact ⟨nonce, rfl⟩
  · refine ⟨tokenOf aes direction nonce s localIp, ⟨token_of_nonce aes direction nonce s localIp, ?_⟩, ?_⟩
    · rw [check_datagram, verify_ok_iff_token]
      exact ⟨nonce, rfl⟩
    · rintro other ⟨sameNonce, accepted⟩
      rw [check_datagram, verify_ok_iff_token] at accepted
      obtain ⟨otherNonce, shape⟩ := accepted
      rw [shape, token_of_nonce] at sameNonce
      rw [sized_ext otherNonce nonce sameNonce] at shape
      exact sized_ext other _ shape

end Pktauth.Auth
