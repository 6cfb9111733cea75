import Pktauth.Auth.Collision
import Pktauth.Blaster.InitialTemplate

set_option autoImplicit false

namespace Pktauth.Blaster

open Rust Auth

def TagChecked (result : Exec (Except AuthError Unit)) : Prop := result = .ok (.error .badTag) ∨ result = .ok (.ok ())

instance (result : Exec (Except AuthError Unit)) : Decidable (TagChecked result) := inferInstanceAs (Decidable (_ ∨ _))

theorem judge_tag_checked (aes : Cipher UInt8) (high low : UInt8) (nonce : Sized UInt8 8) (claimed : Sized UInt8 10)
    (direction : Direction) (src dst : Ipv4Addr) :
    TagChecked (.ok (judge aes high low nonce claimed direction src dst)) ↔
      [high, low] = u16ToBeBytes direction.selector := by
  rw [← u16_be_bytes_iff]
  by_cases matching : u16FromBeBytes high low = direction.selector
  · rw [judge_matching aes high low nonce claimed direction src dst matching]
    by_cases same : constantTimeEq claimed.val (tagOf aes direction.key nonce src dst).val = true
    · simp [TagChecked, same, matching]
    · simp [TagChecked, same, matching]
  · rcases judge_mismatched aes high low nonce claimed direction src dst matching with unknown | wrong
    · simp [TagChecked, unknown, matching]
    · simp [TagChecked, wrong, matching]

theorem verify_tag_checked (aes : Cipher UInt8) (token : Sized UInt8 20) (direction : Direction) (src dst : Ipv4Addr) :
    TagChecked (verify aes token.val direction src dst) ↔ token.val.take 2 = u16ToBeBytes direction.selector := by
  obtain ⟨high, low, nonce, claimed, fields⟩ := token_fields token.val token.2
  rw [fields, verify_fields, judge_tag_checked]
  rfl

theorem dcid_after_selector (endian : Endian) (seed : UInt64) (used : Nat) :
    (dcidAfter endian seed used).val.take 2 = (u64ToNeBytes endian (drawn seed (used + 1))).val.take 2 := by
  rw [dcidAfter, List.take_append_of_le_length (by simp)]

theorem check_layout (aes : Cipher UInt8) (authenticator : Authenticator) (size : Nat) (dcid : Sized UInt8 20) (src : Ipv4Addr) :
    authenticator.check aes (layout size dcid).bytes (.v4 src) =
      verify aes dcid.val authenticator.inbound src authenticator.localIp :=
  check_datagram aes authenticator initialHeader dcid (trailer size) src

theorem blasted_packet (endian : Endian) (size : Nat) (template : InitialTemplate)
    (built : InitialTemplate.new size = .ok (.ok template)) (seed : UInt64) (earlier : Nat) :
    randomizeTimes endian (earlier + 1) template ⟨seed⟩ =
      .ok (layout size (dcidAfter endian seed (3 * earlier)), advanced seed (3 * earlier + 3)) := by
  obtain ⟨_, _, rfl⟩ := new_ok size template built
  have start : advanced seed 0 = ⟨seed⟩ := by simp [advanced]
  simpa only [start, Nat.zero_add] using randomize_times endian size (filled 20 0) seed 0 earlier

theorem blasted_packet_tag_checked_iff (endian : Endian) (size : Nat) (template : InitialTemplate)
    (built : InitialTemplate.new size = .ok (.ok template)) (seed : UInt64) (count : Nat) (positive : 1 ≤ count) :
    ∃ blasted rng, randomizeTimes endian count template ⟨seed⟩ = .ok (blasted, rng) ∧
      ∀ (aes : Cipher UInt8) (src localIp : Ipv4Addr),
        TagChecked ((Authenticator.new .clientToServer localIp).check aes blasted.bytes (.v4 src)) ↔
          (u64ToNeBytes endian (mix (seed + UInt64.ofNat (3 * count - 2) * gamma))).val.take 2 = [0x00, 0x01] := by
  obtain ⟨earlier, rfl⟩ := Nat.exists_eq_add_of_le' positive
  refine ⟨_, _, blasted_packet endian size template built seed earlier, ?_⟩
  intro aes src localIp
  have draw : 3 * (earlier + 1) - 2 = 3 * earlier + 1 := by omega
  have selector : u16ToBeBytes Direction.clientToServer.selector = [0x00, 0x01] := by decide
  rw [check_layout, verify_tag_checked, dcid_after_selector, draw, Authenticator.new, selector, drawn]

theorem blasted_packet_tag_checked_iff_sample :
    ∃ template blasted rng, InitialTemplate.new 1200 = .ok (.ok template) ∧
      randomizeTimes .little 1 template ⟨19277⟩ = .ok (blasted, rng) ∧
      TagChecked ((Authenticator.new .clientToServer sampleServer).check sampleCipher blasted.bytes (.v4 sampleClient)) := by
  have built := new_fits 1200 (by decide) (by decide)
  obtain ⟨blasted, rng, run, checked⟩ := blasted_packet_tag_checked_iff .little 1200 _ built 19277 1 (by decide)
  exact ⟨_, blasted, rng, built, run, (checked sampleCipher sampleClient sampleServer).mpr (by decide +kernel)⟩

-- The first packet of the first worker that main spawns, on a little-endian
-- machine: its ID opens with the bytes 85 52.
def firstSeed : UInt64 := (SplitMix64.mk 0x243f6a8885a308d3).next.1

theorem first_packet_misses_tag_check :
    ∃ template blasted rng, InitialTemplate.new 1200 = .ok (.ok template) ∧
      randomizeTimes .little 1 template ⟨firstSeed⟩ = .ok (blasted, rng) ∧
      (Authenticator.new .clientToServer sampleServer).check sampleCipher blasted.bytes (.v4 sampleClient) =
        .ok (.error (.unknownSelector 0x8552)) ∧
      ¬ TagChecked ((Authenticator.new .clientToServer sampleServer).check sampleCipher blasted.bytes (.v4 sampleClient)) := by
  have built := new_fits 1200 (by decide) (by decide)
  have rejected : verify sampleCipher (dcidAfter .little firstSeed 0).val .clientToServer sampleClient sampleServer =
      .ok (.error (.unknownSelector 0x8552)) := by decide +kernel
  refine ⟨_, _, _, built, blasted_packet .little 1200 _ built firstSeed 0, ?_, ?_⟩
  · rw [check_layout]
    exact rejected
  · rw [check_layout, verify_tag_checked]
    decide +kernel

end Pktauth.Blaster
