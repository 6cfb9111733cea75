import Pktauth.Lib.Run
import Pktauth.Auth.CidGenerator
import Pktauth.Auth.Symbolic

set_option autoImplicit false

namespace Pktauth.Network

open Rust Auth

inductive MintCall where
  | cidFor (generator : AuthCidGenerator) (remote : SocketAddr) (localIp : Option IpAddr)
  | cid (generator : AuthCidGenerator)
  | initial (peers : Peers)

def MintCall.run (aes : Cipher Traced) (nonce : Sized Traced 8) : MintCall → Exec (Sized Traced 20)
  | .cidFor generator remote localIp => generator.generateCidFor aes nonce remote localIp
  | .cid generator => generator.generateCid aes nonce
  | .initial peers => initialDstCidProvider aes peers nonce

inductive Event where
  | minted (call : MintCall) (token : Sized Traced 20)
  | injected (datagram : List Traced) (source : IpAddr)

-- The attacker has every byte value at hand, and the bytes of the tags in the
-- tokens it has seen.
def Known (events : List Event) (byte : Traced) : Prop :=
  byte.origin = none ∨ ∃ call token, .minted call token ∈ events ∧ byte ∈ token.val

section Attack

variable (aes : Cipher UInt8)

inductive AttackStep : List Event → List Event → Prop where
  | mint (events : List Event) (call : MintCall) (nonce : Sized UInt8 8) (token : Sized Traced 20)
      (minted : call.run (symbolic aes) (plain nonce) = .ok token) : AttackStep events (.minted call token :: events)
  | inject (events : List Event) (datagram : List Traced) (source : IpAddr)
      (derivable : ∀ byte ∈ datagram, Known events byte) : AttackStep events (.injected datagram source :: events)

theorem event_step (events later earlier : List Event) (event : Event)
    (reach : Relation.ReflTransGen (AttackStep aes) [] events) (split : events = later ++ event :: earlier) :
    Relation.ReflTransGen (AttackStep aes) [] earlier ∧ AttackStep aes earlier (event :: earlier) := by
  refine Run.recorded_step (AttackStep aes) ?_ events later earlier event reach split
  intro before after step
  cases step with
  | mint call nonce token minted => exact ⟨_, rfl⟩
  | inject datagram source derivable => exact ⟨_, rfl⟩

theorem mint_call_token (call : MintCall) (nonce : Sized Traced 8) (token : Sized Traced 20)
    (minted : call.run (symbolic aes) nonce = .ok token) :
    ∃ direction src dst, token = tokenOf (symbolic aes) direction nonce src dst := by
  cases call with
  | cidFor generator remote localIp => exact ⟨_, _, _, generate_cid_for_token _ generator nonce remote localIp token minted⟩
  | cid generator =>
      rw [MintCall.run, AuthCidGenerator.generateCid, mint_between_eq, Except.ok.injEq] at minted
      exact ⟨_, _, _, minted.symm⟩
  | initial peers => exact ⟨_, _, _, initial_dst_cid_token _ peers nonce token minted⟩

theorem minted_token (events : List Event) (reach : Relation.ReflTransGen (AttackStep aes) [] events) (call : MintCall)
    (token : Sized Traced 20) (member : .minted call token ∈ events) :
    ∃ (nonce : Sized UInt8 8) (direction : Direction) (src dst : Ipv4Addr),
      token = tokenOf (symbolic aes) direction (plain nonce) src dst := by
  obtain ⟨later, earlier, split⟩ := List.append_of_mem member
  cases (event_step aes events later earlier _ reach split).2 with
  | mint _ nonce _ minted =>
      obtain ⟨direction, src, dst, shape⟩ := mint_call_token aes call (plain nonce) token minted
      exact ⟨nonce, direction, src, dst, shape⟩

-- A tag the attacker can write down belongs to a token minted for the same
-- direction and addresses, with the nonce that stands in front of it.
theorem known_tag_minted (events : List Event) (reach : Relation.ReflTransGen (AttackStep aes) [] events)
    (direction : Direction) (nonce : Sized Traced 8) (src dst : Ipv4Addr)
    (known : ∀ byte ∈ (tagOf (symbolic aes) direction.key nonce src dst).val, Known events byte) :
    ∃ (call : MintCall) (drawn : Sized UInt8 8), values nonce = drawn ∧
      .minted call (tokenOf (symbolic aes) direction (plain drawn) src dst) ∈ events := by
  obtain ⟨byte, member⟩ := tag_nonempty aes direction.key nonce src dst
  obtain ⟨index, origin⟩ := tag_origin aes direction.key nonce src dst byte member
  rcases known byte member with unlabelled | ⟨call, token, minted, inToken⟩
  · rw [origin] at unlabelled
    cases unlabelled
  · obtain ⟨drawn, other, src', dst', shape⟩ := minted_token aes events reach call token minted
    have labelled : byte.origin ≠ none := by simp [origin]
    have inTag := token_origin aes other drawn src' dst' byte (shape ▸ inToken) labelled
    obtain ⟨rfl, sameNonce, rfl, rfl⟩ := tag_shared_byte aes direction other nonce (plain drawn) src src' dst dst' byte member inTag
    rw [values_plain] at sameNonce
    exact ⟨call, drawn, sameNonce, shape ▸ minted⟩

theorem destination_cid_subset (datagram cid : List Traced) (found : destinationCid datagram = some cid) : cid ⊆ datagram := by
  cases datagram with
  | nil => simp [destinationCid] at found
  | cons first rest =>
      simp only [destinationCid, List.head?_cons] at found
      by_cases long : ByteLike.value first &&& 0x80 ≠ 0
      · rw [if_pos long] at found
        cases lengthByte : (first :: rest)[5]? with
        | none => simp [lengthByte] at found
        | some byte =>
            simp only [lengthByte] at found
            by_cases large : (ByteLike.value byte).toNat > tokenLen
            · simp [large] at found
            · rw [if_neg large] at found
              exact slice_get_subset _ _ _ _ found
      · rw [if_neg long] at found
        exact slice_get_subset _ _ _ _ found

theorem accepted_cid_minted (events : List Event) (reach : Relation.ReflTransGen (AttackStep aes) [] events) (cid : List Traced)
    (known : ∀ byte ∈ cid, Known events byte) (direction : Direction) (src dst : Ipv4Addr)
    (accepted : verify (symbolic aes) cid direction src dst = .ok (.ok ())) :
    ∃ (call : MintCall) (nonce : Sized UInt8 8) (token : Sized Traced 20), .minted call token ∈ events ∧
      mintBetween (symbolic aes) (plain nonce) direction src dst = .ok token ∧
      cid.map Traced.value = token.val.map Traced.value ∧ cid.drop 10 = token.val.drop 10 := by
  obtain ⟨high, low, nonce, rfl, selector⟩ := (verify_ok_iff (symbolic aes) cid direction src dst).mp accepted
  obtain ⟨call, drawn, sameNonce, minted⟩ := known_tag_minted aes events reach direction nonce src dst
    (fun byte member => known byte (by simp [member]))
  have sameTag : tagOf (symbolic aes) direction.key nonce src dst = tagOf (symbolic aes) direction.key (plain drawn) src dst :=
    tag_values aes direction.key nonce (plain drawn) src dst (by rw [sameNonce, values_plain])
  refine ⟨call, drawn, _, minted, mint_between_eq (symbolic aes) (plain drawn) direction src dst, ?_, ?_⟩
  · have nonces : nonce.val.map Traced.value = (plain drawn).val.map Traced.value :=
      congrArg Subtype.val (sameNonce.trans (values_plain drawn).symm)
    have selectors : [high.value, low.value] = ((u16ToBeBytes direction.selector).map ByteLike.ofByte).map Traced.value :=
      selector.trans (map_value_of_byte (β := Traced) _).symm
    calc (high :: low :: (nonce.val ++ (tagOf (symbolic aes) direction.key nonce src dst).val)).map Traced.value
        = [high.value, low.value] ++ (nonce.val.map Traced.value ++
            (tagOf (symbolic aes) direction.key nonce src dst).val.map Traced.value) := by simp
      _ = (tokenOf (symbolic aes) direction (plain drawn) src dst).val.map Traced.value := by
          rw [selectors, nonces, sameTag]
          simp [tokenOf]
  · simp [tokenOf, u16ToBeBytes, sameTag]

theorem accepted_datagram_was_minted (events later earlier : List Event)
    (reach : Relation.ReflTransGen (AttackStep aes) [] events) (datagram : List Traced) (src : IpAddr)
    (split : events = later ++ .injected datagram src :: earlier) (direction : Direction) (localIp : Ipv4Addr)
    (accepted : (Authenticator.new direction localIp).check (symbolic aes) datagram src = .ok (.ok ())) :
    ∃ (s : Ipv4Addr) (cid : List Traced), src = .v4 s ∧ destinationCid datagram = some cid ∧
      (∃ (call : MintCall) (nonce : Sized UInt8 8) (token : Sized Traced 20), .minted call token ∈ earlier ∧
        mintBetween (symbolic aes) (plain nonce) direction s localIp = .ok token ∧
        cid.map Traced.value = token.val.map Traced.value ∧ cid.drop 10 = token.val.drop 10) ∧
      (∀ (call : MintCall) (token : Sized Traced 20) (nonce : Sized UInt8 8) (other : Direction) (s' localIp' : Ipv4Addr),
        .minted call token ∈ events → mintBetween (symbolic aes) (plain nonce) other s' localIp' = .ok token →
        cid = token.val → other = direction ∧ s' = s ∧ localIp' = localIp) := by
  obtain ⟨run, step⟩ := event_step aes events later earlier _ reach split
  cases step with
  | inject _ _ derivable =>
      cases src with
      | v6 octets => cases accepted
      | v4 s =>
          cases found : destinationCid datagram with
          | none =>
              rw [Authenticator.check, found] at accepted
              cases accepted
          | some cid =>
              rw [Authenticator.check, found] at accepted
              have known (byte : Traced) (member : byte ∈ cid) : Known earlier byte :=
                derivable byte (destination_cid_subset datagram cid found member)
              refine ⟨s, cid, rfl, rfl, accepted_cid_minted aes earlier run cid known direction s localIp accepted, ?_⟩
              rintro call token nonce other s' localIp' _ minted rfl
              rw [mint_between_eq, Except.ok.injEq] at minted
              subst minted
              exact verify_token_path aes direction other (plain nonce) s s' localIp localIp' accepted

end Attack

def capturedToken : Sized Traced 20 := tokenOf (symbolic sampleCipher) .clientToServer (plain sampleNonce) sampleClient sampleServer
def replayedDatagram : List Traced := ByteLike.ofByte 0x40 :: capturedToken.val

theorem accepted_datagram_was_minted_sample :
    ∃ events later earlier, Relation.ReflTransGen (AttackStep sampleCipher) [] events ∧
      events = later ++ .injected replayedDatagram (.v4 sampleClient) :: earlier ∧
      (Authenticator.new .clientToServer sampleServer).check (symbolic sampleCipher) replayedDatagram (.v4 sampleClient) =
        .ok (.ok ()) ∧
      ∃ (call : MintCall) (nonce : Sized UInt8 8) (token : Sized Traced 20), .minted call token ∈ earlier ∧
        mintBetween (symbolic sampleCipher) (plain nonce) .clientToServer sampleClient sampleServer = .ok token := by
  have drawn : (MintCall.initial ⟨sampleClient, sampleServer⟩).run (symbolic sampleCipher) (plain sampleNonce) =
      .ok capturedToken := by
    rw [MintCall.run, initialDstCidProvider, mint, mint_between_eq]
    rfl
  have derivable : ∀ byte ∈ replayedDatagram, Known [.minted (.initial ⟨sampleClient, sampleServer⟩) capturedToken] byte := by
    intro byte member
    rcases List.mem_cons.mp member with rfl | captured
    · exact .inl rfl
    · exact .inr ⟨_, capturedToken, List.mem_cons_self, captured⟩
  have reach := Relation.ReflTransGen.refl (r := AttackStep sampleCipher) (a := [])
    |>.tail (.mint _ (.initial ⟨sampleClient, sampleServer⟩) sampleNonce capturedToken drawn)
    |>.tail (.inject _ replayedDatagram (.v4 sampleClient) derivable)
  have accepted : (Authenticator.new .clientToServer sampleServer).check (symbolic sampleCipher) replayedDatagram
      (.v4 sampleClient) = .ok (.ok ()) := by decide +kernel
  obtain ⟨s, cid, source, found, ⟨call, nonce, token, minted, honest, _⟩, _⟩ := accepted_datagram_was_minted sampleCipher _ [] _
    reach replayedDatagram (.v4 sampleClient) rfl .clientToServer sampleServer accepted
  cases source
  exact ⟨_, [], _, reach, rfl, accepted, call, nonce, token, minted, honest⟩

end Pktauth.Network
