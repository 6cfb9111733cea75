import Pktauth.Auth.Verify

set_option autoImplicit false

namespace Pktauth.Auth

open Rust

structure AuthCidGenerator where
  direction : Direction
  localIp : Ipv4Addr
deriving DecidableEq

def AuthCidGenerator.new (direction : Direction) (localIp : Ipv4Addr) : AuthCidGenerator := ⟨direction, localIp⟩

section Operations

variable {β : Type} [ByteLike β] (aes : Cipher β)

-- A Quinn ConnectionId holds the bytes it is made from, up to 20 of them.
def AuthCidGenerator.generateCid (generator : AuthCidGenerator) (nonce : Sized β 8) : Exec (Sized β 20) :=
  mintBetween aes nonce generator.direction Ipv4Addr.unspecified generator.localIp

def AuthCidGenerator.generateCidFor (generator : AuthCidGenerator) (nonce : Sized β 8) (remote : SocketAddr)
    (_localIp : Option IpAddr) : Exec (Sized β 20) :=
  match remote.ip with
  | .v4 peer => mintBetween aes nonce generator.direction peer generator.localIp
  | .v6 _ => mintBetween aes nonce generator.direction Ipv4Addr.unspecified generator.localIp

def initialDstCidProvider (peers : Peers) (nonce : Sized β 8) : Exec (Sized β 20) :=
  mint aes nonce .clientToServer peers

def boundSource : IpAddr → Ipv4Addr
  | .v4 peer => peer
  | .v6 _ => Ipv4Addr.unspecified

theorem generate_cid_for_eq (generator : AuthCidGenerator) (nonce : Sized β 8) (remote : SocketAddr) (localIp : Option IpAddr) :
    generator.generateCidFor aes nonce remote localIp =
      mintBetween aes nonce generator.direction (boundSource remote.ip) generator.localIp := by
  cases source : remote.ip <;> simp only [AuthCidGenerator.generateCidFor, source, boundSource]

theorem generate_cid_for_token (generator : AuthCidGenerator) (nonce : Sized β 8) (remote : SocketAddr)
    (localIp : Option IpAddr) (cid : Sized β 20) (generated : generator.generateCidFor aes nonce remote localIp = .ok cid) :
    cid = tokenOf aes generator.direction nonce (boundSource remote.ip) generator.localIp := by
  rw [generate_cid_for_eq, mint_between_eq, Except.ok.injEq] at generated
  exact generated.symm

theorem initial_dst_cid_token (peers : Peers) (nonce : Sized β 8) (cid : Sized β 20)
    (drawn : initialDstCidProvider aes peers nonce = .ok cid) :
    cid = tokenOf aes .clientToServer nonce peers.client peers.server := by
  rw [initialDstCidProvider, mint, mint_between_eq, Except.ok.injEq] at drawn
  exact drawn.symm

end Operations

end Pktauth.Auth
