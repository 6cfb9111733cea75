import Pktauth.Rust.Slice

set_option autoImplicit false

namespace Rust

structure Ipv4Addr where
  a : UInt8
  b : UInt8
  c : UInt8
  d : UInt8
deriving DecidableEq, Repr

def Ipv4Addr.octets (address : Ipv4Addr) : List UInt8 := [address.a, address.b, address.c, address.d]

def Ipv4Addr.unspecified : Ipv4Addr := ⟨0, 0, 0, 0⟩

@[simp] theorem ipv4_octets_length (address : Ipv4Addr) : address.octets.length = 4 := rfl

theorem ipv4_octets_injective (a b : Ipv4Addr) (same : a.octets = b.octets) : a = b := by
  cases a
  cases b
  simpa [Ipv4Addr.octets] using same

inductive IpAddr where
  | v4 (address : Ipv4Addr)
  | v6 (octets : Sized UInt8 16)
deriving DecidableEq

structure SocketAddr where
  ip : IpAddr
  port : UInt16
deriving DecidableEq

end Rust
