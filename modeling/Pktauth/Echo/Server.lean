import Pktauth.Echo.Crowd
import Pktauth.Echo.Progress

set_option autoImplicit false

namespace Pktauth.Echo

open Rust Network

-- The connection as its server sees it: what the client is doing is not part
-- of it.
def Exchange.facing (x : Exchange) : Exchange := { x with ping := .opening }

def Link.crowd {ι : Type} (link : Link ι) : Crowd ι := ⟨fun i => (link.exchanges i).facing, link.opened, link.serverLost⟩

section Facing

variable {ι : Type} [DecidableEq ι] (window streams : Nat) (payload : ι → List UInt8)

end Facing

-- One client of the server, from its Incoming to the task that serves it. What
-- serve_connection returns is dropped, and so is a failed handshake.
inductive Visitor (ι : Type) where
  | away
  | waiting
  | handshaking
  | refused
  | honest (link : Link ι)
  | hostile (crowd : Crowd ι)

def Visitor.spawned {ι : Type} : Visitor ι → Prop
  | .away | .waiting => False
  | .handshaking | .refused | .honest _ | .hostile _ => True

def Visitor.held {ι : Type} (streams : Finset ι) : Visitor ι → Nat
  | .away | .waiting | .handshaking | .refused => 0
  | .honest link => ∑ i ∈ streams, (link.exchanges i).echo.buffered.length
  | .hostile crowd => ∑ i ∈ streams, (crowd.exchanges i).echo.buffered.length

structure Server (κ ι : Type) where
  visitors : κ → Visitor ι
  arrived : List κ
  accepted : Nat
  closed : Bool
  returned : Bool

def Server.start {κ ι : Type} : Server κ ι := ⟨fun _ => .away, [], 0, false, false⟩

section Serving

variable {κ ι : Type} [DecidableEq κ] [DecidableEq ι] (window streams : Nat) (obeys : κ → Bool) (payload : κ → ι → List UInt8)

def Server.put (server : Server κ ι) (k : κ) (visitor : Visitor ι) : Server κ ι :=
  { server with visitors := Function.update server.visitors k visitor }

-- What the server and its honest clients have left to do.
section Work

variable [Fintype ι]

def Visitor.weight (payload : ι → List UInt8) : Visitor ι → Nat
  | .away | .refused | .hostile _ => 0
  | .waiting => (Link.start : Link ι).weight payload + 2
  | .handshaking => (Link.start : Link ι).weight payload + 1
  | .honest link => link.weight payload

variable [Fintype κ]

def Server.weight (server : Server κ ι) : Nat :=
  ∑ k, (server.visitors k).weight (payload k) + (!server.returned).toNat

end Work

end Serving

end Pktauth.Echo
