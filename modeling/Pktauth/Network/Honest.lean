import Mathlib.Logic.Function.Basic
import Pktauth.Lib.Run
import Pktauth.Auth.Collision
import Pktauth.Network.Setup

set_option autoImplicit false

namespace Pktauth.Network

open Rust Auth Socket

-- One server, clients indexed by ι, and the connections each client has to the
-- server, indexed by κ. Two clients may well share an address.
structure Deployment (ι κ : Type) where
  server : Ipv4Addr
  client : ι → Ipv4Addr
  owner : κ → ι

inductive Party where
  | client
  | server
deriving DecidableEq

def Party.far : Party → Party
  | .client => .server
  | .server => .client

section Honest

variable {ι κ : Type} (deployment : Deployment ι κ)

def Deployment.peers (connection : κ) : Peers := ⟨deployment.client (deployment.owner connection), deployment.server⟩

def Deployment.address (connection : κ) : Party → Ipv4Addr
  | .client => (deployment.peers connection).client
  | .server => (deployment.peers connection).server

def Deployment.endpoint (connection : κ) : Party → Endpoint
  | .server =>
      serverEndpoint (PacketSocket.bind (some (Authenticator.new .clientToServer deployment.server))) deployment.server
  | .client =>
      let peers := deployment.peers connection
      clientEndpoint (PacketSocket.bind (some (Authenticator.new .serverToClient peers.client))) peers

structure Packet (κ : Type) where
  connection : κ
  receiver : Party
  source : SocketAddr
  bytes : List UInt8

structure Traffic (κ : Type) where
  initials : κ → List (Sized UInt8 20)
  issued : Party × κ → List (Sized UInt8 20)
  inFlight : List (Packet κ)
  delivered : List (Packet κ)

def Traffic.start {κ : Type} : Traffic κ := ⟨fun _ => [], fun _ => [], [], []⟩

-- The destination IDs an end may use: those the far end issued for this
-- connection and, at the client, its own Initial ones.
def Traffic.usable {κ : Type} (traffic : Traffic κ) (connection : κ) : Party → List (Sized UInt8 20)
  | .client => traffic.issued (.server, connection) ++ traffic.initials connection
  | .server => traffic.issued (.client, connection)

variable [DecidableEq κ] (aes : Cipher UInt8)

inductive Step : Traffic κ → Traffic κ → Prop where
  | drawInitial (traffic : Traffic κ) (connection : κ) (provider : Cipher UInt8 → Sized UInt8 8 → Exec (Sized UInt8 20))
      (nonce : Sized UInt8 8) (cid : Sized UInt8 20)
      (installed : (deployment.endpoint connection .client).initialDstCid = some provider)
      (drawn : provider aes nonce = .ok cid) :
      Step traffic
        { traffic with initials := Function.update traffic.initials connection (cid :: traffic.initials connection) }
  | issue (traffic : Traffic κ) (connection : κ) (issuer : Party) (port : UInt16) (localIp : Option IpAddr)
      (nonce : Sized UInt8 8) (cid : Sized UInt8 20)
      (generated : ((deployment.endpoint connection issuer).cidGenerator ()).generateCidFor aes nonce
        ⟨.v4 (deployment.address connection issuer.far), port⟩ localIp = .ok cid) :
      Step traffic
        { traffic with
          issued := Function.update traffic.issued (issuer, connection) (cid :: traffic.issued (issuer, connection)) }
  | send (traffic : Traffic κ) (connection : κ) (sender : Party) (port : UInt16) (header : Header) (cid : Sized UInt8 20)
      (tail : List UInt8) (known : cid ∈ traffic.usable connection sender) :
      Step traffic
        { traffic with
          inFlight :=
            ⟨connection, sender.far, ⟨.v4 (deployment.address connection sender), port⟩, header.datagram cid tail⟩ ::
              traffic.inFlight }
  | deliver (traffic : Traffic κ) (before after : List (Packet κ)) (packet : Packet κ)
      (queued : traffic.inFlight = before ++ packet :: after) :
      Step traffic { traffic with inFlight := before ++ after, delivered := packet :: traffic.delivered }
  | lose (traffic : Traffic κ) (before after : List (Packet κ)) (packet : Packet κ)
      (queued : traffic.inFlight = before ++ packet :: after) :
      Step traffic { traffic with inFlight := before ++ after }
  | duplicate (traffic : Traffic κ) (packet : Packet κ) (queued : packet ∈ traffic.inFlight) :
      Step traffic { traffic with inFlight := packet :: traffic.inFlight }
  | reorder (traffic : Traffic κ) (order : List (Packet κ)) (same : order.Perm traffic.inFlight) :
      Step traffic { traffic with inFlight := order }

def Admitted (packet : Packet κ) : Prop :=
  ∃ authenticator, (deployment.endpoint packet.connection packet.receiver).socket.authenticator = some authenticator ∧
    authenticator.check aes packet.bytes packet.source.ip = .ok (.ok ())

def Opens (connection : κ) (receiver : Party) (cid : Sized UInt8 20) : Prop :=
  ∀ (port : UInt16) (header : Header) (tail : List UInt8),
    Admitted deployment aes
      ⟨connection, receiver, ⟨.v4 (deployment.address connection receiver.far), port⟩, header.datagram cid tail⟩

structure Honest (traffic : Traffic κ) : Prop where
  initials : ∀ connection, ∀ cid ∈ traffic.initials connection, Opens deployment aes connection .server cid
  issued : ∀ issuer connection, ∀ cid ∈ traffic.issued (issuer, connection), Opens deployment aes connection issuer cid
  inFlight : ∀ packet ∈ traffic.inFlight, Admitted deployment aes packet
  delivered : ∀ packet ∈ traffic.delivered, Admitted deployment aes packet

omit [DecidableEq κ] in
theorem token_opens (connection : κ) (receiver : Party) (nonce : Sized UInt8 8) (inbound : Direction) (localIp : Ipv4Addr)
    (installed : (deployment.endpoint connection receiver).socket.authenticator = some (Authenticator.new inbound localIp)) :
    Opens deployment aes connection receiver
      (tokenOf aes inbound nonce (deployment.address connection receiver.far) localIp) := by
  intro port header tail
  refine ⟨Authenticator.new inbound localIp, installed, ?_⟩
  rw [check_datagram, verify_ok_iff_token]
  exact ⟨nonce, rfl⟩

-- The generators and the Initial provider bind the addresses in the order in
-- which the far socket recomputes them.
omit [DecidableEq κ] in
theorem issued_opens (connection : κ) (issuer : Party) (port : UInt16) (localIp : Option IpAddr) (nonce : Sized UInt8 8)
    (cid : Sized UInt8 20)
    (generated : ((deployment.endpoint connection issuer).cidGenerator ()).generateCidFor aes nonce
      ⟨.v4 (deployment.address connection issuer.far), port⟩ localIp = .ok cid) :
    Opens deployment aes connection issuer cid := by
  rw [generate_cid_for_token aes _ nonce _ localIp cid generated]
  cases issuer with
  | client => exact token_opens deployment aes connection .client nonce .serverToClient (deployment.peers connection).client rfl
  | server => exact token_opens deployment aes connection .server nonce .clientToServer deployment.server rfl

omit [DecidableEq κ] in
theorem initial_opens (connection : κ) (provider : Cipher UInt8 → Sized UInt8 8 → Exec (Sized UInt8 20))
    (nonce : Sized UInt8 8) (cid : Sized UInt8 20)
    (installed : (deployment.endpoint connection .client).initialDstCid = some provider)
    (drawn : provider aes nonce = .ok cid) : Opens deployment aes connection .server cid := by
  obtain rfl : (fun aes => initialDstCidProvider aes (deployment.peers connection)) = provider := Option.some.inj installed
  rw [initial_dst_cid_token aes (deployment.peers connection) nonce cid drawn]
  exact token_opens deployment aes connection .server nonce .clientToServer deployment.server rfl

omit [DecidableEq κ] in
theorem usable_opens (traffic : Traffic κ) (honest : Honest deployment aes traffic) (connection : κ) (sender : Party)
    (cid : Sized UInt8 20) (known : cid ∈ traffic.usable connection sender) :
    Opens deployment aes connection sender.far cid := by
  cases sender with
  | client =>
      rcases List.mem_append.mp known with issued | initial
      · exact honest.issued .server connection cid issued
      · exact honest.initials connection cid initial
  | server => exact honest.issued .client connection cid known

omit [DecidableEq κ] in
theorem honest_start : Honest deployment aes (Traffic.start : Traffic κ) := by
  refine ⟨?_, ?_, ?_, ?_⟩ <;> simp [Traffic.start]

theorem honest_step (traffic after : Traffic κ) (honest : Honest deployment aes traffic)
    (step : Step deployment aes traffic after) : Honest deployment aes after := by
  cases step with
  | drawInitial connection provider nonce cid installed drawn =>
      have opens := initial_opens deployment aes connection provider nonce cid installed drawn
      refine ⟨?_, honest.issued, honest.inFlight, honest.delivered⟩
      exact (Function.forall_update_iff traffic.initials
        (fun connection list => ∀ cid ∈ list, Opens deployment aes connection .server cid)).mpr
        ⟨List.forall_mem_cons.mpr ⟨opens, honest.initials connection⟩, fun other _ => honest.initials other⟩
  | issue connection issuer port localIp nonce cid generated =>
      have opens := issued_opens deployment aes connection issuer port localIp nonce cid generated
      have all : ∀ key, ∀ id ∈ Function.update traffic.issued (issuer, connection)
          (cid :: traffic.issued (issuer, connection)) key, Opens deployment aes key.2 key.1 id :=
        (Function.forall_update_iff traffic.issued (fun key list => ∀ id ∈ list, Opens deployment aes key.2 key.1 id)).mpr
          ⟨List.forall_mem_cons.mpr ⟨opens, honest.issued issuer connection⟩, fun key _ => honest.issued key.1 key.2⟩
      exact ⟨honest.initials, fun party other => all (party, other), honest.inFlight, honest.delivered⟩
  | send connection sender port header cid tail known =>
      refine ⟨honest.initials, honest.issued, ?_, honest.delivered⟩
      intro packet member
      rcases List.mem_cons.mp member with rfl | earlier
      · have opens := usable_opens deployment aes traffic honest connection sender cid known port header tail
        cases sender <;> exact opens
      · exact honest.inFlight packet earlier
  | deliver before rest packet queued =>
      have passing := queued ▸ honest.inFlight
      refine ⟨honest.initials, honest.issued, fun other member => passing other ?_, ?_⟩
      · exact List.mem_append.mpr ((List.mem_append.mp member).imp_right (List.mem_cons_of_mem packet))
      · intro other member
        rcases List.mem_cons.mp member with rfl | earlier
        · exact passing other (by simp)
        · exact honest.delivered other earlier
  | lose before rest packet queued =>
      have passing := queued ▸ honest.inFlight
      refine ⟨honest.initials, honest.issued, fun other member => passing other ?_, honest.delivered⟩
      exact List.mem_append.mpr ((List.mem_append.mp member).imp_right (List.mem_cons_of_mem packet))
  | duplicate packet queued =>
      refine ⟨honest.initials, honest.issued, ?_, honest.delivered⟩
      intro other member
      rcases List.mem_cons.mp member with rfl | earlier
      · exact honest.inFlight other queued
      · exact honest.inFlight other earlier
  | reorder order same =>
      exact ⟨honest.initials, honest.issued, fun other member => honest.inFlight other (same.mem_iff.mp member), honest.delivered⟩

theorem honest_reachable (traffic : Traffic κ) (reach : Relation.ReflTransGen (Step deployment aes) Traffic.start traffic) :
    Honest deployment aes traffic :=
  Run.invariant (Step deployment aes) (Honest deployment aes) Traffic.start (honest_start deployment aes)
    (honest_step deployment aes) traffic reach

theorem honest_datagram_never_rejected (traffic : Traffic κ)
    (reach : Relation.ReflTransGen (Step deployment aes) Traffic.start traffic) (packet : Packet κ)
    (arrived : packet ∈ traffic.delivered) :
    ∃ authenticator, (deployment.endpoint packet.connection packet.receiver).socket.authenticator = some authenticator ∧
      authenticator.check aes packet.bytes packet.source.ip = .ok (.ok ()) := by
  exact (honest_reachable deployment aes traffic reach).delivered packet arrived

end Honest

def sampleDeployment : Deployment Unit Unit := ⟨sampleServer, fun _ => sampleClient, fun _ => ()⟩
def sampleHeader : Header := .short 0x40 (by decide)
def sampleToken (direction : Direction) : Sized UInt8 20 :=
  let path := direction.path ⟨sampleClient, sampleServer⟩
  tokenOf sampleCipher direction sampleNonce path.1 path.2

theorem honest_datagram_never_rejected_sample :
    ∃ traffic : Traffic Unit, Relation.ReflTransGen (Step sampleDeployment sampleCipher) Traffic.start traffic ∧
      ∃ packet ∈ traffic.delivered, packet.receiver = .server ∧
        ∃ authenticator, (sampleDeployment.endpoint packet.connection packet.receiver).socket.authenticator = some authenticator ∧
          authenticator.check sampleCipher packet.bytes packet.source.ip = .ok (.ok ()) := by
  have drawn : initialDstCidProvider sampleCipher ⟨sampleClient, sampleServer⟩ sampleNonce =
      .ok (sampleToken .clientToServer) := by
    rw [initialDstCidProvider, mint, mint_between_eq]
    rfl
  have reach := Relation.ReflTransGen.refl (r := Step sampleDeployment sampleCipher) (a := Traffic.start)
    |>.tail (.drawInitial _ () _ sampleNonce _ rfl drawn)
    |>.tail (.send _ () .client 4433 sampleHeader (sampleToken .clientToServer) [1, 2, 3] (by simp [Traffic.usable]))
    |>.tail (.deliver _ [] [] _ rfl)
  exact ⟨_, reach, _, List.mem_cons_self, rfl,
    honest_datagram_never_rejected sampleDeployment sampleCipher _ reach _ List.mem_cons_self⟩

end Pktauth.Network
