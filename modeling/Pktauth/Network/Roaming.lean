import Pktauth.Auth.Binding
import Pktauth.Network.Honest

set_option autoImplicit false

namespace Pktauth.Network

open Rust Auth Socket

-- Clients that change their address, or whose NAT does it for them. The server
-- issues IDs for the addresses it has admitted a datagram from, since Quinn
-- knows of no other. Everything in flight may be delivered again.
structure Roaming (κ : Type) where
  position : κ → Ipv4Addr
  tokens : κ → List (Sized UInt8 20)
  known : κ → List Ipv4Addr
  inFlight : List (Packet κ)
  admitted : List (Packet κ)
  rejected : List (Packet κ)

section Roaming

variable {ι κ : Type} (deployment : Deployment ι κ) (aes : Cipher UInt8)

def Deployment.home (connection : κ) : Ipv4Addr := (deployment.peers connection).client

def Deployment.serverAuthenticator : Authenticator := Authenticator.new .clientToServer deployment.server

def Roaming.start : Roaming κ := ⟨deployment.home, fun _ => [], fun _ => [], [], [], []⟩

variable [DecidableEq κ] (Visited : Ipv4Addr → Prop) (Drawn : Sized UInt8 8 → Prop)

inductive RoamStep : Roaming κ → Roaming κ → Prop where
  | move (roaming : Roaming κ) (connection : κ) (place : Ipv4Addr) (visited : Visited place) :
      RoamStep roaming { roaming with position := Function.update roaming.position connection place }
  | drawInitial (roaming : Roaming κ) (connection : κ) (provider : Cipher UInt8 → Sized UInt8 8 → Exec (Sized UInt8 20))
      (nonce : Sized UInt8 8) (cid : Sized UInt8 20) (fresh : Drawn nonce)
      (installed : (deployment.endpoint connection .client).initialDstCid = some provider)
      (drawn : provider aes nonce = .ok cid) :
      RoamStep roaming
        { roaming with tokens := Function.update roaming.tokens connection (cid :: roaming.tokens connection) }
  | issue (roaming : Roaming κ) (connection : κ) (place : Ipv4Addr) (port : UInt16) (localIp : Option IpAddr)
      (nonce : Sized UInt8 8) (cid : Sized UInt8 20) (fresh : Drawn nonce) (seen : place ∈ roaming.known connection)
      (generated : ((deployment.endpoint connection .server).cidGenerator ()).generateCidFor aes nonce ⟨.v4 place, port⟩
        localIp = .ok cid) :
      RoamStep roaming
        { roaming with tokens := Function.update roaming.tokens connection (cid :: roaming.tokens connection) }
  | send (roaming : Roaming κ) (connection : κ) (port : UInt16) (header : Header) (cid : Sized UInt8 20) (tail : List UInt8)
      (held : cid ∈ roaming.tokens connection) :
      RoamStep roaming
        { roaming with
          inFlight := ⟨connection, .server, ⟨.v4 (roaming.position connection), port⟩, header.datagram cid tail⟩ ::
            roaming.inFlight }
  | accept (roaming : Roaming κ) (packet : Packet κ) (place : Ipv4Addr) (queued : packet ∈ roaming.inFlight)
      (origin : packet.source.ip = .v4 place)
      (genuine : deployment.serverAuthenticator.check aes packet.bytes packet.source.ip = .ok (.ok ())) :
      RoamStep roaming
        { roaming with
          known := Function.update roaming.known packet.connection (place :: roaming.known packet.connection)
          admitted := packet :: roaming.admitted }
  | reject (roaming : Roaming κ) (packet : Packet κ) (error : AuthError) (queued : packet ∈ roaming.inFlight)
      (forged : deployment.serverAuthenticator.check aes packet.bytes packet.source.ip = .ok (.error error)) :
      RoamStep roaming { roaming with rejected := packet :: roaming.rejected }
  | lose (roaming : Roaming κ) (before after : List (Packet κ)) (packet : Packet κ)
      (queued : roaming.inFlight = before ++ packet :: after) :
      RoamStep roaming { roaming with inFlight := before ++ after }

-- What the tags have to tell apart: the addresses visited, under the nonces
-- drawn.
def TellsApart (server : Ipv4Addr) : Prop :=
  ∀ nonce, Drawn nonce → ∀ src src', Visited src → Visited src' →
    tagOf aes Direction.clientToServer.key nonce src server = tagOf aes Direction.clientToServer.key nonce src' server →
      src = src'

def HomeToken (connection : κ) (cid : Sized UInt8 20) : Prop :=
  ∃ nonce, Drawn nonce ∧ cid = tokenOf aes .clientToServer nonce (deployment.home connection) deployment.server

structure FromClient (packet : Packet κ) : Prop where
  place : ∃ place, packet.source.ip = .v4 place ∧ Visited place
  shape : ∃ (header : Header) (cid : Sized UInt8 20) (tail : List UInt8),
    packet.bytes = header.datagram cid tail ∧ HomeToken deployment aes Drawn packet.connection cid

-- Tokens come from the Initial provider, which names the home address, and
-- from a server that has seen nothing but the home address.
structure AtHome (roaming : Roaming κ) : Prop where
  position : ∀ connection, Visited (roaming.position connection)
  tokens : ∀ connection, ∀ cid ∈ roaming.tokens connection, HomeToken deployment aes Drawn connection cid
  known : ∀ connection, ∀ place ∈ roaming.known connection, place = deployment.home connection
  inFlight : ∀ packet ∈ roaming.inFlight, FromClient deployment aes Visited Drawn packet
  admitted : ∀ packet ∈ roaming.admitted, packet.source.ip = .v4 (deployment.home packet.connection)
  rejected : ∀ packet ∈ roaming.rejected, packet.source.ip ≠ .v4 (deployment.home packet.connection)

section Bound

variable (apart : TellsApart aes Visited Drawn deployment.server) (settled : ∀ connection, Visited (deployment.home connection))

include apart settled

omit [DecidableEq κ] in
theorem from_client_admitted_iff (packet : Packet κ) (sent : FromClient deployment aes Visited Drawn packet) :
    deployment.serverAuthenticator.check aes packet.bytes packet.source.ip = .ok (.ok ()) ↔
      packet.source.ip = .v4 (deployment.home packet.connection) := by
  obtain ⟨place, origin, visited⟩ := sent.place
  obtain ⟨header, cid, tail, shape, nonce, drawn, rfl⟩ := sent.shape
  rw [origin, shape, check_datagram, verify_ok_iff_token, IpAddr.v4.injEq]
  constructor
  · intro accepted
    obtain ⟨nonce', same⟩ := accepted
    have nonces := congrArg (fun token => (token.drop 2).take 8) same
    simp only [token_of_nonce] at nonces
    rw [← sized_ext nonce nonce' nonces] at same
    have tags := congrArg (List.drop 10) same
    rw [token_of_tag, token_of_tag] at tags
    exact (apart nonce drawn _ _ (settled packet.connection) visited (sized_ext _ _ tags)).symm
  · intro back
    exact ⟨nonce, by rw [back]; rfl⟩

theorem roam_step (roaming after : Roaming κ) (home : AtHome deployment aes Visited Drawn roaming)
    (step : RoamStep deployment aes Visited Drawn roaming after) : AtHome deployment aes Visited Drawn after := by
  cases step with
  | move connection place visited =>
      refine { home with position := ?_ }
      exact (Function.forall_update_iff roaming.position (fun _ place => Visited place)).mpr
        ⟨visited, fun other _ => home.position other⟩
  | drawInitial connection provider nonce cid fresh installed drawn =>
      obtain rfl : (fun aes => initialDstCidProvider aes (deployment.peers connection)) = provider := Option.some.inj installed
      have token := initial_dst_cid_token aes (deployment.peers connection) nonce cid drawn
      refine { home with tokens := ?_ }
      exact (Function.forall_update_iff roaming.tokens
        (fun connection list => ∀ cid ∈ list, HomeToken deployment aes Drawn connection cid)).mpr
        ⟨List.forall_mem_cons.mpr ⟨⟨nonce, fresh, token⟩, home.tokens connection⟩, fun other _ => home.tokens other⟩
  | issue connection place port localIp nonce cid fresh seen generated =>
      have token := generate_cid_for_token aes _ nonce _ localIp cid generated
      have bound : cid = tokenOf aes .clientToServer nonce (deployment.home connection) deployment.server := by
        rw [token, ← home.known connection place seen]
        rfl
      refine { home with tokens := ?_ }
      exact (Function.forall_update_iff roaming.tokens
        (fun connection list => ∀ cid ∈ list, HomeToken deployment aes Drawn connection cid)).mpr
        ⟨List.forall_mem_cons.mpr ⟨⟨nonce, fresh, bound⟩, home.tokens connection⟩, fun other _ => home.tokens other⟩
  | send connection port header cid tail held =>
      refine { home with inFlight := List.forall_mem_cons.mpr ⟨⟨?_, ?_⟩, home.inFlight⟩ }
      · exact ⟨_, rfl, home.position connection⟩
      · exact ⟨header, cid, tail, rfl, home.tokens connection cid held⟩
  | accept packet place queued origin genuine =>
      have arrived := (from_client_admitted_iff deployment aes Visited Drawn apart settled packet (home.inFlight packet queued)).mp
        genuine
      have back : place = deployment.home packet.connection := by
        rw [arrived, IpAddr.v4.injEq] at origin
        exact origin.symm
      refine { home with known := ?_, admitted := List.forall_mem_cons.mpr ⟨arrived, home.admitted⟩ }
      exact (Function.forall_update_iff roaming.known
        (fun connection list => ∀ place ∈ list, place = deployment.home connection)).mpr
        ⟨List.forall_mem_cons.mpr ⟨back, home.known packet.connection⟩, fun other _ => home.known other⟩
  | reject packet error queued forged =>
      have refused := from_client_admitted_iff deployment aes Visited Drawn apart settled packet (home.inFlight packet queued)
      have moved : packet.source.ip ≠ .v4 (deployment.home packet.connection) := by
        intro same
        rw [forged] at refused
        cases refused.mpr same
      exact { home with rejected := List.forall_mem_cons.mpr ⟨moved, home.rejected⟩ }
  | lose before rest packet queued =>
      refine { home with inFlight := fun other member => home.inFlight other ?_ }
      rw [queued]
      exact List.mem_append.mpr ((List.mem_append.mp member).imp_right (List.mem_cons_of_mem packet))

theorem roaming_at_home (roaming : Roaming κ)
    (reach : Relation.ReflTransGen (RoamStep deployment aes Visited Drawn) (Roaming.start deployment) roaming) :
    AtHome deployment aes Visited Drawn roaming := by
  refine Run.invariant (RoamStep deployment aes Visited Drawn) (AtHome deployment aes Visited Drawn) (Roaming.start deployment)
    ⟨settled, ?_, ?_, ?_, ?_, ?_⟩ (roam_step deployment aes Visited Drawn apart settled) roaming reach
  all_goals simp [Roaming.start]

end Bound

theorem roaming_client_stalls (apart : TellsApart aes Visited Drawn deployment.server)
    (settled : ∀ connection, Visited (deployment.home connection)) (roaming : Roaming κ)
    (reach : Relation.ReflTransGen (RoamStep deployment aes Visited Drawn) (Roaming.start deployment) roaming) :
    (∀ packet ∈ roaming.inFlight,
      (deployment.serverAuthenticator.check aes packet.bytes packet.source.ip = .ok (.ok ()) ↔
        packet.source.ip = .v4 (deployment.home packet.connection))) ∧
    (∀ packet ∈ roaming.admitted, packet.source.ip = .v4 (deployment.home packet.connection)) ∧
    (∀ packet ∈ roaming.rejected, packet.source.ip ≠ .v4 (deployment.home packet.connection)) ∧
    ∀ connection, ∀ cid ∈ roaming.tokens connection, ∃ nonce, Drawn nonce ∧
      cid = tokenOf aes .clientToServer nonce (deployment.home connection) deployment.server := by
  have home := roaming_at_home deployment aes Visited Drawn apart settled roaming reach
  refine ⟨?_, home.admitted, home.rejected, home.tokens⟩
  intro packet queued
  exact from_client_admitted_iff deployment aes Visited Drawn apart settled packet (home.inFlight packet queued)

end Roaming

def otherPlace : Ipv4Addr := ⟨192, 0, 2, 7⟩

-- The client is admitted, given a fresh ID, and moves: the ID does not follow.
theorem roaming_client_stalls_sample :
    ∃ roaming : Roaming Unit,
      Relation.ReflTransGen (RoamStep sampleDeployment bindingCipher (fun _ => True) (fun nonce => nonce = sampleNonce))
        (Roaming.start sampleDeployment) roaming ∧
      roaming.admitted ≠ [] ∧ ∃ packet ∈ roaming.inFlight, packet.source.ip = .v4 otherPlace ∧
        sampleDeployment.serverAuthenticator.check bindingCipher packet.bytes packet.source.ip ≠ .ok (.ok ()) := by
  have distinct := binding_distinct Direction.clientToServer.key
  have drawn : initialDstCidProvider bindingCipher ⟨sampleClient, sampleServer⟩ sampleNonce =
      .ok (tokenOf bindingCipher .clientToServer sampleNonce sampleClient sampleServer) := by
    rw [initialDstCidProvider, mint, mint_between_eq]
    rfl
  have issued : (AuthCidGenerator.new .clientToServer sampleServer).generateCidFor bindingCipher sampleNonce
      ⟨.v4 sampleClient, 4433⟩ none = .ok (tokenOf bindingCipher .clientToServer sampleNonce sampleClient sampleServer) := by
    rw [generate_cid_for_eq, mint_between_eq]
    rfl
  have genuine := (check_token_iff bindingCipher .clientToServer sampleNonce sampleClient sampleServer sampleServer distinct
    sampleHeader [1] (.v4 sampleClient)).mpr ⟨rfl, rfl⟩
  have reach := Relation.ReflTransGen.refl
      (r := RoamStep sampleDeployment bindingCipher (fun _ => True) (fun nonce => nonce = sampleNonce))
      (a := Roaming.start sampleDeployment)
    |>.tail (.drawInitial _ () _ sampleNonce _ rfl rfl drawn)
    |>.tail (.send _ () 4433 sampleHeader _ [1] List.mem_cons_self)
    |>.tail (.accept _ _ sampleClient List.mem_cons_self rfl genuine)
    |>.tail (.issue _ () sampleClient 4433 none sampleNonce _ rfl List.mem_cons_self issued)
    |>.tail (.move _ () otherPlace trivial)
    |>.tail (.send _ () 4433 sampleHeader _ [1] List.mem_cons_self)
  have apart : TellsApart bindingCipher (fun _ => True) (fun nonce => nonce = sampleNonce) sampleDeployment.server := by
    intro nonce fresh src src' _ _ same
    subst fresh
    exact (distinct _ _ _ _ same).1
  obtain ⟨stalled, _⟩ := roaming_client_stalls sampleDeployment bindingCipher _ _ apart (fun _ => trivial) _ reach
  refine ⟨_, reach, List.cons_ne_nil _ _, _, List.mem_cons_self, rfl, ?_⟩
  rw [Ne, stalled _ List.mem_cons_self]
  decide

end Pktauth.Network
