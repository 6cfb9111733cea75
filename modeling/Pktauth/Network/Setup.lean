import Pktauth.Auth.Binding
import Pktauth.Socket.PacketSocket

set_option autoImplicit false

namespace Pktauth.Network

open Rust Auth Socket

-- What the crate hands to Quinn when it mounts a socket: the socket itself, the
-- factory of connection ID generators and, on a client, the provider of the
-- Initial destination ID. The TLS and transport configuration pass through.
structure Endpoint where
  socket : PacketSocket
  cidGenerator : Unit → AuthCidGenerator
  initialDstCid : Option (Cipher UInt8 → Sized UInt8 8 → Exec (Sized UInt8 20))

def serverEndpoint (socket : PacketSocket) (localIp : Ipv4Addr) : Endpoint :=
  ⟨socket, fun _ => AuthCidGenerator.new .clientToServer localIp, none⟩

def clientEndpoint (socket : PacketSocket) (peers : Peers) : Endpoint :=
  ⟨socket, fun _ => AuthCidGenerator.new .serverToClient peers.client, some (fun aes => initialDstCidProvider aes peers)⟩

def maxPingBytes : Nat := 64 * 1024

-- The flags of the two binaries that decide which endpoint is built. The
-- others are handed on to TLS, to the ping loop or to the file system.
structure ClientArgs where
  server : SocketAddr := ⟨.v4 ⟨127, 0, 0, 1⟩, 4433⟩
  size : Nat := 64
  localIp : Ipv4Addr := ⟨127, 0, 0, 1⟩

structure ServerArgs where
  listen : SocketAddr := ⟨.v4 ⟨127, 0, 0, 1⟩, 4433⟩
  noDcidValidation : Bool := false

structure ClientSetup where
  peers : Peers
  bound : SocketAddr
  endpoint : Endpoint

structure ServerSetup where
  bound : SocketAddr
  endpoint : Endpoint

section Main

-- The Display implementation of std::net::IpAddr, which two messages embed.
variable (display : IpAddr → String)

-- main of the client up to the endpoint, in a run where the certificate can be
-- read and the socket bound.
def clientMain (args : ClientArgs) : Except String ClientSetup :=
  if args.size > maxPingBytes then
    .error ("payload size " ++ toString args.size ++ " exceeds the protocol maximum of " ++ toString maxPingBytes ++ " bytes")
  else
    match args.server.ip with
    | .v6 octets => .error ("--server must be an IPv4 address, got " ++ display (.v6 octets))
    | .v4 serverIp =>
        let peers : Peers := ⟨args.localIp, serverIp⟩
        let authenticator := Authenticator.new .serverToClient args.localIp
        let bound : SocketAddr := ⟨.v4 args.localIp, 0⟩
        .ok ⟨peers, bound, clientEndpoint (PacketSocket.bind (some authenticator)) peers⟩

def serverMain (args : ServerArgs) : Except String ServerSetup :=
  match args.listen.ip with
  | .v6 octets => .error ("--listen must be an IPv4 address, got " ++ display (.v6 octets))
  | .v4 serverIp =>
      if serverIp = Ipv4Addr.unspecified then
        .error ("--listen must name a concrete IPv4 address, not a wildcard, because packet authentication binds " ++
          "the server address into every tag")
      else
        let authenticator :=
          match args.noDcidValidation with
          | false => some (Authenticator.new .clientToServer serverIp)
          | true => none
        .ok ⟨args.listen, serverEndpoint (PacketSocket.bind authenticator) serverIp⟩

theorem client_main_ok (args : ClientArgs) (setup : ClientSetup) (accepted : clientMain display args = .ok setup) :
    ∃ serverIp, args.server.ip = .v4 serverIp ∧ setup.bound = ⟨.v4 args.localIp, 0⟩ ∧
      setup.endpoint = clientEndpoint (PacketSocket.bind (some (Authenticator.new .serverToClient args.localIp)))
        ⟨args.localIp, serverIp⟩ := by
  by_cases large : args.size > maxPingBytes
  · rw [clientMain, if_pos large] at accepted
    cases accepted
  · rw [clientMain, if_neg large] at accepted
    cases server : args.server.ip with
    | v6 octets =>
        rw [server] at accepted
        cases accepted
    | v4 serverIp =>
        rw [server] at accepted
        cases accepted
        exact ⟨serverIp, rfl, rfl, rfl⟩

theorem server_main_ok (args : ServerArgs) (setup : ServerSetup) (accepted : serverMain display args = .ok setup)
    (validating : args.noDcidValidation = false) :
    ∃ serverIp, args.listen.ip = .v4 serverIp ∧ serverIp ≠ Ipv4Addr.unspecified ∧
      setup.endpoint = serverEndpoint (PacketSocket.bind (some (Authenticator.new .clientToServer serverIp))) serverIp := by
  cases listen : args.listen.ip with
  | v6 octets =>
      rw [serverMain, listen] at accepted
      cases accepted
  | v4 serverIp =>
      simp only [serverMain, listen, validating] at accepted
      by_cases wildcard : serverIp = Ipv4Addr.unspecified
      · rw [if_pos wildcard] at accepted
        cases accepted
      · rw [if_neg wildcard] at accepted
        cases accepted
        exact ⟨serverIp, rfl, wildcard, rfl⟩

end Main

-- The source addresses the kernel may put on packets of a socket bound to the
-- given address.
def MaySend (bound : IpAddr) (source : Ipv4Addr) : Prop :=
  source ≠ Ipv4Addr.unspecified ∧ (bound = .v4 source ∨ bound = .v4 Ipv4Addr.unspecified)

theorem may_send_exact_iff (localIp source : Ipv4Addr) (possible : MaySend (.v4 localIp) source) :
    source = localIp ↔ localIp ≠ Ipv4Addr.unspecified := by
  obtain ⟨concrete, exact | wildcard⟩ := possible
  · rw [IpAddr.v4.injEq] at exact
    simp [exact, concrete]
  · rw [IpAddr.v4.injEq] at wildcard
    simp [wildcard, concrete]

theorem accepted_initial_passes_iff (aes : Cipher UInt8) (display : IpAddr → String) (clientArgs : ClientArgs)
    (serverArgs : ServerArgs) (client : ClientSetup) (server : ServerSetup)
    (clientAccepted : clientMain display clientArgs = .ok client) (serverAccepted : serverMain display serverArgs = .ok server)
    (sameServer : clientArgs.server.ip = serverArgs.listen.ip) (validating : serverArgs.noDcidValidation = false)
    (nonce : Sized UInt8 8) (distinct : DistinctTags aes Direction.clientToServer.key nonce) (source : Ipv4Addr)
    (possible : MaySend client.bound.ip source) :
    ∃ authenticator provider cid, server.endpoint.socket.authenticator = some authenticator ∧
      client.endpoint.initialDstCid = some provider ∧ provider aes nonce = .ok cid ∧
      ∀ (header : Header) (tail : List UInt8),
        authenticator.check aes (header.datagram cid tail) (.v4 source) = .ok (.ok ()) ↔
          clientArgs.localIp ≠ Ipv4Addr.unspecified := by
  obtain ⟨serverIp, named, bound, mounted⟩ := client_main_ok display clientArgs client clientAccepted
  obtain ⟨listenIp, listening, _, serving⟩ := server_main_ok display serverArgs server serverAccepted validating
  rw [named, listening, IpAddr.v4.injEq] at sameServer
  subst sameServer
  rw [bound] at possible
  refine ⟨Authenticator.new .clientToServer serverIp, fun aes => initialDstCidProvider aes ⟨clientArgs.localIp, serverIp⟩, _,
    by rw [serving]; rfl, by rw [mounted]; rfl, mint_between_eq aes nonce .clientToServer clientArgs.localIp serverIp, ?_⟩
  intro header tail
  rw [check_token_iff aes .clientToServer nonce clientArgs.localIp serverIp serverIp distinct, IpAddr.v4.injEq]
  simpa using may_send_exact_iff clientArgs.localIp source possible

def sampleServerArgs : ServerArgs := { listen := ⟨.v4 sampleServer, 4433⟩ }
def sampleClientArgs (localIp : Ipv4Addr) : ClientArgs := { server := ⟨.v4 sampleServer, 4433⟩, localIp := localIp }

theorem accepted_initial_passes_iff_sample :
    ∃ client server, clientMain (fun _ => "::1") (sampleClientArgs sampleClient) = .ok client ∧
      serverMain (fun _ => "::1") sampleServerArgs = .ok server ∧
      ∃ authenticator provider cid, server.endpoint.socket.authenticator = some authenticator ∧
        client.endpoint.initialDstCid = some provider ∧ provider bindingCipher sampleNonce = .ok cid ∧
        ∀ (header : Header) (tail : List UInt8),
          authenticator.check bindingCipher (header.datagram cid tail) (.v4 sampleClient) = .ok (.ok ()) := by
  obtain ⟨authenticator, provider, cid, installed, provided, drawn, passes⟩ :=
    accepted_initial_passes_iff bindingCipher (fun _ => "::1") (sampleClientArgs sampleClient) sampleServerArgs _ _ rfl rfl rfl rfl
      sampleNonce (binding_distinct _) sampleClient ⟨by decide, .inl rfl⟩
  exact ⟨_, _, rfl, rfl, authenticator, provider, cid, installed, provided, drawn,
    fun header tail => (passes header tail).mpr (by decide)⟩

theorem wildcard_client_initial_rejected :
    DistinctTags bindingCipher Direction.clientToServer.key sampleNonce ∧
    ∃ client server, clientMain (fun _ => "::1") (sampleClientArgs Ipv4Addr.unspecified) = .ok client ∧
      serverMain (fun _ => "::1") sampleServerArgs = .ok server ∧ MaySend client.bound.ip sampleClient ∧
      ∃ authenticator provider cid, server.endpoint.socket.authenticator = some authenticator ∧
        client.endpoint.initialDstCid = some provider ∧ provider bindingCipher sampleNonce = .ok cid ∧
        ∀ (header : Header) (tail : List UInt8),
          authenticator.check bindingCipher (header.datagram cid tail) (.v4 sampleClient) = .ok (.error .badTag) := by
  refine ⟨binding_distinct _, _, _, rfl, rfl, ⟨by decide, .inr rfl⟩, _, _, _, rfl, rfl,
    mint_between_eq bindingCipher sampleNonce .clientToServer Ipv4Addr.unspecified sampleServer, ?_⟩
  intro header tail
  rw [check_datagram]
  decide +kernel

end Pktauth.Network
