import Pktauth.Auth.Cause
import Pktauth.Blaster.Stop
import Pktauth.Network.Honest
import Pktauth.Socket.Driver
import Pktauth.Socket.Intake

set_option autoImplicit false

namespace Pktauth.Network

open Rust Auth Socket Blaster

-- What reaches the socket of a server that is being blasted while it serves.
inductive Arrival (κ : Type) where
  | honest (packet : Packet κ)
  | blasted (datagram : List UInt8) (source : SocketAddr)
  | failed (error : ErrorKind)

def Arrival.outcome {κ : Type} : Arrival κ → RecvOutcome
  | .honest packet => .datagram packet.bytes packet.source
  | .blasted datagram source => .datagram datagram source
  | .failed error => .failed error

def Arrival.goodput {κ : Type} : Arrival κ → Option Handed
  | .honest packet => some (packet.bytes, packet.source)
  | .blasted _ _ | .failed _ => none

def Arrival.isHonest {κ : Type} : Arrival κ → Bool
  | .honest _ => true
  | .blasted _ _ | .failed _ => false

def Arrival.isBlasted {κ : Type} : Arrival κ → Bool
  | .blasted _ _ => true
  | .honest _ | .failed _ => false

theorem goodput_length {κ : Type} (feed : List (Arrival κ)) :
    (feed.filterMap Arrival.goodput).length = feed.countP Arrival.isHonest := by
  induction feed with
  | nil => rfl
  | cons arrival feed ih => cases arrival <;> simp [List.filterMap_cons, Arrival.goodput, Arrival.isHonest, List.countP_cons, ih]

theorem feed_datagrams {κ : Type} (feed : List (Arrival κ)) :
    (feed.map Arrival.outcome).countP (fun outcome => !Socket.failure outcome) =
      feed.countP Arrival.isHonest + feed.countP Arrival.isBlasted := by
  induction feed with
  | nil => rfl
  | cons arrival feed ih =>
      rw [List.map_cons, List.countP_cons, ih, List.countP_cons, List.countP_cons]
      cases arrival with
      | honest packet => exact Nat.add_right_comm _ _ 1
      | blasted datagram source => rfl
      | failed error => rfl

theorem arrivals_datagrams (calls : List RecvCall) :
    (calls.flatMap RecvCall.recv).countP (fun outcome => !Socket.failure outcome) =
      (arrivals calls).countP (fun outcome => !Socket.failure outcome) := by
  rw [arrivals, List.countP_filter]
  refine List.countP_congr (fun outcome _ => ?_)
  cases outcome <;> simp [Socket.failure]

section Socket

variable (aes : Cipher UInt8)

theorem regular_room (authenticator : Option Authenticator) (capacity : Nat) (call : RecvCall) (regular : call.Regular capacity)
    (recv : List RecvOutcome) : (accepted aes authenticator (call.bufs.map List.length) recv).length ≤ call.metas.length := by
  have bound := accepted_length aes authenticator (call.bufs.map List.length) recv
  rw [List.length_map] at bound
  exact Nat.le_trans bound regular.slots

-- Every datagram read was handed over or rejected, in whole numbers.
theorem regular_run_balance (capacity : Nat) (socket final : PacketSocket) (calls : List RecvCall) (returns : List RecvReturn)
    (run : RecvRun aes socket calls final returns) (regular : ∀ call ∈ calls, call.Regular capacity) :
    total .received (runUpdates returns) = total .rejected (runUpdates returns) + (handedOver returns).length := by
  induction run with
  | nil socket => rfl
  | cons socket final call calls returned returns polled consumed rest ih =>
      have later := ih (fun other member => regular other (List.mem_cons_of_mem call member))
      obtain ⟨read, _, delivered⟩ := poll_recv_delivers aes socket.authenticator call.bufs call.metas call.ready call.recv
        returned polled
      obtain ⟨handed, counted, balance, _⟩ := delivered
        (regular_room aes socket.authenticator capacity call (regular call List.mem_cons_self) read)
      have updates : runUpdates (returned :: returns) = returned.state.updates ++ runUpdates returns := rfl
      have content : handedOver (returned :: returns) = returned.handed ++ handedOver returns := rfl
      rw [← handed] at counted
      rw [updates, content, total_append, total_append, List.length_append, later, balance, counted]
      omega

end Socket

section Goodput

variable {ι κ : Type} [DecidableEq κ] (deployment : Deployment ι κ) (aes : Cipher UInt8) {threads : Nat} (endian : Endian)
  (size capacity : Nat) (pps : UInt64)

-- An arrival is a datagram the honest network has delivered, or one a blaster
-- has sent, from any address, whose random ID is not a token for that address,
-- or an ICMP error.
inductive Arises (traffic : Traffic κ) (campaign : Campaign threads) : Arrival κ → Prop where
  | honest (packet : Packet κ) (delivered : packet ∈ traffic.delivered) (toServer : packet.receiver = .server)
      (fits : packet.bytes.length ≤ capacity) : Arises traffic campaign (.honest packet)
  | blasted (i : Fin threads) (index : Nat) (attempt : List UInt8 × SendOutcome) (source : Ipv4Addr) (port : UInt16)
      (sent : (campaign.writers i).tried[index]? = some attempt)
      (misses : ∀ nonce, dcidAfter endian (seedOf i) (3 * index) ≠
        tokenOf aes .clientToServer nonce source deployment.server) :
      Arises traffic campaign (.blasted attempt.1 ⟨.v4 source, port⟩)
  | failed (error : ErrorKind) (transient : isTransient error = true) : Arises traffic campaign (.failed error)

def Deployment.serverSocket : PacketSocket := PacketSocket.bind (some (Authenticator.new .clientToServer deployment.server))

variable (template : InitialTemplate) (built : InitialTemplate.new size = .ok (.ok template)) (wide : 26 ≤ capacity)
  (traffic : Traffic κ) (honest : Relation.ReflTransGen (Step deployment aes) Traffic.start traffic)
  (campaign : Campaign threads) (blasting : Relation.ReflTransGen (CampaignStep endian size pps) Campaign.start campaign)

include built wide honest blasting

theorem arrival_passes (arrival : Arrival κ) (arises : Arises deployment aes endian capacity traffic campaign arrival) :
    passes aes deployment.serverSocket.authenticator capacity arrival.outcome = arrival.goodput := by
  cases arises with
  | honest packet delivered toServer fits =>
      obtain ⟨authenticator, installed, genuine⟩ := (honest_reachable deployment aes traffic honest).delivered packet delivered
      rw [toServer] at installed
      cases installed
      simp [passes, Arrival.outcome, Arrival.goodput, authentic, Deployment.serverSocket, PacketSocket.bind,
        List.take_of_length_le fits, genuine]
  | blasted i index attempt source port sent misses =>
      have stream := (worker_sound endian size pps template built campaign blasting i).stream index attempt sent
      have forged : (Authenticator.new .clientToServer deployment.server).check aes (attempt.1.take capacity) (.v4 source) ≠
          .ok (.ok ()) := by
        rw [check_congr aes _ _ _ _ (destination_cid_take attempt.1 capacity wide), stream, check_layout, Ne,
          verify_ok_iff_token]
        intro carried
        obtain ⟨nonce, same⟩ := carried
        exact misses nonce (sized_ext _ _ same)
      simp [passes, Arrival.outcome, Arrival.goodput, authentic, Deployment.serverSocket, PacketSocket.bind, forged]
  | failed error transient => rfl

theorem feed_passes (feed : List (Arrival κ))
    (arises : ∀ arrival ∈ feed, Arises deployment aes endian capacity traffic campaign arrival) :
    (feed.map Arrival.outcome).filterMap (passes aes deployment.serverSocket.authenticator capacity) =
      feed.filterMap Arrival.goodput := by
  rw [List.filterMap_map]
  exact List.filterMap_congr (fun arrival member =>
    arrival_passes deployment aes endian size capacity pps template built wide traffic honest campaign blasting arrival
      (arises arrival member))

omit built wide honest blasting [DecidableEq κ] in
theorem feed_soft (feed : List (Arrival κ))
    (arises : ∀ arrival ∈ feed, Arises deployment aes endian capacity traffic campaign arrival) :
    ∀ error, .failed error ∈ feed.map Arrival.outcome → isTransient error = true := by
  intro error member
  obtain ⟨arrival, arrived, same⟩ := List.mem_map.mp member
  cases arises arrival arrived with
  | honest packet delivered toServer fits => cases same
  | blasted i index attempt source port sent misses => cases same
  | failed error transient =>
      cases same
      exact transient

theorem feed_counted (feed : List (Arrival κ))
    (arises : ∀ arrival ∈ feed, Arises deployment aes endian capacity traffic campaign arrival) (calls : List RecvCall)
    (final : PacketSocket) (returns : List RecvReturn) (run : RecvRun aes deployment.serverSocket calls final returns)
    (regular : ∀ call ∈ calls, call.Regular capacity) (fed : arrivals calls = feed.map Arrival.outcome) :
    handedOver returns = feed.filterMap Arrival.goodput ∧
      final.counters.received = UInt64.ofNat (feed.countP Arrival.isHonest + feed.countP Arrival.isBlasted) ∧
      final.counters.rejected = UInt64.ofNat (feed.countP Arrival.isBlasted) := by
  have handed : handedOver returns = feed.filterMap Arrival.goodput := by
    rw [run_filters aes capacity _ final calls returns run regular, fed]
    exact feed_passes deployment aes endian size capacity pps template built wide traffic honest campaign blasting feed arises
  have received : total .received (runUpdates returns) = feed.countP Arrival.isHonest + feed.countP Arrival.isBlasted := by
    rw [run_updates aes _ final calls returns run, booking_totals]
    dsimp only
    rw [run_datagrams aes _ final calls returns run, arrivals_datagrams, fed, feed_datagrams]
  have balance := regular_run_balance aes capacity _ final calls returns run regular
  rw [handed, goodput_length, received] at balance
  have counters := run_counters aes _ final calls returns run
  have receivedValue := load_after deployment.serverSocket.counters (runUpdates returns) .received
  have rejectedValue := load_after deployment.serverSocket.counters (runUpdates returns) .rejected
  rw [← counters] at receivedValue rejectedValue
  refine ⟨handed, ?_, ?_⟩
  · simpa [Counters.load, Deployment.serverSocket, PacketSocket.bind, received] using receivedValue
  · have count : total .rejected (runUpdates returns) = feed.countP Arrival.isBlasted := by omega
    simpa [Counters.load, Deployment.serverSocket, PacketSocket.bind, count] using rejectedValue

theorem flood_leaves_goodput (feed : List (Arrival κ))
    (arises : ∀ arrival ∈ feed, Arises deployment aes endian capacity traffic campaign arrival) (buffers : Nat → Slots)
    (regular : ∀ count, ((buffers count).call [] []).Regular capacity)
    (reactor : Reactor Unit Unit (Caller Driver RecvOutcome) Inbox)
    (reach : Relation.ReflTransGen (DriverMove aes deployment.serverSocket.authenticator buffers)
      (receiving (feed.map Arrival.outcome)) reactor) :
    handedOver (reactor.tasks ()).state.returns <+: feed.filterMap Arrival.goodput ∧
    (∀ (states : Nat → Reactor Unit Unit (Caller Driver RecvOutcome) Inbox) (count : Nat), states 0 = reactor →
      (∀ n < count, DriverStep aes deployment.serverSocket.authenticator buffers (states n) (states (n + 1))) →
      count ≤ 19 * (2 * reactor.resource.coming.length + reactor.resource.queue.length) + 19) ∧
    (∀ final, Relation.ReflTransGen (DriverStep aes deployment.serverSocket.authenticator buffers) reactor final →
      (∀ after, ¬ DriverStep aes deployment.serverSocket.authenticator buffers final after) →
      ∃ last, RecvRun aes deployment.serverSocket (final.tasks ()).state.calls last (final.tasks ()).state.returns ∧
        handedOver (final.tasks ()).state.returns = feed.filterMap Arrival.goodput ∧
        last.counters.received = UInt64.ofNat (feed.countP Arrival.isHonest + feed.countP Arrival.isBlasted) ∧
        last.counters.rejected = UInt64.ofNat (feed.countP Arrival.isBlasted)) := by
  have soft := feed_soft deployment aes endian capacity traffic campaign feed arises
  have holds := receiving_reached aes _ buffers capacity regular _ soft reactor reach
  refine ⟨?_, receiving_bounded aes _ buffers capacity regular _ reactor holds, ?_⟩
  · obtain ⟨⟨⟨last, run⟩, even, _⟩, _⟩ := holds.calling.placed ()
    rw [run_filters aes capacity _ last _ _ run even,
      ← feed_passes deployment aes endian size capacity pps template built wide traffic honest campaign blasting feed arises]
    apply List.IsPrefix.filterMap
    rw [← holds.conserved, Socket.taken, List.append_assoc, List.append_assoc]
    exact List.prefix_append _ _
  · intro final goesOn stuck
    have still := reach.trans (goesOn.lift id (fun before after step => Reactor.Move.step before after step))
    obtain ⟨_, fed, even, last, run⟩ := receiving_rests aes _ buffers capacity regular _ soft final still stuck
    exact ⟨last, run, feed_counted deployment aes endian size capacity pps template built wide traffic honest campaign blasting
      feed arises _ last _ run even fed⟩

end Goodput

def floodPacket : Packet Unit :=
  ⟨(), .server, sampleSource, sampleHeader.datagram (sampleToken .clientToServer) [1, 2, 3]⟩
def floodDatagram : List UInt8 := (layout 1200 (dcidAfter .little (seedOf (0 : Fin 1)) 0)).bytes
def floodSource : SocketAddr := ⟨.v4 ⟨192, 0, 2, 7⟩, 4433⟩
def floodFeed : List (Arrival Unit) := [.blasted floodDatagram floodSource, .failed .connectionRefused, .honest floodPacket]

theorem flood_traffic :
    ∃ traffic : Traffic Unit, Relation.ReflTransGen (Step sampleDeployment sampleCipher) Traffic.start traffic ∧
      floodPacket ∈ traffic.delivered := by
  have drawn : initialDstCidProvider sampleCipher ⟨sampleClient, sampleServer⟩ sampleNonce =
      .ok (sampleToken .clientToServer) := by
    rw [initialDstCidProvider, mint, mint_between_eq]
    rfl
  have reach := Relation.ReflTransGen.refl (r := Step sampleDeployment sampleCipher) (a := Traffic.start)
    |>.tail (.drawInitial _ () _ sampleNonce _ rfl drawn)
    |>.tail (.send _ () .client 4433 sampleHeader (sampleToken .clientToServer) [1, 2, 3] (by simp [Traffic.usable]))
    |>.tail (.deliver _ [] [] _ rfl)
  exact ⟨_, reach, List.mem_cons_self⟩

theorem flood_campaign :
    ∃ campaign : Campaign 1, Relation.ReflTransGen (CampaignStep .little 1200 1000) Campaign.start campaign ∧
      (campaign.writers 0).tried[0]? = some (floodDatagram, .accepted) := by
  have built := new_fits 1200 (by decide) (by decide)
  obtain ⟨campaign, reach, _, unsent, locals, stage⟩ := stopped_in_batch .little 1200 1000 _ built
  have point := (worker_sound .little 1200 1000 _ built campaign reach 0).point
  rw [stage, unsent] at point
  cases point with
  | sending _ _ _ inBatch =>
      obtain ⟨dcid, laid⟩ := inBatch.template
      have sent := reach.tail (.work _ 0 _ (.send _ locals 0 .accepted stage))
      refine ⟨_, sent, ?_⟩
      rw [laid, inBatch.rng, randomize_layout]
      simp [Worker.send, unsent, floodDatagram]

theorem flood_leaves_goodput_sample :
    ∃ final last, Relation.ReflTransGen
        (DriverStep sampleCipher sampleDeployment.serverSocket.authenticator (fun _ => sampleSlots))
        (receiving (floodFeed.map Arrival.outcome)) final ∧
      RecvRun sampleCipher sampleDeployment.serverSocket (final.tasks ()).state.calls last (final.tasks ()).state.returns ∧
      handedOver (final.tasks ()).state.returns = [(floodPacket.bytes, sampleSource)] ∧
      last.counters.received = 2 ∧ last.counters.rejected = 1 := by
  have built := new_fits 1200 (by decide) (by decide)
  obtain ⟨traffic, honest, delivered⟩ := flood_traffic
  obtain ⟨campaign, blasting, sent⟩ := flood_campaign
  have regular (count : Nat) : (sampleSlots.call [] []).Regular 32 :=
    ⟨by decide, by decide, by simp [sampleSlots, Slots.call, sampleBuffer]⟩
  have misses (nonce : Sized UInt8 8) : dcidAfter .little (seedOf (0 : Fin 1)) (3 * 0) ≠
      tokenOf sampleCipher .clientToServer nonce ⟨192, 0, 2, 7⟩ sampleDeployment.server := by
    intro same
    have selectors := congrArg (fun token => token.val.take 2) same
    have selector : (dcidAfter .little (seedOf (0 : Fin 1)) (3 * 0)).val.take 2 = [0x85, 0x52] := by decide +kernel
    simp only [selector] at selectors
    cases selectors
  have arises : ∀ arrival ∈ floodFeed, Arises sampleDeployment sampleCipher .little 32 traffic campaign arrival := by
    simp only [floodFeed, List.forall_mem_cons, List.not_mem_nil, false_implies, implies_true, and_true]
    exact ⟨.blasted 0 0 _ ⟨192, 0, 2, 7⟩ 4433 sent misses, .failed _ rfl, .honest floodPacket delivered rfl (by decide)⟩
  obtain ⟨final, reach, stuck⟩ := Reactor.comes_to_rest id _ Inbox.Idle Inbox.Serve Inbox.Supply _ _ _
    (driver_paced sampleCipher sampleDeployment.serverSocket.authenticator (fun _ => sampleSlots) 32 regular)
    (receiving (floodFeed.map Arrival.outcome))
    (receiving_start sampleCipher _ (fun _ => sampleSlots) 32 regular _).calling.placed
  obtain ⟨_, _, ends⟩ := flood_leaves_goodput sampleDeployment sampleCipher .little 1200 32 1000 _ built (by decide)
    traffic honest campaign blasting floodFeed arises (fun _ => sampleSlots) regular _ .refl
  obtain ⟨last, run, handed, received, rejected⟩ := ends final reach stuck
  exact ⟨final, last, reach, run, handed, received, rejected⟩

end Pktauth.Network
