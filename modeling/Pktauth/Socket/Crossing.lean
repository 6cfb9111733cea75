import Pktauth.Socket.SenderRun
import Pktauth.Socket.Transparency

set_option autoImplicit false

namespace Pktauth.Socket

open Rust Auth

-- A transmit as Quinn makes them for a sender that reports one segment: the
-- whole contents are one datagram.
def SendCall.Single (call : SendCall) : Prop := call.transmit.segmentSize = none

def SendCall.accepted (call : SendCall) : Bool := call.sends.getLast? = some .accepted

def SendCall.sent (call : SendCall) : Sent := ⟨call.transmit.destination, ⟨0, call.transmit.contents⟩⟩

-- Until its one datagram is accepted or dropped, a call has put nothing on the
-- wire, and the call ends with either.
def Unsent (used : List SendOutcome) (state : SendState) : Prop := used.getLast? ≠ some .accepted ∧ state.wire = []

theorem unsent_again (datagram : Sent) (used tried : List SendOutcome) (state after : SendState) (unsent : Unsent used state)
    (attempt : Attempted [datagram] { state with writable := none } tried (.error .wouldBlock) after) :
    Unsent (used ++ tried) after := by
  cases attempt with
  | cut count _ short =>
      obtain rfl : count = 0 := Nat.lt_one_iff.mp short
      exact ⟨by simp, by simpa [SendState.took] using unsent.2⟩

theorem unsent_ends (datagram : Sent) (writability : List Writability) (sends : List SendOutcome)
    (result : Poll (Except ErrorKind Unit)) (final : SendState)
    (ends : SendEnds [datagram] Unsent writability sends result final) :
    final.wire = if sends.getLast? = some .accepted then [datagram] else [] := by
  cases ends with
  | pending _ state top => rw [if_neg top.1, top.2]
  | readyFailed _ state error top answered => rw [if_neg top.1, top.2]
  | sent used tried state _ top attempt =>
      cases attempt with
      | whole => simp [SendState.took, top.2]
  | dropped used tried state _ error top attempt hard =>
      cases attempt with
      | cut count _ short =>
          obtain rfl : count = 0 := Nat.lt_one_iff.mp short
          simp [SendState.took, top.2]

theorem single_call_wire (call : SendCall) (single : call.Single) (writable : Option WritableFuture) (returned : SendReturn)
    (polled : pollSend call.transmit call.writability call.sends ⟨writable, [], []⟩ = .ok (some returned))
    (consumed : returned.sends = []) : returned.state.wire = if call.accepted then [call.sent] else [] := by
  have split : segments call.transmit = .ok [call.sent] := by
    rw [SendCall.Single] at single
    simp only [segments, single, exec_bind_ok]
    rfl
  obtain ⟨answer, played, ends⟩ := poll_send_rule call.transmit [call.sent] split Unsent (unsent_again call.sent)
    call.writability call.sends [] ⟨writable, [], []⟩ ⟨by simp, rfl⟩
    (poll_send_pollable _ _ _ ⟨writable, [], []⟩ returned polled)
  rw [polled, Except.ok.injEq] at played
  obtain ⟨read, all, ended⟩ := ends returned played.symm
  rw [consumed, List.append_nil] at all
  rw [List.nil_append, ← all] at ended
  simpa [SendCall.accepted] using unsent_ends call.sent _ _ _ _ ended

-- So that over a whole run nothing is sent twice, out of order or without
-- having been asked for.
theorem single_run_wire (sender final : PacketSender) (calls : List SendCall) (returns : List SendReturn)
    (run : SendRun sender calls final returns) (single : ∀ call ∈ calls, call.Single) :
    wire returns = (calls.filter SendCall.accepted).map SendCall.sent := by
  induction run with
  | nil sender => rfl
  | cons sender final call calls returned returns polled consumed rest ih =>
      have first := single_call_wire call (single call List.mem_cons_self) sender.writable returned polled consumed.2
      have later := ih (fun other member => single other (List.mem_cons_of_mem call member))
      rw [wire_cons, first, later]
      by_cases taken : call.accepted = true
      · simp [taken]
      · simp [taken]

section Crossing

variable (aes : Cipher UInt8)

def Sent.arrival (source : SocketAddr) (sent : Sent) : RecvOutcome := .datagram sent.datagram.bytes source

theorem datagrams_cross (calls : List SendCall) (sender : PacketSender) (returns : List SendReturn) (socket : PacketSocket)
    (run : SendRun (createSender socket) calls sender returns) (single : ∀ call ∈ calls, call.Single) (source : SocketAddr)
    (carried : List Sent) (lossy : carried.Sublist (wire returns)) (authenticator : Authenticator) (capacity : Nat)
    (admitted : ∀ call ∈ calls, call.transmit.contents.length ≤ capacity ∧
      authenticator.check aes call.transmit.contents source.ip = .ok (.ok ()))
    (farCalls : List RecvCall) (far : PacketSocket) (farReturns : List RecvReturn)
    (farRun : RecvRun aes (PacketSocket.bind (some authenticator)) farCalls far farReturns)
    (regular : ∀ call ∈ farCalls, call.Regular capacity)
    (noisy : DifferByNoise aes authenticator capacity (arrivals farCalls) (carried.map (Sent.arrival source))) :
    wire returns = (calls.filter SendCall.accepted).map SendCall.sent ∧
      (handedOver farReturns).Sublist
        ((calls.filter SendCall.accepted).map (fun call => (call.transmit.contents, source))) ∧
      (carried = wire returns →
        handedOver farReturns = (calls.filter SendCall.accepted).map (fun call => (call.transmit.contents, source))) := by
  have sent := single_run_wire _ sender calls returns run single
  have genuine : ∀ datagram ∈ carried, passes aes (some authenticator) capacity (datagram.arrival source) =
      some (datagram.datagram.bytes, source) := by
    intro datagram member
    have member' := lossy.subset member
    rw [sent, List.mem_map] at member'
    obtain ⟨call, chosen, rfl⟩ := member'
    obtain ⟨fits, checked⟩ := admitted call (List.mem_filter.mp chosen).1
    simp [passes, Sent.arrival, SendCall.sent, authentic, List.take_of_length_le fits, checked]
  have handed : handedOver farReturns = carried.map (fun datagram => (datagram.datagram.bytes, source)) := by
    rw [run_filters aes capacity _ far farCalls farReturns farRun regular, PacketSocket.bind,
      differ_by_noise_filtered aes authenticator capacity _ _ noisy, List.filterMap_map]
    exact (List.filterMap_congr genuine).trans (by simp)
  have whole : (wire returns).map (fun datagram => (datagram.datagram.bytes, source)) =
      (calls.filter SendCall.accepted).map (fun call => (call.transmit.contents, source)) := by
    rw [sent, List.map_map]
    rfl
  refine ⟨sent, ?_, ?_⟩
  · rw [handed, ← whole]
    exact lossy.map _
  · intro lossless
    rw [handed, lossless, whole]

end Crossing

def crossingTransmit : Transmit := ⟨⟨.v4 sampleServer, 4433⟩, sampleDatagram, none⟩
def crossingCalls : List SendCall :=
  [⟨crossingTransmit, [.ready, .ready], [.failed .wouldBlock, .accepted]⟩,
    ⟨crossingTransmit, [.ready], [.failed .networkUnreachable]⟩]
def crossingReturns : List SendReturn :=
  [⟨.ready (.ok ()), ⟨none, [⟨crossingTransmit.destination, ⟨0, sampleDatagram⟩⟩], [⟨.sent, 1⟩, ⟨.sentBytes, 21⟩]⟩, [], []⟩,
    ⟨.ready (.ok ()), ⟨none, [], []⟩, [], []⟩]

theorem datagrams_cross_sample :
    ∃ sender far farReturns, SendRun sampleSender crossingCalls sender crossingReturns ∧
      RecvRun sampleCipher (PacketSocket.bind (some sampleAuthenticator)) [quietCall] far farReturns ∧
      wire crossingReturns = [⟨crossingTransmit.destination, ⟨0, sampleDatagram⟩⟩] ∧
      handedOver farReturns = [(sampleDatagram, sampleSource)] := by
  have run : SendRun sampleSender crossingCalls _ crossingReturns :=
    .cons _ _ _ _ _ _ (by decide) ⟨rfl, rfl⟩ (.cons _ _ _ _ _ _ (by decide) ⟨rfl, rfl⟩ (.nil _))
  have farRun : RecvRun sampleCipher (PacketSocket.bind (some sampleAuthenticator)) [quietCall] _ _ := .cons _ _ quietCall []
    ⟨.ready (.ok 1), ⟨[sampleDatagram ++ List.replicate 11 0], [⟨sampleSource, 21, 21⟩], 1,
      [⟨.received, 1⟩, ⟨.receivedBytes, 21⟩]⟩, [], []⟩ [] (by decide +kernel) rfl (.nil _)
  have single : ∀ call ∈ crossingCalls, call.Single := by
    intro call member
    rcases List.mem_pair.mp member with rfl | rfl
    · rfl
    · rfl
  have admitted : ∀ call ∈ crossingCalls, call.transmit.contents.length ≤ 32 ∧
      sampleAuthenticator.check sampleCipher call.transmit.contents sampleSource.ip = .ok (.ok ()) := by
    intro call member
    rcases List.mem_pair.mp member with rfl | rfl
    · decide +kernel
    · decide +kernel
  have regular : ∀ call ∈ [quietCall], call.Regular 32 := by
    intro call member
    rw [List.mem_singleton.mp member]
    exact ⟨by decide, by decide, by simp [quietCall, sampleBuffer]⟩
  have crossed := datagrams_cross sampleCipher crossingCalls _ crossingReturns _ run single sampleSource _
    (List.Sublist.refl _) sampleAuthenticator 32 admitted [quietCall] _ _ farRun regular (.both _ _ _ .nil)
  exact ⟨_, _, _, run, farRun, crossed.1, crossed.2.2 rfl⟩

end Pktauth.Socket
