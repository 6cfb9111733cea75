import Mathlib.Algebra.Ring.Nat
import Pktauth.Socket.Delivery
import Pktauth.Auth.Collision

set_option autoImplicit false

namespace Pktauth.Socket

open Rust Auth

structure RecvCall where
  bufs : List (List UInt8)
  metas : List RecvMeta
  ready : List Readiness
  recv : List RecvOutcome

-- Successive calls on one socket, each of which returns after reading the
-- outcomes listed for it and no others.
inductive RecvRun (aes : Cipher UInt8) : PacketSocket → List RecvCall → PacketSocket → List RecvReturn → Prop where
  | nil (socket : PacketSocket) : RecvRun aes socket [] socket []
  | cons (socket final : PacketSocket) (call : RecvCall) (calls : List RecvCall) (returned : RecvReturn)
      (returns : List RecvReturn)
      (polled : pollRecv aes socket.authenticator call.ready call.recv ⟨call.bufs, call.metas, 0, []⟩ = .ok (some returned))
      (consumed : returned.recv = []) (rest : RecvRun aes (socket.record returned.state.updates) calls final returns) :
      RecvRun aes socket (call :: calls) final (returned :: returns)

def handedOver (returns : List RecvReturn) : List Handed := returns.flatMap RecvReturn.handed

def handedCount (returns : List RecvReturn) : Nat := (returns.map RecvReturn.count).sum

-- The datagrams and errors of the receive queue: a WouldBlock is the absence
-- of either.
def arrivals (calls : List RecvCall) : List RecvOutcome :=
  (calls.flatMap RecvCall.recv).filter (fun outcome => outcome ≠ .failed .wouldBlock)

section Conservation

variable (aes : Cipher UInt8)

theorem run_conserves (socket final : PacketSocket) (calls : List RecvCall) (returns : List RecvReturn)
    (run : RecvRun aes socket calls final returns)
    (room : ∀ call ∈ calls, (accepted aes socket.authenticator (call.bufs.map List.length) call.recv).length ≤ call.metas.length) :
    final.counters.received - final.counters.rejected =
      socket.counters.received - socket.counters.rejected + UInt64.ofNat (handedCount returns) := by
  induction run with
  | nil socket => simp [handedCount]
  | cons socket final call calls returned returns polled consumed rest ih =>
      have later := ih (fun other member => room other (List.mem_cons_of_mem call member))
      obtain ⟨read, answers, delivered⟩ := poll_recv_delivers aes socket.authenticator call.bufs call.metas call.ready call.recv
        returned polled
      rw [consumed, List.append_nil] at answers
      have updates := (delivered (answers ▸ room call List.mem_cons_self)).balance
      have received := load_after socket.counters returned.state.updates .received
      have rejected := load_after socket.counters returned.state.updates .rejected
      simp only [Counters.load] at received rejected
      rw [later]
      simp only [PacketSocket.record, received, rejected, updates, handedCount, List.map_cons, List.sum_cons, UInt64.ofNat_add]
      grind

theorem accounted_while_slots_suffice (authenticator : Option Authenticator) (calls : List RecvCall) (final : PacketSocket)
    (returns : List RecvReturn) (run : RecvRun aes (PacketSocket.bind authenticator) calls final returns)
    (room : ∀ call ∈ calls, (accepted aes authenticator (call.bufs.map List.length) call.recv).length ≤ call.metas.length) :
    final.counters.received - final.counters.rejected = UInt64.ofNat (handedCount returns) := by
  simpa [PacketSocket.bind] using run_conserves aes (PacketSocket.bind authenticator) final calls returns run room

end Conservation

def sampleAuthenticator : Authenticator := Authenticator.new .clientToServer sampleServer
def sampleSource : SocketAddr := ⟨.v4 sampleClient, 4433⟩
def sampleDatagram : List UInt8 :=
  [0x40, 0, 1, 7, 7, 7, 7, 7, 7, 7, 7, 0xe3, 0x47, 0xb3, 0x31, 0x83, 0xf4, 0xdf, 0x4c, 0x1b, 0x96]
def sampleBuffer : List UInt8 := List.replicate 32 0

theorem accounted_while_slots_suffice_sample :
    ∃ final returns, RecvRun sampleCipher (PacketSocket.bind (some sampleAuthenticator))
        [⟨[sampleBuffer], [RecvMeta.default], [.ready], [.datagram [0x40] sampleSource, .datagram sampleDatagram sampleSource]⟩]
        final returns ∧
      final.counters.received - final.counters.rejected = UInt64.ofNat (handedCount returns) ∧ handedCount returns = 1 := by
  have run : RecvRun sampleCipher (PacketSocket.bind (some sampleAuthenticator)) _ _ _ := .cons _ _
    ⟨[sampleBuffer], [RecvMeta.default], [.ready], [.datagram [0x40] sampleSource, .datagram sampleDatagram sampleSource]⟩ []
    ⟨.ready (.ok 1), ⟨[sampleDatagram ++ List.replicate 11 0], [⟨sampleSource, 21, 21⟩], 1,
      [⟨.received, 1⟩, ⟨.receivedBytes, 1⟩, ⟨.rejected, 1⟩, ⟨.received, 1⟩, ⟨.receivedBytes, 21⟩]⟩, [], []⟩ []
    (by decide +kernel) rfl (.nil _)
  refine ⟨_, _, run, accounted_while_slots_suffice sampleCipher (some sampleAuthenticator) _ _ _ run ?_, rfl⟩
  intro call member
  rw [List.mem_singleton.mp member]
  decide +kernel

-- With two buffers but one meta slot the second genuine datagram is read,
-- counted as received, and lost.
theorem unplaced_datagram_unaccounted :
    ∃ final returns, RecvRun sampleCipher (PacketSocket.bind (some sampleAuthenticator))
        [⟨[sampleBuffer, sampleBuffer], [RecvMeta.default], [.ready],
          [.datagram sampleDatagram sampleSource, .datagram sampleDatagram sampleSource]⟩]
        final returns ∧
      ¬ final.counters.received - final.counters.rejected = UInt64.ofNat (handedCount returns) := by
  refine ⟨_, _, RecvRun.cons (PacketSocket.bind (some sampleAuthenticator)) _
    ⟨[sampleBuffer, sampleBuffer], [RecvMeta.default], [.ready],
      [.datagram sampleDatagram sampleSource, .datagram sampleDatagram sampleSource]⟩ []
    ⟨.ready (.ok 1), ⟨[sampleDatagram ++ List.replicate 11 0, sampleDatagram ++ List.replicate 11 0],
      [⟨sampleSource, 21, 21⟩], 1,
      [⟨.received, 1⟩, ⟨.receivedBytes, 21⟩, ⟨.received, 1⟩, ⟨.receivedBytes, 21⟩]⟩, [], []⟩ []
    (by decide +kernel) rfl (.nil _), ?_⟩
  decide

end Pktauth.Socket
