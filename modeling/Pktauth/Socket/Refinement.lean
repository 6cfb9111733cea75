import Pktauth.Auth.Cause
import Pktauth.Socket.RecvRun

set_option autoImplicit false

namespace Pktauth.Socket

open Rust Auth

section Refinement

variable (aes : Cipher UInt8) (authenticator : Authenticator)

-- The filter the authenticator is meant to be: a firewall in front of a plain
-- socket, which sees whole datagrams and lets every error through.
def firewall : RecvOutcome → Bool
  | .datagram bytes addr => decide (authenticator.check aes bytes addr.ip = .ok (.ok ()))
  | .failed _ => true

-- Buffers that hold the longest destination ID and what stands before it.
def Wide (state : RecvState) : Prop := ∀ buf ∈ state.bufs, 26 ≤ buf.length

-- The two sockets have shown Quinn the same. The bytes behind the end of a
-- datagram, where a rejected one may have left its traces, do not count.
structure Alike (guarded plain : RecvState) : Prop where
  lengths : guarded.bufs.map List.length = plain.bufs.map List.length
  metas : guarded.metas = plain.metas
  filled : guarded.filled = plain.filled
  handed : guarded.handed guarded.filled = plain.handed plain.filled

theorem authentic_wide (buf bytes : List UInt8) (addr : SocketAddr) (wide : 26 ≤ buf.length) :
    authentic aes (some authenticator) (bytes.take buf.length) addr = firewall aes authenticator (.datagram bytes addr) := by
  simp only [authentic, firewall, check_congr aes authenticator addr.ip _ _ (destination_cid_take bytes buf.length wide)]

theorem wide_lengths (before after : RecvState) (wide : Wide before)
    (same : after.bufs.map List.length = before.bufs.map List.length) : Wide after := by
  intro buf member
  have length : buf.length ∈ before.bufs.map List.length := same ▸ List.mem_map_of_mem member
  obtain ⟨other, found, equal⟩ := List.mem_map.mp length
  exact equal ▸ wide other found

section Step

variable (guarded plain : RecvState) (alike : Alike guarded plain)

include alike

theorem alike_slot (buf : List UInt8) (slot : guarded.bufs[guarded.filled]? = some buf) :
    ∃ other, plain.bufs[plain.filled]? = some other ∧ other.length = buf.length := by
  have lengths := congrArg (fun lengths : List Nat => lengths[guarded.filled]?) alike.lengths
  simp only [List.getElem?_map, slot, Option.map_some] at lengths
  rw [alike.filled] at lengths
  obtain ⟨other, found, same⟩ := Option.map_eq_some_iff.mp lengths.symm
  exact ⟨other, found, same⟩

theorem alike_full (full : guarded.bufs[guarded.filled]? = none) : plain.bufs[plain.filled]? = none := by
  have lengths := congrArg List.length alike.lengths
  simp only [List.length_map] at lengths
  rw [List.getElem?_eq_none_iff, ← lengths, ← alike.filled]
  exact List.getElem?_eq_none_iff.mp full

theorem alike_rejected (buf bytes : List UInt8) (slot : guarded.bufs[guarded.filled]? = some buf) :
    Alike (guarded.reject buf bytes) plain :=
  ⟨(capacities_read guarded buf bytes slot).trans alike.lengths, alike.metas, alike.filled,
    (handed_read guarded buf bytes).trans alike.handed⟩

theorem alike_read (buf other bytes : List UInt8) (slot : guarded.bufs[guarded.filled]? = some buf)
    (plainSlot : plain.bufs[plain.filled]? = some other) : Alike (guarded.read buf bytes) (plain.read other bytes) :=
  ⟨(capacities_read guarded buf bytes slot).trans (alike.lengths.trans (capacities_read plain other bytes plainSlot).symm),
    alike.metas, alike.filled, (handed_read guarded buf bytes).trans (alike.handed.trans (handed_read plain other bytes).symm)⟩

theorem alike_accepted (buf other bytes : List UInt8) (addr : SocketAddr) (slot : guarded.bufs[guarded.filled]? = some buf)
    (plainSlot : plain.bufs[plain.filled]? = some other) (same : other.length = buf.length)
    (room : guarded.filled < guarded.metas.length) : Alike (guarded.accept buf bytes addr) (plain.accept other bytes addr) := by
  have read := alike_read guarded plain alike buf other bytes slot plainSlot
  have plainRoom : plain.filled < plain.metas.length := by
    rw [← alike.filled, ← alike.metas]
    exact room
  refine ⟨read.lengths, ?_, congrArg (· + 1) alike.filled, ?_⟩
  · simp only [RecvState.accept, alike.metas, alike.filled, same]
  · have left := handed_accept guarded buf bytes addr slot room
    have right := handed_accept plain other bytes addr plainSlot plainRoom
    rw [same, ← alike.handed] at right
    exact left.trans right.symm

-- A datagram the firewall stops is a pass that the plain socket does not make;
-- every other pass the two sockets make together.
theorem receive_alike (wide : Wide guarded) (buf : List UInt8) (slot : guarded.bufs[guarded.filled]? = some buf)
    (outcome : RecvOutcome) :
    (firewall aes authenticator outcome = false → ∃ after, receive aes (some authenticator) buf outcome guarded =
      .ok (.next, after) ∧ Alike after plain ∧ Wide after) ∧
    (firewall aes authenticator outcome = true → ∃ other flow after plainAfter, plain.bufs[plain.filled]? = some other ∧
      receive aes (some authenticator) buf outcome guarded = .ok (flow, after) ∧
      receive aes none other outcome plain = .ok (flow, plainAfter) ∧ Alike after plainAfter ∧ Wide after) := by
  have width := wide buf (List.mem_of_getElem? slot)
  obtain ⟨other, plainSlot, same⟩ := alike_slot guarded plain alike buf slot
  obtain ⟨flow, after, received, pass⟩ := receive_spec aes (some authenticator) buf outcome guarded
  obtain ⟨plainFlow, plainAfter, plainReceived, plainPass⟩ := receive_spec aes none other outcome plain
  cases pass with
  | accepted bytes addr genuine room =>
      rw [authentic_wide aes authenticator buf bytes addr width] at genuine
      refine ⟨fun stopped => by simp [genuine] at stopped, fun _ => ⟨other, .next, _, _, plainSlot, received, ?_,
        alike_accepted guarded plain alike buf other bytes addr slot plainSlot same room,
        wide_lengths guarded _ wide (capacities_read guarded buf bytes slot)⟩⟩
      cases plainPass with
      | accepted _ _ _ _ => exact plainReceived
      | unplaced _ _ _ noRoom =>
          rw [← alike.filled, ← alike.metas] at noRoom
          omega
      | rejected _ _ forged => simp [authentic] at forged
  | unplaced bytes addr genuine noRoom =>
      rw [authentic_wide aes authenticator buf bytes addr width] at genuine
      refine ⟨fun stopped => by simp [genuine] at stopped, fun _ => ⟨other, .leave, _, _, plainSlot, received, ?_,
        alike_read guarded plain alike buf other bytes slot plainSlot,
        wide_lengths guarded _ wide (capacities_read guarded buf bytes slot)⟩⟩
      cases plainPass with
      | accepted _ _ _ room =>
          rw [← alike.filled, ← alike.metas] at room
          omega
      | unplaced _ _ _ _ => exact plainReceived
      | rejected _ _ forged => simp [authentic] at forged
  | rejected bytes addr forged =>
      rw [authentic_wide aes authenticator buf bytes addr width] at forged
      exact ⟨fun _ => ⟨_, received, alike_rejected guarded plain alike buf bytes slot,
        wide_lengths guarded _ wide (capacities_read guarded buf bytes slot)⟩, fun passed => by simp [forged] at passed⟩
  | drained error soft =>
      refine ⟨fun stopped => by simp [firewall] at stopped, fun _ => ⟨other, .leave, _, _, plainSlot, received, ?_, alike, wide⟩⟩
      cases plainPass with
      | drained _ _ => exact plainReceived
      | fatal _ hard empty =>
          rw [← alike.filled] at empty
          rcases soft with blocked | transient | filled
          · exact absurd blocked hard.1
          · simp [hard.2] at transient
          · omega
  | fatal error hard empty =>
      refine ⟨fun stopped => by simp [firewall] at stopped, fun _ => ⟨other, .fail error, _, _, plainSlot, received, ?_, alike, wide⟩⟩
      cases plainPass with
      | drained _ soft =>
          rw [← alike.filled] at soft
          rcases soft with blocked | transient | filled
          · exact absurd blocked hard.1
          · simp [hard.2] at transient
          · omega
      | fatal _ _ _ => exact plainReceived

end Step

def StopsAlike (guarded plain : Flow × RecvState × List RecvOutcome) : Prop :=
  guarded.1 = plain.1 ∧ Alike guarded.2.1 plain.2.1 ∧ Wide guarded.2.1 ∧
    plain.2.2 = guarded.2.2.filter (firewall aes authenticator)

-- Lock step on what passes the firewall: either both loops stop, for the same
-- reason, or both ask for another answer.
theorem recv_loop_alike (recv : List RecvOutcome) (guarded plain : RecvState) (alike : Alike guarded plain)
    (wide : Wide guarded) :
    ∃ stop plainStop, recvLoop aes (some authenticator) recv guarded = .ok stop ∧
      recvLoop aes none (recv.filter (firewall aes authenticator)) plain = .ok plainStop ∧
      Option.Rel (StopsAlike aes authenticator) stop plainStop := by
  induction recv generalizing guarded plain with
  | nil =>
      cases slot : guarded.bufs[guarded.filled]? with
      | none =>
          have full := alike_full guarded plain alike slot
          exact ⟨_, _, recv_loop_full aes _ [] guarded slot, recv_loop_full aes _ [] plain full, .some ⟨rfl, alike, wide, rfl⟩⟩
      | some buf =>
          obtain ⟨other, plainSlot, _⟩ := alike_slot guarded plain alike buf slot
          refine ⟨none, none, ?_, ?_, .none⟩
          · rw [recvLoop.eq_def]
            simp only [slot]
          · rw [List.filter_nil, recvLoop.eq_def]
            simp only [plainSlot]
  | cons outcome recv ih =>
      cases slot : guarded.bufs[guarded.filled]? with
      | none =>
          have full := alike_full guarded plain alike slot
          exact ⟨_, _, recv_loop_full aes _ _ guarded slot, recv_loop_full aes _ _ plain full, .some ⟨rfl, alike, wide, rfl⟩⟩
      | some buf =>
          obtain ⟨skipped, together⟩ := receive_alike aes authenticator guarded plain alike wide buf slot outcome
          cases passed : firewall aes authenticator outcome with
          | false =>
              obtain ⟨after, received, alike', wide'⟩ := skipped passed
              rw [recv_loop_next aes _ outcome recv guarded after buf slot received,
                List.filter_cons_of_neg (by simp [passed])]
              exact ih after plain alike' wide'
          | true =>
              obtain ⟨other, flow, after, plainAfter, plainSlot, received, plainReceived, alike', wide'⟩ := together passed
              rw [List.filter_cons_of_pos passed]
              by_cases goes : flow = .next
              · subst goes
                rw [recv_loop_next aes _ outcome recv guarded after buf slot received,
                  recv_loop_next aes _ outcome _ plain plainAfter other plainSlot plainReceived]
                exact ih after plainAfter alike' wide'
              · exact ⟨_, _, recv_loop_exit aes _ outcome recv guarded after buf flow slot goes received,
                  recv_loop_exit aes _ outcome _ plain plainAfter other flow plainSlot goes plainReceived,
                  .some ⟨rfl, alike', wide', rfl⟩⟩

structure ReturnsAlike (guarded plain : RecvReturn) : Prop where
  result : guarded.result = plain.result
  metas : guarded.state.metas = plain.state.metas
  handed : guarded.handed = plain.handed
  ready : guarded.ready = plain.ready
  recv : plain.recv = guarded.recv.filter (firewall aes authenticator)

theorem poll_recv_alike (ready : List Readiness) (recv : List RecvOutcome) (guarded plain : RecvState)
    (alike : Alike guarded plain) (wide : Wide guarded) :
    ∃ answer plainAnswer, pollRecv aes (some authenticator) ready recv guarded = .ok answer ∧
      pollRecv aes none ready (recv.filter (firewall aes authenticator)) plain = .ok plainAnswer ∧
      Option.Rel (ReturnsAlike aes authenticator) answer plainAnswer := by
  induction ready generalizing recv guarded plain with
  | nil => exact ⟨none, none, rfl, rfl, .none⟩
  | cons answer ready ih =>
      cases answer with
      | notReady => exact ⟨_, _, rfl, rfl, .some ⟨rfl, alike.metas, rfl, rfl, rfl⟩⟩
      | failed error => exact ⟨_, _, rfl, rfl, .some ⟨rfl, alike.metas, rfl, rfl, rfl⟩⟩
      | ready =>
          have fresh : Alike { guarded with filled := 0 } { plain with filled := 0 } :=
            ⟨alike.lengths, alike.metas, rfl, by simp [RecvState.handed]⟩
          obtain ⟨stop, plainStop, looped, plainLooped, same⟩ := recv_loop_alike aes authenticator recv _ _ fresh wide
          rw [pollRecv, pollRecv, looped, plainLooped, exec_bind_ok, exec_bind_ok]
          cases same with
          | none => exact ⟨none, none, rfl, rfl, .none⟩
          | @some left right pair =>
              obtain ⟨flow, after, rest⟩ := left
              obtain ⟨plainFlow, plainAfter, plainRest⟩ := right
              obtain ⟨rfl, alike', wide', rfl⟩ := pair
              cases flow with
              | fail error => exact ⟨_, _, rfl, rfl, .some ⟨rfl, alike'.metas, rfl, rfl, rfl⟩⟩
              | next | leave =>
                  have count := alike'.filled
                  have handed := alike'.handed
                  simp only at count handed ⊢
                  rw [← count] at handed ⊢
                  by_cases some : after.filled > 0
                  · simp only [if_pos some]
                    exact ⟨_, _, rfl, rfl, .some ⟨rfl, alike'.metas, handed, rfl, rfl⟩⟩
                  · simp only [if_neg some]
                    exact ih rest after plainAfter alike' wide'

def RecvCall.behind (call : RecvCall) : RecvCall := { call with recv := call.recv.filter (firewall aes authenticator) }

theorem alike_refl (state : RecvState) : Alike state state := ⟨rfl, rfl, rfl, rfl⟩

theorem recv_run_alike (calls : List RecvCall) (wide : ∀ call ∈ calls, ∀ buf ∈ call.bufs, 26 ≤ buf.length)
    (socket final : PacketSocket) (returns : List RecvReturn) (run : RecvRun aes socket calls final returns)
    (guarded : socket.authenticator = some authenticator) (plain : PacketSocket) (unguarded : plain.authenticator = none) :
    ∃ plainFinal plainReturns, RecvRun aes plain (calls.map (RecvCall.behind aes authenticator)) plainFinal plainReturns ∧
      List.Forall₂ (ReturnsAlike aes authenticator) returns plainReturns := by
  induction run generalizing plain with
  | nil socket => exact ⟨plain, [], .nil plain, .nil⟩
  | cons socket final call calls returned returns polled consumed rest ih =>
      obtain ⟨answer, plainAnswer, played, plainPlayed, same⟩ := poll_recv_alike aes authenticator call.ready call.recv
        ⟨call.bufs, call.metas, 0, []⟩ _ (alike_refl _) (wide call List.mem_cons_self)
      rw [guarded, played, Except.ok.injEq] at polled
      subst polled
      cases same with
      | @some _ plainReturned pair =>
          obtain ⟨plainFinal, plainReturns, plainRest, later⟩ := ih (fun other member => wide other (List.mem_cons_of_mem call member))
            guarded (plain.record plainReturned.state.updates) unguarded
          refine ⟨plainFinal, plainReturned :: plainReturns, .cons plain plainFinal _ _ plainReturned plainReturns ?_ ?_ plainRest,
            .cons pair later⟩
          · rw [unguarded]
            exact plainPlayed
          · rw [pair.recv, consumed, List.filter_nil]

theorem authentication_refines_firewall :
    (∀ (ready : List Readiness) (recv : List RecvOutcome) (bufs : List (List UInt8)) (metas : List RecvMeta),
      (∀ buf ∈ bufs, 26 ≤ buf.length) →
      (pollRecv aes (some authenticator) ready recv ⟨bufs, metas, 0, []⟩ = .ok none ↔
        pollRecv aes none ready (recv.filter (firewall aes authenticator)) ⟨bufs, metas, 0, []⟩ = .ok none)) ∧
    (∀ (calls : List RecvCall) (final : PacketSocket) (returns : List RecvReturn),
      (∀ call ∈ calls, ∀ buf ∈ call.bufs, 26 ≤ buf.length) →
      RecvRun aes (PacketSocket.bind (some authenticator)) calls final returns →
      ∃ plainFinal plainReturns,
        RecvRun aes (PacketSocket.bind none) (calls.map (RecvCall.behind aes authenticator)) plainFinal plainReturns ∧
        List.Forall₂ (ReturnsAlike aes authenticator) returns plainReturns) := by
  constructor
  · intro ready recv bufs metas wide
    obtain ⟨answer, plainAnswer, played, plainPlayed, same⟩ := poll_recv_alike aes authenticator ready recv
      ⟨bufs, metas, 0, []⟩ _ (alike_refl _) wide
    rw [played, plainPlayed]
    cases same with
    | none => exact iff_of_true rfl rfl
    | some pair => exact iff_of_false nofun nofun
  · intro calls final returns wide run
    exact recv_run_alike aes authenticator calls wide _ final returns run rfl _ rfl

end Refinement

-- The forged datagram is the longer one, and its tail stays in the buffer.
theorem authentication_refines_firewall_sample :
    ∃ final returned plainFinal plainReturned,
      RecvRun sampleCipher (PacketSocket.bind (some sampleAuthenticator))
        [⟨[sampleBuffer], [RecvMeta.default], [.ready],
          [.datagram (List.replicate 32 0x40) sampleSource, .datagram sampleDatagram sampleSource]⟩] final [returned] ∧
      RecvRun sampleCipher (PacketSocket.bind none)
        [⟨[sampleBuffer], [RecvMeta.default], [.ready], [.datagram sampleDatagram sampleSource]⟩] plainFinal [plainReturned] ∧
      returned.state.bufs ≠ [sampleDatagram ++ List.replicate 11 0] ∧ plainReturned.result = .ready (.ok 1) ∧
      plainReturned.handed = [(sampleDatagram, sampleSource)] := by
  have run : RecvRun sampleCipher (PacketSocket.bind (some sampleAuthenticator)) _ _ _ := .cons _ _
    ⟨[sampleBuffer], [RecvMeta.default], [.ready],
      [.datagram (List.replicate 32 0x40) sampleSource, .datagram sampleDatagram sampleSource]⟩ []
    ⟨.ready (.ok 1), ⟨[sampleDatagram ++ List.replicate 11 0x40], [⟨sampleSource, 21, 21⟩], 1,
      [⟨.received, 1⟩, ⟨.receivedBytes, 32⟩, ⟨.rejected, 1⟩, ⟨.received, 1⟩, ⟨.receivedBytes, 21⟩]⟩, [], []⟩ []
    (by decide +kernel) rfl (.nil _)
  obtain ⟨plainFinal, plainReturns, plainRun, alike⟩ :=
    (authentication_refines_firewall sampleCipher sampleAuthenticator).2 _ _ _ (by decide) run
  have filtered : ([.datagram (List.replicate 32 0x40) sampleSource, .datagram sampleDatagram sampleSource]).filter
      (firewall sampleCipher sampleAuthenticator) = [.datagram sampleDatagram sampleSource] := by decide +kernel
  simp only [List.map_cons, List.map_nil, RecvCall.behind, filtered] at plainRun
  cases alike with
  | cons first rest =>
      cases rest with
      | nil => exact ⟨_, _, plainFinal, _, run, plainRun, by decide, first.result.symm, first.handed.symm.trans (by decide)⟩

end Pktauth.Socket
