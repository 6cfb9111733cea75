import Mathlib.Data.List.Induction
import Pktauth.Socket.OneCall

set_option autoImplicit false

namespace Pktauth.Socket

open Rust Auth

section Intake

variable (aes : Cipher UInt8) (authenticator : Option Authenticator)

-- What a call has read so far, each datagram as the check sees it, and the
-- buffer that the next one goes to. A datagram that passes the check keeps its
-- buffer only if there is a meta slot for it.
structure Intake where
  cursor : Nat
  read : List Handed

def Intake.take (capacities : List Nat) (slots : Nat) (intake : Intake) (outcome : RecvOutcome) : Intake :=
  match (capacities[intake.cursor]?).bind (fun capacity => cutTo capacity outcome) with
  | none => intake
  | some datagram =>
      ⟨if genuine aes authenticator datagram ∧ intake.cursor < slots then intake.cursor + 1 else intake.cursor,
        intake.read ++ [datagram]⟩

def intake (capacities : List Nat) (slots : Nat) (used : List RecvOutcome) : Intake :=
  used.foldl (Intake.take aes authenticator capacities slots) ⟨0, []⟩

-- What poll_recv adds to the counters for one datagram.
def booking (datagram : Handed) : List FetchAdd :=
  [⟨.received, 1⟩, ⟨.receivedBytes, datagram.1.length⟩] ++ if genuine aes authenticator datagram then [] else [⟨.rejected, 1⟩]

theorem intake_append (capacities : List Nat) (slots : Nat) (used : List RecvOutcome) (outcome : RecvOutcome) :
    intake aes authenticator capacities slots (used ++ [outcome]) =
      (intake aes authenticator capacities slots used).take aes authenticator capacities slots outcome := by
  rw [intake, List.foldl_append]
  rfl

theorem intake_failed (capacities : List Nat) (slots : Nat) (used : List RecvOutcome) (error : ErrorKind) :
    intake aes authenticator capacities slots (used ++ [.failed error]) = intake aes authenticator capacities slots used := by
  rw [intake_append, Intake.take]
  cases capacities[(intake aes authenticator capacities slots used).cursor]? <;> rfl

theorem intake_datagram (capacities : List Nat) (slots capacity : Nat) (used : List RecvOutcome) (bytes : List UInt8)
    (addr : SocketAddr) (slot : capacities[(intake aes authenticator capacities slots used).cursor]? = some capacity) :
    intake aes authenticator capacities slots (used ++ [.datagram bytes addr]) =
      ⟨if authentic aes authenticator (bytes.take capacity) addr ∧ (intake aes authenticator capacities slots used).cursor < slots
        then (intake aes authenticator capacities slots used).cursor + 1
        else (intake aes authenticator capacities slots used).cursor,
        (intake aes authenticator capacities slots used).read ++ [(bytes.take capacity, addr)]⟩ := by
  rw [intake_append, Intake.take, slot]
  rfl

-- The invariant of a call, for buffers and metas of any lengths.
structure Tracked (bufs : List (List UInt8)) (metas : List RecvMeta) (used : List RecvOutcome) (state : RecvState) : Prop where
  capacities : state.bufs.map List.length = bufs.map List.length
  slots : state.metas.length = metas.length
  cursor : state.filled = (intake aes authenticator (bufs.map List.length) metas.length used).cursor
  updates : state.updates =
    (intake aes authenticator (bufs.map List.length) metas.length used).read.flatMap (booking aes authenticator)
  datagrams : (intake aes authenticator (bufs.map List.length) metas.length used).read.length =
    used.countP (fun outcome => !failure outcome)

theorem tracked_start (bufs : List (List UInt8)) (metas : List RecvMeta) :
    Tracked aes authenticator bufs metas [] ⟨bufs, metas, 0, []⟩ := ⟨rfl, rfl, rfl, rfl, rfl⟩

theorem tracked_step (bufs : List (List UInt8)) (metas : List RecvMeta) (used : List RecvOutcome) (state after : RecvState)
    (outcome : RecvOutcome) (flow : Flow) (buf : List UInt8) (holds : Tracked aes authenticator bufs metas used state)
    (slot : state.bufs[state.filled]? = some buf) (step : Received aes authenticator buf state outcome flow after) :
    Tracked aes authenticator bufs metas (used ++ [outcome]) after := by
  have capacity : (bufs.map List.length)[(intake aes authenticator (bufs.map List.length) metas.length used).cursor]? =
      some buf.length := by
    rw [← holds.cursor, ← holds.capacities, List.getElem?_map, slot, Option.map_some]
  have grown (bytes : List UInt8) (addr : SocketAddr) :=
    intake_datagram aes authenticator (bufs.map List.length) metas.length buf.length used bytes addr capacity
  have counted (bytes : List UInt8) (addr : SocketAddr) :
      (intake aes authenticator (bufs.map List.length) metas.length (used ++ [.datagram bytes addr])).read.length =
        (used ++ [RecvOutcome.datagram bytes addr]).countP (fun outcome => !failure outcome) := by
    simp [grown, failure, List.countP_append, holds.datagrams]
  have width (bytes : List UInt8) : (bytes.take buf.length).length = min bytes.length buf.length := by
    rw [List.length_take, Nat.min_comm]
  cases step with
  | accepted bytes addr passed room =>
      refine ⟨(capacities_read state buf bytes slot).trans holds.capacities, ?_, ?_, ?_, counted bytes addr⟩
      · simpa [RecvState.accept, RecvState.read] using holds.slots
      · have inside : (intake aes authenticator (bufs.map List.length) metas.length used).cursor < metas.length := by
          rw [← holds.cursor, ← holds.slots]
          exact room
        simp [grown, passed, inside, RecvState.accept, RecvState.read, holds.cursor]
      · simp [grown, RecvState.accept, RecvState.read, holds.updates, booking, genuine, passed, width]
  | unplaced bytes addr passed noRoom =>
      refine ⟨(capacities_read state buf bytes slot).trans holds.capacities, holds.slots, ?_, ?_, counted bytes addr⟩
      · have outside : ¬ (intake aes authenticator (bufs.map List.length) metas.length used).cursor < metas.length := by
          rw [← holds.cursor, ← holds.slots]
          exact Nat.not_lt.mpr noRoom
        simp [grown, outside, RecvState.read, holds.cursor]
      · simp [grown, RecvState.read, holds.updates, booking, genuine, passed, width]
  | rejected bytes addr forged =>
      refine ⟨(capacities_read state buf bytes slot).trans holds.capacities, holds.slots, ?_, ?_, counted bytes addr⟩
      · simp [grown, forged, RecvState.reject, RecvState.read, holds.cursor]
      · simp [grown, RecvState.reject, RecvState.read, holds.updates, booking, genuine, forged, width]
  | drained error soft =>
      refine ⟨holds.capacities, holds.slots, ?_, ?_, ?_⟩
      · rw [intake_failed, holds.cursor]
      · rw [intake_failed, holds.updates]
      · rw [intake_failed, holds.datagrams]
        simp [failure, List.countP_append]
  | fatal error hard empty =>
      refine ⟨holds.capacities, holds.slots, ?_, ?_, ?_⟩
      · rw [intake_failed, holds.cursor]
      · rw [intake_failed, holds.updates]
      · rw [intake_failed, holds.datagrams]
        simp [failure, List.countP_append]

def RecvCall.intake (call : RecvCall) : Intake :=
  Socket.intake aes authenticator (call.bufs.map List.length) call.metas.length call.recv

-- The datagrams that a run of calls reads off the wire, each as the check sees
-- it.
def readBy (calls : List RecvCall) : List Handed := calls.flatMap (fun call => (call.intake aes authenticator).read)

theorem call_tracked (call : RecvCall) (returned : RecvReturn)
    (polled : pollRecv aes authenticator call.ready call.recv ⟨call.bufs, call.metas, 0, []⟩ = .ok (some returned))
    (consumed : returned.recv = []) :
    Tracked aes authenticator call.bufs call.metas call.recv returned.state ∧ returned.count = returned.state.filled := by
  obtain ⟨_, read, _, answers, tracked, ended⟩ := poll_recv_returned aes authenticator
    (Tracked aes authenticator call.bufs call.metas)
    (fun used state buf outcome flow after => tracked_step aes authenticator _ _ used state after outcome flow buf)
    call.ready call.recv _ (tracked_start aes authenticator call.bufs call.metas) rfl returned polled
  rw [consumed, List.append_nil] at answers
  rw [answers]
  refine ⟨tracked, ?_⟩
  obtain ⟨result, state, _, _⟩ := returned
  change CallResult _ read state result at ended
  cases ended with
  | pending empty => exact empty.symm
  | readyFailed error last empty => exact empty.symm
  | recvFailed error last hard empty => exact empty.symm
  | batch nonempty => rfl

-- The counter updates of a whole run, in program order. Any finite stretch of
-- a run that never ends is also a stretch of one that does, since the answers
-- still to come are the environment's.
def runUpdates (returns : List RecvReturn) : List FetchAdd := returns.flatMap (fun returned => returned.state.updates)

theorem run_updates (socket final : PacketSocket) (calls : List RecvCall) (returns : List RecvReturn)
    (run : RecvRun aes socket calls final returns) :
    runUpdates returns = (readBy aes socket.authenticator calls).flatMap (booking aes socket.authenticator) := by
  induction run with
  | nil socket => rfl
  | cons socket final call calls returned returns polled consumed rest ih =>
      have first := (call_tracked aes socket.authenticator call returned polled consumed).1.updates
      simp only [runUpdates, readBy, List.flatMap_cons, List.flatMap_append, first] at ih ⊢
      rw [ih]
      rfl

theorem run_datagrams (socket final : PacketSocket) (calls : List RecvCall) (returns : List RecvReturn)
    (run : RecvRun aes socket calls final returns) :
    (readBy aes socket.authenticator calls).length = (calls.flatMap RecvCall.recv).countP (fun outcome => !failure outcome) := by
  induction run with
  | nil socket => rfl
  | cons socket final call calls returned returns polled consumed rest ih =>
      have first := (call_tracked aes socket.authenticator call returned polled consumed).1.datagrams
      simp only [readBy, List.flatMap_cons, List.length_append, List.countP_append] at ih ⊢
      rw [← first, ← ih]
      rfl

def forged (datagram : Handed) : Bool := !genuine aes authenticator datagram

theorem booking_totals (datagrams : List Handed) (counter : Counter) :
    total counter (datagrams.flatMap (booking aes authenticator)) =
      match counter with
      | .received => datagrams.length
      | .receivedBytes => (datagrams.map (fun datagram => datagram.1.length)).sum
      | .rejected => datagrams.countP (forged aes authenticator)
      | .sent | .sentBytes => 0 := by
  induction datagrams with
  | nil => cases counter <;> rfl
  | cons datagram datagrams ih =>
      rw [List.flatMap_cons, total_append, ih]
      cases counter <;> cases real : genuine aes authenticator datagram <;> simp [booking, forged, total, real] <;> omega

theorem genuine_or_forged (datagrams : List Handed) :
    datagrams.length = datagrams.countP (genuine aes authenticator) + datagrams.countP (forged aes authenticator) := by
  induction datagrams with
  | nil => rfl
  | cons datagram datagrams ih =>
      cases real : genuine aes authenticator datagram <;> simp [forged, real, ih] <;> omega

theorem run_counters (socket final : PacketSocket) (calls : List RecvCall) (returns : List RecvReturn)
    (run : RecvRun aes socket calls final returns) : final.counters = socket.counters.after (runUpdates returns) := by
  induction run with
  | nil socket => rfl
  | cons socket final call calls returned returns polled consumed rest ih =>
      rw [ih, PacketSocket.record]
      simp [Counters.after, runUpdates]

end Intake

-- When a run is accounted for. The missing meta slot is the only way to lose a
-- datagram that passed, so that each call which meets it leaves a gap.
section Accounting

variable (aes : Cipher UInt8) (authenticator : Option Authenticator)

-- Every datagram that passes moves the cursor on or finds no slot.
theorem intake_cursor (capacities : List Nat) (slots : Nat) (used : List RecvOutcome) :
    (intake aes authenticator capacities slots used).cursor ≤ slots ∧
      (intake aes authenticator capacities slots used).cursor ≤
        (intake aes authenticator capacities slots used).read.countP (genuine aes authenticator) ∧
      ((intake aes authenticator capacities slots used).cursor =
        (intake aes authenticator capacities slots used).read.countP (genuine aes authenticator) →
          (accepted aes authenticator capacities used).length = (intake aes authenticator capacities slots used).cursor) := by
  induction used using List.reverseRecOn with
  | nil => simp [intake, accepted]
  | append_singleton used outcome ih =>
      obtain ⟨inside, most, exactly⟩ := ih
      cases outcome with
      | failed error =>
          rw [intake_failed, accepted_failed]
          exact ⟨inside, most, exactly⟩
      | datagram bytes addr =>
          cases slot : capacities[(intake aes authenticator capacities slots used).cursor]? with
          | none =>
              have same : intake aes authenticator capacities slots (used ++ [.datagram bytes addr]) =
                  intake aes authenticator capacities slots used := by
                rw [intake_append, Intake.take, slot]
                rfl
              rw [same, accepted_append]
              refine ⟨inside, most, fun equal => ?_⟩
              rw [List.length_append, exactly equal, slot]
              rfl
          | some capacity =>
              rw [intake_datagram aes authenticator capacities slots capacity used bytes addr slot, accepted_append,
                List.length_append, List.countP_append]
              cases real : authentic aes authenticator (bytes.take capacity) addr with
              | false =>
                  have fails : genuine aes authenticator (bytes.take capacity, addr) = false := real
                  simp only [Bool.false_eq_true, false_and, if_false, List.countP_singleton, fails, Nat.add_zero]
                  refine ⟨inside, most, fun equal => ?_⟩
                  rw [exactly equal, slot]
                  simp [passes, real]
              | true =>
                  have passed : genuine aes authenticator (bytes.take capacity, addr) = true := real
                  by_cases room : (intake aes authenticator capacities slots used).cursor < slots
                  · simp only [room, and_self, if_true, List.countP_singleton, passed]
                    refine ⟨room, Nat.succ_le_succ most, fun equal => ?_⟩
                    rw [exactly (by omega), slot]
                    simp [passes, real]
                  · simp only [room, and_false, if_false, List.countP_singleton, passed, if_true]
                    exact ⟨inside, Nat.le_succ_of_le most, fun equal => by omega⟩

theorem call_accounted_iff (call : RecvCall) (returned : RecvReturn)
    (polled : pollRecv aes authenticator call.ready call.recv ⟨call.bufs, call.metas, 0, []⟩ = .ok (some returned))
    (consumed : returned.recv = []) :
    returned.count ≤ (call.intake aes authenticator).read.countP (genuine aes authenticator) ∧
      (returned.count = (call.intake aes authenticator).read.countP (genuine aes authenticator) ↔
        (accepted aes authenticator (call.bufs.map List.length) call.recv).length ≤ call.metas.length) := by
  obtain ⟨tracked, count⟩ := call_tracked aes authenticator call returned polled consumed
  obtain ⟨inside, most, exactly⟩ := intake_cursor aes authenticator (call.bufs.map List.length) call.metas.length call.recv
  rw [count, tracked.cursor]
  refine ⟨most, fun equal => by rw [exactly equal]; exact inside, fun fits => ?_⟩
  obtain ⟨read, answers, delivered⟩ := poll_recv_delivers aes authenticator call.bufs call.metas call.ready call.recv returned
    polled
  rw [consumed, List.append_nil] at answers
  have balance := (delivered (answers ▸ fits)).balance
  have split := genuine_or_forged aes authenticator (call.intake aes authenticator).read
  rw [tracked.updates, booking_totals, booking_totals, count, tracked.cursor] at balance
  dsimp only at balance
  exact Nat.add_left_cancel (balance.symm.trans (split.trans (Nat.add_comm _ _)))

theorem run_accounted_iff (socket final : PacketSocket) (calls : List RecvCall) (returns : List RecvReturn)
    (run : RecvRun aes socket calls final returns) :
    handedCount returns ≤ (readBy aes socket.authenticator calls).countP (genuine aes socket.authenticator) ∧
      (handedCount returns = (readBy aes socket.authenticator calls).countP (genuine aes socket.authenticator) ↔
        ∀ call ∈ calls, (accepted aes socket.authenticator (call.bufs.map List.length) call.recv).length ≤ call.metas.length) := by
  induction run with
  | nil socket => simp [handedCount, readBy]
  | cons socket final call calls returned returns polled consumed rest ih =>
      obtain ⟨most, exactly⟩ := call_accounted_iff aes socket.authenticator call returned polled consumed
      obtain ⟨mostLater, exactlyLater⟩ := ih
      have counts : handedCount (returned :: returns) = returned.count + handedCount returns := rfl
      have reads : readBy aes socket.authenticator (call :: calls) =
          (call.intake aes socket.authenticator).read ++ readBy aes socket.authenticator calls := rfl
      simp only [PacketSocket.record] at mostLater exactlyLater
      rw [counts, reads, List.countP_append, List.forall_mem_cons, ← exactly, ← exactlyLater]
      omega

-- Both directions for a run whose counters do not wrap.
theorem accounted_iff_slots_suffice (calls : List RecvCall) (final : PacketSocket) (returns : List RecvReturn)
    (run : RecvRun aes (PacketSocket.bind authenticator) calls final returns)
    (bounded : (readBy aes authenticator calls).length < UInt64.size) :
    final.counters.received - final.counters.rejected = UInt64.ofNat (handedCount returns) ↔
      ∀ call ∈ calls, (accepted aes authenticator (call.bufs.map List.length) call.recv).length ≤ call.metas.length := by
  obtain ⟨most, exactly⟩ := run_accounted_iff aes (PacketSocket.bind authenticator) final calls returns run
  dsimp only [PacketSocket.bind] at most exactly
  have split := genuine_or_forged aes authenticator (readBy aes authenticator calls)
  have load (counter : Counter) : final.counters.load counter = UInt64.ofNat (total counter (runUpdates returns)) := by
    have zero : ({} : Counters).load counter = 0 := by cases counter <;> rfl
    rw [run_counters aes _ final calls returns run, load_after, PacketSocket.bind, zero, UInt64.zero_add]
  have received := load .received
  have rejected := load .rejected
  rw [run_updates aes _ final calls returns run, booking_totals] at received rejected
  dsimp only [Counters.load, PacketSocket.bind] at received rejected
  have difference : final.counters.received - final.counters.rejected =
      UInt64.ofNat ((readBy aes authenticator calls).countP (genuine aes authenticator)) := by
    rw [received, rejected, split, UInt64.ofNat_add, UInt64.add_sub_cancel]
  rw [difference, ← exactly, ← UInt64.toNat_inj, UInt64.toNat_ofNat_of_lt' (by omega), UInt64.toNat_ofNat_of_lt' (by omega)]
  exact eq_comm

end Accounting

end Pktauth.Socket
