import Pktauth.Lib.Sequence
import Pktauth.Socket.RecvLoop

set_option autoImplicit false

namespace Pktauth.Socket

open Rust Auth Sequence

abbrev Handed := List UInt8 × SocketAddr

def RecvState.handed (state : RecvState) (count : Nat) : List Handed :=
  List.zipWith (fun buf entry => (buf.take entry.len, entry.addr)) (state.bufs.take count) (state.metas.take count)

def RecvReturn.handed (returned : RecvReturn) : List Handed :=
  match returned.result with
  | .ready (.ok count) => returned.state.handed count
  | .ready (.error _) | .pending => []

def RecvReturn.count (returned : RecvReturn) : Nat :=
  match returned.result with
  | .ready (.ok count) => count
  | .ready (.error _) | .pending => 0

section Filter

variable (aes : Cipher UInt8) (authenticator : Option Authenticator)

def passes (capacity : Nat) : RecvOutcome → Option Handed
  | .datagram bytes addr =>
      if authentic aes authenticator (bytes.take capacity) addr then some (bytes.take capacity, addr) else none
  | .failed _ => none

-- The datagrams of a stream that pass the check, each cut to the capacity of
-- the buffer it is read into. A datagram that fails leaves the buffer in place.
def accepted : List Nat → List RecvOutcome → List Handed
  | _, [] => []
  | [], _ :: _ => []
  | capacity :: capacities, outcome :: rest =>
      match passes aes authenticator capacity outcome with
      | some datagram => datagram :: accepted capacities rest
      | none => accepted (capacity :: capacities) rest

theorem accepted_append (capacities : List Nat) (used : List RecvOutcome) (outcome : RecvOutcome) :
    accepted aes authenticator capacities (used ++ [outcome]) =
      accepted aes authenticator capacities used ++
        (match capacities[(accepted aes authenticator capacities used).length]? with
          | none => []
          | some capacity => (passes aes authenticator capacity outcome).toList) := by
  induction used generalizing capacities with
  | nil =>
      cases capacities with
      | nil => simp [accepted]
      | cons capacity capacities => cases passed : passes aes authenticator capacity outcome <;> simp [accepted, passed]
  | cons head used ih =>
      cases capacities with
      | nil => simp [accepted]
      | cons capacity capacities =>
          cases passed : passes aes authenticator capacity head with
          | none => simpa only [List.cons_append, accepted, passed] using ih (capacity :: capacities)
          | some datagram =>
              simpa only [List.cons_append, accepted, passed, List.length_cons, List.getElem?_cons_succ,
                List.cons.injEq, true_and] using ih capacities

theorem accepted_failed (capacities : List Nat) (used : List RecvOutcome) (error : ErrorKind) :
    accepted aes authenticator capacities (used ++ [.failed error]) = accepted aes authenticator capacities used := by
  rw [accepted_append]
  split <;> simp [passes]

theorem accepted_length (capacities : List Nat) (used : List RecvOutcome) :
    (accepted aes authenticator capacities used).length ≤ capacities.length := by
  fun_induction accepted with
  | case1 => simp
  | case2 => simp
  | case3 capacity capacities outcome rest datagram passed ih => simpa using ih
  | case4 capacity capacities outcome rest failed ih => exact ih

theorem accepted_replicate (capacity count : Nat) (used : List RecvOutcome) :
    accepted aes authenticator (List.replicate count capacity) used =
      (used.filterMap (passes aes authenticator capacity)).take count := by
  induction used generalizing count with
  | nil => cases count <;> simp [accepted]
  | cons outcome used ih =>
      cases count with
      | zero => simp [accepted]
      | succ count =>
          cases passed : passes aes authenticator capacity outcome with
          | none => simpa only [List.replicate_succ, accepted, passed, List.filterMap_cons] using ih (count + 1)
          | some datagram =>
              simp only [List.replicate_succ, accepted, passed, List.filterMap_cons, List.take_succ_cons, ih count]

end Filter

theorem handed_read (state : RecvState) (buf bytes : List UInt8) :
    (state.read buf bytes).handed state.filled = state.handed state.filled := by
  simp only [RecvState.handed, RecvState.read, List.take_set_of_le (Nat.le_refl _)]

theorem handed_accept (state : RecvState) (buf bytes : List UInt8) (addr : SocketAddr)
    (slot : state.bufs[state.filled]? = some buf) (room : state.filled < state.metas.length) :
    (state.accept buf bytes addr).handed (state.filled + 1) =
      state.handed state.filled ++ [(bytes.take buf.length, addr)] := by
  have bound : state.filled < state.bufs.length := (List.getElem?_eq_some_iff.mp slot).1
  have content : (bytes.take buf.length ++ buf.drop (min bytes.length buf.length)).take (min bytes.length buf.length) =
      bytes.take buf.length :=
    List.take_left' (by rw [List.length_take, Nat.min_comm])
  simp only [RecvState.handed, RecvState.accept, RecvState.read, take_set_next _ _ _ bound, take_set_next _ _ _ room]
  rw [List.zipWith_append (by simp only [List.length_take]; omega)]
  simp [content]

section Placed

variable (aes : Cipher UInt8) (authenticator : Option Authenticator)

-- The invariant of a call that starts with no slot filled and no update made.
-- As long as there were slots for all, the filled slots hold exactly the
-- accepted datagrams, every other datagram read was counted as rejected, and
-- nothing is read once the buffers are full.
structure Placed (start : RecvState) (used : List RecvOutcome) (state : RecvState) : Prop where
  capacities : state.bufs.map List.length = start.bufs.map List.length
  slots : state.metas.length = start.metas.length
  placed : (accepted aes authenticator (start.bufs.map List.length) used).length ≤ start.metas.length →
    state.filled = (accepted aes authenticator (start.bufs.map List.length) used).length ∧
      state.handed state.filled = accepted aes authenticator (start.bufs.map List.length) used ∧
      total .received state.updates = total .rejected state.updates + state.filled
  demand : (accepted aes authenticator (start.bufs.map List.length) used).length ≤ start.metas.length →
    ∀ earlier outcome, used = earlier ++ [outcome] →
      (accepted aes authenticator (start.bufs.map List.length) earlier).length < start.bufs.length

theorem placed_start (bufs : List (List UInt8)) (metas : List RecvMeta) :
    Placed aes authenticator ⟨bufs, metas, 0, []⟩ [] ⟨bufs, metas, 0, []⟩ := by
  refine ⟨rfl, rfl, fun _ => ?_, fun _ earlier outcome ends => ?_⟩
  · simp [accepted, RecvState.handed, total]
  · simp at ends

theorem capacities_read (state : RecvState) (buf bytes : List UInt8) (slot : state.bufs[state.filled]? = some buf) :
    (state.read buf bytes).bufs.map List.length = state.bufs.map List.length := by
  obtain ⟨bound, rfl⟩ := List.getElem?_eq_some_iff.mp slot
  have same : (bytes.take state.bufs[state.filled].length ++
      state.bufs[state.filled].drop (min bytes.length state.bufs[state.filled].length)).length =
        state.bufs[state.filled].length := by
    simp only [List.length_append, List.length_take, List.length_drop]
    omega
  rw [RecvState.read, List.map_set, same, ← List.map_set, List.set_getElem_self]

theorem placed_step (start state after : RecvState) (used : List RecvOutcome) (outcome : RecvOutcome) (flow : Flow)
    (buf : List UInt8) (holds : Placed aes authenticator start used state) (slot : state.bufs[state.filled]? = some buf)
    (step : Received aes authenticator buf state outcome flow after) :
    Placed aes authenticator start (used ++ [outcome]) after := by
  have grown := accepted_append aes authenticator (start.bufs.map List.length) used outcome
  have capacity : (start.bufs.map List.length)[state.filled]? = some buf.length := by
    rw [← holds.capacities, List.getElem?_map, slot, Option.map_some]
  have before : (accepted aes authenticator (start.bufs.map List.length) (used ++ [outcome])).length ≤ start.metas.length →
      (accepted aes authenticator (start.bufs.map List.length) used).length ≤ start.metas.length := by
    rw [grown, List.length_append]
    omega
  have demand : (accepted aes authenticator (start.bufs.map List.length) (used ++ [outcome])).length ≤ start.metas.length →
      ∀ earlier last, used ++ [outcome] = earlier ++ [last] →
        (accepted aes authenticator (start.bufs.map List.length) earlier).length < start.bufs.length := by
    intro fits earlier last ends
    obtain ⟨rfl, _⟩ := List.append_inj' ends rfl
    have bound := (List.getElem?_eq_some_iff.mp slot).1
    have lengths := congrArg List.length holds.capacities
    simp only [List.length_map] at lengths
    rw [← (holds.placed (before fits)).1]
    omega
  cases step with
  | accepted bytes addr genuine room =>
      refine ⟨(capacities_read state buf bytes slot).trans holds.capacities, ?_, fun fits => ?_, demand⟩
      · simpa [RecvState.accept, RecvState.read] using holds.slots
      · obtain ⟨count, content, updates⟩ := holds.placed (before fits)
        have passed : passes aes authenticator buf.length (.datagram bytes addr) = some (bytes.take buf.length, addr) := by
          simp [passes, genuine]
        rw [← count, capacity] at grown
        simp only [passed, Option.toList_some] at grown
        refine ⟨by rw [grown, List.length_append, ← count]; rfl, ?_, ?_⟩
        · rw [grown, ← content]
          exact handed_accept state buf bytes addr slot room
        · simp only [RecvState.accept, RecvState.read, total_append, updates]
          simp [total]
          omega
  | unplaced bytes addr genuine noRoom =>
      refine ⟨(capacities_read state buf bytes slot).trans holds.capacities, holds.slots, fun fits => ?_, demand⟩
      obtain ⟨count, _, _⟩ := holds.placed (before fits)
      rw [← count, capacity] at grown
      rw [grown, List.length_append, ← count] at fits
      simp [passes, genuine] at fits
      have slots := holds.slots
      omega
  | rejected bytes addr forged =>
      refine ⟨(capacities_read state buf bytes slot).trans holds.capacities, holds.slots, fun fits => ?_, demand⟩
      obtain ⟨count, content, updates⟩ := holds.placed (before fits)
      rw [← count, capacity] at grown
      simp only [passes, forged, Bool.false_eq_true, if_false, Option.toList_none, List.append_nil] at grown
      rw [grown]
      refine ⟨count, ?_, ?_⟩
      · rw [← content]
        exact handed_read state buf bytes
      · simp only [RecvState.reject, RecvState.read, total_append, updates]
        simp [total]
        omega
  | drained error soft =>
      refine ⟨holds.capacities, holds.slots, fun fits => ?_, demand⟩
      rw [accepted_failed]
      exact holds.placed (before fits)
  | fatal error hard empty =>
      refine ⟨holds.capacities, holds.slots, fun fits => ?_, demand⟩
      rw [accepted_failed]
      exact holds.placed (before fits)

-- What a returned call amounts to, once each accepted datagram found a slot.
structure Delivered (bufs : List (List UInt8)) (read : List RecvOutcome) (handed : List Handed) (count : Nat)
    (updates : List FetchAdd) : Prop where
  exactly : handed = accepted aes authenticator (bufs.map List.length) read
  counted : count = (accepted aes authenticator (bufs.map List.length) read).length
  balance : total .received updates = total .rejected updates + count
  demand : ∀ earlier outcome, read = earlier ++ [outcome] →
    (accepted aes authenticator (bufs.map List.length) earlier).length < bufs.length

theorem placed_delivered (bufs : List (List UInt8)) (metas : List RecvMeta) (read : List RecvOutcome) (state : RecvState)
    (holds : Placed aes authenticator ⟨bufs, metas, 0, []⟩ read state)
    (fits : (accepted aes authenticator (bufs.map List.length) read).length ≤ metas.length) :
    Delivered aes authenticator bufs read (state.handed state.filled) state.filled state.updates := by
  obtain ⟨count, content, updates⟩ := holds.placed fits
  exact ⟨content, count, updates, holds.demand fits⟩

theorem placed_nothing (bufs : List (List UInt8)) (metas : List RecvMeta) (read : List RecvOutcome) (state : RecvState)
    (holds : Placed aes authenticator ⟨bufs, metas, 0, []⟩ read state) (empty : state.filled = 0)
    (fits : (accepted aes authenticator (bufs.map List.length) read).length ≤ metas.length) :
    Delivered aes authenticator bufs read [] 0 state.updates := by
  have delivered := placed_delivered aes authenticator bufs metas read state holds fits
  rw [empty] at delivered
  exact delivered

theorem poll_recv_delivers (bufs : List (List UInt8)) (metas : List RecvMeta) (ready : List Readiness)
    (recv : List RecvOutcome) (returned : RecvReturn)
    (polled : pollRecv aes authenticator ready recv ⟨bufs, metas, 0, []⟩ = .ok (some returned)) :
    ∃ read, recv = read ++ returned.recv ∧
      ((accepted aes authenticator (bufs.map List.length) read).length ≤ metas.length →
        Delivered aes authenticator bufs read returned.handed returned.count returned.state.updates) := by
  obtain ⟨_, read, _, recvConsumed, holds, ended⟩ := poll_recv_returned aes authenticator
    (Placed aes authenticator ⟨bufs, metas, 0, []⟩)
    (fun used state buf outcome flow after => placed_step aes authenticator _ state after used outcome flow buf)
    ready recv _ (placed_start aes authenticator bufs metas) rfl returned polled
  obtain ⟨result, state, _, _⟩ := returned
  change CallResult _ read state result at ended
  refine ⟨read, recvConsumed, ?_⟩
  cases ended with
  | pending empty => exact placed_nothing aes authenticator bufs metas read state holds empty
  | readyFailed error last empty => exact placed_nothing aes authenticator bufs metas read state holds empty
  | recvFailed error last hard empty => exact placed_nothing aes authenticator bufs metas read state holds empty
  | batch nonempty => exact placed_delivered aes authenticator bufs metas read state holds

end Placed

end Pktauth.Socket
