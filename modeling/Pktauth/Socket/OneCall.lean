import Pktauth.Socket.Flood

set_option autoImplicit false

namespace Pktauth.Socket

open Rust Auth Sequence

section Readings

variable (aes : Cipher UInt8) (authenticator : Option Authenticator)

def cutTo (capacity : Nat) : RecvOutcome → Option Handed
  | .datagram bytes addr => some (bytes.take capacity, addr)
  | .failed _ => none

-- Every datagram of a stream, cut to the capacity of the buffer it is read
-- into. The buffer is the same for the next one unless this one passes.
def readings : List Nat → List RecvOutcome → List Handed
  | _, [] => []
  | [], _ :: _ => []
  | capacity :: capacities, outcome :: rest =>
      match passes aes authenticator capacity outcome with
      | some datagram => datagram :: readings capacities rest
      | none => (cutTo capacity outcome).toList ++ readings (capacity :: capacities) rest

def genuine (datagram : Handed) : Bool := authentic aes authenticator datagram.1 datagram.2

theorem passes_some (capacity : Nat) (outcome : RecvOutcome) (datagram : Handed)
    (passed : passes aes authenticator capacity outcome = some datagram) :
    cutTo capacity outcome = some datagram ∧ genuine aes authenticator datagram = true := by
  cases outcome with
  | failed error => cases passed
  | datagram bytes addr =>
      simp only [passes] at passed
      split at passed
      · rename_i real
        cases passed
        exact ⟨rfl, real⟩
      · cases passed

theorem passes_none (capacity : Nat) (outcome : RecvOutcome) (failed : passes aes authenticator capacity outcome = none) :
    ∀ datagram ∈ (cutTo capacity outcome).toList, genuine aes authenticator datagram = false := by
  intro datagram member
  cases outcome with
  | failed error => simp [cutTo] at member
  | datagram bytes addr =>
      simp only [cutTo, Option.toList_some, List.mem_singleton] at member
      subst member
      simpa [passes, genuine] using failed

theorem accepted_readings (capacities : List Nat) (used : List RecvOutcome) :
    accepted aes authenticator capacities used = (readings aes authenticator capacities used).filter (genuine aes authenticator) := by
  fun_induction readings with
  | case1 => simp [accepted]
  | case2 => simp [accepted]
  | case3 capacity capacities outcome rest datagram passed ih =>
      rw [accepted, passed, List.filter_cons_of_pos (passes_some aes authenticator capacity outcome datagram passed).2, ← ih]
  | case4 capacity capacities outcome rest failed ih =>
      have nothing := List.filter_eq_nil_iff.mpr (fun datagram member =>
        Bool.not_eq_true _ ▸ passes_none aes authenticator capacity outcome failed datagram member)
      rw [accepted, failed, List.filter_append, nothing, List.nil_append, ← ih]

theorem readings_append (capacities : List Nat) (used : List RecvOutcome) (outcome : RecvOutcome) (capacity : Nat)
    (slot : capacities[(accepted aes authenticator capacities used).length]? = some capacity) :
    readings aes authenticator capacities (used ++ [outcome]) =
      readings aes authenticator capacities used ++ (cutTo capacity outcome).toList := by
  induction used generalizing capacities with
  | nil =>
      cases capacities with
      | nil => simp at slot
      | cons head capacities =>
          obtain rfl : head = capacity := by simpa [accepted] using slot
          cases passed : passes aes authenticator head outcome with
          | none => simp [readings, passed]
          | some datagram => simp [readings, passed, (passes_some aes authenticator head outcome datagram passed).1]
  | cons first used ih =>
      cases capacities with
      | nil => simp at slot
      | cons head capacities =>
          cases passed : passes aes authenticator head first with
          | none =>
              simp only [accepted, passed] at slot
              simp only [List.cons_append, readings, passed, ih (head :: capacities) slot, List.append_assoc]
          | some datagram =>
              simp only [accepted, passed, List.length_cons, List.getElem?_cons_succ] at slot
              simp only [List.cons_append, readings, passed, ih capacities slot]

end Readings

section Booked

variable (aes : Cipher UInt8) (authenticator : Option Authenticator)

-- The three counters a call adds to, against the outcomes it has read.
structure Tallied (capacities : List Nat) (used : List RecvOutcome) (updates : List FetchAdd) : Prop where
  datagrams : (readings aes authenticator capacities used).length = used.countP (fun outcome => !failure outcome)
  received : total .received updates = (readings aes authenticator capacities used).length
  bytes : total .receivedBytes updates =
    ((readings aes authenticator capacities used).map (fun datagram => datagram.1.length)).sum
  rejected : total .rejected updates =
    (readings aes authenticator capacities used).countP (fun datagram => !genuine aes authenticator datagram)

-- The metas not reached yet are the caller's, those reached have their stride.
structure Marked (metas : List RecvMeta) (state : RecvState) : Prop where
  untouched : state.metas.drop state.filled = metas.drop state.filled
  strides : ∀ entry ∈ state.metas.take state.filled, entry.stride = entry.len

theorem tallied_failed (capacities : List Nat) (capacity : Nat) (used : List RecvOutcome) (updates : List FetchAdd)
    (slot : capacities[(accepted aes authenticator capacities used).length]? = some capacity) (error : ErrorKind)
    (holds : Tallied aes authenticator capacities used updates) :
    Tallied aes authenticator capacities (used ++ [.failed error]) updates := by
  have same : readings aes authenticator capacities (used ++ [.failed error]) = readings aes authenticator capacities used := by
    simpa [cutTo] using readings_append aes authenticator capacities used (.failed error) capacity slot
  obtain ⟨datagrams, received, bytes, rejected⟩ := holds
  constructor
  · simpa [same, failure, List.countP_append] using datagrams
  · rw [same, received]
  · rw [same, bytes]
  · rw [same, rejected]

theorem tallied_datagram (capacities : List Nat) (capacity : Nat) (used : List RecvOutcome) (updates : List FetchAdd)
    (slot : capacities[(accepted aes authenticator capacities used).length]? = some capacity) (bytes : List UInt8)
    (addr : SocketAddr) (holds : Tallied aes authenticator capacities used updates) :
    Tallied aes authenticator capacities (used ++ [.datagram bytes addr])
      (updates ++ [⟨.received, 1⟩, ⟨.receivedBytes, min bytes.length capacity⟩] ++
        if authentic aes authenticator (bytes.take capacity) addr then [] else [⟨.rejected, 1⟩]) := by
  have grown : readings aes authenticator capacities (used ++ [.datagram bytes addr]) =
      readings aes authenticator capacities used ++ [(bytes.take capacity, addr)] := by
    simpa [cutTo] using readings_append aes authenticator capacities used (.datagram bytes addr) capacity slot
  obtain ⟨datagrams, received, amounts, rejected⟩ := holds
  constructor
  · simp [grown, failure, List.countP_append, datagrams]
  · rw [grown, total_append, total_append, received]
    cases real : authentic aes authenticator (bytes.take capacity) addr <;> simp [total]
  · rw [grown, total_append, total_append, amounts]
    cases real : authentic aes authenticator (bytes.take capacity) addr <;> simp [total, Nat.min_comm]
  · rw [grown, total_append, total_append, rejected]
    cases real : authentic aes authenticator (bytes.take capacity) addr <;> simp [total, genuine, real, List.countP_append]

theorem marked_accept (metas : List RecvMeta) (state : RecvState) (buf bytes : List UInt8) (addr : SocketAddr)
    (slot : state.filled < state.metas.length) (holds : Marked metas state) : Marked metas (state.accept buf bytes addr) := by
  constructor
  · have rest := congrArg (List.drop 1) holds.untouched
    rw [List.drop_drop, List.drop_drop] at rest
    simpa only [RecvState.accept, List.drop_set_of_lt (Nat.lt_succ_self state.filled)] using rest
  · intro entry member
    simp only [RecvState.accept, take_set_next _ _ _ slot] at member
    rcases List.mem_append.mp member with earlier | last
    · exact holds.strides entry earlier
    · rw [List.mem_singleton.mp last]

structure Booked (bufs : List (List UInt8)) (metas : List RecvMeta) (used : List RecvOutcome) (state : RecvState) : Prop where
  placed : Placed aes authenticator ⟨bufs, metas, 0, []⟩ used state
  tallied : Tallied aes authenticator (bufs.map List.length) used state.updates
  marked : Marked metas state

theorem booked_start (bufs : List (List UInt8)) (metas : List RecvMeta) :
    Booked aes authenticator bufs metas [] ⟨bufs, metas, 0, []⟩ := by
  refine ⟨placed_start aes authenticator bufs metas, ?_, ?_⟩
  · constructor <;> simp [readings, total]
  · constructor <;> simp

variable (bufs : List (List UInt8)) (metas : List RecvMeta) (room : bufs.length ≤ metas.length)

include room

theorem booked_step (used : List RecvOutcome) (state after : RecvState) (outcome : RecvOutcome) (flow : Flow)
    (buf : List UInt8) (holds : Booked aes authenticator bufs metas used state) (slot : state.bufs[state.filled]? = some buf)
    (step : Received aes authenticator buf state outcome flow after) :
    Booked aes authenticator bufs metas (used ++ [outcome]) after := by
  have placed := placed_step aes authenticator _ state after used outcome _ buf holds.placed slot step
  obtain ⟨count, buffers, slots⟩ := filled_accepted aes authenticator bufs metas room used state holds.placed
  have bound := (List.getElem?_eq_some_iff.mp slot).1
  have capacity : (bufs.map List.length)[(accepted aes authenticator (bufs.map List.length) used).length]? = some buf.length := by
    rw [← count, ← holds.placed.capacities, List.getElem?_map, slot, Option.map_some]
  cases step with
  | accepted bytes addr genuine slot =>
      have tallied := tallied_datagram aes authenticator _ buf.length used state.updates capacity bytes addr holds.tallied
      rw [genuine, if_pos rfl, List.append_nil] at tallied
      exact ⟨placed, tallied, marked_accept metas state buf bytes addr slot holds.marked⟩
  | unplaced bytes addr genuine noSlot => omega
  | rejected bytes addr forged =>
      have tallied := tallied_datagram aes authenticator _ buf.length used state.updates capacity bytes addr holds.tallied
      rw [forged, if_neg Bool.false_ne_true] at tallied
      exact ⟨placed, tallied, ⟨holds.marked.untouched, holds.marked.strides⟩⟩
  | drained error soft => exact ⟨placed, tallied_failed aes authenticator _ _ used _ capacity error holds.tallied, holds.marked⟩
  | fatal error hard empty =>
      exact ⟨placed, tallied_failed aes authenticator _ _ used _ capacity error holds.tallied, holds.marked⟩

omit room

-- What one returned call has done, given the readiness answers and outcomes it
-- consumed.
structure Reported (polled : List Readiness) (read : List RecvOutcome) (returned : RecvReturn) : Prop where
  batch : ∀ count, returned.result = .ready (.ok count) →
    1 ≤ count ∧ count ≤ bufs.length ∧
      returned.state.handed count =
        (readings aes authenticator (bufs.map List.length) read).filter (genuine aes authenticator) ∧
      (returned.state.handed count).length = count ∧
      (∀ entry ∈ returned.state.metas.take count, entry.stride = entry.len) ∧
      returned.state.metas.drop count = metas.drop count
  nothing : (∀ count, returned.result ≠ .ready (.ok count)) →
    (readings aes authenticator (bufs.map List.length) read).filter (genuine aes authenticator) = [] ∧
      returned.state.metas = metas
  errors : ∀ error, returned.result = .ready (.error error) →
    polled.getLast? = some (.failed error) ∨
      (read.getLast? = some (.failed error) ∧ error ≠ .wouldBlock ∧ isTransient error = false)
  tallied : Tallied aes authenticator (bufs.map List.length) read returned.state.updates

include room

theorem booked_batch (read : List RecvOutcome) (state : RecvState) (holds : Booked aes authenticator bufs metas read state)
    (batch : 0 < state.filled) (polled rest : List Readiness) (left : List RecvOutcome) :
    Reported aes authenticator bufs metas polled read ⟨.ready (.ok state.filled), state, rest, left⟩ := by
  obtain ⟨count, buffers, slots⟩ := filled_accepted aes authenticator bufs metas room read state holds.placed
  have bound := accepted_length aes authenticator (bufs.map List.length) read
  rw [List.length_map] at bound
  have content := (holds.placed.placed (Nat.le_trans bound room)).2.1
  constructor
  · intro _ result
    cases result
    refine ⟨batch, by omega, ?_, ?_, holds.marked.strides, holds.marked.untouched⟩
    · rw [← accepted_readings, content]
    · rw [content, ← count]
  · intro other
    exact absurd rfl (other state.filled)
  · intro error result
    cases result
  · exact holds.tallied

theorem booked_nothing (read : List RecvOutcome) (state : RecvState) (holds : Booked aes authenticator bufs metas read state)
    (empty : state.filled = 0) (result : Poll (Except ErrorKind Nat)) (other : ∀ count, result ≠ .ready (.ok count))
    (polled rest : List Readiness) (left : List RecvOutcome)
    (errors : ∀ error, result = .ready (.error error) →
      polled.getLast? = some (.failed error) ∨
        (read.getLast? = some (.failed error) ∧ error ≠ .wouldBlock ∧ isTransient error = false)) :
    Reported aes authenticator bufs metas polled read ⟨result, state, rest, left⟩ := by
  obtain ⟨count, _, _⟩ := filled_accepted aes authenticator bufs metas room read state holds.placed
  constructor
  · intro count result
    exact absurd result (other count)
  · intro _
    constructor
    · rw [← accepted_readings]
      exact List.length_eq_zero_iff.mp (count.symm.trans empty)
    · simpa [empty] using holds.marked.untouched
  · exact errors
  · exact holds.tallied

theorem returned_reported (ready : List Readiness) (recv : List RecvOutcome) (returned : RecvReturn)
    (returns : pollRecv aes authenticator ready recv ⟨bufs, metas, 0, []⟩ = .ok (some returned)) :
    ∃ polled read, ready = polled ++ returned.ready ∧ recv = read ++ returned.recv ∧
      Reported aes authenticator bufs metas polled read returned := by
  obtain ⟨polled, read, readyConsumed, recvConsumed, holds, ended⟩ := poll_recv_returned aes authenticator
    (Booked aes authenticator bufs metas)
    (fun used state buf outcome flow after => booked_step aes authenticator bufs metas room used state after outcome flow buf)
    ready recv _ (booked_start aes authenticator bufs metas) rfl returned returns
  obtain ⟨result, state, rest, left⟩ := returned
  change CallResult _ read state result at ended
  refine ⟨polled, read, readyConsumed, recvConsumed, ?_⟩
  cases ended with
  | pending empty =>
      exact booked_nothing aes authenticator bufs metas room read state holds empty .pending nofun polled rest left nofun
  | readyFailed error last empty =>
      apply booked_nothing aes authenticator bufs metas room read state holds empty (.ready (.error error)) nofun polled rest left
      intro _ result
      cases result
      exact .inl last
  | recvFailed error last hard empty =>
      apply booked_nothing aes authenticator bufs metas room read state holds empty (.ready (.error error)) nofun polled rest left
      intro _ result
      cases result
      exact .inr ⟨last, hard⟩
  | batch nonempty => exact booked_batch aes authenticator bufs metas room read state holds nonempty polled rest left

end Booked

-- One of the readiness answers is not-ready, and only finitely many outcomes
-- come before it: each poll after the first follows a failed receive.
def Drains (ready : Nat → Readiness) (recv : Nat → RecvOutcome) : Prop :=
  ∃ polls count, ready polls = .notReady ∧ polls ≤ (played recv count).countP failure

section OneCall

variable (aes : Cipher UInt8) (authenticator : Option Authenticator)

theorem failure_error (outcome : RecvOutcome) (failing : failure outcome = true) : ∃ error, outcome = .failed error := by
  cases outcome with
  | datagram bytes addr => cases failing
  | failed error => exact ⟨error, rfl⟩

theorem drains_released (capacities : List Nat) (ready : Nat → Readiness) (recv : Nat → RecvOutcome)
    (drains : Drains ready recv) : Released aes authenticator capacities ready recv := by
  obtain ⟨polls, count, notReady, reached⟩ := drains
  induction count with
  | zero =>
      obtain rfl : polls = 0 := Nat.eq_zero_of_le_zero reached
      refine ⟨0, .inr (.inr ⟨by simp [played, accepted], ?_⟩)⟩
      simp [played, notReady]
  | succ count ih =>
      by_cases earlier : polls ≤ (played recv count).countP failure
      · exact ih earlier
      · -- The poll follows the last outcome, which therefore is a failure.
        have counted : (played recv (count + 1)).countP failure =
            (played recv count).countP failure + if failure (recv count) then 1 else 0 := by
          rw [played_succ, List.countP_append, List.countP_singleton]
        have failing : failure (recv count) = true := by
          by_contra other
          rw [if_neg other] at counted
          omega
        rw [if_pos failing] at counted
        obtain ⟨error, last⟩ := failure_error (recv count) failing
        by_cases batch : 0 < (accepted aes authenticator capacities (played recv count)).length
        · exact ⟨count, .inr (.inl ⟨error, last, .inl batch⟩)⟩
        · have poll : (played recv (count + 1)).countP failure = polls := by omega
          refine ⟨count + 1, .inr (.inr ⟨?_, ?_⟩)⟩
          · rw [played_succ, last, accepted_failed]
            omega
          · rw [poll, notReady]
            decide

theorem tallied_counters (capacities : List Nat) (used : List RecvOutcome) (updates : List FetchAdd) (counters : Counters)
    (holds : Tallied aes authenticator capacities used updates) :
    (counters.after updates).received =
        counters.received + UInt64.ofNat (used.countP (fun outcome => !failure outcome)) ∧
      (counters.after updates).receivedBytes = counters.receivedBytes +
        UInt64.ofNat ((readings aes authenticator capacities used).map (fun datagram => datagram.1.length)).sum ∧
      (counters.after updates).rejected = counters.rejected +
        UInt64.ofNat ((readings aes authenticator capacities used).countP (fun datagram => !genuine aes authenticator datagram)) := by
  rw [← holds.datagrams, ← holds.received, ← holds.bytes, ← holds.rejected]
  exact ⟨load_after counters updates .received, load_after counters updates .receivedBytes,
    load_after counters updates .rejected⟩

theorem one_call_delivers (bufs : List (List UInt8)) (metas : List RecvMeta) (nonempty : 1 ≤ bufs.length)
    (room : bufs.length ≤ metas.length) :
    (∀ (ready : Nat → Readiness) (recv : Nat → RecvOutcome), Drains ready recv →
      Returns aes authenticator ready recv ⟨bufs, metas, 0, []⟩) ∧
    (∀ (ready : List Readiness) (recv : List RecvOutcome),
      ∃ answer, pollRecv aes authenticator ready recv ⟨bufs, metas, 0, []⟩ = .ok answer) ∧
    (∀ (ready : List Readiness) (recv : List RecvOutcome) (returned : RecvReturn),
      pollRecv aes authenticator ready recv ⟨bufs, metas, 0, []⟩ = .ok (some returned) →
      ∃ polled read, ready = polled ++ returned.ready ∧ recv = read ++ returned.recv ∧
        Reported aes authenticator bufs metas polled read returned ∧
        ∀ counters : Counters,
          (counters.after returned.state.updates).received =
              counters.received + UInt64.ofNat (read.countP (fun outcome => !failure outcome)) ∧
            (counters.after returned.state.updates).receivedBytes = counters.receivedBytes + UInt64.ofNat
              ((readings aes authenticator (bufs.map List.length) read).map (fun datagram => datagram.1.length)).sum ∧
            (counters.after returned.state.updates).rejected = counters.rejected + UInt64.ofNat
              ((readings aes authenticator (bufs.map List.length) read).countP
                (fun datagram => !genuine aes authenticator datagram))) := by
  refine ⟨?_, ?_, ?_⟩
  · intro ready recv drains
    exact released_returns aes authenticator bufs metas room nonempty ready recv
      (drains_released aes authenticator _ ready recv drains)
  · intro ready recv
    exact poll_recv_total aes authenticator ready recv _
  · intro ready recv returned returns
    obtain ⟨polled, read, readyConsumed, recvConsumed, reported⟩ :=
      returned_reported aes authenticator bufs metas room ready recv returned returns
    exact ⟨polled, read, readyConsumed, recvConsumed, reported,
      fun counters => tallied_counters aes authenticator _ read _ counters reported.tallied⟩

end OneCall

-- A forged datagram longer than the genuine one is read into the slot first.
theorem one_call_delivers_sample :
    ∃ returned polled read,
      pollRecv sampleCipher (some sampleAuthenticator) [.ready]
          [.datagram (List.replicate 40 0x40) sampleSource, .datagram sampleDatagram sampleSource, .failed .wouldBlock]
          ⟨[sampleBuffer, sampleBuffer], [RecvMeta.default, RecvMeta.default, RecvMeta.default], 0, []⟩ = .ok (some returned) ∧
        returned.result = .ready (.ok 1) ∧
        Reported sampleCipher (some sampleAuthenticator) [sampleBuffer, sampleBuffer]
          [RecvMeta.default, RecvMeta.default, RecvMeta.default] polled read returned := by
  have returns : pollRecv sampleCipher (some sampleAuthenticator) [.ready]
      [.datagram (List.replicate 40 0x40) sampleSource, .datagram sampleDatagram sampleSource, .failed .wouldBlock]
      ⟨[sampleBuffer, sampleBuffer], [RecvMeta.default, RecvMeta.default, RecvMeta.default], 0, []⟩ =
      .ok (some ⟨.ready (.ok 1), ⟨[sampleDatagram ++ List.replicate 11 0x40, sampleBuffer],
        [⟨sampleSource, 21, 21⟩, RecvMeta.default, RecvMeta.default], 1,
        [⟨.received, 1⟩, ⟨.receivedBytes, 32⟩, ⟨.rejected, 1⟩, ⟨.received, 1⟩, ⟨.receivedBytes, 21⟩]⟩, [], []⟩) := by
    decide +kernel
  obtain ⟨polled, read, _, _, reported, _⟩ := (one_call_delivers sampleCipher (some sampleAuthenticator)
    [sampleBuffer, sampleBuffer] [RecvMeta.default, RecvMeta.default, RecvMeta.default] (by decide) (by decide)).2.2 _ _ _ returns
  exact ⟨_, polled, read, returns, rfl, reported⟩

end Pktauth.Socket
