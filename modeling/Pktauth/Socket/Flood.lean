import Pktauth.Socket.RecvRun

set_option autoImplicit false

namespace Pktauth.Socket

open Rust Auth Sequence

def failure : RecvOutcome → Bool
  | .datagram _ _ => false
  | .failed _ => true

def Soft (error : ErrorKind) : Prop := error = .wouldBlock ∨ isTransient error = true

section Flood

variable (aes : Cipher UInt8) (authenticator : Option Authenticator)

def Returns (ready : Nat → Readiness) (recv : Nat → RecvOutcome) (state : RecvState) : Prop :=
  ∃ polls reads returned, pollRecv aes authenticator (played ready polls) (played recv reads) state = .ok (some returned)

-- At some point of the stream the buffers are full, or a fatal error comes, or
-- any error comes after a datagram was accepted, or readiness is not reported
-- while nothing is accepted. Rejected datagrams contribute to none of these.
def Released (capacities : List Nat) (ready : Nat → Readiness) (recv : Nat → RecvOutcome) : Prop :=
  ∃ count,
    (accepted aes authenticator capacities (played recv count)).length = capacities.length ∨
    (∃ error, recv count = .failed error ∧
      (0 < (accepted aes authenticator capacities (played recv count)).length ∨ ¬ Soft error)) ∨
    ((accepted aes authenticator capacities (played recv count)).length = 0 ∧
      ready ((played recv count).countP failure) ≠ .ready)

def Quiet (capacities : List Nat) (used : List RecvOutcome) : Prop :=
  ∀ index error, used[index]? = some (.failed error) →
    (accepted aes authenticator capacities (used.take index)).length = 0 ∧ Soft error

theorem quiet_append (capacities : List Nat) (used : List RecvOutcome) (outcome : RecvOutcome)
    (quiet : Quiet aes authenticator capacities used)
    (last : ∀ error, outcome = .failed error → (accepted aes authenticator capacities used).length = 0 ∧ Soft error) :
    Quiet aes authenticator capacities (used ++ [outcome]) := by
  intro index error found
  by_cases inside : index < used.length
  · rw [List.getElem?_append_left inside] at found
    rw [List.take_append_of_le_length (Nat.le_of_lt inside)]
    exact quiet index error found
  · have bound : index < (used ++ [outcome]).length := (List.getElem?_eq_some_iff.mp found).1
    have atEnd : index = used.length := by
      simp only [List.length_append, List.length_singleton] at bound
      omega
    subst atEnd
    rw [List.getElem?_concat_length, Option.some.injEq] at found
    simpa using last error found

structure Reading (bufs : List (List UInt8)) (metas : List RecvMeta) (cycles : Nat) (used : List RecvOutcome)
    (state : RecvState) : Prop where
  placed : Placed aes authenticator ⟨bufs, metas, 0, []⟩ used state
  polls : cycles = used.countP failure + 1
  quiet : Quiet aes authenticator (bufs.map List.length) used

structure Polling (bufs : List (List UInt8)) (metas : List RecvMeta) (cycles : Nat) (used : List RecvOutcome)
    (state : RecvState) : Prop where
  placed : Placed aes authenticator ⟨bufs, metas, 0, []⟩ used state
  polls : cycles = used.countP failure
  quiet : Quiet aes authenticator (bufs.map List.length) used
  empty : state.filled = 0

variable (bufs : List (List UInt8)) (metas : List RecvMeta) (room : bufs.length ≤ metas.length)

include room

theorem filled_accepted (used : List RecvOutcome) (state : RecvState)
    (placed : Placed aes authenticator ⟨bufs, metas, 0, []⟩ used state) :
    state.filled = (accepted aes authenticator (bufs.map List.length) used).length ∧ state.bufs.length = bufs.length ∧
      bufs.length ≤ state.metas.length := by
  have bound := accepted_length aes authenticator (bufs.map List.length) used
  have lengths := congrArg List.length placed.capacities
  rw [List.length_map] at bound
  simp only [List.length_map] at lengths
  exact ⟨(placed.placed (Nat.le_trans bound room)).1, lengths, placed.slots.symm ▸ room⟩

theorem polling_after_leave (cycles : Nat) (used : List RecvOutcome) (state after : RecvState) (buf : List UInt8)
    (outcome : RecvOutcome) (reading : Reading aes authenticator bufs metas cycles used state)
    (slot : state.bufs[state.filled]? = some buf) (step : Received aes authenticator buf state outcome .leave after)
    (empty : after.filled = 0) : Polling aes authenticator bufs metas cycles (used ++ [outcome]) after := by
  have placed := placed_step aes authenticator _ state after used outcome _ buf reading.placed slot step
  obtain ⟨count, buffers, slots⟩ := filled_accepted aes authenticator bufs metas room used state reading.placed
  have bound := (List.getElem?_eq_some_iff.mp slot).1
  cases step with
  | unplaced bytes addr genuine noSlot => omega
  | drained error soft =>
      have isSoft : Soft error := by
        rcases soft with blocked | transient | batch
        · exact .inl blocked
        · exact .inr transient
        · omega
      refine ⟨placed, ?_, ?_, empty⟩
      · simpa [List.countP_append, failure] using reading.polls
      · apply quiet_append aes authenticator _ used _ reading.quiet
        rintro _ ⟨rfl⟩
        exact ⟨by omega, isSoft⟩

theorem poll_recv_reading (nonempty : 0 < bufs.length) (ready : List Readiness) (recv : List RecvOutcome) :
    ∃ answer, pollRecv aes authenticator ready recv ⟨bufs, metas, 0, []⟩ = .ok answer ∧
      Ends aes authenticator (Polling aes authenticator bufs metas) (Reading aes authenticator bufs metas) 0 [] ready recv
        answer := by
  apply poll_recv_rule
  · rintro cycles used ⟨_, _, _, _⟩ ⟨placed, polls, quiet, rfl⟩
    exact ⟨placed, by omega, quiet⟩
  · intro cycles used state buf outcome after reading slot step
    refine ⟨placed_step aes authenticator _ state after used outcome _ buf reading.placed slot step, ?_, ?_⟩
    · cases step <;> simpa [List.countP_append, failure] using reading.polls
    · apply quiet_append aes authenticator _ used _ reading.quiet
      intro error failed
      cases step <;> cases failed
  · intro cycles used state buf outcome after reading slot step empty
    exact polling_after_leave aes authenticator bufs metas room cycles used state after buf outcome reading slot step empty
  · intro cycles used state reading full empty
    obtain ⟨count, buffers, slots⟩ := filled_accepted aes authenticator bufs metas room used state reading.placed
    have bound := List.getElem?_eq_none_iff.mp full
    omega
  · exact ⟨placed_start aes authenticator bufs metas, rfl, by simp [Quiet], rfl⟩

theorem not_ready_released (ready : Nat → Readiness) (recv : Nat → RecvOutcome) (polls reads : Nat)
    (polledReady rest : List Readiness) (read left : List RecvOutcome) (answer : Readiness) (state : RecvState)
    (readyConsumed : played ready polls = polledReady ++ answer :: rest) (recvConsumed : played recv reads = read ++ left)
    (other : answer ≠ .ready) (top : Polling aes authenticator bufs metas polledReady.length read state) :
    Released aes authenticator (bufs.map List.length) ready recv := by
  obtain ⟨count, _, _⟩ := filled_accepted aes authenticator bufs metas room read state top.placed
  refine ⟨read.length, .inr (.inr ⟨?_, ?_⟩)⟩
  · rw [← played_front recv reads read left recvConsumed, ← count, top.empty]
  · rw [← played_front recv reads read left recvConsumed, ← top.polls, played_at ready _ _ _ _ readyConsumed]
    exact other

theorem returns_released (nonempty : 0 < bufs.length) (ready : Nat → Readiness) (recv : Nat → RecvOutcome)
    (returns : Returns aes authenticator ready recv ⟨bufs, metas, 0, []⟩) :
    Released aes authenticator (bufs.map List.length) ready recv := by
  obtain ⟨polls, reads, returned, polled⟩ := returns
  obtain ⟨answer, played, ends⟩ := poll_recv_reading aes authenticator bufs metas room nonempty (played ready polls)
    (played recv reads)
  rw [polled, Except.ok.injEq] at played
  subst played
  cases ends with
  | notReady polledReady rest read left state readyConsumed recvConsumed top =>
      exact not_ready_released aes authenticator bufs metas room ready recv polls reads polledReady rest read left .notReady state
        readyConsumed recvConsumed (by simp) (by simpa using top)
  | readyFailed error polledReady rest read left state readyConsumed recvConsumed top =>
      exact not_ready_released aes authenticator bufs metas room ready recv polls reads polledReady rest read left
        (.failed error) state readyConsumed recvConsumed (by simp) (by simpa using top)
  | batchFull polledReady rest read left state readyConsumed recvConsumed inside full batch =>
      obtain ⟨count, buffers, _⟩ := filled_accepted aes authenticator bufs metas room read state inside.placed
      refine ⟨read.length, .inl ?_⟩
      have bound := accepted_length aes authenticator (bufs.map List.length) read
      have reached := List.getElem?_eq_none_iff.mp full
      rw [← played_front recv reads read left recvConsumed]
      rw [List.length_map] at bound ⊢
      omega
  | batchCut polledReady rest read left outcome buf state after readyConsumed recvConsumed inside slot step batch =>
      obtain ⟨count, buffers, slots⟩ := filled_accepted aes authenticator bufs metas room read state inside.placed
      have bound := (List.getElem?_eq_some_iff.mp slot).1
      refine ⟨read.length, .inr (.inl ?_)⟩
      rw [played_at recv _ _ _ _ recvConsumed, ← played_front recv reads read (outcome :: left) recvConsumed, ← count]
      cases step with
      | unplaced bytes addr genuine noSlot => omega
      | drained error soft => exact ⟨error, rfl, .inl batch⟩
  | recvFailed error polledReady rest read left outcome buf state after readyConsumed recvConsumed inside slot step =>
      refine ⟨read.length, .inr (.inl ?_)⟩
      rw [played_at recv _ _ _ _ recvConsumed]
      cases step with
      | fatal _ hard empty =>
          refine ⟨error, rfl, .inr ?_⟩
          rintro (blocked | transient)
          · exact hard.1 blocked
          · rw [hard.2] at transient
            cases transient

theorem released_returns (nonempty : 0 < bufs.length) (ready : Nat → Readiness) (recv : Nat → RecvOutcome)
    (released : Released aes authenticator (bufs.map List.length) ready recv) :
    Returns aes authenticator ready recv ⟨bufs, metas, 0, []⟩ := by
  obtain ⟨count, point⟩ := released
  obtain ⟨answer, polled, ends⟩ := poll_recv_reading aes authenticator bufs metas room nonempty (played ready (count + 2))
    (played recv (count + 1))
  cases answer with
  | some returned => exact ⟨count + 2, count + 1, returned, polled⟩
  | none =>
      exfalso
      cases ends with
      | awaitsReady read rest state consumed allReady top =>
          have polls := top.polls
          have failures : read.countP failure ≤ read.length := List.countP_le_length
          have reads := congrArg List.length consumed
          simp only [played_length, List.length_append, List.nil_append, Nat.zero_add] at polls reads
          omega
      | awaitsDatagram polledReady rest state consumed allReady inside slot =>
          simp only [List.nil_append, Nat.zero_add] at inside
          obtain ⟨filled, buffers, _⟩ := filled_accepted aes authenticator bufs metas room _ state inside.placed
          obtain ⟨buf, slot⟩ := slot
          have bound := (List.getElem?_eq_some_iff.mp slot).1
          have grown := accepted_append aes authenticator (bufs.map List.length) (played recv count) (recv count)
          rw [played_succ] at filled
          rw [grown, List.length_append] at filled
          rcases point with full | ⟨error, failed, ends⟩ | ⟨nothing, notReady⟩
          · rw [List.length_map] at full
            omega
          · have quiet := inside.quiet count error (by rw [played_get recv _ _ (Nat.lt_succ_self count), failed])
            rw [played_take recv _ _ (Nat.le_succ count)] at quiet
            rcases ends with batch | hard
            · omega
            · exact hard quiet.2
          · apply notReady
            have polls := inside.polls
            rw [played_succ, List.countP_append] at polls
            have place : (played recv count).countP failure < polledReady.length := by omega
            have found := List.getElem?_eq_getElem place
            have answered : ready ((played recv count).countP failure) = polledReady[(played recv count).countP failure] := by
              have total := congrArg List.length consumed
              rw [played_length, List.length_append] at total
              have known := played_get ready (count + 2) ((played recv count).countP failure) (by omega)
              rw [consumed, List.getElem?_append_left place, found] at known
              exact (Option.some.inj known).symm
            rw [answered]
            exact allReady _ (List.getElem_mem place)

omit room

theorem returns_iff_released (equal : bufs.length = metas.length) (nonempty : 0 < bufs.length) (ready : Nat → Readiness)
    (recv : Nat → RecvOutcome) :
    Returns aes authenticator ready recv ⟨bufs, metas, 0, []⟩ ↔
      Released aes authenticator (bufs.map List.length) ready recv :=
  ⟨returns_released aes authenticator bufs metas (Nat.le_of_eq equal) nonempty ready recv,
    released_returns aes authenticator bufs metas (Nat.le_of_eq equal) nonempty ready recv⟩

end Flood

def drainingQueue (index : Nat) : RecvOutcome :=
  if index = 0 then .datagram sampleDatagram sampleSource else .failed .wouldBlock

theorem returns_iff_released_sample :
    Returns sampleCipher (some sampleAuthenticator) (fun _ => .ready) drainingQueue
      ⟨[sampleBuffer, sampleBuffer], [RecvMeta.default, RecvMeta.default], 0, []⟩ := by
  apply (returns_iff_released sampleCipher (some sampleAuthenticator) [sampleBuffer, sampleBuffer]
    [RecvMeta.default, RecvMeta.default] rfl (by decide) (fun _ => .ready) drainingQueue).mpr
  exact ⟨1, .inr (.inl ⟨.wouldBlock, rfl, .inl (by decide +kernel)⟩)⟩

def floodedQueue (index : Nat) : RecvOutcome :=
  if index = 0 then .datagram sampleDatagram sampleSource else .datagram [0x40] sampleSource

theorem flooded_accepts_one (count : Nat) :
    accepted sampleCipher (some sampleAuthenticator) [32, 32] (played floodedQueue (count + 1)) =
      [(sampleDatagram, sampleSource)] := by
  induction count with
  | zero => decide +kernel
  | succ count ih =>
      have forged : passes sampleCipher (some sampleAuthenticator) 32 (floodedQueue (count + 1)) = none := by
        have outcome : floodedQueue (count + 1) = .datagram [0x40] sampleSource := by simp [floodedQueue]
        rw [outcome]
        decide +kernel
      rw [played_succ, accepted_append, ih]
      simp [forged]

theorem flood_captures_call :
    accepted sampleCipher (some sampleAuthenticator) [32, 32] (played floodedQueue 1) = [(sampleDatagram, sampleSource)] ∧
      ¬ Returns sampleCipher (some sampleAuthenticator) (fun _ => .ready) floodedQueue
        ⟨[sampleBuffer, sampleBuffer], [RecvMeta.default, RecvMeta.default], 0, []⟩ := by
  refine ⟨flooded_accepts_one 0, fun returns => ?_⟩
  obtain ⟨count, point⟩ := returns_released sampleCipher (some sampleAuthenticator) [sampleBuffer, sampleBuffer]
    [RecvMeta.default, RecvMeta.default] (Nat.le_refl 2) (by decide) _ _ returns
  rcases point with full | ⟨error, failed, _⟩ | ⟨_, notReady⟩
  · cases count with
    | zero => simp [played, accepted] at full
    | succ count =>
        have one := flooded_accepts_one count
        have capacities : [sampleBuffer, sampleBuffer].map List.length = [32, 32] := rfl
        rw [capacities, one] at full
        simp at full
  · unfold floodedQueue at failed
    split at failed <;> cases failed
  · exact notReady rfl

end Pktauth.Socket
