import Pktauth.Socket.RecvRun

set_option autoImplicit false

namespace Pktauth.Socket

open Rust Auth

structure RecvCall.Regular (capacity : Nat) (call : RecvCall) : Prop where
  buffers : 0 < call.bufs.length
  slots : call.bufs.length ≤ call.metas.length
  uniform : ∀ buf ∈ call.bufs, buf.length = capacity

section Filter

variable (aes : Cipher UInt8)

theorem filter_map_room (authenticator : Option Authenticator) (capacity count : Nat) (read : List RecvOutcome)
    (demand : ∀ earlier outcome, read = earlier ++ [outcome] →
      (accepted aes authenticator (List.replicate count capacity) earlier).length < count) :
    (read.filterMap (passes aes authenticator capacity)).take count = read.filterMap (passes aes authenticator capacity) := by
  apply List.take_of_length_le
  rcases List.eq_nil_or_concat read with rfl | ⟨earlier, outcome, rfl⟩
  · simp
  · have room := demand earlier outcome (List.concat_eq_append)
    rw [accepted_replicate, List.length_take] at room
    rw [List.concat_eq_append, List.filterMap_append, List.length_append]
    have last : (List.filterMap (passes aes authenticator capacity) [outcome]).length ≤ 1 :=
      List.length_filterMap_le _ [outcome]
    omega

theorem regular_call_filters (authenticator : Option Authenticator) (capacity : Nat) (call : RecvCall)
    (regular : call.Regular capacity) (returned : RecvReturn)
    (polled : pollRecv aes authenticator call.ready call.recv ⟨call.bufs, call.metas, 0, []⟩ = .ok (some returned))
    (consumed : returned.recv = []) :
    returned.handed = call.recv.filterMap (passes aes authenticator capacity) := by
  have capacities : call.bufs.map List.length = List.replicate call.bufs.length capacity := by
    rw [List.eq_replicate_iff]
    simpa using regular.uniform
  obtain ⟨read, answers, delivered⟩ := poll_recv_delivers aes authenticator call.bufs call.metas call.ready call.recv returned
    polled
  rw [consumed, List.append_nil] at answers
  have bound := accepted_length aes authenticator (call.bufs.map List.length) read
  rw [List.length_map] at bound
  obtain ⟨content, _, _, demand⟩ := delivered (Nat.le_trans bound regular.slots)
  rw [content, answers, capacities, accepted_replicate]
  rw [capacities] at demand
  exact filter_map_room aes authenticator capacity call.bufs.length read demand

theorem filter_map_arrivals (authenticator : Option Authenticator) (capacity : Nat) (outcomes : List RecvOutcome) :
    (outcomes.filter (fun outcome => outcome ≠ .failed .wouldBlock)).filterMap (passes aes authenticator capacity) =
      outcomes.filterMap (passes aes authenticator capacity) := by
  induction outcomes with
  | nil => rfl
  | cons outcome rest ih =>
      by_cases blocked : outcome = .failed .wouldBlock
      · subst blocked
        have hidden : passes aes authenticator capacity (.failed .wouldBlock) = none := rfl
        simpa [List.filterMap_cons, hidden] using ih
      · simp only [ne_eq, blocked, not_false_eq_true, decide_true, List.filter_cons_of_pos, List.filterMap_cons]
        rw [ih]

theorem run_filters (capacity : Nat) (socket final : PacketSocket) (calls : List RecvCall) (returns : List RecvReturn)
    (run : RecvRun aes socket calls final returns) (regular : ∀ call ∈ calls, call.Regular capacity) :
    handedOver returns = (arrivals calls).filterMap (passes aes socket.authenticator capacity) := by
  rw [arrivals, filter_map_arrivals]
  induction run with
  | nil socket => rfl
  | cons socket final call calls returned returns polled consumed rest ih =>
      have later := ih (fun other member => regular other (List.mem_cons_of_mem call member))
      have first := regular_call_filters aes socket.authenticator capacity call (regular call List.mem_cons_self) returned polled
        consumed
      simp only [handedOver, List.flatMap_cons, List.filterMap_append, ← first] at later ⊢
      rw [later]
      rfl

-- What an attacker or an ICMP message can put into the receive queue: a
-- datagram that fails the check once it is in the buffer, or a transient error.
def Noise (authenticator : Authenticator) (capacity : Nat) : RecvOutcome → Prop
  | .datagram bytes addr => ¬ authenticator.check aes (bytes.take capacity) addr.ip = .ok (.ok ())
  | .failed error => isTransient error = true

inductive DifferByNoise (authenticator : Authenticator) (capacity : Nat) : List RecvOutcome → List RecvOutcome → Prop where
  | nil : DifferByNoise authenticator capacity [] []
  | both (arrival : RecvOutcome) (left right : List RecvOutcome) (rest : DifferByNoise authenticator capacity left right) :
      DifferByNoise authenticator capacity (arrival :: left) (arrival :: right)
  | left (noise : RecvOutcome) (left right : List RecvOutcome) (isNoise : Noise aes authenticator capacity noise)
      (rest : DifferByNoise authenticator capacity left right) : DifferByNoise authenticator capacity (noise :: left) right
  | right (noise : RecvOutcome) (left right : List RecvOutcome) (isNoise : Noise aes authenticator capacity noise)
      (rest : DifferByNoise authenticator capacity left right) : DifferByNoise authenticator capacity left (noise :: right)

theorem noise_filtered (authenticator : Authenticator) (capacity : Nat) (noise : RecvOutcome)
    (isNoise : Noise aes authenticator capacity noise) : passes aes (some authenticator) capacity noise = none := by
  cases noise with
  | datagram bytes addr =>
      have forged : ¬ authenticator.check aes (bytes.take capacity) addr.ip = .ok (.ok ()) := isNoise
      simp [passes, authentic, forged]
  | failed error => rfl

theorem differ_by_noise_filtered (authenticator : Authenticator) (capacity : Nat) (left right : List RecvOutcome)
    (differ : DifferByNoise aes authenticator capacity left right) :
    left.filterMap (passes aes (some authenticator) capacity) = right.filterMap (passes aes (some authenticator) capacity) := by
  induction differ with
  | nil => rfl
  | both arrival left right rest ih => simp only [List.filterMap_cons, ih]
  | left noise left right isNoise rest ih =>
      simpa only [List.filterMap_cons, noise_filtered aes authenticator capacity noise isNoise] using ih
  | right noise left right isNoise rest ih =>
      simpa only [List.filterMap_cons, noise_filtered aes authenticator capacity noise isNoise] using ih

theorem noise_is_invisible (authenticator : Authenticator) (capacity : Nat) (leftCounters rightCounters : Counters)
    (leftCalls rightCalls : List RecvCall) (leftFinal rightFinal : PacketSocket) (leftReturns rightReturns : List RecvReturn)
    (leftRun : RecvRun aes ⟨some authenticator, leftCounters⟩ leftCalls leftFinal leftReturns)
    (rightRun : RecvRun aes ⟨some authenticator, rightCounters⟩ rightCalls rightFinal rightReturns)
    (leftRegular : ∀ call ∈ leftCalls, call.Regular capacity) (rightRegular : ∀ call ∈ rightCalls, call.Regular capacity)
    (differ : DifferByNoise aes authenticator capacity (arrivals leftCalls) (arrivals rightCalls)) :
    handedOver leftReturns = handedOver rightReturns ∧
      handedOver leftReturns = (arrivals leftCalls).filterMap (passes aes (some authenticator) capacity) ∧
      handedOver rightReturns = (arrivals rightCalls).filterMap (passes aes (some authenticator) capacity) := by
  have left := run_filters aes capacity _ _ leftCalls leftReturns leftRun leftRegular
  have right := run_filters aes capacity _ _ rightCalls rightReturns rightRun rightRegular
  refine ⟨?_, left, right⟩
  rw [left, right]
  exact differ_by_noise_filtered aes authenticator capacity _ _ differ

end Filter

def quietCall : RecvCall := ⟨[sampleBuffer], [RecvMeta.default], [.ready], [.datagram sampleDatagram sampleSource]⟩
def noisyCall : RecvCall :=
  ⟨[sampleBuffer, sampleBuffer], [RecvMeta.default, RecvMeta.default], [.ready, .ready],
    [.datagram [0xc0, 1, 2] sampleSource, .failed .connectionRefused, .datagram sampleDatagram sampleSource,
      .failed .wouldBlock]⟩

theorem noise_is_invisible_sample :
    ∃ quietFinal noisyFinal quietReturns noisyReturns,
      RecvRun sampleCipher ⟨some sampleAuthenticator, {}⟩ [quietCall] quietFinal quietReturns ∧
        RecvRun sampleCipher ⟨some sampleAuthenticator, {}⟩ [noisyCall] noisyFinal noisyReturns ∧
        handedOver quietReturns = handedOver noisyReturns ∧ handedOver quietReturns = [(sampleDatagram, sampleSource)] := by
  have quiet : RecvRun sampleCipher ⟨some sampleAuthenticator, {}⟩ [quietCall] _ _ := .cons _ _ quietCall []
    ⟨.ready (.ok 1), ⟨[sampleDatagram ++ List.replicate 11 0], [⟨sampleSource, 21, 21⟩], 1,
      [⟨.received, 1⟩, ⟨.receivedBytes, 21⟩]⟩, [], []⟩ [] (by decide +kernel) rfl (.nil _)
  have noisy : RecvRun sampleCipher ⟨some sampleAuthenticator, {}⟩ [noisyCall] _ _ := .cons _ _ noisyCall []
    ⟨.ready (.ok 1), ⟨[sampleDatagram ++ List.replicate 11 0, sampleBuffer], [⟨sampleSource, 21, 21⟩, RecvMeta.default], 1,
      [⟨.received, 1⟩, ⟨.receivedBytes, 3⟩, ⟨.rejected, 1⟩, ⟨.received, 1⟩, ⟨.receivedBytes, 21⟩]⟩, [], []⟩ []
    (by decide +kernel) rfl (.nil _)
  have quietRegular : ∀ call ∈ [quietCall], call.Regular 32 := by
    intro call member
    rw [List.mem_singleton.mp member]
    exact ⟨by decide, by decide, by simp [quietCall, sampleBuffer]⟩
  have noisyRegular : ∀ call ∈ [noisyCall], call.Regular 32 := by
    intro call member
    rw [List.mem_singleton.mp member]
    exact ⟨by decide, by decide, by simp [noisyCall, sampleBuffer]⟩
  have forged : Noise sampleCipher sampleAuthenticator 32 (.datagram [0xc0, 1, 2] sampleSource) := by
    unfold Noise
    decide +kernel
  have differ : DifferByNoise sampleCipher sampleAuthenticator 32 (arrivals [quietCall]) (arrivals [noisyCall]) :=
    .right _ _ _ forged (.right _ _ _ rfl (.both _ _ _ .nil))
  have invisible := noise_is_invisible sampleCipher sampleAuthenticator 32 {} {} _ _ _ _ _ _ quiet noisy quietRegular
    noisyRegular differ
  exact ⟨_, _, _, _, quiet, noisy, invisible.1, by decide +kernel⟩

end Pktauth.Socket
