import Pktauth.Rust.Duration
import Pktauth.Socket.Snapshot

set_option autoImplicit false

namespace Pktauth.Client

open Rust Socket

@[ext]
structure PingState where
  rtts : List Duration := []
  lost : UInt64 := 0
  seq : UInt64 := 0

section Loop

-- What a ping reports when it fails is printed and goes nowhere else.
variable {ε : Type} (count : UInt64)

def pingStep (outcome : Except ε Duration) (state : PingState) : Exec PingState := do
  let state ← match outcome with
    | .ok rtt => .ok { state with rtts := state.rtts ++ [rtt] }
    | .error _ => do
        let lost ← u64Add state.lost 1
        .ok { state with lost := lost }
  let seq ← u64Add state.seq 1
  .ok { state with seq := seq }

-- As elsewhere, none means that the loop asks for one more outcome.
def pingLoop (outcomes : List (Except ε Duration)) (state : PingState) : Exec (Option PingState) :=
  if count = 0 ∨ state.seq < count then
    match outcomes with
    | [] => .ok none
    | outcome :: outcomes => do
        let state ← pingStep outcome state
        pingLoop outcomes state
  else .ok (some state)

end Loop

structure Summary where
  sent : UInt64
  echoed : Nat
  lost : UInt64
  counts : PacketCounts
  rtt : Option (Duration × Duration × Duration)

-- The numbers print_summary prints; their formatting as text, and the loss as
-- a percentage, is floating point and left out.
def printSummary (sent : UInt64) (rtts : List Duration) (lost : UInt64) (counts : PacketCounts) : Exec Summary :=
  if rtts = [] then .ok ⟨sent, rtts.length, lost, counts, none⟩
  else do
    let min ← expect "rtts is non-empty" (minimum rtts)
    let max ← expect "rtts is non-empty" (maximum rtts)
    let total ← Duration.sum rtts
    let avg ← total.div (UInt32.ofNat rtts.length)
    .ok ⟨sent, rtts.length, lost, counts, some (min, avg, max)⟩

def echoes {ε : Type} : List (Except ε Duration) → List Duration
  | [] => []
  | .ok rtt :: outcomes => rtt :: echoes outcomes
  | .error _ :: outcomes => echoes outcomes

def losses {ε : Type} : List (Except ε Duration) → Nat
  | [] => 0
  | .ok _ :: outcomes => losses outcomes
  | .error _ :: outcomes => losses outcomes + 1

theorem echoes_and_losses {ε : Type} (outcomes : List (Except ε Duration)) :
    (echoes outcomes).length + losses outcomes = outcomes.length := by
  induction outcomes with
  | nil => rfl
  | cons outcome outcomes ih =>
      cases outcome with
      | ok rtt =>
          simp only [echoes, losses, List.length_cons]
          omega
      | error error =>
          simp only [echoes, losses, List.length_cons]
          omega

theorem echoes_cons {ε : Type} (outcome : Except ε Duration) (outcomes : List (Except ε Duration)) :
    echoes (outcome :: outcomes) = echoes [outcome] ++ echoes outcomes := by
  cases outcome <;> rfl

theorem losses_cons {ε : Type} (outcome : Except ε Duration) (outcomes : List (Except ε Duration)) :
    losses (outcome :: outcomes) = losses [outcome] + losses outcomes := by
  cases outcome with
  | ok rtt => simp only [losses, Nat.zero_add]
  | error error => simp only [losses, Nat.zero_add, Nat.add_comm]

section Run

variable {ε : Type} (count : UInt64)

-- Neither counter can overflow while the loop condition holds: fewer pings
-- are lost than sent.
theorem ping_step_spec (outcome : Except ε Duration) (state : PingState) (below : state.seq < count)
    (order : state.lost ≤ state.seq) :
    ∃ next, pingStep outcome state = .ok next ∧ next.rtts = state.rtts ++ echoes [outcome] ∧
      next.lost.toNat = state.lost.toNat + losses [outcome] ∧ next.seq.toNat = state.seq.toNat + 1 := by
  obtain ⟨seqAdded, seqValue⟩ := u64_add_one state.seq count below
  cases outcome with
  | ok rtt =>
      refine ⟨⟨state.rtts ++ [rtt], state.lost, state.seq + 1⟩, ?_, rfl, rfl, seqValue⟩
      simp only [pingStep, exec_bind_ok, seqAdded]
  | error error =>
      obtain ⟨lostAdded, lostValue⟩ := u64_add_one state.lost count (UInt64.lt_of_le_of_lt order below)
      refine ⟨⟨state.rtts, state.lost + 1, state.seq + 1⟩, ?_, (List.append_nil _).symm, lostValue, seqValue⟩
      simp only [pingStep, lostAdded, exec_bind_ok, seqAdded]

theorem ping_loop_run (outcomes : List (Except ε Duration)) (state : PingState) (order : state.lost ≤ state.seq)
    (positive : count ≠ 0) (enough : state.seq.toNat + outcomes.length = count.toNat) :
    ∃ final, pingLoop count outcomes state = .ok (some final) ∧ final.rtts = state.rtts ++ echoes outcomes ∧
      final.lost.toNat = state.lost.toNat + losses outcomes ∧ final.seq = count := by
  induction outcomes generalizing state with
  | nil =>
      have done : state.seq = count := UInt64.toNat_inj.mp (by simpa using enough)
      refine ⟨state, ?_, by simp [echoes], by simp [losses], done⟩
      rw [pingLoop, if_neg]
      simp [positive, done]
  | cons outcome outcomes ih =>
      simp only [List.length_cons] at enough
      have below : state.seq < count := UInt64.lt_iff_toNat_lt.mpr (by omega)
      obtain ⟨next, stepped, rtts, lost, seq⟩ := ping_step_spec count outcome state below order
      have bounds := UInt64.le_iff_toNat_le.mp order
      have single : losses [outcome] ≤ 1 := by cases outcome <;> simp [losses]
      obtain ⟨final, looped, allRtts, allLost, done⟩ := ih next (UInt64.le_iff_toNat_le.mpr (by omega)) (by omega)
      refine ⟨final, ?_, ?_, ?_, done⟩
      · rw [pingLoop, if_pos (.inr below)]
        simpa only [stepped, exec_bind_ok] using looped
      · rw [allRtts, rtts, List.append_assoc, echoes_cons outcome outcomes]
      · rw [allLost, lost, Nat.add_assoc, losses_cons outcome outcomes]

end Run

section Statistics

variable (sent lost : UInt64) (counts : PacketCounts)

def SoundSummary (rtts : List Duration) (summary : Summary) : Prop :=
  rtts ≠ [] → ∃ min avg max, summary.rtt = some (min, avg, max) ∧ avg.nanos = totalNanos rtts / rtts.length ∧
    min.nanos ≤ avg.nanos ∧ avg.nanos ≤ max.nanos

theorem narrowed_length (rtts : List Duration) : (UInt32.ofNat rtts.length).toNat = rtts.length % 4294967296 :=
  UInt32.toNat_ofNat

-- The divisor is the length modulo 2^32. The quotients by the two differ
-- unless both are zero, since the full length is more than twice the other.
theorem narrowed_average_iff (total length : Nat) (nonzero : length % 4294967296 ≠ 0) :
    total / (length % 4294967296) = total / length ↔ length < 4294967296 ∨ total < length % 4294967296 := by
  by_cases short : length < 4294967296
  · rw [Nat.mod_eq_of_lt short]
    exact iff_of_true rfl (.inl short)
  · have twice : 2 * (length % 4294967296) ≤ length := by omega
    by_cases small : total < length % 4294967296
    · rw [Nat.div_eq_of_lt small, Nat.div_eq_of_lt (by omega)]
      exact iff_of_true rfl (.inr small)
    · apply iff_of_false _ (by omega)
      intro same
      have positive : 0 < length % 4294967296 := Nat.pos_of_ne_zero nonzero
      have atLeastOne : 1 ≤ total / (length % 4294967296) := Nat.div_pos (by omega) positive
      have doubled : 2 * (total / length) ≤ total / (length % 4294967296) := by
        rw [Nat.le_div_iff_mul_le positive]
        calc
          2 * (total / length) * (length % 4294967296) = total / length * (2 * (length % 4294967296)) := by
            rw [Nat.mul_comm 2, Nat.mul_assoc]
          _ ≤ total / length * length := Nat.mul_le_mul_left _ twice
          _ ≤ total := Nat.div_mul_le_self total length
      omega

theorem summary_divides (rtts : List Duration) (nonempty : rtts ≠ []) (bounded : totalNanos rtts ≤ maxNanos)
    (nonzero : rtts.length % 4294967296 ≠ 0) :
    ∃ min avg max, printSummary sent rtts lost counts = .ok ⟨sent, rtts.length, lost, counts, some (min, avg, max)⟩ ∧
      avg.nanos = totalNanos rtts / (rtts.length % 4294967296) ∧ rtts.length * min.nanos ≤ totalNanos rtts ∧
      totalNanos rtts ≤ rtts.length * max.nanos := by
  obtain ⟨min, isMin, least⟩ := minimum_spec rtts nonempty
  obtain ⟨max, isMax, greatest⟩ := maximum_spec rtts nonempty
  have divisor : UInt32.ofNat rtts.length ≠ 0 := by
    intro zero
    rw [← narrowed_length, zero] at nonzero
    exact nonzero rfl
  obtain ⟨avg, divided, value⟩ := div_eq ⟨totalNanos rtts, bounded⟩ (UInt32.ofNat rtts.length) divisor
  refine ⟨min, avg, max, ?_, by rw [value, narrowed_length], total_at_least rtts min.nanos least,
    total_at_most rtts max.nanos greatest⟩
  rw [printSummary, if_neg nonempty]
  simp only [isMin, isMax, expect_some, exec_bind_ok, sum_eq rtts bounded, divided]

theorem summary_panics (rtts : List Duration) (nonempty : rtts ≠ []) (bounded : totalNanos rtts ≤ maxNanos)
    (zero : rtts.length % 4294967296 = 0) :
    printSummary sent rtts lost counts = .error (.expect "divide by zero error when dividing duration by scalar") := by
  obtain ⟨min, isMin, _⟩ := minimum_spec rtts nonempty
  obtain ⟨max, isMax, _⟩ := maximum_spec rtts nonempty
  have divisor : UInt32.ofNat rtts.length = 0 := UInt32.toNat_inj.mp ((narrowed_length rtts).trans zero)
  rw [printSummary, if_neg nonempty]
  simp only [isMin, isMax, expect_some, exec_bind_ok, sum_eq rtts bounded, divisor]
  rfl

theorem sound_summary_iff (rtts : List Duration) (bounded : totalNanos rtts ≤ maxNanos) :
    (∃ summary, printSummary sent rtts lost counts = .ok summary ∧ SoundSummary rtts summary) ↔
      rtts.length < 4294967296 ∨ totalNanos rtts < rtts.length % 4294967296 := by
  by_cases nonempty : rtts = []
  · subst nonempty
    refine iff_of_true ⟨_, rfl, fun other => absurd rfl other⟩ (.inl (by simp))
  · by_cases zero : rtts.length % 4294967296 = 0
    · have positive := List.length_pos_iff.mpr nonempty
      apply iff_of_false _ (by omega)
      intro returned
      obtain ⟨summary, printed, _⟩ := returned
      rw [summary_panics sent lost counts rtts nonempty bounded zero] at printed
      cases printed
    · obtain ⟨min, avg, max, printed, average, least, greatest⟩ :=
        summary_divides sent lost counts rtts nonempty bounded zero
      rw [← narrowed_average_iff (totalNanos rtts) rtts.length zero, ← average]
      have positive := List.length_pos_iff.mpr nonempty
      constructor
      · intro returned
        obtain ⟨summary, again, sound⟩ := returned
        rw [printed, Except.ok.injEq] at again
        obtain ⟨_, _, _, reported, exact, _⟩ := sound nonempty
        rw [← again] at reported
        cases reported
        exact exact
      · intro exact
        refine ⟨_, printed, fun _ => ⟨min, avg, max, rfl, exact, ?_, ?_⟩⟩
        · rw [exact, Nat.le_div_iff_mul_le positive, Nat.mul_comm]
          exact least
        · rw [exact]
          exact Nat.div_le_of_le_mul greatest

end Statistics

def SoundStatistics {ε : Type} (count : UInt64) (outcomes : List (Except ε Duration)) (counts : PacketCounts) : Prop :=
  ∃ final, pingLoop count outcomes {} = .ok (some final) ∧ final.seq = count ∧
    count.toNat = final.rtts.length + final.lost.toNat ∧
    ∃ summary, printSummary final.seq final.rtts final.lost counts = .ok summary ∧ SoundSummary final.rtts summary

theorem ping_loop_ends {ε : Type} (count : UInt64) (positive : 1 ≤ count) (outcomes : List (Except ε Duration))
    (enough : outcomes.length = count.toNat) :
    ∃ final, pingLoop count outcomes {} = .ok (some final) ∧ final.seq = count ∧ final.rtts = echoes outcomes ∧
      count.toNat = final.rtts.length + final.lost.toNat := by
  have nonzero : count ≠ 0 := by
    intro zero
    rw [zero] at positive
    exact absurd positive (by decide)
  obtain ⟨final, looped, rtts, lost, done⟩ := ping_loop_run count outcomes {} (UInt64.le_refl 0) nonzero
    (by rw [← enough]; exact Nat.zero_add _)
  have recorded : final.rtts = echoes outcomes := rtts.trans (List.nil_append _)
  refine ⟨final, looped, done, recorded, ?_⟩
  rw [recorded, lost, ← enough, ← echoes_and_losses outcomes]
  exact congrArg _ (Nat.zero_add _).symm

theorem sound_statistics_iff {ε : Type} (count : UInt64) (outcomes : List (Except ε Duration)) (counts : PacketCounts)
    (final : PingState) (looped : pingLoop count outcomes {} = .ok (some final)) (done : final.seq = count)
    (all : count.toNat = final.rtts.length + final.lost.toNat) (bounded : totalNanos final.rtts ≤ maxNanos) :
    SoundStatistics count outcomes counts ↔
      final.rtts.length < 4294967296 ∨ totalNanos final.rtts < final.rtts.length % 4294967296 := by
  rw [← sound_summary_iff final.seq final.lost counts final.rtts bounded]
  constructor
  · intro sound
    obtain ⟨other, again, _, _, summary⟩ := sound
    rw [looped, Except.ok.injEq, Option.some.injEq] at again
    rw [again]
    exact summary
  · intro summary
    exact ⟨final, looped, done, all, summary⟩

theorem ping_statistics_sound_iff {ε : Type} (count : UInt64) (positive : 1 ≤ count) (outcomes : List (Except ε Duration))
    (enough : outcomes.length = count.toNat) (bounded : totalNanos (echoes outcomes) ≤ maxNanos) (counts : PacketCounts) :
    (∃ final, pingLoop count outcomes {} = .ok (some final) ∧ final.seq = count ∧
      count.toNat = final.rtts.length + final.lost.toNat) ∧
    (SoundStatistics count outcomes counts ↔
      (echoes outcomes).length < 4294967296 ∨ totalNanos (echoes outcomes) < (echoes outcomes).length % 4294967296) := by
  obtain ⟨final, looped, done, recorded, all⟩ := ping_loop_ends count positive outcomes enough
  refine ⟨⟨final, looped, done, all⟩, ?_⟩
  rw [← recorded] at bounded ⊢
  exact sound_statistics_iff count outcomes counts final looped done all bounded

theorem ping_statistics_sound_iff_sample :
    SoundStatistics 3 [.ok ⟨2000000, by decide⟩, .error "timed out", .ok ⟨4000001, by decide⟩] ⟨6, 900, 4, 700, 0⟩ := by
  exact (ping_statistics_sound_iff 3 (by decide) [.ok ⟨2000000, by decide⟩, .error "timed out", .ok ⟨4000001, by decide⟩] rfl
    (by decide) _).2.mpr (by decide)

theorem echoes_replicate {ε : Type} (n : Nat) (rtt : Duration) :
    echoes (List.replicate n (.ok rtt : Except ε Duration)) = List.replicate n rtt := by
  induction n with
  | zero => rfl
  | succ n ih => rw [List.replicate_succ, List.replicate_succ, echoes, ih]

theorem total_replicate (n : Nat) (rtt : Duration) : totalNanos (List.replicate n rtt) = n * rtt.nanos := by
  simp [totalNanos]

-- A whole multiple of 2^32 echoes narrows to a division by zero.
theorem multiple_echoes_panic {ε : Type} (count : UInt64) (n : Nat) (isCount : count.toNat = n) (positive : 1 ≤ count)
    (multiple : n % 4294967296 = 0) (rtt : Duration) (bounded : n * rtt.nanos ≤ maxNanos) (counts : PacketCounts) :
    totalNanos (echoes (List.replicate n (.ok rtt : Except ε Duration))) ≤ maxNanos ∧
      (∃ final, pingLoop count (List.replicate n (.ok rtt : Except ε Duration)) {} = .ok (some final) ∧
        printSummary final.seq final.rtts final.lost counts =
          .error (.expect "divide by zero error when dividing duration by scalar")) ∧
      ¬ SoundStatistics count (List.replicate n (.ok rtt : Except ε Duration)) counts := by
  obtain ⟨final, looped, done, recorded, all⟩ := ping_loop_ends count positive (List.replicate n (.ok rtt : Except ε Duration))
    (by rw [List.length_replicate, isCount])
  have least : 1 ≤ n := isCount ▸ positive
  have total : totalNanos final.rtts ≤ maxNanos := by
    rw [recorded, echoes_replicate, total_replicate]
    exact bounded
  have length : final.rtts.length = n := by
    rw [recorded, echoes_replicate, List.length_replicate]
  have nonempty : final.rtts ≠ [] := List.length_pos_iff.mp (by omega)
  refine ⟨recorded ▸ total, ⟨final, looped, summary_panics _ _ counts final.rtts nonempty total (by rw [length, multiple])⟩, ?_⟩
  rw [sound_statistics_iff count _ counts final looped done all total, length]
  omega

theorem narrowed_average_unsound :
    totalNanos (echoes (List.replicate 4294967296 (.ok ⟨1, by decide⟩ : Except String Duration))) ≤ maxNanos ∧
      (∃ final, pingLoop 4294967296 (List.replicate 4294967296 (.ok ⟨1, by decide⟩ : Except String Duration)) {} =
          .ok (some final) ∧
        printSummary final.seq final.rtts final.lost ⟨4294967296, 0, 4294967296, 0, 0⟩ =
          .error (.expect "divide by zero error when dividing duration by scalar")) ∧
      ¬ SoundStatistics 4294967296 (List.replicate 4294967296 (.ok ⟨1, by decide⟩ : Except String Duration))
        ⟨4294967296, 0, 4294967296, 0, 0⟩ :=
  multiple_echoes_panic 4294967296 4294967296 rfl (by decide) rfl ⟨1, by decide⟩ (by decide) _

end Pktauth.Client
