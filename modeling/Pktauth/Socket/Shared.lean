import Mathlib.Algebra.Order.BigOperators.Group.Finset
import Pktauth.Lib.Ledger
import Pktauth.Socket.OneCall
import Pktauth.Socket.SenderRun
import Pktauth.Socket.Snapshot

set_option autoImplicit false

namespace Pktauth.Socket

open Rust Auth

-- What one task of the process does with its clone of the socket: the endpoint
-- driver polls it for datagrams, every other task sends through a sender of its
-- own.
inductive Activity where
  | receives (calls : List RecvCall) (returns : List RecvReturn)
  | sends (calls : List SendCall) (returns : List SendReturn)

def Activity.updates : Activity → List FetchAdd
  | .receives _ returns => runUpdates returns
  | .sends _ returns => returns.flatMap (fun returned => returned.state.updates)

section Tally

variable (aes : Cipher UInt8) (authenticator : Option Authenticator)

-- The two sides of the socket look at none of the counters, so that each is
-- run as if it had the socket for itself.
inductive Activity.Runs : Activity → Prop where
  | receives (calls : List RecvCall) (returns : List RecvReturn) (final : PacketSocket)
      (run : RecvRun aes (PacketSocket.bind authenticator) calls final returns) : Activity.Runs (.receives calls returns)
  | sends (calls : List SendCall) (returns : List SendReturn) (final : PacketSender)
      (run : SendRun (createSender (PacketSocket.bind authenticator)) calls final returns)
      (valid : ∀ call ∈ calls, ValidTransmit call.transmit) : Activity.Runs (.sends calls returns)

def Activity.tally : Activity → Counter → Nat
  | .sends _ returns, .sent => (wire returns).length
  | .sends _ returns, .sentBytes => ((wire returns).map (fun sent => sent.datagram.bytes.length)).sum
  | .receives calls _, .received => (calls.flatMap RecvCall.recv).countP (fun outcome => !failure outcome)
  | .receives calls _, .receivedBytes => ((readBy aes authenticator calls).map (fun datagram => datagram.1.length)).sum
  | .receives calls _, .rejected => (readBy aes authenticator calls).countP (forged aes authenticator)
  | _, _ => 0

theorem receive_tally (calls : List RecvCall) (socket final : PacketSocket) (returns : List RecvReturn)
    (run : RecvRun aes socket calls final returns) (counter : Counter) :
    total counter (runUpdates returns) = (Activity.receives calls returns).tally aes socket.authenticator counter := by
  rw [run_updates aes socket final calls returns run, booking_totals]
  cases counter with
  | received => exact run_datagrams aes socket final calls returns run
  | sent | sentBytes | receivedBytes | rejected => rfl

theorem send_updates (calls : List SendCall) (returns : List SendReturn) (sound : List.Forall₂ SoundCall calls returns) :
    (Activity.sends calls returns).updates = bookings (wire returns) := by
  induction sound with
  | nil => rfl
  | @cons call returned calls returns first later ih =>
      simp only [Activity.updates, bookings, List.flatMap_cons, wire_cons, List.flatMap_append] at ih ⊢
      rw [ih, first.booked, bookings]

theorem bookings_send_only (taken : List Sent) (counter : Counter) (other : counter ≠ .sent ∧ counter ≠ .sentBytes) :
    total counter (bookings taken) = 0 := by
  induction taken with
  | nil => rfl
  | cons sent taken ih =>
      have split : bookings (sent :: taken) = [⟨.sent, 1⟩, ⟨.sentBytes, sent.datagram.bytes.length⟩] ++ bookings taken := rfl
      rw [split, total_append, ih]
      simp [total, Ne.symm other.1, Ne.symm other.2]

theorem activity_tally (activity : Activity) (runs : activity.Runs aes authenticator) (counter : Counter) :
    total counter activity.updates = activity.tally aes authenticator counter := by
  cases runs with
  | receives calls returns final run => exact receive_tally aes calls _ final returns run counter
  | sends calls returns final run valid =>
      have sound := (send_run_sound _ final calls returns run valid nofun).1
      rw [send_updates calls returns sound]
      cases counter with
      | sent => exact bookings_sent (wire returns)
      | sentBytes => exact bookings_bytes (wire returns)
      | received | receivedBytes | rejected => exact bookings_send_only (wire returns) _ (by decide)

def Balanced (updates : List FetchAdd) : Prop :=
  ∀ count, total .rejected (updates.take count) ≤ total .received (updates.take count)

theorem total_take_le (counter : Counter) (updates : List FetchAdd) (count : Nat) :
    total counter (updates.take count) ≤ total counter updates := by
  calc total counter (updates.take count)
      ≤ total counter (updates.take count) + total counter (updates.drop count) := Nat.le_add_right _ _
    _ = total counter updates := by rw [← total_append, List.take_append_drop]

-- The received counter is bumped before the check runs, so that the updates of
-- each task come in an order that keeps the counters consistent.
theorem activity_balanced (activity : Activity) (runs : activity.Runs aes authenticator) : Balanced activity.updates := by
  intro count
  cases runs with
  | receives calls returns final run =>
      have checked : (checkedBefore aes authenticator count (readBy aes authenticator calls)).countP (forged aes authenticator) ≤
          (checkedBefore aes authenticator count (readBy aes authenticator calls)).length := List.countP_le_length
      rw [Activity.updates, run_updates aes _ final calls returns run]
      exact (rejected_by aes authenticator _ count).trans_le
        (checked.trans ((checked_before_read aes authenticator count _).trans_eq (received_by aes authenticator _ count).symm))
  | sends calls returns final run valid =>
      have sound := (send_run_sound _ final calls returns run valid nofun).1
      have silent := bookings_send_only (wire returns) .rejected (by decide)
      have part := total_take_le .rejected (bookings (wire returns)) count
      rw [send_updates calls returns sound]
      omega

end Tally

section Threads

variable {ι ρ : Type} [DecidableEq ι] [DecidableEq ρ]

theorem total_sum (counter : Counter) (updates : List FetchAdd) :
    total counter updates = (updates.map (fun update => if update.counter = counter then update.amount else 0)).sum := by
  induction updates with
  | nil => rfl
  | cons update updates ih => rw [total, ih, List.map_cons, List.sum_cons]

omit [DecidableEq ρ] in
theorem entries_total [Fintype ι] (shared : SharedSocket ι ρ) (counter : Counter) :
    total counter shared.entries = ∑ task, total counter (Ledger.posted task shared.log) := by
  simp only [total_sum]
  exact Ledger.total_posted _ shared.log

theorem task_part (tasks : ι → List FetchAdd) (shared : SharedSocket ι ρ)
    (reach : Relation.ReflTransGen SharedStep (SharedSocket.start tasks) shared) (task : ι) :
    Ledger.posted task shared.log = (tasks task).take (Ledger.posted task shared.log).length := by
  rw [← task_order tasks shared reach task, List.take_left]

theorem load_sofar (sofar : List FetchAdd) (counter : Counter) (bounded : total counter sofar < UInt64.size) :
    ((({} : Counters).after sofar).load counter).toNat = total counter sofar := by
  have zero : ({} : Counters).load counter = 0 := by cases counter <;> rfl
  rw [load_after, zero, UInt64.zero_add, UInt64.toNat_ofNat_of_lt' bounded]

-- While no counter has gone past its 64 bits, a load shows how far the updates
-- had come by then.
theorem snapshot_value (sofar : List FetchAdd) (small : ∀ counter, total counter sofar < UInt64.size) (counting : Counting)
    (timed : Timed sofar counting) (call : List Load) (finished : call ∈ counting.finished) (counts : PacketCounts)
    (whole : packetCounts call = some counts) (counter : Counter) :
    ∃ load ∈ call, (counts.load counter).toNat = total counter (sofar.take load.time) := by
  obtain ⟨index, load, found, order, shown⟩ := counts_loads call counts whole counter
  have value := timed.values call (List.mem_append_left _ finished) index load counter found order
  refine ⟨load, List.mem_of_getElem? found, ?_⟩
  rw [← shown, value]
  exact load_sofar _ counter (Nat.lt_of_le_of_lt (total_take_le counter sofar load.time) (small counter))

theorem snapshots_sorted (sofar : List FetchAdd) (small : ∀ counter, total counter sofar < UInt64.size) (counting : Counting)
    (timed : Timed sofar counting) :
    counting.returned.Pairwise (fun earlier later => ∀ counter, earlier.load counter ≤ later.load counter) := by
  have calls := (List.pairwise_flatten.mp (List.pairwise_append.mp timed.sorted).1).2
  refine List.pairwise_filterMap.mpr (List.Pairwise.imp_of_mem ?_ calls)
  intro first second firstDone secondDone order earlier whole later wholeLater counter
  obtain ⟨load, loaded, value⟩ := snapshot_value sofar small counting timed first firstDone earlier whole counter
  obtain ⟨next, loadedNext, valueNext⟩ := snapshot_value sofar small counting timed second secondDone later wholeLater counter
  have before := total_take_le counter (sofar.take next.time) load.time
  rw [List.take_take, Nat.min_eq_left (order load loaded next loadedNext)] at before
  rw [UInt64.le_iff_toNat_le, value, valueNext]
  exact before

theorem shared_counters_exact [Fintype ι] (aes : Cipher UInt8) (authenticator : Option Authenticator) (tasks : ι → Activity)
    (runs : ∀ task, (tasks task).Runs aes authenticator) (shared : SharedSocket ι ρ)
    (reach : Relation.ReflTransGen SharedStep (SharedSocket.start (fun task => (tasks task).updates)) shared) :
    ((∀ task, shared.writers task = []) →
      ∀ counter, shared.cells.counters.load counter = UInt64.ofNat (∑ task, (tasks task).tally aes authenticator counter)) ∧
    ((∀ counter, ∑ task, (tasks task).tally aes authenticator counter < UInt64.size) →
      shared.cells.counters.rejected ≤ shared.cells.counters.received ∧
      ∀ reader, (shared.others reader).returned.Pairwise
          (fun earlier later => ∀ counter, earlier.load counter ≤ later.load counter) ∧
        ∀ counts ∈ (shared.others reader).returned, ∀ counter, counts.load counter ≤ shared.cells.counters.load counter) := by
  have cells : shared.cells.counters = ({} : Counters).after shared.entries := by
    rw [Ledger.cells_posted Cells.fetchAdd Perform Count _ rfl shared reach, cells_after]
    rfl
  have zero (counter : Counter) : ({} : Counters).load counter = 0 := by cases counter <;> rfl
  constructor
  · intro finished counter
    rw [cells, load_after, zero, UInt64.zero_add, entries_total]
    refine congrArg UInt64.ofNat (Finset.sum_congr rfl (fun task _ => ?_))
    have whole := task_order _ shared reach task
    rw [finished task, List.append_nil] at whole
    rw [whole, activity_tally aes authenticator (tasks task) (runs task)]
  · intro bounded
    have part (counter : Counter) (task : ι) :
        total counter (Ledger.posted task shared.log) ≤ (tasks task).tally aes authenticator counter := by
      rw [← activity_tally aes authenticator (tasks task) (runs task), task_part _ shared reach task]
      exact total_take_le counter _ _
    have small (counter : Counter) : total counter shared.entries < UInt64.size := by
      rw [entries_total]
      exact Nat.lt_of_le_of_lt (Finset.sum_le_sum (fun task _ => part counter task)) (bounded counter)
    have value (counter : Counter) : (shared.cells.counters.load counter).toNat = total counter shared.entries := by
      rw [cells]
      exact load_sofar shared.entries counter (small counter)
    refine ⟨?_, fun reader => ?_⟩
    · have received := value .received
      have rejected := value .rejected
      simp only [Counters.load] at received rejected
      rw [UInt64.le_iff_toNat_le, received, rejected, entries_total, entries_total]
      refine Finset.sum_le_sum (fun task _ => ?_)
      rw [task_part _ shared reach task]
      exact activity_balanced aes authenticator (tasks task) (runs task) _
    · have timed := readers_timed _ shared reach reader
      refine ⟨snapshots_sorted shared.entries small _ timed, ?_⟩
      intro counts member counter
      obtain ⟨call, finished, whole⟩ := List.mem_filterMap.mp member
      obtain ⟨load, _, shown⟩ := snapshot_value shared.entries small _ timed call finished counts whole counter
      rw [UInt64.le_iff_toNat_le, value, shown]
      exact total_take_le counter shared.entries load.time

end Threads

def sampleSends : Activity :=
  .sends [⟨sampleTransmit, [.ready], [.accepted, .accepted]⟩]
    [⟨.ready (.ok ()), ⟨none, [sampleSegment 0 1, sampleSegment 1 2], sampleUpdates ++ sampleUpdates⟩, [], []⟩]
def sampleTasks : Bool → Activity
  | true => .receives [forgedCall] [forgedReturn]
  | false => sampleSends

theorem sample_tasks_run (task : Bool) : (sampleTasks task).Runs sampleCipher (some sampleAuthenticator) := by
  cases task with
  | true =>
      exact .receives _ _ _ forged_run
  | false =>
      refine .sends _ _ _ (.cons _ _ _ _ _ _ (by decide) ⟨rfl, rfl⟩ (.nil _)) ?_
      intro call member
      rw [List.mem_singleton.mp member]
      intro size segmented
      cases segmented
      exact Nat.le_refl 1

-- A snapshot in the middle of the two runs, which then both come to their end.
theorem shared_counters_exact_sample :
    ∃ shared : SharedSocket Bool Unit,
      Relation.ReflTransGen SharedStep (SharedSocket.start (fun task => (sampleTasks task).updates)) shared ∧
      (shared.others ()).returned = [⟨1, 0, 1, 0, 0⟩] ∧ shared.cells.counters.load .received = 1 ∧
      shared.cells.counters.load .sent = 2 ∧ shared.cells.counters.rejected ≤ shared.cells.counters.received := by
  have reach := Relation.ReflTransGen.refl (r := SharedStep)
      (a := (SharedSocket.start (fun task => (sampleTasks task).updates) : SharedSocket Bool Unit))
    |>.tail (.post _ true _ _ (.fetchAdd _ _ _ _)) |>.tail (.post _ false _ _ (.fetchAdd _ _ _ _))
    |>.tail (loads _ () .sent rfl) |>.tail (loads _ () .sentBytes rfl) |>.tail (loads _ () .received rfl)
    |>.tail (loads _ () .receivedBytes rfl) |>.tail (loads _ () .rejected rfl) |>.tail (.move _ _ (.finish _ _ _ () _ rfl))
    |>.tail (.post _ false _ _ (.fetchAdd _ _ _ _)) |>.tail (.post _ true _ _ (.fetchAdd _ _ _ _))
    |>.tail (.post _ true _ _ (.fetchAdd _ _ _ _)) |>.tail (.post _ false _ _ (.fetchAdd _ _ _ _))
    |>.tail (.post _ false _ _ (.fetchAdd _ _ _ _))
  obtain ⟨settled, ordered⟩ := shared_counters_exact sampleCipher (some sampleAuthenticator) sampleTasks sample_tasks_run _ reach
  have totals := settled (fun task => by cases task <;> rfl)
  refine ⟨_, reach, rfl, (totals .received).trans ?_, (totals .sent).trans ?_, (ordered ?_).1⟩
  · decide +kernel
  · decide +kernel
  · intro counter
    cases counter <;> decide +kernel

end Pktauth.Socket
