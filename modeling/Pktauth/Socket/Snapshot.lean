import Mathlib.Logic.Function.Basic
import Pktauth.Lib.Ledger
import Pktauth.Socket.Intake

set_option autoImplicit false

namespace Pktauth.Socket

open Rust Auth

def loadOrder : List Counter := [.sent, .sentBytes, .received, .receivedBytes, .rejected]

structure PacketCounts where
  sent : UInt64
  sentBytes : UInt64
  received : UInt64
  receivedBytes : UInt64
  rejected : UInt64
deriving DecidableEq

def PacketCounts.load (counts : PacketCounts) : Counter → UInt64
  | .sent => counts.sent
  | .sentBytes => counts.sentBytes
  | .received => counts.received
  | .receivedBytes => counts.receivedBytes
  | .rejected => counts.rejected

-- One atomic load, with the number of updates that were made before it.
structure Load where
  time : Nat
  value : UInt64
deriving DecidableEq

def packetCounts (loads : List Load) : Option PacketCounts :=
  match loads with
  | [sent, sentBytes, received, receivedBytes, rejected] =>
      some ⟨sent.value, sentBytes.value, received.value, receivedBytes.value, rejected.value⟩
  | _ => none

theorem counts_loads (loads : List Load) (counts : PacketCounts) (whole : packetCounts loads = some counts) (counter : Counter) :
    ∃ (index : Nat) (load : Load), loads[index]? = some load ∧ loadOrder[index]? = some counter ∧
      load.value = counts.load counter := by
  unfold packetCounts at whole
  split at whole
  case h_1 sent sentBytes received receivedBytes rejected =>
      cases whole
      cases counter with
      | sent => exact ⟨0, sent, rfl, rfl, rfl⟩
      | sentBytes => exact ⟨1, sentBytes, rfl, rfl, rfl⟩
      | received => exact ⟨2, received, rfl, rfl, rfl⟩
      | receivedBytes => exact ⟨3, receivedBytes, rfl, rfl, rfl⟩
      | rejected => exact ⟨4, rejected, rfl, rfl, rfl⟩
  case h_2 => cases whole

-- The shared counters, and how many updates were made to them. The number is
-- not the program's: it tells the interleavings apart.
structure Cells where
  counters : Counters := {}
  time : Nat := 0
deriving DecidableEq

def Cells.fetchAdd (cells : Cells) (update : FetchAdd) : Cells := ⟨cells.counters.fetchAdd update, cells.time + 1⟩

-- A thread that calls counts again and again: the loads of the calls that have
-- returned, and those of the call it is in.
structure Counting where
  finished : List (List Load)
  loads : List Load

def Counting.returned (counting : Counting) : List PacketCounts := counting.finished.filterMap packetCounts

section Interleaving

variable {ι ρ : Type} [DecidableEq ι] [DecidableEq ρ]

inductive Perform : (ρ → Counting) → ι → List FetchAdd → Option FetchAdd → List FetchAdd → Prop where
  | fetchAdd (readers : ρ → Counting) (task : ι) (next : FetchAdd) (rest : List FetchAdd) :
      Perform readers task (next :: rest) (some next) rest

inductive Count : (ι → List FetchAdd) → Cells → (ρ → Counting) → (ρ → Counting) → Prop where
  | load (tasks : ι → List FetchAdd) (cells : Cells) (readers : ρ → Counting) (reader : ρ) (counter : Counter)
      (next : loadOrder[(readers reader).loads.length]? = some counter) :
      Count tasks cells readers
        (Function.update readers reader
          { readers reader with loads := (readers reader).loads ++ [⟨cells.time, cells.counters.load counter⟩] })
  | finish (tasks : ι → List FetchAdd) (cells : Cells) (readers : ρ → Counting) (reader : ρ) (counts : PacketCounts)
      (whole : packetCounts (readers reader).loads = some counts) :
      Count tasks cells readers
        (Function.update readers reader ⟨(readers reader).finished ++ [(readers reader).loads], []⟩)

-- Tasks that update the counters of one socket while any number of threads are
-- inside counts.
abbrev SharedSocket (ι ρ : Type) := Ledger ι (List FetchAdd) FetchAdd Cells (ρ → Counting)

abbrev SharedStep : SharedSocket ι ρ → SharedSocket ι ρ → Prop := Ledger.Step Cells.fetchAdd Perform Count

def SharedSocket.start (tasks : ι → List FetchAdd) : SharedSocket ι ρ := ⟨tasks, {}, fun _ => ⟨[], []⟩, []⟩

omit [DecidableEq ι] [DecidableEq ρ] in
theorem cells_after (cells : Cells) (updates : List FetchAdd) :
    updates.foldl Cells.fetchAdd cells = ⟨cells.counters.after updates, cells.time + updates.length⟩ := by
  induction updates generalizing cells with
  | nil => rfl
  | cons update updates ih =>
      rw [List.foldl_cons, ih]
      simp only [Cells.fetchAdd, Counters.after, List.foldl_cons, List.length_cons, Cells.mk.injEq, true_and]
      omega

-- Each load saw the counters as its own part of the updates left them, and a
-- thread's loads happened in order.
structure Timed (sofar : List FetchAdd) (counting : Counting) : Prop where
  past : ∀ load ∈ counting.finished.flatten ++ counting.loads, load.time ≤ sofar.length
  sorted : (counting.finished.flatten ++ counting.loads).Pairwise (fun earlier later => earlier.time ≤ later.time)
  values : ∀ call ∈ counting.finished ++ [counting.loads], ∀ (index : Nat) (load : Load) (counter : Counter),
    call[index]? = some load → loadOrder[index]? = some counter →
      load.value = (({} : Counters).after (sofar.take load.time)).load counter

theorem timed_grows (sofar : List FetchAdd) (update : FetchAdd) (counting : Counting) (timed : Timed sofar counting) :
    Timed (sofar ++ [update]) counting := by
  refine ⟨?_, timed.sorted, ?_⟩
  · intro load member
    rw [List.length_append]
    exact Nat.le_add_right_of_le (timed.past load member)
  · intro call member index load counter found order
    have whose : load ∈ counting.finished.flatten ++ counting.loads := by
      rw [← List.flatten_concat, List.mem_flatten]
      exact ⟨call, member, List.mem_of_getElem? found⟩
    rw [List.take_append_of_le_length (timed.past load whose)]
    exact timed.values call member index load counter found order

theorem timed_load (sofar : List FetchAdd) (counting : Counting) (counter : Counter)
    (next : loadOrder[counting.loads.length]? = some counter) (timed : Timed sofar counting) :
    Timed sofar
      { counting with loads := counting.loads ++ [⟨sofar.length, (({} : Counters).after sofar).load counter⟩] } := by
  refine ⟨?_, ?_, ?_⟩
  · intro load member
    rw [← List.append_assoc] at member
    rcases List.mem_append.mp member with earlier | last
    · exact timed.past load earlier
    · rw [List.mem_singleton.mp last]
  · rw [← List.append_assoc]
    refine List.pairwise_append.mpr ⟨timed.sorted, List.pairwise_singleton _ _, ?_⟩
    intro earlier member last isLast
    rw [List.mem_singleton.mp isLast]
    exact timed.past earlier member
  · intro call member index load field found order
    rcases List.mem_append.mp member with finished | current
    · exact timed.values call (List.mem_append_left _ finished) index load field found order
    · obtain rfl := List.mem_singleton.mp current
      by_cases earlier : index < counting.loads.length
      · rw [List.getElem?_append_left earlier] at found
        exact timed.values counting.loads (by simp) index load field found order
      · have bound := (List.getElem?_eq_some_iff.mp found).1
        obtain rfl : index = counting.loads.length := by
          simp only [List.length_append, List.length_singleton] at bound
          omega
        rw [List.getElem?_concat_length, Option.some.injEq] at found
        rw [next, Option.some.injEq] at order
        rw [← found, ← order, List.take_length]

theorem timed_finish (sofar : List FetchAdd) (counting : Counting) (timed : Timed sofar counting) :
    Timed sofar ⟨counting.finished ++ [counting.loads], []⟩ := by
  refine ⟨?_, ?_, ?_⟩
  · simpa using timed.past
  · simpa using timed.sorted
  · intro call member index load counter found order
    rcases List.mem_append.mp member with finished | fresh
    · exact timed.values call finished index load counter found order
    · rw [List.mem_singleton.mp fresh] at found
      simp at found

theorem readers_timed (tasks : ι → List FetchAdd) (shared : SharedSocket ι ρ)
    (reach : Relation.ReflTransGen SharedStep (SharedSocket.start tasks) shared) (reader : ρ) :
    Timed shared.entries (shared.others reader) := by
  refine Ledger.others_keep Cells.fetchAdd Perform Count (SharedSocket.start tasks) rfl
    (fun readers sofar => ∀ reader, Timed sofar (readers reader)) ?_ ?_ ?_ shared reach reader
  · intro reader
    constructor <;> simp [SharedSocket.start]
  · intro readers sofar update holds reader
    exact timed_grows sofar update _ (holds reader)
  · intro pending readers next sofar holds counts reader
    have cells : sofar.foldl Cells.fetchAdd (SharedSocket.start tasks : SharedSocket ι ρ).cells =
        ⟨({} : Counters).after sofar, sofar.length⟩ := by
      rw [cells_after]
      simp [SharedSocket.start]
    rw [cells] at counts
    cases counts with
    | load who counter next =>
        exact (Function.forall_update_iff readers (fun _ counting => Timed sofar counting)).mpr
          ⟨timed_load sofar (readers who) counter next (holds who), fun other _ => holds other⟩ reader
    | finish who counts whole =>
        exact (Function.forall_update_iff readers (fun _ counting => Timed sofar counting)).mpr
          ⟨timed_finish sofar (readers who) (holds who), fun other _ => holds other⟩ reader

theorem task_order (tasks : ι → List FetchAdd) (shared : SharedSocket ι ρ)
    (reach : Relation.ReflTransGen SharedStep (SharedSocket.start tasks) shared) (task : ι) :
    Ledger.posted task shared.log ++ shared.writers task = tasks task := by
  refine Ledger.writers_keep Cells.fetchAdd Perform Count (SharedSocket.start tasks) rfl
    (fun task pending sofar => sofar ++ pending = tasks task) (fun _ => rfl) ?_ shared reach task
  intro readers task before entry after sofar holds performed
  cases performed with
  | fetchAdd next rest => simpa using holds

def SharedSocket.loaded (shared : SharedSocket ι ρ) (reader : ρ) (counter : Counter) : SharedSocket ι ρ :=
  { shared with
    others := Function.update shared.others reader
      { shared.others reader with
        loads := (shared.others reader).loads ++ [⟨shared.cells.time, shared.cells.counters.load counter⟩] } }

omit [DecidableEq ι] in
@[simp] theorem loaded_loads (shared : SharedSocket ι ρ) (reader : ρ) (counter : Counter) :
    ((shared.loaded reader counter).others reader).loads =
      (shared.others reader).loads ++ [⟨shared.cells.time, shared.cells.counters.load counter⟩] := by
  simp [SharedSocket.loaded]

theorem loads (shared : SharedSocket ι ρ) (reader : ρ) (counter : Counter)
    (next : loadOrder[(shared.others reader).loads.length]? = some counter) : SharedStep shared (shared.loaded reader counter) :=
  .move shared _ (.load _ _ _ reader counter next)

-- From any point on, a task can be left to make the next of its updates.
theorem performs (shared : SharedSocket ι ρ) (task : ι) (front rest : List FetchAdd)
    (pending : shared.writers task = front ++ rest) :
    ∃ after, Relation.ReflTransGen SharedStep shared after ∧ after.others = shared.others ∧
      after.cells = front.foldl Cells.fetchAdd shared.cells := by
  induction front generalizing shared with
  | nil => exact ⟨shared, .refl, rfl, rfl⟩
  | cons update front ih =>
      obtain ⟨after, run, others, cells⟩ := ih
        { shared with
          writers := Function.update shared.writers task (front ++ rest)
          cells := shared.cells.fetchAdd update
          log := shared.log ++ [(task, update)] } (Function.update_self _ _ _)
      refine ⟨after, .head (.post shared task update (front ++ rest) ?_) run, others, cells⟩
      rw [pending]
      exact .fetchAdd _ _ _ _

end Interleaving

section Datagrams

variable (aes : Cipher UInt8) (authenticator : Option Authenticator)

-- Of the datagrams a run reads, those that it has counted as received when it
-- has made so many updates, and those that it is done with.
def readBefore : Nat → List Handed → List Handed
  | _, [] => []
  | time, datagram :: rest =>
      if time = 0 then [] else datagram :: readBefore (time - (booking aes authenticator datagram).length) rest

def checkedBefore : Nat → List Handed → List Handed
  | _, [] => []
  | time, datagram :: rest =>
      if time < (booking aes authenticator datagram).length then []
      else datagram :: checkedBefore (time - (booking aes authenticator datagram).length) rest

theorem read_before_front (time : Nat) (datagrams : List Handed) : readBefore aes authenticator time datagrams <+: datagrams := by
  fun_induction readBefore aes authenticator time datagrams with
  | case1 => exact List.prefix_refl _
  | case2 => exact List.nil_prefix
  | case3 time datagram rest later ih => exact (List.prefix_cons_inj datagram).mpr ih

theorem checked_before_front (time : Nat) (datagrams : List Handed) :
    checkedBefore aes authenticator time datagrams <+: datagrams := by
  fun_induction checkedBefore aes authenticator time datagrams with
  | case1 => exact List.prefix_refl _
  | case2 => exact List.nil_prefix
  | case3 time datagram rest later ih => exact (List.prefix_cons_inj datagram).mpr ih

-- A datagram is counted as received by the first of its updates, and as
-- rejected by the last.
theorem booking_received (datagram : Handed) (time : Nat) :
    total .received ((booking aes authenticator datagram).take time) = if time = 0 then 0 else 1 := by
  cases real : genuine aes authenticator datagram <;> match time with
  | 0 | 1 | 2 | time + 3 => simp [booking, real, total]

theorem booking_rejected (datagram : Handed) (time : Nat) :
    total .rejected ((booking aes authenticator datagram).take time) =
      if time < (booking aes authenticator datagram).length then 0
      else [datagram].countP (forged aes authenticator) := by
  cases real : genuine aes authenticator datagram <;> match time with
  | 0 | 1 | 2 | time + 3 => simp [booking, forged, real, total]

theorem received_by (datagrams : List Handed) (time : Nat) :
    total .received ((datagrams.flatMap (booking aes authenticator)).take time) =
      (readBefore aes authenticator time datagrams).length := by
  induction datagrams generalizing time with
  | nil => simp [readBefore, total]
  | cons datagram datagrams ih =>
      rw [List.flatMap_cons, List.take_append, total_append, ih, booking_received, readBefore]
      by_cases first : time = 0
      · subst first
        cases datagrams <;> simp [readBefore]
      · rw [if_neg first, if_neg first, List.length_cons, Nat.add_comm]

theorem rejected_by (datagrams : List Handed) (time : Nat) :
    total .rejected ((datagrams.flatMap (booking aes authenticator)).take time) =
      (checkedBefore aes authenticator time datagrams).countP (forged aes authenticator) := by
  induction datagrams generalizing time with
  | nil => simp [checkedBefore, total]
  | cons datagram datagrams ih =>
      rw [List.flatMap_cons, List.take_append, total_append, ih, booking_rejected, checkedBefore]
      by_cases early : time < (booking aes authenticator datagram).length
      · have nothing : checkedBefore aes authenticator 0 datagrams = [] := by
          cases datagrams <;> simp [checkedBefore, booking]
        rw [if_pos early, if_pos early, Nat.sub_eq_zero_of_le (Nat.le_of_lt early), nothing, Nat.zero_add]
      · rw [if_neg early, if_neg early, ← List.countP_append, List.singleton_append]

theorem checked_before_read (time : Nat) (datagrams : List Handed) :
    (checkedBefore aes authenticator time datagrams).length ≤ (readBefore aes authenticator time datagrams).length := by
  induction datagrams generalizing time with
  | nil => simp [checkedBefore]
  | cons datagram datagrams ih =>
      rw [checkedBefore, readBefore]
      by_cases early : time < (booking aes authenticator datagram).length
      · rw [if_pos early]
        exact Nat.zero_le _
      · have begun : time ≠ 0 := by
          rintro rfl
          simp [booking] at early
        rw [if_neg early, if_neg begun]
        exact Nat.succ_le_succ (ih _)

-- Both loads look at the same sequence of datagrams, each at a front of it.
theorem fronts_compare (read checked datagrams : List Handed) (readFront : read <+: datagrams)
    (checkedFront : checked <+: datagrams) :
    checked.countP (forged aes authenticator) ≤ read.length ↔
      (checked.drop read.length).countP (forged aes authenticator) ≤ read.countP (genuine aes authenticator) := by
  have split := genuine_or_forged aes authenticator read
  rcases List.prefix_or_prefix_of_prefix readFront checkedFront with ⟨rest, rfl⟩ | ⟨rest, rfl⟩
  · rw [List.countP_append, List.drop_left]
    omega
  · have all : checked.countP (forged aes authenticator) ≤ checked.length := List.countP_le_length
    rw [List.drop_of_length_le (by simp), List.countP_nil, List.length_append]
    omega

end Datagrams

section Snapshot

variable {ρ : Type} [DecidableEq ρ] (aes : Cipher UInt8) (authenticator : Option Authenticator) (calls : List RecvCall)
  (final : PacketSocket) (returns : List RecvReturn)
  (run : RecvRun aes (PacketSocket.bind authenticator) calls final returns)

-- The socket while one thread runs poll_recv and the others call counts.
def Counted (returns : List RecvReturn) (shared : SharedSocket Unit ρ) : Prop :=
  Relation.ReflTransGen SharedStep (SharedSocket.start (fun _ => runUpdates returns)) shared

include run

theorem load_value (shared : SharedSocket Unit ρ) (counted : Counted returns shared) (reader : ρ) (index : Nat) (load : Load)
    (counter : Counter) (found : (shared.others reader).loads[index]? = some load) (order : loadOrder[index]? = some counter) :
    load.value = UInt64.ofNat (total counter
      (((readBy aes authenticator calls).flatMap (booking aes authenticator)).take load.time)) := by
  have timed := readers_timed _ shared counted reader
  have early := timed.past load (List.mem_append_right _ (List.mem_of_getElem? found))
  have updates : runUpdates returns = (readBy aes authenticator calls).flatMap (booking aes authenticator) :=
    run_updates aes _ final calls returns run
  have entries : shared.entries = Ledger.posted () shared.log := by simp [Ledger.entries, Ledger.posted]
  have zero : ({} : Counters).load counter = 0 := by cases counter <;> rfl
  rw [timed.values _ (by simp) index load counter found order, load_after, zero, UInt64.zero_add, ← updates,
    ← task_order _ shared counted (), ← entries, List.take_append_of_le_length early]

-- The first datagram to fail the check, between the load of received, before
-- anything was read, and the load of rejected.
theorem forged_tears (reader : ρ) (datagram : Handed) (member : datagram ∈ readBy aes authenticator calls)
    (fails : genuine aes authenticator datagram = false) :
    ∃ shared : SharedSocket Unit ρ, Counted returns shared ∧ ∃ counts, packetCounts (shared.others reader).loads = some counts ∧
      ¬ counts.rejected ≤ counts.received := by
  obtain ⟨first, found⟩ : ∃ first, (readBy aes authenticator calls).find? (forged aes authenticator) = some first :=
    Option.isSome_iff_exists.mp (List.find?_isSome.mpr ⟨datagram, member, by simp [forged, fails]⟩)
  obtain ⟨isForged, front, rest, split, before⟩ := List.find?_eq_some_iff_append.mp found
  have pending : runUpdates returns = (front ++ [first]).flatMap (booking aes authenticator) ++
      rest.flatMap (booking aes authenticator) := by
    rw [run_updates aes _ final calls returns run, ← List.flatMap_append, List.append_assoc, List.singleton_append, ← split]
    rfl
  have one : total .rejected ((front ++ [first]).flatMap (booking aes authenticator)) = 1 := by
    rw [booking_totals]
    simp only [List.countP_append, List.countP_singleton, isForged, if_true]
    have clean := List.countP_eq_zero.mpr (fun datagram earlier => by simpa using before datagram earlier)
    rw [clean]
  let early : SharedSocket Unit ρ := ((SharedSocket.start (fun _ => runUpdates returns)).loaded reader .sent
    |>.loaded reader .sentBytes |>.loaded reader .received)
  have start : Counted returns early := Relation.ReflTransGen.refl
    |>.tail (loads _ reader .sent rfl)
    |>.tail (loads _ reader .sentBytes (by simp [SharedSocket.start, loadOrder]))
    |>.tail (loads _ reader .received (by simp [SharedSocket.start, loadOrder]))
  have zeros : (early.others reader).loads = [⟨0, 0⟩, ⟨0, 0⟩, ⟨0, 0⟩] := by
    simp only [early, loaded_loads]
    rfl
  obtain ⟨late, performed, others, cells⟩ := performs early () _ _ pending
  have value : late.cells.counters.load .rejected = 1 := by
    rw [cells, cells_after, load_after, one]
    rfl
  have ended := start.trans performed
    |>.tail (loads late reader .receivedBytes (by rw [others, zeros]; rfl))
    |>.tail (loads _ reader .rejected (by rw [loaded_loads, others, zeros]; rfl))
  refine ⟨_, ended, _, by rw [loaded_loads, loaded_loads, others, zeros]; rfl, ?_⟩
  change ¬ late.cells.counters.load .rejected ≤ 0
  rw [value]
  decide

-- As long as all that is read passes the check, nothing is ever rejected.
theorem genuine_consistent (pass : ∀ datagram ∈ readBy aes authenticator calls, genuine aes authenticator datagram = true)
    (shared : SharedSocket Unit ρ) (counted : Counted returns shared) (reader : ρ) (counts : PacketCounts)
    (returned : packetCounts (shared.others reader).loads = some counts) : counts.rejected ≤ counts.received := by
  obtain ⟨index, load, found, order, shown⟩ := counts_loads _ counts returned .rejected
  have value := load_value aes authenticator calls final returns run shared counted reader index load .rejected found order
  have clean : (checkedBefore aes authenticator load.time (readBy aes authenticator calls)).countP
      (forged aes authenticator) = 0 := by
    refine List.countP_eq_zero.mpr (fun datagram member => ?_)
    simp [forged, pass datagram ((checked_before_front aes authenticator _ _).subset member)]
  rw [rejected_by, clean, shown] at value
  have zero : counts.rejected = 0 := value
  rw [zero]
  exact UInt64.zero_le

-- The first part is about all interleavings of a run, the second about one
-- snapshot of one of them: of the datagrams read after the load of received, no
-- more may have failed the check by the load of rejected than had passed it
-- before the load of received.
theorem snapshot_consistent_iff (reader : ρ) :
    ((∀ shared : SharedSocket Unit ρ, Counted returns shared → ∀ counts, packetCounts (shared.others reader).loads = some counts →
        counts.rejected ≤ counts.received) ↔
      ∀ datagram ∈ readBy aes authenticator calls, genuine aes authenticator datagram = true) ∧
    ∀ shared : SharedSocket Unit ρ, Counted returns shared → (readBy aes authenticator calls).length < UInt64.size →
      ∀ sent sentBytes received receivedBytes rejected,
        (shared.others reader).loads = [sent, sentBytes, received, receivedBytes, rejected] →
        ∀ counts, packetCounts (shared.others reader).loads = some counts →
          (counts.rejected ≤ counts.received ↔
            ((checkedBefore aes authenticator rejected.time (readBy aes authenticator calls)).drop
                (readBefore aes authenticator received.time (readBy aes authenticator calls)).length).countP
                (forged aes authenticator) ≤
              (readBefore aes authenticator received.time (readBy aes authenticator calls)).countP
                (genuine aes authenticator)) := by
  refine ⟨⟨?_, ?_⟩, ?_⟩
  · intro consistent datagram member
    by_contra fails
    obtain ⟨shared, counted, counts, returned, torn⟩ := forged_tears aes authenticator calls final returns run reader datagram
      member (by simpa using fails)
    exact torn (consistent shared counted counts returned)
  · intro pass shared counted counts returned
    exact genuine_consistent aes authenticator calls final returns run pass shared counted reader counts returned
  · intro shared counted bounded sent sentBytes received receivedBytes rejected finished counts returned
    have value := load_value aes authenticator calls final returns run shared counted reader
    have receivedValue := value 2 received .received (by simp [finished]) rfl
    have rejectedValue := value 4 rejected .rejected (by simp [finished]) rfl
    rw [received_by] at receivedValue
    rw [rejected_by] at rejectedValue
    have readFront := read_before_front aes authenticator received.time (readBy aes authenticator calls)
    have checkedFront := checked_before_front aes authenticator rejected.time (readBy aes authenticator calls)
    have few : (checkedBefore aes authenticator rejected.time (readBy aes authenticator calls)).countP
        (forged aes authenticator) < UInt64.size :=
      Nat.lt_of_le_of_lt (Nat.le_trans List.countP_le_length checkedFront.length_le) bounded
    rw [finished, packetCounts, Option.some.injEq] at returned
    subst returned
    rw [UInt64.le_iff_toNat_le, receivedValue, rejectedValue, UInt64.toNat_ofNat_of_lt' few,
      UInt64.toNat_ofNat_of_lt' (Nat.lt_of_le_of_lt readFront.length_le bounded)]
    exact fronts_compare aes authenticator _ _ _ readFront checkedFront

end Snapshot

def forgedCall : RecvCall :=
  ⟨[sampleBuffer], [RecvMeta.default], [.ready, .notReady], [.datagram [0x40] sampleSource, .failed .wouldBlock]⟩
def forgedReturn : RecvReturn :=
  ⟨.pending, ⟨[0x40 :: List.replicate 31 0], [RecvMeta.default], 0, [⟨.received, 1⟩, ⟨.receivedBytes, 1⟩, ⟨.rejected, 1⟩]⟩,
    [], []⟩

theorem forged_run :
    RecvRun sampleCipher (PacketSocket.bind (some sampleAuthenticator)) [forgedCall]
      ((PacketSocket.bind (some sampleAuthenticator)).record forgedReturn.state.updates) [forgedReturn] :=
  .cons _ _ forgedCall [] forgedReturn [] (by decide +kernel) rfl (.nil _)

-- The datagram has been dealt with before the first of the loads.
theorem snapshot_consistent_iff_sample :
    ∃ shared : SharedSocket Unit Unit, Counted [forgedReturn] shared ∧
      ∃ counts, packetCounts (shared.others ()).loads = some counts ∧ counts.rejected = 1 ∧ counts.rejected ≤ counts.received := by
  have reach := Relation.ReflTransGen.refl (r := SharedStep)
      (a := (SharedSocket.start (fun _ => runUpdates [forgedReturn]) : SharedSocket Unit Unit))
    |>.tail (.post _ () _ _ (.fetchAdd _ _ _ _)) |>.tail (.post _ () _ _ (.fetchAdd _ _ _ _))
    |>.tail (.post _ () _ _ (.fetchAdd _ _ _ _))
    |>.tail (loads _ () .sent rfl) |>.tail (loads _ () .sentBytes rfl) |>.tail (loads _ () .received rfl)
    |>.tail (loads _ () .receivedBytes rfl) |>.tail (loads _ () .rejected rfl)
  refine ⟨_, reach, _, rfl, rfl, ?_⟩
  exact ((snapshot_consistent_iff sampleCipher (some sampleAuthenticator) [forgedCall] _ [forgedReturn] forged_run ()).2 _ reach
    (by decide +kernel) ⟨3, 0⟩ ⟨3, 0⟩ ⟨3, 1⟩ ⟨3, 1⟩ ⟨3, 1⟩ rfl _ rfl).mpr (by decide +kernel)

-- The datagram arrives between the load of received and the load of rejected.
theorem torn_snapshot :
    ∃ final, RecvRun sampleCipher (PacketSocket.bind (some sampleAuthenticator)) [forgedCall] final [forgedReturn] ∧
      ∃ shared : SharedSocket Unit Unit, Counted [forgedReturn] shared ∧
        ∃ counts, packetCounts (shared.others ()).loads = some counts ∧ ¬ counts.rejected ≤ counts.received := by
  have reach := Relation.ReflTransGen.refl (r := SharedStep)
      (a := (SharedSocket.start (fun _ => runUpdates [forgedReturn]) : SharedSocket Unit Unit))
    |>.tail (loads _ () .sent rfl) |>.tail (loads _ () .sentBytes rfl) |>.tail (loads _ () .received rfl)
    |>.tail (.post _ () _ _ (.fetchAdd _ _ _ _)) |>.tail (.post _ () _ _ (.fetchAdd _ _ _ _))
    |>.tail (.post _ () _ _ (.fetchAdd _ _ _ _))
    |>.tail (loads _ () .receivedBytes rfl) |>.tail (loads _ () .rejected rfl)
  exact ⟨_, forged_run, _, reach, _, rfl, by decide⟩

end Pktauth.Socket
