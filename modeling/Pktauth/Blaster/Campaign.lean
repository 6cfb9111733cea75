import Mathlib.Algebra.BigOperators.Ring.Finset
import Mathlib.Algebra.Order.BigOperators.Group.Finset
import Pktauth.Lib.Ledger
import Pktauth.Blaster.WellFormed
import Pktauth.Blaster.Worker

set_option autoImplicit false

namespace Pktauth.Blaster

open Rust Socket

structure Line where
  packets : UInt64
  bytes : UInt64
  total : UInt64
deriving DecidableEq

inductive ReportPoint where
  | sleeping
  | loading
  | loaded (sent : UInt64)
  | panicked (panic : Panic)
deriving DecidableEq

-- The reporter and the lines it has printed; the throughput in MiB is the same
-- byte count as a float.
structure Reporter where
  point : ReportPoint := .sleeping
  lastSent : UInt64 := 0
  lastBytes : UInt64 := 0
  lines : List Line := []
deriving DecidableEq

def Reporter.print (reporter : Reporter) (sent bytes : UInt64) : Reporter :=
  let line : Exec Line := do
    let packets ← u64Sub sent reporter.lastSent
    let amount ← u64Sub bytes reporter.lastBytes
    .ok ⟨packets, amount, sent⟩
  match line with
  | .ok line => ⟨.sleeping, sent, bytes, reporter.lines ++ [line]⟩
  | .error panic => { reporter with point := .panicked panic }

structure Totals where
  sent : UInt64
  bytes : UInt64
  errors : UInt64
deriving DecidableEq

inductive MainPoint where
  | waiting
  | aborting
  | joining (next : Nat)
  | loadingBytes (sent : UInt64)
  | loadingErrors (sent bytes : UInt64)
  | returned (result : Except ErrorKind Totals)
deriving DecidableEq

structure Control where
  running : Bool := true
  aborted : Bool := false
  main : MainPoint := .waiting
  reporter : Reporter := {}
deriving DecidableEq

def BlastPoint.ended : BlastPoint → Bool
  | .returned _ | .panicked _ => true
  | _ => false

section Campaign

variable {threads : Nat}

-- The steps of main from its select on, and those of the reporter, which an
-- abort stops where it sleeps and nowhere else.
inductive ControlStep : (Fin threads → Worker) → Stats → Control → Control → Prop where
  | stop (workers : Fin threads → Worker) (stats : Stats) (control : Control) (stage : control.main = .waiting) :
      ControlStep workers stats control { control with running := false, main := .aborting }
  | signalFailed (workers : Fin threads → Worker) (stats : Stats) (control : Control) (error : ErrorKind)
      (stage : control.main = .waiting) :
      ControlStep workers stats control { control with main := .returned (.error error) }
  | abort (workers : Fin threads → Worker) (stats : Stats) (control : Control) (stage : control.main = .aborting) :
      ControlStep workers stats control { control with aborted := true, main := .joining 0 }
  | join (workers : Fin threads → Worker) (stats : Stats) (control : Control) (next : Fin threads)
      (stage : control.main = .joining next) (ended : (workers next).point.ended = true) :
      ControlStep workers stats control { control with main := .joining (next + 1) }
  | loadSent (workers : Fin threads → Worker) (stats : Stats) (control : Control) (stage : control.main = .joining threads) :
      ControlStep workers stats control { control with main := .loadingBytes (stats.load .sent) }
  | loadBytes (workers : Fin threads → Worker) (stats : Stats) (control : Control) (sent : UInt64)
      (stage : control.main = .loadingBytes sent) :
      ControlStep workers stats control { control with main := .loadingErrors sent (stats.load .bytes) }
  | loadErrors (workers : Fin threads → Worker) (stats : Stats) (control : Control) (sent bytes : UInt64)
      (stage : control.main = .loadingErrors sent bytes) :
      ControlStep workers stats control { control with main := .returned (.ok ⟨sent, bytes, stats.load .errors⟩) }
  | wake (workers : Fin threads → Worker) (stats : Stats) (control : Control) (stage : control.reporter.point = .sleeping)
      (live : control.aborted = false) :
      ControlStep workers stats control { control with reporter := { control.reporter with point := .loading } }
  | reportSent (workers : Fin threads → Worker) (stats : Stats) (control : Control)
      (stage : control.reporter.point = .loading) :
      ControlStep workers stats control
        { control with reporter := { control.reporter with point := .loaded (stats.load .sent) } }
  | reportBytes (workers : Fin threads → Worker) (stats : Stats) (control : Control) (sent : UInt64)
      (stage : control.reporter.point = .loaded sent) :
      ControlStep workers stats control { control with reporter := control.reporter.print sent (stats.load .bytes) }

abbrev Campaign (threads : Nat) := Ledger (Fin threads) Worker StatAdd Stats Control

def seedOf (i : Fin threads) : UInt64 :=
  (workerSeeds threads seedSource).get ⟨i, by rw [worker_seeds_length]; exact i.2⟩

-- What each thread is told to send in a second; zero leaves it unpaced. There is
-- at least one thread.
def perThreadPps (pps : UInt64) (threads : Nat) : UInt64 :=
  if pps = 0 then 0 else max (pps / UInt64.ofNat threads) 1

def Campaign.start : Campaign threads := ⟨fun _ => Worker.start, {}, {}, []⟩

variable (endian : Endian) (size : Nat) (pps : UInt64)

abbrev CampaignStep : Campaign threads → Campaign threads → Prop :=
  Ledger.Step Stats.fetchAdd (fun control i => BlastStep endian size (perThreadPps pps threads) (seedOf i) control.running)
    ControlStep

-- A thread that has ended takes no further step.
theorem blast_step_live (seed : UInt64) (running : Bool) (worker after : Worker) (entry : Option StatAdd)
    (step : BlastStep endian size pps seed running worker entry after) : worker.point.ended = false := by
  cases step <;> simp_all [BlastPoint.ended]

def MainSound (workers : Fin threads → Worker) (stats : Stats) : MainPoint → Prop
  | .waiting | .aborting | .returned (.error _) => True
  | .joining next => next ≤ threads ∧ ∀ i : Fin threads, i.val < next → (workers i).point.ended = true
  | .loadingBytes sent => (∀ i, (workers i).point.ended = true) ∧ sent = stats.sent
  | .loadingErrors sent bytes => (∀ i, (workers i).point.ended = true) ∧ sent = stats.sent ∧ bytes = stats.bytes
  | .returned (.ok totals) => (∀ i, (workers i).point.ended = true) ∧ totals = ⟨stats.sent, stats.bytes, stats.errors⟩

-- The threads main has joined stay as they are, and once it has joined them
-- all nobody is left to touch the counters.
theorem main_unmoved (workers : Fin threads → Worker) (stats stats' : Stats) (point : MainPoint) (i : Fin threads) (next : Worker)
    (live : (workers i).point.ended = false) (sound : MainSound workers stats point) :
    MainSound (Function.update workers i next) stats' point := by
  have apart (all : ∀ i, (workers i).point.ended = true) : False := by simp [all i] at live
  cases point with
  | waiting | aborting => trivial
  | joining joined =>
      refine ⟨sound.1, ?_⟩
      intro other before
      by_cases own : other = i
      · subst own
        simp [sound.2 other before] at live
      · simpa [own] using sound.2 other before
  | loadingBytes sent => exact (apart sound.1).elim
  | loadingErrors sent bytes => exact (apart sound.1).elim
  | returned result =>
      cases result with
      | error error => trivial
      | ok totals => exact (apart sound.1).elim

theorem main_sound (campaign : Campaign threads)
    (reach : Relation.ReflTransGen (CampaignStep endian size pps) Campaign.start campaign) :
    MainSound campaign.writers campaign.cells campaign.others.main := by
  refine Run.invariant (CampaignStep endian size pps)
    (fun campaign => MainSound campaign.writers campaign.cells campaign.others.main) Campaign.start trivial ?_ campaign reach
  intro before after sound step
  cases step with
  | work i next works => exact main_unmoved _ _ _ _ i next (blast_step_live endian size _ _ _ _ _ _ works) sound
  | post i entry next posts => exact main_unmoved _ _ _ _ i next (blast_step_live endian size _ _ _ _ _ _ posts) sound
  | move next moves =>
      cases moves with
      | stop stage | signalFailed error stage => trivial
      | abort stage => exact ⟨Nat.zero_le threads, nofun⟩
      | join joined stage ended =>
          rw [stage] at sound
          refine ⟨joined.2, ?_⟩
          intro i bound
          rcases Nat.lt_succ_iff_lt_or_eq.mp bound with earlier | last
          · exact sound.2 i earlier
          · rw [Fin.ext last]
            exact ended
      | loadSent stage =>
          rw [stage] at sound
          exact ⟨fun i => sound.2 i i.2, rfl⟩
      | loadBytes sent stage =>
          rw [stage] at sound
          exact ⟨sound.1, sound.2, rfl⟩
      | loadErrors sent bytes stage =>
          rw [stage] at sound
          refine ⟨sound.1, ?_⟩
          rw [sound.2.1, sound.2.2]
          rfl
      | wake stage live | reportSent stage | reportBytes sent stage => exact sound

def amount (stat : Stat) (update : StatAdd) : Nat := if update.stat = stat then update.amount else 0

def posts (stat : Stat) (updates : List StatAdd) : Nat := (updates.map (amount stat)).sum

theorem load_stats (stats : Stats) (updates : List StatAdd) (stat : Stat) :
    (updates.foldl Stats.fetchAdd stats).load stat = stats.load stat + UInt64.ofNat (posts stat updates) := by
  induction updates generalizing stats with
  | nil => simp [posts]
  | cons update updates ih =>
      have first : (stats.fetchAdd update).load stat = stats.load stat + UInt64.ofNat (amount stat update) := by
        obtain ⟨target, size⟩ := update
        cases target <;> cases stat <;> simp [Stats.fetchAdd, Stats.load, amount]
      rw [List.foldl_cons, ih, first, posts, posts, List.map_cons, List.sum_cons, UInt64.ofNat_add, UInt64.add_assoc]

def taken (tried : List (List UInt8 × SendOutcome)) : Nat := tried.countP (fun attempt => attempt.2 = .accepted)
def refused (tried : List (List UInt8 × SendOutcome)) : Nat := tried.countP (fun attempt => attempt.2 ≠ .accepted)

theorem books_amounts (tried : List (List UInt8 × SendOutcome)) (sized : ∀ attempt ∈ tried, attempt.1.length = size) :
    posts .sent (books tried) = taken tried ∧ posts .errors (books tried) = refused tried ∧
      posts .bytes (books tried) = taken tried * size := by
  induction tried with
  | nil => simp [books, posts, taken, refused]
  | cons attempt tried ih =>
      obtain ⟨datagram, outcome⟩ := attempt
      obtain ⟨width, rest⟩ := List.forall_mem_cons.mp sized
      obtain ⟨sent, errors, bytes⟩ := ih rest
      simp only [books, posts, taken, refused] at sent errors bytes width ⊢
      cases outcome with
      | accepted => simp [amount, sent, errors, bytes, width, Nat.add_comm, Nat.add_mul]
      | failed error => simp [amount, sent, errors, bytes, Nat.add_comm]

theorem entries_posts (campaign : Campaign threads) (stat : Stat) :
    posts stat campaign.entries = ∑ i, posts stat (Ledger.posted i campaign.log) :=
  Ledger.total_posted (amount stat) campaign.log

theorem stat_total (campaign : Campaign threads)
    (reach : Relation.ReflTransGen (CampaignStep endian size pps) Campaign.start campaign) (stat : Stat) :
    campaign.cells.load stat = UInt64.ofNat (∑ i, posts stat (Ledger.posted i campaign.log)) := by
  have zero : (Campaign.start : Campaign threads).cells.load stat = 0 := by cases stat <;> rfl
  rw [Ledger.cells_posted _ _ _ _ rfl campaign reach, load_stats, zero, UInt64.zero_add, entries_posts]

section Sound

variable (template : InitialTemplate) (built : InitialTemplate.new size = .ok (.ok template)) (campaign : Campaign threads)
  (reach : Relation.ReflTransGen (CampaignStep endian size pps) Campaign.start campaign)

include built reach

theorem worker_sound (i : Fin threads) :
    BlastSound endian size (perThreadPps pps threads) (seedOf i) (campaign.writers i) (Ledger.posted i campaign.log) :=
  Ledger.writers_keep Stats.fetchAdd (fun control i => BlastStep endian size (perThreadPps pps threads) (seedOf i) control.running)
    ControlStep Campaign.start rfl (fun i => BlastSound endian size (perThreadPps pps threads) (seedOf i))
    (fun i => blast_start endian size (perThreadPps pps threads) (seedOf i))
    (fun control i before entry after posted sound step =>
      blast_step_sound endian size (perThreadPps pps threads) (seedOf i) template built control.running before after entry
        posted sound step)
    campaign reach i

theorem worker_sized (i : Fin threads) : ∀ attempt ∈ (campaign.writers i).tried, attempt.1.length = size := by
  obtain ⟨large, _, _⟩ := new_ok size template built
  intro attempt member
  obtain ⟨index, found⟩ := List.getElem?_of_mem member
  rw [(worker_sound endian size pps template built campaign reach i).stream index attempt found]
  exact layout_length size large _

end Sound

end Campaign

end Pktauth.Blaster
