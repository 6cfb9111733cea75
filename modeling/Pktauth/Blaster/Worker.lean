import Pktauth.Blaster.Distinct
import Pktauth.Rust.Duration
import Pktauth.Socket.PollSend

set_option autoImplicit false

namespace Pktauth.Blaster

open Rust Socket

def batch : Nat := 64

inductive Stat where
  | sent
  | bytes
  | errors
deriving DecidableEq

structure Stats where
  sent : UInt64 := 0
  bytes : UInt64 := 0
  errors : UInt64 := 0
deriving DecidableEq

structure StatAdd where
  stat : Stat
  amount : Nat
deriving DecidableEq

def Stats.load (stats : Stats) : Stat → UInt64
  | .sent => stats.sent
  | .bytes => stats.bytes
  | .errors => stats.errors

def Stats.fetchAdd (stats : Stats) (update : StatAdd) : Stats :=
  let amount := UInt64.ofNat update.amount
  match update.stat with
  | .sent => { stats with sent := stats.sent + amount }
  | .bytes => { stats with bytes := stats.bytes + amount }
  | .errors => { stats with errors := stats.errors + amount }

inductive BlastError where
  | io (error : ErrorKind)
  | template (message : String)
deriving DecidableEq

structure Locals where
  template : InitialTemplate
  rng : SplitMix64
  sent : UInt64
deriving DecidableEq

-- Where a thread is in blast: before the call or the atomic operation that the
-- point is named after.
inductive BlastPoint where
  | binding
  | connecting
  | building
  | checking (locals : Locals)
  | sending (locals : Locals) (index : Nat)
  | booking (locals : Locals) (index bytes : Nat)
  | sizing (locals : Locals) (index bytes : Nat)
  | failing (locals : Locals) (index : Nat)
  | pacing (locals : Locals)
  | returned (result : Except BlastError Unit)
  | panicked (panic : Panic)
deriving DecidableEq

-- The thread, with every send it has made and what the socket answered.
structure Worker where
  point : BlastPoint
  tried : List (List UInt8 × SendOutcome)
deriving DecidableEq

def Worker.start : Worker := ⟨.binding, []⟩

def BlastPoint.called (next : BlastPoint) : Except ErrorKind Unit → BlastPoint
  | .ok () => next
  | .error error => .returned (.error (.io error))

def BlastPoint.built (seed : UInt64) : Exec (Except String InitialTemplate) → BlastPoint
  | .ok (.ok template) => .checking ⟨template, ⟨seed⟩, 0⟩
  | .ok (.error message) => .returned (.error (.template message))
  | .error panic => .panicked panic

def BlastPoint.checked (locals : Locals) (running : Bool) : BlastPoint :=
  if running then .sending locals 0 else .returned (.ok ())

def BlastPoint.sent (locals : Locals) (index : Nat) : SendOutcome → BlastPoint
  | .accepted => .booking locals index locals.template.bytes.length
  | .failed _ => .failing locals index

-- The end of one pass of the for loop.
def BlastPoint.turn (locals : Locals) (index : Nat) : BlastPoint :=
  if index + 1 < batch then .sending locals (index + 1)
  else
    match u64Add locals.sent (UInt64.ofNat batch) with
    | .ok sent => .pacing { locals with sent := sent }
    | .error panic => .panicked panic

def Worker.send (worker : Worker) (locals : Locals) (index : Nat) (outcome : SendOutcome) :
    Exec (InitialTemplate × SplitMix64) → Worker
  | .ok (template, rng) =>
      let locals : Locals := { locals with template := template, rng := rng }
      ⟨.sent locals index outcome, worker.tried ++ [(template.bytes, outcome)]⟩
  | .error panic => { worker with point := .panicked panic }

-- The end of one pass of the while loop. What is left of the target time is
-- slept away, which is all that the other threads see of it.
def BlastPoint.paced (pps : UInt64) (locals : Locals) : BlastPoint :=
  if pps > 0 then
    match Duration.fromSecsF64 (f64Div (asF64 locals.sent) (asF64 pps)) with
    | .ok _ => .checking locals
    | .error panic => .panicked panic
  else .checking locals

inductive BlastStep (endian : Endian) (size : Nat) (pps seed : UInt64) (running : Bool) :
    Worker → Option StatAdd → Worker → Prop where
  | bind (worker : Worker) (answer : Except ErrorKind Unit) (stage : worker.point = .binding) :
      BlastStep endian size pps seed running worker none { worker with point := .called .connecting answer }
  | connect (worker : Worker) (answer : Except ErrorKind Unit) (stage : worker.point = .connecting) :
      BlastStep endian size pps seed running worker none { worker with point := .called .building answer }
  | build (worker : Worker) (stage : worker.point = .building) :
      BlastStep endian size pps seed running worker none { worker with point := .built seed (InitialTemplate.new size) }
  | check (worker : Worker) (locals : Locals) (stage : worker.point = .checking locals) :
      BlastStep endian size pps seed running worker none { worker with point := .checked locals running }
  | send (worker : Worker) (locals : Locals) (index : Nat) (outcome : SendOutcome) (stage : worker.point = .sending locals index) :
      BlastStep endian size pps seed running worker none
        (worker.send locals index outcome (locals.template.randomizeDcid endian locals.rng))
  | book (worker : Worker) (locals : Locals) (index bytes : Nat) (stage : worker.point = .booking locals index bytes) :
      BlastStep endian size pps seed running worker (some ⟨.sent, 1⟩) { worker with point := .sizing locals index bytes }
  | size (worker : Worker) (locals : Locals) (index bytes : Nat) (stage : worker.point = .sizing locals index bytes) :
      BlastStep endian size pps seed running worker (some ⟨.bytes, bytes⟩) { worker with point := .turn locals index }
  | fail (worker : Worker) (locals : Locals) (index : Nat) (stage : worker.point = .failing locals index) :
      BlastStep endian size pps seed running worker (some ⟨.errors, 1⟩) { worker with point := .turn locals index }
  | pace (worker : Worker) (locals : Locals) (stage : worker.point = .pacing locals) :
      BlastStep endian size pps seed running worker none { worker with point := .paced pps locals }

-- What blast adds to the counters for the sends it has made.
def books (tried : List (List UInt8 × SendOutcome)) : List StatAdd :=
  tried.flatMap (fun attempt =>
    match attempt.2 with
    | .accepted => [⟨.sent, 1⟩, ⟨.bytes, attempt.1.length⟩]
    | .failed _ => [⟨.errors, 1⟩])

def BlastPoint.owed : BlastPoint → List StatAdd
  | .booking _ _ bytes => [⟨.sent, 1⟩, ⟨.bytes, bytes⟩]
  | .sizing _ _ bytes => [⟨.bytes, bytes⟩]
  | .failing _ _ => [⟨.errors, 1⟩]
  | _ => []

section Worker

variable (endian : Endian) (size : Nat) (pps seed : UInt64)

-- The loop is so many sends past its last whole batch, with the generator
-- three draws on for each send.
structure InBatch (tried : List (List UInt8 × SendOutcome)) (locals : Locals) (past : Nat) : Prop where
  template : ∃ dcid, locals.template = layout size dcid
  rng : locals.rng = advanced seed (3 * tried.length)
  count : tried.length = locals.sent.toNat + past
  whole : batch ∣ locals.sent.toNat

-- A thread panics where its count of datagrams overflows or, at one packet per
-- second, where the time for them reaches 2^64 seconds.
inductive PointSound (tried : List (List UInt8 × SendOutcome)) : BlastPoint → Prop where
  | binding (unsent : tried = []) : PointSound tried .binding
  | connecting (unsent : tried = []) : PointSound tried .connecting
  | building (unsent : tried = []) : PointSound tried .building
  | checking (locals : Locals) (inBatch : InBatch size seed tried locals 0) : PointSound tried (.checking locals)
  | sending (locals : Locals) (index : Nat) (bound : index < batch) (inBatch : InBatch size seed tried locals index) :
      PointSound tried (.sending locals index)
  | booking (locals : Locals) (index bytes : Nat) (bound : index < batch)
      (inBatch : InBatch size seed tried locals (index + 1)) : PointSound tried (.booking locals index bytes)
  | sizing (locals : Locals) (index bytes : Nat) (bound : index < batch)
      (inBatch : InBatch size seed tried locals (index + 1)) : PointSound tried (.sizing locals index bytes)
  | failing (locals : Locals) (index : Nat) (bound : index < batch) (inBatch : InBatch size seed tried locals (index + 1)) :
      PointSound tried (.failing locals index)
  | pacing (locals : Locals) (inBatch : InBatch size seed tried locals 0) : PointSound tried (.pacing locals)
  | stopped (whole : batch ∣ tried.length) : PointSound tried (.returned (.ok ()))
  | refused (error : ErrorKind) (unsent : tried = []) : PointSound tried (.returned (.error (.io error)))
  | overflowed (many : UInt64.size ≤ tried.length) : PointSound tried (.panicked .overflow)
  | late (panic : Panic) (slow : pps = 1) (many : 2 ^ 64 - 1024 ≤ tried.length) : PointSound tried (.panicked panic)

structure BlastSound (worker : Worker) (posted : List StatAdd) : Prop where
  stream : ∀ (index : Nat) (attempt : List UInt8 × SendOutcome), worker.tried[index]? = some attempt →
    attempt.1 = (layout size (dcidAfter endian seed (3 * index))).bytes
  booked : posted ++ worker.point.owed = books worker.tried
  point : PointSound size pps seed worker.tried worker.point

theorem blast_start : BlastSound endian size pps seed Worker.start [] :=
  ⟨by simp [Worker.start], rfl, .binding rfl⟩

theorem turn_sound (tried : List (List UInt8 × SendOutcome)) (locals : Locals) (index : Nat) (bound : index < batch)
    (inBatch : InBatch size seed tried locals (index + 1)) : PointSound size pps seed tried (.turn locals index) := by
  unfold BlastPoint.turn
  by_cases more : index + 1 < batch
  · rw [if_pos more]
    exact .sending locals (index + 1) more inBatch
  · have last : index + 1 = 64 := by
      simp only [batch] at bound more
      omega
    have amount : (UInt64.ofNat batch).toNat = 64 := rfl
    have count := inBatch.count
    rw [last] at count
    rw [if_neg more, u64Add, amount]
    by_cases room : locals.sent.toNat + 64 < UInt64.size
    · have sum : (locals.sent + UInt64.ofNat batch).toNat = locals.sent.toNat + 64 := by
        rw [UInt64.toNat_add, amount]
        exact Nat.mod_eq_of_lt room
      rw [if_pos room]
      refine .pacing _ ⟨inBatch.template, inBatch.rng, ?_, ?_⟩
      · rw [sum]
        exact count
      · rw [sum]
        exact Nat.dvd_add inBatch.whole (Nat.dvd_refl 64)
    · rw [if_neg room]
      exact .overflowed (by omega)

theorem paced_sound (tried : List (List UInt8 × SendOutcome)) (locals : Locals) (inBatch : InBatch size seed tried locals 0) :
    PointSound size pps seed tried (.paced pps locals) := by
  unfold BlastPoint.paced
  split
  · rename_i paced
    split
    · exact .checking locals inBatch
    · rename_i panic failed
      have nonzero : pps ≠ 0 := by
        rintro rfl
        exact absurd paced (by decide)
      obtain ⟨slow, many⟩ := (quotient_delay_iff locals.sent pps nonzero).mp ⟨panic, failed⟩
      exact .late panic slow (by rw [inBatch.count]; exact many)
  · exact .checking locals inBatch

theorem paced_owes_nothing (locals : Locals) : (BlastPoint.paced pps locals).owed = [] := by
  unfold BlastPoint.paced
  split
  · split <;> rfl
  · rfl

theorem turn_owes_nothing (locals : Locals) (index : Nat) : (BlastPoint.turn locals index).owed = [] := by
  unfold BlastPoint.turn
  split
  · rfl
  · split <;> rfl

theorem send_sound (worker : Worker) (locals : Locals) (index : Nat) (outcome : SendOutcome) (posted : List StatAdd)
    (sound : BlastSound endian size pps seed worker posted) (stage : worker.point = .sending locals index) :
    BlastSound endian size pps seed (worker.send locals index outcome (locals.template.randomizeDcid endian locals.rng)) posted := by
  obtain ⟨stream, booked, point⟩ := sound
  rw [stage] at point booked
  cases point with
  | sending _ _ bound inBatch =>
      obtain ⟨dcid, laid⟩ := inBatch.template
      rw [laid, inBatch.rng, randomize_layout]
      simp only [BlastPoint.owed, List.append_nil] at booked
      refine ⟨?_, ?_, ?_⟩
      · intro position attempt found
        simp only [Worker.send] at found
        by_cases earlier : position < worker.tried.length
        · rw [List.getElem?_append_left earlier] at found
          exact stream position attempt found
        · have inside := (List.getElem?_eq_some_iff.mp found).1
          have last : position = worker.tried.length := by
            simp only [List.length_append, List.length_singleton] at inside
            omega
          rw [last, List.getElem?_concat_length, Option.some.injEq] at found
          rw [last, ← found]
      · cases outcome <;> simp [Worker.send, BlastPoint.sent, BlastPoint.owed, books, booked]
      · have next : InBatch size seed (worker.tried ++ [((layout size (dcidAfter endian seed (3 * worker.tried.length))).bytes,
            outcome)])
            { locals with
              template := layout size (dcidAfter endian seed (3 * worker.tried.length))
              rng := advanced seed (3 * worker.tried.length + 3) } (index + 1) := by
          refine ⟨⟨_, rfl⟩, ?_, ?_, inBatch.whole⟩
          · simp [Nat.mul_add]
          · have count := inBatch.count
            simp only [List.length_append, List.length_singleton]
            omega
        cases outcome with
        | accepted => exact .booking _ _ _ bound next
        | failed error => exact .failing _ _ bound next

theorem silent_sound (worker : Worker) (next : BlastPoint) (posted : List StatAdd)
    (sound : BlastSound endian size pps seed worker posted) (settled : worker.point.owed = []) (owes : next.owed = [])
    (point : PointSound size pps seed worker.tried next) :
    BlastSound endian size pps seed { worker with point := next } (posted ++ (none : Option StatAdd).toList) := by
  refine ⟨sound.stream, ?_, point⟩
  simpa [settled, owes] using sound.booked

theorem posting_sound (worker : Worker) (next : BlastPoint) (entry : StatAdd) (posted : List StatAdd)
    (sound : BlastSound endian size pps seed worker posted) (owes : worker.point.owed = entry :: next.owed)
    (point : PointSound size pps seed worker.tried next) :
    BlastSound endian size pps seed { worker with point := next } (posted ++ (some entry).toList) := by
  refine ⟨sound.stream, ?_, point⟩
  simpa [owes] using sound.booked

theorem blast_step_sound (template : InitialTemplate) (built : InitialTemplate.new size = .ok (.ok template)) (running : Bool)
    (worker after : Worker) (entry : Option StatAdd) (posted : List StatAdd)
    (sound : BlastSound endian size pps seed worker posted)
    (step : BlastStep endian size pps seed running worker entry after) :
    BlastSound endian size pps seed after (posted ++ entry.toList) := by
  have point := sound.point
  cases step with
  | bind answer stage =>
      rw [stage] at point
      cases point with
      | binding unsent =>
          refine silent_sound endian size pps seed worker _ posted sound (by rw [stage]; rfl) ?_ ?_
          · cases answer <;> rfl
          · cases answer with
            | ok => exact .connecting unsent
            | error error => exact .refused error unsent
  | connect answer stage =>
      rw [stage] at point
      cases point with
      | connecting unsent =>
          refine silent_sound endian size pps seed worker _ posted sound (by rw [stage]; rfl) ?_ ?_
          · cases answer <;> rfl
          · cases answer with
            | ok => exact .building unsent
            | error error => exact .refused error unsent
  | build stage =>
      rw [stage] at point
      cases point with
      | building unsent =>
          obtain ⟨_, _, laid⟩ := new_ok size template built
          have start : (⟨seed⟩ : SplitMix64) = advanced seed 0 := by simp [advanced]
          rw [built]
          refine silent_sound endian size pps seed worker _ posted sound (by rw [stage]; rfl) rfl (.checking _ ⟨⟨_, laid⟩, ?_, ?_, ?_⟩)
          · simpa [unsent] using start
          · simp [unsent]
          · exact Nat.dvd_zero batch
  | check locals stage =>
      rw [stage] at point
      cases point with
      | checking _ inBatch =>
          cases running with
          | true =>
              exact silent_sound endian size pps seed worker _ posted sound (by rw [stage]; rfl) rfl
                (.sending locals 0 (by decide) inBatch)
          | false =>
              exact silent_sound endian size pps seed worker _ posted sound (by rw [stage]; rfl) rfl
                (.stopped (inBatch.count ▸ inBatch.whole))
  | send locals index outcome stage =>
      rw [Option.toList_none, List.append_nil]
      exact send_sound endian size pps seed worker locals index outcome posted sound stage
  | book locals index bytes stage =>
      rw [stage] at point
      cases point with
      | booking _ _ _ bound inBatch =>
          exact posting_sound endian size pps seed worker _ _ posted sound (by rw [stage]; rfl) (.sizing _ _ _ bound inBatch)
  | size locals index bytes stage =>
      rw [stage] at point
      cases point with
      | sizing _ _ _ bound inBatch =>
          exact posting_sound endian size pps seed worker _ _ posted sound (by rw [stage, turn_owes_nothing]; rfl)
            (turn_sound size pps seed _ locals index bound inBatch)
  | fail locals index stage =>
      rw [stage] at point
      cases point with
      | failing _ _ bound inBatch =>
          exact posting_sound endian size pps seed worker _ _ posted sound (by rw [stage, turn_owes_nothing]; rfl)
            (turn_sound size pps seed _ locals index bound inBatch)
  | pace locals stage =>
      rw [stage] at point
      cases point with
      | pacing _ inBatch =>
          exact silent_sound endian size pps seed worker _ posted sound (by rw [stage]; rfl) (paced_owes_nothing pps locals)
            (paced_sound size pps seed _ locals inBatch)

end Worker

end Pktauth.Blaster
