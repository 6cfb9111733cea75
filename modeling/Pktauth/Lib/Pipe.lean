import Mathlib.Data.List.Basic

set_option autoImplicit false

-- One direction of a reliable stream: bytes arrive in the order in which they
-- were written, in pieces of any size, and the end of the stream after them.
-- The writer may give the stream up at any time, and the reader ask it to stop.
structure Pipe (α : Type) where
  written : List α
  taken : Nat
  finished : Bool
  stopped : Bool
  reset : Bool
  order : taken ≤ written.length

namespace Pipe

inductive Progress (σ ρ : Type) where
  | more (state : σ)
  | answer (result : ρ)

inductive ReadFailure (ε : Type) where
  | tooLong
  | reset
  | lost (error : ε)
deriving DecidableEq

inductive WriteFailure (ε : Type) where
  | stopped
  | lost (error : ε)
deriving DecidableEq

section Operations

variable {α ε : Type}

def empty : Pipe α := ⟨[], 0, false, false, false, Nat.le_refl 0⟩

def unread (pipe : Pipe α) : Nat := pipe.written.length - pipe.taken

def seen (pipe : Pipe α) : List α := pipe.written.take pipe.taken

def drained (pipe : Pipe α) : Prop := pipe.finished = true ∧ pipe.taken = pipe.written.length

-- Nothing is left to do on this direction: all of it was read, or the reader
-- is gone.
def closed (pipe : Pipe α) : Bool := pipe.finished && (pipe.stopped || pipe.taken == pipe.written.length)

def push (pipe : Pipe α) (chunk : List α) : Pipe α :=
  { pipe with
    written := pipe.written ++ chunk
    order := by
      rw [List.length_append]
      exact Nat.le_add_right_of_le pipe.order }

def pull (pipe : Pipe α) (count : Nat) (there : pipe.taken + count ≤ pipe.written.length) : Pipe α :=
  { pipe with taken := pipe.taken + count, order := there }

def next (pipe : Pipe α) (count : Nat) : List α := (pipe.written.drop pipe.taken).take count

def finish (pipe : Pipe α) : Pipe α := { pipe with finished := true }

def stop (pipe : Pipe α) : Pipe α := { pipe with stopped := true }

def abandon (pipe : Pipe α) : Pipe α := { pipe with reset := true }

-- Reading to the end with a limit on what may be buffered. Whatever is still
-- on its way can be read after the stream is reset or the connection lost, or
-- the one or the other reported.
inductive Reads (limit : Nat) (lost : Option ε) :
    List α → Pipe α → Progress (List α) (Except (ReadFailure ε) (List α)) → Pipe α → Prop where
  | chunk (soFar : List α) (pipe : Pipe α) (count : Nat) (nonempty : 0 < count)
      (there : pipe.taken + count ≤ pipe.written.length) (fits : soFar.length + count ≤ limit) :
      Reads limit lost soFar pipe (.more (soFar ++ pipe.next count)) (pipe.pull count there)
  | excess (soFar : List α) (pipe : Pipe α) (count : Nat) (there : pipe.taken + count ≤ pipe.written.length)
      (exceeds : limit < soFar.length + count) :
      Reads limit lost soFar pipe (.answer (.error .tooLong)) (pipe.pull count there)
  | ended (soFar : List α) (pipe : Pipe α) (drained : pipe.drained) :
      Reads limit lost soFar pipe (.answer (.ok soFar)) pipe
  | reset (soFar : List α) (pipe : Pipe α) (abandoned : pipe.reset = true) :
      Reads limit lost soFar pipe (.answer (.error .reset)) pipe
  | lost (soFar : List α) (pipe : Pipe α) (error : ε) (gone : lost = some error) :
      Reads limit lost soFar pipe (.answer (.error (.lost error))) pipe

-- Writing everything, as far as the reader's window has room for it.
inductive Writes (window : Nat) (lost : Option ε) :
    List α → Pipe α → Progress (List α) (Except (WriteFailure ε) Unit) → Pipe α → Prop where
  | chunk (front rest : List α) (pipe : Pipe α) (nonempty : front ≠ []) (connected : lost = none)
      (room : pipe.unread + front.length ≤ window) :
      Writes window lost (front ++ rest) pipe (.more rest) (pipe.push front)
  | done (pipe : Pipe α) : Writes window lost [] pipe (.answer (.ok ())) pipe
  | stopped (rest : List α) (pipe : Pipe α) (refused : pipe.stopped = true) :
      Writes window lost rest pipe (.answer (.error .stopped)) pipe
  | lost (rest : List α) (pipe : Pipe α) (error : ε) (gone : lost = some error) :
      Writes window lost rest pipe (.answer (.error (.lost error))) pipe

@[simp] theorem push_written (pipe : Pipe α) (chunk : List α) : (pipe.push chunk).written = pipe.written ++ chunk := rfl
@[simp] theorem push_taken (pipe : Pipe α) (chunk : List α) : (pipe.push chunk).taken = pipe.taken := rfl
@[simp] theorem push_finished (pipe : Pipe α) (chunk : List α) : (pipe.push chunk).finished = pipe.finished := rfl
@[simp] theorem push_stopped (pipe : Pipe α) (chunk : List α) : (pipe.push chunk).stopped = pipe.stopped := rfl
@[simp] theorem push_reset (pipe : Pipe α) (chunk : List α) : (pipe.push chunk).reset = pipe.reset := rfl

@[simp] theorem pull_written (pipe : Pipe α) (count : Nat) (there : pipe.taken + count ≤ pipe.written.length) :
    (pipe.pull count there).written = pipe.written := rfl
@[simp] theorem pull_taken (pipe : Pipe α) (count : Nat) (there : pipe.taken + count ≤ pipe.written.length) :
    (pipe.pull count there).taken = pipe.taken + count := rfl
@[simp] theorem pull_finished (pipe : Pipe α) (count : Nat) (there : pipe.taken + count ≤ pipe.written.length) :
    (pipe.pull count there).finished = pipe.finished := rfl
@[simp] theorem pull_stopped (pipe : Pipe α) (count : Nat) (there : pipe.taken + count ≤ pipe.written.length) :
    (pipe.pull count there).stopped = pipe.stopped := rfl
@[simp] theorem pull_reset (pipe : Pipe α) (count : Nat) (there : pipe.taken + count ≤ pipe.written.length) :
    (pipe.pull count there).reset = pipe.reset := rfl

@[simp] theorem finish_written (pipe : Pipe α) : pipe.finish.written = pipe.written := rfl
@[simp] theorem finish_taken (pipe : Pipe α) : pipe.finish.taken = pipe.taken := rfl
@[simp] theorem finish_finished (pipe : Pipe α) : pipe.finish.finished = true := rfl
@[simp] theorem finish_stopped (pipe : Pipe α) : pipe.finish.stopped = pipe.stopped := rfl
@[simp] theorem finish_reset (pipe : Pipe α) : pipe.finish.reset = pipe.reset := rfl

@[simp] theorem stop_written (pipe : Pipe α) : pipe.stop.written = pipe.written := rfl
@[simp] theorem stop_taken (pipe : Pipe α) : pipe.stop.taken = pipe.taken := rfl
@[simp] theorem stop_finished (pipe : Pipe α) : pipe.stop.finished = pipe.finished := rfl
@[simp] theorem stop_stopped (pipe : Pipe α) : pipe.stop.stopped = true := rfl
@[simp] theorem stop_reset (pipe : Pipe α) : pipe.stop.reset = pipe.reset := rfl

theorem seen_pull (pipe : Pipe α) (count : Nat) (there : pipe.taken + count ≤ pipe.written.length) :
    (pipe.pull count there).seen = pipe.seen ++ pipe.next count := List.take_add

theorem seen_drained (pipe : Pipe α) (drained : pipe.drained) : pipe.seen = pipe.written := by
  rw [seen, drained.2, List.take_length]

theorem seen_length (pipe : Pipe α) : pipe.seen.length = pipe.taken := List.length_take_of_le pipe.order

theorem next_length (pipe : Pipe α) (count : Nat) (there : pipe.taken + count ≤ pipe.written.length) :
    (pipe.next count).length = count := by
  rw [next, List.length_take, List.length_drop]
  omega

theorem unread_push (pipe : Pipe α) (chunk : List α) : (pipe.push chunk).unread = pipe.unread + chunk.length := by
  have order := pipe.order
  simp only [unread, push_written, push_taken, List.length_append]
  omega

theorem unread_pull (pipe : Pipe α) (count : Nat) (there : pipe.taken + count ≤ pipe.written.length) :
    (pipe.pull count there).unread + count = pipe.unread := by
  simp only [unread, pull_written, pull_taken]
  omega

theorem reads_ready (limit : Nat) (lost : Option ε) (soFar : List α) (pipe : Pipe α)
    (ready : pipe.taken < pipe.written.length ∨ pipe.finished = true) :
    ∃ progress after, Reads limit lost soFar pipe progress after := by
  by_cases waiting : pipe.taken < pipe.written.length
  · by_cases fits : soFar.length + 1 ≤ limit
    · exact ⟨_, _, .chunk soFar pipe 1 Nat.one_pos waiting fits⟩
    · exact ⟨_, _, .excess soFar pipe 1 waiting (by omega)⟩
  · have all : pipe.taken = pipe.written.length := Nat.le_antisymm pipe.order (Nat.le_of_not_lt waiting)
    rcases ready with more | ended
    · exact absurd more waiting
    · exact ⟨_, _, .ended soFar pipe ⟨ended, all⟩⟩

theorem writes_ready (window : Nat) (positive : 0 < window) (rest : List α) (pipe : Pipe α)
    (room : pipe.taken = pipe.written.length ∨ pipe.stopped = true) :
    ∃ progress after, Writes window (none : Option ε) rest pipe progress after := by
  cases rest with
  | nil => exact ⟨_, _, .done pipe⟩
  | cons first rest =>
      rcases room with empty | refused
      · have fits : pipe.unread + [first].length ≤ window := by
          rw [unread, empty, Nat.sub_self, List.length_singleton]
          omega
        exact ⟨_, _, .chunk [first] rest pipe (by simp) rfl fits⟩
      · exact ⟨_, _, .stopped _ pipe refused⟩

-- What the end that writes can do to a pipe, and what the end that reads can.
structure Grows (before after : Pipe α) : Prop where
  written : before.written <+: after.written
  frozen : before.finished = true → after.written = before.written ∧ after.finished = true
  taken : after.taken = before.taken
  stopped : after.stopped = before.stopped
  reset : before.reset = true → after.reset = true

structure Consumed (before after : Pipe α) : Prop where
  written : after.written = before.written
  finished : after.finished = before.finished
  stopped : before.stopped = true → after.stopped = true
  reset : after.reset = before.reset

theorem grows_refl (pipe : Pipe α) : Grows pipe pipe := ⟨List.prefix_refl _, fun ended => ⟨rfl, ended⟩, rfl, rfl, id⟩

theorem grows_push (pipe : Pipe α) (chunk : List α) (unfinished : pipe.finished = false) : Grows pipe (pipe.push chunk) := by
  refine ⟨List.prefix_append _ _, fun ended => ?_, rfl, rfl, id⟩
  rw [unfinished] at ended
  cases ended

theorem grows_finish (pipe : Pipe α) : Grows pipe pipe.finish := ⟨List.prefix_refl _, fun _ => ⟨rfl, rfl⟩, rfl, rfl, id⟩

theorem grows_abandon (pipe : Pipe α) : Grows pipe pipe.abandon :=
  ⟨List.prefix_refl _, fun ended => ⟨rfl, ended⟩, rfl, rfl, fun _ => rfl⟩

theorem writes_grows (window : Nat) (lost : Option ε) (rest : List α) (pipe after : Pipe α)
    (progress : Progress (List α) (Except (WriteFailure ε) Unit)) (unfinished : pipe.finished = false)
    (moved : Writes window lost rest pipe progress after) : Grows pipe after ∧ after.reset = pipe.reset := by
  cases moved with
  | chunk front rest pipe nonempty connected room => exact ⟨grows_push _ front unfinished, rfl⟩
  | done => exact ⟨grows_refl _, rfl⟩
  | stopped rest pipe refused => exact ⟨grows_refl _, rfl⟩
  | lost rest pipe error gone => exact ⟨grows_refl _, rfl⟩

theorem consumed_refl (pipe : Pipe α) : Consumed pipe pipe := ⟨rfl, rfl, id, rfl⟩

theorem consumed_stop (pipe : Pipe α) : Consumed pipe pipe.stop := ⟨rfl, rfl, fun _ => rfl, rfl⟩

theorem reads_consumed (limit : Nat) (lost : Option ε) (soFar : List α) (pipe after : Pipe α)
    (progress : Progress (List α) (Except (ReadFailure ε) (List α))) (moved : Reads limit lost soFar pipe progress after) :
    Consumed pipe after ∧ after.stopped = pipe.stopped := by
  cases moved with
  | chunk count nonempty there fits => exact ⟨⟨rfl, rfl, id, rfl⟩, rfl⟩
  | excess count there exceeds => exact ⟨⟨rfl, rfl, id, rfl⟩, rfl⟩
  | ended drained => exact ⟨consumed_refl _, rfl⟩
  | reset abandoned => exact ⟨consumed_refl _, rfl⟩
  | lost error gone => exact ⟨consumed_refl _, rfl⟩

theorem grows_seen (before after : Pipe α) (grows : Grows before after) : after.seen = before.seen := by
  obtain ⟨more, split⟩ := grows.written
  rw [seen, seen, grows.taken, ← split]
  exact List.take_append_of_le_length before.order

theorem grows_drained (before after : Pipe α) (grows : Grows before after) (drained : before.drained) : after.drained := by
  obtain ⟨same, ended⟩ := grows.frozen drained.1
  exact ⟨ended, by rw [grows.taken, same]; exact drained.2⟩

end Operations

end Pipe
