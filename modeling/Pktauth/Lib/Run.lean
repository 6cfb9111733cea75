import Mathlib.Logic.Relation

set_option autoImplicit false

namespace Run

-- What one step keeps, a whole run keeps.
theorem invariant {σ : Type} (Step : σ → σ → Prop) (Inv : σ → Prop) (start : σ) (initial : Inv start)
    (kept : ∀ before after, Inv before → Step before after → Inv after) (state : σ)
    (reach : Relation.ReflTransGen Step start state) : Inv state := by
  induction reach with
  | refl => exact initial
  | tail _ step ih => exact kept _ _ ih step

-- Where each step records one event in front of those before it, every event
-- of a run is the step taken from its past.
theorem recorded_step {ε : Type} (Step : List ε → List ε → Prop)
    (records : ∀ before after, Step before after → ∃ event, after = event :: before) (events later earlier : List ε) (event : ε)
    (reach : Relation.ReflTransGen Step [] events) (split : events = later ++ event :: earlier) :
    Relation.ReflTransGen Step [] earlier ∧ Step earlier (event :: earlier) := by
  induction reach generalizing later with
  | refl => simp at split
  | @tail before after run step ih =>
      obtain ⟨last, rfl⟩ := records before after step
      cases later with
      | nil =>
          rw [List.nil_append, List.cons.injEq] at split
          obtain ⟨rfl, rfl⟩ := split
          exact ⟨run, step⟩
      | cons first later =>
          rw [List.cons_append, List.cons.injEq] at split
          exact ih later split.2

theorem indexed {σ : Type} (Step : σ → σ → Prop) (start final : σ) (reach : Relation.ReflTransGen Step start final) :
    ∃ (states : Nat → σ) (count : Nat), states 0 = start ∧ states count = final ∧
      ∀ n < count, Step (states n) (states (n + 1)) := by
  induction reach with
  | refl => exact ⟨fun _ => start, 0, rfl, rfl, nofun⟩
  | @tail before after _ step ih =>
      obtain ⟨states, count, first, last, run⟩ := ih
      have beyond : ¬ count + 1 ≤ count := Nat.not_succ_le_self count
      refine ⟨fun n => if n ≤ count then states n else after, count + 1, by simp [first], by simp [beyond], ?_⟩
      intro n bound
      by_cases inside : n + 1 ≤ count
      · simpa [inside, Nat.le_of_succ_le inside] using run n inside
      · have isLast : n = count := by omega
        simpa [isLast, last, beyond] using step

theorem chained {σ : Type} (Step : σ → σ → Prop) (states : Nat → σ) (count : Nat)
    (run : ∀ n < count, Step (states n) (states (n + 1))) : Relation.ReflTransGen Step (states 0) (states count) := by
  induction count with
  | zero => exact .refl
  | succ count ih => exact (ih (fun n before => run n (by omega))).tail (run count (Nat.lt_succ_self count))

-- A run that loses weight at every step is no longer than its weight at the
-- start, and cannot fail to reach a state without a next one.
section Weight

variable {σ : Type} (Step : σ → σ → Prop) (Inv : σ → Prop) (weight : σ → Nat)
  (kept : ∀ before after, Inv before → Step before after → Inv after)
  (decreases : ∀ before after, Inv before → Step before after → weight after < weight before)

include kept decreases

theorem bounded (states : Nat → σ) (initial : Inv (states 0)) (count : Nat)
    (run : ∀ n < count, Step (states n) (states (n + 1))) :
    Inv (states count) ∧ count + weight (states count) ≤ weight (states 0) := by
  induction count with
  | zero => exact ⟨initial, by omega⟩
  | succ count ih =>
      obtain ⟨holds, earlier⟩ := ih (fun n before => run n (by omega))
      have step := run count (Nat.lt_succ_self count)
      have last := decreases _ _ holds step
      exact ⟨kept _ _ holds step, by omega⟩

theorem completes (start : σ) (initial : Inv start) :
    ∃ final, Relation.ReflTransGen Step start final ∧ ∀ after, ¬ Step final after := by
  induction left : weight start using Nat.strongRecOn generalizing start with
  | _ left ih =>
      by_cases stuck : ∀ after, ¬ Step start after
      · exact ⟨start, .refl, stuck⟩
      · obtain ⟨next, step⟩ := Classical.not_forall_not.mp stuck
        have lighter := decreases start next initial step
        obtain ⟨final, reach, ends⟩ := ih (weight next) (by omega) next (kept start next initial step) rfl
        exact ⟨final, .head step reach, ends⟩

end Weight

end Run
