import Mathlib.Logic.Basic

set_option autoImplicit false

-- A program that asks its environment for one operation after another and
-- goes on with the answer: what an async function is between its awaits.
inductive Routine (Op : Type) (Answer : Op → Type) (α : Type) where
  | done (result : α)
  | call (op : Op) (resume : Answer op → Routine Op Answer α)

namespace Routine

variable {Op : Type} {Answer : Op → Type}

def bind {α β : Type} (routine : Routine Op Answer α) (next : α → Routine Op Answer β) : Routine Op Answer β :=
  match routine with
  | .done result => next result
  | .call op resume => .call op (fun answer => (resume answer).bind next)

instance : Monad (Routine Op Answer) where
  pure := Routine.done
  bind := Routine.bind

-- One operation under the question mark operator: an error is converted and
-- ends the function.
def attempt {α ε : Type} (op : Op) (convert : Answer op → Except ε α) : ExceptT ε (Routine Op Answer) α :=
  ExceptT.mk (.call op (fun answer => .done (convert answer)))

-- The same program with its resumption points named.
inductive Next (Op : Type) (Answer : Op → Type) (α π : Type) where
  | done (result : α)
  | call (op : Op) (resume : Answer op → π)

def Implements {α π : Type} (machine : π → Next Op Answer α π) : Routine Op Answer α → π → Prop
  | .done result, point => machine point = .done result
  | .call op resume, point => ∃ go, machine point = .call op go ∧ ∀ answer, Implements machine (resume answer) (go answer)

theorem implements_attempt {α β ε π : Type} (machine : π → Next Op Answer (Except ε β) π) (op : Op)
    (convert : Answer op → Except ε α) (next : α → ExceptT ε (Routine Op Answer) β) (point : π) (go : Answer op → π)
    (asks : machine point = .call op go)
    (goesOn : ∀ answer value, convert answer = .ok value → Implements machine (next value).run (go answer))
    (fails : ∀ answer error, convert answer = .error error → machine (go answer) = .done (.error error)) :
    Implements machine (attempt op convert >>= next).run point := by
  refine ⟨go, asks, ?_⟩
  intro answer
  cases converted : convert answer with
  | ok value =>
      simp only [Routine.bind, ExceptT.bindCont, converted]
      exact goesOn answer value converted
  | error error =>
      simp only [Routine.bind, ExceptT.bindCont, converted]
      exact fails answer error converted

theorem implements_last {α ε π : Type} (machine : π → Next Op Answer (Except ε α) π) (op : Op)
    (convert : Answer op → Except ε α) (point : π) (go : Answer op → π) (asks : machine point = .call op go)
    (ends : ∀ answer, machine (go answer) = .done (convert answer)) :
    Implements machine (attempt op convert).run point := ⟨go, asks, ends⟩

theorem implements_call {α π : Type} (machine : π → Next Op Answer α π) (routine : Routine Op Answer α) (point : π) (op : Op)
    (go : Answer op → π) (implements : Implements machine routine point) (asks : machine point = .call op go) :
    ∃ resume, routine = .call op resume ∧ ∀ answer, Implements machine (resume answer) (go answer) := by
  cases routine with
  | done result =>
      rw [Implements, asks] at implements
      cases implements
  | call own resume =>
      obtain ⟨ownGo, same, goesOn⟩ := implements
      rw [asks] at same
      cases same
      exact ⟨resume, rfl, goesOn⟩

theorem implements_done {α π : Type} (machine : π → Next Op Answer α π) (routine : Routine Op Answer α) (point : π) (result : α)
    (implements : Implements machine routine point) (ended : machine point = .done result) : routine = .done result := by
  cases routine with
  | done own =>
      rw [Implements, ended] at implements
      cases implements
      rfl
  | call own resume =>
      obtain ⟨ownGo, asks, _⟩ := implements
      rw [ended] at asks
      cases asks

end Routine
