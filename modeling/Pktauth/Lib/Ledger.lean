import Mathlib.Algebra.BigOperators.Group.Finset.Piecewise
import Mathlib.Algebra.Ring.Nat
import Mathlib.Data.Fintype.Basic
import Pktauth.Lib.Run

set_option autoImplicit false

-- Threads that post updates to cells they share, and whatever else of the
-- program runs beside them and reads the cells. The log is what was posted, in
-- the order in which the cells saw it.
structure Ledger (ι σ α κ γ : Type) where
  writers : ι → σ
  cells : κ
  others : γ
  log : List (ι × α)

namespace Ledger

section Posted

variable {ι α : Type} [DecidableEq ι]

def posted (i : ι) (log : List (ι × α)) : List α := (log.filter (fun entry => entry.1 = i)).map Prod.snd

theorem posted_own (i : ι) (entry : α) (log : List (ι × α)) : posted i (log ++ [(i, entry)]) = posted i log ++ [entry] := by
  simp [posted]

theorem posted_other (i other : ι) (entry : α) (log : List (ι × α)) (different : i ≠ other) :
    posted other (log ++ [(i, entry)]) = posted other log := by
  simp [posted, different]

-- Every entry was posted by exactly one of the writers.
theorem total_posted [Fintype ι] (amount : α → Nat) (log : List (ι × α)) :
    ((log.map Prod.snd).map amount).sum = ∑ i, ((posted i log).map amount).sum := by
  induction log with
  | nil => simp [posted]
  | cons entry log ih =>
      have first (i : ι) : ((posted i (entry :: log)).map amount).sum =
          (if entry.1 = i then amount entry.2 else 0) + ((posted i log).map amount).sum := by
        by_cases own : entry.1 = i
        · simp [posted, own]
        · simp [posted, own]
      simp only [first, Finset.sum_add_distrib, Finset.sum_ite_eq, Finset.mem_univ, if_true, ← ih, List.map_cons, List.sum_cons]

end Posted

section Interleaving

variable {ι σ α κ γ : Type} [DecidableEq ι] (apply : κ → α → κ) (Write : γ → ι → σ → Option α → σ → Prop)
  (Move : (ι → σ) → κ → γ → γ → Prop)

def entries (ledger : Ledger ι σ α κ γ) : List α := ledger.log.map Prod.snd

inductive Step : Ledger ι σ α κ γ → Ledger ι σ α κ γ → Prop where
  | work (ledger : Ledger ι σ α κ γ) (i : ι) (next : σ) (works : Write ledger.others i (ledger.writers i) none next) :
      Step ledger { ledger with writers := Function.update ledger.writers i next }
  | post (ledger : Ledger ι σ α κ γ) (i : ι) (entry : α) (next : σ)
      (posts : Write ledger.others i (ledger.writers i) (some entry) next) :
      Step ledger
        { ledger with
          writers := Function.update ledger.writers i next
          cells := apply ledger.cells entry
          log := ledger.log ++ [(i, entry)] }
  | move (ledger : Ledger ι σ α κ γ) (next : γ) (moves : Move ledger.writers ledger.cells ledger.others next) :
      Step ledger { ledger with others := next }

variable (start : Ledger ι σ α κ γ) (empty : start.log = [])

include empty

-- No update is lost, whoever else was posting.
theorem cells_posted (ledger : Ledger ι σ α κ γ) (reach : Relation.ReflTransGen (Step apply Write Move) start ledger) :
    ledger.cells = ledger.entries.foldl apply start.cells := by
  refine Run.invariant (Step apply Write Move) (fun ledger => ledger.cells = ledger.entries.foldl apply start.cells) start
    (by simp [entries, empty]) ?_ ledger reach
  intro before after holds step
  cases step with
  | work i next works => exact holds
  | post i entry next posts => simpa [entries] using congrArg (fun cells => apply cells entry) holds
  | move next moves => exact holds

-- What each writer keeps true of itself and of its own entries holds in every
-- interleaving.
theorem writers_keep (Inv : ι → σ → List α → Prop) (initial : ∀ i, Inv i (start.writers i) [])
    (kept : ∀ others i before entry after sofar, Inv i before sofar → Write others i before entry after →
      Inv i after (sofar ++ entry.toList)) (ledger : Ledger ι σ α κ γ)
    (reach : Relation.ReflTransGen (Step apply Write Move) start ledger) (i : ι) :
    Inv i (ledger.writers i) (posted i ledger.log) := by
  refine Run.invariant (Step apply Write Move) (fun ledger => ∀ i, Inv i (ledger.writers i) (posted i ledger.log)) start
    (by simpa [posted, empty] using initial) ?_ ledger reach i
  intro before after holds step
  cases step with
  | work i next works =>
      intro other
      by_cases own : other = i
      · subst own
        simpa using kept _ _ _ _ _ _ (holds other) works
      · simpa [own] using holds other
  | post i entry next posts =>
      intro other
      by_cases own : other = i
      · subst own
        simpa [posted_own] using kept _ _ _ _ _ _ (holds other) posts
      · simpa [own, posted_other i other entry before.log (Ne.symm own)] using holds other
  | move next moves => exact holds

-- What the others learn from the cells must stay true while entries are added
-- behind it.
theorem others_keep (Inv : γ → List α → Prop) (initial : Inv start.others [])
    (grows : ∀ others sofar entry, Inv others sofar → Inv others (sofar ++ [entry]))
    (kept : ∀ writers others next sofar, Inv others sofar → Move writers (sofar.foldl apply start.cells) others next →
      Inv next sofar) (ledger : Ledger ι σ α κ γ) (reach : Relation.ReflTransGen (Step apply Write Move) start ledger) :
    Inv ledger.others ledger.entries := by
  have both := Run.invariant (Step apply Write Move)
    (fun ledger => ledger.cells = ledger.entries.foldl apply start.cells ∧ Inv ledger.others ledger.entries) start
    (by simpa [entries, empty] using initial) ?_ ledger reach
  · exact both.2
  intro before after holds step
  cases step with
  | work i next works => exact holds
  | post i entry next posts =>
      refine ⟨?_, ?_⟩
      · simpa [entries] using congrArg (fun cells => apply cells entry) holds.1
      · simpa [entries] using grows _ _ entry holds.2
  | move next moves => exact ⟨holds.1, kept _ _ _ _ holds.2 (holds.1 ▸ moves)⟩

end Interleaving

end Ledger
