import Mathlib.Data.List.Basic
import Mathlib.Data.List.Range

set_option autoImplicit false

namespace Sequence

-- The first answers of an endless stream.
def played {α : Type} (stream : Nat → α) (count : Nat) : List α := (List.range count).map stream

theorem played_length {α : Type} (stream : Nat → α) (count : Nat) : (played stream count).length = count := by
  simp [played]

theorem played_succ {α : Type} (stream : Nat → α) (count : Nat) :
    played stream (count + 1) = played stream count ++ [stream count] := by
  simp [played, List.range_succ]

theorem played_get {α : Type} (stream : Nat → α) (count index : Nat) (bound : index < count) :
    (played stream count)[index]? = some (stream index) := by
  simp [played, bound]

theorem played_take {α : Type} (stream : Nat → α) (count index : Nat) (bound : index ≤ count) :
    (played stream count).take index = played stream index := by
  simp [played, ← List.map_take, List.take_range, Nat.min_eq_left bound]

theorem played_front {α : Type} (stream : Nat → α) (count : Nat) (front rest : List α)
    (split : played stream count = front ++ rest) : front = played stream front.length := by
  have bound : front.length ≤ count := by
    rw [← played_length stream count, split, List.length_append]
    omega
  rw [← played_take stream count front.length bound, split, List.take_left]

theorem played_at {α : Type} (stream : Nat → α) (count : Nat) (front rest : List α) (last : α)
    (split : played stream count = front ++ last :: rest) : stream front.length = last := by
  have bound : front.length < count := by
    rw [← played_length stream count, split, List.length_append, List.length_cons]
    omega
  have found := played_get stream count front.length bound
  rw [split, List.getElem?_append_right (Nat.le_refl _), Nat.sub_self, List.getElem?_cons_zero] at found
  exact (Option.some.inj found).symm

theorem take_set_next {α : Type} (list : List α) (index : Nat) (value : α) (bound : index < list.length) :
    (list.set index value).take (index + 1) = list.take index ++ [value] := by
  rw [List.take_add_one, List.take_set_of_le (Nat.le_refl index), List.getElem?_set_self bound]
  rfl

theorem sublist_skip_left {α : Type} (value : α) (rest left right : List α) (absent : value ∉ left)
    (sublist : (value :: rest).Sublist (left ++ right)) : (value :: rest).Sublist right := by
  obtain ⟨first, second, split, inLeft, inRight⟩ := List.sublist_append_iff.mp sublist
  cases first with
  | nil => simpa [split] using inRight
  | cons head tail =>
      rw [List.cons_append, List.cons.injEq] at split
      exact absurd (inLeft.subset (by simp [split.1])) absent

theorem sublist_skip_right {α : Type} (value : α) (rest left right : List α) (absent : value ∉ right)
    (sublist : (rest ++ [value]).Sublist (left ++ right)) : (rest ++ [value]).Sublist left := by
  rw [← List.reverse_sublist] at sublist ⊢
  simp only [List.reverse_append, List.reverse_cons, List.reverse_nil, List.nil_append, List.singleton_append] at sublist ⊢
  exact sublist_skip_left value rest.reverse right.reverse left.reverse (by simpa using absent) sublist

theorem whole_of_initial {α : Type} (before list : List α) (initial : before ++ list <+: list) : before ++ list = list := by
  have bound := initial.length_le
  rw [List.length_append] at bound
  have nothing : before = [] := List.length_eq_zero_iff.mp (by omega)
  rw [nothing, List.nil_append]

-- A fold that always keeps a bound of the two ends in a bound of them all.
theorem fold_bound {α : Type} (pick : α → α → α) (Bounds : α → α → Prop) (refl : ∀ a, Bounds a a)
    (trans : ∀ a b c, Bounds a b → Bounds b c → Bounds a c) (left : ∀ a b, Bounds (pick a b) a)
    (right : ∀ a b, Bounds (pick a b) b) (rest : List α) (first : α) :
    ∀ value ∈ first :: rest, Bounds (rest.foldl pick first) value := by
  induction rest generalizing first with
  | nil =>
      intro value member
      rw [List.mem_singleton.mp member]
      exact refl first
  | cons next rest ih =>
      have picked := ih (pick first next) (pick first next) List.mem_cons_self
      intro value member
      rcases List.mem_cons.mp member with rfl | later
      · exact trans _ _ _ picked (left value next)
      · rcases List.mem_cons.mp later with rfl | last
        · exact trans _ _ _ picked (right first value)
        · exact ih (pick first next) value (List.mem_cons_of_mem _ last)

end Sequence
