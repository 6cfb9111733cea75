import Mathlib.Algebra.Order.BigOperators.Group.List
import Mathlib.Algebra.Order.Ring.Nat
import Pktauth.Lib.Sequence
import Pktauth.Rust.Float
import Pktauth.Rust.Slice

set_option autoImplicit false

namespace Rust

def maxNanos : Nat := 18446744073709551615 * 1000000000 + 999999999

-- std::time::Duration: whole seconds in a u64 and nanoseconds below one
-- second, kept as the one number of nanoseconds they stand for.
structure Duration where
  nanos : Nat
  bounded : nanos ≤ maxNanos
deriving DecidableEq

def totalNanos (durations : List Duration) : Nat := (durations.map Duration.nanos).sum

def Duration.sum (durations : List Duration) : Exec Duration :=
  if bounded : totalNanos durations ≤ maxNanos then .ok ⟨totalNanos durations, bounded⟩
  else .error (.expect "overflow in iter::sum over durations")

def Duration.div (duration : Duration) (divisor : UInt32) : Exec Duration :=
  if divisor = 0 then .error (.expect "divide by zero error when dividing duration by scalar")
  else .ok ⟨duration.nanos / divisor.toNat, Nat.le_trans (Nat.div_le_self _ _) duration.bounded⟩

-- Duration::from_secs_f64, for seconds that are not negative: rounded to the
-- nearest nanosecond, with a panic from 2^64 seconds on.
def Duration.fromSecsF64 (secs : ℚ) : Exec Duration :=
  let nanos := (nearest (secs * 1000000000)).toNat
  if bounded : nanos ≤ maxNanos then .ok ⟨nanos, bounded⟩
  else .error (.expect "cannot convert float seconds to Duration: value is either too big or NaN")

-- iter().min() keeps the first of equal elements, iter().max() the last.
def minimum : List Duration → Option Duration
  | [] => none
  | first :: rest => some (rest.foldl (fun least next => if next.nanos < least.nanos then next else least) first)

def maximum : List Duration → Option Duration
  | [] => none
  | first :: rest => some (rest.foldl (fun greatest next => if greatest.nanos ≤ next.nanos then next else greatest) first)

-- Arithmetic on a u64, which panics on overflow.
def u64Add (a b : UInt64) : Exec UInt64 := if a.toNat + b.toNat < UInt64.size then .ok (a + b) else .error .overflow

def u64Sub (a b : UInt64) : Exec UInt64 := if b ≤ a then .ok (a - b) else .error .overflow

theorem minimum_spec (durations : List Duration) (nonempty : durations ≠ []) :
    ∃ least, minimum durations = some least ∧ ∀ duration ∈ durations, least.nanos ≤ duration.nanos := by
  cases durations with
  | nil => exact absurd rfl nonempty
  | cons first rest =>
      refine ⟨_, rfl, ?_⟩
      apply Sequence.fold_bound _ (fun a b : Duration => a.nanos ≤ b.nanos)
      · exact fun a => Nat.le_refl a.nanos
      · exact fun a b c => Nat.le_trans
      all_goals
        intro a b
        split <;> omega

theorem maximum_spec (durations : List Duration) (nonempty : durations ≠ []) :
    ∃ greatest, maximum durations = some greatest ∧ ∀ duration ∈ durations, duration.nanos ≤ greatest.nanos := by
  cases durations with
  | nil => exact absurd rfl nonempty
  | cons first rest =>
      refine ⟨_, rfl, ?_⟩
      apply Sequence.fold_bound _ (fun a b : Duration => b.nanos ≤ a.nanos)
      · exact fun a => Nat.le_refl a.nanos
      · exact fun a b c first second => Nat.le_trans second first
      all_goals
        intro a b
        split <;> omega

theorem total_at_least (durations : List Duration) (least : Nat) (bound : ∀ duration ∈ durations, least ≤ duration.nanos) :
    durations.length * least ≤ totalNanos durations := by
  simpa [totalNanos] using List.card_nsmul_le_sum (durations.map Duration.nanos) least (by simpa using bound)

theorem total_at_most (durations : List Duration) (greatest : Nat) (bound : ∀ duration ∈ durations, duration.nanos ≤ greatest) :
    totalNanos durations ≤ durations.length * greatest := by
  simpa [totalNanos] using List.sum_le_card_nsmul (durations.map Duration.nanos) greatest (by simpa using bound)

theorem sum_eq (durations : List Duration) (bounded : totalNanos durations ≤ maxNanos) :
    Duration.sum durations = .ok ⟨totalNanos durations, bounded⟩ := by
  rw [Duration.sum, dif_pos bounded]

theorem div_eq (duration : Duration) (divisor : UInt32) (nonzero : divisor ≠ 0) :
    ∃ quotient, duration.div divisor = .ok quotient ∧ quotient.nanos = duration.nanos / divisor.toNat := by
  rw [Duration.div, if_neg nonzero]
  exact ⟨_, rfl, rfl⟩

theorem u64_add_one (word limit : UInt64) (below : word < limit) :
    u64Add word 1 = .ok (word + 1) ∧ (word + 1).toNat = word.toNat + 1 := by
  have order : word.toNat < limit.toNat := below
  have bound : limit.toNat < UInt64.size := limit.toNat_lt
  have room : word.toNat + (1 : UInt64).toNat < UInt64.size := by
    simp only [UInt64.reduceToNat]
    omega
  constructor
  · rw [u64Add, if_pos room]
  · rw [UInt64.toNat_add, Nat.mod_eq_of_lt room]
    rfl

theorem from_secs_ok (secs : ℚ) (small : secs ≤ 2 ^ 64 - 1) : ∃ duration, Duration.fromSecsF64 secs = .ok duration := by
  have near := (nearest_bounds (secs * 1000000000)).2
  have below : (nearest (secs * 1000000000) : ℚ) ≤ ((maxNanos : ℤ) : ℚ) := by
    have top : ((maxNanos : ℤ) : ℚ) = (2 ^ 64 - 1) * 1000000000 + 999999999 := by
      norm_num [maxNanos]
    linarith
  have bounded : (nearest (secs * 1000000000)).toNat ≤ maxNanos := Int.toNat_le.mpr (by exact_mod_cast below)
  exact ⟨⟨_, bounded⟩, dif_pos bounded⟩

theorem from_secs_late : ∃ panic, Duration.fromSecsF64 (2 ^ 64) = .error panic := by
  have nanos : nearest ((2 : ℚ) ^ 64 * 1000000000) = 2 ^ 64 * 1000000000 := by
    have whole : (2 : ℚ) ^ 64 * 1000000000 = ((2 ^ 64 * 1000000000 : ℤ) : ℚ) := by norm_num
    rw [whole, nearest_int]
  exact ⟨_, dif_neg (by rw [nanos]; decide)⟩

theorem quotient_delay_iff (a b : UInt64) (positive : b ≠ 0) :
    (∃ panic, Duration.fromSecsF64 (f64Div (asF64 a) (asF64 b)) = .error panic) ↔ b = 1 ∧ 2 ^ 64 - 1024 ≤ a.toNat := by
  constructor
  · rintro ⟨panic, failed⟩
    by_contra early
    have small := quotient_bound a b positive early
    obtain ⟨duration, built⟩ := from_secs_ok _ small
    rw [built] at failed
    cases failed
  · rintro ⟨rfl, late⟩
    rw [late_quotient a late]
    exact from_secs_late

end Rust
