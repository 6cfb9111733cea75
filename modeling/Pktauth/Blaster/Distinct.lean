import Pktauth.Lib.Word
import Pktauth.Blaster.Blasted

set_option autoImplicit false

namespace Pktauth.Blaster

open Rust Auth

-- Both multipliers are odd, and each xor-shift can be undone from the top bit
-- downwards.
theorem mix_injective : Function.Injective mix := by
  have first := Word.xor_shift_injective 30 (by decide) (by decide)
  have firstFactor := Word.mul_injective 0xbf58476d1ce4e5b9 0x96de1b173f119089 (by decide)
  have second := Word.xor_shift_injective 27 (by decide) (by decide)
  have secondFactor := Word.mul_injective 0x94d049bb133111eb 0x319642b2d24d8ec3 (by decide)
  have third := Word.xor_shift_injective 31 (by decide) (by decide)
  intro a b same
  apply first
  apply firstFactor
  apply second
  apply secondFactor
  exact third same

theorem tripled_gamma (index : Nat) : UInt64.ofNat (3 * index) * gamma = UInt64.ofNat index * (3 * gamma) := by
  rw [UInt64.ofNat_mul, UInt64.mul_comm (UInt64.ofNat 3), UInt64.mul_assoc]
  rfl

theorem drawn_from (seed : UInt64) (used more : Nat) :
    drawn seed (used + more) = mix (seed + UInt64.ofNat used * gamma + UInt64.ofNat more * gamma) := by
  rw [drawn, UInt64.ofNat_add, UInt64.add_mul, UInt64.add_assoc]

-- A connection ID is a function of the generator state it was drawn from, and
-- its first eight bytes give the state back.
theorem dcid_after_eq_iff (endian : Endian) (seed seed' : UInt64) (used used' : Nat) :
    dcidAfter endian seed used = dcidAfter endian seed' used' ↔
      seed + UInt64.ofNat used * gamma = seed' + UInt64.ofNat used' * gamma := by
  constructor
  · intro same
    obtain ⟨firstWords, _⟩ := List.append_inj (congrArg Subtype.val same) (by simp)
    have states := u64_ne_bytes_injective endian _ _ firstWords
    rw [drawn_from, drawn_from] at states
    exact (UInt64.add_left_inj _).mp (mix_injective states)
  · intro same
    apply sized_ext
    simp only [dcidAfter, drawn_from, same]

-- The ID the template holds after so many further packets of a worker: what
-- goes out as the worker's packet with this index.
def InitialTemplate.dcid (template : InitialTemplate) : Option (List UInt8) :=
  sliceGet template.bytes template.dcidOffset (template.dcidOffset + tokenLen)

def blastedDcid (endian : Endian) (template : InitialTemplate) (seed : UInt64) (index : Nat) : Exec (Option (List UInt8)) := do
  let (template, _) ← randomizeTimes endian (index + 1) template ⟨seed⟩
  .ok template.dcid

-- The seeds main hands to its workers, one draw for each.
def workerSeeds : Nat → SplitMix64 → List UInt64
  | 0, _ => []
  | threads + 1, seed =>
      let (word, seed) := seed.next
      word :: workerSeeds threads seed

def seedSource : SplitMix64 := ⟨0x243f6a8885a308d3⟩

theorem layout_dcid (size : Nat) (dcid : Sized UInt8 20) : (layout size dcid).dcid = some dcid.val :=
  layout_field size dcid

theorem blasted_dcid_eq (endian : Endian) (size : Nat) (template : InitialTemplate)
    (built : InitialTemplate.new size = .ok (.ok template)) (seed : UInt64) (index : Nat) :
    blastedDcid endian template seed index = .ok (some (dcidAfter endian seed (3 * index)).val) := by
  simp only [blastedDcid, blasted_packet endian size template built, exec_bind_ok, layout_dcid]

theorem worker_seeds_get (threads used index : Nat) (start : UInt64) (bound : index < threads) :
    (workerSeeds threads (advanced start used))[index]? = some (drawn start (used + index + 1)) := by
  induction threads generalizing used index with
  | zero => omega
  | succ threads ih =>
      rw [workerSeeds, advanced_next]
      cases index with
      | zero => rfl
      | succ index =>
          have rest := ih (used + 1) index (by omega)
          rw [Nat.add_right_comm used 1 index] at rest
          exact rest

theorem worker_seeds_length (threads : Nat) (seed : SplitMix64) : (workerSeeds threads seed).length = threads := by
  induction threads generalizing seed with
  | zero => rfl
  | succ threads ih => simp only [workerSeeds, List.length_cons, ih]

theorem worker_seeds_distinct (threads i j : Nat) (small : threads < UInt64.size) (seed : UInt64)
    (first : (workerSeeds threads seedSource)[i]? = some seed)
    (second : (workerSeeds threads seedSource)[j]? = some seed) : i = j := by
  obtain ⟨boundI, _⟩ := List.getElem?_eq_some_iff.mp first
  obtain ⟨boundJ, _⟩ := List.getElem?_eq_some_iff.mp second
  rw [worker_seeds_length] at boundI boundJ
  have start : seedSource = advanced seedSource.state 0 := by simp [advanced]
  rw [start, worker_seeds_get threads 0 i _ boundI, Option.some.injEq] at first
  rw [start, worker_seeds_get threads 0 j _ boundJ, Option.some.injEq] at second
  have same := first.trans second.symm
  rw [Nat.zero_add, Nat.zero_add, drawn_from, drawn_from] at same
  have states := (UInt64.add_left_inj _).mp (mix_injective same)
  exact Word.index_injective gamma 0xf1de83e19937733d (by decide) i j (by omega) (by omega) ((UInt64.add_right_inj _).mp states)

theorem blasted_dcid_eq_iff (endian : Endian) (size size' : Nat) (template template' : InitialTemplate)
    (built : InitialTemplate.new size = .ok (.ok template)) (built' : InitialTemplate.new size' = .ok (.ok template'))
    (seed seed' : UInt64) (k l : Nat) :
    blastedDcid endian template seed k = blastedDcid endian template' seed' l ↔
      seed + UInt64.ofNat (3 * k) * gamma = seed' + UInt64.ofNat (3 * l) * gamma := by
  rw [blasted_dcid_eq endian size template built, blasted_dcid_eq endian size' template' built', ← dcid_after_eq_iff endian]
  simp only [Except.ok.injEq, Option.some.injEq, Subtype.val_inj]

theorem blasted_dcids_repeat_with_state (endian : Endian) (size size' : Nat) (template template' : InitialTemplate)
    (built : InitialTemplate.new size = .ok (.ok template)) (built' : InitialTemplate.new size' = .ok (.ok template')) :
    (∀ (seed : UInt64) (k : Nat), ∃ dcid : Sized UInt8 20, blastedDcid endian template seed k = .ok (some dcid.val)) ∧
    (∀ (seed seed' : UInt64) (k l : Nat),
      blastedDcid endian template seed k = blastedDcid endian template' seed' l ↔
        seed + UInt64.ofNat (3 * k) * gamma = seed' + UInt64.ofNat (3 * l) * gamma) ∧
    (∀ (seed : UInt64) (k l : Nat), k < UInt64.size → l < UInt64.size → k ≠ l →
      blastedDcid endian template seed k ≠ blastedDcid endian template seed l) ∧
    (∀ (threads i j : Nat) (seed seed' : UInt64), threads < UInt64.size → i ≠ j →
      (workerSeeds threads seedSource)[i]? = some seed → (workerSeeds threads seedSource)[j]? = some seed' →
      ∀ k, blastedDcid endian template seed k ≠ blastedDcid endian template' seed' k) := by
  refine ⟨?_, blasted_dcid_eq_iff endian size size' template template' built built', ?_, ?_⟩
  · intro seed k
    exact ⟨_, blasted_dcid_eq endian size template built seed k⟩
  · intro seed k l smallK smallL different same
    rw [blasted_dcid_eq_iff endian size size template template built built, UInt64.add_right_inj, tripled_gamma,
      tripled_gamma] at same
    exact different (Word.index_injective (3 * gamma) 0x509f814b33127bbf (by decide) k l smallK smallL same)
  · intro threads i j seed seed' small different first second k same
    rw [blasted_dcid_eq_iff endian size size' template template' built built', UInt64.add_left_inj] at same
    exact different (worker_seeds_distinct threads i j small seed first (same ▸ second))

theorem blasted_dcids_repeat_with_state_sample :
    ∃ template, InitialTemplate.new 1200 = .ok (.ok template) ∧
      blastedDcid .little template firstSeed 0 ≠ blastedDcid .little template firstSeed 10000 := by
  have built := new_fits 1200 (by decide) (by decide)
  exact ⟨_, built, (blasted_dcids_repeat_with_state .little 1200 1200 _ _ built built).2.2.1 firstSeed 0 10000 (by decide)
    (by decide) (by decide)⟩

end Pktauth.Blaster
