import Pktauth.Auth.Acceptance

set_option autoImplicit false

namespace Pktauth.Blaster

open Rust Auth

structure SplitMix64 where
  state : UInt64
deriving DecidableEq

def gamma : UInt64 := 0x9e3779b97f4a7c15

def mix (z : UInt64) : UInt64 :=
  let z := (z ^^^ (z >>> 30)) * 0xbf58476d1ce4e5b9
  let z := (z ^^^ (z >>> 27)) * 0x94d049bb133111eb
  z ^^^ (z >>> 31)

def SplitMix64.next (rng : SplitMix64) : UInt64 × SplitMix64 :=
  let state := rng.state + gamma
  (mix state, ⟨state⟩)

def minInitialDatagram : Nat := 1200

def packetNumberLen : Nat := 4

structure InitialTemplate where
  bytes : List UInt8
  dcidOffset : Nat
deriving DecidableEq

-- What new pushes before the length field, and where the destination ID went.
def initialPrelude : List UInt8 × Nat :=
  let bytes : List UInt8 := [0xc3] ++ [0, 0, 0, 1]
  let bytes := bytes ++ [UInt8.ofNat tokenLen]
  let dcidOffset := bytes.length
  let bytes := bytes ++ List.replicate tokenLen 0
  let bytes := bytes ++ [UInt8.ofNat tokenLen] ++ List.replicate tokenLen 0x5a
  (bytes ++ [0x00], dcidOffset)

-- Ok and Err are the source's own results; a failed assert is a panic.
def InitialTemplate.new (size : Nat) : Exec (Except String InitialTemplate) :=
  if size < minInitialDatagram then
    .ok (.error (s!"--size must be at least {minInitialDatagram} bytes, the minimum RFC 9000 " ++
      s!"allows for a datagram carrying an Initial packet, got {size}"))
  else if size > 65535 then .ok (.error s!"--size must fit in a UDP datagram, got {size}")
  else do
    let (bytes, dcidOffset) := initialPrelude
    let header ← usizeAdd bytes.length 2
    match checkedSub size header with
    | none => .ok (.error s!"--size {size} is too small to hold an Initial header")
    | some remaining =>
        if remaining > 65535 then .ok (.error s!"--size {size} needs a longer varint than this tool emits")
        else do
          let length := UInt16.ofNat remaining
          assert (length < 0x4000) s!"the length field must fit a 2-byte varint, which {size}-byte datagrams satisfy"
          let bytes := bytes ++ u16ToBeBytes (0x4000 ||| length)
          let bytes := resize (bytes ++ List.replicate packetNumberLen 0) size 0x42
          assert (bytes.length = size) "the assembled template must be exactly the requested datagram size"
          .ok (.ok ⟨bytes, dcidOffset⟩)

-- The loop over dcid.chunks_mut(8): each chunk takes one word, cut to its size.
def fillChunks (endian : Endian) : List (Chunk UInt8) → SplitMix64 → Exec (List UInt8 × SplitMix64)
  | [], rng => .ok ([], rng)
  | chunk :: rest, rng => do
      let (word, rng) := rng.next
      let len := chunk.bytes.length
      let source ← expect "chunks_mut never yields more than 8 bytes" (sliceGet (u64ToNeBytes endian word).val 0 len)
      let written ← copyFromSlice (⟨chunk.bytes, rfl⟩ : Sized UInt8 len) 0 len source
      let (rest, rng) ← fillChunks endian rest rng
      .ok (written.val ++ rest, rng)

def InitialTemplate.randomizeDcid (endian : Endian) (template : InitialTemplate) (rng : SplitMix64) :
    Exec (InitialTemplate × SplitMix64) := do
  let stop ← usizeAdd template.dcidOffset tokenLen
  let dcid ← expect "the template always reserves a full-length connection ID"
    (sliceGet template.bytes template.dcidOffset stop)
  let pieces ← chunks dcid 8
  let (dcid, rng) ← fillChunks endian pieces rng
  let bytes := template.bytes.take template.dcidOffset ++ (dcid ++ template.bytes.drop stop)
  .ok ({ template with bytes := bytes }, rng)

def randomizeTimes (endian : Endian) : Nat → InitialTemplate → SplitMix64 → Exec (InitialTemplate × SplitMix64)
  | 0, template, rng => .ok (template, rng)
  | count + 1, template, rng => do
      let (template, rng) ← template.randomizeDcid endian rng
      randomizeTimes endian count template rng

def initialHeader : Header := .long 0xc3 (by decide) ⟨[0, 0, 0, 1], rfl⟩

def trailer (size : Nat) : List UInt8 :=
  20 :: List.replicate 20 0x5a ++ 0 :: u16ToBeBytes (0x4000 ||| UInt16.ofNat (size - 50)) ++ List.replicate 4 0 ++
    List.replicate (size - 54) 0x42

def layout (size : Nat) (dcid : Sized UInt8 20) : InitialTemplate := ⟨initialHeader.datagram dcid (trailer size), 6⟩

theorem layout_bytes (size : Nat) (dcid : Sized UInt8 20) :
    (layout size dcid).bytes = [0xc3, 0, 0, 0, 1, 20] ++ (dcid.val ++ trailer size) := rfl

theorem layout_field (size : Nat) (dcid : Sized UInt8 20) : sliceGet (layout size dcid).bytes 6 26 = some dcid.val := by
  rw [layout_bytes]
  simpa using slice_get_append [0xc3, 0, 0, 0, 1, 20] dcid.val (trailer size)

theorem initial_prelude_length : initialPrelude.1.length = 48 := rfl

theorem length_assert_iff (size : Nat) (bound : size ≤ 65535) : UInt16.ofNat (size - 50) < 0x4000 ↔ size < 16434 := by
  have narrow : size - 50 < UInt16.size := by
    simp only [UInt16.size]
    omega
  have limit : (0x4000 : UInt16).toNat = 16384 := rfl
  rw [UInt16.lt_iff_toNat_lt, UInt16.toNat_ofNat_of_lt' narrow, limit]
  omega

theorem new_reaches_assert (size : Nat) (low : 1200 ≤ size) (high : size ≤ 65535) :
    InitialTemplate.new size = (do
      assert (UInt16.ofNat (size - 50) < 0x4000)
        s!"the length field must fit a 2-byte varint, which {size}-byte datagrams satisfy"
      .ok (.ok (layout size (filled 20 0)))) := by
  have notSmall : ¬ size < minInitialDatagram := Nat.not_lt_of_le low
  have notLarge : ¬ size > 65535 := Nat.not_lt_of_le high
  have header : usizeAdd initialPrelude.1.length 2 = .ok 50 := rfl
  have remaining : checkedSub size 50 = some (size - 50) := if_pos (by omega)
  have room : (initialPrelude.1 ++ u16ToBeBytes (0x4000 ||| UInt16.ofNat (size - 50)) ++
      List.replicate packetNumberLen 0).length < size := by
    simp only [List.length_append, initial_prelude_length, u16ToBeBytes, List.length_cons, List.length_nil,
      List.length_replicate, packetNumberLen]
    omega
  rw [InitialTemplate.new, if_neg notSmall, if_neg notLarge]
  simp only [header, exec_bind_ok, remaining, if_neg (show ¬ size - 50 > 65535 by omega)]
  congr 1
  funext _
  rw [assert_true _ _ (resize_length _ _ _), exec_bind_ok, resize_grows _ _ _ room]
  simp [layout, trailer, initialHeader, Header.datagram, filled, initialPrelude, packetNumberLen, u16ToBeBytes, tokenLen]

theorem new_fits (size : Nat) (low : 1200 ≤ size) (high : size < 16434) :
    InitialTemplate.new size = .ok (.ok (layout size (filled 20 0))) := by
  rw [new_reaches_assert size low (by omega), assert_true _ _ ((length_assert_iff size (by omega)).mpr high), exec_bind_ok]

theorem new_small (size : Nat) (small : size < 1200) : ∃ message, InitialTemplate.new size = .ok (.error message) := by
  exact ⟨_, if_pos small⟩

theorem new_large (size : Nat) (large : 65535 < size) : ∃ message, InitialTemplate.new size = .ok (.error message) := by
  have notSmall : ¬ size < minInitialDatagram := by
    simp only [minInitialDatagram]
    omega
  rw [InitialTemplate.new, if_neg notSmall, if_pos large]
  exact ⟨_, rfl⟩

-- Between the limit of the 2-byte varint and that of a datagram, every earlier
-- check passes and the assert is what stops the size.
theorem new_asserts (size : Nat) (low : 16434 ≤ size) (high : size ≤ 65535) :
    InitialTemplate.new size = .error
      (.assertion s!"the length field must fit a 2-byte varint, which {size}-byte datagrams satisfy") := by
  have misses : ¬ UInt16.ofNat (size - 50) < 0x4000 := by
    rw [length_assert_iff size high]
    omega
  rw [new_reaches_assert size (by omega) high, assert, if_neg misses]
  rfl

theorem new_ok (size : Nat) (template : InitialTemplate) (built : InitialTemplate.new size = .ok (.ok template)) :
    1200 ≤ size ∧ size < 16434 ∧ template = layout size (filled 20 0) := by
  by_cases small : size < 1200
  · obtain ⟨message, refused⟩ := new_small size small
    rw [refused] at built
    cases built
  · by_cases large : 65535 < size
    · obtain ⟨message, refused⟩ := new_large size large
      rw [refused] at built
      cases built
    · by_cases long : 16434 ≤ size
      · rw [new_asserts size long (by omega)] at built
        cases built
      · rw [new_fits size (by omega) (by omega), Except.ok.injEq, Except.ok.injEq] at built
        exact ⟨by omega, by omega, built.symm⟩

theorem new_returns_iff (size : Nat) : (∃ result, InitialTemplate.new size = .ok result) ↔ size < 16434 ∨ 65535 < size := by
  by_cases large : 65535 < size
  · obtain ⟨message, refused⟩ := new_large size large
    exact iff_of_true ⟨_, refused⟩ (.inr large)
  · by_cases long : 16434 ≤ size
    · rw [new_asserts size long (by omega)]
      exact iff_of_false nofun (by omega)
    · by_cases small : size < 1200
      · obtain ⟨message, refused⟩ := new_small size small
        exact iff_of_true ⟨_, refused⟩ (by omega)
      · exact iff_of_true ⟨_, new_fits size (by omega) (by omega)⟩ (by omega)

theorem new_panics_on_admitted_size :
    InitialTemplate.new 16434 = .error
      (.assertion "the length field must fit a 2-byte varint, which 16434-byte datagrams satisfy") :=
  new_asserts 16434 (by decide) (by decide)

section Randomize

variable (endian : Endian)

def drawn (seed : UInt64) (index : Nat) : UInt64 := mix (seed + UInt64.ofNat index * gamma)

def dcidAfter (seed : UInt64) (used : Nat) : Sized UInt8 20 :=
  ⟨(u64ToNeBytes endian (drawn seed (used + 1))).val ++ ((u64ToNeBytes endian (drawn seed (used + 2))).val ++
    (u64ToNeBytes endian (drawn seed (used + 3))).val.take 4), by simp⟩

def advanced (seed : UInt64) (used : Nat) : SplitMix64 := ⟨seed + UInt64.ofNat used * gamma⟩

theorem advanced_next (seed : UInt64) (used : Nat) :
    (advanced seed used).next = (drawn seed (used + 1), advanced seed (used + 1)) := by
  have sum : seed + UInt64.ofNat used * gamma + gamma = seed + UInt64.ofNat (used + 1) * gamma := by
    rw [UInt64.ofNat_add, UInt64.add_mul, UInt64.ofNat_one, UInt64.one_mul, UInt64.add_assoc]
  simp only [SplitMix64.next, advanced, drawn, sum]

theorem fill_chunks_cons (chunk : Chunk UInt8) (rest : List (Chunk UInt8)) (seed : UInt64) (used : Nat)
    (small : chunk.bytes.length ≤ 8) :
    fillChunks endian (chunk :: rest) (advanced seed used) = (do
      let (bytes, rng) ← fillChunks endian rest (advanced seed (used + 1))
      .ok ((u64ToNeBytes endian (drawn seed (used + 1))).val.take chunk.bytes.length ++ bytes, rng)) := by
  have whole : chunk.bytes.length ≤ (u64ToNeBytes endian (drawn seed (used + 1))).val.length := by rwa [sized_length]
  have source := slice_get_some (u64ToNeBytes endian (drawn seed (used + 1))).val 0 chunk.bytes.length (Nat.zero_le _) whole
  rw [List.drop_zero, Nat.sub_zero] at source
  have length := List.length_take_of_le whole
  rw [fillChunks]
  simp only [advanced_next, source, expect_some, exec_bind_ok, copy_from_slice_whole _ _ length]

theorem dcid_chunks (dcid : Sized UInt8 20) :
    ∃ first second third : Chunk UInt8, chunks dcid.val 8 = .ok [first, second, third] ∧
      first.bytes.length = 8 ∧ second.bytes.length = 8 ∧ third.bytes.length = 4 := by
  refine ⟨chunkAt dcid.val 8 0, chunkAt dcid.val 8 1, chunkAt dcid.val 8 2, ?_, ?_, ?_, ?_⟩
  · rw [chunks, if_neg (by decide), sized_length]
    rfl
  all_goals simp [chunkAt]

theorem randomize_layout (size : Nat) (dcid : Sized UInt8 20) (seed : UInt64) (used : Nat) :
    (layout size dcid).randomizeDcid endian (advanced seed used) =
      .ok (layout size (dcidAfter endian seed used), advanced seed (used + 3)) := by
  have stop : usizeAdd 6 tokenLen = .ok 26 := rfl
  obtain ⟨first, second, third, split, firstLength, secondLength, thirdLength⟩ := dcid_chunks dcid
  have filled : fillChunks endian [first, second, third] (advanced seed used) =
      .ok ((dcidAfter endian seed used).val, advanced seed (used + 3)) := by
    rw [fill_chunks_cons endian first _ seed used (by omega), fill_chunks_cons endian second _ seed _ (by omega),
      fill_chunks_cons endian third _ seed _ (by omega)]
    have whole (word : UInt64) : (u64ToNeBytes endian word).val.take 8 = (u64ToNeBytes endian word).val :=
      List.take_of_length_le (by simp)
    simp [fillChunks, dcidAfter, firstLength, secondLength, thirdLength, whole]
  have offset : (layout size dcid).dcidOffset = 6 := rfl
  rw [InitialTemplate.randomizeDcid, offset, stop]
  simp only [exec_bind_ok, layout_field, expect_some, split, filled]
  have before : (layout size dcid).bytes.take 6 = [0xc3, 0, 0, 0, 1, 20] := rfl
  have after : (layout size dcid).bytes.drop 26 = trailer size := by
    rw [layout_bytes, ← List.append_assoc]
    exact List.drop_left' (by simp)
  rw [before, after]
  rfl

theorem randomize_times (size : Nat) (dcid : Sized UInt8 20) (seed : UInt64) (used count : Nat) :
    randomizeTimes endian (count + 1) (layout size dcid) (advanced seed used) =
      .ok (layout size (dcidAfter endian seed (used + 3 * count)), advanced seed (used + 3 * count + 3)) := by
  induction count generalizing dcid used with
  | zero =>
      rw [randomizeTimes, randomize_layout, exec_bind_ok]
      rfl
  | succ count ih =>
      have steps : used + 3 + 3 * count = used + 3 * (count + 1) := by omega
      have rest := ih (dcidAfter endian seed used) (used + 3)
      rw [steps] at rest
      rw [randomizeTimes, randomize_layout, exec_bind_ok]
      exact rest

end Randomize

end Pktauth.Blaster
