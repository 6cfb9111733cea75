import Pktauth.Auth.Collision

set_option autoImplicit false

namespace Pktauth.Auth

open Rust

-- A byte of a cipher output remembers which call produced it. The symbolic
-- reading of the code runs it on such bytes: a tag is then a term that is
-- injective in the key and the message, and a guessed byte never equals a byte
-- of a tag, whatever its value.
structure TagByte where
  key : Sized UInt8 16
  message : Sized UInt8 16
  index : Nat
deriving DecidableEq

structure Traced where
  value : UInt8
  origin : Option TagByte
deriving DecidableEq

instance : ByteLike Traced where
  ofByte byte := ⟨byte, none⟩
  value := Traced.value
  xor a b := if a.origin = b.origin then a.value ^^^ b.value else 1

theorem traced_xor_eq_zero (a b : Traced) : ByteLike.xor a b = 0 ↔ a = b := by
  obtain ⟨aValue, aOrigin⟩ := a
  obtain ⟨bValue, bOrigin⟩ := b
  by_cases same : aOrigin = bOrigin
  · subst same
    simp only [ByteLike.xor, if_true, UInt8.xor_eq_zero_iff, Traced.mk.injEq, and_true]
  · simp [ByteLike.xor, same]

instance : LawfulByteLike Traced where
  value_of_byte _ := rfl
  xor_eq_zero := traced_xor_eq_zero

def values {n : Nat} (bytes : Sized Traced n) : Sized UInt8 n := ⟨bytes.val.map Traced.value, by simp⟩

def plain {n : Nat} (bytes : Sized UInt8 n) : Sized Traced n := ⟨bytes.val.map ByteLike.ofByte, by simp⟩

def symbolic (aes : Cipher UInt8) : Cipher Traced := fun key block =>
  ⟨(aes key (values block)).val.mapIdx (fun index value => ⟨value, some ⟨key, values block, index⟩⟩), by simp⟩

theorem values_plain {n : Nat} (bytes : Sized UInt8 n) : values (plain bytes) = bytes := by
  apply sized_ext
  exact map_value_of_byte (β := Traced) bytes.val

theorem values_message (nonce : Sized Traced 8) (src dst : Ipv4Addr) :
    values (message nonce src dst) = message (values nonce) src dst := by
  apply sized_ext
  simp only [values, message, List.map_append]
  rw [show List.map Traced.value = List.map (ByteLike.value : Traced → UInt8) from rfl, map_value_of_byte, map_value_of_byte]
  simp

section Terms

variable (aes : Cipher UInt8)

theorem symbolic_origin (key : Sized UInt8 16) (block : Sized Traced 16) (byte : Traced)
    (member : byte ∈ (symbolic aes key block).val) : ∃ index, byte.origin = some ⟨key, values block, index⟩ := by
  obtain ⟨index, bound, rfl⟩ := List.mem_mapIdx.mp member
  exact ⟨index, rfl⟩

theorem tag_origin (key : Sized UInt8 16) (nonce : Sized Traced 8) (src dst : Ipv4Addr) (byte : Traced)
    (member : byte ∈ (tagOf (symbolic aes) key nonce src dst).val) :
    ∃ index, byte.origin = some ⟨key, message (values nonce) src dst, index⟩ := by
  obtain ⟨index, origin⟩ := symbolic_origin aes key (message nonce src dst) byte (List.mem_of_mem_take member)
  exact ⟨index, by rw [origin, values_message]⟩

theorem tag_values (key : Sized UInt8 16) (nonce nonce' : Sized Traced 8) (src dst : Ipv4Addr)
    (same : values nonce = values nonce') : tagOf (symbolic aes) key nonce src dst = tagOf (symbolic aes) key nonce' src dst := by
  apply sized_ext
  simp only [tagOf, symbolic, values_message, same]

theorem tag_nonempty (key : Sized UInt8 16) (nonce : Sized Traced 8) (src dst : Ipv4Addr) :
    ∃ byte, byte ∈ (tagOf (symbolic aes) key nonce src dst).val :=
  List.exists_mem_of_length_pos (by simp)

theorem tag_shared_byte (direction other : Direction) (nonce nonce' : Sized Traced 8) (src src' dst dst' : Ipv4Addr)
    (byte : Traced) (here : byte ∈ (tagOf (symbolic aes) direction.key nonce src dst).val)
    (there : byte ∈ (tagOf (symbolic aes) other.key nonce' src' dst').val) :
    direction = other ∧ values nonce = values nonce' ∧ src = src' ∧ dst = dst' := by
  obtain ⟨index, origin⟩ := tag_origin aes direction.key nonce src dst byte here
  obtain ⟨index', origin'⟩ := tag_origin aes other.key nonce' src' dst' byte there
  rw [origin, Option.some.injEq, TagByte.mk.injEq] at origin'
  exact ⟨key_injective direction other origin'.1,
    message_injective (values nonce) (values nonce') src src' dst dst' origin'.2.1⟩

theorem token_origin (direction : Direction) (nonce : Sized UInt8 8) (src dst : Ipv4Addr) (byte : Traced)
    (member : byte ∈ (tokenOf (symbolic aes) direction (plain nonce) src dst).val) (labelled : byte.origin ≠ none) :
    byte ∈ (tagOf (symbolic aes) direction.key (plain nonce) src dst).val := by
  rw [tokenOf, List.mem_append, List.mem_append] at member
  rcases member with selector | drawn | tagged
  · obtain ⟨value, _, rfl⟩ := List.mem_map.mp selector
    exact absurd rfl labelled
  · obtain ⟨value, _, rfl⟩ := List.mem_map.mp drawn
    exact absurd rfl labelled
  · exact tagged

theorem verify_token_path (direction other : Direction) (nonce : Sized Traced 8) (src src' dst dst' : Ipv4Addr)
    (accepted : verify (symbolic aes) (tokenOf (symbolic aes) other nonce src' dst').val direction src dst = .ok (.ok ())) :
    other = direction ∧ src' = src ∧ dst' = dst := by
  obtain ⟨high, low, nonce', shape, _⟩ := (verify_ok_iff (symbolic aes) _ direction src dst).mp accepted
  have tags := congrArg (List.drop 10) shape
  simp only [tokenOf, u16ToBeBytes, List.map_cons, List.map_nil, List.cons_append, List.nil_append, List.drop_succ_cons,
    List.drop_left' (sized_length _)] at tags
  obtain ⟨byte, member⟩ := tag_nonempty aes other.key nonce src' dst'
  obtain ⟨rfl, _, rfl, rfl⟩ := tag_shared_byte aes other direction nonce nonce' src' src dst' dst byte member (tags ▸ member)
  exact ⟨rfl, rfl, rfl⟩

-- What the symbolic reading accepts the deployed code accepts: the labels only
-- take collisions away.
end Terms

end Pktauth.Auth
