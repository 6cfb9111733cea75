import Mathlib.Data.List.Forall2
import Pktauth.Auth.Token

set_option autoImplicit false

namespace Pktauth.Auth

open Rust

inductive AuthError where
  | badLength (length : Nat)
  | unknownSelector (selector : UInt16)
  | wrongDirection
  | badTag
  | notQuic
  | notIpv4 (src : IpAddr)
deriving DecidableEq

section Operations

variable {β : Type} [ByteLike β]

def constantTimeEq (a b : List β) : Bool :=
  if a.length ≠ b.length then false
  else (a.zip b).foldl (fun acc pair => acc ||| ByteLike.xor pair.1 pair.2) 0 == 0

def verify (aes : Cipher β) (token : List β) (direction : Direction) (src dst : Ipv4Addr) : Exec (Except AuthError Unit) :=
  if token.length ≠ tokenLen then .ok (.error (.badLength token.length))
  else
    match sliceGet token 0 selectorLen, sliceGet token selectorLen (selectorLen + nonceLen),
      sliceGet token (selectorLen + nonceLen) tokenLen with
    | some selector, some nonce, some claimed => do
        let high ← expect "selector field is 2 bytes" selector.head?
        let low ← expect "selector field is 2 bytes" selector[1]?
        let selector := u16FromBeBytes (ByteLike.value high) (ByteLike.value low)
        match Direction.fromSelector selector with
        | none => .ok (.error (.unknownSelector selector))
        | some found =>
            if found ≠ direction then .ok (.error .wrongDirection)
            else do
              let expected ← tag aes direction.key nonce src dst
              match constantTimeEq claimed expected.val with
              | true => .ok (.ok ())
              | false => .ok (.error .badTag)
    | _, _, _ => .ok (.error (.badLength token.length))

def destinationCid (datagram : List β) : Option (List β) :=
  match datagram.head? with
  | none => none
  | some first =>
      if ByteLike.value first &&& 0x80 ≠ 0 then
        match datagram[5]? with
        | none => none
        | some byte =>
            let len := (ByteLike.value byte).toNat
            if len > tokenLen then none else sliceGet datagram 6 (6 + len)
      else sliceGet datagram 1 (1 + tokenLen)

end Operations

structure Authenticator where
  inbound : Direction
  localIp : Ipv4Addr
deriving DecidableEq

def Authenticator.new (inbound : Direction) (localIp : Ipv4Addr) : Authenticator := ⟨inbound, localIp⟩

def Authenticator.check {β : Type} [ByteLike β] (aes : Cipher β) (authenticator : Authenticator) (datagram : List β)
    (src : IpAddr) : Exec (Except AuthError Unit) :=
  match src with
  | .v6 octets => .ok (.error (.notIpv4 (.v6 octets)))
  | .v4 src =>
      match destinationCid datagram with
      | none => .ok (.error .notQuic)
      | some cid => verify aes cid authenticator.inbound src authenticator.localIp

theorem token_fields {β : Type} (token : List β) (length : token.length = 20) :
    ∃ (high low : β) (nonce : Sized β 8) (claimed : Sized β 10), token = high :: low :: (nonce.val ++ claimed.val) := by
  match token, length with
  | high :: low :: rest, length =>
      have restLength : rest.length = 18 := by simpa using length
      refine ⟨high, low, ⟨rest.take 8, by simp [restLength]⟩, ⟨rest.drop 8, by simp [restLength]⟩, ?_⟩
      simp

section Facts

variable {β : Type} [ByteLike β]

theorem constant_time_eq_iff [LawfulByteLike β] (a b : List β) : constantTimeEq a b = true ↔ a = b := by
  by_cases same : a.length = b.length
  · rw [constantTimeEq, if_neg (by simpa using same), beq_iff_eq, or_fold_eq_zero, ← List.forall₂_eq_eq_eq,
      List.forall₂_iff_zip]
    constructor
    · rintro ⟨_, zeros⟩
      exact ⟨same, fun member => (LawfulByteLike.xor_eq_zero _ _).mp (zeros _ member)⟩
    · rintro ⟨_, equal⟩
      exact ⟨rfl, fun pair member => (LawfulByteLike.xor_eq_zero _ _).mpr (equal member)⟩
  · have different : a ≠ b := fun equal => same (congrArg List.length equal)
    simp [constantTimeEq, same, different]

variable (aes : Cipher β)

-- What verify decides once the fields are cut out: the selector first, then
-- the direction, and only then the tag.
def judge (high low : β) (nonce : Sized β 8) (claimed : Sized β 10) (direction : Direction) (src dst : Ipv4Addr) :
    Except AuthError Unit :=
  let selector := u16FromBeBytes (ByteLike.value high) (ByteLike.value low)
  match Direction.fromSelector selector with
  | none => .error (.unknownSelector selector)
  | some found =>
      if found ≠ direction then .error .wrongDirection
      else if constantTimeEq claimed.val (tagOf aes direction.key nonce src dst).val then .ok () else .error .badTag

theorem verify_fields (high low : β) (nonce : Sized β 8) (claimed : Sized β 10) (direction : Direction) (src dst : Ipv4Addr) :
    verify aes (high :: low :: (nonce.val ++ claimed.val)) direction src dst =
      .ok (judge aes high low nonce claimed direction src dst) := by
  have length : (high :: low :: (nonce.val ++ claimed.val)).length = tokenLen := by simp [tokenLen]
  have selectorField : sliceGet (high :: low :: (nonce.val ++ claimed.val)) 0 2 = some [high, low] :=
    slice_get_append [] [high, low] (nonce.val ++ claimed.val)
  have nonceField : sliceGet (high :: low :: (nonce.val ++ claimed.val)) 2 10 = some nonce.val := by
    simpa using slice_get_append [high, low] nonce.val claimed.val
  have claimedField : sliceGet (high :: low :: (nonce.val ++ claimed.val)) 10 20 = some claimed.val := by
    simpa using slice_get_append (high :: low :: nonce.val) claimed.val []
  rw [verify, if_neg (by simpa using length)]
  simp only [selectorLen, nonceLen, tokenLen, Nat.reduceAdd, selectorField, nonceField, claimedField, List.head?_cons,
    List.getElem?_cons_succ, List.getElem?_cons_zero, expect_some, exec_bind_ok, tag_eq, judge]
  cases Direction.fromSelector (u16FromBeBytes (ByteLike.value high) (ByteLike.value low)) with
  | none => rfl
  | some found =>
      by_cases other : found ≠ direction
      · simp only [if_pos other]
      · simp only [if_neg other]
        cases constantTimeEq claimed.val (tagOf aes direction.key nonce src dst).val <;> rfl

theorem verify_total (token : List β) (direction : Direction) (src dst : Ipv4Addr) :
    ∃ result, verify aes token direction src dst = .ok result := by
  by_cases length : token.length = 20
  · obtain ⟨high, low, nonce, claimed, rfl⟩ := token_fields token length
    exact ⟨_, verify_fields aes high low nonce claimed direction src dst⟩
  · exact ⟨_, by rw [verify, if_pos (by simpa [tokenLen] using length)]⟩

theorem check_total (authenticator : Authenticator) (datagram : List β) (src : IpAddr) :
    ∃ result, authenticator.check aes datagram src = .ok result := by
  cases src with
  | v6 octets => exact ⟨_, rfl⟩
  | v4 src =>
      cases found : destinationCid datagram with
      | none => exact ⟨_, by simp only [Authenticator.check, found]; rfl⟩
      | some cid =>
          obtain ⟨result, verified⟩ := verify_total aes cid authenticator.inbound src authenticator.localIp
          exact ⟨result, by simpa only [Authenticator.check, found] using verified⟩

theorem judge_matching (high low : β) (nonce : Sized β 8) (claimed : Sized β 10) (direction : Direction) (src dst : Ipv4Addr)
    (matching : u16FromBeBytes (ByteLike.value high) (ByteLike.value low) = direction.selector) :
    judge aes high low nonce claimed direction src dst =
      if constantTimeEq claimed.val (tagOf aes direction.key nonce src dst).val then .ok () else .error .badTag := by
  simp [judge, matching, from_selector_selector]

theorem judge_mismatched (high low : β) (nonce : Sized β 8) (claimed : Sized β 10) (direction : Direction) (src dst : Ipv4Addr)
    (mismatched : u16FromBeBytes (ByteLike.value high) (ByteLike.value low) ≠ direction.selector) :
    judge aes high low nonce claimed direction src dst =
        .error (.unknownSelector (u16FromBeBytes (ByteLike.value high) (ByteLike.value low))) ∨
      judge aes high low nonce claimed direction src dst = .error .wrongDirection := by
  simp only [judge]
  cases found : Direction.fromSelector (u16FromBeBytes (ByteLike.value high) (ByteLike.value low)) with
  | none => exact .inl rfl
  | some other =>
      have selector := from_selector_some _ other found
      have different : other ≠ direction := by
        rintro rfl
        exact mismatched selector
      exact .inr (if_pos different)

theorem judge_ok_iff [LawfulByteLike β] (high low : β) (nonce : Sized β 8) (claimed : Sized β 10) (direction : Direction)
    (src dst : Ipv4Addr) :
    judge aes high low nonce claimed direction src dst = .ok () ↔
      [ByteLike.value high, ByteLike.value low] = u16ToBeBytes direction.selector ∧
        claimed = tagOf aes direction.key nonce src dst := by
  rw [← u16_be_bytes_iff]
  by_cases matching : u16FromBeBytes (ByteLike.value high) (ByteLike.value low) = direction.selector
  · rw [judge_matching aes high low nonce claimed direction src dst matching]
    have compared := constant_time_eq_iff claimed.val (tagOf aes direction.key nonce src dst).val
    by_cases equal : claimed = tagOf aes direction.key nonce src dst
    · rw [if_pos (compared.mpr (congrArg Subtype.val equal))]
      exact iff_of_true rfl ⟨matching, equal⟩
    · rw [if_neg (fun same => equal (sized_ext _ _ (compared.mp same)))]
      simp [equal]
  · rcases judge_mismatched aes high low nonce claimed direction src dst matching with unknown | wrong
    · simp [unknown, matching]
    · simp [wrong, matching]

theorem verify_ok_iff [LawfulByteLike β] (token : List β) (direction : Direction) (src dst : Ipv4Addr) :
    verify aes token direction src dst = .ok (.ok ()) ↔
      ∃ (high low : β) (nonce : Sized β 8),
        token = high :: low :: (nonce.val ++ (tagOf aes direction.key nonce src dst).val) ∧
          [ByteLike.value high, ByteLike.value low] = u16ToBeBytes direction.selector := by
  constructor
  · intro accepted
    by_cases length : token.length = 20
    · obtain ⟨high, low, nonce, claimed, rfl⟩ := token_fields token length
      rw [verify_fields, Except.ok.injEq, judge_ok_iff] at accepted
      exact ⟨high, low, nonce, by rw [accepted.2], accepted.1⟩
    · rw [verify, if_pos (by simpa [tokenLen] using length)] at accepted
      cases accepted
  · rintro ⟨high, low, nonce, rfl, selector⟩
    rw [verify_fields, Except.ok.injEq, judge_ok_iff]
    exact ⟨selector, rfl⟩

end Facts

theorem verify_ok_iff_token (aes : Cipher UInt8) (token : List UInt8) (direction : Direction) (src dst : Ipv4Addr) :
    verify aes token direction src dst = .ok (.ok ()) ↔
      ∃ nonce : Sized UInt8 8, token = (tokenOf aes direction nonce src dst).val := by
  rw [verify_ok_iff]
  constructor
  · rintro ⟨high, low, nonce, rfl, selector⟩
    refine ⟨nonce, ?_⟩
    simp only [u8_value] at selector
    simp [tokenOf, ← selector]
  · rintro ⟨nonce, rfl⟩
    exact ⟨(direction.selector >>> 8).toUInt8, direction.selector.toUInt8, nonce, rfl, rfl⟩

end Pktauth.Auth
