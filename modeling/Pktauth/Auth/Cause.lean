import Pktauth.Auth.Collision

set_option autoImplicit false

namespace Pktauth.Auth

open Rust

-- The parts of a datagram the parser looks at, read by position. A position
-- past the end reads as zero; every use below is guarded by the length.
def longHeader (datagram : List UInt8) : Bool := datagram.headD 0 &&& 0x80 != 0

def lengthByte (datagram : List UInt8) : Nat := (datagram.getD 5 0).toNat

def cidStart (datagram : List UInt8) : Nat := if longHeader datagram then 6 else 1

def cidLength (datagram : List UInt8) : Nat := if longHeader datagram then lengthByte datagram else 20

def Unreadable (datagram : List UInt8) : Prop :=
  datagram = [] ∨
    (longHeader datagram = true ∧
      (datagram.length < 6 ∨ 20 < lengthByte datagram ∨ datagram.length < 6 + lengthByte datagram)) ∨
    (longHeader datagram = false ∧ datagram.length < 21)

instance (datagram : List UInt8) : Decidable (Unreadable datagram) :=
  inferInstanceAs (Decidable (_ ∨ _ ∨ _))

theorem unreadable_short (datagram : List UInt8) (short : longHeader datagram = false) :
    Unreadable datagram ↔ datagram.length < 21 := by
  constructor
  · intro cause
    rcases cause with rfl | ⟨long, _⟩ | ⟨_, cut⟩
    · exact Nat.zero_lt_succ 20
    · rw [short] at long
      cases long
    · exact cut
  · intro cut
    exact .inr (.inr ⟨short, cut⟩)

theorem unreadable_long (datagram : List UInt8) (long : longHeader datagram = true) :
    Unreadable datagram ↔
      datagram.length < 6 ∨ 20 < lengthByte datagram ∨ datagram.length < 6 + lengthByte datagram := by
  constructor
  · intro cause
    rcases cause with rfl | ⟨_, cut⟩ | ⟨short, _⟩
    · cases long
    · exact cut
    · rw [long] at short
      cases short
  · intro cut
    exact .inr (.inl ⟨long, cut⟩)

theorem destination_cid_short (datagram : List UInt8) (short : longHeader datagram = false) :
    destinationCid datagram = sliceGet datagram 1 21 := by
  cases datagram with
  | nil => rfl
  | cons first rest =>
      have clear : first &&& 0x80 = 0 := by simpa [longHeader] using short
      simp [destinationCid, clear, tokenLen]

theorem destination_cid_long (datagram : List UInt8) (long : longHeader datagram = true) (room : 6 ≤ datagram.length) :
    destinationCid datagram =
      if 20 < lengthByte datagram then none else sliceGet datagram 6 (6 + lengthByte datagram) := by
  cases datagram with
  | nil => cases long
  | cons first rest =>
      have set : first &&& 0x80 ≠ 0 := by simpa [longHeader] using long
      obtain ⟨byte, found⟩ : ∃ byte, (first :: rest)[5]? = some byte := ⟨_, List.getElem?_eq_getElem (by omega)⟩
      have length : lengthByte (first :: rest) = byte.toNat := by
        rw [lengthByte, List.getD_eq_getElem?_getD, found, Option.getD_some]
      simp only [destinationCid, List.head?_cons, u8_value, if_pos set, found, tokenLen, length, gt_iff_lt]

theorem destination_cid_cut (datagram : List UInt8) (long : longHeader datagram = true) (cut : datagram.length < 6) :
    destinationCid datagram = none := by
  cases datagram with
  | nil => rfl
  | cons first rest =>
      have set : first &&& 0x80 ≠ 0 := by simpa [longHeader] using long
      have missing : (first :: rest)[5]? = none := List.getElem?_eq_none (by omega)
      simp only [destinationCid, List.head?_cons, u8_value, if_pos set, missing]

theorem destination_cid_eq (datagram : List UInt8) :
    destinationCid datagram =
      if Unreadable datagram then none
      else some ((datagram.drop (cidStart datagram)).take (cidLength datagram)) := by
  cases form : longHeader datagram with
  | false =>
      simp only [destination_cid_short datagram form, unreadable_short datagram form, cidStart, cidLength, form]
      by_cases cut : datagram.length < 21
      · rw [if_pos cut, slice_get_none _ _ _ cut]
      · rw [if_neg cut, slice_get_some _ _ _ (by omega) (by omega)]
        rfl
  | true =>
      simp only [unreadable_long datagram form, cidStart, cidLength, form]
      by_cases short : datagram.length < 6
      · rw [destination_cid_cut datagram form short, if_pos (.inl short)]
      · rw [destination_cid_long datagram form (by omega)]
        by_cases large : 20 < lengthByte datagram
        · rw [if_pos large, if_pos (.inr (.inl large))]
        · rw [if_neg large]
          by_cases cut : datagram.length < 6 + lengthByte datagram
          · rw [slice_get_none _ _ _ cut, if_pos (.inr (.inr cut))]
          · rw [slice_get_some _ _ _ (by omega) (by omega), if_neg (by omega), Nat.add_sub_cancel_left]
            rfl

-- Two datagrams with the same header form and length byte, as far as these
-- exist, of which one is as readable as the other and holds the same field.
theorem destination_cid_congr (a b : List UInt8) (form : longHeader a = longHeader b)
    (lengths : longHeader a = true → 6 ≤ a.length → lengthByte a = lengthByte b)
    (readable : Unreadable a ↔ Unreadable b)
    (fields : ¬ Unreadable a → (a.drop (cidStart a)).take (cidLength a) = (b.drop (cidStart a)).take (cidLength a)) :
    destinationCid a = destinationCid b := by
  rw [destination_cid_eq, destination_cid_eq]
  by_cases cut : Unreadable a
  · rw [if_pos cut, if_pos (readable.mp cut)]
  · have starts : cidStart a = cidStart b := by simp only [cidStart, form]
    have sizes : cidLength a = cidLength b := by
      cases long : longHeader a with
      | false => simp [cidLength, ← form, long]
      | true =>
          have room := (unreadable_long a long).not.mp cut
          simp [cidLength, ← form, long, lengths long (by omega)]
    rw [if_neg cut, if_neg (mt readable.mpr cut), ← starts, ← sizes, fields cut]

theorem cid_bounds (datagram : List UInt8) (readable : ¬ Unreadable datagram) :
    cidStart datagram + cidLength datagram ≤ datagram.length ∧ cidStart datagram + cidLength datagram ≤ 26 := by
  cases form : longHeader datagram with
  | false =>
      rw [unreadable_short datagram form] at readable
      have sizes : cidStart datagram = 1 ∧ cidLength datagram = 20 := by simp [cidStart, cidLength, form]
      omega
  | true =>
      rw [unreadable_long datagram form] at readable
      simp only [cidStart, cidLength, form, if_true]
      omega

theorem length_byte_take (datagram : List UInt8) (n : Nat) (bound : 6 ≤ n) :
    lengthByte (datagram.take n) = lengthByte datagram := by
  simp only [lengthByte, List.getD_eq_getElem?_getD, List.getElem?_take_of_lt (show 5 < n by omega)]

theorem long_header_take (datagram : List UInt8) (n : Nat) (bound : 1 ≤ n) :
    longHeader (datagram.take n) = longHeader datagram := by
  cases datagram with
  | nil => simp
  | cons first rest =>
      obtain ⟨m, rfl⟩ : ∃ m, n = m + 1 := ⟨n - 1, by omega⟩
      rfl

theorem unreadable_take (datagram : List UInt8) (n : Nat) (bound : 26 ≤ n) :
    Unreadable (datagram.take n) ↔ Unreadable datagram := by
  have form := long_header_take datagram n (by omega)
  have length : (datagram.take n).length = min n datagram.length := List.length_take
  cases long : longHeader datagram with
  | false =>
      rw [unreadable_short _ (form.trans long), unreadable_short _ long]
      omega
  | true =>
      rw [unreadable_long _ (form.trans long), unreadable_long _ long, length_byte_take datagram n (by omega)]
      omega

theorem destination_cid_take (datagram : List UInt8) (n : Nat) (bound : 26 ≤ n) :
    destinationCid (datagram.take n) = destinationCid datagram := by
  symm
  apply destination_cid_congr datagram (datagram.take n) (long_header_take datagram n (by omega)).symm
  · intro _ _
    exact (length_byte_take datagram n (by omega)).symm
  · exact (unreadable_take datagram n bound).symm
  · intro readable
    have bounds := cid_bounds datagram readable
    rw [List.drop_take, List.take_take, Nat.min_eq_left (by omega)]

theorem destination_cid_append (datagram more cid : List UInt8) (found : destinationCid datagram = some cid) :
    destinationCid (datagram ++ more) = some cid := by
  have readable : ¬ Unreadable datagram := by
    intro cut
    rw [destination_cid_eq, if_pos cut] at found
    cases found
  have form : longHeader datagram = longHeader (datagram ++ more) := by
    cases datagram with
    | nil => exact absurd (.inl rfl) readable
    | cons first rest => rfl
  have lengths (room : 6 ≤ datagram.length) : lengthByte datagram = lengthByte (datagram ++ more) := by
    simp only [lengthByte, List.getD_eq_getElem?_getD, List.getElem?_append_left (show 5 < datagram.length by omega)]
  have extended : ¬ Unreadable (datagram ++ more) := by
    cases long : longHeader datagram with
    | false =>
        rw [unreadable_short _ long] at readable
        rw [unreadable_short _ (form.symm.trans long), List.length_append]
        omega
    | true =>
        rw [unreadable_long _ long] at readable
        rw [unreadable_long _ (form.symm.trans long), ← lengths (by omega), List.length_append]
        omega
  rw [← found]
  symm
  apply destination_cid_congr datagram (datagram ++ more) form (fun _ => lengths) (iff_of_false readable extended)
  intro _
  have bounds := cid_bounds datagram readable
  rw [List.drop_append_of_le_length (by omega), List.take_append_of_le_length (by rw [List.length_drop]; omega)]

theorem window_part {α : Type} (a b : List α) (start size inner count : Nat)
    (agree : (a.drop start).take size = (b.drop start).take size) (inside : start ≤ inner ∧ inner + count ≤ start + size) :
    (a.drop inner).take count = (b.drop inner).take count := by
  have part (list : List α) : (((list.drop start).take size).drop (inner - start)).take count = (list.drop inner).take count := by
    rw [List.drop_take, List.take_take, List.drop_drop, Nat.min_eq_left (by omega), Nat.add_sub_cancel' inside.1]
  rw [← part a, ← part b, agree]

theorem destination_cid_long_window (a b : List UInt8) (longA : longHeader a = true) (longB : longHeader b = true)
    (length : a.length = b.length) (agree : (a.drop 5).take 21 = (b.drop 5).take 21) :
    destinationCid a = destinationCid b := by
  have read (list : List UInt8) : lengthByte list = (((list.drop 5).take 1).headD 0).toNat := by
    rw [lengthByte, List.getD_eq_getElem?_getD, List.headD_eq_head?_getD, List.head?_take, if_neg (by decide), List.head?_drop]
  have lengths : lengthByte a = lengthByte b := by
    rw [read a, read b, window_part a b 5 21 5 1 agree (by omega)]
  have readable : Unreadable a ↔ Unreadable b := by
    rw [unreadable_long a longA, unreadable_long b longB, length, lengths]
  apply destination_cid_congr a b (longA.trans longB.symm) (fun _ _ => lengths) readable
  intro valid
  have bounds := cid_bounds a valid
  have start : cidStart a = 6 := by simp [cidStart, longA]
  exact window_part a b 5 21 (cidStart a) (cidLength a) agree (by omega)

theorem destination_cid_short_window (a b : List UInt8) (shortA : longHeader a = false) (shortB : longHeader b = false)
    (length : a.length = b.length) (agree : (a.drop 1).take 20 = (b.drop 1).take 20) :
    destinationCid a = destinationCid b := by
  have readable : Unreadable a ↔ Unreadable b := by
    rw [unreadable_short a shortA, unreadable_short b shortB, length]
  apply destination_cid_congr a b (shortA.trans shortB.symm) (fun long => absurd (shortA.symm.trans long) (by decide)) readable
  intro _
  simpa [cidStart, cidLength, shortA] using agree

section Check

variable (aes : Cipher UInt8) (authenticator : Authenticator) (src : IpAddr)

theorem check_congr (a b : List UInt8) (same : destinationCid a = destinationCid b) :
    authenticator.check aes a src = authenticator.check aes b src := by
  cases src with
  | v6 octets => rfl
  | v4 address => simp only [Authenticator.check, same]

theorem check_extension (datagram more : List UInt8)
    (readable : authenticator.check aes datagram src ≠ .ok (.error .notQuic)) :
    authenticator.check aes (datagram ++ more) src = authenticator.check aes datagram src := by
  cases src with
  | v6 octets => rfl
  | v4 address =>
      cases found : destinationCid datagram with
      | none =>
          rw [Authenticator.check, found] at readable
          exact absurd rfl readable
      | some cid => exact check_congr aes authenticator _ _ _ ((destination_cid_append _ more cid found).trans found.symm)

theorem check_reads_bounded :
    (∀ a b : List UInt8, a.take 26 = b.take 26 → authenticator.check aes a src = authenticator.check aes b src) ∧
    (∀ (datagram : List UInt8) (n : Nat), 26 ≤ n →
      authenticator.check aes (datagram.take n) src = authenticator.check aes datagram src) ∧
    (∀ a b : List UInt8, longHeader a = true → longHeader b = true → a.length = b.length →
      (a.drop 5).take 21 = (b.drop 5).take 21 → authenticator.check aes a src = authenticator.check aes b src) ∧
    (∀ a b : List UInt8, longHeader a = false → longHeader b = false → a.length = b.length →
      (a.drop 1).take 20 = (b.drop 1).take 20 → authenticator.check aes a src = authenticator.check aes b src) ∧
    (∀ datagram more : List UInt8, authenticator.check aes datagram src ≠ .ok (.error .notQuic) →
      authenticator.check aes (datagram ++ more) src = authenticator.check aes datagram src) := by
  have cut (datagram : List UInt8) (n : Nat) (bound : 26 ≤ n) :
      authenticator.check aes (datagram.take n) src = authenticator.check aes datagram src :=
    check_congr aes authenticator src _ _ (destination_cid_take datagram n bound)
  refine ⟨?_, cut, ?_, ?_, check_extension aes authenticator src⟩
  · intro a b same
    rw [← cut a 26 (Nat.le_refl 26), ← cut b 26 (Nat.le_refl 26), same]
  · intro a b longA longB length agree
    exact check_congr aes authenticator src a b (destination_cid_long_window a b longA longB length agree)
  · intro a b shortA shortB length agree
    exact check_congr aes authenticator src a b (destination_cid_short_window a b shortA shortB length agree)

end Check

theorem check_reads_bounded_sample :
    (Authenticator.new .clientToServer sampleServer).check sampleCipher
        (0xc0 :: 0 :: 0 :: 0 :: 1 :: 20 :: (tokenOf sampleCipher .clientToServer sampleNonce sampleClient sampleServer).val)
        (.v4 sampleClient) =
      (Authenticator.new .clientToServer sampleServer).check sampleCipher
        (0xff :: 0xde :: 0xad :: 0xbe :: 0xef :: 20 ::
          (tokenOf sampleCipher .clientToServer sampleNonce sampleClient sampleServer).val) (.v4 sampleClient) := by
  exact (check_reads_bounded sampleCipher _ _).2.2.1 _ _ rfl rfl rfl rfl

section Cause

variable (aes : Cipher UInt8) (direction : Direction) (localIp : Ipv4Addr)

-- The outcome of a check, cause by cause and in the order in which the causes
-- take precedence, stated on positions in the datagram.
def tokenCause (cid : List UInt8) (src : Ipv4Addr) : Except AuthError Unit :=
  let selector := UInt16.ofNat (256 * (cid.getD 0 0).toNat + (cid.getD 1 0).toNat)
  if selector ≠ 1 ∧ selector ≠ 2 then .error (.unknownSelector selector)
  else if selector ≠ direction.selector then .error .wrongDirection
  else if (tag aes direction.key ((cid.drop 2).take 8) src localIp).map Subtype.val ≠ .ok (cid.drop 10) then .error .badTag
  else .ok ()

def cause (datagram : List UInt8) : IpAddr → Except AuthError Unit
  | .v6 octets => .error (.notIpv4 (.v6 octets))
  | .v4 src =>
      if Unreadable datagram then .error .notQuic
      else if longHeader datagram = true ∧ lengthByte datagram < 20 then .error (.badLength (lengthByte datagram))
      else tokenCause aes direction localIp ((datagram.drop (cidStart datagram)).take 20) src

theorem from_selector_none_iff (selector : UInt16) : Direction.fromSelector selector = none ↔ selector ≠ 1 ∧ selector ≠ 2 := by
  unfold Direction.fromSelector
  by_cases one : selector = 1
  · simp [one]
  · by_cases two : selector = 2
    · simp [two]
    · simp [one, two]

theorem verify_cause (token : List UInt8) (length : token.length = 20) (src : Ipv4Addr) :
    verify aes token direction src localIp = .ok (tokenCause aes direction localIp token src) := by
  obtain ⟨high, low, nonce, claimed, rfl⟩ := token_fields token length
  have selector : UInt16.ofNat (256 * high.toNat + low.toNat) = u16FromBeBytes high low := by
    rw [← UInt16.ofNat_toNat (x := u16FromBeBytes high low), u16_from_be_bytes_to_nat, Nat.mul_comm]
  have nonceField : ((high :: low :: (nonce.val ++ claimed.val)).drop 2).take 8 = nonce.val := by simp
  have claimedField : (high :: low :: (nonce.val ++ claimed.val)).drop 10 = claimed.val := by simp
  rw [verify_fields, tokenCause, nonceField, claimedField, tag_eq]
  simp only [List.getD_cons_zero, List.getD_cons_succ, selector, ← from_selector_none_iff]
  congr 1
  by_cases matching : u16FromBeBytes high low = direction.selector
  · have known : Direction.fromSelector (u16FromBeBytes high low) = some direction := by
      rw [matching, from_selector_selector]
    have compared := constant_time_eq_iff claimed.val (tagOf aes direction.key nonce src localIp).val
    have unknown : ¬ (some direction = none) := nofun
    rw [judge_matching aes high low nonce claimed direction src localIp matching, known, matching, if_neg unknown,
      if_neg (not_not.mpr rfl)]
    by_cases equal : claimed.val = (tagOf aes direction.key nonce src localIp).val
    · rw [if_pos (compared.mpr equal), if_neg (by simp [Except.map, equal])]
    · rw [if_neg (mt compared.mp equal), if_pos (by simpa [Except.map] using Ne.symm equal)]
  · cases found : Direction.fromSelector (u16FromBeBytes high low) with
    | none => simp [judge, found]
    | some other =>
        have different : other ≠ direction := by
          intro same
          exact matching (same ▸ from_selector_some _ other found)
        simp [judge, found, different, matching]

theorem check_eq_cause (datagram : List UInt8) (src : IpAddr) :
    (Authenticator.new direction localIp).check aes datagram src = .ok (cause aes direction localIp datagram src) := by
  cases src with
  | v6 octets => rfl
  | v4 address =>
      simp only [Authenticator.check, destination_cid_eq, cause]
      by_cases cut : Unreadable datagram
      · simp only [if_pos cut]
      · simp only [if_neg cut]
        have bounds := cid_bounds datagram cut
        have size : ((datagram.drop (cidStart datagram)).take (cidLength datagram)).length = cidLength datagram := by
          rw [List.length_take, List.length_drop]
          omega
        by_cases brief : longHeader datagram = true ∧ lengthByte datagram < 20
        · have length : cidLength datagram = lengthByte datagram := by simp [cidLength, brief.1]
          rw [if_pos brief, verify, size, length, if_pos (by simp only [tokenLen]; omega)]
        · have length : cidLength datagram = 20 := by
            cases form : longHeader datagram with
            | false => simp [cidLength, form]
            | true =>
                have readable := (unreadable_long datagram form).not.mp cut
                simp only [form, true_and] at brief
                simp only [cidLength, form, if_true]
                omega
          rw [length] at size ⊢
          rw [if_neg brief]
          exact verify_cause aes direction localIp _ size address

theorem token_cause_length (cid : List UInt8) (src : Ipv4Addr) (n : Nat) :
    tokenCause aes direction localIp cid src ≠ .error (.badLength n) := by
  unfold tokenCause
  simp only
  split
  · simp
  · split
    · simp
    · split <;> simp

theorem check_reports_cause (datagram : List UInt8) (src : IpAddr) :
    (Authenticator.new direction localIp).check aes datagram src = .ok (cause aes direction localIp datagram src) ∧
    (∀ n, (Authenticator.new direction localIp).check aes datagram src = .ok (.error (.badLength n)) →
      longHeader datagram = true ∧ n < 20) ∧
    (∀ token : List UInt8, token.length = tokenLen →
      ∃ selector nonce claimed, sliceGet token 0 selectorLen = some selector ∧
        sliceGet token selectorLen (selectorLen + nonceLen) = some nonce ∧
        sliceGet token (selectorLen + nonceLen) tokenLen = some claimed) := by
  refine ⟨check_eq_cause aes direction localIp datagram src, ?_, ?_⟩
  · intro n reported
    rw [check_eq_cause, Except.ok.injEq] at reported
    cases src with
    | v6 octets => cases reported
    | v4 address =>
        simp only [cause] at reported
        split at reported
        · cases reported
        · split at reported
          · rename_i brief
            cases reported
            exact brief
          · exact absurd reported (token_cause_length aes direction localIp _ address n)
  · intro token length
    exact ⟨_, _, _, slice_get_some _ _ _ (by decide) (by rw [length]; decide),
      slice_get_some _ _ _ (by decide) (by rw [length]; decide), slice_get_some _ _ _ (by decide) (Nat.le_of_eq length.symm)⟩

end Cause

theorem check_reports_cause_sample :
    (Authenticator.new .clientToServer sampleServer).check sampleCipher (0xc0 :: 0 :: 0 :: 0 :: 1 :: 8 :: sampleNonce.val)
        (.v4 sampleClient) = .ok (.error (.badLength 8)) ∧
      longHeader (0xc0 :: 0 :: 0 :: 0 :: 1 :: 8 :: sampleNonce.val) = true := by
  have reported : (Authenticator.new .clientToServer sampleServer).check sampleCipher
      (0xc0 :: 0 :: 0 :: 0 :: 1 :: 8 :: sampleNonce.val) (.v4 sampleClient) = .ok (.error (.badLength 8)) := by
    decide +kernel
  exact ⟨reported, ((check_reports_cause sampleCipher .clientToServer sampleServer _ _).2.1 8 reported).1⟩

end Pktauth.Auth
