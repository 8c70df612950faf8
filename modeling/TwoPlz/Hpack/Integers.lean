import TwoPlz.Hpack.Written

/-! The integer codec: what `decode_int` makes of what `encode_int` has written, of its front parts
and of any other bytes. -/

namespace TwoPlz.Hpack

def addIn (w a b : Nat) : Option Nat := if a + b < 2 ^ w then some (a + b) else none

def shlIn (w a n : Nat) : Option Nat := if n < w ∧ a <<< n < 2 ^ w then some (a <<< n) else none

/-- The loop of `decode_int`, with a `usize` of `w` bits: an operation that overflows is `none`.
The shift is an `i32`. -/
def decodeVarintIn (w : Nat) : Nat → Nat → Nat → Bytes → Option (Except DecoderError (Nat × Bytes))
  | _, _, _, [] => some (.error (.needMore .integerUnderflow))
  | bytes, ret, shift, b :: buf => do
    let bytes ← addIn w bytes 1
    let group ← shlIn w (b &&& 0b01111111).toNat shift
    let ret ← addIn w ret group
    let shift ← addIn 31 shift 7
    if b &&& 0b10000000 == 0 then some (.ok (ret, buf))
    else if bytes = MAX_BYTES then some (.error .integerOverflow)
    else decodeVarintIn w bytes ret shift buf

def decodeIntIn (w prefixSize : Nat) (buf : Bytes) : Option (Except DecoderError (Nat × Bytes)) :=
  if ¬(1 ≤ prefixSize ∧ prefixSize ≤ 8) then some (.error .invalidIntegerPrefix)
  else
    match buf with
    | [] => some (.error (.needMore .integerUnderflow))
    | b :: buf =>
      let mask := UInt8.ofNat (2 ^ prefixSize - 1)
      let ret := (b &&& mask).toNat
      if ret < mask.toNat then some (.ok (ret, buf)) else decodeVarintIn w 1 ret 0 buf

theorem addIn_some {w a b : Nat} (h : a + b < 2 ^ w) : addIn w a b = some (a + b) := if_pos h

theorem shlIn_some {w a n : Nat} (hn : n < w) (h : a <<< n < 2 ^ w) : shlIn w a n = some (a <<< n) :=
  if_pos ⟨hn, h⟩

theorem toNat_group (b : UInt8) : (b &&& 0b01111111).toNat < 2 ^ 7 :=
  Nat.lt_of_le_of_lt (by rw [UInt8.toNat_and]; exact Nat.and_le_right) (by decide : 127 < 2 ^ 7)

theorem add_group_lt {low ret shift : Nat} (hret : ret < low + 2 ^ shift) (b : UInt8) :
    ret + (b &&& 0b01111111).toNat <<< shift < low + 2 ^ (shift + 7) := by
  have hgroup : ((b &&& 0b01111111).toNat + 1) * 2 ^ shift ≤ 2 ^ 7 * 2 ^ shift :=
    Nat.mul_le_mul_right _ (toNat_group b)
  rw [Nat.add_mul, Nat.one_mul, ← Nat.shiftLeft_eq, ← Nat.pow_add, Nat.add_comm 7] at hgroup
  omega

theorem decodeVarint_lt (bytes : Nat) {low ret : Nat} {bs rest : Bytes} {value : Nat} (hbytes : bytes < 4)
    (hret : ret < low + 2 ^ (7 * bytes))
    (h : decodeVarint (bytes + 1) ret (7 * bytes) bs = .ok (value, rest)) : value < low + 2 ^ 28 := by
  induction bs generalizing bytes ret with
  | nil => cases h
  | cons b bs ih =>
    have hgroup := add_group_lt hret b
    have hpow : 2 ^ (7 * bytes + 7) ≤ 2 ^ 28 := Nat.pow_le_pow_right (n := 2) (by decide) (by omega)
    simp only [decodeVarint] at h
    split at h
    · cases h
      omega
    · split at h
      · cases h
      · rename_i hmax
        rw [MAX_BYTES] at hmax
        exact ih (bytes + 1) (by omega) hgroup h

theorem decodeVarintIn_eq (bytes : Nat) {w ret : Nat} (hw : 32 ≤ w) (hbytes : bytes < 4)
    (hret : ret < 255 + 2 ^ (7 * bytes)) (bs : Bytes) :
    decodeVarintIn w (bytes + 1) ret (7 * bytes) bs = some (decodeVarint (bytes + 1) ret (7 * bytes) bs) := by
  induction bs generalizing bytes ret with
  | nil => rfl
  | cons b bs ih =>
    have hgroup := add_group_lt hret b
    have hpow : 2 ^ (7 * bytes + 7) ≤ 2 ^ 28 := Nat.pow_le_pow_right (n := 2) (by decide) (by omega)
    have hword : 2 ^ 32 ≤ 2 ^ w := Nat.pow_le_pow_right (n := 2) (by decide) hw
    rw [decodeVarintIn, addIn_some (by omega), Option.bind_eq_bind, Option.bind_some,
      shlIn_some (by omega) (by omega), Option.bind_some, addIn_some (by omega), Option.bind_some,
      addIn_some (by omega), Option.bind_some, decodeVarint]
    split
    · rfl
    · split
      · rfl
      · rename_i hmax
        rw [MAX_BYTES] at hmax
        exact ih (bytes + 1) (by omega) hgroup

theorem decodeVarint_append {bytes : Nat} (ret shift : Nat) {bs : Bytes} (rest : Bytes)
    (hbytes : bytes < MAX_BYTES) (hbs : MAX_BYTES ≤ bytes + bs.length) :
    decodeVarint bytes ret shift (bs ++ rest)
      = (decodeVarint bytes ret shift bs).map fun r => (r.1, r.2 ++ rest) := by
  induction bs generalizing bytes ret shift with
  | nil =>
    rw [List.length_nil] at hbs
    omega
  | cons b bs ih =>
    rw [List.length_cons] at hbs
    rw [List.cons_append, decodeVarint, decodeVarint]
    split
    · rfl
    · split
      · rfl
      · exact ih _ _ (by omega) (by omega)

theorem decodeVarint_encodeVarint_overflow {bytes ret shift value rounds : Nat} (rest : Bytes)
    (hbytes : bytes < MAX_BYTES) (hvalue : 2 ^ (7 * (MAX_BYTES - bytes)) ≤ value)
    (hrounds : value ≤ rounds) :
    decodeVarint bytes ret shift (encodeVarint rounds value ++ rest) = .error .integerOverflow := by
  have hlarge : 2 ^ (7 * 1) ≤ 2 ^ (7 * (MAX_BYTES - bytes)) :=
    Nat.pow_le_pow_right (n := 2) (by decide) (by omega)
  induction rounds generalizing value bytes ret shift with
  | zero => omega
  | succ rounds ih =>
    obtain ⟨hlow, hmore⟩ := toNat_continued value
    rw [encodeVarint, if_pos (by omega), List.cons_append, decodeVarint, hmore,
      if_neg Bool.false_ne_true]
    split
    · rfl
    · rename_i hmax
      have hshift : 2 ^ (7 * (MAX_BYTES - (bytes + 1))) ≤ value >>> 7 := by
        rw [Nat.shiftRight_eq_div_pow, Nat.le_div_iff_mul_le (by decide), ← Nat.pow_add,
          show 7 * (MAX_BYTES - (bytes + 1)) + 7 = 7 * (MAX_BYTES - bytes) from by omega]
        exact hvalue
      refine ih (by omega) hshift ?_ (Nat.pow_le_pow_right (n := 2) (by decide) (by omega))
      rw [Nat.shiftRight_eq_div_pow]
      omega

section

variable {n : Nat} (hn : 1 ≤ n ∧ n ≤ 8)

include hn

theorem decodeInt_cons (b : UInt8) (bs : Bytes) : decodeInt n (b :: bs) =
    if (b &&& UInt8.ofNat (2 ^ n - 1)).toNat < 2 ^ n - 1
      then .ok ((b &&& UInt8.ofNat (2 ^ n - 1)).toNat, bs)
      else decodeVarint 1 (b &&& UInt8.ofNat (2 ^ n - 1)).toNat 0 bs := by
  rw [decodeInt, if_neg (not_not.mpr hn)]
  simp only [toNat_mask hn.2]

theorem toNat_and_mask (b : UInt8) : (b &&& UInt8.ofNat (2 ^ n - 1)).toNat ≤ 2 ^ n - 1 := by
  rw [UInt8.toNat_and, toNat_mask hn.2]
  exact Nat.and_le_right

theorem decodeInt_lt {bs rest : Bytes} {value : Nat} (h : decodeInt n bs = .ok (value, rest)) :
    value < 2 ^ 28 + (2 ^ n - 1) := by
  cases bs with
  | nil =>
    rw [decodeInt, if_neg (not_not.mpr hn)] at h
    cases h
  | cons b bs =>
    have hmask := toNat_and_mask hn b
    rw [decodeInt_cons hn] at h
    split at h
    · cases h
      omega
    · have hlt : value < (2 ^ n - 1) + 2 ^ 28 := decodeVarint_lt 0 (by decide) (by omega) h
      omega

theorem decodeIntIn_eq {w : Nat} (hw : 32 ≤ w) (bs : Bytes) :
    decodeIntIn w n bs = some (decodeInt n bs) := by
  have hpow : 2 ^ n ≤ 2 ^ 8 := Nat.pow_le_pow_right (n := 2) (by decide) hn.2
  cases bs with
  | nil => rw [decodeIntIn, decodeInt, if_neg (not_not.mpr hn), if_neg (not_not.mpr hn)]
  | cons b bs =>
    have hmask := toNat_and_mask hn b
    rw [decodeInt_cons hn, decodeIntIn, if_neg (not_not.mpr hn)]
    simp only [toNat_mask hn.2]
    split
    · rfl
    · exact decodeVarintIn_eq 0 hw (by decide) (by omega) bs

theorem decodeInt_append {bs : Bytes} (hbs : bs.length = MAX_BYTES) (rest : Bytes) :
    decodeInt n (bs ++ rest) = (decodeInt n bs).map fun r => (r.1, r.2 ++ rest) := by
  cases bs with
  | nil => cases hbs
  | cons b bs =>
    rw [List.length_cons] at hbs
    rw [List.cons_append, decodeInt_cons hn, decodeInt_cons hn]
    split
    · rfl
    · exact decodeVarint_append _ _ rest (by decide) (by omega)

theorem decodeInt_encodeInt_overflow {value : Nat} {first : UInt8} (rest : Bytes)
    (hfirst : first &&& UInt8.ofNat (2 ^ n - 1) = 0) (hvalue : 2 ^ 28 + (2 ^ n - 1) ≤ value) :
    decodeInt n (encodeInt value n first ++ rest) = .error .integerOverflow := by
  have hlow : (1 <<< n) - 1 = 2 ^ n - 1 := by rw [Nat.shiftLeft_eq, Nat.one_mul]
  have hand := and_mask hn.2 hfirst (Nat.sub_lt (Nat.two_pow_pos n) Nat.one_pos)
  rw [encodeInt, encodeIntOneByte, hlow, decide_eq_false (by omega), if_neg Bool.false_ne_true,
    List.cons_append, decodeInt_cons hn, hand, if_neg (Nat.lt_irrefl _)]
  refine decodeVarint_encodeVarint_overflow rest (by decide) ?_ (Nat.le_refl _)
  change 2 ^ 28 ≤ value - (2 ^ n - 1)
  omega

end

theorem decodeVarint_needMore {bytes ret shift : Nat} {bs : Bytes} {more : NeedMore}
    (hbytes : bytes < MAX_BYTES) (h : decodeVarint bytes ret shift bs = .error (.needMore more)) :
    more = .integerUnderflow ∧ bytes + bs.length < MAX_BYTES := by
  induction bs generalizing bytes ret shift with
  | nil =>
    cases h
    exact ⟨rfl, hbytes⟩
  | cons b bs ih =>
    simp only [decodeVarint] at h
    split at h
    · cases h
    · split at h
      · cases h
      · obtain ⟨hmore, hlen⟩ := ih (by omega) h
        rw [List.length_cons]
        exact ⟨hmore, by omega⟩

theorem decodeInt_needMore {n : Nat} {bs : Bytes} {more : NeedMore}
    (h : decodeInt n bs = .error (.needMore more)) :
    more = .integerUnderflow ∧ bs.length < MAX_BYTES := by
  unfold decodeInt at h
  split at h
  · cases h
  · split at h
    · cases h
      exact ⟨rfl, by decide⟩
    · dsimp only at h
      split at h
      · cases h
      · obtain ⟨hmore, hlen⟩ := decodeVarint_needMore (by decide) h
        rw [List.length_cons]
        exact ⟨hmore, by omega⟩

theorem decodeInt_used {n : Nat} {bs rest : Bytes} {value : Nat}
    (h : decodeInt n bs = .ok (value, rest)) : ∃ used, bs = used ++ rest ∧ used ≠ [] ∧
      ∀ k < used.length, decodeInt n (used.take k) = .error (.needMore .integerUnderflow) := by
  obtain ⟨used, hne, rfl⟩ := decodeInt_consumes n h
  refine ⟨used, rfl, hne, fun k hk => ?_⟩
  have hsplit : used ++ rest = used.take k ++ (used.drop k ++ rest) := by
    rw [← List.append_assoc, List.take_append_drop]
  rw [hsplit] at h
  rcases decodeInt_resumable n h with ⟨r', hr', -⟩ | ⟨e, ⟨more, rfl⟩, he⟩
  · have hlen := congrArg List.length hr'
    rw [List.length_append, List.length_append, List.length_drop] at hlen
    omega
  · rw [(decodeInt_needMore he).1] at he
    exact he

theorem decodeInt_codec {n : Nat} (hn : 1 ≤ n ∧ n ≤ 8) :
    (∀ (value : Nat) (first : UInt8) (rest : Bytes), first &&& UInt8.ofNat (2 ^ n - 1) = 0 →
      decodeInt n (encodeInt value n first ++ rest)
        = if value < 2 ^ n - 1 + 2 ^ 28 then .ok (value, rest) else .error .integerOverflow) ∧
    (∀ bs value rest, decodeInt n bs = .ok (value, rest) → value < 2 ^ n - 1 + 2 ^ 28 ∧
      ∃ used, bs = used ++ rest ∧ used ≠ [] ∧ used.length ≤ MAX_BYTES ∧
        ∀ k < used.length, decodeInt n (used.take k) = .error (.needMore .integerUnderflow)) ∧
    (∀ bs more, decodeInt n bs = .error (.needMore more) → bs.length < MAX_BYTES) ∧
    (∀ bs rest, bs.length = MAX_BYTES →
      decodeInt n (bs ++ rest) = (decodeInt n bs).map fun r => (r.1, r.2 ++ rest)) ∧
    ∀ w, 32 ≤ w → ∀ bs, decodeIntIn w n bs = some (decodeInt n bs) := by
  refine ⟨fun value first rest hfirst => ?_, fun bs value rest h => ⟨?_, ?_⟩,
    fun bs more h => (decodeInt_needMore h).2, fun bs rest hbs => decodeInt_append hn hbs rest,
    fun w hw bs => decodeIntIn_eq hn hw bs⟩
  · rw [Nat.add_comm]
    split
    · rename_i hvalue
      exact decodeInt_encodeInt _ rest hn hfirst hvalue
    · rename_i hvalue
      exact decodeInt_encodeInt_overflow hn rest hfirst (Nat.le_of_not_lt hvalue)
  · rw [Nat.add_comm]
    exact decodeInt_lt hn h
  · obtain ⟨used, rfl, hne, hpart⟩ := decodeInt_used h
    refine ⟨used, rfl, hne, Nat.le_of_not_lt fun hlong => ?_, hpart⟩
    -- five bytes give the answer, but they are a part that does not
    have happend := decodeInt_append hn (List.length_take_of_le (Nat.le_of_lt hlong))
      (used.drop MAX_BYTES ++ rest)
    rw [hpart _ hlong, ← List.append_assoc, List.take_append_drop, h] at happend
    cases happend

theorem decodeInt_codec_five :
    decodeInt 5 (encodeInt (2 ^ 28 + 30) 5 0b00100000 ++ [1]) = .ok (2 ^ 28 + 30, [1]) ∧
      decodeInt 5 (encodeInt (2 ^ 28 + 31) 5 0b00100000 ++ [1]) = .error .integerOverflow := by
  obtain ⟨hcodec, -⟩ := decodeInt_codec (n := 5) (by decide)
  exact ⟨(hcodec _ _ _ (by decide)).trans (if_pos (by decide)),
    (hcodec _ _ _ (by decide)).trans (if_neg (by decide))⟩

end TwoPlz.Hpack
