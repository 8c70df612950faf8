import TwoPlz.Hpack.Encoder
import TwoPlz.Hpack.HuffmanCodec
import TwoPlz.Hpack.Resume

/-! What the parts of a header block that the encoder writes are to the parser of the decoder. -/

theorem List.foldlM_range_some {σ : Type} {f : σ → Nat → Option σ} {P : Nat → σ → Prop} {n : Nat}
    {s : σ} (h0 : P 0 s) (step : ∀ i < n, ∀ s, P i s → ∃ s', f s i = some s' ∧ P (i + 1) s') :
    ∃ s', (List.range n).foldlM f s = some s' ∧ P n s' := by
  induction n with
  | zero => exact ⟨s, rfl, h0⟩
  | succ n ih =>
    obtain ⟨s₁, hrun, hs₁⟩ := ih fun i hi => step i (Nat.lt_succ_of_lt hi)
    obtain ⟨s₂, hlast, hs₂⟩ := step n (Nat.lt_succ_self n) s₁ hs₁
    exact ⟨s₂, by simp [List.range_succ, List.foldlM_append, hrun, hlast], hs₂⟩

namespace TwoPlz.Hpack

theorem toNat_continued (value : Nat) :
    ((0b10000000 ||| UInt8.ofNat value) &&& 0b01111111).toNat = value % 128 ∧
      ((0b10000000 ||| UInt8.ofNat value) &&& 0b10000000 == 0) = false := by
  refine ⟨?_, ?_⟩
  · rw [UInt8.toNat_and, UInt8.toNat_or, UInt8.toNat_ofNat', Nat.and_or_distrib_right]
    change (0 ||| (value % 2 ^ 8 &&& 2 ^ 7 - 1)) = _
    rw [Nat.zero_or, Nat.and_two_pow_sub_one_eq_mod]
    omega
  · rw [beq_eq_false_iff_ne]
    intro h
    have h7 := congrArg (fun b : UInt8 => b.toNat.testBit 7) h
    simp [UInt8.toNat_and, UInt8.toNat_or, Nat.testBit_and, Nat.testBit_or] at h7
    exact absurd (h7 (.inl (by decide))) (by decide)

theorem decodeVarint_encodeVarint {bytes shift : Nat} (ret : Nat) {value rounds : Nat} (rest : Bytes)
    (hbytes : bytes < MAX_BYTES) (hvalue : value < 2 ^ (7 * (MAX_BYTES - bytes)))
    (hrounds : value ≤ rounds) :
    decodeVarint bytes ret shift (encodeVarint rounds value ++ rest)
      = .ok (ret + value <<< shift, rest) := by
  have hlast : ∀ value < 128, (UInt8.ofNat value &&& 0b01111111).toNat = value ∧
      (UInt8.ofNat value &&& 0b10000000 == 0) = true := by decide +kernel
  induction rounds generalizing value bytes ret shift with
  | zero =>
    obtain rfl := Nat.le_zero.mp hrounds
    simp [encodeVarint, decodeVarint]
  | succ rounds ih =>
    rw [encodeVarint]
    split
    · rename_i hmore
      obtain ⟨hlow, hmore'⟩ := toNat_continued value
      have hmax : bytes + 1 ≠ MAX_BYTES := fun h => by
        rw [← h, Nat.add_sub_cancel_left] at hvalue
        omega
      have hbytes' : bytes + 1 < MAX_BYTES := by omega
      have hvalue' : value >>> 7 < 2 ^ (7 * (MAX_BYTES - (bytes + 1))) := by
        rw [Nat.shiftRight_eq_div_pow]
        refine Nat.div_lt_of_lt_mul ?_
        rwa [← Nat.pow_add, show 7 + 7 * (MAX_BYTES - (bytes + 1)) = 7 * (MAX_BYTES - bytes) from by
          omega]
      have hrounds' : value >>> 7 ≤ rounds := by
        rw [Nat.shiftRight_eq_div_pow]
        omega
      have hsum : ret + (value % 128) <<< shift + value >>> 7 <<< (shift + 7) = ret + value <<< shift := by
        have hsplit := Nat.div_add_mod value 128
        rw [Nat.shiftRight_eq_div_pow, Nat.shiftLeft_eq, Nat.shiftLeft_eq, Nat.shiftLeft_eq,
          Nat.add_comm shift, Nat.pow_add, Nat.add_assoc, ← Nat.mul_assoc, ← Nat.add_mul,
          Nat.add_comm (value % 128), Nat.mul_comm (value / 2 ^ 7)]
        rw [show 2 ^ 7 * (value / 2 ^ 7) + value % 128 = value from hsplit]
      rw [List.cons_append, decodeVarint, hlow, hmore', if_neg (by decide), if_neg hmax,
        ih _ hbytes' hvalue' hrounds', hsum]
    · rename_i hmore
      obtain ⟨hlow, hstop⟩ := hlast value (by omega)
      simp [decodeVarint, hlow, hstop]

theorem toNat_mask {n : Nat} (hn : n ≤ 8) : (UInt8.ofNat (2 ^ n - 1)).toNat = 2 ^ n - 1 := by
  have hpow : 2 ^ n ≤ UInt8.size := Nat.pow_le_pow_right (n := 2) (by decide) hn
  have hpos := Nat.two_pow_pos n
  exact UInt8.toNat_ofNat_of_lt' (by omega)

theorem and_mask {first : UInt8} {n value : Nat} (hn : n ≤ 8)
    (hfirst : first &&& UInt8.ofNat (2 ^ n - 1) = 0) (hvalue : value < 2 ^ n) :
    ((first ||| UInt8.ofNat value) &&& UInt8.ofNat (2 ^ n - 1)).toNat = value := by
  have hmask := toNat_mask hn
  have hpow : 2 ^ n ≤ UInt8.size := Nat.pow_le_pow_right (n := 2) (by decide) hn
  have hval : (UInt8.ofNat value).toNat = value := UInt8.toNat_ofNat_of_lt' (by omega)
  have hzero := congrArg UInt8.toNat hfirst
  rw [UInt8.toNat_and, hmask] at hzero
  rw [UInt8.toNat_and, UInt8.toNat_or, hmask, hval, Nat.and_or_distrib_right, hzero,
    Nat.and_two_pow_sub_one_eq_mod, Nat.mod_eq_of_lt hvalue]
  exact Nat.zero_or value

theorem decodeInt_encodeInt {n value : Nat} (first : UInt8) (rest : Bytes) (hn : 1 ≤ n ∧ n ≤ 8)
    (hfirst : first &&& UInt8.ofNat (2 ^ n - 1) = 0) (hvalue : value < 2 ^ 28 + (2 ^ n - 1)) :
    decodeInt n (encodeInt value n first ++ rest) = .ok (value, rest) := by
  have hmask := toNat_mask hn.2
  have hlow : (1 <<< n) - 1 = 2 ^ n - 1 := by rw [Nat.shiftLeft_eq, Nat.one_mul]
  rw [decodeInt.eq_def, if_neg (not_not.mpr hn), encodeInt, encodeIntOneByte, hlow]
  by_cases hone : value < 2 ^ n - 1
  · rw [decide_eq_true hone, if_pos rfl]
    have hand := and_mask hn.2 hfirst (Nat.lt_of_lt_of_le hone (Nat.sub_le _ _))
    simp only [List.cons_append, List.nil_append, hand, hmask]
    rw [if_pos hone]
  · rw [decide_eq_false hone, if_neg Bool.false_ne_true]
    have hand := and_mask hn.2 hfirst (Nat.sub_lt (Nat.two_pow_pos n) Nat.one_pos)
    simp only [List.cons_append, hand, hmask]
    rw [if_neg (Nat.lt_irrefl _), decodeVarint_encodeVarint _ _ (by decide) _ (Nat.le_refl _),
      Nat.shiftLeft_zero, Nat.add_sub_cancel' (Nat.le_of_not_lt hone)]
    change value - (2 ^ n - 1) < 2 ^ 28
    omega

theorem length_encodeVarint {rounds value : Nat} (k : Nat) (hvalue : value < 2 ^ (7 * (k + 1))) :
    (encodeVarint rounds value).length ≤ k + 1 := by
  induction rounds generalizing k value with
  | zero => simp [encodeVarint]
  | succ rounds ih =>
    rw [encodeVarint]
    split
    · obtain _ | k := k
      · omega
      rw [List.length_cons]
      refine Nat.succ_le_succ (ih k ?_)
      rw [Nat.shiftRight_eq_div_pow]
      refine Nat.div_lt_of_lt_mul ?_
      rwa [← Nat.pow_add, Nat.add_comm, show 7 * (k + 1) + 7 = 7 * (k + 1 + 1) from by omega]
    · simp

theorem length_encodeInt (value n : Nat) (first : UInt8) (hvalue : value < 2 ^ 28 + (2 ^ n - 1)) :
    0 < (encodeInt value n first).length ∧ (encodeInt value n first).length ≤ PLACEHOLDER_LEN := by
  rw [encodeInt, Nat.shiftLeft_eq, Nat.one_mul]
  split
  · simp [PLACEHOLDER_LEN]
  · have hlen : (encodeVarint (value - (2 ^ n - 1)) (value - (2 ^ n - 1))).length ≤ 3 + 1 :=
      length_encodeVarint 3 (Nat.lt_of_le_of_lt (by omega : value - (2 ^ n - 1) ≤ 2 ^ 28 - 1) (by decide))
    rw [List.length_cons, PLACEHOLDER_LEN]
    omega

theorem writeAt_some {dst : Bytes} {i : Nat} (h : i < dst.length) (b : UInt8) :
    writeAt dst i b = some (dst.set i b) := if_pos h

structure Moved (pre head raw dst₀ : Bytes) (i : Nat) (dst : Bytes) : Prop where
  length : dst.length = pre.length + head.length + raw.length
  front : ∀ j < pre.length + 1 + (raw.length - i), dst[j]? = dst₀[j]?
  back : ∀ k, raw.length - i ≤ k → k < raw.length → dst[pre.length + head.length + k]? = raw[k]?

theorem moveString_some (pre raw : Bytes) {head : Bytes} (hhead : head ≠ []) :
    ∃ dst, moveString pre.length head.length raw.length (pre ++ [0] ++ raw ++ head.tail) = some dst ∧
      Moved pre head raw (pre ++ [0] ++ raw ++ head.tail) raw.length dst := by
  have hlen := List.length_pos_iff.mpr hhead
  refine List.foldlM_range_some ⟨by simp; omega, fun _ _ => rfl, fun k hle hlt => by omega⟩
    fun i hi dst h => ?_
  have hread : dst[pre.length + 1 + (raw.length - (i + 1))]? =
      some raw[raw.length - (i + 1)] := by
    rw [h.front _ (by omega), List.append_assoc, List.getElem?_append_right (by simp),
      List.getElem?_append_left (by simp; omega)]
    simp [show raw.length - (i + 1) < raw.length from by omega]
  have hwrite : pre.length + head.length + (raw.length - (i + 1)) < dst.length := by
    rw [h.length]
    omega
  refine ⟨_, by dsimp only; rw [hread]; exact writeAt_some hwrite _,
    ⟨?_, fun j hj => ?_, fun k hle hlt => ?_⟩⟩
  · rw [List.length_set, h.length]
  · rw [List.getElem?_set_ne (by omega), h.front j (by omega)]
  · by_cases hk : k = raw.length - (i + 1)
    · subst hk
      rw [List.getElem?_set_self hwrite, List.getElem?_eq_getElem]
    · rw [List.getElem?_set_ne (by omega), h.back k (by omega) hlt]

theorem copyHead_some {pre head raw dst : Bytes}
    (h : Moved pre head raw (pre ++ [0] ++ raw ++ head.tail) raw.length dst) :
    copyHead pre.length head dst = some (pre ++ head ++ raw) := by
  obtain ⟨dst', hcopy, hdst'⟩ := List.foldlM_range_some (n := head.length) (s := dst)
    (f := fun (dst : Bytes) i => do writeAt dst (pre.length + i) (← head[i]?))
    (P := fun i dst' => dst'.length = dst.length ∧ (∀ j < i, dst'[pre.length + j]? = head[j]?) ∧
      ∀ j, j < pre.length ∨ pre.length + i ≤ j → dst'[j]? = dst[j]?)
    ⟨rfl, fun j hj => absurd hj (Nat.not_lt_zero j), fun _ _ => rfl⟩
    fun i hi dst' ⟨hlen, hhead, hrest⟩ => by
      have hwrite : pre.length + i < dst'.length := by
        rw [hlen, h.length]
        omega
      refine ⟨_, by rw [List.getElem?_eq_getElem hi]; exact writeAt_some hwrite _,
        ⟨by rw [List.length_set, hlen], fun j hj => ?_, fun j hj => ?_⟩⟩
      · by_cases hji : j = i
        · subst hji
          rw [List.getElem?_set_self hwrite, List.getElem?_eq_getElem]
        · rw [List.getElem?_set_ne (by omega), hhead j (by omega)]
      · rw [List.getElem?_set_ne (by omega), hrest j (by omega)]
  obtain ⟨hlen, hhead, hrest⟩ := hdst'
  rw [copyHead, hcopy]
  congr 1
  apply List.ext_getElem?
  intro j
  by_cases hpre : j < pre.length
  · rw [hrest j (.inl hpre), h.front j (by omega), List.append_assoc, List.append_assoc,
      List.append_assoc, List.getElem?_append_left hpre, List.getElem?_append_left hpre]
  by_cases hmid : j < pre.length + head.length
  · have hj := hhead (j - pre.length) (by omega)
    rw [Nat.add_sub_cancel' (Nat.le_of_not_lt hpre)] at hj
    rw [hj, List.append_assoc, List.getElem?_append_right (by omega),
      List.getElem?_append_left (by omega)]
  by_cases hback : j < pre.length + head.length + raw.length
  · have hj := h.back (j - (pre.length + head.length)) (by omega) (by omega)
    rw [Nat.add_sub_cancel' (Nat.le_of_not_lt hmid)] at hj
    rw [hrest j (.inr (by omega)), hj, List.getElem?_append_right (by simp; omega),
      List.length_append]
  · rw [List.getElem?_eq_none (by rw [hlen, h.length]; omega),
      List.getElem?_eq_none (by simp; omega)]

theorem encodeStr_some {val raw : Bytes} (dst : Bytes) (hne : val ≠ [])
    (hraw : Huffman.encode val (dst ++ [0]) = some (dst ++ [0] ++ raw))
    (hlen : raw.length < 2 ^ 28 + 127) :
    encodeStr val dst = some (dst ++ encodeInt raw.length 7 0x80 ++ raw) := by
  have hsub : (dst ++ [0] ++ raw).length - (dst.length + 1) = raw.length := by
    simp only [List.length_append, List.length_singleton, Nat.add_sub_cancel_left]
  have hhead := length_encodeInt raw.length 7 0x80 hlen
  rw [encodeStr, if_neg (by simpa using hne), Option.bind_eq_bind, hraw, Option.bind_some]
  dsimp only
  rw [hsub]
  split
  · rename_i hone
    rw [writeAt_some (by simp), encodeInt, if_pos hone, List.append_assoc,
      List.set_append_right _ _ (Nat.le_refl _), Nat.sub_self]
    simp
  · obtain ⟨dst', hmove, hdst'⟩ := moveString_some dst raw (List.length_pos_iff.mp hhead.1)
    rw [if_pos hhead.2, hmove, Option.bind_some, copyHead_some hdst']

def huffmanLen (val : Bytes) : Nat := ((Huffman.wordsOf val).length + 7) / 8

theorem length_ofBytes (bs : Bytes) : (Bits.ofBytes bs).length = 8 * bs.length := by
  induction bs with
  | nil => rfl
  | cons b bs ih =>
    rw [Bits.ofBytes_cons, List.length_append, ih, Bits.length_ofNat, List.length_cons]
    omega

theorem length_of_padded {val raw : Bytes} {pad : List Bool} (hpad : Huffman.Padding pad)
    (h : Bits.ofBytes raw = Huffman.wordsOf val ++ pad) : raw.length = huffmanLen val := by
  obtain ⟨n, hn, rfl⟩ := hpad
  have hlen := congrArg List.length h
  rw [length_ofBytes, List.length_append, List.length_replicate] at hlen
  rw [huffmanLen]
  omega

theorem encodeInt_head (value n : Nat) (first : UInt8) :
    ∃ k < 2 ^ n, ∃ bs, encodeInt value n first = (first ||| UInt8.ofNat k) :: bs := by
  have hpos := Nat.two_pow_pos n
  rw [encodeInt, encodeIntOneByte, Nat.shiftLeft_eq, Nat.one_mul]
  by_cases hone : value < 2 ^ n - 1
  · rw [decide_eq_true hone]
    exact ⟨value, by omega, _, rfl⟩
  · rw [decide_eq_false hone]
    exact ⟨2 ^ n - 1, by omega, _, rfl⟩

theorem load_prefixes :
    (∀ k < 2 ^ 7, Representation.load (0x80 ||| UInt8.ofNat k) = .ok .indexed ∧
      (0x80 ||| UInt8.ofNat k) &&& HUFF_FLAG = HUFF_FLAG) ∧
    (∀ k < 2 ^ 6, Representation.load (0b01000000 ||| UInt8.ofNat k) = .ok .literalWithIndexing) ∧
    (∀ k < 2 ^ 4, Representation.load (0 ||| UInt8.ofNat k) = .ok .literalWithoutIndexing) ∧
    ∀ k < 2 ^ 5, Representation.load (0b00100000 ||| UInt8.ofNat k) = .ok .sizeUpdate := by
  decide +kernel

theorem load_indexed : ∀ k < 2 ^ 7, Representation.load (0x80 ||| UInt8.ofNat k) = .ok .indexed ∧
    (0x80 ||| UInt8.ofNat k) &&& HUFF_FLAG = HUFF_FLAG := load_prefixes.1

theorem load_withIndexing : ∀ k < 2 ^ 6,
    Representation.load (0b01000000 ||| UInt8.ofNat k) = .ok .literalWithIndexing := load_prefixes.2.1

theorem load_withoutIndexing : ∀ k < 2 ^ 4,
    Representation.load (0 ||| UInt8.ofNat k) = .ok .literalWithoutIndexing := load_prefixes.2.2.1

theorem load_sizeUpdate : ∀ k < 2 ^ 5,
    Representation.load (0b00100000 ||| UInt8.ofNat k) = .ok .sizeUpdate := load_prefixes.2.2.2

theorem encodeStr_scan (val dst : Bytes) (hlen : huffmanLen val < 2 ^ 28 + 127) :
    ∃ out, encodeStr val dst = some (dst ++ out) ∧
      ∀ rest, scanString [] (out ++ rest) = .ok ((val, []), rest) := by
  by_cases hne : val = []
  · subst hne
    refine ⟨[0], rfl, fun rest => ?_⟩
    rfl
  · obtain ⟨raw, pad, hencode, hpad, hbits⟩ := Huffman.encode_bits val (dst ++ [0])
    have hraw := length_of_padded hpad hbits
    rw [← hraw] at hlen
    refine ⟨encodeInt raw.length 7 0x80 ++ raw, ?_, fun rest => ?_⟩
    · rw [encodeStr_some dst hne hencode hlen, List.append_assoc]
    · obtain ⟨k, hk, bs, hhead⟩ := encodeInt_head raw.length 7 0x80
      have hflag := (load_indexed k hk).2
      have hint := decodeInt_encodeInt (n := 7) 0x80 (raw ++ rest) (by decide) (by decide)
        hlen
      have hdecode := (Huffman.decode_iff raw val).mpr ⟨pad, hpad, hbits⟩
      rw [List.append_assoc, hhead, List.cons_append] at *
      rw [scanString, hint]
      dsimp only
      rw [if_neg (by simp), if_pos (by rw [beq_iff_eq]; exact hflag), List.take_left, hdecode,
        List.drop_left]

def literalHead (index : Bool) (n : Nat) : Bytes :=
  if index then encodeInt n 6 0b01000000 else encodeInt n 4 0

theorem decodeInt_literalHead (index : Bool) {n : Nat} (hn : n < 2 ^ 28) (bs : Bytes) :
    decodeInt (if index then 6 else 4) (literalHead index n ++ bs) = .ok (n, bs) := by
  cases index with
  | true => exact decodeInt_encodeInt (n := 6) _ bs (by decide) (by decide) (by omega)
  | false => exact decodeInt_encodeInt (n := 4) _ bs (by decide) (by decide) (by omega)

section

variable [HeaderPlz] {canResize : Bool} {d d' : Decoder} {bs rest : Bytes} {out : List Header}

theorem Accepts.indexed {n : Nat} {e : Header} (hn : n < 2 ^ 28 + 127)
    (hget : d.table.get n = some (.ok e)) (h : Accepts false d rest out d') :
    Accepts canResize d (encodeInt n 7 0x80 ++ rest) (e :: out) d' := by
  have hint := decodeInt_encodeInt (n := 7) 0x80 rest (by decide) (by decide) hn
  obtain ⟨k, hk, bs, hhead⟩ := encodeInt_head n 7 0x80
  rw [hhead, List.cons_append] at hint ⊢
  refine .round ?_ (rfl : (Rep.indexed e).apply d = some (.ok (d, [e]))) h
  rw [scanOne, (load_indexed k hk).1]
  change (do
    let index ← (decodeInt 7 : Parser Nat)
    let e ← scanGet d.table index
    pure (.indexed e, []) : Parser (Rep × Bytes)) _ = _
  have hscan : scanGet d.table n rest = .ok (e, rest) := by rw [scanGet, hget]
  rw [StateT.bind_ok hint, StateT.bind_ok hscan]
  rfl

theorem Accepts.sizeUpdate {val : Nat} {t : DynamicTable} (hval : val < 2 ^ 28 + 31)
    (hmax : val ≤ d.lastMaxUpdate) (hset : d.table.setMaxSize val = some t)
    (h : Accepts true { d with table := t } rest out d') :
    Accepts true d (encodeSizeUpdate val ++ rest) out d' := by
  have hint := decodeInt_encodeInt (n := 5) 0b00100000 rest (by decide) (by decide) hval
  obtain ⟨k, hk, bs, hhead⟩ := encodeInt_head val 5 0b00100000
  rw [encodeSizeUpdate, hhead, List.cons_append]
  rw [hhead, List.cons_append] at hint
  refine .round ?_ (?_ : (Rep.sizeUpdate val).apply d = some (.ok ({ d with table := t }, []))) h
  · rw [scanOne, load_sizeUpdate k hk]
    change (do
      let newSize ← (decodeInt 5 : Parser Nat)
      pure (.sizeUpdate newSize, []) : Parser (Rep × Bytes)) _ = _
    rw [StateT.bind_ok hint]
    rfl
  · rw [Rep.apply, if_neg (Nat.not_lt.mpr hmax), hset]
    rfl

theorem scanOne_literal (index : Bool) (n : Nat) (t : DynamicTable) (canResize : Bool)
    (bs : Bytes) :
    ∃ ty tail, literalHead index n ++ bs = ty :: tail ∧
      scanOne t [] canResize (ty :: tail) = scanLiteral t [] index (ty :: tail) := by
  cases index with
  | true =>
    obtain ⟨k, hk, tail, hhead⟩ := encodeInt_head n 6 0b01000000
    refine ⟨_, _, by rw [literalHead, if_pos rfl, hhead]; rfl, ?_⟩
    rw [scanOne, load_withIndexing k hk]
  | false =>
    obtain ⟨k, hk, tail, hhead⟩ := encodeInt_head n 4 0
    refine ⟨_, _, by rw [literalHead, if_neg Bool.false_ne_true, hhead]; rfl, ?_⟩
    rw [scanOne, load_withoutIndexing k hk]

theorem Accepts.literalIndexedName {index : Bool} {n : Nat} {e entry : Header} {value str : Bytes}
    {t : DynamicTable} (hpos : n ≠ 0) (hn : n < 2 ^ 28) (hget : d.table.get n = some (.ok e))
    (hvalue : ∀ rest, scanString [] (str ++ rest) = .ok ((value, []), rest))
    (hentry : e.name.intoEntry value = .ok entry)
    (hinsert : if index then d.table.insert entry = some t else d.table = t)
    (h : Accepts false { d with table := t } rest out d') :
    Accepts canResize d (literalHead index n ++ (str ++ rest)) (entry :: out) d' := by
  obtain ⟨ty, tail, hcons, hscan⟩ := scanOne_literal index n d.table canResize (str ++ rest)
  have hint := decodeInt_literalHead index hn (str ++ rest)
  rw [hcons] at hint ⊢
  refine .round ?_ (?_ : (Rep.literal (.inl e.name) value index).apply d =
    some (.ok ({ d with table := t }, [entry]))) h
  · have hname : scanGet d.table n (str ++ rest) = .ok (e, str ++ rest) := by rw [scanGet, hget]
    rw [hscan, scanLiteral, StateT.bind_ok hint, if_neg hpos, StateT.bind_ok hname,
      StateT.bind_ok (hvalue rest)]
    rfl
  · rw [Rep.apply, entryOf, hentry]
    cases index with
    | true => simp only [if_true] at hinsert ⊢; rw [hinsert]; rfl
    | false => simp at hinsert ⊢; rw [← hinsert]

theorem Accepts.literalNewName {index : Bool} {entry : Header} {name value str str' : Bytes}
    {t : DynamicTable} (hname : ∀ rest, scanString [] (str ++ rest) = .ok ((name, []), rest))
    (hvalue : ∀ rest, scanString [] (str' ++ rest) = .ok ((value, []), rest))
    (hentry : Header.new name value = .ok entry)
    (hinsert : if index then d.table.insert entry = some t else d.table = t)
    (h : Accepts false { d with table := t } rest out d') :
    Accepts canResize d (literalHead index 0 ++ (str ++ (str' ++ rest))) (entry :: out) d' := by
  obtain ⟨ty, tail, hcons, hscan⟩ :=
    scanOne_literal index 0 d.table canResize (str ++ (str' ++ rest))
  have hint := decodeInt_literalHead index (by decide : 0 < 2 ^ 28) (str ++ (str' ++ rest))
  rw [hcons] at hint ⊢
  refine .round ?_ (?_ : (Rep.literal (.inr name) value index).apply d =
    some (.ok ({ d with table := t }, [entry]))) h
  · rw [hscan, scanLiteral, StateT.bind_ok hint, if_pos rfl, StateT.bind_ok (hname _),
      StateT.bind_ok (hvalue rest)]
    rfl
  · rw [Rep.apply, entryOf, hentry]
    cases index with
    | true => simp only [if_true] at hinsert ⊢; rw [hinsert]; rfl
    | false => simp at hinsert ⊢; rw [← hinsert]

theorem Accepts.decode (h : Accepts true d.takeSizeUpdate bs out d') (hbuffer : d.buffer = []) :
    d.decode bs = some (.ok (), ⟨d', ⟨[], 0⟩, out⟩) :=
  h.decodeLoop (Decoder.takeSizeUpdate_idle hbuffer).1 (Nat.le_refl _)

end

end TwoPlz.Hpack
