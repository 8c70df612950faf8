import TwoPlz.Hpack.HuffmanCode

/-! The Huffman decoder accepts the words of its code with their padding, and reads back what the
encoder writes. -/

namespace TwoPlz.Hpack.Huffman

structure Decoder.Reads (d : Decoder) (bits : List Bool) : Prop where
  state_lt : d.state < DECODE_TABLE.length
  read : bits = statePrefix d.state
  final : d.isFinal = true ↔ Padding bits

theorem Decoder.new_reads : Decoder.new.Reads [] := by
  refine ⟨by decide +kernel, ?_, iff_of_true rfl ⟨0, by decide, rfl⟩⟩
  change [] = bitsOf (nodes.getD 0 (0, 0))
  rw [nodes_zero]
  rfl

def wordsOf (str : Bytes) : List Bool := code.words (str.map some)

theorem Decoder.Reads.decode4 {d : Decoder} {bits : List Bool} {nibble : Nat} (hd : d.Reads bits)
    (hnibble : nibble < 16) :
    (d.decode4 nibble = some (.error .invalidHuffmanCode) ∧
      ∃ rest, bits ++ Bits.ofNat 4 nibble = code.word none ++ rest) ∨
    ∃ out d' bits', d.decode4 nibble = some (.ok (out, d')) ∧ d'.Reads bits' ∧
      bits ++ Bits.ofNat 4 nibble = wordsOf out.toList ++ bits' := by
  obtain ⟨next, byte, flags, hlookup, hentry⟩ := lookup_entry hd.state_lt hnibble
  rw [hd.read, Decoder.decode4, hlookup, Option.bind_eq_bind, Option.bind_some]
  by_cases herr : flags &&& ERROR = ERROR
  · exact .inl ⟨if_pos herr, hentry.error herr⟩
  · refine .inr ⟨_, _, statePrefix next, if_neg herr, ⟨hentry.next_lt, rfl, ?_⟩, ?_⟩
    · simp only [Decoder.isFinal, Bool.or_eq_true, beq_iff_eq, decide_eq_true_eq]
      exact hentry.final herr
    · rw [hentry.reads herr]
      by_cases hdec : flags &&& DECODED = DECODED
      · simp [hdec, wordsOf]
      · simp [hdec, wordsOf]

@[simp] theorem wordsOf_append (a b : Bytes) : wordsOf (a ++ b) = wordsOf a ++ wordsOf b := by
  simp [wordsOf]

theorem ofNat_byte (b : UInt8) :
    Bits.ofNat 8 b.toNat = Bits.ofNat 4 (b.toNat / 16) ++ Bits.ofNat 4 (b.toNat % 16) := by
  have hmod : Bits.ofNat 4 b.toNat = Bits.ofNat 4 (b.toNat % 16) := by
    refine Bits.value_injective (by simp) ?_
    rw [Bits.value_ofNat, Bits.value_ofNat]
    omega
  rw [← hmod]
  exact Bits.ofNat_add 4 4 b.toNat

/-- The loop of `decode` reads whole words up to where it is, or it has seen the end of the
string. -/
theorem decodeBytes_reads {d : Decoder} {bits : List Bool} (hd : d.Reads bits) (src buf : Bytes) :
    ∃ out, (∃ d' bits', decodeBytes src d buf = some (.ok d', buf ++ out) ∧ d'.Reads bits' ∧
        bits ++ Bits.ofBytes src = wordsOf out ++ bits') ∨
      (decodeBytes src d buf = some (.error .invalidHuffmanCode, buf ++ out) ∧
        ∃ rest, bits ++ Bits.ofBytes src = wordsOf out ++ (code.word none ++ rest)) := by
  induction src generalizing d bits buf with
  | nil => exact ⟨[], .inl ⟨d, bits, by simp [decodeBytes], hd, by simp [wordsOf]⟩⟩
  | cons b src ih =>
    have hb : b.toNat < 256 := b.toNat_lt
    have hhigh : b.toNat / 16 < 16 := by omega
    have hlow : b.toNat % 16 < 16 := by omega
    rw [decodeBytes, Bits.ofBytes_cons, ofNat_byte]
    rcases hd.decode4 hhigh with ⟨hdecode, rest, hrest⟩ | ⟨high, d₁, bits₁, hdecode, hd₁, hread₁⟩
    · refine ⟨[], .inr ⟨by simp [hdecode], ?_⟩⟩
      refine ⟨rest ++ (Bits.ofNat 4 (b.toNat % 16) ++ Bits.ofBytes src), ?_⟩
      calc bits ++ (Bits.ofNat 4 (b.toNat / 16) ++ Bits.ofNat 4 (b.toNat % 16) ++ Bits.ofBytes src)
        _ = bits ++ Bits.ofNat 4 (b.toNat / 16) ++ (Bits.ofNat 4 (b.toNat % 16)
            ++ Bits.ofBytes src) := by simp
        _ = _ := by rw [hrest]; simp [wordsOf]
    have hassoc : bits ++ (Bits.ofNat 4 (b.toNat / 16) ++ Bits.ofNat 4 (b.toNat % 16)
        ++ Bits.ofBytes src) = wordsOf high.toList ++ (bits₁ ++ Bits.ofNat 4 (b.toNat % 16)
        ++ Bits.ofBytes src) := by
      simp only [← List.append_assoc, hread₁]
    rw [hassoc]
    rcases hd₁.decode4 hlow with ⟨hdecode', rest, hrest⟩ | ⟨low, d₂, bits₂, hdecode', hd₂, hread₂⟩
    · refine ⟨high.toList, .inr ⟨by simp [hdecode, hdecode'], rest ++ Bits.ofBytes src, ?_⟩⟩
      rw [hrest, List.append_assoc]
    obtain ⟨out, hout⟩ := ih hd₂ (buf ++ high.toList ++ low.toList)
    refine ⟨high.toList ++ low.toList ++ out, ?_⟩
    simp only [hdecode, hdecode', Option.bind_eq_bind, Option.bind_some]
    rw [hread₂, wordsOf_append, wordsOf_append]
    rcases hout with ⟨d', bits', hrun, hd', hread⟩ | ⟨hrun, rest, hread⟩
    · refine .inl ⟨d', bits', by simpa [List.append_assoc] using hrun, hd', ?_⟩
      rw [List.append_assoc, hread]
      simp
    · refine .inr ⟨by simpa [List.append_assoc] using hrun, rest, ?_⟩
      rw [List.append_assoc, hread]
      simp

theorem Padding.partial_code {bits : List Bool} (h : Padding bits) : code.Partial bits := by
  obtain ⟨n, hn, rfl⟩ := h
  refine PrefixCode.Partial.of_word (a := none) ?_ fun heq => ?_
  · rw [word_none, show 30 = n + (30 - n) from by omega, List.replicate_add]
    exact List.prefix_append _ _
  · rw [word_none] at heq
    have := congrArg List.length heq
    simp only [List.length_replicate] at this
    omega

theorem map_some_injective {a b : Bytes} (h : a.map some = b.map some) : a = b :=
  (List.map_injective_iff.mpr (Option.some_injective _)) h

theorem decode_iff (src str : Bytes) :
    decode src [] = some (.ok str, []) ↔
      ∃ pad, Padding pad ∧ Bits.ofBytes src = wordsOf str ++ pad := by
  obtain ⟨out, ⟨d, bits, hrun, hd, hread⟩ | ⟨hrun, rest, hread⟩⟩ :=
    decodeBytes_reads Decoder.new_reads src []
  · rw [decode, hrun, Option.bind_eq_bind, Option.bind_some]
    rw [List.nil_append] at hread ⊢
    have hpartial : code.Partial bits := hd.read ▸ statePrefix_partial hd.state_lt
    dsimp only
    constructor
    · intro h
      split at h
      · rename_i hfinal
        cases h
        exact ⟨bits, hd.final.mp hfinal, hread⟩
      · cases h
    · rintro ⟨pad, hpad, hsrc⟩
      obtain ⟨hout, hbits⟩ :=
        PrefixCode.words_inj hpartial hpad.partial_code (hread.symm.trans hsrc)
      rw [if_pos (hd.final.mpr (hbits ▸ hpad)), map_some_injective hout]
  · rw [decode, hrun, Option.bind_eq_bind, Option.bind_some]
    refine iff_of_false (fun h => by cases h) ?_
    rintro ⟨pad, hpad, hsrc⟩
    -- the end of the string would be one of the bytes
    have hwords :
        code.words (out.map some ++ [none]) ++ rest = code.words (str.map some) ++ pad := by
      rw [PrefixCode.words_append, PrefixCode.words_cons, PrefixCode.words_nil, List.append_nil,
        List.append_assoc]
      exact hread.symm.trans hsrc
    have hmem : none ∈ str.map some := (PrefixCode.words_front hpad.partial_code hwords).subset
      (List.mem_append_right _ List.mem_cons_self)
    simp at hmem

namespace Encoder

structure Holds (e : Encoder) (bits : List Bool) (dst : Bytes) (pending : List Bool) : Prop where
  split : ∃ out, e.dst = dst ++ out ∧ bits = Bits.ofBytes out ++ pending
  left : e.bitsLeft + pending.length = 40
  bits : e.bits = (Bits.value bits <<< e.bitsLeft) % 2 ^ 64

variable {e : Encoder} {bits pending : List Bool} {dst : Bytes}

omit e bits pending dst in
theorem shiftRight_value (front byte rest : List Bool) (left : Nat) (hbyte : byte.length = 8)
    (hrest : left + rest.length = 32) :
    UInt8.ofNat ((Bits.value (front ++ byte ++ rest) <<< left % 2 ^ 64) >>> 32)
      = UInt8.ofNat (Bits.value byte) := by
  have hlt := Nat.mul_lt_mul_of_pos_right (Bits.value_lt rest) (Nat.two_pow_pos left)
  rw [← Nat.pow_add, Nat.add_comm, hrest] at hlt
  have hvalue : Bits.value (front ++ byte ++ rest) <<< left
      = (Bits.value front * 256 + Bits.value byte) * 2 ^ 32 + Bits.value rest * 2 ^ left := by
    have hbytes : 2 ^ 8 = 256 := by decide
    rw [Bits.value_append, Bits.value_append, hbyte, Nat.shiftLeft_eq, Nat.add_mul, Nat.mul_assoc,
      ← Nat.pow_add, Nat.add_comm rest.length, hrest, hbytes]
  rw [hvalue, Nat.shiftRight_eq_div_pow, ← UInt8.toNat_inj, UInt8.toNat_ofNat', UInt8.toNat_ofNat']
  omega

omit e bits pending dst in
theorem or_shiftLeft_value (bits word : List Bool) (left : Nat) :
    Bits.value bits <<< (word.length + left) % 2 ^ 64 ||| (Bits.value word <<< left) % 2 ^ 64
      = (Bits.value (bits ++ word) <<< left) % 2 ^ 64 := by
  rw [← Nat.or_mod_two_pow, Nat.shiftLeft_add, ← Nat.shiftLeft_or_distrib,
    ← Nat.shiftLeft_add_eq_or_of_lt (Bits.value_lt word), Nat.shiftLeft_eq (Bits.value bits),
    ← Bits.value_append]

theorem Holds.drain (h : e.Holds bits dst pending) (rounds : Nat)
    (hr : 32 < e.bitsLeft + 8 * rounds) :
    ∃ e' pending', Encoder.drain rounds e = some e' ∧ e'.Holds bits dst pending'
      ∧ pending'.length < 8 := by
  have hleft := h.left
  induction rounds generalizing e pending with
  | zero => exact ⟨e, pending, if_neg (by omega), h, by omega⟩
  | succ rounds ih =>
    by_cases hfull : e.bitsLeft ≤ 32
    · rw [Encoder.drain, if_pos hfull]
      obtain ⟨out, hdst, hbits⟩ := h.split
      have hlen : (pending.take 8).length = 8 := by
        rw [List.length_take]
        omega
      have hbyte : UInt8.ofNat (e.bits >>> 32) = UInt8.ofNat (Bits.value (pending.take 8)) := by
        have hrest : e.bitsLeft + (pending.drop 8).length = 32 := by
          rw [List.length_drop]
          omega
        rw [h.bits, hbits, ← List.take_append_drop 8 pending, ← List.append_assoc,
          shiftRight_value _ _ _ _ hlen hrest]
        simp
      have hread : Bits.ofNat 8 (UInt8.ofNat (e.bits >>> 32)).toNat = pending.take 8 := by
        have hlt := Bits.value_lt (pending.take 8)
        rw [hlen] at hlt
        rw [hbyte, UInt8.toNat_ofNat_of_lt' hlt]
        calc Bits.ofNat 8 (Bits.value (pending.take 8))
          _ = Bits.ofNat (pending.take 8).length (Bits.value (pending.take 8)) := by rw [hlen]
          _ = pending.take 8 := Bits.ofNat_value _
      have hnext : Holds ⟨(e.bits <<< 8) % 2 ^ 64, e.bitsLeft + 8,
          e.dst ++ [UInt8.ofNat (e.bits >>> 32)]⟩ bits dst (pending.drop 8) := by
        refine ⟨⟨out ++ [UInt8.ofNat (e.bits >>> 32)], by simp [hdst], ?_⟩, ?_, ?_⟩
        · rw [Bits.ofBytes_append, Bits.ofBytes_cons, hread, Bits.ofBytes_nil, List.append_nil,
            List.append_assoc, List.take_append_drop, hbits]
        · simp only [List.length_drop]
          omega
        · rw [h.bits, Nat.shiftLeft_add, Nat.shiftLeft_eq _ 8, Nat.shiftLeft_eq _ 8,
            Nat.mod_mul_mod]
      exact ih hnext (by simp only; omega) hnext.left
    · exact ⟨e, pending, if_neg hfull, h, by omega⟩

theorem Holds.put (h : e.Holds bits dst pending) (hlen : pending.length < 8) (b : UInt8) :
    ∃ e' pending', e.put b = some e' ∧ e'.Holds (bits ++ code.word (some b)) dst pending'
      ∧ pending'.length < 8 := by
  obtain ⟨hlt, hwidth⟩ := encodeTable_width _ (List.mem_of_getElem? (getElem?_wordOf (some b)))
  have hleft := h.left
  obtain ⟨out, hdst, hbits⟩ := h.split
  have hget : ENCODE_TABLE[b.toNat]? = some (wordOf (some b)) := getElem?_wordOf (some b)
  have hword : code.word (some b) = bitsOf (wordOf (some b)) := rfl
  generalize wordOf (some b) = w at hlt hwidth hget hword
  have hvalue : Bits.value (bitsOf w) = w.2 := by
    rw [bitsOf, Bits.value_ofNat, Nat.mod_eq_of_lt hlt]
  have hnext : Holds ⟨e.bits ||| (w.2 <<< (e.bitsLeft - w.1)) % 2 ^ 64, e.bitsLeft - w.1, e.dst⟩
      (bits ++ bitsOf w) dst (pending ++ bitsOf w) := by
    refine ⟨⟨out, hdst, by rw [hbits, List.append_assoc]⟩, ?_, ?_⟩
    · simp only [List.length_append, bitsOf, Bits.length_ofNat]
      omega
    · have hor := or_shiftLeft_value bits (bitsOf w) (e.bitsLeft - w.1)
      rw [hvalue, bitsOf, Bits.length_ofNat, ← bitsOf, Nat.add_sub_cancel' (by omega)] at hor
      rw [h.bits, hor]
  rw [hword, Encoder.put, hget, Option.bind_eq_bind, Option.bind_some]
  obtain ⟨e', pending', hdrain, hholds, hlen'⟩ := hnext.drain 5 (by simp only; omega)
  exact ⟨e', pending', by rw [← hdrain]; exact if_pos ⟨by omega, by omega⟩, hholds, hlen'⟩

theorem Holds.finish (h : e.Holds bits dst pending) (hlen : pending.length < 8) :
    ∃ out pad, e.finish = some (dst ++ out) ∧ Padding pad ∧ Bits.ofBytes out = bits ++ pad := by
  have hleft := h.left
  obtain ⟨out, hdst, hbits⟩ := h.split
  rw [Encoder.finish]
  by_cases hempty : e.bitsLeft ≠ 40
  · rw [if_pos hempty, if_pos (by omega)]
    refine ⟨out ++ [UInt8.ofNat ((e.bits ||| (1 <<< e.bitsLeft - 1)) >>> 32)],
      List.replicate (8 - pending.length) true, by simp [hdst], ⟨_, by omega, rfl⟩, ?_⟩
    have hones := Bits.value_replicate_true e.bitsLeft
    have hlt : 1 <<< e.bitsLeft - 1 < 2 ^ 64 := by
      rw [Nat.shiftLeft_eq, Nat.one_mul]
      exact Nat.lt_of_le_of_lt (Nat.sub_le _ _) (Nat.pow_lt_pow_right (by decide) (by omega))
    have hor := or_shiftLeft_value bits (List.replicate e.bitsLeft true) 0
    rw [List.length_replicate, Nat.add_zero, Nat.shiftLeft_zero, ← h.bits,
      show Bits.value (List.replicate e.bitsLeft true) = 1 <<< e.bitsLeft - 1 from by
        rw [Nat.shiftLeft_eq, Nat.one_mul]; omega, Nat.mod_eq_of_lt hlt] at hor
    have hsplit : bits ++ List.replicate e.bitsLeft true = Bits.ofBytes out
        ++ (pending ++ List.replicate (8 - pending.length) true) ++ List.replicate 32 true := by
      rw [hbits, show e.bitsLeft = 8 - pending.length + 32 from by omega, List.replicate_add]
      simp only [List.append_assoc]
    have hbyte : (pending ++ List.replicate (8 - pending.length) true).length = 8 := by
      rw [List.length_append, List.length_replicate]
      omega
    have hvalue := Bits.value_lt (pending ++ List.replicate (8 - pending.length) true)
    rw [hbyte] at hvalue
    rw [hor, hsplit, shiftRight_value _ _ _ 0 hbyte (by simp), Bits.ofBytes_append,
      Bits.ofBytes_cons, UInt8.toNat_ofNat_of_lt' hvalue, Bits.ofBytes_nil, List.append_nil, hbits, List.append_assoc]
    congr 1
    calc Bits.ofNat 8 (Bits.value (pending ++ List.replicate (8 - pending.length) true))
      _ = Bits.ofNat (pending ++ List.replicate (8 - pending.length) true).length
          (Bits.value (pending ++ List.replicate (8 - pending.length) true)) := by rw [hbyte]
      _ = _ := Bits.ofNat_value _
  · have hnil : pending = [] := List.eq_nil_of_length_eq_zero (by omega)
    rw [if_neg hempty]
    exact ⟨out, [], by rw [hdst], ⟨0, by decide, rfl⟩, by simp [hbits, hnil]⟩

theorem Holds.foldlM (h : e.Holds bits dst pending) (hlen : pending.length < 8) (src : Bytes) :
    ∃ e' pending', src.foldlM Encoder.put e = some e' ∧ e'.Holds (bits ++ wordsOf src) dst pending'
      ∧ pending'.length < 8 := by
  induction src generalizing e bits pending with
  | nil => exact ⟨e, pending, rfl, by simpa [wordsOf] using h, hlen⟩
  | cons b src ih =>
    obtain ⟨e₁, pending₁, hput, h₁, hlen₁⟩ := h.put hlen b
    obtain ⟨e', pending', hrun, h', hlen'⟩ := ih h₁ hlen₁
    refine ⟨e', pending', by simpa [hput] using hrun, ?_, hlen'⟩
    rwa [List.append_assoc] at h'

end Encoder

theorem encode_bits (src dst : Bytes) :
    ∃ out pad, encode src dst = some (dst ++ out) ∧ Padding pad
      ∧ Bits.ofBytes out = wordsOf src ++ pad := by
  have hnew : (Encoder.new dst).Holds [] dst [] :=
    ⟨⟨[], (List.append_nil dst).symm, rfl⟩, rfl, rfl⟩
  obtain ⟨e, pending, hrun, h, hlen⟩ := hnew.foldlM (by decide) src
  obtain ⟨out, pad, hfinish, hpad, hbits⟩ := h.finish hlen
  exact ⟨out, pad, by rw [encode, hrun, Option.bind_some, hfinish], hpad, hbits⟩

theorem decode_encode (src dst : Bytes) :
    ∃ out, encode src dst = some (dst ++ out) ∧ decode out [] = some (.ok src, []) := by
  obtain ⟨out, pad, hencode, hpad, hbits⟩ := encode_bits src dst
  exact ⟨out, hencode, (decode_iff out src).mpr ⟨pad, hpad, hbits⟩⟩

/-- Encoding never fails and is undone by decoding, which accepts the words of a string of bytes
that are followed by less than a byte of ones, and nothing else. -/
theorem huffman_codec :
    (∀ src, ∃ out, encode src [] = some out ∧ decode out [] = some (.ok src, [])) ∧
    (∀ src str, decode src [] = some (.ok str, []) ↔
      ∃ n < 8, Bits.ofBytes src =
        (str.flatMap fun b => bitsOf (ENCODE_TABLE.getD b.toNat (0, 0))) ++ List.replicate n true) ∧
    ∀ src, (∃ str, decode src [] = some (.ok str, [])) ∨
      ∃ left, decode src [] = some (.error .invalidHuffmanCode, left) := by
  refine ⟨fun src => ?_, fun src str => ?_, fun src => decode_some src []⟩
  · obtain ⟨out, hencode, hdecode⟩ := decode_encode src []
    exact ⟨out, hencode, hdecode⟩
  · have hwords :
        (str.flatMap fun b => bitsOf (ENCODE_TABLE.getD b.toNat (0, 0))) = wordsOf str := by
      rw [wordsOf, PrefixCode.words, List.flatMap_map]
      rfl
    rw [decode_iff, hwords]
    constructor
    · rintro ⟨pad, ⟨n, hn, rfl⟩, h⟩
      exact ⟨n, hn, h⟩
    · rintro ⟨n, hn, h⟩
      exact ⟨_, ⟨n, hn, rfl⟩, h⟩

end TwoPlz.Hpack.Huffman
