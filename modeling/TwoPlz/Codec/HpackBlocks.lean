import TwoPlz.Codec.Forwarding
import TwoPlz.Codec.FramedWrite

/-! The encoder of `hpack/encoder.rs` is the one that the codec uses. -/

namespace TwoPlz

open Hpack

class NameHash where
  hash : Name → Nat

/-- The encoder of `hpack/encoder.rs`. -/
@[reducible] def NameHash.encoder [HeaderPlz] [NameHash] : HpackEncoder where
  State := Hpack.Encoder
  default := Hpack.Encoder.default
  encode := fun e b => (b.intoEncoding NameHash.hash e).map Prod.swap

section

attribute [local instance] plainCodes

@[reducible] def plainHash : NameHash := ⟨fun _ => 0⟩

attribute [local instance] plainHash NameHash.encoder

def getPath (id : Nat) (path : Bytes) : Headers :=
  Headers.new id { Pseudo.default with method := some HeaderPlz.GET, path := some path } []

theorem encode_getPath (id : Nat) {path : Bytes} (hroot : path ≠ ascii "/") (hindex : path ≠ ascii "/index.html") :
    HpackEncoder.encode (Hpack.Encoder.new 4096 0) (getPath id path).headerBlock =
      (encodeStr path [0x82, 4]).map fun block => (block, Hpack.Encoder.new 4096 0) := by
  have hstatic : indexStatic (.path path) = some (4, false) := by
    rw [indexStatic, if_neg hroot, if_neg hindex]
  have hencode : Encoder.encodeHeader (Table.new 4096 0) (.name 4 (.path path)) [0x82] = encodeStr path [0x82, 4] := by
    have hint : encodeInt 4 4 0 = [4] := by decide
    simp [Encoder.encodeHeader, Table.resolve, encodeNotIndexed, Header.isSensitive, Header.valueSlice, hint]
  have hget : (Table.new 4096 0).index NameHash.hash (.method HeaderPlz.GET) =
      some (Table.new 4096 0, .indexed 2 (.method HeaderPlz.GET)) := rfl
  have hpath : (Table.new 4096 0).index NameHash.hash (.path path) = some (Table.new 4096 0, .name 4 (.path path)) := by
    rw [Table.index, hstatic]
    rfl
  have hblock : (getPath id path).headerBlock.intoEncoding NameHash.hash (Hpack.Encoder.new 4096 0) =
      Encoder.encode NameHash.hash (Hpack.Encoder.new 4096 0) [.ok (.method HeaderPlz.GET), .ok (.path path)] [] := rfl
  change (HeaderBlock.intoEncoding _ _ _).map Prod.swap = _
  rw [hblock]
  simp only [Encoder.encode, Encoder.encodeSizeUpdates, Encoder.new, Encoder.encodeHeaders, Option.bind_eq_bind,
    Option.bind_some, hget]
  have hfirst : Encoder.encodeHeader (Table.new 4096 0) (.indexed 2 (.method HeaderPlz.GET)) [] =
    some [0x82] := by decide
  simp only [hfirst, hpath, hencode, Option.bind_some]
  cases encodeStr path [0x82, 4] <;> rfl

def longPath : Bytes := 0x2f :: List.replicate 24000 0x7e

theorem huffmanLen_longPath : huffmanLen longPath = 39001 := by
  have hslash : (Huffman.code.word (some 0x2f)).length = 6 := by decide +kernel
  have htilde : (Huffman.code.word (some 0x7e)).length = 13 := by decide +kernel
  rw [huffmanLen, Huffman.wordsOf, longPath, List.map_cons, PrefixCode.words_cons, List.map_replicate,
    List.length_append, PrefixCode.length_words_replicate, hslash, htilde]

theorem longPath_ne {path : Bytes} (h : huffmanLen path < 39001) : longPath ≠ path := by
  rintro rfl
  rw [huffmanLen_longPath] at h
  exact absurd h (Nat.lt_irrefl _)

theorem encode_longPath (id : Nat) : ∃ block : Bytes, block.length = 39007 ∧
    HpackEncoder.encode (Hpack.Encoder.new 4096 0) (getPath id longPath).headerBlock =
      some (block, Hpack.Encoder.new 4096 0) := by
  obtain ⟨raw, pad, hraw, hpad, hbits⟩ := Huffman.encode_bits longPath ([0x82, 4] ++ [0])
  have hlength := (length_of_padded hpad hbits).trans huffmanLen_longPath
  have hstr := encodeStr_some [0x82, 4] (longPath_ne (by decide)) hraw (by rw [hlength]; decide)
  have hhead : (encodeInt 39001 7 0x80).length = 4 := by decide +kernel
  rw [encode_getPath id (longPath_ne (by decide +kernel)) (longPath_ne (by decide +kernel)), hstr]
  refine ⟨_, ?_, rfl⟩
  rw [List.length_append, List.length_append, hlength, hhead]
  rfl

end

end TwoPlz
