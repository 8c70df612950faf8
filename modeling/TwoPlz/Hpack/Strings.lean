import TwoPlz.Hpack.Written

/-! The string codec: `decode_string` reads what `encode_str` has appended. -/

namespace TwoPlz.Hpack

section

variable [HeaderPlz]

theorem decodeLoop_buffer {rounds : Nat} {canResize : Bool} {d : Decoder} {bs : Bytes}
    {emitted : List Header} {r : Except DecoderError Unit} {s : Decoding} (hbuffer : d.buffer = [])
    (h : decodeLoop rounds canResize ⟨d, ⟨bs, 0⟩, emitted⟩ = some (r, s))
    (hr : ∀ e, r = .error e → e.IsNeedMore) : s.decoder.buffer = [] := by
  induction rounds generalizing canResize d bs emitted with
  | zero =>
    cases bs with
    | nil =>
      rw [decodeLoop_nil] at h
      cases h
      exact hbuffer
    | cons ty bs => cases h
  | succ rounds ih =>
    cases bs with
    | nil =>
      rw [decodeLoop_nil] at h
      cases h
      exact hbuffer
    | cons ty bs =>
      rw [decodeLoop_cons] at h
      rcases decodeOne_cases hbuffer ty emitted with
        ⟨rep, rest, -, hone⟩ | ⟨e, left, position, -, hmore, hone⟩
      · match happly : rep.apply d with
        | none =>
          rw [happly] at hone
          rw [DecodeM.bind_none hone] at h
          cases h
        | some (.error e) =>
          rw [happly] at hone
          obtain ⟨src, hone⟩ := hone
          rw [DecodeM.bind_error hone] at h
          cases h
          exact hbuffer
        | some (.ok (d₁, entries)) =>
          rw [happly] at hone
          rw [DecodeM.bind_ok hone] at h
          exact ih ((Rep.apply_keeps happly).1.trans hbuffer) h
      · rw [DecodeM.bind_error hone] at h
        cases h
        exact hmore (hr e rfl)

/-- The decoders of connections that are still open: no block has failed. -/
inductive Decoder.Running : Decoder → Prop
  | new (size : Nat) : (Decoder.new size).Running
  | queueSizeUpdate {d : Decoder} (h : d.Running) (size : Nat) : (d.queueSizeUpdate size).Running
  | decode {d : Decoder} {src : Bytes} {r : Except DecoderError Unit} {s : Decoding} (h : d.Running)
      (hdecode : d.decode src = some (r, s)) (hr : ∀ e, r = .error e → e.IsNeedMore) :
      s.decoder.Running

theorem Decoder.Running.buffer {d : Decoder} (h : d.Running) : d.buffer = [] := by
  induction h with
  | new => rfl
  | queueSizeUpdate _ _ ih => exact ih
  | @decode d src r s _ hdecode hr ih =>
    refine decodeLoop_buffer (d := d.takeSizeUpdate) ?_ hdecode hr
    rw [Decoder.takeSizeUpdate]
    split <;> exact ih

/-- A string is read back from the bytes that have been appended for it, and only these are read. -/
theorem decodeString_encodeStr {val raw : Bytes} (hraw : Huffman.encode val [] = some raw)
    (hlen : raw.length < 2 ^ 28 + 127) (dst : Bytes) :
    ∃ out, encodeStr val dst = some (dst ++ out) ∧
      ∀ (suffix : Bytes) (s : Decoding), s.decoder.buffer = [] → s.src.At (out ++ suffix) →
        ∃ src, src.At suffix ∧ decodeString s = some (.ok val, { s with src := src }) := by
  obtain ⟨raw', pad, hencode, hpad, hbits⟩ := Huffman.encode_bits val []
  obtain rfl : raw' = raw := Option.some.inj (hencode.symm.trans hraw)
  rw [length_of_padded hpad hbits] at hlen
  obtain ⟨out, hout, hscan⟩ := encodeStr_scan val dst hlen
  refine ⟨out, hout, fun suffix s hbuffer hs => ?_⟩
  rcases decodeString_spec hs with ⟨string, left, rest, src, hread, hsrc, hrun⟩ | ⟨e, left, position, hread, -⟩
  · rw [hbuffer, hscan suffix] at hread
    cases hread
    have hempty : { s.decoder with buffer := [] } = s.decoder := by rw [← hbuffer]
    rw [hempty] at hrun
    exact ⟨src, hsrc, hrun⟩
  · rw [hbuffer, hscan suffix] at hread
    cases hread

end

section

attribute [local instance] plain

theorem decodeString_encodeStr_long : ∃ raw, Huffman.encode (List.replicate 256 0x61) [] = some raw ∧ 127 < raw.length ∧
    ∃ out, encodeStr (List.replicate 256 0x61) [7] = some ([7] ++ out) ∧
      ∃ src, src.At [9] ∧ decodeString ⟨Decoder.new 4096, ⟨out ++ [9], 0⟩, []⟩ =
        some (.ok (List.replicate 256 0x61), ⟨Decoder.new 4096, src, []⟩) := by
  have hraw : Huffman.encode (List.replicate 256 0x61) [] =
      some (List.replicate 32 [0x18, 0xc6, 0x31, 0x8c, 0x63]).flatten := by
    decide +kernel
  have hlength : (List.replicate 32 ([0x18, 0xc6, 0x31, 0x8c, 0x63] : Bytes)).flatten.length = 160 := by decide +kernel
  obtain ⟨out, hout, hread⟩ := decodeString_encodeStr hraw (by rw [hlength]; decide) [7]
  exact ⟨_, hraw, by rw [hlength]; decide, out, hout, hread [9] ⟨Decoder.new 4096, ⟨out ++ [9], 0⟩, []⟩
    (Decoder.Running.new 4096).buffer (Cursor.at_zero _)⟩

end

end TwoPlz.Hpack
