import TwoPlz.Hpack.Decoder
import TwoPlz.Lib.Resumable

/-! The decoder as a parser of lists.  The functions on the cursor read a string twice and split the
buffer as they go; here each of them is shown to read what a plain parser reads. -/

namespace TwoPlz.Hpack

abbrev Parser := StateT Bytes (Except DecoderError)

def DecoderError.IsNeedMore (e : DecoderError) : Prop := ∃ n, e = .needMore n

theorem decodeVarint_consumes (bytes ret shift : Nat) :
    Consumes (decodeVarint bytes ret shift : Parser Nat) := by
  intro bs r v h
  induction bs generalizing bytes ret shift with
  | nil => cases h
  | cons b bs ih =>
    simp only [decodeVarint] at h
    split at h
    · cases h
      exact ⟨[b], List.cons_ne_nil _ _, rfl⟩
    · split at h
      · cases h
      · obtain ⟨used, -, rfl⟩ := ih _ _ _ h
        exact ⟨b :: used, List.cons_ne_nil _ _, rfl⟩

theorem decodeVarint_resumable (bytes ret shift : Nat) :
    Resumable DecoderError.IsNeedMore (decodeVarint bytes ret shift : Parser Nat) := by
  intro bs ys r v h
  induction bs generalizing bytes ret shift with
  | nil => exact .inr ⟨_, ⟨_, rfl⟩, rfl⟩
  | cons b bs ih =>
    simp only [List.cons_append, decodeVarint] at h ⊢
    split
    · rename_i hlast
      rw [if_pos hlast] at h
      cases h
      exact .inl ⟨bs, rfl, rfl⟩
    · rename_i hlast
      rw [if_neg hlast] at h
      split
      · rename_i hmax
        rw [if_pos hmax] at h
        cases h
      · rename_i hmax
        rw [if_neg hmax] at h
        exact ih _ _ _ h

theorem decodeInt_consumes (prefixSize : Nat) : Consumes (decodeInt prefixSize : Parser Nat) := by
  intro bs r v h
  unfold decodeInt at h
  split at h
  · cases h
  · cases bs with
    | nil => cases h
    | cons b bs =>
      dsimp only at h
      split at h
      · cases h
        exact ⟨[b], List.cons_ne_nil _ _, rfl⟩
      · obtain ⟨used, -, rfl⟩ := decodeVarint_consumes _ _ _ h
        exact ⟨b :: used, List.cons_ne_nil _ _, rfl⟩

theorem decodeInt_resumable (prefixSize : Nat) :
    Resumable DecoderError.IsNeedMore (decodeInt prefixSize : Parser Nat) := by
  intro bs ys r v h
  unfold decodeInt at h ⊢
  split
  · rename_i hsize
    rw [if_pos hsize] at h
    cases h
  · rename_i hsize
    rw [if_neg hsize] at h
    cases bs with
    | nil => exact .inr ⟨_, ⟨_, rfl⟩, rfl⟩
    | cons b bs =>
      dsimp only [List.cons_append] at h ⊢
      split
      · rename_i hfits
        rw [if_pos hfits] at h
        cases h
        exact .inl ⟨bs, rfl, rfl⟩
      · rename_i hfits
        rw [if_neg hfits] at h
        exact decodeVarint_resumable _ _ _ h

/-- A string literal, with the bytes in `buffer` before a Huffman string.  The second part of the
value is what stays in the buffer. -/
def scanString (buffer : Bytes) : Parser (Bytes × Bytes) := fun bs =>
  match bs with
  | [] => .error (.needMore .unexpectedEndOfStream)
  | hdr :: _ =>
    match decodeInt 7 bs with
    | .error e => .error e
    | .ok (len, rest) =>
      if len > rest.length then .error (.needMore .stringUnderflow)
      else if hdr &&& HUFF_FLAG == HUFF_FLAG then
        match Huffman.decode (rest.take len) buffer with
        | some (.ok string, left) => .ok ((string, left), rest.drop len)
        | some (.error e, _) => .error e
        | none => .error .invalidHuffmanCode
      else .ok ((rest.take len, buffer), rest.drop len)

theorem scanString_resumable (buffer : Bytes) :
    Resumable DecoderError.IsNeedMore (scanString buffer) := by
  intro bs ys r v h
  cases bs with
  | nil => exact .inr ⟨_, ⟨_, rfl⟩, rfl⟩
  | cons hdr bs =>
    simp only [List.cons_append, scanString] at h ⊢
    match hint : decodeInt 7 (hdr :: (bs ++ ys)) with
    | .error e =>
      rw [hint] at h
      cases h
    | .ok (len, rest) =>
      rw [hint] at h
      rw [← List.cons_append] at hint
      rcases decodeInt_resumable 7 hint with ⟨rest', rfl, hint'⟩ | ⟨e, he, hint'⟩
      · rw [hint']
        dsimp only at h ⊢
        by_cases hshort : len > rest'.length
        · exact .inr ⟨_, ⟨_, rfl⟩, if_pos hshort⟩
        · have htake : (rest' ++ ys).take len = rest'.take len := List.take_append_of_le_length (by omega)
          have hdrop : (rest' ++ ys).drop len = rest'.drop len ++ ys :=
            List.drop_append_of_le_length (by omega)
          rw [if_neg (by rw [List.length_append]; omega), htake, hdrop] at h
          rw [if_neg hshort]
          left
          split
          · rename_i hhuff
            rw [if_pos hhuff] at h
            split at h
            · cases h
              exact ⟨_, rfl, rfl⟩
            · cases h
            · cases h
          · rename_i hhuff
            rw [if_neg hhuff] at h
            cases h
            exact ⟨_, rfl, rfl⟩
      · rw [hint']
        exact .inr ⟨e, he, rfl⟩

theorem scanString_leaves (buffer : Bytes) : Leaves (scanString buffer) := by
  intro bs r v h
  unfold scanString at h
  split at h
  · cases h
  · split at h
    · cases h
    · rename_i len rest hint
      obtain ⟨used, -, hbs⟩ := decodeInt_consumes 7 hint
      have hleft : ∃ front, used ++ rest = front ++ rest.drop len :=
        ⟨used ++ rest.take len, by rw [List.append_assoc, List.take_append_drop]⟩
      rw [hbs]
      split at h
      · cases h
      · split at h
        · split at h
          · cases h
            exact hleft
          · cases h
          · cases h
        · cases h
          exact hleft

namespace Cursor

variable {c : Cursor} {front rest : Bytes}

def At (c : Cursor) (rest : Bytes) : Prop := c.position ≤ c.buf.length ∧ c.chunk = rest

theorem At.length (h : c.At rest) : c.buf.length = c.position + rest.length := by
  have hlen : c.chunk.length = c.buf.length - c.position := List.length_drop
  rw [h.2] at hlen
  have hpos := h.1
  omega

theorem At.remaining (h : c.At rest) : c.remaining = rest.length := by
  have hlen := h.length
  simp only [Cursor.remaining]
  omega

theorem At.forward (h : c.At (front ++ rest)) :
    Cursor.At { c with position := c.position + front.length } rest := by
  have hlen := h.length
  rw [List.length_append] at hlen
  refine ⟨by simp only; omega, ?_⟩
  change c.buf.drop (c.position + front.length) = rest
  rw [← List.drop_drop, show c.buf.drop c.position = front ++ rest from h.2, List.drop_left]

theorem At.advance (h : c.At (front ++ rest)) :
    c.advance front.length = some { c with position := c.position + front.length } := by
  rw [Cursor.advance, if_pos]
  rw [h.remaining, List.length_append]
  exact Nat.le_add_right _ _

theorem At.take (h : c.At (front ++ rest)) : c.take front.length = some (front, ⟨rest, 0⟩) := by
  have hlen := h.length
  rw [List.length_append] at hlen
  have hrest : c.buf.drop (c.position + front.length) = rest := h.forward.2
  have hfront : (c.buf.take (c.position + front.length)).drop c.position = front := by
    rw [List.drop_take, Nat.add_sub_cancel_left, show c.buf.drop c.position = front ++ rest from h.2,
      List.take_left]
  rw [Cursor.take, if_pos (by omega), hrest, hfront]

theorem At.consume (h : c.At rest) : c.consume = some ⟨rest, 0⟩ := by
  have htake : c.take 0 = some ([], ⟨rest, 0⟩) := At.take (show c.At ([] ++ rest) from h)
  rw [Cursor.consume, htake]
  rfl

theorem at_zero (bs : Bytes) : Cursor.At ⟨bs, 0⟩ bs := ⟨Nat.zero_le _, rfl⟩

end Cursor

variable [HeaderPlz]

namespace DecodeM

variable {α γ : Type} {m : DecodeM α} {f : α → DecodeM γ} {s s' : Decoding}

theorem bind_ok {a : α} (h : m s = some (.ok a, s')) : (m >>= f) s = f a s' := by
  change (m s).bind _ = _
  rw [h]
  rfl

theorem bind_error {e : DecoderError} (h : m s = some (.error e, s')) :
    (m >>= f) s = some (.error e, s') := by
  change (m s).bind _ = _
  rw [h]
  rfl

theorem bind_none (h : m s = none) : (m >>= f) s = none := by
  change (m s).bind _ = _
  rw [h]
  rfl

theorem decodeInt_ok {prefixSize val : Nat} {bs rest : Bytes} (hs : s.src.At bs)
    (h : Hpack.decodeInt prefixSize bs = .ok (val, rest)) :
    ∃ used, used ≠ [] ∧ bs = used ++ rest ∧
      DecodeM.decodeInt prefixSize s =
        some (.ok val, { s with src.position := s.src.position + used.length }) := by
  obtain ⟨used, hused, rfl⟩ := decodeInt_consumes prefixSize h
  have hlen := hs.length
  rw [List.length_append] at hlen
  refine ⟨used, hused, rfl, ?_⟩
  rw [DecodeM.decodeInt, hs.2, h]
  simp only [hlen]
  rw [show s.src.position + (used.length + rest.length) - rest.length = s.src.position + used.length by
    omega]

theorem decodeInt_error {prefixSize : Nat} {bs : Bytes} {e : DecoderError} (hs : s.src.At bs)
    (h : Hpack.decodeInt prefixSize bs = .error e) :
    DecodeM.decodeInt prefixSize s = some (.error e, s) := by
  rw [DecodeM.decodeInt, hs.2, h]

end DecodeM

structure StringMarker.Marks (marker : StringMarker) (hdr raw string : Bytes) : Prop where
  offset : marker.offset = hdr.length
  len : marker.len = raw.length
  string : marker.string.getD raw = string

theorem StringMarker.Marks.consume {marker : StringMarker} {hdr raw string rest : Bytes}
    (hm : marker.Marks hdr raw string) {s : Decoding} (hs : s.src.At (hdr ++ (raw ++ rest))) :
    ∃ src, src.At rest ∧ marker.consume s = some (.ok string, { s with src := src }) := by
  obtain ⟨offset, len, string'⟩ := marker
  obtain rfl : offset = hdr.length := hm.offset
  obtain rfl : len = raw.length := hm.len
  have hadvance : DecodeM.advance hdr.length s =
      some (.ok (), { s with src.position := s.src.position + hdr.length }) := by
    rw [DecodeM.advance, hs.advance]
    rfl
  have hraw := hs.forward
  rw [StringMarker.consume, DecodeM.bind_ok hadvance]
  cases string' with
  | some str =>
    obtain rfl : str = string := hm.string
    refine ⟨_, hraw.forward, ?_⟩
    have hadvance' : DecodeM.advance raw.length { s with src.position := s.src.position + hdr.length } =
        some (.ok (), { s with src.position := s.src.position + hdr.length + raw.length }) := by
      rw [DecodeM.advance, hraw.advance]
      rfl
    exact DecodeM.bind_ok hadvance'
  | none =>
    obtain rfl : raw = string := hm.string
    refine ⟨_, Cursor.at_zero rest, ?_⟩
    change DecodeM.take raw.length _ = _
    rw [DecodeM.take, hraw.take]
    rfl

/-- `try_decode_string` reads what `scanString` reads; if it fails, the buffer of the cursor is as
before, and so is the decoder if it only needs more. -/
theorem tryDecodeString_spec {s : Decoding} {bs : Bytes} (hs : s.src.At bs) :
    (∃ string left hdr raw rest marker, scanString s.decoder.buffer bs = .ok ((string, left), rest) ∧
      bs = hdr ++ (raw ++ rest) ∧ hdr ≠ [] ∧ marker.Marks hdr raw string ∧
      tryDecodeString s = some (.ok marker,
        { s with
          decoder.buffer := left
          src.position := s.src.position + hdr.length + raw.length })) ∨
    ∃ e left position, scanString s.decoder.buffer bs = .error e ∧
      (e.IsNeedMore → left = s.decoder.buffer) ∧
      tryDecodeString s = some (.error e, { s with decoder.buffer := left, src.position := position }) := by
  have hsrc : DecodeM.src s = some (.ok s.src, s) := rfl
  have hpeek : s.src.peekU8 = bs.head? := by rw [Cursor.peekU8, hs.2]
  rw [tryDecodeString, DecodeM.bind_ok hsrc, hpeek]
  cases bs with
  | nil =>
    refine .inr ⟨_, s.decoder.buffer, s.src.position, rfl, fun _ => rfl, rfl⟩
  | cons b bs =>
    dsimp only [List.head?_cons]
    rw [scanString]
    match hint : decodeInt 7 (b :: bs) with
    | .error e =>
      refine .inr ⟨e, s.decoder.buffer, s.src.position, rfl, fun _ => rfl, ?_⟩
      exact DecodeM.bind_error (DecodeM.decodeInt_error hs hint)
    | .ok (len, rest) =>
      obtain ⟨hdr, hhdr, hbs, hm⟩ := DecodeM.decodeInt_ok hs hint
      rw [hbs] at hs ⊢
      have hrest := hs.forward
      have hsrc' : DecodeM.src { s with src.position := s.src.position + hdr.length } = some (.ok _, _) := rfl
      rw [DecodeM.bind_ok hm, DecodeM.bind_ok hsrc', hrest.remaining]
      dsimp only
      by_cases hshort : len > rest.length
      · rw [if_pos hshort, if_pos hshort]
        exact .inr ⟨_, s.decoder.buffer, _, rfl, fun _ => rfl, rfl⟩
      · have hsplit : rest = rest.take len ++ rest.drop len := (List.take_append_drop ..).symm
        have hlen : (rest.take len).length = len := List.length_take_of_le (by omega)
        have hoffset : s.src.position + hdr.length - s.src.position = hdr.length := by omega
        rw [if_neg hshort, if_neg hshort, hrest.2, hoffset]
        rw [hsplit] at hrest
        have hadvance : ∀ left, DecodeM.advance len
            { s with
              decoder.buffer := left
              src.position := s.src.position + hdr.length } =
            some (.ok (),
              { s with
                decoder.buffer := left
                src.position := s.src.position + hdr.length + (rest.take len).length }) := by
          intro left
          have hadv := hrest.advance
          rw [hlen] at hadv
          rw [DecodeM.advance, hadv, hlen]
          rfl
        by_cases hhuff : (b &&& HUFF_FLAG == HUFF_FLAG) = true
        · rw [if_pos hhuff, if_pos hhuff]
          have hdecode : ∀ r left, Huffman.decode (rest.take len) s.decoder.buffer = some (r, left) →
              DecodeM.huffmanDecode (rest.take len) { s with src.position := s.src.position + hdr.length } =
                some (r,
                  { s with
                    decoder.buffer := left
                    src.position := s.src.position + hdr.length }) := by
            intro r left hh
            rw [DecodeM.huffmanDecode, hh]
            rfl
          rcases Huffman.decode_some (rest.take len) s.decoder.buffer with ⟨str, hh⟩ | ⟨left, hh⟩
          · rw [hh]
            refine .inl ⟨str, [], hdr, rest.take len, rest.drop len, ⟨hdr.length, len, some str⟩, rfl, ?_,
              hhdr, ⟨rfl, hlen.symm, rfl⟩, ?_⟩
            · rw [← hsplit]
            · rw [DecodeM.bind_ok (hdecode _ _ hh), DecodeM.bind_ok (hadvance [])]
              rfl
          · rw [hh]
            refine .inr ⟨_, left, _, rfl, ?_, DecodeM.bind_error (hdecode _ _ hh)⟩
            rintro ⟨n, hn⟩
            cases hn
        · rw [if_neg hhuff, if_neg hhuff]
          refine .inl ⟨rest.take len, s.decoder.buffer, hdr, rest.take len, rest.drop len,
            ⟨hdr.length, len, none⟩, rfl, ?_, hhdr, ⟨rfl, hlen.symm, rfl⟩, ?_⟩
          · rw [← hsplit]
          · exact DecodeM.bind_ok (hadvance s.decoder.buffer)

inductive Rep : Type
  | indexed (entry : Header)
  | literal (name : Name ⊕ Bytes) (value : Bytes) (index : Bool)
  | sizeUpdate (newSize : Nat)

def entryOf : Name ⊕ Bytes → Bytes → Except DecoderError Header
  | .inl name, value => name.intoEntry value
  | .inr name, value => Header.new name value

def scanGet (t : DynamicTable) (index : Nat) : Parser Header := fun bs =>
  match t.get index with
  | some (.ok e) => .ok (e, bs)
  | some (.error e) => .error e
  | none => .error .invalidTableIndex

def scanLiteral (t : DynamicTable) (buffer : Bytes) (index : Bool) : Parser (Rep × Bytes) := do
  let tableIdx ← (decodeInt (if index then 6 else 4) : Parser Nat)
  if tableIdx = 0 then do
    let name ← scanString buffer
    let value ← scanString name.2
    pure (.literal (.inr name.1) value.1 index, value.2)
  else do
    let e ← scanGet t tableIdx
    let value ← scanString buffer
    pure (.literal (.inl e.name) value.1 index, value.2)

theorem DynamicTable.get_isSome (t : DynamicTable) (index : Nat) : ∃ r, t.get index = some r := by
  unfold DynamicTable.get
  split
  · exact ⟨_, rfl⟩
  · rename_i hpos
    split
    · rename_i hmax
      obtain ⟨h, hh⟩ := getStatic_isSome hpos hmax
      exact ⟨_, by rw [hh]; rfl⟩
    · split <;> exact ⟨_, rfl⟩

theorem scanGet_resumable (t : DynamicTable) (index : Nat) :
    Resumable DecoderError.IsNeedMore (scanGet t index) := by
  intro bs ys r e h
  unfold scanGet at h ⊢
  split
  · rename_i e' hget
    rw [hget] at h
    cases h
    exact .inl ⟨bs, rfl, rfl⟩
  · rename_i e' hget
    rw [hget] at h
    cases h
  · rename_i hget
    rw [hget] at h
    cases h

theorem scanGet_leaves (t : DynamicTable) (index : Nat) : Leaves (scanGet t index) := by
  intro bs r e h
  unfold scanGet at h
  split at h
  · cases h
    exact ⟨[], rfl⟩
  · cases h
  · cases h

theorem scanLiteral_consumes (t : DynamicTable) (buffer : Bytes) (index : Bool) :
    Consumes (scanLiteral t buffer index) := by
  refine .bind (decodeInt_consumes _) fun tableIdx => .ite ?_ ?_
  · refine .bind (scanString_leaves _) fun name => ?_
    exact .bind (scanString_leaves _) fun value => .pure _
  · refine .bind (scanGet_leaves t _) fun e => ?_
    exact .bind (scanString_leaves _) fun value => .pure _

theorem scanLiteral_resumable (t : DynamicTable) (buffer : Bytes) (index : Bool) :
    Resumable DecoderError.IsNeedMore (scanLiteral t buffer index) := by
  refine .bind (decodeInt_resumable _) fun tableIdx => .ite ?_ ?_
  · refine .bind (scanString_resumable _) fun name => ?_
    exact .bind (scanString_resumable _) fun value => .pure _
  · refine .bind (scanGet_resumable t _) fun e => ?_
    exact .bind (scanString_resumable _) fun value => .pure _

omit [HeaderPlz] in
theorem scanString_left {bs rest string left : Bytes}
    (h : scanString [] bs = .ok ((string, left), rest)) : left = [] := by
  unfold scanString at h
  split at h
  · cases h
  · split at h
    · cases h
    · split at h
      · cases h
      · split at h
        · split at h
          · rename_i hh
            cases h
            exact Huffman.decode_left hh
          · cases h
          · cases h
        · cases h
          rfl

theorem scanLiteral_left {t : DynamicTable} {index : Bool} {bs rest left : Bytes} {rep : Rep}
    (h : scanLiteral t [] index bs = .ok ((rep, left), rest)) : left = [] := by
  obtain ⟨tableIdx, r₁, -, h⟩ := StateT.bind_eq_ok h
  split at h
  · obtain ⟨⟨name, left₁⟩, r₂, hname, h⟩ := StateT.bind_eq_ok h
    obtain rfl := scanString_left hname
    obtain ⟨⟨value, left₂⟩, r₃, hvalue, h⟩ := StateT.bind_eq_ok h
    obtain rfl := scanString_left hvalue
    cases h
    rfl
  · obtain ⟨e, r₂, -, h⟩ := StateT.bind_eq_ok h
    obtain ⟨⟨value, left₂⟩, r₃, hvalue, h⟩ := StateT.bind_eq_ok h
    obtain rfl := scanString_left hvalue
    cases h
    rfl

section

variable {s : Decoding} {bs : Bytes}

theorem DecodeM.tableGet_eq (s : Decoding) (bs : Bytes) (index : Nat) :
    (∃ e, scanGet s.decoder.table index bs = .ok (e, bs) ∧
      DecodeM.tableGet index s = some (.ok e, s)) ∨
    ∃ e, scanGet s.decoder.table index bs = .error e ∧
      DecodeM.tableGet index s = some (.error e, s) := by
  obtain ⟨r, hr⟩ := s.decoder.table.get_isSome index
  have hget : DecodeM.tableGet index s = some (r, s) := by
    rw [DecodeM.tableGet, hr]
    rfl
  cases r with
  | ok e => exact .inl ⟨e, by rw [scanGet, hr], hget⟩
  | error e => exact .inr ⟨e, by rw [scanGet, hr], hget⟩

theorem decodeString_spec (hs : s.src.At bs) :
    (∃ string left rest src, scanString s.decoder.buffer bs = .ok ((string, left), rest) ∧
      src.At rest ∧
      decodeString s = some (.ok string, { s with decoder.buffer := left, src := src })) ∨
    ∃ e left position, scanString s.decoder.buffer bs = .error e ∧
      (e.IsNeedMore → left = s.decoder.buffer) ∧
      decodeString s = some (.error e, { s with decoder.buffer := left, src.position := position }) := by
  have hsrc : DecodeM.src s = some (.ok s.src, s) := rfl
  rw [decodeString, DecodeM.bind_ok hsrc]
  rcases tryDecodeString_spec hs with
    ⟨string, left, hdr, raw, rest, marker, hscan, rfl, hhdr, hmarks, hm⟩ | ⟨e, left, position, hscan, hmore, hm⟩
  · rw [DecodeM.bind_ok hm]
    have hset : DecodeM.setPosition s.src.position
        { s with
          decoder.buffer := left
          src.position := s.src.position + hdr.length + raw.length } =
        some (.ok (), { s with decoder.buffer := left }) := rfl
    rw [DecodeM.bind_ok hset]
    obtain ⟨src, hat, hconsume⟩ := hmarks.consume (s := { s with decoder.buffer := left }) hs
    exact .inl ⟨string, left, rest, src, hscan, hat, hconsume⟩
  · exact .inr ⟨e, left, position, hscan, hmore, DecodeM.bind_error hm⟩

theorem decodeLiteral_spec (hs : s.src.At bs) (index : Bool) :
    (∃ name value left rest src,
      scanLiteral s.decoder.table s.decoder.buffer index bs =
        .ok ((.literal name value index, left), rest) ∧ src.At rest ∧
      decodeLiteral index s =
        some (entryOf name value, { s with decoder.buffer := left, src := src })) ∨
    ∃ e left position, scanLiteral s.decoder.table s.decoder.buffer index bs = .error e ∧
      (e.IsNeedMore → s.decoder.buffer = [] → left = []) ∧
      decodeLiteral index s =
        some (.error e, { s with decoder.buffer := left, src.position := position }) := by
  rw [decodeLiteral, scanLiteral]
  match hint : decodeInt (if index then 6 else 4) bs with
  | .error e =>
    refine .inr ⟨e, s.decoder.buffer, s.src.position, StateT.bind_error hint, fun _ h => h, ?_⟩
    exact DecodeM.bind_error (DecodeM.decodeInt_error hs hint)
  | .ok (tableIdx, rest) =>
    obtain ⟨used, -, rfl, hm⟩ := DecodeM.decodeInt_ok hs hint
    have hat := hs.forward
    rw [DecodeM.bind_ok hm, StateT.bind_ok hint]
    by_cases hzero : tableIdx = 0
    · -- both strings are read before the cursor goes back to the first one
      rw [if_pos hzero, if_pos hzero]
      have hsrc : DecodeM.src { s with src.position := s.src.position + used.length } =
        some (.ok _, _) := rfl
      rw [DecodeM.bind_ok hsrc]
      rcases tryDecodeString_spec (s := { s with src.position := s.src.position + used.length }) hat with
        ⟨name, left, hdr, raw, rest, marker, hscan, rfl, -, hmarks, hm⟩ | ⟨e, left, position, hscan, hmore, hm⟩
      · rw [DecodeM.bind_ok hm, StateT.bind_ok hscan]
        have hat' := hat.forward.forward
        rcases tryDecodeString_spec
          (s := { s with
            decoder.buffer := left
            src.position := s.src.position + used.length + hdr.length + raw.length }) hat' with
          ⟨value, left', hdr', raw', rest', marker', hscan', rfl, -, hmarks', hm'⟩ |
            ⟨e, left', position, hscan', hmore, hm'⟩
        · have hset : DecodeM.setPosition (s.src.position + used.length)
              { s with
                decoder.buffer := left'
                src.position := s.src.position + used.length + hdr.length + raw.length + hdr'.length
                  + raw'.length } =
              some (.ok (),
                { s with
                  decoder.buffer := left'
                  src.position := s.src.position + used.length }) := rfl
          rw [DecodeM.bind_ok hm', StateT.bind_ok hscan', DecodeM.bind_ok hset]
          obtain ⟨src, hat₁, hname⟩ := hmarks.consume
            (s := { s with
              decoder.buffer := left'
              src.position := s.src.position + used.length }) hat
          obtain ⟨src', hat₂, hvalue⟩ := hmarks'.consume
            (s := { s with decoder.buffer := left', src := src }) hat₁
          rw [DecodeM.bind_ok hname, DecodeM.bind_ok hvalue]
          exact .inl ⟨.inr name, value, left', rest', src', rfl, hat₂, rfl⟩
        · refine .inr ⟨e, left', position, StateT.bind_error hscan', fun hneed hnil => ?_,
            DecodeM.bind_error hm'⟩
          rw [hmore hneed]
          rw [hnil] at hscan
          exact scanString_left hscan
      · refine .inr ⟨e, left, position, StateT.bind_error hscan, fun hneed hnil => ?_,
          DecodeM.bind_error hm⟩
        rw [hmore hneed, hnil]
    · rw [if_neg hzero, if_neg hzero]
      rcases DecodeM.tableGet_eq { s with src.position := s.src.position + used.length } rest tableIdx with
        ⟨e, hscan, hm⟩ | ⟨e, hscan, hm⟩
      · rw [DecodeM.bind_ok hm, StateT.bind_ok hscan]
        rcases decodeString_spec (s := { s with src.position := s.src.position + used.length }) hat with
          ⟨value, left, rest', src, hscan', hat', hm'⟩ | ⟨e', left, position, hscan', hmore, hm'⟩
        · rw [DecodeM.bind_ok hm', StateT.bind_ok hscan']
          exact .inl ⟨.inl e.name, value, left, rest', src, rfl, hat', rfl⟩
        · refine .inr ⟨e', left, position, StateT.bind_error hscan', fun hneed hnil => ?_,
            DecodeM.bind_error hm'⟩
          rw [hmore hneed, hnil]
      · exact .inr ⟨e, s.decoder.buffer, _, StateT.bind_error hscan, fun _ h => h,
          DecodeM.bind_error hm⟩

def scanOne (t : DynamicTable) (buffer : Bytes) (canResize : Bool) : Parser (Rep × Bytes) := fun bs =>
  match bs with
  | [] => .error (.needMore .unexpectedEndOfStream)
  | ty :: _ =>
    match Representation.load ty with
    | .error e => .error e
    | .ok .indexed =>
      (do
        let index ← (decodeInt 7 : Parser Nat)
        let e ← scanGet t index
        pure (.indexed e, buffer) : Parser (Rep × Bytes)) bs
    | .ok .literalWithIndexing => scanLiteral t buffer true bs
    | .ok .literalWithoutIndexing => scanLiteral t buffer false bs
    | .ok .literalNeverIndexed => scanLiteral t buffer false bs
    | .ok .sizeUpdate =>
      if !canResize then .error .invalidMaxDynamicSize
      else
        (do
          let newSize ← (decodeInt 5 : Parser Nat)
          pure (.sizeUpdate newSize, buffer) : Parser (Rep × Bytes)) bs

def Rep.apply (rep : Rep) (d : Decoder) : Option (Except DecoderError (Decoder × List Header)) :=
  match rep with
  | .indexed entry => some (.ok (d, [entry]))
  | .literal name value index =>
    match entryOf name value with
    | .error e => some (.error e)
    | .ok entry =>
      if index then (d.table.insert entry).map fun t => .ok ({ d with table := t }, [entry])
      else some (.ok (d, [entry]))
  | .sizeUpdate newSize =>
    if newSize > d.lastMaxUpdate then some (.error .invalidMaxDynamicSize)
    else (d.table.setMaxSize newSize).map fun t => .ok ({ d with table := t }, [])

def Rep.canResize : Rep → Bool
  | .sizeUpdate _ => true
  | _ => false

theorem scanOne_resumable (t : DynamicTable) (buffer : Bytes) (canResize : Bool) :
    Resumable DecoderError.IsNeedMore (scanOne t buffer canResize) := by
  intro bs ys r a h
  cases bs with
  | nil => exact .inr ⟨_, ⟨_, rfl⟩, rfl⟩
  | cons ty bs =>
    simp only [List.cons_append, scanOne] at h ⊢
    rw [← List.cons_append] at h
    split
    · rename_i e hload
      rw [hload] at h
      cases h
    · rename_i hload
      rw [hload] at h
      exact Resumable.bind (decodeInt_resumable 7)
        (fun index => .bind (scanGet_resumable t index) fun e => .pure _) h
    · rename_i hload
      rw [hload] at h
      exact scanLiteral_resumable t buffer true h
    · rename_i hload
      rw [hload] at h
      exact scanLiteral_resumable t buffer false h
    · rename_i hload
      rw [hload] at h
      exact scanLiteral_resumable t buffer false h
    · rename_i hload
      rw [hload] at h
      dsimp only at h
      split
      · rename_i hresize
        rw [if_pos hresize] at h
        cases h
      · rename_i hresize
        rw [if_neg hresize] at h
        exact Resumable.bind (decodeInt_resumable 5) (fun newSize => .pure _) h

theorem scanOne_consumes (t : DynamicTable) (buffer : Bytes) (canResize : Bool) :
    Consumes (scanOne t buffer canResize) := by
  intro bs r a h
  cases bs with
  | nil => cases h
  | cons ty bs =>
    simp only [scanOne] at h
    split at h
    · cases h
    · exact Consumes.bind (decodeInt_consumes 7)
        (fun index => .bind (scanGet_leaves t index) fun e => .pure _) h
    · exact scanLiteral_consumes t buffer true h
    · exact scanLiteral_consumes t buffer false h
    · exact scanLiteral_consumes t buffer false h
    · split at h
      · cases h
      · exact Consumes.bind (decodeInt_consumes 5) (fun newSize => .pure _) h

theorem scanOne_left {t : DynamicTable} {canResize : Bool} {rest left : Bytes} {rep : Rep}
    (h : scanOne t [] canResize bs = .ok ((rep, left), rest)) : left = [] := by
  cases bs with
  | nil => cases h
  | cons ty bs =>
    simp only [scanOne] at h
    split at h
    · cases h
    · obtain ⟨index, r₁, -, h⟩ := StateT.bind_eq_ok h
      obtain ⟨e, r₂, -, h⟩ := StateT.bind_eq_ok h
      cases h
      rfl
    · exact scanLiteral_left h
    · exact scanLiteral_left h
    · exact scanLiteral_left h
    · split at h
      · cases h
      · obtain ⟨newSize, r₁, -, h⟩ := StateT.bind_eq_ok h
        cases h
        rfl

/-- How a round of the loop ends, for what `scanOne` makes of the same bytes. -/
def Ends (s : Decoding) (scan : Except DecoderError ((Rep × Bytes) × Bytes))
    (out : Option (Except DecoderError Bool × Decoding)) : Prop :=
  (∃ rep left rest, scan = .ok ((rep, left), rest) ∧
    match rep.apply { s.decoder with buffer := left } with
    | none => out = none
    | some (.error e) =>
      ∃ src, out = some (.error e, { s with decoder.buffer := left, src := src })
    | some (.ok (d, entries)) =>
      out = some (.ok rep.canResize, ⟨d, ⟨rest, 0⟩, s.emitted ++ entries⟩)) ∨
  ∃ e left position, scan = .error e ∧ (e.IsNeedMore → s.decoder.buffer = [] → left = []) ∧
    out = some (.error e, { s with decoder.buffer := left, src.position := position })

open DecodeM in
theorem DecodeM.finish (s : Decoding) {rest : Bytes} (hs : s.src.At rest) (entry : Header) :
    (do consume; emit entry; pure false : DecodeM Bool) s =
      some (.ok false, ⟨s.decoder, ⟨rest, 0⟩, s.emitted ++ [entry]⟩) := by
  have hconsume : consume s = some (.ok (), { s with src := ⟨rest, 0⟩ }) := by
    rw [consume, hs.consume]
    rfl
  rw [bind_ok hconsume]
  rfl

open DecodeM in
theorem literal_ends (hs : s.src.At bs) :
    Ends s (scanLiteral s.decoder.table s.decoder.buffer true bs)
      ((do
        let entry ← decodeLiteral true
        DecodeM.insert entry
        consume
        emit entry
        pure false : DecodeM Bool) s) := by
  rcases decodeLiteral_spec hs true with
    ⟨name, value, left, rest, src, hscan, hat, hm⟩ | ⟨e, left, position, hscan, hmore, hm⟩
  · refine .inl ⟨_, left, rest, hscan, ?_⟩
    rw [Rep.apply]
    cases hentry : entryOf name value with
    | error e =>
      rw [hentry] at hm
      exact ⟨src, DecodeM.bind_error hm⟩
    | ok entry =>
      rw [hentry] at hm
      dsimp only
      rw [if_pos rfl, DecodeM.bind_ok hm]
      match hinsert : s.decoder.table.insert entry with
      | none =>
        change ((s.decoder.table.insert entry).map _).bind _ = none
        rw [hinsert]
        rfl
      | some t =>
        have hmi : DecodeM.insert entry { s with decoder.buffer := left, src := src } =
            some (.ok (),
              { s with
                decoder.buffer := left
                decoder.table := t
                src := src }) := by
          rw [DecodeM.insert, hinsert]
          rfl
        rw [DecodeM.bind_ok hmi]
        exact DecodeM.finish _ hat entry
  · exact .inr ⟨e, left, position, hscan, hmore, DecodeM.bind_error hm⟩

open DecodeM in
theorem literal_ends_plain (hs : s.src.At bs) :
    Ends s (scanLiteral s.decoder.table s.decoder.buffer false bs)
      ((do
        let entry ← decodeLiteral false
        consume
        emit entry
        pure false : DecodeM Bool) s) := by
  rcases decodeLiteral_spec hs false with
    ⟨name, value, left, rest, src, hscan, hat, hm⟩ | ⟨e, left, position, hscan, hmore, hm⟩
  · refine .inl ⟨_, left, rest, hscan, ?_⟩
    rw [Rep.apply]
    cases hentry : entryOf name value with
    | error e =>
      rw [hentry] at hm
      exact ⟨src, DecodeM.bind_error hm⟩
    | ok entry =>
      rw [hentry] at hm
      dsimp only
      rw [if_neg Bool.false_ne_true, DecodeM.bind_ok hm]
      exact DecodeM.finish _ hat entry
  · exact .inr ⟨e, left, position, hscan, hmore, DecodeM.bind_error hm⟩

open DecodeM in
theorem indexed_ends (hs : s.src.At bs) :
    Ends s ((do
        let index ← (decodeInt 7 : Parser Nat)
        let e ← scanGet s.decoder.table index
        pure (.indexed e, s.decoder.buffer) : Parser (Rep × Bytes)) bs)
      ((do
        let entry ← decodeIndexed
        consume
        emit entry
        pure false : DecodeM Bool) s) := by
  match hint : decodeInt 7 bs with
  | .error e =>
    refine .inr ⟨e, s.decoder.buffer, s.src.position, StateT.bind_error hint, fun _ h => h, ?_⟩
    have hm : decodeIndexed s = some (.error e, s) := bind_error (decodeInt_error hs hint)
    exact bind_error hm
  | .ok (index, rest) =>
    obtain ⟨used, -, rfl, hm⟩ := decodeInt_ok hs hint
    rcases tableGet_eq { s with src.position := s.src.position + used.length } rest index with
      ⟨entry, hscan, hget⟩ | ⟨e, hscan, hget⟩
    · have hentry : decodeIndexed s =
          some (.ok entry, { s with src.position := s.src.position + used.length }) := by
        rw [decodeIndexed, bind_ok hm, hget]
      refine .inl ⟨.indexed entry, s.decoder.buffer, rest, ?_, ?_⟩
      · exact (StateT.bind_ok hint).trans (StateT.bind_ok hscan)
      · dsimp only [Rep.apply]
        rw [bind_ok hentry]
        exact finish _ hs.forward entry
    · have hentry : decodeIndexed s =
          some (.error e, { s with src.position := s.src.position + used.length }) := by
        rw [decodeIndexed, bind_ok hm, hget]
      refine .inr ⟨e, s.decoder.buffer, _, ?_, fun _ h => h, bind_error hentry⟩
      exact (StateT.bind_ok hint).trans (StateT.bind_error hscan)

open DecodeM in
theorem sizeUpdate_ends (hs : s.src.At bs) :
    Ends s ((do
        let newSize ← (decodeInt 5 : Parser Nat)
        pure (.sizeUpdate newSize, s.decoder.buffer) : Parser (Rep × Bytes)) bs)
      ((do
        processSizeUpdate
        consume
        pure true : DecodeM Bool) s) := by
  match hint : decodeInt 5 bs with
  | .error e =>
    refine .inr ⟨e, s.decoder.buffer, s.src.position, StateT.bind_error hint, fun _ h => h, ?_⟩
    have hm : processSizeUpdate s = some (.error e, s) := bind_error (decodeInt_error hs hint)
    exact bind_error hm
  | .ok (newSize, rest) =>
    obtain ⟨used, -, rfl, hm⟩ := decodeInt_ok hs hint
    refine .inl ⟨.sizeUpdate newSize, s.decoder.buffer, rest, StateT.bind_ok hint, ?_⟩
    rw [Rep.apply]
    by_cases hlimit : newSize > s.decoder.lastMaxUpdate
    · have hupdate : processSizeUpdate s = some (.error .invalidMaxDynamicSize,
          { s with src.position := s.src.position + used.length }) := by
        rw [processSizeUpdate, bind_ok hm]
        exact if_pos hlimit
      rw [if_pos hlimit]
      exact ⟨_, bind_error hupdate⟩
    · rw [if_neg hlimit]
      match hset : s.decoder.table.setMaxSize newSize with
      | none =>
        have hupdate : processSizeUpdate s = none := by
          rw [processSizeUpdate, bind_ok hm, DecodeM.setMaxSize, if_neg hlimit, hset]
          rfl
        change (processSizeUpdate s).bind _ = none
        rw [hupdate]
        rfl
      | some t =>
        have hupdate : processSizeUpdate s = some (.ok (),
            { s with
              decoder.table := t
              src.position := s.src.position + used.length }) := by
          rw [processSizeUpdate, bind_ok hm, DecodeM.setMaxSize, if_neg hlimit, hset]
          rfl
        have hconsume : consume { s with
              decoder.table := t
              src.position := s.src.position + used.length } =
            some (.ok (), { s with decoder.table := t, src := ⟨rest, 0⟩ }) := by
          rw [consume, hs.forward.consume]
          rfl
        rw [bind_ok hupdate, bind_ok hconsume]
        simp only [Option.map_some, List.append_nil]
        rfl

theorem decodeOne_ends {ty : UInt8} (hs : s.src.At (ty :: bs)) (canResize : Bool) :
    Ends s (scanOne s.decoder.table s.decoder.buffer canResize (ty :: bs)) (decodeOne ty canResize s) := by
  rw [scanOne, decodeOne]
  match hload : Representation.load ty with
  | .error e => exact .inr ⟨e, s.decoder.buffer, s.src.position, rfl, fun _ h => h, rfl⟩
  | .ok .indexed => exact indexed_ends hs
  | .ok .literalWithIndexing => exact literal_ends hs
  | .ok .literalWithoutIndexing => exact literal_ends_plain hs
  | .ok .literalNeverIndexed => exact literal_ends_plain hs
  | .ok .sizeUpdate =>
    cases canResize with
    | false => exact .inr ⟨_, s.decoder.buffer, s.src.position, rfl, fun _ h => h, rfl⟩
    | true => exact sizeUpdate_ends hs

end

end TwoPlz.Hpack
