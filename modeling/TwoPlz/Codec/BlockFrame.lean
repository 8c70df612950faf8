import TwoPlz.Codec.FramedWrite

/-! The head of a header block is written before the length of the block is known, and corrected in
the buffer.  What is in the buffer after that is one frame. -/

namespace TwoPlz

/-- The frame that a buffer with room for `limit` bytes takes of a header block. -/
def encodeBlock (hpack : Bytes) (head : Head) (limit : Nat) (extra : Bytes) :
    Option (RawFrame × Option Continuation) :=
  if limit < HEADER_LEN + extra.length then none
  else
    let remaining := limit - HEADER_LEN - extra.length
    let payload := extra ++ hpack.take remaining
    if payload.length ≥ 2 ^ 24 then none
    else if hpack.length > remaining then
      if head.flag &&& END_HEADERS == END_HEADERS then
        some (⟨{ head with flag := head.flag - END_HEADERS }, payload⟩,
          some ⟨head.streamId, hpack.drop remaining⟩)
      else none
    else some (⟨head, payload⟩, none)

def Continuation.frame (c : Continuation) (limit : Nat) : Option (RawFrame × Option Continuation) :=
  encodeBlock c.hpack ⟨.continuation, END_HEADERS, c.streamId⟩ limit []

def EncodeBuf.append (dst : EncodeBuf) (raw : RawFrame) : EncodeBuf :=
  ⟨dst.inner ++ raw.bytes, dst.limit - raw.bytes.length⟩

theorem RawFrame.length_bytes (r : RawFrame) : r.bytes.length = HEADER_LEN + r.payload.length := by
  rw [bytes, List.length_append, Head.length_encode]

theorem EncodeBuf.append_eq (dst : EncodeBuf) (head : Head) (payload : Bytes) :
    dst.append ⟨head, payload⟩ =
      ⟨dst.inner ++ (head.encode payload.length ++ payload), dst.limit - (HEADER_LEN + payload.length)⟩ := by
  rw [append, RawFrame.length_bytes]
  rfl

theorem EncodeBuf.put_fits {dst : EncodeBuf} {bytes : Bytes} (h : bytes.length ≤ dst.limit) :
    dst.put bytes = some ⟨dst.inner ++ bytes, dst.limit - bytes.length⟩ := if_pos h

theorem EncodeBuf.put_none {dst : EncodeBuf} {bytes : Bytes} (h : dst.limit < bytes.length) : dst.put bytes = none :=
  if_neg (Nat.not_le.mpr h)

theorem copyFromSlice_head (front rest : Bytes) (head : Head) (n m : Nat) :
    copyFromSlice (front ++ (head.encode n ++ rest)) front.length (BigEndian.bytes 3 m) =
      some (front ++ (head.encode m ++ rest)) := by
  have hfits : front.length + (BigEndian.bytes 3 m).length ≤ (front ++ (head.encode n ++ rest)).length := by
    rw [List.length_append, List.length_append, Head.length_encode, BigEndian.length_bytes, HEADER_LEN]
    omega
  rw [copyFromSlice, if_pos hfits, List.take_left, List.drop_length_add_append]
  rfl

theorem getElem?_flag (front rest : Bytes) (head : Head) (n : Nat) :
    (front ++ (head.encode n ++ rest))[front.length + 4]? = some head.flag := by
  rw [List.getElem?_append_right (Nat.le_add_right _ _), Nat.add_sub_cancel_left]
  rfl

theorem set_flag (front rest : Bytes) (head : Head) (n : Nat) (flag : UInt8) :
    (front ++ (head.encode n ++ rest)).set (front.length + 4) flag =
      front ++ (({ head with flag := flag } : Head).encode n ++ rest) := by
  rw [List.set_append_right _ _ (Nat.le_add_right _ _), Nat.add_sub_cancel_left]
  rfl

namespace EncodingHeaderBlock

variable {hpack extra : Bytes} {head : Head} {dst : EncodeBuf}

theorem encode_none (h : dst.limit < HEADER_LEN + extra.length) : encode hpack head dst extra = none := by
  by_cases hhead : HEADER_LEN ≤ dst.limit
  · have hput : dst.put (head.encode 0) = some ⟨dst.inner ++ head.encode 0, dst.limit - HEADER_LEN⟩ := by
      rw [EncodeBuf.put_fits (by rwa [Head.length_encode]), Head.length_encode]
    have hextra : (EncodeBuf.mk (dst.inner ++ head.encode 0) (dst.limit - HEADER_LEN)).put extra = none :=
      EncodeBuf.put_none (Nat.sub_lt_left_of_lt_add hhead h)
    simp only [encode, hput, hextra, Option.bind_eq_bind, Option.bind_some, Option.bind_none]
  · have hput : dst.put (head.encode 0) = none :=
      EncodeBuf.put_none (by rw [Head.length_encode]; exact Nat.not_le.mp hhead)
    simp only [encode, hput, Option.bind_eq_bind, Option.bind_none]

theorem encodePayload_eq (hpack : Bytes) (id : Nat) (dst : EncodeBuf) :
    encodePayload hpack id dst =
      some (⟨dst.inner ++ hpack.take dst.limit, dst.limit - (hpack.take dst.limit).length⟩,
        if hpack.length > dst.limit then some ⟨id, hpack.drop dst.limit⟩ else none) := by
  unfold encodePayload
  split
  · rw [EncodeBuf.put_fits (List.length_take_le _ _)]
    rfl
  · rename_i hall
    have hfits : hpack.length ≤ dst.limit := Nat.not_lt.mp hall
    rw [List.take_of_length_le hfits, EncodeBuf.put_fits hfits]
    rfl

/-- What is corrected in the buffer is the head of the frame. -/
theorem encode_eq (hpack : Bytes) (head : Head) (dst : EncodeBuf) (extra : Bytes) :
    encode hpack head dst extra =
      (encodeBlock hpack head dst.limit extra).map fun out => (dst.append out.1, out.2) := by
  by_cases hroom : dst.limit < HEADER_LEN + extra.length
  · rw [encode_none hroom, encodeBlock, if_pos hroom]
    rfl
  have hhead : dst.put (head.encode 0) = some ⟨dst.inner ++ head.encode 0, dst.limit - HEADER_LEN⟩ := by
    rw [EncodeBuf.put_fits (by rw [Head.length_encode]; omega), Head.length_encode]
  have hextra : (EncodeBuf.mk (dst.inner ++ head.encode 0) (dst.limit - HEADER_LEN)).put extra =
      some ⟨dst.inner ++ head.encode 0 ++ extra, dst.limit - HEADER_LEN - extra.length⟩ :=
    EncodeBuf.put_fits (Nat.le_sub_of_add_le' (Nat.not_lt.mp hroom))
  rw [encodeBlock, if_neg hroom, encode]
  simp only [Option.bind_eq_bind, hhead, hextra, encodePayload_eq, Option.bind_some]
  generalize hremaining : dst.limit - HEADER_LEN - extra.length = remaining
  generalize hpayload : extra ++ hpack.take remaining = payload
  have hinner : dst.inner ++ head.encode 0 ++ extra ++ hpack.take remaining =
      dst.inner ++ (head.encode 0 ++ payload) := by
    rw [List.append_assoc, List.append_assoc, hpayload]
  have hlength : (dst.inner ++ (head.encode 0 ++ payload)).length - (dst.inner ++ head.encode 0).length =
      payload.length := by
    simp only [List.length_append]
    omega
  have hlimit : remaining - (hpack.take remaining).length = dst.limit - (HEADER_LEN + payload.length) := by
    rw [← hpayload, List.length_append]
    omega
  rw [hinner, hlength, hlimit]
  split
  · rfl
  rw [copyFromSlice_head, Option.bind_some, getElem?_flag]
  by_cases hlong : hpack.length > remaining
  · simp only [if_pos hlong, Option.isSome_some, if_true, Option.bind_some, set_flag]
    split
    · rw [Option.map_some, EncodeBuf.append_eq]
    · rfl
  · simp only [if_neg hlong, Option.isSome_none, Bool.false_eq_true, if_false, Option.map_some, EncodeBuf.append_eq]

end EncodingHeaderBlock

theorem Continuation.encode_frame (c : Continuation) (dst : EncodeBuf) :
    c.encode dst = (c.frame dst.limit).map fun out => (dst.append out.1, out.2) :=
  EncodingHeaderBlock.encode_eq ..

section

variable [HeaderPlz] [HpackEncoder]

def Headers.frame (h : Headers) (hpack : HpackEncoder.State) (limit : Nat) :
    Option ((RawFrame × Option Continuation) × HpackEncoder.State) :=
  if h.isEndHeaders then do
    let (block, hpack) ← HpackEncoder.encode hpack h.headerBlock
    let out ← encodeBlock block ⟨.headers, h.flags, h.streamId⟩ limit []
    some (out, hpack)
  else none

def PushPromise.frame (p : PushPromise) (hpack : HpackEncoder.State) (limit : Nat) :
    Option ((RawFrame × Option Continuation) × HpackEncoder.State) :=
  if p.flags &&& END_HEADERS == END_HEADERS then do
    let (block, hpack) ← HpackEncoder.encode hpack p.headerBlock
    let out ← encodeBlock block ⟨.pushPromise, p.flags, p.streamId⟩ limit (BigEndian.bytes 4 p.promisedId)
    some (out, hpack)
  else none

theorem Headers.encode_frame (h : Headers) (hpack : HpackEncoder.State) (dst : EncodeBuf) :
    h.encode hpack dst = (h.frame hpack dst.limit).map fun out => ((dst.append out.1.1, out.1.2), out.2) := by
  rw [encode, frame]
  split
  · cases HpackEncoder.encode hpack h.headerBlock with
    | none => rfl
    | some out =>
      simp only [Option.bind_eq_bind, Option.bind_some, EncodingHeaderBlock.encode_eq]
      cases encodeBlock out.1 ⟨.headers, h.flags, h.streamId⟩ dst.limit [] <;> rfl
  · rfl

theorem PushPromise.encode_frame (p : PushPromise) (hpack : HpackEncoder.State) (dst : EncodeBuf) :
    p.encode hpack dst = (p.frame hpack dst.limit).map fun out => ((dst.append out.1.1, out.1.2), out.2) := by
  rw [encode, frame]
  split
  · cases HpackEncoder.encode hpack p.headerBlock with
    | none => rfl
    | some out =>
      simp only [Option.bind_eq_bind, Option.bind_some, EncodingHeaderBlock.encode_eq]
      cases encodeBlock out.1 ⟨.pushPromise, p.flags, p.streamId⟩ dst.limit (BigEndian.bytes 4 p.promisedId) <;> rfl
  · rfl

end

end TwoPlz
