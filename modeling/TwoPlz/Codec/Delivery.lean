import TwoPlz.Codec.BlockFrame
import TwoPlz.Codec.HpackBlocks
import TwoPlz.Plain

/-! The bytes that reach the transport are those of the buffered frames, in order. -/

namespace TwoPlz

section

variable [HeaderPlz]

/-- The frames of the successive `Continuation::encode` calls, at most `n` of them. -/
def Continuation.frames (limit : Nat) : Nat → Continuation → Option (List RawFrame)
  | 0, _ => none
  | n + 1, c => do
    let (raw, next) ← c.frame limit
    match next with
    | none => some [raw]
    | some c => (c.frames limit n).map (raw :: ·)

def blockFrames (limit : Nat) (out : RawFrame × Option Continuation) : Option (List RawFrame) :=
  match out.2 with
  | none => some [out.1]
  | some c => (c.frames limit (c.hpack.length + 1)).map (out.1 :: ·)

def wire (raws : List RawFrame) : Bytes := raws.flatMap RawFrame.bytes

omit [HeaderPlz] in
@[simp] theorem wire_cons (r : RawFrame) (raws : List RawFrame) :
    wire (r :: raws) = r.bytes ++ wire raws := rfl

omit [HeaderPlz] in
@[simp] theorem wire_nil : wire [] = [] := rfl

omit [HeaderPlz] in
@[simp] theorem wire_append (raws raws' : List RawFrame) :
    wire (raws ++ raws') = wire raws ++ wire raws' := List.flatMap_append

/-- No frame stands between a header block and its continuations.  The first argument is the stream
whose header block has not ended. -/
def Unbroken : Option Nat → List RawFrame → Prop
  | block, [] => block = none
  | none, r :: rs =>
    r.head.kind ≠ .continuation ∧
      Unbroken
        (if (r.head.kind = .headers ∨ r.head.kind = .pushPromise) ∧ r.head.flag &&& END_HEADERS = 0
          then some r.head.streamId else none) rs
  | some id, r :: rs =>
    r.head.kind = .continuation ∧ r.head.streamId = id ∧
      Unbroken (if r.head.flag &&& END_HEADERS = 0 then some id else none) rs

section

variable [HpackEncoder]

/-- The frames that the `encode` of its kind leaves in the buffer, with those of the continuations. -/
def Codec.Frame.encode (maxFrameSize : Nat) (hpack : HpackEncoder.State) :
    Codec.Frame → Option (List RawFrame × HpackEncoder.State)
  | .data v => some ([⟨v.head, v.data⟩], hpack)
  | .headers v => do
    let (out, hpack) ← v.frame hpack (writeLimit maxFrameSize)
    (blockFrames (writeLimit maxFrameSize) out).map (·, hpack)
  | .pushPromise v => do
    let (out, hpack) ← v.frame hpack (writeLimit maxFrameSize)
    (blockFrames (writeLimit maxFrameSize) out).map (·, hpack)
  | .settings v => some ([⟨v.head, v.payload⟩], hpack)
  | .goAway v => some ([⟨v.head, v.payload⟩], hpack)
  | .ping v => some ([⟨v.head, v.payload.toList⟩], hpack)
  | .windowUpdate v => some ([⟨v.head, BigEndian.bytes 4 v.sizeIncrement⟩], hpack)
  | .priority _ => none
  | .reset v => some ([⟨v.head, BigEndian.bytes 4 v.errorCode⟩], hpack)

theorem Codec.Frame.encode_headers {max : Nat} {hpack hpack' : HpackEncoder.State} {v : Headers} {raw : RawFrame}
    {c : Continuation} {more : List RawFrame}
    (hframe : v.frame hpack (writeLimit max) = some ((raw, some c), hpack'))
    (hmore : c.frames (writeLimit max) (c.hpack.length + 1) = some more) :
    (Codec.Frame.headers v).encode max hpack = some (raw :: more, hpack') := by
  have hblock : blockFrames (writeLimit max) (raw, some c) = some (raw :: more) :=
    Option.map_eq_some_iff.mpr ⟨more, hmore, rfl⟩
  exact Option.bind_eq_some_iff.mpr ⟨_, hframe, Option.map_eq_some_iff.mpr ⟨_, hblock, rfl⟩⟩

def Codec.Frame.encodeAll (maxFrameSize : Nat) :
    HpackEncoder.State → List Codec.Frame → Option (List RawFrame × HpackEncoder.State)
  | hpack, [] => some ([], hpack)
  | hpack, f :: fs => do
    let (raws, hpack) ← f.encode maxFrameSize hpack
    let (rest, hpack) ← encodeAll maxFrameSize hpack fs
    some (raws ++ rest, hpack)

theorem Codec.Frame.encodeAll_concat {max : Nat} {hpack hpack₁ hpack₂ : HpackEncoder.State}
    {fs : List Codec.Frame} {f : Codec.Frame} {raws raws' : List RawFrame}
    (hfs : encodeAll max hpack fs = some (raws, hpack₁))
    (hf : f.encode max hpack₁ = some (raws', hpack₂)) :
    encodeAll max hpack (fs ++ [f]) = some (raws ++ raws', hpack₂) := by
  induction fs generalizing hpack raws with
  | nil =>
    cases hfs
    simp [encodeAll, hf]
  | cons g gs ih =>
    obtain ⟨⟨rg, h₁⟩, hg, hrest⟩ := Option.bind_eq_some_iff.mp hfs
    obtain ⟨⟨rest, h₂⟩, hgs, heq⟩ := Option.bind_eq_some_iff.mp hrest
    cases heq
    simp [encodeAll, hg, ih hgs, List.append_assoc]

end

/-! ### Header blocks -/

structure FrameSize (max : Nat) : Prop where
  least : DEFAULT_MAX_FRAME_SIZE ≤ max
  most : max ≤ MAX_MAX_FRAME_SIZE

section

omit [HeaderPlz]

theorem sub_endHeaders {flag : UInt8} (h : flag &&& END_HEADERS = END_HEADERS) :
    (flag - END_HEADERS) &&& END_HEADERS = 0 := by
  have cleared : ∀ b : BitVec 8, b &&& 4 = 4 → (b - 4) &&& 4 = 0 := by decide
  apply UInt8.toBitVec_inj.mp
  exact cleared flag.toBitVec (congrArg UInt8.toBitVec h)

theorem encodeBlock_some {hpack extra : Bytes} {head : Head} {limit : Nat} {raw : RawFrame}
    {next : Option Continuation} (h : encodeBlock hpack head limit extra = some (raw, next)) :
    raw.head.kind = head.kind ∧ raw.head.streamId = head.streamId ∧
      ((next = none ∧ raw.head.flag = head.flag) ∨
        (∃ c, next = some c ∧ c.streamId = head.streamId ∧ raw.head.flag &&& END_HEADERS = 0)) := by
  unfold encodeBlock at h
  obtain ⟨-, h⟩ := Option.ite_none_left_eq_some.mp h
  obtain ⟨-, h⟩ := Option.ite_none_left_eq_some.mp h
  split at h
  · obtain ⟨hflag, h⟩ := Option.ite_none_right_eq_some.mp h
    cases h
    exact ⟨rfl, rfl, .inr ⟨_, rfl, rfl, sub_endHeaders (eq_of_beq hflag)⟩⟩
  · cases h
    exact ⟨rfl, rfl, .inl ⟨rfl, rfl⟩⟩

theorem encodeBlock_fits {hpack extra : Bytes} {head : Head} {limit : Nat} {raw : RawFrame}
    {next : Option Continuation} (h : encodeBlock hpack head limit extra = some (raw, next)) :
    raw.bytes.length ≤ limit := by
  have hfits : ∀ payload : Bytes, payload = extra ++ hpack.take (limit - HEADER_LEN - extra.length) →
      ¬limit < HEADER_LEN + extra.length → HEADER_LEN + payload.length ≤ limit := by
    rintro _ rfl hroom
    rw [List.length_append, List.length_take]
    omega
  unfold encodeBlock at h
  obtain ⟨hroom, h⟩ := Option.ite_none_left_eq_some.mp h
  obtain ⟨-, h⟩ := Option.ite_none_left_eq_some.mp h
  rw [RawFrame.length_bytes]
  split at h
  · obtain ⟨-, h⟩ := Option.ite_none_right_eq_some.mp h
    cases h
    exact hfits _ rfl hroom
  · cases h
    exact hfits _ rfl hroom

variable {max : Nat}

theorem encodeBlock_eq (hmax : FrameSize max) {head : Head} (hflag : head.flag &&& END_HEADERS = END_HEADERS)
    (hpack : Bytes) : encodeBlock hpack head (writeLimit max) [] =
      if hpack.length > max then
        some (⟨{ head with flag := head.flag - END_HEADERS }, hpack.take max⟩,
          some ⟨head.streamId, hpack.drop max⟩)
      else some (⟨head, hpack⟩, none) := by
  have hmost : max < 2 ^ 24 := Nat.lt_of_le_of_lt hmax.most (by decide)
  have hsmall : ¬ (hpack.take max).length ≥ 2 ^ 24 := by
    rw [List.length_take]
    omega
  have hlimit : writeLimit max - HEADER_LEN = max := Nat.add_sub_cancel ..
  have hroom : ¬ writeLimit max < HEADER_LEN := by simp [writeLimit]
  simp only [encodeBlock, List.length_nil, Nat.add_zero, Nat.sub_zero, List.nil_append, hlimit, if_neg hroom,
    if_neg hsmall, hflag, beq_self_eq_true, if_true]
  split
  · rfl
  · rename_i hlong
    rw [List.take_of_length_le (by omega)]

theorem Continuation.frame_eq (hmax : FrameSize max) (c : Continuation) :
    c.frame (writeLimit max) =
      if c.hpack.length > max then
        some (⟨⟨.continuation, 0, c.streamId⟩, c.hpack.take max⟩, some ⟨c.streamId, c.hpack.drop max⟩)
      else some (⟨⟨.continuation, END_HEADERS, c.streamId⟩, c.hpack⟩, none) := by
  have hset : END_HEADERS &&& END_HEADERS = END_HEADERS := by decide
  have hcleared : END_HEADERS - END_HEADERS = 0 := by decide
  rw [frame, encodeBlock_eq hmax hset, hcleared]

theorem Continuation.frames_isSome (hmax : FrameSize max) {n : Nat} {c : Continuation}
    (hn : c.hpack.length < n) : ∃ raws, c.frames (writeLimit max) n = some raws := by
  induction n generalizing c with
  | zero => omega
  | succ n ih =>
    rw [frames, frame_eq hmax]
    split
    · have hpos : 0 < max := Nat.lt_of_lt_of_le (by decide) hmax.least
      have hshort : (c.hpack.drop max).length < n := by
        rw [List.length_drop]
        omega
      obtain ⟨raws, hraws⟩ := ih (c := ⟨c.streamId, c.hpack.drop max⟩) hshort
      exact ⟨_, by simp [hraws]; rfl⟩
    · exact ⟨_, rfl⟩

theorem Continuation.frames_mono {limit n m : Nat} {c : Continuation} {raws : List RawFrame}
    (h : c.frames limit n = some raws) (hm : n ≤ m) : c.frames limit m = some raws := by
  induction n generalizing m c raws with
  | zero => cases h
  | succ n ih =>
    obtain ⟨m, rfl⟩ : ∃ k, m = k + 1 := ⟨m - 1, by omega⟩
    obtain ⟨⟨raw, next⟩, hraw, hrest⟩ := Option.bind_eq_some_iff.mp h
    rw [frames, hraw]
    cases next with
    | none => exact hrest
    | some c =>
      obtain ⟨rest, hframes, rfl⟩ := Option.map_eq_some_iff.mp hrest
      exact Option.map_eq_some_iff.mpr ⟨rest, ih hframes (by omega), rfl⟩

/-- The number of calls is only a bound. -/
theorem Continuation.frames_self (hmax : FrameSize max) {n : Nat} {c : Continuation}
    {raws : List RawFrame} (h : c.frames (writeLimit max) n = some raws) :
    c.frames (writeLimit max) (c.hpack.length + 1) = some raws := by
  obtain ⟨raws', h'⟩ := c.frames_isSome hmax (Nat.lt_succ_self _)
  have hn := frames_mono h (Nat.le_max_left n (c.hpack.length + 1))
  have hl := frames_mono h' (Nat.le_max_right n (c.hpack.length + 1))
  rw [h', ← hl, hn]

theorem Continuation.unbroken {limit n : Nat} {c : Continuation} {raws rest : List RawFrame}
    (h : c.frames limit n = some raws) (hrest : Unbroken none rest) :
    Unbroken (some c.streamId) (raws ++ rest) := by
  induction n generalizing c raws with
  | zero => cases h
  | succ n ih =>
    obtain ⟨⟨raw, next⟩, hraw, hnext⟩ := Option.bind_eq_some_iff.mp h
    obtain ⟨hkind, hid, ⟨rfl, hflag⟩ | ⟨d, rfl, hd, hflag⟩⟩ := encodeBlock_some hraw
    · cases hnext
      refine ⟨hkind, hid, ?_⟩
      rw [hflag, if_neg (by simp [END_HEADERS])]
      exact hrest
    · obtain ⟨more, hmore, rfl⟩ := Option.map_eq_some_iff.mp hnext
      refine ⟨hkind, hid, ?_⟩
      rw [if_pos hflag, show c.streamId = d.streamId from hd.symm]
      exact ih hmore

theorem blockFrames_unbroken {hpack extra : Bytes} {head : Head} {limit : Nat}
    {out : RawFrame × Option Continuation} {raws rest : List RawFrame}
    (hout : encodeBlock hpack head limit extra = some out) (hraws : blockFrames limit out = some raws)
    (hkind : head.kind = .headers ∨ head.kind = .pushPromise)
    (hflag : head.flag &&& END_HEADERS = END_HEADERS) (hrest : Unbroken none rest) :
    Unbroken none (raws ++ rest) := by
  obtain ⟨raw, next⟩ := out
  obtain ⟨hk, hid, ⟨rfl, hf⟩ | ⟨c, rfl, hc, hf⟩⟩ := encodeBlock_some hout
  · cases hraws
    refine ⟨?_, ?_⟩
    · rw [hk]
      rcases hkind with h | h <;> simp [h]
    · rw [if_neg]
      · exact hrest
      · rw [hf, hflag]
        simp [END_HEADERS]
  · obtain ⟨more, hmore, rfl⟩ := Option.map_eq_some_iff.mp hraws
    refine ⟨?_, ?_⟩
    · rw [hk]
      rcases hkind with h | h <;> simp [h]
    · rw [if_pos ⟨hk.symm ▸ hkind, hf⟩, hid, ← hc]
      exact Continuation.unbroken hmore hrest

end

section

variable [HpackEncoder]

theorem Codec.Frame.unbroken {max : Nat} {hpack hpack' : HpackEncoder.State} {f : Codec.Frame}
    {raws rest : List RawFrame} (h : f.encode max hpack = some (raws, hpack'))
    (hrest : Unbroken none rest) : Unbroken none (raws ++ rest) := by
  cases f with
  | headers v =>
    obtain ⟨⟨out, hp⟩, hout, hraws⟩ := Option.bind_eq_some_iff.mp h
    obtain ⟨raws', hframes, heq⟩ := Option.map_eq_some_iff.mp hraws
    cases heq
    obtain ⟨hend, hout⟩ := Option.ite_none_right_eq_some.mp hout
    obtain ⟨⟨block, hp'⟩, -, hout⟩ := Option.bind_eq_some_iff.mp hout
    obtain ⟨out', hblock, heq⟩ := Option.bind_eq_some_iff.mp hout
    cases heq
    exact blockFrames_unbroken hblock hframes (.inl rfl) (eq_of_beq hend) hrest
  | pushPromise v =>
    obtain ⟨⟨out, hp⟩, hout, hraws⟩ := Option.bind_eq_some_iff.mp h
    obtain ⟨raws', hframes, heq⟩ := Option.map_eq_some_iff.mp hraws
    cases heq
    obtain ⟨hend, hout⟩ := Option.ite_none_right_eq_some.mp hout
    obtain ⟨⟨block, hp'⟩, -, hout⟩ := Option.bind_eq_some_iff.mp hout
    obtain ⟨out', hblock, heq⟩ := Option.bind_eq_some_iff.mp hout
    cases heq
    exact blockFrames_unbroken hblock hframes (.inr rfl) (eq_of_beq hend) hrest
  | priority v => cases h
  | data v => cases h; exact ⟨nofun, hrest⟩
  | settings v => cases h; exact ⟨nofun, hrest⟩
  | goAway v => cases h; exact ⟨nofun, hrest⟩
  | ping v => cases h; exact ⟨nofun, hrest⟩
  | windowUpdate v => cases h; exact ⟨nofun, hrest⟩
  | reset v => cases h; exact ⟨nofun, hrest⟩

theorem Codec.Frame.encodeAll_unbroken {max : Nat} {hpack hpack' : HpackEncoder.State}
    {fs : List Codec.Frame} {raws : List RawFrame}
    (h : encodeAll max hpack fs = some (raws, hpack')) : Unbroken none raws := by
  induction fs generalizing hpack raws with
  | nil =>
    cases h
    rfl
  | cons f fs ih =>
    obtain ⟨⟨rf, h₁⟩, hf, hrest⟩ := Option.bind_eq_some_iff.mp h
    obtain ⟨⟨rest, h₂⟩, hfs, heq⟩ := Option.bind_eq_some_iff.mp hrest
    cases heq
    exact f.unbroken hf (ih hfs)

/-! ### The writer -/

namespace Encoder

def tail (e : Encoder) : Option Bytes :=
  match e.next with
  | none => some []
  | some (.data frame) => some frame.data
  | some (.continuation c) => (c.frames (writeLimit e.maxFrameSize) (c.hpack.length + 1)).map wire

end Encoder

namespace Codec.FramedWrite

/-- What has reached the transport and what is still to reach it make up `sent`. -/
structure Delivers (max : Nat) (hpack : HpackEncoder.State) (sent : Bytes) (w : FramedWrite) : Prop where
  maxFrameSize : w.encoder.maxFrameSize = max
  hpack : w.encoder.hpack = hpack
  threshold : 0 < w.encoder.chainThreshold
  position : w.encoder.position ≤ w.encoder.buf.length
  /-- The payload of a DATA frame is only written once the buffer is. -/
  drained : ∀ d, w.encoder.next = some (.data d) → d.data = [] → w.encoder.remaining = 0
  bytes : ∃ tail, w.encoder.tail = some tail ∧
    w.inner ++ (w.encoder.buf.drop w.encoder.position ++ tail) = sent

variable {max : Nat} {hpack : HpackEncoder.State} {sent : Bytes} {w : FramedWrite}

theorem new_delivers (vectored : Bool) :
    Delivers DEFAULT_MAX_FRAME_SIZE HpackEncoder.default [] (new vectored) := by
  refine ⟨rfl, rfl, ?_, Nat.le_refl _, nofun, ⟨[], rfl, rfl⟩⟩
  cases vectored <;> simp [new, CHAIN_THRESHOLD, CHAIN_THRESHOLD_WITHOUT_VECTORED_IO]

theorem Delivers.inner_isPrefix (h : Delivers max hpack sent w) : w.inner <+: sent := by
  obtain ⟨tail, -, hbytes⟩ := h.bytes
  exact ⟨_, hbytes⟩

omit [HeaderPlz] [HpackEncoder] in
theorem drop_position (n : Nat) (buf : Bytes) (position : Nat) :
    buf.drop (position + min n (buf.length - position)) = (buf.drop position).drop n := by
  rw [← List.drop_drop]
  by_cases hn : n ≤ buf.length - position
  · rw [Nat.min_eq_left hn]
  · have hlen : (buf.drop position).length = buf.length - position := List.length_drop
    rw [Nat.min_eq_right (by omega), List.drop_of_length_le (by omega),
      List.drop_of_length_le (by omega)]

theorem writeBuf_delivers (h : Delivers max hpack sent w) (n : Nat) :
    Delivers max hpack sent (w.writeBuf n) := by
  obtain ⟨tail, htail, hbytes⟩ := h.bytes
  have hpos := h.position
  by_cases hdata : ∃ frame, w.encoder.next = some (.data frame)
  · obtain ⟨frame, hnext⟩ := hdata
    obtain rfl : frame.data = tail := by simpa [Encoder.tail, hnext] using htail
    simp only [writeBuf, hnext]
    refine ⟨h.maxFrameSize, h.hpack, h.threshold, ?_, ?_, ⟨_, rfl, ?_⟩⟩
    · simp only [Encoder.remaining]
      omega
    · intro d hd hempty
      cases hd
      have hdrained := h.drained frame hnext
      simp only [Encoder.remaining, List.drop_eq_nil_iff] at hempty hdrained ⊢
      by_cases hall : w.encoder.buf.length - w.encoder.position ≤ n
      · omega
      · have hnil := hdrained (List.eq_nil_of_length_eq_zero (by omega))
        omega
    · have hlen : (w.encoder.buf.drop w.encoder.position).length = w.encoder.remaining :=
        List.length_drop
      rw [← hbytes, List.append_assoc]
      simp only [Encoder.remaining] at hlen ⊢
      rw [drop_position, ← hlen, ← List.drop_append, List.take_append_drop]
  · -- the payload, if any, is not touched
    have hwrite : w.writeBuf n =
        { inner := w.inner ++ (w.encoder.buf.drop w.encoder.position).take n
          encoder := { w.encoder with
            position := w.encoder.position + min n w.encoder.remaining } } := by
      match hnext : w.encoder.next with
      | none => simp only [writeBuf, hnext]
      | some (.continuation c) => simp only [writeBuf, hnext]
      | some (.data frame) => exact absurd ⟨frame, hnext⟩ hdata
    rw [hwrite]
    refine ⟨h.maxFrameSize, h.hpack, h.threshold, ?_, ?_, ⟨tail, htail, ?_⟩⟩
    · simp only [Encoder.remaining]
      omega
    · intro d hd
      exact absurd ⟨d, hd⟩ hdata
    · rw [← hbytes, List.append_assoc]
      simp only [Encoder.remaining]
      rw [drop_position, ← List.append_assoc (List.take _ _), List.take_append_drop]

theorem Delivers.buf_nil (h : Delivers max hpack sent w) (he : w.encoder.isEmpty = true) :
    w.encoder.buf.drop w.encoder.position = [] := by
  have hrem : w.encoder.remaining = 0 := by
    unfold Encoder.isEmpty at he
    split at he
    · rename_i d hd
      exact h.drained d hd (List.isEmpty_iff.mp he)
    · exact eq_of_beq he
  apply List.drop_of_length_le
  simp only [Encoder.remaining] at hrem
  omega

theorem unsetFrame_delivers (hmax : FrameSize max) (h : Delivers max hpack sent w)
    (he : w.encoder.isEmpty = true) :
    ∃ flow e, w.encoder.unsetFrame = some (flow, e) ∧
      Delivers max hpack sent { w with encoder := e } ∧
      (flow = .break → w.inner = sent ∧ e.next = none) ∧
      (flow = .continue → e.isEmpty = false) ∧ (w.encoder.next = none → e.next = none) := by
  obtain ⟨tail, htail, hbytes⟩ := h.bytes
  rw [h.buf_nil he, List.nil_append] at hbytes
  obtain ⟨inner, hp, buf, position, next, last, frameSize, threshold, capacity⟩ := w
  obtain rfl : frameSize = max := h.maxFrameSize
  match next with
  | none =>
    cases htail
    refine ⟨.break, _, rfl, ?_, fun _ => ⟨by simpa using hbytes, rfl⟩, nofun, fun _ => rfl⟩
    exact ⟨rfl, h.hpack, h.threshold, Nat.le_refl _, nofun, ⟨[], rfl, by simpa using hbytes⟩⟩
  | some (.data d) =>
    cases htail
    have hnil : d.data = [] := List.isEmpty_iff.mp he
    rw [hnil] at hbytes
    refine ⟨.break, _, rfl, ?_, fun _ => ⟨by simpa using hbytes, rfl⟩, nofun, nofun⟩
    exact ⟨rfl, h.hpack, h.threshold, Nat.le_refl _, nofun, ⟨[], rfl, by simpa using hbytes⟩⟩
  | some (.continuation c) =>
    obtain ⟨raws, hraws, rfl⟩ := Option.map_eq_some_iff.mp htail
    obtain ⟨⟨raw, next⟩, hraw, hrest⟩ := Option.bind_eq_some_iff.mp hraws
    have hencode : c.encode ⟨[], writeLimit frameSize⟩ =
        some ((EncodeBuf.mk [] (writeLimit frameSize)).append raw, next) := by
      rw [c.encode_frame, hraw, Option.map_some]
    refine ⟨.continue, _, Option.bind_eq_some_iff.mpr ⟨_, hencode, rfl⟩, ?_, nofun, ?_, nofun⟩
    · refine ⟨rfl, h.hpack, h.threshold, Nat.zero_le _, ?_, ?_⟩
      · intro d hd
        cases next <;> cases hd
      · cases next with
        | none =>
          cases hrest
          exact ⟨[], rfl, by simpa [EncodeBuf.append] using hbytes⟩
        | some c' =>
          obtain ⟨more, hmore, rfl⟩ := Option.map_eq_some_iff.mp hrest
          have hself := c'.frames_self hmax hmore
          exact ⟨wire more, Option.map_eq_some_iff.mpr ⟨more, hself, rfl⟩,
            by simpa [EncodeBuf.append] using hbytes⟩
    · intro _
      have hne : raw.bytes.length ≠ 0 := fun h0 => raw.bytes_ne_nil (List.eq_nil_of_length_eq_zero h0)
      cases next with
      | none => simpa [Encoder.isEmpty, Encoder.remaining, EncodeBuf.append] using hne
      | some c' => simpa [Encoder.isEmpty, Encoder.remaining, EncodeBuf.append] using hne

/-- `flush` returns after at most two rounds for each write, and it is ready only when everything
has been written. -/
theorem flushLoop_delivers (hmax : FrameSize max) (h : Delivers max hpack sent w)
    {writes : List WriteResult} {rounds : Nat}
    (hrounds : 2 * writes.length + (if w.encoder.isEmpty then 2 else 1) ≤ rounds) :
    ∃ poll w', flushLoop rounds writes w = some (poll, w') ∧ Delivers max hpack sent w' ∧
      (poll = .ready → w'.inner = sent ∧ w'.encoder.next = none) ∧
      (w.encoder.next = none → w'.encoder.next = none) := by
  induction rounds generalizing w writes with
  | zero => split at hrounds <;> omega
  | succ rounds ih =>
    rw [flushLoop.eq_def]
    dsimp only
    by_cases he : w.encoder.isEmpty
    · obtain ⟨flow, e, hunset, hd, hbreak, hcont, hnone⟩ := unsetFrame_delivers hmax h he
      rw [if_pos he] at hrounds
      rw [if_pos he, hunset]
      cases flow with
      | «break» => exact ⟨_, _, rfl, hd, fun _ => hbreak rfl, hnone⟩
      | «continue» =>
        have hrounds' : 2 * writes.length + (if e.isEmpty then 2 else 1) ≤ rounds := by
          rw [hcont rfl]
          simp only [Bool.false_eq_true, if_false]
          omega
        obtain ⟨poll, w', hloop, hd', hready, hnone'⟩ := ih hd hrounds'
        exact ⟨poll, w', hloop, hd', hready, fun hn => hnone' (hnone hn)⟩
    · rw [if_neg he]
      match writes with
      | [] => exact ⟨_, _, rfl, h, nofun, id⟩
      | .error :: _ => exact ⟨_, _, rfl, h, nofun, id⟩
      | .accepted n :: writes =>
        have hrounds' :
            2 * writes.length + (if (w.writeBuf n).encoder.isEmpty then 2 else 1) ≤ rounds := by
          rw [if_neg he, List.length_cons] at hrounds
          split <;> omega
        obtain ⟨poll, w', hloop, hd', hready, hnone'⟩ := ih (writeBuf_delivers h n) hrounds'
        refine ⟨poll, w', hloop, hd', hready, fun hn => hnone' ?_⟩
        simp only [writeBuf, hn]

theorem Delivers.flush (hmax : FrameSize max) (h : Delivers max hpack sent w) (io : Transport) :
    ∃ poll w', w.flush io = some (poll, w') ∧ Delivers max hpack sent w' ∧
      (poll = .ready → w'.inner = sent ∧ w'.encoder.next = none) ∧
      (w.encoder.next = none → w'.encoder.next = none) := by
  have hrounds : 2 * io.writes.length + (if w.encoder.isEmpty then 2 else 1) ≤
      2 * io.writes.length + 2 := by
    split <;> omega
  obtain ⟨poll, w', hloop, hd, hready, hnone⟩ := flushLoop_delivers hmax h hrounds
  rw [FramedWrite.flush, hloop]
  cases poll with
  | ready => exact ⟨io.flush, w', rfl, hd, fun _ => hready rfl, hnone⟩
  | pending => exact ⟨_, w', rfl, hd, nofun, hnone⟩
  | error => exact ⟨_, w', rfl, hd, nofun, hnone⟩

theorem Delivers.pollReady (hmax : FrameSize max) (h : Delivers max hpack sent w)
    (capacity flushed : Nat) (io : Transport) :
    ∃ poll w', w.pollReady capacity flushed io = some (poll, w') ∧ Delivers max hpack sent w' ∧
      (poll = .ready → w'.encoder.next = none) ∧
      (w.encoder.next = none → w'.encoder.next = none) := by
  rw [FramedWrite.pollReady]
  split
  · rename_i hcap
    have hnone := Option.isNone_iff_eq_none.mp (Bool.and_eq_true_iff.mp hcap).1
    exact ⟨.ready, w, rfl, h, fun _ => hnone, id⟩
  · obtain ⟨poll, w', hflush, hd, hready, hnone⟩ := h.flush hmax io
    rw [hflush]
    cases poll with
    | ready => exact ⟨_, w', rfl, hd, fun _ => (hready rfl).2, hnone⟩
    | pending => exact ⟨_, w', rfl, hd, nofun, hnone⟩
    | error => exact ⟨_, w', rfl, hd, nofun, hnone⟩

theorem Delivers.append (h : Delivers max hpack sent w) (hnext : w.encoder.next = none) (e : Encoder)
    {hpack' : HpackEncoder.State} (bytes tail : Bytes) (hsize : e.maxFrameSize = w.encoder.maxFrameSize)
    (hthreshold : e.chainThreshold = w.encoder.chainThreshold) (hhpack : e.hpack = hpack')
    (hbuf : e.buf = w.encoder.buf ++ bytes) (hposition : e.position = w.encoder.position)
    (htail : e.tail = some tail) (hdata : ∀ d, e.next = some (.data d) → d.data ≠ []) :
    Delivers max hpack' (sent ++ (bytes ++ tail)) { w with encoder := e } := by
  obtain ⟨tail', htail', hbytes⟩ := h.bytes
  obtain rfl : [] = tail' := by simpa [Encoder.tail, hnext] using htail'
  have hpos := h.position
  refine ⟨hsize.trans h.maxFrameSize, hhpack, hthreshold ▸ h.threshold, ?_,
    fun d hd hnil => absurd hnil (hdata d hd), ⟨tail, htail, ?_⟩⟩
  · simp only [hbuf, hposition, List.length_append]
    omega
  · simp only [hbuf, hposition]
    rw [← hbytes, List.drop_append_of_le_length hpos]
    simp only [List.append_nil, List.append_assoc]

theorem Delivers.put (h : Delivers max hpack sent w) (hnext : w.encoder.next = none) (bytes : Bytes) :
    Delivers max hpack (sent ++ bytes) { w with encoder := w.encoder.put bytes } := by
  have hput := h.append hnext (w.encoder.put bytes) bytes [] rfl rfl h.hpack rfl rfl
    (by simp [Encoder.tail, Encoder.put, hnext]) (fun d hd => by simp [Encoder.put, hnext] at hd)
  rwa [List.append_nil] at hput

theorem bufferData_delivers (h : Delivers max hpack sent w) (hnext : w.encoder.next = none) {v : Data}
    {e : Encoder} (hb : w.encoder.bufferData v = .ok e) :
    Delivers max hpack (sent ++ wire [⟨v.head, v.data⟩]) { w with encoder := e } := by
  have hpos := h.position
  have hwire : wire [⟨v.head, v.data⟩] = v.head.encode v.data.length ++ v.data := by
    simp [wire, RawFrame.bytes]
  rw [hwire]
  unfold Encoder.bufferData at hb
  dsimp only at hb
  split at hb
  · cases hb
  split at hb
  · rename_i hlong
    split at hb
    · -- a first part of the payload is copied behind the head, never all of it
      rename_i hshort
      cases hb
      generalize hextra : (w.encoder.put (v.head.encode v.data.length)).chainThreshold
        - (w.encoder.put (v.head.encode v.data.length)).remaining = extra at *
      have hne : v.data.drop extra ≠ [] := by
        apply List.ne_nil_of_length_pos
        simp only [Encoder.put, Encoder.remaining, List.length_append, Head.length_encode,
          HEADER_LEN] at hextra hshort
        rw [List.length_drop]
        omega
      have hsplit : v.data = v.data.take extra ++ v.data.drop extra := (List.take_append_drop ..).symm
      have happ := h.append hnext
        { (w.encoder.put (v.head.encode v.data.length)).put (v.data.take extra) with
          next := some (.data { v with data := v.data.drop extra }) }
        (v.head.encode v.data.length ++ v.data.take extra) (v.data.drop extra) rfl rfl h.hpack
        (List.append_assoc ..) rfl rfl (fun d hd => by cases hd; exact hne)
      rw [List.append_assoc, ← hsplit] at happ
      exact happ
    · cases hb
      have hne : v.data ≠ [] := by
        apply List.ne_nil_of_length_pos
        have := h.threshold
        omega
      exact h.append hnext _ _ _ rfl rfl h.hpack rfl rfl rfl (fun d hd => by cases hd; exact hne)
  · cases hb
    have hput := h.append hnext
      { w.encoder.put v.encodeChunk with lastDataFrame := some { v with data := [] } } v.encodeChunk []
      rfl rfl h.hpack rfl rfl (by simp [Encoder.tail, Encoder.put, hnext])
      (fun d hd => by simp [Encoder.put, hnext] at hd)
    rwa [List.append_nil] at hput

theorem bufferBlock_delivers (hmax : FrameSize max) (h : Delivers max hpack sent w)
    (hnext : w.encoder.next = none) (out : (RawFrame × Option Continuation) × HpackEncoder.State) (limit : Nat) :
    ∃ raws, blockFrames (writeLimit max) out.1 = some raws ∧
      Delivers max out.2 (sent ++ wire raws) { w with
        encoder := w.encoder.bufferBlock (((EncodeBuf.mk w.encoder.buf limit).append out.1.1, out.1.2), out.2) } := by
  obtain ⟨⟨raw, next⟩, hpack'⟩ := out
  cases next with
  | none =>
    refine ⟨[raw], rfl, ?_⟩
    exact h.append hnext _ _ _ rfl rfl rfl rfl rfl (by simp [Encoder.tail, Encoder.bufferBlock, hnext])
      (fun d hd => by simp [Encoder.bufferBlock, hnext] at hd)
  | some c =>
    obtain ⟨rest, hrest⟩ := c.frames_isSome hmax (Nat.lt_succ_self _)
    refine ⟨raw :: rest, by simp [blockFrames, hrest], ?_⟩
    exact h.append hnext _ raw.bytes (wire rest) rfl rfl rfl rfl rfl
      (by simp [Encoder.tail, Encoder.bufferBlock, h.maxFrameSize, hrest]) (fun d hd => by cases hd)

theorem Delivers.buffer (hmax : FrameSize max) (h : Delivers max hpack sent w)
    (hnext : w.encoder.next = none) {f : Frame} {w' : FramedWrite}
    (hb : w.buffer f = some (.ok w')) :
    ∃ raws hpack', f.encode max hpack = some (raws, hpack') ∧
      Delivers max hpack' (sent ++ wire raws) w' := by
  obtain ⟨r, hr, hmap⟩ := Option.map_eq_some_iff.mp hb
  obtain ⟨e, rfl, rfl⟩ : ∃ e, r = .ok e ∧ { w with encoder := e } = w' := by
    cases r with
    | error err => cases hmap
    | ok e => exact ⟨e, rfl, Except.ok.inj hmap⟩
  cases f with
  | data v => exact ⟨_, _, rfl, bufferData_delivers h hnext (Option.some.inj hr)⟩
  | headers v =>
    obtain ⟨buffered, hencode, heq⟩ := Option.map_eq_some_iff.mp hr
    cases heq
    rw [v.encode_frame] at hencode
    obtain ⟨out, hout, rfl⟩ := Option.map_eq_some_iff.mp hencode
    obtain ⟨raws, hraws, hd⟩ := bufferBlock_delivers hmax h hnext out _
    rw [h.hpack, h.maxFrameSize] at hout
    refine ⟨raws, out.2, ?_, hd⟩
    exact Option.bind_eq_some_iff.mpr ⟨out, hout, Option.map_eq_some_iff.mpr ⟨raws, hraws, rfl⟩⟩
  | pushPromise v =>
    obtain ⟨buffered, hencode, heq⟩ := Option.map_eq_some_iff.mp hr
    cases heq
    rw [v.encode_frame] at hencode
    obtain ⟨out, hout, rfl⟩ := Option.map_eq_some_iff.mp hencode
    obtain ⟨raws, hraws, hd⟩ := bufferBlock_delivers hmax h hnext out _
    rw [h.hpack, h.maxFrameSize] at hout
    refine ⟨raws, out.2, ?_, hd⟩
    exact Option.bind_eq_some_iff.mpr ⟨out, hout, Option.map_eq_some_iff.mpr ⟨raws, hraws, rfl⟩⟩
  | priority v => cases hr
  | settings v =>
    cases hr
    exact ⟨_, _, rfl, by simpa [RawFrame.bytes, Settings.encode] using h.put hnext v.encode⟩
  | goAway v =>
    cases hr
    exact ⟨_, _, rfl, by simpa [RawFrame.bytes, GoAway.encode] using h.put hnext v.encode⟩
  | ping v =>
    cases hr
    exact ⟨_, _, rfl, by simpa [RawFrame.bytes, Ping.encode] using h.put hnext v.encode⟩
  | windowUpdate v =>
    cases hr
    exact ⟨_, _, rfl, by simpa [RawFrame.bytes, WindowUpdate.encode] using h.put hnext v.encode⟩
  | reset v =>
    cases hr
    exact ⟨_, _, rfl, by simpa [RawFrame.bytes, Reset.encode] using h.put hnext v.encode⟩

/-! What a transport that takes whole frames gets. -/

variable {n rounds : Nat} {e : Encoder} {writes : List WriteResult}

theorem flushLoop_accepted (h : w.encoder.isEmpty = false) :
    flushLoop (rounds + 1) (.accepted n :: writes) w = flushLoop rounds writes (w.writeBuf n) := by
  rw [flushLoop, h]
  rfl

theorem flushLoop_unset {flow : ControlFlow} (h : w.encoder.isEmpty = true)
    (hunset : w.encoder.unsetFrame = some (flow, e)) :
    flushLoop (rounds + 1) writes w = match flow with
      | .continue => flushLoop rounds writes { w with encoder := e }
      | .break => some (.ready, { w with encoder := e }) := by
  rw [flushLoop.eq_def]
  cases flow <;> simp only [h, hunset, if_true, Option.bind_eq_bind, Option.bind_some]

theorem writeBuf_whole (hnext : ∀ d, w.encoder.next ≠ some (.data d)) (hn : w.encoder.buf.length ≤ n) :
    (w.writeBuf n).encoder.isEmpty = true ∧ (w.writeBuf n).encoder.next = w.encoder.next ∧
      (w.writeBuf n).encoder.maxFrameSize = w.encoder.maxFrameSize := by
  obtain ⟨inner, hp, buf, position, next, last, frameSize, threshold, capacity⟩ := w
  cases next with
  | none =>
    refine ⟨?_, rfl, rfl⟩
    simp only [writeBuf, Encoder.isEmpty, Encoder.remaining, beq_iff_eq]
    dsimp only at hn
    omega
  | some next =>
    cases next with
    | data d => exact absurd rfl (hnext d)
    | continuation c =>
      refine ⟨?_, rfl, rfl⟩
      simp only [writeBuf, Encoder.isEmpty, Encoder.remaining, beq_iff_eq]
      dsimp only at hn
      omega

theorem flushLoop_frames (hn : writeLimit max ≤ n) {k : Nat} {c : Continuation}
    {raws : List RawFrame} (hraws : c.frames (writeLimit max) k = some raws)
    (hsize : w.encoder.maxFrameSize = max) (hnext : w.encoder.next = some (.continuation c))
    (hempty : w.encoder.isEmpty = true) (hrounds : 2 * raws.length + 1 ≤ rounds) :
    ∃ w', flushLoop rounds (List.replicate raws.length (.accepted n)) w = some (.ready, w') := by
  induction k generalizing c raws w rounds with
  | zero => cases hraws
  | succ k ih =>
    obtain ⟨⟨raw, next⟩, hframe, hrest⟩ := Option.bind_eq_some_iff.mp hraws
    have hencode := c.encode_frame ⟨[], writeLimit max⟩
    rw [hframe, Option.map_some] at hencode
    have hunset : w.encoder.unsetFrame = some (.continue,
        { w.encoder with buf := raw.bytes, position := 0, next := next.map .continuation }) := by
      rw [Encoder.unsetFrame]
      simp only [hnext, hsize, hencode, Option.bind_eq_bind, Option.bind_some]
      rfl
    have hfits : raw.bytes.length ≤ n := (encodeBlock_fits hframe).trans hn
    have hraw : raw.bytes.length ≠ 0 := fun h0 => raw.bytes_ne_nil (List.eq_nil_of_length_eq_zero h0)
    obtain ⟨more, rounds, rfl, rfl⟩ : ∃ more rounds', raws = raw :: more ∧ rounds = rounds' + 2 := by
      cases next with
      | none =>
        cases hrest
        exact ⟨[], rounds - 2, rfl, (Nat.sub_add_cancel (Nat.le_of_succ_le hrounds)).symm⟩
      | some d =>
        obtain ⟨more, -, rfl⟩ := Option.map_eq_some_iff.mp hrest
        rw [List.length_cons] at hrounds
        exact ⟨more, rounds - 2, rfl, by omega⟩
    rw [flushLoop_unset hempty hunset, List.length_cons, List.replicate_succ]
    dsimp only
    generalize hw : FramedWrite.mk w.inner { w.encoder with
      buf := raw.bytes, position := 0, next := next.map .continuation } = w₁
    have hnodata : ∀ d, w₁.encoder.next ≠ some (.data d) := by
      intro d hd
      rw [← hw] at hd
      cases next <;> cases hd
    have hfull : w₁.encoder.isEmpty = false := by
      rw [← hw]
      cases next <;> exact beq_false_of_ne hraw
    have hbuf : w₁.encoder.buf.length ≤ n := by rw [← hw]; exact hfits
    obtain ⟨htaken, hsame, hsizes⟩ := writeBuf_whole hnodata hbuf
    rw [flushLoop_accepted hfull]
    cases next with
    | none =>
      cases hrest
      obtain ⟨rounds, rfl⟩ : ∃ rounds', rounds = rounds' + 1 := ⟨rounds - 1, by simp at hrounds; omega⟩
      have hdone : (w₁.writeBuf n).encoder.next = none := by rw [hsame, ← hw]; rfl
      have hbreak : (w₁.writeBuf n).encoder.unsetFrame =
          some (.break, { (w₁.writeBuf n).encoder with buf := [], position := 0 }) := by
        rw [Encoder.unsetFrame]
        simp only [hdone]
      exact ⟨_, flushLoop_unset htaken hbreak⟩
    | some d =>
      obtain ⟨rest, hframes, heq⟩ := Option.map_eq_some_iff.mp hrest
      cases heq
      refine ih hframes (hsizes.trans (by rw [← hw]; exact hsize)) (hsame.trans (by rw [← hw]; rfl)) htaken ?_
      rw [List.length_cons] at hrounds
      omega

theorem flush_frames (hn : writeLimit max ≤ n) {k : Nat} {c : Continuation} {raws : List RawFrame}
    (hraws : c.frames (writeLimit max) k = some raws) (hsize : w.encoder.maxFrameSize = max)
    (hnext : w.encoder.next = some (.continuation c)) (hfull : w.encoder.isEmpty = false)
    (hbuf : w.encoder.buf.length ≤ n) :
    ∃ w', w.flush ⟨List.replicate (raws.length + 1) (.accepted n), .ready⟩ = some (.ready, w') := by
  have hnodata : ∀ d, w.encoder.next ≠ some (.data d) := fun d hd => by
    rw [hnext] at hd
    cases hd
  obtain ⟨htaken, hsame, hsizes⟩ := writeBuf_whole hnodata hbuf
  have hrounds : 2 * raws.length + 1 ≤ 2 * raws.length + 3 := Nat.le_add_right _ 2
  obtain ⟨w', hloop⟩ := flushLoop_frames hn hraws (hsizes.trans hsize) (hsame.trans hnext) htaken hrounds
  refine ⟨w', ?_⟩
  rw [flush, List.length_replicate, show 2 * (raws.length + 1) + 2 = 2 * raws.length + 3 + 1 by omega,
    List.replicate_succ, flushLoop_accepted hfull, hloop]
  rfl

end Codec.FramedWrite

/-! ### Runs -/

inductive Codec.Call : Type
  | pollReady (capacity flushed : Nat) (io : Transport)
  | buffer (item : Codec.Frame)
  | flush (io : Transport)

/-- `sent` collects the frames that `buffer` accepted.  `ready` is set once `poll_ready` has
returned `Ready`, until a frame is buffered. -/
structure Codec.Session where
  writer : Codec.FramedWrite
  sent : List Codec.Frame
  ready : Bool

namespace Codec.Session

def new (w : FramedWrite) : Session := ⟨w, [], false⟩

/-- `none` is a panic, or a call of `buffer` that no `poll_ready` allows. -/
def step (s : Session) : Call → Option Session
  | .pollReady capacity flushed io => do
    let (poll, w) ← s.writer.pollReady capacity flushed io
    some { s with writer := w, ready := s.ready || poll == .ready }
  | .buffer item =>
    if s.ready then do
      match ← s.writer.buffer item with
      | .ok w => some ⟨w, s.sent ++ [item], false⟩
      | .error _ => some s
    else none
  | .flush io => do
    let (_, w) ← s.writer.flush io
    some { s with writer := w }

def run : Session → List Call → Option Session
  | s, [] => some s
  | s, call :: calls => (s.step call).bind fun s => run s calls

theorem run_concat {s s₁ s₂ : Session} {calls : List Call} {call : Call}
    (h : s.run calls = some s₁) (hcall : s₁.step call = some s₂) :
    s.run (calls ++ [call]) = some s₂ := by
  induction calls generalizing s with
  | nil =>
    cases h
    exact Option.bind_eq_some_iff.mpr ⟨_, hcall, rfl⟩
  | cons first calls ih =>
    obtain ⟨next, hfirst, hrest⟩ := Option.bind_eq_some_iff.mp h
    exact Option.bind_eq_some_iff.mpr ⟨next, hfirst, ih hrest⟩

/-- A header block that is longer than a frame is buffered up to its first continuation. -/
theorem step_headers {s : Session} {v : Headers} {raw : RawFrame} {c : Continuation}
    {hpack : HpackEncoder.State} (hready : s.ready = true)
    (hframe : v.frame s.writer.encoder.hpack (writeLimit s.writer.encoder.maxFrameSize) =
      some ((raw, some c), hpack)) :
    ∃ e, s.step (.buffer (.headers v)) = some ⟨{ s.writer with encoder := e }, s.sent ++ [.headers v], false⟩ ∧
      e.buf = s.writer.encoder.buf ++ raw.bytes ∧ e.position = s.writer.encoder.position ∧
      e.next = some (.continuation c) ∧ e.maxFrameSize = s.writer.encoder.maxFrameSize := by
  have hencode := v.encode_frame s.writer.encoder.hpack
    ⟨s.writer.encoder.buf, writeLimit s.writer.encoder.maxFrameSize⟩
  rw [hframe, Option.map_some] at hencode
  refine ⟨s.writer.encoder.bufferBlock (((EncodeBuf.mk s.writer.encoder.buf
    (writeLimit s.writer.encoder.maxFrameSize)).append raw, some c), hpack), ?_, rfl, rfl, rfl, rfl⟩
  simp only [step, hready, if_true, FramedWrite.buffer, Encoder.buffer, hencode, Option.map_some]
  rfl

def Sound (max : Nat) (s : Session) : Prop :=
  ∃ raws hpack, Frame.encodeAll max HpackEncoder.default s.sent = some (raws, hpack) ∧
    s.writer.Delivers max hpack (wire raws) ∧ (s.ready = true → s.writer.encoder.next = none)

variable {max : Nat} {s s' : Session}

theorem step_sound (hmax : FrameSize max) (hs : Sound max s) {call : Call}
    (h : s.step call = some s') : Sound max s' := by
  obtain ⟨raws, hpack, hsent, hd, hready⟩ := hs
  cases call with
  | pollReady capacity flushed io =>
    obtain ⟨poll, w, hpoll, hd', hpr, hnone⟩ := hd.pollReady hmax capacity flushed io
    simp only [step, hpoll] at h
    cases h
    refine ⟨raws, hpack, hsent, hd', fun hr => ?_⟩
    rcases Bool.or_eq_true_iff.mp hr with hr | hr
    · exact hnone (hready hr)
    · exact hpr (eq_of_beq hr)
  | buffer item =>
    obtain ⟨hr, h⟩ := Option.ite_none_right_eq_some.mp h
    obtain ⟨out, hout, h⟩ := Option.bind_eq_some_iff.mp h
    cases out with
    | error e =>
      cases h
      exact ⟨raws, hpack, hsent, hd, hready⟩
    | ok w =>
      cases h
      obtain ⟨raws', hpack', henc, hd'⟩ := hd.buffer hmax (hready hr) hout
      refine ⟨raws ++ raws', hpack', Frame.encodeAll_concat hsent henc, ?_, nofun⟩
      rw [wire_append]
      exact hd'
  | flush io =>
    obtain ⟨poll, w, hflush, hd', -, hnone⟩ := hd.flush hmax io
    simp only [step, hflush] at h
    cases h
    exact ⟨raws, hpack, hsent, hd', fun hr => hnone (hready hr)⟩

theorem run_sound (hmax : FrameSize max) {calls : List Call} (hs : Sound max s)
    (h : s.run calls = some s') : Sound max s' := by
  induction calls generalizing s with
  | nil =>
    cases h
    exact hs
  | cons call calls ih =>
    obtain ⟨s₁, hstep, hrun⟩ := Option.bind_eq_some_iff.mp h
    exact ih (step_sound hmax hs hstep) hrun

theorem new_sound (vectored : Bool) (max : Nat) :
    Sound max (new { FramedWrite.new vectored with encoder.maxFrameSize := max }) := by
  have hnew := FramedWrite.new_delivers vectored
  exact ⟨[], HpackEncoder.default, rfl,
    ⟨rfl, rfl, hnew.threshold, hnew.position, hnew.drained, ⟨[], rfl, rfl⟩⟩, nofun⟩

/-- Whatever the transport takes and when, what has reached it is a prefix of the encodings of the
buffered frames, and all of them once `flush` is ready. -/
theorem delivered (vectored : Bool) (max : Nat) (hmax : DEFAULT_MAX_FRAME_SIZE ≤ max) (w : FramedWrite)
    (hw : (FramedWrite.new vectored).setMaxFrameSize max = some w) (calls : List Call) (s : Session)
    (h : (new w).run calls = some s) :
    ∃ raws hpack, Frame.encodeAll max HpackEncoder.default s.sent = some (raws, hpack) ∧
      Unbroken none raws ∧ s.writer.inner <+: wire raws ∧
      ∀ io, ∃ poll w', s.writer.flush io = some (poll, w') ∧ w'.inner <+: wire raws ∧
        (poll = .ready → w'.inner = wire raws) := by
  obtain ⟨hmost, hw⟩ := Option.ite_none_right_eq_some.mp hw
  cases hw
  have hsize : FrameSize max := ⟨hmax, hmost⟩
  have hnew := FramedWrite.new_delivers vectored
  have hstart : Sound max (new { FramedWrite.new vectored with encoder.maxFrameSize := max }) :=
    ⟨[], HpackEncoder.default, rfl,
      ⟨rfl, rfl, hnew.threshold, hnew.position, hnew.drained, ⟨[], rfl, rfl⟩⟩, nofun⟩
  obtain ⟨raws, hpack, hsent, hd, -⟩ := run_sound hsize hstart h
  refine ⟨raws, hpack, hsent, Frame.encodeAll_unbroken hsent, hd.inner_isPrefix, fun io => ?_⟩
  obtain ⟨poll, w', hflush, hd', hready, -⟩ := hd.flush hsize io
  exact ⟨poll, w', hflush, hd'.inner_isPrefix, fun hp => (hready hp).1⟩

end Codec.Session

end

end

section

attribute [local instance] plainCodes plainHash NameHash.encoder

theorem longHeaders_frames (id : Nat) : ∃ raw c more,
    (getPath id longPath).frame (Hpack.Encoder.new 4096 0) (writeLimit DEFAULT_MAX_FRAME_SIZE) =
      some ((raw, some c), Hpack.Encoder.new 4096 0) ∧
    c.frames (writeLimit DEFAULT_MAX_FRAME_SIZE) (c.hpack.length + 1) = some more ∧
    (raw :: more).map (·.head.kind) = [.headers, .continuation, .continuation] ∧ raw.bytes.length = 16393 := by
  obtain ⟨block, hlength, hblock⟩ := encode_longPath id
  have hmax : FrameSize DEFAULT_MAX_FRAME_SIZE := ⟨Nat.le_refl _, by decide⟩
  have hlong : block.length > DEFAULT_MAX_FRAME_SIZE := by rw [hlength]; decide
  have hflags : (getPath id longPath).flags = END_HEADERS := rfl
  have hend : (getPath id longPath).isEndHeaders = true := by
    rw [Headers.isEndHeaders, hflags]
    rfl
  have hset : END_HEADERS &&& END_HEADERS = END_HEADERS := by decide
  have hcleared : END_HEADERS - END_HEADERS = 0 := by decide
  have hfirst : encodeBlock block ⟨.headers, END_HEADERS, id⟩ (writeLimit DEFAULT_MAX_FRAME_SIZE) [] =
      some (⟨⟨.headers, 0, id⟩, block.take DEFAULT_MAX_FRAME_SIZE⟩,
        some ⟨id, block.drop DEFAULT_MAX_FRAME_SIZE⟩) := by
    rw [encodeBlock_eq hmax hset, if_pos hlong, hcleared]
  have hframe : (getPath id longPath).frame (Hpack.Encoder.new 4096 0) (writeLimit DEFAULT_MAX_FRAME_SIZE) =
      some ((⟨⟨.headers, 0, id⟩, block.take DEFAULT_MAX_FRAME_SIZE⟩,
        some ⟨id, block.drop DEFAULT_MAX_FRAME_SIZE⟩),
        Hpack.Encoder.new 4096 0) := by
    rw [Headers.frame, if_pos hend, hblock, hflags]
    simp only [Option.bind_eq_bind, Option.bind_some]
    rw [show (getPath id longPath).streamId = id from rfl, hfirst]
    rfl
  have hdrop : (block.drop DEFAULT_MAX_FRAME_SIZE).length = 22623 := by rw [List.length_drop, hlength]; rfl
  have hlast : ((block.drop DEFAULT_MAX_FRAME_SIZE).drop DEFAULT_MAX_FRAME_SIZE).length = 6239 := by
    rw [List.length_drop, hdrop]
    rfl
  refine ⟨_, _, [⟨⟨.continuation, 0, id⟩, (block.drop DEFAULT_MAX_FRAME_SIZE).take DEFAULT_MAX_FRAME_SIZE⟩,
    ⟨⟨.continuation, END_HEADERS, id⟩, (block.drop DEFAULT_MAX_FRAME_SIZE).drop DEFAULT_MAX_FRAME_SIZE⟩],
    hframe, ?_, rfl, ?_⟩
  · dsimp only
    rw [hdrop, Continuation.frames, Continuation.frame_eq hmax, if_pos (by rw [hdrop]; decide), Option.bind_eq_bind,
      Option.bind_some]
    dsimp only
    rw [Continuation.frames, Continuation.frame_eq hmax, if_neg (by rw [hlast]; decide)]
    rfl
  · rw [RawFrame.length_bytes, List.length_take_of_le (Nat.le_of_lt hlong)]
    rfl

def chainedData : Data := Data.new 1 (List.replicate 300 7)

/-- The transport takes the DATA frame in three parts, and nothing yet of the long header block behind it. -/
def partialCalls : List Codec.Call :=
  [.pollReady 16384 16384 ⟨[], .ready⟩, .buffer (.data chainedData),
    .pollReady 16384 16384 ⟨[.accepted 3, .accepted 200, .accepted 200], .ready⟩]

theorem partialCalls_run : ∃ s, (Codec.Session.new (Codec.FramedWrite.new true)).run partialCalls = some s ∧
    s.sent = [.data chainedData] ∧ s.ready = true ∧ s.writer.inner.length = 309 ∧
    s.writer.encoder.hpack = Hpack.Encoder.new 4096 0 ∧ s.writer.encoder.maxFrameSize = DEFAULT_MAX_FRAME_SIZE ∧
    s.writer.encoder.buf.length + s.writer.encoder.position = 0 := by
  have hrun : ((Codec.Session.new (Codec.FramedWrite.new true)).run partialCalls).map
      (fun s => (s.sent, s.ready, s.writer.inner.length, s.writer.encoder.buf.length + s.writer.encoder.position,
        s.writer.encoder.maxFrameSize)) =
        some ([.data chainedData], true, 309, 0, DEFAULT_MAX_FRAME_SIZE) := by
    decide +kernel
  have hstate : ((Codec.Session.new (Codec.FramedWrite.new true)).run partialCalls).map
      (fun s => @id Hpack.Encoder s.writer.encoder.hpack) = some (Hpack.Encoder.new 4096 0) := by
    decide +kernel
  obtain ⟨s, hs, heq⟩ := Option.map_eq_some_iff.mp hrun
  simp only [Prod.mk.injEq] at heq
  obtain ⟨hsent, hready, hinner, hbuf, hsize⟩ := heq
  rw [hs] at hstate
  have hhpack : s.writer.encoder.hpack = Hpack.Encoder.new 4096 0 := Option.some.inj hstate
  exact ⟨s, hs, hsent, hready, hinner, hhpack, hsize, hbuf⟩

theorem delivered_partial : ∃ s raws hpack w',
    (Codec.Session.new (Codec.FramedWrite.new true)).run
        (partialCalls ++ [.buffer (.headers (getPath 3 longPath))]) = some s ∧
      Codec.Frame.encodeAll DEFAULT_MAX_FRAME_SIZE HpackEncoder.default s.sent = some (raws, hpack) ∧
      raws.map (·.head.kind) = [.data, .headers, .continuation, .continuation] ∧
      Unbroken none raws ∧ s.writer.inner.length = 309 ∧ s.writer.inner <+: wire raws ∧
      s.writer.flush ⟨List.replicate 3 (.accepted 20000), .ready⟩ = some (.ready, w') ∧ w'.inner = wire raws := by
  obtain ⟨s, hs, hsent, hready, hinner, hhpack, hsize, hbuf⟩ := partialCalls_run
  obtain ⟨raw, c, more, hframe, hmore, hkinds, hlength⟩ := longHeaders_frames 3
  generalize getPath 3 longPath = v at hframe ⊢
  generalize chainedData = d at hsent
  generalize partialCalls = calls at hs ⊢
  have hdata : Codec.Frame.encodeAll DEFAULT_MAX_FRAME_SIZE (Hpack.Encoder.new 4096 0) s.sent =
      some ([⟨d.head, d.data⟩], Hpack.Encoder.new 4096 0) := by
    rw [hsent]
    rfl
  have hall := Codec.Frame.encodeAll_concat hdata (Codec.Frame.encode_headers hframe hmore)
  rw [← hhpack, ← hsize] at hframe
  obtain ⟨e, hstep, hbuffer, hposition, hnext, hlimit⟩ := Codec.Session.step_headers hready hframe
  have hrun := Codec.Session.run_concat hs hstep
  obtain ⟨raws, hpack, hraws, hunbroken, hprefix, hflush⟩ :=
    Codec.Session.delivered true DEFAULT_MAX_FRAME_SIZE (Nat.le_refl _) _ rfl _ _ hrun
  obtain rfl := (Prod.mk.inj (Option.some.inj (hall.symm.trans hraws))).1
  have hbytes : e.buf.length = 16393 := by
    rw [hbuffer, List.length_append, hlength]
    omega
  have hfull : e.isEmpty = false := by
    have hremaining : e.remaining ≠ 0 := by
      rw [Encoder.remaining, hbytes, hposition]
      omega
    rw [Encoder.isEmpty, hnext]
    exact beq_false_of_ne hremaining
  have hcount : more.length = 2 := Nat.succ.inj (by simpa using congrArg List.length hkinds)
  obtain ⟨w', hready'⟩ := Codec.FramedWrite.flush_frames (n := 20000) (w := { s.writer with encoder := e }) (by decide)
    hmore (hlimit.trans hsize) hnext hfull (by rw [hbytes]; decide)
  rw [hcount] at hready'
  obtain ⟨poll, w'', hflush', -, hwire⟩ := hflush ⟨List.replicate 3 (.accepted 20000), .ready⟩
  cases hready'.symm.trans hflush'
  exact ⟨_, _, hpack, w', hrun, hraws, congrArg (Codec.Kind.data :: ·) hkinds, hunbroken, hinner, hprefix, hready',
    hwire rfl⟩

end

end TwoPlz
