import TwoPlz.Codec.Delivery
import TwoPlz.Codec.RoundTrip

/-! A header block goes out in as many frames as it needs. -/

namespace TwoPlz

section

variable [HeaderPlz]

structure InFrames (max : Nat) (head : Head) (payload : Bytes) (n : Nat) (raws : List RawFrame) : Prop where
  fits : ∀ r ∈ raws, r.payload.length ≤ max
  /-- The length field of each counts its payload. -/
  framed : ∀ r ∈ raws, Framed r.bytes
  streamId : ∀ r ∈ raws, r.head.streamId = head.streamId
  parsed : head.streamId < 2 ^ 31 → ∀ r ∈ raws, Head.parse r.bytes = some r.head
  kinds : raws.map (·.head.kind) = head.kind :: List.replicate n .continuation
  payload : raws.flatMap RawFrame.payload = payload
  endHeaders : raws.map (fun r => r.head.flag &&& END_HEADERS == END_HEADERS) =
    List.replicate n false ++ [true]
  endStream : raws.map (fun r => r.head.flag &&& END_STREAM == END_STREAM) =
    (head.flag &&& END_STREAM == END_STREAM) :: List.replicate n false

omit [HeaderPlz]

theorem sub_endHeaders_endStream {flag : UInt8} (h : flag &&& END_HEADERS = END_HEADERS) :
    (flag - END_HEADERS) &&& END_STREAM = flag &&& END_STREAM := by
  have kept : ∀ b : BitVec 8, b &&& 4 = 4 → (b - 4) &&& 1 = b &&& 1 := by decide
  apply UInt8.toBitVec_inj.mp
  exact kept flag.toBitVec (congrArg UInt8.toBitVec h)

namespace InFrames

variable {max n : Nat} {head : Head} {payload : Bytes} {raws : List RawFrame}

theorem last (hmax : FrameSize max) (hfits : payload.length ≤ max)
    (hflag : head.flag &&& END_HEADERS = END_HEADERS) : InFrames max head payload 0 [⟨head, payload⟩] where
  fits r hr := by
    obtain rfl := List.mem_singleton.mp hr
    exact hfits
  framed r hr := by
    obtain rfl := List.mem_singleton.mp hr
    exact RawFrame.framed (Nat.lt_of_le_of_lt (hfits.trans hmax.most) (by decide))
  streamId r hr := by
    obtain rfl := List.mem_singleton.mp hr
    rfl
  parsed hid r hr := by
    obtain rfl := List.mem_singleton.mp hr
    exact Head.parse_encode hid _ _
  kinds := rfl
  payload := List.append_nil _
  endHeaders := by simp [hflag]
  endStream := rfl

theorem cons (hmax : FrameSize max) {part : Bytes} (hfits : part.length ≤ max)
    (hflag : head.flag &&& END_HEADERS = END_HEADERS)
    (h : InFrames max ⟨.continuation, END_HEADERS, head.streamId⟩ payload n raws) :
    InFrames max head (part ++ payload) (n + 1)
      (⟨{ head with flag := head.flag - END_HEADERS }, part⟩ :: raws) where
  fits r hr := by
    rcases List.mem_cons.mp hr with rfl | hr
    · exact hfits
    · exact h.fits r hr
  framed r hr := by
    rcases List.mem_cons.mp hr with rfl | hr
    · exact RawFrame.framed (Nat.lt_of_le_of_lt (hfits.trans hmax.most) (by decide))
    · exact h.framed r hr
  streamId r hr := by
    rcases List.mem_cons.mp hr with rfl | hr
    · rfl
    · exact h.streamId r hr
  parsed hid r hr := by
    rcases List.mem_cons.mp hr with rfl | hr
    · exact @Head.parse_encode { head with flag := head.flag - END_HEADERS } hid _ _
    · exact h.parsed hid r hr
  kinds := by rw [List.map_cons, h.kinds, List.replicate_succ]
  payload := by rw [List.flatMap_cons, h.payload]
  endHeaders := by
    have hcleared : (0 : UInt8) ≠ END_HEADERS := by decide
    rw [List.map_cons, h.endHeaders, List.replicate_succ, List.cons_append, sub_endHeaders hflag,
      beq_false_of_ne hcleared]
  endStream := by
    have hnone : (END_HEADERS &&& END_STREAM == END_STREAM) = false := by decide
    rw [List.map_cons, h.endStream, List.replicate_succ, sub_endHeaders_endStream hflag, hnone]

end InFrames

variable {max : Nat}

theorem Continuation.frames_inFrames (hmax : FrameSize max) {k : Nat} {c : Continuation}
    (hk : c.hpack.length < k) : ∃ n raws, c.frames (writeLimit max) k = some raws ∧
      InFrames max ⟨.continuation, END_HEADERS, c.streamId⟩ c.hpack n raws := by
  have hend : END_HEADERS &&& END_HEADERS = END_HEADERS := by decide
  have hcleared : END_HEADERS - END_HEADERS = 0 := by decide
  induction k generalizing c with
  | zero => omega
  | succ k ih =>
    rw [frames, frame_eq hmax]
    split
    · have hpos : 0 < max := Nat.lt_of_lt_of_le (by decide) hmax.least
      have hshort : (c.hpack.drop max).length < k := by
        rw [List.length_drop]
        omega
      obtain ⟨n, raws, hraws, hin⟩ := ih (c := ⟨c.streamId, c.hpack.drop max⟩) hshort
      refine ⟨n + 1, _, Option.map_eq_some_iff.mpr ⟨raws, hraws, rfl⟩, ?_⟩
      have hcons : InFrames max ⟨.continuation, END_HEADERS, c.streamId⟩
          (c.hpack.take max ++ c.hpack.drop max) (n + 1)
          (⟨⟨.continuation, END_HEADERS - END_HEADERS, c.streamId⟩, c.hpack.take max⟩ :: raws) :=
        .cons hmax (List.length_take_le max c.hpack) hend hin
      rwa [List.take_append_drop, hcleared] at hcons
    · rename_i hlong
      exact ⟨0, _, rfl, .last hmax (Nat.not_lt.mp hlong) hend⟩

theorem blockFrames_inFrames (hmax : FrameSize max) (head : Head) (extra hpack : Bytes)
    (hflag : head.flag &&& END_HEADERS = END_HEADERS) (hextra : extra.length ≤ max) :
    ∃ out n raws, encodeBlock hpack head (writeLimit max) extra = some out ∧
      blockFrames (writeLimit max) out = some raws ∧ InFrames max head (extra ++ hpack) n raws := by
  have hmost : max < 2 ^ 24 := Nat.lt_of_le_of_lt hmax.most (by decide)
  have hlimit : writeLimit max - HEADER_LEN - extra.length = max - extra.length := by
    simp only [writeLimit, Nat.add_sub_cancel]
  have hroom : ¬writeLimit max < HEADER_LEN + extra.length := by
    simp only [writeLimit]
    omega
  have hpart : (extra ++ hpack.take (max - extra.length)).length ≤ max := by
    rw [List.length_append, List.length_take]
    omega
  unfold encodeBlock
  simp only [hlimit, if_neg hroom, if_neg (Nat.not_le.mpr (Nat.lt_of_le_of_lt hpart hmost))]
  split
  · obtain ⟨n, raws, hraws, hin⟩ := Continuation.frames_inFrames hmax
      (c := ⟨head.streamId, hpack.drop (max - extra.length)⟩) (Nat.lt_succ_self _)
    rw [if_pos (beq_iff_eq.mpr hflag)]
    refine ⟨_, n + 1, _, rfl, Option.map_eq_some_iff.mpr ⟨raws, hraws, rfl⟩, ?_⟩
    have hcons := InFrames.cons hmax hpart hflag hin
    rwa [List.append_assoc, List.take_append_drop] at hcons
  · rename_i hlong
    refine ⟨_, 0, _, rfl, rfl, ?_⟩
    have hlast := InFrames.last hmax hpart hflag
    rwa [List.take_of_length_le (Nat.not_lt.mp hlong)] at hlast ⊢

end

section

variable [HeaderPlz] [HpackEncoder]

/-- HEADERS and PUSH_PROMISE frames go out with all of their header block. -/
theorem header_frames (max : Nat) (hmax : FrameSize max) (hpack hpack' : HpackEncoder.State) (block : Bytes) :
    (∀ v : Headers, v.isEndHeaders = true → HpackEncoder.encode hpack v.headerBlock = some (block, hpack') →
      ∃ n raws, (Codec.Frame.headers v).encode max hpack = some (raws, hpack') ∧
        InFrames max ⟨.headers, v.flags, v.streamId⟩ block n raws) ∧
    ∀ v : PushPromise, v.flags &&& END_HEADERS = END_HEADERS →
      HpackEncoder.encode hpack v.headerBlock = some (block, hpack') →
      ∃ n raws, (Codec.Frame.pushPromise v).encode max hpack = some (raws, hpack') ∧
        InFrames max ⟨.pushPromise, v.flags, v.streamId⟩ (BigEndian.bytes 4 v.promisedId ++ block) n raws := by
  refine ⟨fun v hend hblock => ?_, fun v hend hblock => ?_⟩
  · obtain ⟨out, n, raws, hout, hraws, hin⟩ := blockFrames_inFrames hmax
      ⟨.headers, v.flags, v.streamId⟩ [] block (beq_iff_eq.mp hend) (Nat.zero_le _)
    exact ⟨n, raws, by simp [Codec.Frame.encode, Headers.frame, hend, hblock, hout, hraws], hin⟩
  · have hpromised : (BigEndian.bytes 4 v.promisedId).length ≤ max := by
      rw [BigEndian.length_bytes]
      exact Nat.le_trans (by decide) hmax.least
    obtain ⟨out, n, raws, hout, hraws, hin⟩ := blockFrames_inFrames hmax
      ⟨.pushPromise, v.flags, v.streamId⟩ (BigEndian.bytes 4 v.promisedId) block hend hpromised
    exact ⟨n, raws, by simp [Codec.Frame.encode, PushPromise.frame, hend, hblock, hout, hraws], hin⟩

end

section

attribute [local instance] plainCodes plainHash NameHash.encoder

theorem header_frames_long : ∃ block n raws, 2 * DEFAULT_MAX_FRAME_SIZE < block.length ∧
    (Codec.Frame.headers (getPath 1 longPath)).encode DEFAULT_MAX_FRAME_SIZE (Hpack.Encoder.new 4096 0) =
      some (raws, Hpack.Encoder.new 4096 0) ∧
    InFrames DEFAULT_MAX_FRAME_SIZE ⟨.headers, (getPath 1 longPath).flags, 1⟩ block n raws := by
  obtain ⟨block, hlength, hblock⟩ := encode_longPath 1
  obtain ⟨n, raws, hraws, hin⟩ := (header_frames DEFAULT_MAX_FRAME_SIZE ⟨Nat.le_refl _, by decide⟩ _ _ _).1
    (getPath 1 longPath) (by decide) hblock
  exact ⟨block, n, raws, by rw [hlength]; decide, hraws, hin⟩

end

end TwoPlz
