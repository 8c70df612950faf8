import TwoPlz.Codec.EndToEnd
import TwoPlz.Hpack.Safety

/-! What the reader makes of any bytes: it never panics, and what it holds of a header block is
bounded. -/

namespace TwoPlz

open Hpack

section

variable [HeaderPlz]

/-! ### The bytes that the decoder leaves -/

namespace Hpack.DecodeM

variable {α γ : Type} {m : DecodeM α} {f : α → DecodeM γ}

def Shrinks (m : DecodeM α) : Prop :=
  ∀ s r s', m s = some (r, s') → s'.src.buf.length ≤ s.src.buf.length

theorem Shrinks.bind (hm : Shrinks m) (hf : ∀ a, Shrinks (f a)) : Shrinks (m >>= f) := by
  intro s r s' h
  obtain ⟨⟨x, s₁⟩, hx, h⟩ := Option.bind_eq_some_iff.mp h
  have hle := hm s x s₁ hx
  cases x with
  | error e =>
    cases h
    exact hle
  | ok a => exact (hf a s₁ r s' h).trans hle

theorem Shrinks.of_src (h : ∀ s r s', m s = some (r, s') → s'.src.buf = s.src.buf) : Shrinks m :=
  fun s r s' hm => (congrArg List.length (h s r s' hm)).le

theorem shrinks_pure (a : α) : Shrinks (pure a) := .of_src fun s r s' h => by
  cases h
  rfl

theorem shrinks_throw (e : DecoderError) : Shrinks (throw e : DecodeM α) := .of_src fun s r s' h => by
  cases h
  rfl

theorem shrinks_ofExcept (x : Except DecoderError α) : Shrinks (ofExcept x) := .of_src fun s r s' h => by
  cases h
  rfl

theorem shrinks_src : Shrinks src := .of_src fun s r s' h => by
  cases h
  rfl

theorem shrinks_setPosition (position : Nat) : Shrinks (setPosition position) := .of_src fun s r s' h => by
  cases h
  rfl

theorem shrinks_emit (entry : Header) : Shrinks (emit entry) := .of_src fun s r s' h => by
  cases h
  rfl

theorem shrinks_advance (n : Nat) : Shrinks (advance n) := .of_src fun s r s' h => by
  obtain ⟨src, hsrc, heq⟩ := Option.map_eq_some_iff.mp h
  cases heq
  obtain ⟨-, hadvance⟩ := Option.ite_none_right_eq_some.mp hsrc
  cases hadvance
  rfl

theorem shrinks_decodeInt (prefixSize : Nat) : Shrinks (DecodeM.decodeInt prefixSize) :=
  .of_src fun s r s' h => by
    unfold DecodeM.decodeInt at h
    split at h <;> cases h <;> rfl

theorem shrinks_huffmanDecode (raw : Bytes) : Shrinks (huffmanDecode raw) := .of_src fun s r s' h => by
  obtain ⟨x, -, heq⟩ := Option.map_eq_some_iff.mp h
  cases heq
  rfl

theorem shrinks_tableGet (index : Nat) : Shrinks (tableGet index) := .of_src fun s r s' h => by
  obtain ⟨x, -, heq⟩ := Option.map_eq_some_iff.mp h
  cases heq
  rfl

theorem shrinks_insert (entry : Header) : Shrinks (DecodeM.insert entry) := .of_src fun s r s' h => by
  obtain ⟨t, -, heq⟩ := Option.map_eq_some_iff.mp h
  cases heq
  rfl

theorem shrinks_setMaxSize (newSize : Nat) : Shrinks (DecodeM.setMaxSize newSize) := .of_src fun s r s' h => by
  obtain ⟨-, heq⟩ | ⟨-, h⟩ := ite_eq_iff.mp h
  · cases heq
    rfl
  · obtain ⟨t, -, heq⟩ := Option.map_eq_some_iff.mp h
    cases heq
    rfl

omit [HeaderPlz] in
theorem take_le {c c' : Cursor} {n : Nat} {out : Bytes} (h : c.take n = some (out, c')) :
    c'.buf.length ≤ c.buf.length := by
  obtain ⟨-, heq⟩ := Option.ite_none_right_eq_some.mp h
  cases heq
  exact (List.drop_sublist _ _).length_le

theorem shrinks_take (n : Nat) : Shrinks (DecodeM.take n) := by
  intro s r s' h
  obtain ⟨⟨out, c⟩, hc, heq⟩ := Option.map_eq_some_iff.mp h
  cases heq
  exact take_le hc

theorem shrinks_consume : Shrinks DecodeM.consume := by
  intro s r s' h
  obtain ⟨c, hc, heq⟩ := Option.map_eq_some_iff.mp h
  cases heq
  obtain ⟨⟨out, c'⟩, htake, rfl⟩ := Option.map_eq_some_iff.mp hc
  exact take_le htake

end Hpack.DecodeM

open DecodeM

theorem Hpack.shrinks_tryDecodeString : Shrinks tryDecodeString := by
  refine shrinks_src.bind fun old => ?_
  cases old.peekU8 with
  | none => exact shrinks_throw _
  | some hdr =>
    refine (shrinks_decodeInt 7).bind fun len => shrinks_src.bind fun src => ?_
    by_cases hlong : len > src.remaining
    · simp only [if_pos hlong]
      exact shrinks_throw _
    · simp only [if_neg hlong]
      by_cases hhuff : (hdr &&& HUFF_FLAG == HUFF_FLAG) = true
      · simp only [if_pos hhuff]
        exact (shrinks_huffmanDecode _).bind fun string => (shrinks_advance len).bind fun _ => shrinks_pure _
      · simp only [if_neg hhuff]
        exact (shrinks_advance len).bind fun _ => shrinks_pure _

theorem Hpack.StringMarker.shrinks_consume (marker : StringMarker) : Shrinks marker.consume := by
  refine (shrinks_advance marker.offset).bind fun _ => ?_
  cases marker.string with
  | none => exact shrinks_take _
  | some string => exact (shrinks_advance _).bind fun _ => shrinks_pure _

theorem Hpack.shrinks_decodeString : Shrinks decodeString :=
  shrinks_src.bind fun old => shrinks_tryDecodeString.bind fun marker =>
    (shrinks_setPosition old.position).bind fun _ => marker.shrinks_consume

theorem Hpack.shrinks_decodeLiteral (index : Bool) : Shrinks (decodeLiteral index) := by
  refine (shrinks_decodeInt _).bind fun tableIdx => ?_
  by_cases hzero : tableIdx = 0
  · simp only [if_pos hzero]
    exact shrinks_src.bind fun old => shrinks_tryDecodeString.bind fun nameMarker =>
      shrinks_tryDecodeString.bind fun valueMarker => (shrinks_setPosition old.position).bind fun _ =>
        nameMarker.shrinks_consume.bind fun name => valueMarker.shrinks_consume.bind fun value =>
          shrinks_ofExcept _
  · simp only [if_neg hzero]
    exact (shrinks_tableGet tableIdx).bind fun e => shrinks_decodeString.bind fun value => shrinks_ofExcept _

theorem Hpack.shrinks_decodeOne (ty : UInt8) (canResize : Bool) : Shrinks (decodeOne ty canResize) := by
  have hemit : ∀ entry, Shrinks (do consume; emit entry; pure false : DecodeM Bool) := fun entry =>
    DecodeM.shrinks_consume.bind fun _ => (shrinks_emit entry).bind fun _ => shrinks_pure false
  refine (shrinks_ofExcept _).bind fun kind => ?_
  cases kind with
  | indexed =>
    exact ((shrinks_decodeInt 7).bind fun index => shrinks_tableGet index).bind hemit
  | literalWithIndexing =>
    exact (shrinks_decodeLiteral true).bind fun entry => (shrinks_insert entry).bind fun _ => hemit entry
  | literalWithoutIndexing => exact (shrinks_decodeLiteral false).bind hemit
  | literalNeverIndexed => exact (shrinks_decodeLiteral false).bind hemit
  | sizeUpdate =>
    cases canResize with
    | false => exact shrinks_throw _
    | true =>
      exact ((shrinks_decodeInt 5).bind fun newSize => shrinks_setMaxSize newSize).bind fun _ =>
        DecodeM.shrinks_consume.bind fun _ => shrinks_pure true

theorem Hpack.shrinks_decodeLoop (rounds : Nat) (canResize : Bool) : Shrinks (decodeLoop rounds canResize) := by
  induction rounds generalizing canResize with
  | zero =>
    refine shrinks_src.bind fun c => ?_
    cases c.peekU8 with
    | none => exact shrinks_pure ()
    | some ty =>
      intro s r s' h
      cases h
  | succ rounds ih =>
    refine shrinks_src.bind fun c => ?_
    cases c.peekU8 with
    | none => exact shrinks_pure ()
    | some ty => exact (shrinks_decodeOne ty canResize).bind fun canResize => ih canResize

theorem HeaderBlock.load_left {b block : HeaderBlock} {src left : Bytes} {max : Nat} {d d' : Decoder}
    {res : Except BlockError Unit} (h : b.load src max d = some (res, block, left, d')) :
    left.length ≤ src.length := by
  obtain ⟨⟨out, s⟩, hdecode, h⟩ := Option.bind_eq_some_iff.mp h
  cases h
  exact shrinks_decodeLoop _ _ _ _ _ hdecode

/-! ### Nothing panics -/

omit [HeaderPlz] in
theorem Head.parse_some {bytes : Bytes} (h : HEADER_LEN ≤ bytes.length) : ∃ head, Head.parse bytes = some head := by
  rw [HEADER_LEN] at h
  have hid : ¬(bytes.drop 5).length < 4 := by
    rw [List.length_drop]
    omega
  rw [Head.parse, StreamId.parse, if_neg hid, List.getElem?_eq_getElem (show 3 < bytes.length by omega),
    List.getElem?_eq_getElem (show 4 < bytes.length by omega)]
  exact ⟨_, rfl⟩

theorem HeaderBlock.load_some {limit : Nat} {d : Decoder} (hd : d.Bounded limit) (b : HeaderBlock) (src : Bytes)
    (max : Nat) : ∃ res block left d', b.load src max d = some (res, block, left, d') ∧ d'.Bounded limit := by
  obtain ⟨res, s, hdecode, hs⟩ := decodeLoop_some (s := ⟨d.takeSizeUpdate, ⟨src, 0⟩, []⟩)
    (Cursor.at_zero src) (Decoder.takeSizeUpdate_bounded hd) (Nat.le_refl _) true
  simp only [load, Decoder.decode, hdecode, Option.bind_eq_bind, Option.bind_some]
  exact ⟨_, _, _, _, rfl, hs⟩

namespace Codec.FramedRead

variable {limit : Nat} {r r' : FramedRead}

theorem loadHpack_some (hr : r.hpack.Bounded limit) (head : Head) (frame : Continuable) (buf : Bytes) (count : Nat)
    (isEndHeaders : Bool) (done : Continuable → Frame) :
    ∃ res r', r.loadHpack head frame buf count isEndHeaders done = some (res, r') ∧ r'.hpack.Bounded limit := by
  obtain ⟨res, block, left, d, hload, hd⟩ := frame.headerBlock.load_some hr buf r.maxHeaderListSize
  rw [loadHpack, hload]
  simp only [Option.bind_eq_bind, Option.bind_some]
  refine ⟨_, _, rfl, ?_⟩
  split
  · cases isEndHeaders <;> exact hd
  · cases isEndHeaders <;> exact hd
  · exact hd
  · exact hd

theorem headerBlock_some (hr : r.hpack.Bounded limit) (head : Head)
    (loaded : Except FrameError (Continuable × Bytes)) : ∃ res r', r.headerBlock head loaded = some (res, r') := by
  unfold headerBlock
  split
  · exact ⟨_, _, rfl⟩
  · exact ⟨_, _, rfl⟩
  · rename_i frame payload
    obtain ⟨res, r', h, -⟩ := loadHpack_some hr head frame payload 0 frame.isEndHeaders Continuable.frame
    exact ⟨res, r', h⟩

theorem continuation_some (hr : r.hpack.Bounded limit) (head : Head) (payload : Bytes) :
    ∃ res r', r.continuation head payload = some (res, r') := by
  unfold continuation
  split
  · exact ⟨_, _, rfl⟩
  · rename_i p hp
    dsimp only
    split
    · exact ⟨_, _, rfl⟩
    generalize (if (head.flag &&& END_HEADERS == END_HEADERS) = true then 0 else p.continuationFramesCount + 1) = count
    split
    · exact ⟨_, _, rfl⟩
    split
    · exact ⟨_, _, rfl⟩
    obtain ⟨res, r', h, -⟩ := loadHpack_some (r := { r with partial' := none }) hr head p.frame (p.buf ++ payload)
      count (head.flag &&& END_HEADERS == END_HEADERS) Continuable.into
    exact ⟨res, r', h⟩

/-- The framing of the connection leaves every frame its head. -/
theorem decodeFrame_some (hr : r.hpack.Bounded limit) {bytes : Bytes} (hlen : HEADER_LEN ≤ bytes.length) :
    ∃ res r', r.decodeFrame bytes = some (res, r') := by
  obtain ⟨head, hparse⟩ := Head.parse_some hlen
  have hload : ∀ {α : Type} (into : α → Frame) (loaded : Except FrameError α),
      ∃ res r', r.ofLoad into loaded = some (res, r') := by
    intro α into loaded
    cases loaded <;> exact ⟨_, _, rfl⟩
  simp only [decodeFrame, hparse, Option.bind_eq_bind, Option.bind_some]
  split
  · exact ⟨_, _, rfl⟩
  cases head.kind with
  | settings | ping | windowUpdate | reset | goAway => exact hload _ _
  | data =>
    dsimp only
    split <;> exact ⟨_, _, rfl⟩
  | headers | pushPromise => exact headerBlock_some hr head _
  | priority =>
    dsimp only
    split
    · exact ⟨_, _, rfl⟩
    split <;> exact ⟨_, _, rfl⟩
  | continuation => exact continuation_some hr head _
  | unknown => exact ⟨_, _, rfl⟩

theorem Reaches.bounded (h : r.Reaches limit) : ∃ size, r.hpack.Bounded size := by
  induction h with
  | new maxFrameLength _ =>
    refine ⟨4096, DynamicTable.new_fits 4096, Nat.le_refl _, Nat.le_refl _, ?_⟩
    intro size hsize
    cases hsize
  | decodeFrame _ h ih =>
    obtain ⟨size, hsize⟩ := ih
    rcases decodeFrame_cases h with heq | ⟨r₁, head, frame, buf, count, isEndHeaders, done, heq, hload⟩
    · exact ⟨size, heq ▸ hsize⟩
    · obtain ⟨res, r₂, hload', hbounded⟩ := loadHpack_some (heq ▸ hsize) head frame buf count isEndHeaders done
      cases hload.symm.trans hload'
      exact ⟨size, hbounded⟩
  | setMaxFrameSize _ h ih =>
    obtain ⟨-, heq⟩ := Option.ite_none_right_eq_some.mp h
    cases heq
    exact ih
  | setMaxHeaderListSize _ _ _ _ ih => exact ih
  | setHeaderTableSize val _ ih =>
    obtain ⟨size, hsize⟩ := ih
    exact ⟨max size val, Decoder.queueSizeUpdate_bounded hsize val⟩

/-- In every run of the reader, whatever the frames are, the loop of `poll_next` returns, with a result
or with all frames read. -/
theorem pollNext_total (hr : r.Reaches limit) (frames : List Bytes)
    (hframes : ∀ bytes ∈ frames, HEADER_LEN ≤ bytes.length) :
    ∃ out r' rest, r.pollNext frames = some (out, r', rest) ∧ r'.Reaches limit ∧ rest <:+ frames ∧
      (out = none → rest = []) := by
  induction frames generalizing r with
  | nil => exact ⟨none, r, [], rfl, hr, List.suffix_rfl, fun _ => rfl⟩
  | cons bytes frames ih =>
    obtain ⟨hbytes, hrest⟩ := List.forall_mem_cons.mp hframes
    obtain ⟨size, hsize⟩ := hr.bounded
    obtain ⟨res, r₁, hdecode⟩ := decodeFrame_some hsize hbytes
    have hr₁ := hr.decodeFrame hdecode
    simp only [pollNext, hdecode, Option.bind_eq_bind, Option.bind_some]
    cases res with
    | error e =>
      refine ⟨_, r₁, frames, rfl, hr₁, List.suffix_cons _ _, fun hno => ?_⟩
      cases hno
    | ok x =>
      cases x with
      | none =>
        obtain ⟨out, r', rest, hpoll, hr', hsuffix, hall⟩ := ih hr₁ hrest
        exact ⟨out, r', rest, hpoll, hr', hsuffix.trans (List.suffix_cons _ _), hall⟩
      | some f =>
        refine ⟨_, r₁, frames, rfl, hr₁, List.suffix_cons _ _, fun hno => ?_⟩
        cases hno

end Codec.FramedRead

/-! ### The frames of a header block -/

omit [HeaderPlz] in
theorem endHeaders_eq_zero {flag : UInt8} :
    flag &&& END_HEADERS = 0 ↔ (flag &&& END_HEADERS == END_HEADERS) = false := by
  have single : ∀ b : BitVec 8, b &&& 4 = 0 ↔ ¬b &&& 4 = 4 := by decide
  rw [beq_eq_false_iff_ne, ne_eq, ← UInt8.toBitVec_inj, ← UInt8.toBitVec_inj]
  exact single flag.toBitVec

omit [HeaderPlz] in
theorem padLen_le {flags : UInt8} {src rest : Bytes} {pad : Nat} (h : padLen flags src = .ok (pad, rest)) :
    rest.length ≤ src.length := by
  unfold padLen at h
  split at h
  · split at h
    · cases h
    · cases h
      exact Nat.le_succ _
  · cases h
    exact Nat.le_refl _

omit [HeaderPlz] in
theorem dropPadding_le {pad : Nat} {src rest : Bytes} (h : dropPadding pad src = .ok rest) :
    rest.length ≤ src.length := by
  unfold dropPadding at h
  split at h
  · cases h
  · cases h
    exact (List.take_sublist _ _).length_le

theorem Headers.load_head {head : Head} {src : Bytes} {l : Headers × Bytes} (h : Headers.load head src = .ok l) :
    l.1.streamId = head.streamId ∧ l.1.flags = head.flag ∧ l.2.length ≤ src.length := by
  unfold Headers.load at h
  split at h
  · cases h
  · obtain ⟨⟨pad, rest⟩, hpad, h⟩ := Except.bind_eq_ok h
    have hrest := padLen_le hpad
    dsimp only at h
    split at h
    · split at h
      · cases h
      · obtain ⟨dep, -, h⟩ := Except.bind_eq_ok h
        split at h
        · cases h
        · obtain ⟨_, hdep, h⟩ := Except.bind_eq_ok h
          cases hdep
          obtain ⟨left, hleft, h⟩ := Except.bind_eq_ok h
          cases h
          exact ⟨rfl, rfl, (dropPadding_le hleft).trans (((List.drop_sublist 5 rest).length_le).trans hrest)⟩
    · obtain ⟨_, hdep, h⟩ := Except.bind_eq_ok h
      cases hdep
      obtain ⟨left, hleft, h⟩ := Except.bind_eq_ok h
      cases h
      exact ⟨rfl, rfl, (dropPadding_le hleft).trans hrest⟩

theorem PushPromise.load_head {head : Head} {src : Bytes} {l : PushPromise × Bytes}
    (h : PushPromise.load head src = .ok l) :
    l.1.streamId = head.streamId ∧ l.1.flags = head.flag ∧ l.2.length ≤ src.length := by
  unfold PushPromise.load at h
  split at h
  · cases h
  · obtain ⟨⟨pad, rest⟩, hpad, h⟩ := Except.bind_eq_ok h
    dsimp only at h
    split at h
    · cases h
    · obtain ⟨left, hleft, h⟩ := Except.bind_eq_ok h
      cases h
      exact ⟨rfl, rfl, (dropPadding_le hleft).trans (((List.drop_sublist 4 rest).length_le).trans (padLen_le hpad))⟩

namespace Codec.FramedRead

variable {limit : Nat} {r r' : FramedRead} {x : Option Frame} {raw : RawFrame}

theorem loadHpack_ok {head : Head} {frame : Continuable} {buf : Bytes} {count : Nat} {isEndHeaders : Bool}
    {done : Continuable → Frame} (h : r.loadHpack head frame buf count isEndHeaders done = some (.ok x, r')) :
    ∃ block left, left.length ≤ buf.length ∧ r'.maxContinuationFrames = r.maxContinuationFrames ∧
      r'.partial' = if isEndHeaders then r.partial' else some ⟨frame.setBlock block, left, count⟩ := by
  obtain ⟨⟨out, block, left, hpack⟩, hload, h⟩ := Option.bind_eq_some_iff.mp h
  refine ⟨block, left, HeaderBlock.load_left hload, ?_⟩
  have h := Option.some.inj h
  split at h
  · cases isEndHeaders <;> cases h <;> exact ⟨rfl, rfl⟩
  · cases isEndHeaders <;> cases h
    exact ⟨rfl, rfl⟩
  · cases h
  · cases h

def block (r : FramedRead) : Option Nat := r.partial'.map (·.frame.streamId)

/-- What a frame that is accepted does to the header block that the reader holds. -/
inductive Taken (r : FramedRead) (raw : RawFrame) (r' : FramedRead) : Prop
  | whole (hidle : r.partial' = none) (hidle' : r'.partial' = none) (hkind : raw.head.kind ≠ .continuation)
      (hends : ¬((raw.head.kind = .headers ∨ raw.head.kind = .pushPromise) ∧ raw.head.flag &&& END_HEADERS = 0))
  | opens {p : Partial} (hidle : r.partial' = none) (hopen : r'.partial' = some p)
      (hkind : raw.head.kind = .headers ∨ raw.head.kind = .pushPromise) (hflag : raw.head.flag &&& END_HEADERS = 0)
      (hid : p.frame.streamId = raw.head.streamId) (hcount : p.continuationFramesCount = 0)
      (hbuf : p.buf.length ≤ raw.payload.length)
  | continues {p p' : Partial} (hopen : r.partial' = some p) (hopen' : r'.partial' = some p')
      (hkind : raw.head.kind = .continuation) (hflag : raw.head.flag &&& END_HEADERS = 0)
      (hid : p.frame.streamId = raw.head.streamId) (hid' : p'.frame.streamId = p.frame.streamId)
      (hcount : p'.continuationFramesCount = p.continuationFramesCount + 1)
      (hmax : p'.continuationFramesCount ≤ r.maxContinuationFrames)
      (hbuf : p'.buf.length ≤ p.buf.length + raw.payload.length)
  | ends {p : Partial} (hopen : r.partial' = some p) (hidle' : r'.partial' = none)
      (hkind : raw.head.kind = .continuation) (hflag : raw.head.flag &&& END_HEADERS ≠ 0)
      (hid : p.frame.streamId = raw.head.streamId)

theorem headerBlock_taken {head : Head} {payload : Bytes} {loaded : Except FrameError (Continuable × Bytes)}
    (hidle : r.partial' = none) (hkind : head.kind = .headers ∨ head.kind = .pushPromise)
    (hloaded : ∀ c, loaded = .ok c → c.1.streamId = head.streamId ∧
      c.1.isEndHeaders = (head.flag &&& END_HEADERS == END_HEADERS) ∧ c.2.length ≤ payload.length)
    (h : r.headerBlock head loaded = some (.ok x, r')) :
    r.Taken ⟨head, payload⟩ r' ∧ r'.maxContinuationFrames = r.maxContinuationFrames := by
  unfold headerBlock at h
  split at h
  · cases h
  · cases h
  · rename_i frame buf
    obtain ⟨hid, hends, hbuf⟩ := hloaded _ rfl
    obtain ⟨block, left, hleft, hmax, hpartial⟩ := loadHpack_ok h
    refine ⟨?_, hmax⟩
    dsimp only at hid hends
    rw [hends] at hpartial
    cases hflag : head.flag &&& END_HEADERS == END_HEADERS with
    | true =>
      rw [hflag, if_pos rfl, hidle] at hpartial
      refine .whole hidle hpartial (fun hno => ?_) fun hno => ?_
      · dsimp only at hno
        rw [hno] at hkind
        rcases hkind with hkind | hkind <;> cases hkind
      · rw [endHeaders_eq_zero.mp hno.2] at hflag
        cases hflag
    | false =>
      rw [hflag, if_neg Bool.false_ne_true] at hpartial
      exact .opens hidle hpartial hkind (endHeaders_eq_zero.mpr hflag) ((frame.streamId_setBlock block).trans hid) rfl
        (hleft.trans hbuf)

theorem continuation_taken {head : Head} {payload : Bytes} (hkind : head.kind = .continuation)
    (h : r.continuation head payload = some (.ok x, r')) :
    r.Taken ⟨head, payload⟩ r' ∧ r'.maxContinuationFrames = r.maxContinuationFrames := by
  unfold continuation at h
  split at h
  · cases h
  · rename_i p hp
    dsimp only at h
    obtain ⟨-, heq⟩ | ⟨hid, h⟩ := ite_eq_iff.mp h
    · cases heq
    obtain ⟨-, heq⟩ | ⟨hcount, h⟩ := ite_eq_iff.mp h
    · cases heq
    obtain ⟨-, heq⟩ | ⟨-, h⟩ := ite_eq_iff.mp h
    · cases heq
    obtain ⟨block, left, hleft, hmax, hpartial⟩ := loadHpack_ok h
    refine ⟨?_, hmax⟩
    rw [List.length_append] at hleft
    cases hflag : head.flag &&& END_HEADERS == END_HEADERS with
    | true =>
      rw [hflag, if_pos rfl] at hpartial
      refine .ends hp hpartial hkind (fun hno => ?_) (not_not.mp hid)
      rw [endHeaders_eq_zero.mp hno] at hflag
      cases hflag
    | false =>
      simp only [hflag, Bool.false_eq_true, if_false] at hpartial
      refine .continues hp hpartial hkind (endHeaders_eq_zero.mpr hflag) (not_not.mp hid)
        (p.frame.streamId_setBlock block) rfl ?_ hleft
      simpa [hflag] using hcount

theorem decodeFrame_taken {bytes : Bytes} {head : Head} (hhead : Head.parse bytes = some head)
    (h : r.decodeFrame bytes = some (.ok x, r')) :
    r.Taken ⟨head, bytes.drop HEADER_LEN⟩ r' ∧ r'.maxContinuationFrames = r.maxContinuationFrames := by
  simp only [decodeFrame, hhead, Option.bind_eq_bind, Option.bind_some] at h
  obtain ⟨-, heq⟩ | ⟨hopen, h⟩ := ite_eq_iff.mp h
  · cases heq
  by_cases hkind : head.kind = .continuation
  · rw [hkind] at h
    exact continuation_taken hkind h
  have hidle : r.partial' = none := by
    simpa [hkind] using hopen
  by_cases hblock : head.kind = .headers ∨ head.kind = .pushPromise
  · rcases hblock with hheaders | hpush
    · rw [hheaders] at h
      refine headerBlock_taken hidle (.inl hheaders) (fun c hc => ?_) h
      obtain ⟨l, hl, rfl⟩ := Except.map_eq_ok hc
      obtain ⟨hid, hflags, hlen⟩ := Headers.load_head hl
      exact ⟨hid, by rw [Continuable.isEndHeaders, Headers.isEndHeaders, hflags], hlen⟩
    · rw [hpush] at h
      refine headerBlock_taken hidle (.inr hpush) (fun c hc => ?_) h
      obtain ⟨l, hl, rfl⟩ := Except.map_eq_ok hc
      obtain ⟨hid, hflags, hlen⟩ := PushPromise.load_head hl
      exact ⟨hid, by rw [Continuable.isEndHeaders, hflags], hlen⟩
  -- the other frames leave the reader as it is
  suffices hsame : r' = r by
    subst hsame
    exact ⟨.whole hidle hidle hkind fun hno => hblock hno.1, rfl⟩
  have hload : ∀ {α : Type} {into : α → Frame} {loaded : Except FrameError α},
      r.ofLoad into loaded = some (.ok x, r') → r' = r := by
    intro α into loaded h
    unfold ofLoad at h
    split at h <;> cases h
    rfl
  cases hk : head.kind <;> simp only [hk] at h
  case settings | ping | windowUpdate | reset | goAway => exact hload h
  case data =>
    split at h <;> cases h
    rfl
  case headers => exact absurd (.inl hk) hblock
  case pushPromise => exact absurd (.inr hk) hblock
  case priority =>
    obtain ⟨-, heq⟩ | ⟨-, h⟩ := ite_eq_iff.mp h
    · cases heq
    split at h <;> cases h
    rfl
  case continuation => exact absurd hk hkind
  case unknown =>
    cases h
    rfl

theorem Taken.unbroken (h : r.Taken raw r') (rest : List RawFrame) :
    Unbroken r.block (raw :: rest) ↔ Unbroken r'.block rest := by
  cases h with
  | whole hidle hidle' hkind hends =>
    rw [block, block, hidle, hidle', Option.map_none, Unbroken, if_neg hends, and_iff_right hkind]
  | opens hidle hopen hkind hflag hid _ _ =>
    have hnot : raw.head.kind ≠ .continuation := by
      rcases hkind with hkind | hkind <;> simp [hkind]
    rw [block, block, hidle, hopen, Option.map_none, Option.map_some, Unbroken, if_pos ⟨hkind, hflag⟩, hid,
      and_iff_right hnot]
  | continues hopen hopen' hkind hflag hid hid' _ _ _ =>
    rw [block, block, hopen, hopen', Option.map_some, Option.map_some, Unbroken, if_pos hflag, hid',
      and_iff_right hkind, and_iff_right hid.symm]
  | ends hopen hidle' hkind hflag hid =>
    rw [block, block, hopen, hidle', Option.map_some, Option.map_none, Unbroken, if_neg hflag, and_iff_right hkind,
      and_iff_right hid.symm]

inductive Sets (r : FramedRead) : FramedRead → Prop
  | maxFrameSize {r' : FramedRead} {val : Nat} (h : r.setMaxFrameSize val = some r') : Sets r r'
  | maxHeaderListSize (maxFrameSize val : Nat) : Sets r (r.setMaxHeaderListSize maxFrameSize val)
  | headerTableSize (val : Nat) : Sets r (r.setHeaderTableSize val)

theorem Sets.partial_eq (h : r.Sets r') : r'.partial' = r.partial' := by
  cases h with
  | maxFrameSize h =>
    obtain ⟨-, heq⟩ := Option.ite_none_right_eq_some.mp h
    cases heq
    rfl
  | maxHeaderListSize | headerTableSize => rfl

/-- The runs in which every frame is accepted, and in which never more than `limit` frames may continue
a header block. -/
inductive Takes (limit : Nat) : FramedRead → List RawFrame → FramedRead → Prop
  | nil {r : FramedRead} (hmax : r.maxContinuationFrames ≤ limit) : Takes limit r [] r
  | frame {r r₁ r' : FramedRead} {bytes : Bytes} {head : Head} {x : Option Frame} {raws : List RawFrame}
      (hhead : Head.parse bytes = some head) (h : r.decodeFrame bytes = some (.ok x, r₁))
      (hrest : Takes limit r₁ raws r') : Takes limit r (⟨head, bytes.drop HEADER_LEN⟩ :: raws) r'
  | set {r r₁ r' : FramedRead} {raws : List RawFrame} (hmax : r.maxContinuationFrames ≤ limit) (h : r.Sets r₁)
      (hrest : Takes limit r₁ raws r') : Takes limit r raws r'

namespace Takes

variable {raws : List RawFrame} {n : Nat}

theorem max_le (h : Takes limit r raws r') : r.maxContinuationFrames ≤ limit := by
  induction h with
  | nil hmax => exact hmax
  | frame hhead h _ ih => exact (decodeFrame_taken hhead h).2 ▸ ih
  | set hmax => exact hmax

theorem append {raws' : List RawFrame} (h : Takes limit r (raws ++ raws') r') :
    ∃ r₁, Takes limit r raws r₁ ∧ Takes limit r₁ raws' r' := by
  generalize hall : raws ++ raws' = all at h
  induction h generalizing raws with
  | nil hmax =>
    obtain ⟨rfl, rfl⟩ := List.append_eq_nil_iff.mp hall
    exact ⟨_, .nil hmax, .nil hmax⟩
  | @frame r _ _ _ _ _ _ hhead h hrest ih =>
    cases raws with
    | nil =>
      obtain rfl : raws' = _ := hall
      have hrun := Takes.frame hhead h hrest
      exact ⟨r, .nil hrun.max_le, hrun⟩
    | cons raw raws =>
      obtain ⟨hraw, hraws⟩ := List.cons.inj hall
      subst hraw
      obtain ⟨r₁, hfirst, hsecond⟩ := ih hraws
      exact ⟨r₁, .frame hhead h hfirst, hsecond⟩
  | set hmax h _ ih =>
    obtain ⟨r₁, hfirst, hsecond⟩ := ih hall
    exact ⟨r₁, .set hmax h hfirst, hsecond⟩

theorem continuations_le (h : Takes limit r raws r') (hall : ∀ raw ∈ raws, raw.head.kind = .continuation) :
    (r.partial' = none → raws = []) ∧
      ∀ p, r.partial' = some p → raws.length ≤ limit - p.continuationFramesCount + 1 := by
  induction h with
  | nil => exact ⟨fun _ => rfl, fun _ _ => Nat.zero_le _⟩
  | @frame r r₁ _ _ head _ raws hhead h hrest ih =>
    obtain ⟨hkind, hall⟩ := List.forall_mem_cons.mp hall
    obtain ⟨htaken, hmax⟩ := decodeFrame_taken hhead h
    have hle : r.maxContinuationFrames ≤ limit := hmax ▸ hrest.max_le
    obtain ⟨hnone, hsome⟩ := ih hall
    cases htaken with
    | whole _ _ hnot => exact absurd hkind hnot
    | opens _ _ hnot =>
      dsimp only at hkind hnot
      rw [hkind] at hnot
      rcases hnot with hnot | hnot <;> cases hnot
    | continues hopen hopen' _ _ _ _ hcount hcontinues =>
      refine ⟨fun hno => ?_, fun p hp => ?_⟩
      · rw [hopen] at hno
        cases hno
      · cases hopen.symm.trans hp
        have hlength := hsome _ hopen'
        rw [List.length_cons]
        omega
    | ends hopen hidle' =>
      refine ⟨fun hno => ?_, fun p hp => ?_⟩
      · rw [hopen] at hno
        cases hno
      · rw [hnone hidle']
        exact Nat.succ_le_succ (Nat.zero_le _)
  | set _ h _ ih =>
    rw [← h.partial_eq]
    exact ih hall

/-- The bytes of a header block that the reader keeps have come in that many frames. -/
def Holds (limit n : Nat) (r : FramedRead) : Prop :=
  ∀ p, r.partial' = some p →
    p.continuationFramesCount ≤ limit ∧ p.buf.length ≤ (p.continuationFramesCount + 1) * n

theorem holds_next (hr : Holds limit n r) (h : r.Taken raw r') (hmax : r.maxContinuationFrames ≤ limit)
    (hraw : raw.payload.length ≤ n) : Holds limit n r' := by
  intro p hp
  cases h with
  | whole _ hidle' | ends _ hidle' =>
    rw [hidle'] at hp
    cases hp
  | opens _ hopen _ _ _ hcount hbuf =>
    cases hopen.symm.trans hp
    rw [hcount, Nat.zero_add, Nat.one_mul]
    exact ⟨Nat.zero_le _, hbuf.trans hraw⟩
  | continues hopen hopen' _ _ _ _ hcount hcontinues hbuf =>
    cases hopen'.symm.trans hp
    obtain ⟨-, hlength⟩ := hr _ hopen
    refine ⟨hcontinues.trans hmax, hbuf.trans ?_⟩
    rw [hcount, Nat.succ_mul]
    exact Nat.add_le_add hlength hraw

theorem holds (h : Takes limit r raws r') (hr : Holds limit n r) (hraws : ∀ raw ∈ raws, raw.payload.length ≤ n) :
    Holds limit n r' := by
  induction h with
  | nil => exact hr
  | frame hhead h hrest ih =>
    obtain ⟨hraw, hraws⟩ := List.forall_mem_cons.mp hraws
    obtain ⟨htaken, hmax⟩ := decodeFrame_taken hhead h
    exact ih (holds_next hr htaken (hmax ▸ hrest.max_le) hraw) hraws
  | set _ h _ ih =>
    refine ih (fun p hp => hr p ?_) hraws
    rwa [← h.partial_eq]

end Takes

/-- The frames that the reader accepts never have another frame inside of a header block: they go on
with the block that it held, and all that can still come has to go on with the block that it holds. -/
theorem takes_unbroken {raws : List RawFrame} (h : Takes limit r raws r') (rest : List RawFrame) :
    Unbroken r.block (raws ++ rest) ↔ Unbroken r'.block rest := by
  induction h with
  | nil => exact Iff.rfl
  | frame hhead h _ ih => exact ((decodeFrame_taken hhead h).1.unbroken _).trans ih
  | set _ h _ ih =>
    rw [block, ← h.partial_eq]
    exact ih

/-- However a peer cuts its header blocks, a block takes a bounded number of frames, and what the reader
keeps of it a bounded number of bytes. -/
theorem takes_bounded {raws : List RawFrame} {n : Nat} (h : Takes limit r raws r') (hidle : r.partial' = none)
    (hraws : ∀ raw ∈ raws, raw.payload.length ≤ n) :
    (∀ front block rear, raws = front ++ (block ++ rear) → (∀ raw ∈ block, raw.head.kind = .continuation) →
      block.length ≤ limit + 1) ∧ ∀ p, r'.partial' = some p → p.buf.length ≤ (limit + 1) * n := by
  refine ⟨fun front block rear hsplit hblock => ?_, fun p hp => ?_⟩
  · rw [hsplit] at h
    obtain ⟨r₁, -, hrest⟩ := h.append
    obtain ⟨r₂, hcontinued, -⟩ := hrest.append
    obtain ⟨hnone, hsome⟩ := hcontinued.continuations_le hblock
    cases hp : r₁.partial' with
    | none =>
      rw [hnone hp]
      exact Nat.zero_le _
    | some p => exact (hsome p hp).trans (Nat.succ_le_succ (Nat.sub_le _ _))
  · have hholds : Takes.Holds limit n r := by
      intro p hp
      rw [hidle] at hp
      cases hp
    obtain ⟨hcount, hlength⟩ := h.holds hholds hraws p hp
    exact hlength.trans (Nat.mul_le_mul_right n (Nat.succ_le_succ hcount))

end Codec.FramedRead

end

section

attribute [local instance] plainCodes

def twoFrames : List Bytes :=
  [[0, 0, 1, 1, 0, 0, 0, 0, 1, 0x82], [0, 0, 1, 9, 4, 0, 0, 0, 1, 0x84], [0, 0, 1, 9, 4, 0, 0, 0, 1, 0x84]]

def twoFragments : List RawFrame := [⟨⟨.headers, 0, 1⟩, [0x82]⟩, ⟨⟨.continuation, 4, 1⟩, [0x84]⟩]

theorem twoFragments_taken : ∃ r', (Codec.FramedRead.new 16384).Takes 1280 twoFragments r' ∧ r'.partial' = none := by
  have hrun : (((Codec.FramedRead.new 16384).decodeFrame [0, 0, 1, 1, 0, 0, 0, 0, 1, 0x82]).bind fun out =>
      (out.2.decodeFrame [0, 0, 1, 9, 4, 0, 0, 0, 1, 0x84]).map fun out' =>
        (out.1.isOk, out'.1.isOk, out'.2.partial'.isNone, decide (out'.2.maxContinuationFrames ≤ 1280))) =
      some (true, true, true, true) := by decide +kernel
  obtain ⟨⟨res, r₁⟩, hopen, hrun⟩ := Option.bind_eq_some_iff.mp hrun
  obtain ⟨⟨res', r'⟩, hend, heq⟩ := Option.map_eq_some_iff.mp hrun
  obtain ⟨hok, heq⟩ := Prod.mk.inj heq
  obtain ⟨hok', heq⟩ := Prod.mk.inj heq
  obtain ⟨hnone, hmax⟩ := Prod.mk.inj heq
  cases res with
  | error e => cases hok
  | ok x =>
    cases res' with
    | error e => cases hok'
    | ok x' =>
      exact ⟨r', .frame rfl hopen (.frame rfl hend (.nil (of_decide_eq_true hmax))), Option.isNone_iff_eq_none.mp hnone⟩

theorem pollNext_total_twoFrames :
    ∃ out r' rest, (Codec.FramedRead.new 16384).pollNext twoFrames = some (out, r', rest) ∧
      r'.Reaches (2 ^ 24) ∧ rest <:+ twoFrames ∧ (out = none → rest = []) :=
  Codec.FramedRead.pollNext_total (.new 16384 (Nat.le_refl _)) twoFrames (by decide)

theorem takes_unbroken_twoFragments : ∃ r', (Codec.FramedRead.new 16384).Takes 1280 twoFragments r' ∧
    r'.partial' = none ∧ (Unbroken none (twoFragments ++ []) ↔ Unbroken r'.block []) := by
  obtain ⟨r', h, hnone⟩ := twoFragments_taken
  exact ⟨r', h, hnone, Codec.FramedRead.takes_unbroken h []⟩

theorem takes_bounded_twoFragments : ∃ r', (Codec.FramedRead.new 16384).Takes 1280 twoFragments r' ∧
    (∀ front block rear, twoFragments = front ++ (block ++ rear) →
      (∀ raw ∈ block, raw.head.kind = .continuation) → block.length ≤ 1281) ∧
    ∀ p, r'.partial' = some p → p.buf.length ≤ 1281 * 1 := by
  obtain ⟨r', h, -⟩ := twoFragments_taken
  exact ⟨r', h, Codec.FramedRead.takes_bounded h rfl (by decide)⟩

end

end TwoPlz
