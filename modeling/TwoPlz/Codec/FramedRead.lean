import TwoPlz.Codec.FramedWrite
import TwoPlz.Hpack.Decoder

/-! The read half of the codec (`framed_read.rs`), with the loading of header blocks
(`frame/headers.rs`).  A panic is `none`. -/

namespace TwoPlz

open Hpack (DecoderError Header)

inductive BlockError : Type
  | hpack (e : DecoderError)
  | malformedMessage
  deriving DecidableEq

variable [HeaderPlz]

/-- The variables of `HeaderBlock::load` that its closure changes. -/
structure BlockLoad where
  block : HeaderBlock
  reg : Bool
  malformed : Bool
  headersSize : Nat

namespace BlockLoad

/-- `set_pseudo!`; `name` is the name of the field without the colon. -/
def setPseudo (l : BlockLoad) (max : Nat) (name : String) (isSome : Bool) (len : Nat)
    (set : Pseudo → Pseudo) : BlockLoad :=
  if l.reg then { l with malformed := true }
  else if isSome then { l with malformed := true }
  else
    let l := { l with headersSize := l.headersSize + decodedHeaderSize (name.length + 1) len }
    if l.headersSize < max then { l with block.pseudo := set l.block.pseudo }
    else { l with block.isOverSize := true }

def isConnectionLevel (name : Bytes) : Bool :=
  name == HeaderPlz.constHeader .connection || name == HeaderPlz.constHeader .transferEncoding
    || name == HeaderPlz.constHeader .upgrade || name == ascii "keep-alive"
    || name == ascii "proxy-connection"

def load (max : Nat) (l : BlockLoad) : Header → BlockLoad
  | .field name value =>
    if isConnectionLevel name then { l with malformed := true }
    else if name == HeaderPlz.constHeader .te && !eqIgnoreAsciiCase value (ascii "trailers") then
      { l with malformed := true }
    else
      let size := decodedHeaderSize name.length value.length
      let l := { l with reg := true, headersSize := l.headersSize + size }
      if l.headersSize < max then
        { l with
          block.fieldSize := l.block.fieldSize + size
          block.fields := HeaderPlz.mapInsert l.block.fields name value }
      else { l with block.isOverSize := true }
  | .authority v =>
    l.setPseudo max "authority" l.block.pseudo.authority.isSome v.length
      fun p => { p with authority := some v }
  | .method v =>
    l.setPseudo max "method" l.block.pseudo.method.isSome (HeaderPlz.methodAsRef v).length
      fun p => { p with method := some v }
  | .scheme v =>
    l.setPseudo max "scheme" l.block.pseudo.scheme.isSome v.length fun p => { p with scheme := some v }
  | .path v =>
    l.setPseudo max "path" l.block.pseudo.path.isSome v.length fun p => { p with path := some v }
  | .protocol v =>
    l.setPseudo max "protocol" l.block.pseudo.protocol.isSome v.length
      fun p => { p with protocol := some v }
  | .status v =>
    l.setPseudo max "status" l.block.pseudo.status.isSome (HeaderPlz.statusAsStr v).length
      fun p => { p with status := some v }

end BlockLoad

namespace HeaderBlock

def empty : HeaderBlock := ⟨HeaderPlz.mapNew, 0, false, Pseudo.default⟩

/-- `calculate_header_list_size`; the protocol is not in it. -/
def calculateHeaderListSize (b : HeaderBlock) : Nat :=
  let pseudoSize (name : String) (len : Option Nat) : Nat :=
    (len.map fun n => decodedHeaderSize (name.length + 1) n).getD 0
  pseudoSize "method" (b.pseudo.method.map fun m => (HeaderPlz.methodAsRef m).length)
    + pseudoSize "scheme" (b.pseudo.scheme.map List.length)
    + pseudoSize "status" (b.pseudo.status.map fun s => (HeaderPlz.statusAsStr s).length)
    + pseudoSize "authority" (b.pseudo.authority.map List.length)
    + pseudoSize "path" (b.pseudo.path.map List.length)
    + b.fieldSize

/-- The block keeps the headers that were decoded before an error.  The result, the block, the bytes
that were not decoded and the decoder. -/
def load (b : HeaderBlock) (src : Bytes) (maxHeaderListSize : Nat) (decoder : Hpack.Decoder) :
    Option (Except BlockError Unit × HeaderBlock × Bytes × Hpack.Decoder) := do
  let (res, s) ← decoder.decode src
  let l := s.emitted.foldl (BlockLoad.load maxHeaderListSize)
    ⟨b, !HeaderPlz.mapIsEmpty b.fields, false, b.calculateHeaderListSize⟩
  let out :=
    match res with
    | .error e => .error (.hpack e)
    | .ok () => if l.malformed then .error .malformedMessage else .ok ()
  some (out, l.block, s.src.buf, s.decoder)

end HeaderBlock

/-- `StreamDependency::load` for the five bytes of the field. -/
def StreamDependency.load (src : Bytes) : Except FrameError StreamDependency :=
  match src with
  | [a, b, c, d, weight] =>
    let unpacked := BigEndian.value [a, b, c, d]
    .ok ⟨unpacked % 2 ^ 31, weight, 2 ^ 31 ≤ unpacked⟩
  | _ => .error .invalidPayloadLength

def padLen (flags : UInt8) (src : Bytes) : Except FrameError (Nat × Bytes) :=
  if flags &&& PADDED == PADDED then
    match src with
    | [] => .error .malformedMessage
    | pad :: src => .ok (pad.toNat, src)
  else .ok (0, src)

def dropPadding (pad : Nat) (src : Bytes) : Except FrameError Bytes :=
  if pad > 0 ∧ pad > src.length then .error .tooMuchPadding else .ok (src.take (src.length - pad))

def Headers.load (head : Head) (src : Bytes) : Except FrameError (Headers × Bytes) :=
  if head.streamId = 0 then .error .invalidStreamId
  else do
    let (pad, src) ← padLen head.flag src
    let (streamDep, src) ←
      if head.flag &&& PRIORITY == PRIORITY then
        if src.length < 5 then .error .malformedMessage
        else do
          let dep ← StreamDependency.load (src.take 5)
          if dep.dependencyId = head.streamId then .error .invalidDependencyId
          else .ok (some dep, src.drop 5)
      else .ok (none, src)
    let src ← dropPadding pad src
    .ok (⟨head.streamId, streamDep, HeaderBlock.empty, head.flag⟩, src)

def PushPromise.load (head : Head) (src : Bytes) : Except FrameError (PushPromise × Bytes) :=
  if head.streamId = 0 then .error .invalidStreamId
  else do
    let (pad, src) ← padLen head.flag src
    if src.length < 5 then .error .malformedMessage
    else do
      let promisedId := BigEndian.value (src.take 4) % 2 ^ 31
      let src ← dropPadding pad (src.drop 4)
      .ok (⟨head.streamId, promisedId, HeaderBlock.empty, head.flag⟩, src)

def Priority.load (head : Head) (payload : Bytes) : Except FrameError Priority := do
  let dependency ← StreamDependency.load payload
  if dependency.dependencyId = head.streamId then .error .invalidDependencyId
  else .ok ⟨head.streamId, dependency⟩

inductive Continuable : Type
  | headers (frame : Headers)
  | pushPromise (frame : PushPromise)

namespace Continuable

def streamId : Continuable → Nat
  | .headers h => h.streamId
  | .pushPromise p => p.streamId

def headerBlock : Continuable → HeaderBlock
  | .headers h => h.headerBlock
  | .pushPromise p => p.headerBlock

def isOverSize (c : Continuable) : Bool := c.headerBlock.isOverSize

def setBlock (block : HeaderBlock) : Continuable → Continuable
  | .headers h => .headers { h with headerBlock := block }
  | .pushPromise p => .pushPromise { p with headerBlock := block }

def isEndHeaders : Continuable → Bool
  | .headers h => h.isEndHeaders
  | .pushPromise p => p.flags &&& END_HEADERS == END_HEADERS

/-- `partial.frame.into()`, which sets END_HEADERS. -/
def into : Continuable → Codec.Frame
  | .headers h => .headers h.setEndHeaders
  | .pushPromise p => .pushPromise { p with flags := p.flags ||| END_HEADERS }

def frame : Continuable → Codec.Frame
  | .headers h => .headers h
  | .pushPromise p => .pushPromise p

end Continuable

structure Partial where
  frame : Continuable
  buf : Bytes
  continuationFramesCount : Nat

structure Codec.FramedRead where
  hpack : Hpack.Decoder
  maxHeaderListSize : Nat
  maxContinuationFrames : Nat
  partial' : Option Partial

def calcMaxContinuationFrames (headerMax frameMax : Nat) : Nat :=
  let minFramesForList := max (headerMax / frameMax) 1
  let padding := minFramesForList / 4
  max (minFramesForList + padding) 5

namespace Codec.FramedRead

def new (maxFrameLength : Nat) : FramedRead :=
  let maxHeaderListSize := 2 ^ 24
  { hpack := Hpack.Decoder.new 4096
    maxHeaderListSize := maxHeaderListSize
    maxContinuationFrames := calcMaxContinuationFrames maxHeaderListSize maxFrameLength
    partial' := none }

/-- `none` is the failed assertion. -/
def setMaxFrameSize (r : FramedRead) (val : Nat) : Option FramedRead :=
  if DEFAULT_MAX_FRAME_SIZE ≤ val ∧ val ≤ MAX_MAX_FRAME_SIZE then
    some { r with maxContinuationFrames := calcMaxContinuationFrames r.maxHeaderListSize val }
  else none

/-- `maxFrameSize` is the current length of the framing of the connection. -/
def setMaxHeaderListSize (r : FramedRead) (maxFrameSize val : Nat) : FramedRead :=
  { r with
    maxHeaderListSize := val
    maxContinuationFrames := calcMaxContinuationFrames val maxFrameSize }

def setHeaderTableSize (r : FramedRead) (val : Nat) : FramedRead :=
  { r with hpack := r.hpack.queueSizeUpdate val }

/-- The rest of an arm for a header block: the block is loaded, and the frame is returned or kept
until the block ends. -/
def loadHpack (r : FramedRead) (head : Head) (frame : Continuable) (buf : Bytes) (count : Nat)
    (isEndHeaders : Bool) (done : Continuable → Frame) :
    Option (Except ProtoError (Option Frame) × FramedRead) := do
  let (res, block, left, hpack) ← frame.headerBlock.load buf r.maxHeaderListSize r.hpack
  let r := { r with hpack := hpack }
  let frame := frame.setBlock block
  let loaded :=
    if isEndHeaders then (.ok (some (done frame)), r)
    else (.ok none, { r with partial' := some ⟨frame, left, count⟩ })
  some <|
    match res with
    | .ok () => loaded
    | .error (.hpack (.needMore _)) =>
      if !isEndHeaders then loaded else (.error (ProtoError.libraryGoAway Reason.PROTOCOL_ERROR), r)
    | .error .malformedMessage =>
      (.error (ProtoError.libraryReset head.streamId Reason.PROTOCOL_ERROR), r)
    | .error (.hpack _) => (.error (ProtoError.libraryGoAway Reason.PROTOCOL_ERROR), r)

def headerBlock (r : FramedRead) (head : Head) (loaded : Except FrameError (Continuable × Bytes)) :
    Option (Except ProtoError (Option Frame) × FramedRead) :=
  match loaded with
  | .error .invalidDependencyId =>
    some (.error (ProtoError.libraryReset head.streamId Reason.PROTOCOL_ERROR), r)
  | .error _ => some (.error (ProtoError.libraryGoAway Reason.PROTOCOL_ERROR), r)
  | .ok (frame, payload) => r.loadHpack head frame payload 0 frame.isEndHeaders Continuable.frame

def continuation (r : FramedRead) (head : Head) (payload : Bytes) :
    Option (Except ProtoError (Option Frame) × FramedRead) :=
  let isEndHeaders := head.flag &&& END_HEADERS == END_HEADERS
  match r.partial' with
  | none => some (.error (ProtoError.libraryGoAway Reason.PROTOCOL_ERROR), r)
  | some p =>
    let r := { r with partial' := none }
    if p.frame.streamId ≠ head.streamId then
      some (.error (ProtoError.libraryGoAway Reason.PROTOCOL_ERROR), r)
    else
      let count := if isEndHeaders then 0 else p.continuationFramesCount + 1
      if !isEndHeaders && decide (count > r.maxContinuationFrames) then
        some (.error (ProtoError.libraryGoAwayData Reason.ENHANCE_YOUR_CALM
          (ascii "too_many_continuations")), r)
      else if !p.buf.isEmpty && p.frame.isOverSize
          && decide (p.buf.length + (HEADER_LEN + payload.length) > r.maxHeaderListSize) then
        some (.error (ProtoError.libraryGoAway Reason.COMPRESSION_ERROR), r)
      else r.loadHpack head p.frame (p.buf ++ payload) count isEndHeaders Continuable.into

def ofLoad {α : Type} (r : FramedRead) (into : α → Frame) (res : Except FrameError α) :
    Option (Except ProtoError (Option Frame) × FramedRead) :=
  match res with
  | .ok frame => some (.ok (some (into frame)), r)
  | .error _ => some (.error (ProtoError.libraryGoAway Reason.PROTOCOL_ERROR), r)

def decodeFrame (r : FramedRead) (bytes : Bytes) :
    Option (Except ProtoError (Option Frame) × FramedRead) := do
  let head ← Head.parse bytes
  let payload := bytes.drop HEADER_LEN
  if r.partial'.isSome && head.kind != .continuation then
    some (.error (ProtoError.libraryGoAway Reason.PROTOCOL_ERROR), r)
  else
    match head.kind with
    | .settings => r.ofLoad .settings (Settings.load head payload)
    | .ping => r.ofLoad .ping (Ping.load head payload)
    | .windowUpdate => r.ofLoad .windowUpdate (WindowUpdate.load head payload)
    | .data =>
      match Data.load head.streamId head.flag payload with
      | some frame => some (.ok (some (.data frame)), r)
      | none => some (.error (ProtoError.libraryGoAway Reason.PROTOCOL_ERROR), r)
    | .headers => r.headerBlock head ((Headers.load head payload).map fun l => (.headers l.1, l.2))
    | .reset => r.ofLoad .reset (Reset.load head payload)
    | .goAway => r.ofLoad .goAway (GoAway.load payload)
    | .pushPromise =>
      r.headerBlock head ((PushPromise.load head payload).map fun l => (.pushPromise l.1, l.2))
    | .priority =>
      if head.streamId = 0 then some (.error (ProtoError.libraryGoAway Reason.PROTOCOL_ERROR), r)
      else
        match Priority.load head payload with
        | .ok frame => some (.ok (some (.priority frame)), r)
        | .error .invalidDependencyId =>
          some (.error (ProtoError.libraryReset head.streamId Reason.PROTOCOL_ERROR), r)
        | .error _ => some (.error (ProtoError.libraryGoAway Reason.PROTOCOL_ERROR), r)
    | .continuation => r.continuation head payload
    | .unknown => some (.ok none, r)

/-- The loop of `poll_next` over the frames that have arrived.  What is returned, the reader and the
frames that it has not read. -/
def pollNext (r : FramedRead) : List Bytes →
    Option (Option (Except ProtoError Frame) × FramedRead × List Bytes)
  | [] => some (none, r, [])
  | bytes :: rest => do
    let (res, r) ← r.decodeFrame bytes
    match res with
    | .ok none => r.pollNext rest
    | .ok (some frame) => some (some (.ok frame), r, rest)
    | .error e => some (some (.error e), r, rest)

end Codec.FramedRead

end TwoPlz
