import TwoPlz.Codec.Wire

/-! The write half of the codec (`framed_write.rs`).  A frame is in up to three places: in the byte
buffer behind a cursor, as the payload of a DATA frame that is not copied, and as the rest of a
header block.  A panic or a failed assertion, the debug ones included, is `none`. -/

namespace TwoPlz

/-- All that is used of `hpack::Encoder`: it writes a header block and goes on with a new state. -/
class HpackEncoder [HeaderPlz] where
  State : Type
  default : State
  encode : State → HeaderBlock → Option (Bytes × State)

variable [HeaderPlz]

inductive Codec.Frame : Type
  | data (frame : Data)
  | headers (frame : Headers)
  | priority (frame : Priority)
  | pushPromise (frame : PushPromise)
  | settings (frame : Settings)
  | ping (frame : Ping)
  | goAway (frame : GoAway)
  | windowUpdate (frame : WindowUpdate)
  | reset (frame : Reset)
  deriving DecidableEq

structure RawFrame where
  head : Head
  payload : Bytes
  deriving DecidableEq

def RawFrame.bytes (r : RawFrame) : Bytes := r.head.encode r.payload.length ++ r.payload

omit [HeaderPlz] in
theorem RawFrame.bytes_ne_nil (r : RawFrame) : r.bytes ≠ [] := by
  apply List.ne_nil_of_length_pos
  simp only [RawFrame.bytes, List.length_append, Head.length_encode, HEADER_LEN]
  omega

structure Continuation where
  streamId : Nat
  hpack : Bytes
  deriving DecidableEq

section

omit [HeaderPlz]

/-- The byte buffer, and how many bytes may still be put into it. -/
structure EncodeBuf where
  inner : Bytes
  limit : Nat
  deriving DecidableEq

def EncodeBuf.put (dst : EncodeBuf) (bytes : Bytes) : Option EncodeBuf :=
  if bytes.length ≤ dst.limit then some ⟨dst.inner ++ bytes, dst.limit - bytes.length⟩ else none

def copyFromSlice (buf : Bytes) (pos : Nat) (bytes : Bytes) : Option Bytes :=
  if pos + bytes.length ≤ buf.length then some (buf.take pos ++ (bytes ++ buf.drop (pos + bytes.length))) else none

def EncodingHeaderBlock.encodePayload (hpack : Bytes) (streamId : Nat) (dst : EncodeBuf) :
    Option (EncodeBuf × Option Continuation) :=
  if hpack.length > dst.limit then
    (dst.put (hpack.take dst.limit)).map (·, some ⟨streamId, hpack.drop dst.limit⟩)
  else (dst.put hpack).map (·, none)

/-- `EncodingHeaderBlock::encode`; `extra` is what the closure writes. -/
def EncodingHeaderBlock.encode (hpack : Bytes) (head : Head) (dst : EncodeBuf) (extra : Bytes) :
    Option (EncodeBuf × Option Continuation) := do
  let headPos := dst.inner.length
  let dst ← dst.put (head.encode 0)
  let payloadPos := dst.inner.length
  let dst ← dst.put extra
  let (dst, continuation) ← encodePayload hpack head.streamId dst
  let payloadLen := dst.inner.length - payloadPos
  if payloadLen ≥ 2 ^ 24 then none
  else
    let inner ← copyFromSlice dst.inner headPos (BigEndian.bytes 3 payloadLen)
    if continuation.isSome then
      let flag ← inner[headPos + 4]?
      if flag &&& END_HEADERS == END_HEADERS then
        some ({ dst with inner := inner.set (headPos + 4) (flag - END_HEADERS) }, continuation)
      else none
    else some ({ dst with inner := inner }, continuation)

def Continuation.encode (c : Continuation) (dst : EncodeBuf) : Option (EncodeBuf × Option Continuation) :=
  EncodingHeaderBlock.encode c.hpack ⟨.continuation, END_HEADERS, c.streamId⟩ dst []

end

/-- What `limited_write_buf!` lets one frame take. -/
def writeLimit (maxFrameSize : Nat) : Nat := maxFrameSize + HEADER_LEN

inductive Codec.Next : Type
  | data (frame : Data)
  | continuation (frame : Continuation)
  deriving DecidableEq

inductive ControlFlow : Type
  | continue | break
  deriving DecidableEq

inductive IoPoll : Type
  | ready | pending | error
  deriving DecidableEq

/-- One answer of the transport to `poll_write`: it takes that many of the bytes it is offered,
all of them at most, or fails. -/
inductive WriteResult : Type
  | accepted (n : Nat)
  | error
  deriving DecidableEq

/-- How the transport answers during one call: the writes until it is no longer ready, and the
`poll_flush` after them. -/
structure Transport where
  writes : List WriteResult
  flush : IoPoll

section

variable [HpackEncoder]

def Headers.encode (h : Headers) (hpack : HpackEncoder.State) (dst : EncodeBuf) :
    Option ((EncodeBuf × Option Continuation) × HpackEncoder.State) :=
  if h.isEndHeaders then do
    let (block, hpack) ← HpackEncoder.encode hpack h.headerBlock
    let out ← EncodingHeaderBlock.encode block ⟨.headers, h.flags, h.streamId⟩ dst []
    some (out, hpack)
  else none

def PushPromise.encode (p : PushPromise) (hpack : HpackEncoder.State) (dst : EncodeBuf) :
    Option ((EncodeBuf × Option Continuation) × HpackEncoder.State) :=
  if p.flags &&& END_HEADERS == END_HEADERS then do
    let (block, hpack) ← HpackEncoder.encode hpack p.headerBlock
    let out ← EncodingHeaderBlock.encode block ⟨.pushPromise, p.flags, p.streamId⟩ dst
      (BigEndian.bytes 4 p.promisedId)
    some (out, hpack)
  else none

structure Encoder where
  hpack : HpackEncoder.State
  buf : Bytes
  position : Nat
  next : Option Codec.Next
  lastDataFrame : Option Data
  maxFrameSize : Nat
  chainThreshold : Nat
  minBufferCapacity : Nat

namespace Encoder

def remaining (e : Encoder) : Nat := e.buf.length - e.position

def isEmpty (e : Encoder) : Bool :=
  match e.next with
  | some (.data frame) => frame.data.isEmpty
  | _ => e.remaining == 0

def unsetFrame (e : Encoder) : Option (ControlFlow × Encoder) :=
  let e := { e with buf := [], position := 0 }
  match e.next with
  | some (.data frame) => some (.break, { e with next := none, lastDataFrame := some frame })
  | some (.continuation frame) => do
    let (dst, continuation) ← frame.encode ⟨[], writeLimit e.maxFrameSize⟩
    some (.continue, { e with buf := dst.inner, next := continuation.map .continuation })
  | none => some (.break, e)

def put (e : Encoder) (bytes : Bytes) : Encoder := { e with buf := e.buf ++ bytes }

def bufferData (e : Encoder) (v : Data) : Except UserError Encoder :=
  let len := v.data.length
  if len > e.maxFrameSize then .error .payloadTooBig
  else if len ≥ e.chainThreshold then
    let e := e.put (v.head.encode len)
    if e.buf.length < e.chainThreshold then
      let extraBytes := e.chainThreshold - e.remaining
      let e := e.put (v.data.take extraBytes)
      .ok { e with next := some (.data { v with data := v.data.drop extraBytes }) }
    else .ok { e with next := some (.data v) }
  else .ok { e.put v.encodeChunk with lastDataFrame := some { v with data := [] } }

def bufferBlock (e : Encoder) (out : (EncodeBuf × Option Continuation) × HpackEncoder.State) : Encoder :=
  let e := { e with buf := out.1.1.inner, hpack := out.2 }
  match out.1.2 with
  | some continuation => { e with next := some (.continuation continuation) }
  | none => e

def buffer (e : Encoder) : Codec.Frame → Option (Except UserError Encoder)
  | .data v => some (e.bufferData v)
  | .headers v => (v.encode e.hpack ⟨e.buf, writeLimit e.maxFrameSize⟩).map fun out => .ok (e.bufferBlock out)
  | .pushPromise v =>
    (v.encode e.hpack ⟨e.buf, writeLimit e.maxFrameSize⟩).map fun out => .ok (e.bufferBlock out)
  | .settings v => some (.ok (e.put v.encode))
  | .goAway v => some (.ok (e.put v.encode))
  | .ping v => some (.ok (e.put v.encode))
  | .windowUpdate v => some (.ok (e.put v.encode))
  | .priority _ => none
  | .reset v => some (.ok (e.put v.encode))

/-- `capacity` is the capacity of the byte buffer at the time of the call. -/
def hasCapacity (e : Encoder) (capacity : Nat) : Bool :=
  e.next.isNone && decide (capacity - e.buf.length ≥ e.minBufferCapacity)

end Encoder

/-- `inner` is what the transport has taken so far. -/
structure Codec.FramedWrite where
  inner : Bytes
  encoder : Encoder

namespace Codec.FramedWrite

def CHAIN_THRESHOLD : Nat := 256

def CHAIN_THRESHOLD_WITHOUT_VECTORED_IO : Nat := 1024

def new (isWriteVectored : Bool) : FramedWrite :=
  let chainThreshold :=
    if isWriteVectored then CHAIN_THRESHOLD else CHAIN_THRESHOLD_WITHOUT_VECTORED_IO
  { inner := []
    encoder :=
      { hpack := HpackEncoder.default
        buf := []
        position := 0
        next := none
        lastDataFrame := none
        maxFrameSize := DEFAULT_MAX_FRAME_SIZE
        chainThreshold := chainThreshold
        minBufferCapacity := chainThreshold + HEADER_LEN } }

/-- `none` is the failed assertion. -/
def setMaxFrameSize (w : FramedWrite) (val : Nat) : Option FramedWrite :=
  if val ≤ MAX_MAX_FRAME_SIZE then some { w with encoder.maxFrameSize := val } else none

/-- `poll_write_buf` when the transport takes `n` bytes of the buffer and, behind it, of the payload
of a DATA frame. -/
def writeBuf (w : FramedWrite) (n : Nat) : FramedWrite :=
  let e := w.encoder
  match e.next with
  | some (.data frame) =>
    { inner := w.inner ++ (e.buf.drop e.position ++ frame.data).take n
      encoder :=
        { e with
          position := e.position + min n e.remaining
          next := some (.data { frame with data := frame.data.drop (n - e.remaining) }) } }
  | _ =>
    { inner := w.inner ++ (e.buf.drop e.position).take n
      encoder := { e with position := e.position + min n e.remaining } }

/-- The two loops of `flush`; each round makes one write or one call of `unset_frame`. -/
def flushLoop : Nat → List WriteResult → FramedWrite → Option (IoPoll × FramedWrite)
  | 0, _, _ => none
  | rounds + 1, writes, w =>
    if w.encoder.isEmpty then do
      let (flow, encoder) ← w.encoder.unsetFrame
      match flow with
      | .continue => flushLoop rounds writes { w with encoder := encoder }
      | .break => some (.ready, { w with encoder := encoder })
    else
      match writes with
      | [] => some (.pending, w)
      | .error :: _ => some (.error, w)
      | .accepted n :: writes => flushLoop rounds writes (w.writeBuf n)

def flush (w : FramedWrite) (io : Transport) : Option (IoPoll × FramedWrite) := do
  let (poll, w) ← flushLoop (2 * io.writes.length + 2) io.writes w
  match poll with
  | .ready => some (io.flush, w)
  | poll => some (poll, w)

/-- `capacity` and `flushed` are the capacities of the byte buffer at the two tests. -/
def pollReady (w : FramedWrite) (capacity flushed : Nat) (io : Transport) :
    Option (IoPoll × FramedWrite) :=
  if w.encoder.hasCapacity capacity then some (.ready, w)
  else do
    let (poll, w) ← w.flush io
    match poll with
    | .ready => some (if w.encoder.hasCapacity flushed then .ready else .pending, w)
    | poll => some (poll, w)

def buffer (w : FramedWrite) (item : Frame) : Option (Except UserError FramedWrite) :=
  (w.encoder.buffer item).map fun r => r.map fun e => { w with encoder := e }

end Codec.FramedWrite

end

end TwoPlz
