import TwoPlz.Streams.Actions

/-! The handles: `streams.rs`, `streams_ref.rs` and `opaque_streams_ref.rs`. -/

namespace TwoPlz

variable [HeaderPlz] [StoreCrates]

open M Counts

inductive SendError : Type
  | user (e : UserError)
  | connection (e : ProtoError)
  deriving DecidableEq

def refInc (k : Key) : M Unit := do
  let st ← resolve k
  assert (decide (st.refCount < USIZE_MAX))
  update k fun st => { st with refCount := st.refCount + 1 }

def refDec (k : Key) : M Unit := do
  let st ← resolve k
  assert (decide (st.refCount > 0))
  update k fun st => { st with refCount := st.refCount - 1 }

/-- `OpaqueStreamRef::new` with the increment of `refs` its callers make. -/
def newRef (k : Key) : M Unit := do
  modify fun s => { s with refs := s.refs + 1 }
  refInc k

def queueBodyTrailer (k : Key) (dataFrame : Option Data) (trailerFrame : Option Headers) :
    M Unit := do
  M.whenSome dataFrame fun frame => do
    update k fun st => { st with remainingDataLen := some frame.data.length }
    pushBackSend k (.data frame)
  M.whenSome trailerFrame fun frame => pushBackSend k (.headers frame)

namespace Streams

/-- The frames of a request; in SPA mode a request without a body gets an empty DATA frame. -/
def requestFrames (streamId : Nat) (request : Request) (isSpa : Bool) : TwoTwoFrame :=
  let frames :=
    TwoTwoFrame.from streamId request.intoPseudo request.headers request.body request.trailers
  if frames.data.isNone && isSpa then
    { frames with header := frames.header.unsetEndStream, data := some (Data.new streamId []) }
  else frames

/-- `send_request` after the checks on the connection: the stream is created and its frames are
queued. -/
def startRequest (streamId : Nat) (request : Request) (isSpa : Bool) :
    M (Except SendError Key) := do
  let s ← get
  let stream := Stream.new streamId s.send.initStreamWindowSz s.recv.initStreamWindowSz
  let stream :=
    if request.method = HeaderPlz.HEAD then { stream with contentLength := .head } else stream
  assert (s.store.find streamId).isNone
  let k ← Inner.insertStream streamId stream
  let frames := requestFrames streamId request isSpa
  match ← Send.sendHeaders frames.header k with
  | .error e => do
    modify fun s => { s with store := s.store.unlink k }
    removeStream k
    pure (.error (.user e))
  | .ok () => do
    queueBodyTrailer k frames.data frames.trailer
    let st ← resolve k
    debugAssert (!st.state.isClosed)
    newRef k
    pure (.ok k)

def sendRequest (request : Request) (isSpa : Bool) : M (Except SendError Key) := do
  let s ← get
  match s.connError with
  | some e => pure (.error (.connection e))
  | none =>
    match Send.ensureNextStreamId s with
    | .error e => pure (.error (.user e))
    | .ok _ =>
      if s.counts.role.isServer then pure (.error (.user .unexpectedFrameType))
      else
        match ← Send.open' with
        | .error e => pure (.error (.user e))
        | .ok streamId => startRequest streamId request isSpa

/-- `next_accept` and the `take_request` of its caller. -/
def accept : M (Option (Key × Request)) := do
  match ← pop .accept with
  | none => pure none
  | some k => do
    let st ← resolve k
    M.when st.state.isRemoteReset decNumRemoteResetStreams
    newRef k
    let request ← Recv.takeRequest k
    pure (some (k, request))

def applyRemoteSettings (settings : Settings) : M (Except ProtoError Unit) := do
  Counts.applyRemoteSettings settings
  Send.applyRemoteSettings settings

end Streams

namespace StreamRef

def queueResponse (k : Key) (response : Response) : M (Except UserError Unit) := do
  let st ← resolve k
  let frames :=
    TwoTwoFrame.from st.id response.intoPseudo response.headers response.body response.trailers
  match ← transition k (Send.sendHeaders frames.header k) with
  | .error e => pure (.error e)
  | .ok () => do
    queueBodyTrailer k frames.data frames.trailer
    pure (.ok ())

def sendResponse (k : Key) (response : Response) : M (Except UserError Unit) := do
  let st ← resolve k
  if st.state.isRemoteReset then do
    wake
    pure (.error .inactiveStreamId)
  else queueResponse k response

def sendReset (k : Key) (reason : Nat) : M Unit := do
  match ← Actions.sendReset k reason .user with
  | .ok () => pure ()
  | .error _ => abort

end StreamRef

namespace OpaqueStreamRef

def clone (k : Key) : M Unit := newRef k

def maybeCancel (k : Key) : M Unit := do
  let st ← resolve k
  let s ← get
  M.when (st.isCanceledInterest && !st.isPendingSend) do
    let reason :=
      if s.counts.role.isServer && st.state.isSendClosed && st.state.isRecvStreaming then
        Reason.NO_ERROR
      else Reason.CANCEL
    Send.scheduleImplicitReset k reason
    Recv.enqueueResetExpiration k

/-- Dropping a handle.  The queue of push promises of a stream is always empty. -/
def drop (k : Key) : M Unit := do
  let s ← get
  assert (decide (s.refs > 0))
  set { s with refs := s.refs - 1 }
  refDec k
  let st ← resolve k
  M.when (st.refCount == 0 && st.isClosed) wake
  M.when (st.connectionWindowAllocated > 0) do
    let _ ← Send.recvConnectionWindowUpdate 10
  Recv.clearStreamQueue k
  transition k (maybeCancel k)

def pollResponse (k : Key) (waker : Waker) : M Recv.PollResponse := Recv.pollResponse waker k

def takePartialResponse (k : Key) : M (Option Response) := Recv.takeResponse k

end OpaqueStreamRef

end TwoPlz
