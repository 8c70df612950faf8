import TwoPlz.Streams.Inner

namespace TwoPlz

def parseU64 (src : Bytes) : Option Nat :=
  if src.length > 19 then none
  else
    src.foldlM (fun ret d => if d < 48 || d > 57 then none else some (ret * 10 + (d.toNat - 48))) 0

variable [HeaderPlz] [StoreCrates]

inductive RecvHeaderBlockError : Type
  | oversize (response : Option Headers)
  | state (e : ProtoError)

namespace Recv

open M Counts

def decConnectionWindow (size : Nat) : M (Except ProtoError Unit) := do
  let s ← get
  if s.recv.flow.windowSize < size then
    pure (.error (ProtoError.libraryGoAway Reason.FLOW_CONTROL_ERROR))
  else
    match s.recv.flow.decWindow size with
    | .error e => pure (.error (ProtoError.libraryGoAway e))
    | .ok flow => do
      set { s with recv.flow := flow }
      pure (.ok ())

/-- Only a stream that waits in `pending_complete` is cleared. -/
def clearStreamQueue (k : Key) : M Unit := do
  let st ← resolve k
  M.when st.isPendingComplete do
    let _ ← drainRecv k

def isComplete (st : Stream) : Bool := st.state.isRecvEndStream || st.state.isRemoteReset

def moveFromPendingCompleteLoop : Nat → M Unit
  | 0 => abort
  | n + 1 => do
    match ← popIf .complete isComplete with
    | none => pure ()
    | some k => do
      let s ← get
      M.when s.counts.role.isServer do
        let st ← resolve k
        if st.state.isRemoteReset then clearStreamQueue k
        else do
          let _ ← push .accept k
      moveFromPendingCompleteLoop n

def moveFromPendingComplete (k : Key) : M Unit := do
  let s ← get
  moveFromPendingCompleteLoop s.fuel
  M.when s.counts.role.isClient (update k Stream.notifyRecv)

/-! DATA. -/

/-- The part of `recv_data` after the stream was found to expect the frame. -/
def recvStreamData (frame : Data) (size : Nat) (k : Key) : M (Except ProtoError Unit) := do
  let st ← resolve k
  let reset (reason : Nat) : Except ProtoError Unit := .error (ProtoError.libraryReset st.id reason)
  if st.recvFlow.windowSize < size then pure (reset Reason.FLOW_CONTROL_ERROR)
  else
    match st.decContentLength frame.data.length with
    | none => pure (reset Reason.PROTOCOL_ERROR)
    | some st' => do
      update k fun _ => st'
      if frame.isEndStream && !st'.ensureContentLengthZero then pure (reset Reason.PROTOCOL_ERROR)
      else
        match if frame.isEndStream then st'.state.recvClose else .ok st'.state with
        | .error _ => pure (.error (ProtoError.libraryGoAway Reason.PROTOCOL_ERROR))
        | .ok state => do
          update k fun st => { st with state := state }
          match st.recvFlow.decWindow size with
          | .error e => pure (.error (ProtoError.libraryGoAway e))
          | .ok flow => do
            update k fun st =>
              { st with recvFlow := flow, currBufLen := st.currBufLen + size }
            pushBackRecv k (.data frame.data)
            let s ← get
            if st.currBufLen + size > s.recv.maxRecvBufLimit then do
              update k fun st => { st with isBufLimitReached := true }
              pure (reset Reason.INTERNAL_ERROR)
            else if frame.isEndStream then do
              moveFromPendingComplete k
              pure (.ok ())
            else do
              modify fun s => { s with recv.checkStreamWindowUpdate := some k }
              pure (.ok ())

def recvData (frame : Data) (k : Key) : M (Except ProtoError Unit) := do
  let size := frame.data.length
  assert (decide (size ≤ MAX_WINDOW_SIZE))
  match ← decConnectionWindow size with
  | .error e => pure (.error e)
  | .ok () => do
    modify fun s => { s with recv.checkConnectionWindowUpdate := true }
    let st ← resolve k
    if !st.state.isLocalError && !st.state.isRecvStreaming then
      pure (.error (ProtoError.libraryGoAway Reason.PROTOCOL_ERROR))
    else if st.state.isLocalError then pure (.ok ())
    else recvStreamData frame size k

/-! HEADERS. -/

/-- Nothing is parsed for the response to a HEAD request. -/
def parseContentLength (frame : Headers) (k : Key) : M (Except ProtoError Unit) := do
  let st ← resolve k
  if st.contentLength.isHead then pure (.ok ())
  else match HeaderPlz.valueOfKey frame.fields (HeaderPlz.constHeader .contentLength) with
  | none => pure (.ok ())
  | some value =>
    match parseU64 value with
    | none => pure (.error (ProtoError.libraryReset st.id Reason.PROTOCOL_ERROR))
    | some contentLength => do
      update k fun st => { st with contentLength := .remaining contentLength contentLength }
      if frame.isEndStream && decide (contentLength > 0)
          && frame.pseudo.status.all fun status =>
            HeaderPlz.statusToU16 status != 204 && HeaderPlz.statusToU16 status != 304 then
        pure (.error (ProtoError.libraryReset st.id Reason.PROTOCOL_ERROR))
      else pure (.ok ())

/-- `ret_frame_oversize_err`: a server answers an initial block with a 431. -/
def oversizeResponse (isInitial isServer : Bool) (id : Nat) : Option Headers :=
  if isServer && isInitial then
    some (Headers.new id (Pseudo.response HeaderPlz.REQUEST_HEADER_FIELDS_TOO_LARGE) HeaderPlz.mapNew).setEndStream
  else none

def isExtendedProtocolUsageCorrect (s : Inner) (pseudo : Pseudo) (isServer : Bool) : Bool :=
  !(pseudo.protocol.isSome && isServer && !s.recv.isExtendedConnectProtocolEnabled)

def areResponseHeadersInRequest (pseudo : Pseudo) (isServer : Bool) : Bool :=
  pseudo.status.isSome && isServer

/-- The part of `recv_headers` after the block was checked: the message is built and queued. -/
def deliverHeaders (frame : Headers) (k : Key) : M (Except RecvHeaderBlockError Unit) := do
  let s ← get
  if frame.isInformational then pure (.ok ())
  else
    match ← lift (s.counts.role.convertPollMessage frame.pseudo frame.fields frame.streamId) with
    | .error e => pure (.error (.state e))
    | .ok message => do
      pushBackRecv k (.headers message)
      if frame.isEndStream && s.counts.role.isClient then do
        update k Stream.notifyRecv
        pure (.ok ())
      else do
        let _ ← push .complete k
        M.when frame.isEndStream (moveFromPendingComplete k)
        pure (.ok ())

/-- The part of `recv_headers` after `recv_open`. -/
def checkedHeaders (frame : Headers) (isInitial : Bool) (k : Key) :
    M (Except RecvHeaderBlockError Unit) := do
  let st ← resolve k
  match ← parseContentLength frame k with
  | .error e => pure (.error (.state e))
  | .ok () => do
    let s ← get
    let isServer := s.counts.role.isServer
    if frame.isOverSize then pure (.error (.oversize (oversizeResponse isInitial isServer st.id)))
    else if !isExtendedProtocolUsageCorrect s frame.pseudo isServer
        || areResponseHeadersInRequest frame.pseudo isServer then
      pure (.error (.state (ProtoError.libraryReset st.id Reason.PROTOCOL_ERROR)))
    else deliverHeaders frame k

def recvHeaders (frame : Headers) (k : Key) : M (Except RecvHeaderBlockError Unit) := do
  let st ← resolve k
  match st.state.recvOpen frame with
  | .error e => pure (.error (.state e))
  | .ok (isInitial, state) => do
    update k fun st => { st with state := state }
    M.when isInitial do
      modify fun s =>
        { s with recv.lastProcessedId := max s.recv.lastProcessedId frame.streamId }
      incNumRecvStreams k
    checkedHeaders frame isInitial k

def recvTrailers (frame : Headers) (k : Key) : M (Except ProtoError Unit) := do
  let st ← resolve k
  match st.state.recvClose with
  | .error e => pure (.error e)
  | .ok state => do
    update k fun st => { st with state := state }
    if !st.ensureContentLengthZero then
      pure (.error (ProtoError.libraryReset st.id Reason.PROTOCOL_ERROR))
    else do
      pushBackRecv k (.trailers frame.fields)
      moveFromPendingComplete k
      pure (.ok ())

/-! RST_STREAM. -/

/-- A stream that is reset while it waits to be accepted counts against a limit of its own. -/
def countRemoteReset (k : Key) : M (Except ProtoError Unit) := do
  let st ← resolve k
  let s ← get
  if !st.isPendingAccept then pure (.ok ())
  else if s.counts.canIncNumRemoteResetStreams then do
    incNumRemoteResetStreams
    pure (.ok ())
  else
    pure (.error (ProtoError.libraryGoAwayData Reason.ENHANCE_YOUR_CALM (ascii "too_many_resets")))

def recvReset (frame : Reset) (k : Key) : M (Except ProtoError Unit) := do
  match ← countRemoteReset k with
  | .error e => pure (.error e)
  | .ok () => do
    update k fun st => { st with state := st.state.recvReset frame st.isPendingSend }
    moveFromPendingComplete k
    update k Stream.notifyRecv
    pure (.ok ())

def enqueueResetExpiration (k : Key) : M Unit := do
  let st ← resolve k
  let s ← get
  if !st.state.isLocalError || st.isPendingResetExpiration then pure ()
  else if s.counts.canIncNumResetStreams then do
    incNumResetStreams
    let _ ← push .resetExpire k

/-! SETTINGS. -/

def adjustWindow (f : FlowControl → Except Nat FlowControl) (_ : Unit) (k : Key) :
    M (Except ProtoError Unit) := do
  let st ← resolve k
  match f st.recvFlow with
  | .error e => pure (.error (ProtoError.libraryGoAway e))
  | .ok flow => do
    update k fun st => { st with recvFlow := flow }
    pure (.ok ())

def applyLocalSettings (settings : Settings) : M (Except ProtoError Unit) := do
  modify fun s =>
    { s with
      recv.isExtendedConnectProtocolEnabled :=
        settings.isExtendedConnectProtocolEnabled.getD s.recv.isExtendedConnectProtocolEnabled }
  match settings.initialWindowSize with
  | none => pure (.ok ())
  | some target => do
    let s ← get
    let old := s.recv.initStreamWindowSz
    set { s with recv.initStreamWindowSz := target }
    if target < old then tryForEach (adjustWindow (·.decWindow (old - target))) ()
    else if old < target then tryForEach (adjustWindow (·.incWindow (target - old))) ()
    else pure (.ok ())

def goAway (lastProcessedId : Nat) : M Unit := do
  let s ← get
  assert (decide (lastProcessedId ≤ s.recv.maxStreamId))
  set { s with recv.maxStreamId := lastProcessedId }

def handleError (err : ProtoError) (k : Key) : M Unit := do
  update k fun st => { st with state := st.state.handleError err }
  clearStreamQueue k
  update k Stream.notifyRecv

def canOpen (id : Nat) : M (Except ProtoError Bool) := do
  let s ← get
  assert s.recv.refused.isNone
  match s.counts.role.ensureCanOpen id, s.recv.nextStreamId with
  | .error e, _ => pure (.error e)
  | .ok (), none => pure (.error (ProtoError.libraryGoAway Reason.PROTOCOL_ERROR))
  | .ok (), some nextId =>
    if id < nextId then pure (.error (ProtoError.libraryGoAway Reason.PROTOCOL_ERROR))
    else do
      modify fun s => { s with recv.nextStreamId := StreamId.nextId id }
      if !s.counts.canIncNumRecvStreams then do
        modify fun s => { s with recv.refused := some id }
        pure (.ok false)
      else pure (.ok true)

def maybeResetNextStreamId (id : Nat) : M Unit := do
  let s ← get
  match s.recv.nextStreamId with
  | none => pure ()
  | some nextId => do
    debugAssert (StreamId.isServerInitiated id == StreamId.isServerInitiated nextId)
    M.when (id ≥ nextId) (set { s with recv.nextStreamId := StreamId.nextId id })

def recvEof (k : Key) : M Unit := update k fun st => { st with state := st.state.recvEof }.notifyRecv

/-! Clearing the queues. -/

def clearAll (n : Next) (isResetCounted : Bool) : M Unit :=
  clearQueue n fun k => transitionAfter k isResetCounted

def clearQueues (clearPendingAccept : Bool) : M Unit := do
  clearAll .resetExpire true
  clearAll .complete false
  M.when clearPendingAccept (clearAll .accept false)

/-- A stream in `pending_reset_expired` has `reset_at`, so the `expect` of the source never fails. -/
def isExpired (now resetDuration : Nat) (st : Stream) : Bool :=
  st.resetAt.any fun resetAt => decide (now - resetAt > resetDuration)

def clearExpiredLoop (now resetDuration : Nat) : Nat → M Unit
  | 0 => abort
  | m + 1 => do
    match ← popIf .resetExpire (isExpired now resetDuration) with
    | none => pure ()
    | some k => do
      transitionAfter k true
      clearExpiredLoop now resetDuration m

def clearExpiredResetStreams : M Unit := do
  let s ← get
  M.when (!s.recv.pendingResetExpired.isEmpty) (clearExpiredLoop s.now s.recv.resetDuration s.fuel)

/-! Messages. -/

/-- What `process_remaining_frames` makes of the queued events: body and trailers. `none` is its
`unreachable!`; whether the allocation of the body panics is a matter of `bodyCapacity` alone. -/
def processRemainingFrames (events : List RecvEvent) : Option (Option Bytes × Option HeaderMap) :=
  events.foldlM (fun acc e =>
    match e with
    | .headers _ => none
    | .data payload => some (some (acc.1.getD [] ++ payload), acc.2)
    | .trailers fields => some (acc.1, some fields)) (none, none)

/-- `isize::MAX` on a 64-bit target, above which `BytesMut::with_capacity` panics. -/
def ISIZE_MAX : Nat := 2 ^ 63 - 1

def asUsize (n : Nat) : Nat := n % 2 ^ 64

/-- The capacity that `process_remaining_frames` asks for at the first DATA: the content length, or
twice the payload. -/
def bodyCapacity (st : Stream) : List RecvEvent → Option Nat
  | [] => none
  | .data payload :: _ =>
    some ((st.contentLengthTotal.map asUsize).getD (asUsize (payload.length * 2)))
  | _ :: rest => bodyCapacity st rest

def takeRequest (k : Key) : M Request := do
  match ← drainRecv k with
  | .headers (.server request) :: rest => do
    let (body, trailers) ← lift (processRemainingFrames rest)
    pure { request with body := body, trailers := trailers }
  | _ => abort

/-- `none` when the queue is empty. The `abort`s are the `unreachable!`s, here and in
`process_remaining_frames`; see `bodyCapacity` for the allocation of the body. -/
def takeResponse (k : Key) : M (Option Response) := do
  match ← drainRecv k with
  | [] => pure none
  | .headers (.client response) :: rest => do
    let (body, trailers) ← lift (processRemainingFrames rest)
    pure (some { response with body := body, trailers := trailers })
  | _ => abort

inductive OpError : Type
  | proto (e : ProtoError)
  | user (e : UserError)

inductive PollResponse : Type
  | pending
  | ready (response : Response)
  | failed (response : Option Response) (err : OpError)

def pollResponse (waker : Waker) (k : Key) : M PollResponse := do
  let st ← resolve k
  if st.state.isRecvEndStream then do
    match ← takeResponse k with
    | some response => pure (.ready response)
    | none => pure (.failed none (.proto (ProtoError.libraryReset st.id Reason.PROTOCOL_ERROR)))
  else
    match st.state.ensureRecvOpen with
    | .error e => do
      let response ← takeResponse k
      pure (.failed response (if st.isBufLimitReached then .user .bufferLimitExceeded else .proto e))
    | .ok _ => do
      update k fun st => { st with recvTask := some waker }
      pure .pending

end Recv

end TwoPlz
