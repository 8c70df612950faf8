import TwoPlz.Streams.Refs

/-! The connection as the streams layer sees it (`connection.rs`, `go_away.rs`): which calls a run
makes on the shared state, and what becomes of their errors.  A step is one locked section of the
source, so that the steps of a run interleave as the threads do. -/

namespace TwoPlz

structure ConnectionConfig where
  initialConnectionWindowSize : Option Nat
  localMaxErrorResetStreams : Option Nat
  localResetStreamMax : Nat
  remoteResetStreamMax : Nat
  resetStreamDuration : Nat
  localSettings : Settings
  peerSettings : Settings
  maxRecvBufferSize : Nat
  spaTracker : Option SpaTracker

def Counts.new (role : Role) (config : ConnectionConfig) : Counts where
  role := role
  maxSendStreams := config.peerSettings.maxConcurrentStreams.getD USIZE_MAX
  numSendStreams := 0
  maxRecvStreams := config.localSettings.maxConcurrentStreams.getD USIZE_MAX
  numRecvStreams := 0
  maxLocalResetStreams := config.localResetStreamMax
  numLocalResetStreams := 0
  maxRemoteResetStreams := config.remoteResetStreamMax
  numRemoteResetStreams := 0
  maxLocalErrorResetStreams := config.localMaxErrorResetStreams
  numLocalErrorResetStreams := 0

def Recv.new (config : ConnectionConfig) (role : Role) : Recv where
  buffer := 0
  flow := FlowControl.new (config.initialConnectionWindowSize.getD DEFAULT_INITIAL_WINDOW_SIZE)
  initStreamWindowSz := DEFAULT_INITIAL_WINDOW_SIZE
  lastProcessedId := 0
  maxStreamId := StreamId.max
  nextStreamId := some (if role.isServer then 1 else 2)
  pendingAccept := Queue.new
  pendingComplete := Queue.new
  pendingResetExpired := Queue.new
  refused := none
  resetDuration := config.resetStreamDuration
  isExtendedConnectProtocolEnabled := false
  checkConnectionWindowUpdate := false
  checkStreamWindowUpdate := none
  maxRecvBufLimit := config.maxRecvBufferSize

/-- `next_stream_id` starts at 1 for both roles. -/
def Send.new (config : ConnectionConfig) : Send where
  initStreamWindowSz := config.peerSettings.initialWindowSize.getD DEFAULT_INITIAL_WINDOW_SIZE
  flow := FlowControl.new DEFAULT_INITIAL_WINDOW_SIZE
  lastOpenedId := 0
  maxStreamId := StreamId.max
  nextStreamId := some 1
  pendingSend := Queue.new
  pendingCapacity := Queue.new
  pendingOpen := Queue.new
  isPushEnabled := config.peerSettings.isPushEnabled.getD false
  isExtendedConnectProtocolEnabled :=
    config.peerSettings.isExtendedConnectProtocolEnabled.getD false
  spaTracker := config.spaTracker

structure GoingAway where
  lastProcessedId : Nat
  reason : Nat
  deriving DecidableEq

structure GoAwayHandler where
  closeNow : Bool
  goingAway : Option GoingAway
  isUserInitiated : Bool
  pending : Option GoAway

inductive ConnectionState : Type
  | opened
  | closing (reason : Nat) (initiator : Initiator)
  deriving DecidableEq

variable [HeaderPlz] [StoreCrates]

def Inner.new (role : Role) (config : ConnectionConfig) (debugAssertions : Bool) : Inner where
  counts := Counts.new role config
  recv := Recv.new config role
  send := Send.new config
  task := none
  connError := none
  store := Store.new
  refs := 1
  sendBuffer := 0
  now := 0
  debugAssertions := debugAssertions

/-- `result` is a result of `poll2` that `handle_poll2_result` has yet to see, `senders` the number
of `SendRequest` handles, and `isDone` holds once `poll` has returned or the connection was
dropped. -/
structure Connection where
  streams : Inner
  goAway : GoAwayHandler
  state : ConnectionState
  error : Option GoAway
  isSpa : Bool
  shutdownPing : Bool
  result : Option (Except ProtoError Unit)
  senders : Nat
  isDone : Bool

inductive Event : Type
  -- the handles
  | sendRequest (request : Request)
  | sendResponse (k : Key) (response : Response)
  | sendReset (k : Key) (reason : Nat)
  | cloneRef (k : Key)
  | dropRef (k : Key)
  | pollResponse (k : Key) (waker : Waker)
  | takePartialResponse (k : Key)
  | cloneStreams
  | dropStreams
  -- the owner of the connection
  | accept
  | abruptShutdown (reason : Nat)
  | gracefulShutdown
  | dropConnection
  -- frames from the peer
  | recvData (frame : Data)
  | recvHeaders (frame : Headers)
  | recvReset (frame : Reset)
  | recvGoAway (frame : GoAway)
  | recvWindowUpdate (frame : WindowUpdate)
  | recvShutdownPong
  | recvError (e : ProtoError)
  | recvEof
  -- the rest of `poll`
  | applyRemoteSettings (settings : Settings)
  | applyLocalSettings (settings : Settings)
  | sendPendingGoAway
  | sendPendingRefusal
  | pollWindowUpdate (ready : Bool)
  | clearExpiredResetStreams
  | pollComplete (maxFrameSize : Nat)
  | parkTask (waker : Waker)
  | fillFrames (flushed : Bool)
  | goAwayIfIdle
  | handleResult
  | tick (duration : Nat)

namespace GoAwayHandler

/-- `none` is the failed assertion on the order of the stream ids. -/
def enqueueGoAway (g : GoAwayHandler) (f : GoAway) : Option GoAwayHandler :=
  if g.goingAway.any fun going => going.lastProcessedId < f.lastStreamId then none
  else some { g with goingAway := some ⟨f.lastStreamId, f.errorCode⟩, pending := some f }

def goAwayNow (g : GoAwayHandler) (f : GoAway) : Option GoAwayHandler :=
  let g := { g with closeNow := true }
  if g.goingAway = some ⟨f.lastStreamId, f.errorCode⟩ then some g else g.enqueueGoAway f

def shouldCloseOnIdle (g : GoAwayHandler) : Bool :=
  !g.closeNow && g.goingAway.any fun going => going.lastProcessedId != StreamId.max

end GoAwayHandler

/-! The SPA burst of `spa.rs`. -/

def fillFrame (id : Nat) : M Unit := do
  let k ← do M.lift ((← get).store.find id)
  match ← M.popFrontSend k with
  | none => M.abort
  | some (.data _) => Send.sendClose k
  | some _ => pure ()

def fillFrames (flushed : Bool) : M Unit := do
  let s ← get
  match s.send.spaTracker with
  | none => pure ()
  | some spa =>
    if spa.pendingStreamWindowUpdate.isSome || !s.send.pendingSend.isEmpty
        || !s.send.pendingCapacity.isEmpty || !s.send.pendingOpen.isEmpty then pure ()
    else do
      (spa.pendingSpa.mergeSort (· ≤ ·)).forM fillFrame
      if flushed then modify fun s => { s with send.spaTracker := none }

namespace Connection

def new (role : Role) (config : ConnectionConfig) (debugAssertions : Bool) : Connection where
  streams :=
    { Inner.new role config debugAssertions with refs := if role.isClient then 2 else 1 }
  goAway := ⟨false, none, false, none⟩
  state := .opened
  error := none
  isSpa := config.spaTracker.isSome
  shutdownPing := false
  result := none
  senders := if role.isClient then 1 else 0
  isDone := false

def holds (c : Connection) (k : Key) : Bool := (c.streams.get? k).any fun st => decide (st.refCount > 0)

def isPolling (c : Connection) : Bool := c.state == .opened && c.result.isNone && !c.isDone

def canRecv (c : Connection) : Bool := c.isPolling && !c.goAway.closeNow && c.goAway.pending.isNone

/-- Runs a function of the streams layer and keeps its result for the caller to ignore. -/
def run {α : Type} (c : Connection) (m : M α) : Option Connection :=
  (m c.streams).map fun r => { c with streams := r.2 }

/-- Runs the handler of a frame and keeps its error as the result of `poll2`. -/
def recv (c : Connection) (m : M (Except ProtoError Unit)) : Option Connection :=
  (m c.streams).map fun r =>
    { c with
      streams := r.2
      result := match r.1 with
        | .ok () => none
        | .error e => some (.error e) }

def goAwayNow (c : Connection) (reason : Nat) (data : Bytes) : Option Connection :=
  (c.goAway.goAwayNow ⟨c.streams.recv.lastProcessedId, reason, data⟩).map fun g =>
    { c with goAway := g }

def goAwayGraceful (c : Connection) (id : Nat) : Option Connection := do
  let c ← c.run (Recv.goAway id)
  let g ← c.goAway.enqueueGoAway ⟨id, Reason.NO_ERROR, []⟩
  some { c with goAway := g }

def poll2GoAway (c : Connection) (data : Bytes) (reason : Nat) (initiator : Initiator) :
    Option Connection :=
  if c.goAway.goingAway.any fun going => going.reason == reason then
    some { c with state := .closing reason initiator }
  else do
    let c ← c.run (Inner.handleError (.goAway data reason initiator))
    c.goAwayNow reason data

def resetResult (c : Connection) (id reason : Nat) : Option Connection := do
  let (res, streams) ← Inner.sendReset id reason c.streams
  match res with
  | .ok () => some { c with streams := streams }
  | .error e => ({ c with streams := streams }).poll2GoAway e.debugData e.reason .library

def handlePoll2Result (c : Connection) : Except ProtoError Unit → Option Connection
  | .ok () => some { c with state := .closing Reason.NO_ERROR .library }
  | .error (.goAway data reason initiator) => c.poll2GoAway data reason initiator
  | .error (.reset id reason initiator) =>
    if c.streams.debugAssertions && initiator != .library then none else c.resetResult id reason
  | .error (.io kind inner) => do
    let c ← c.run (Inner.handleError (.io kind inner))
    some { c with isDone := true }

/-- `poll_go_away` with the check that follows it in `poll2`. -/
def sendPendingGoAway (c : Connection) : Option Connection :=
  let reason := (c.goAway.pending.map (·.errorCode)).orElse fun _ =>
    if c.goAway.closeNow then c.goAway.goingAway.map (·.reason) else none
  let c := { c with goAway.pending := none }
  match reason with
  | none => some c
  | some reason =>
    if c.goAway.closeNow then
      some { c with
        result := some (if c.goAway.isUserInitiated then .ok ()
          else .error (ProtoError.libraryGoAway reason)) }
    else if c.streams.debugAssertions && reason != Reason.NO_ERROR then none
    else some c

def canGoAway (c : Connection) : Bool :=
  (c.error.isSome || c.goAway.shouldCloseOnIdle) && !c.streams.counts.hasStreams

/-- `poll` ends with `can_go_away`; that of a client starts with
`maybe_close_connection_if_no_streams`, whatever the state of the connection. -/
def isIdle (c : Connection) : Bool :=
  c.state == .opened && c.canGoAway ||
    c.streams.counts.role.isClient && !c.streams.counts.hasStreams && decide (c.streams.refs ≤ 1)

/-- The state after an event that the current state allows; `none` for one that it does not, and
for a panic. -/
def next (c : Connection) : Event → Option Connection
  | .sendRequest request =>
    if c.senders > 0 then c.run (Streams.sendRequest request c.isSpa) else none
  | .sendResponse k response =>
    if c.holds k && c.streams.counts.role.isServer then c.run (StreamRef.sendResponse k response)
    else none
  | .sendReset k reason =>
    if c.holds k && c.streams.counts.role.isServer then c.run (StreamRef.sendReset k reason)
    else none
  | .cloneRef k => if c.holds k then c.run (OpaqueStreamRef.clone k) else none
  | .dropRef k => if c.holds k then c.run (OpaqueStreamRef.drop k) else none
  | .pollResponse k waker =>
    if c.holds k && c.streams.counts.role.isClient then
      c.run (OpaqueStreamRef.pollResponse k waker)
    else none
  | .takePartialResponse k =>
    if c.holds k && c.streams.counts.role.isClient then
      c.run (OpaqueStreamRef.takePartialResponse k)
    else none
  | .cloneStreams =>
    if c.senders > 0 then
      some { c with streams.refs := c.streams.refs + 1, senders := c.senders + 1 }
    else none
  | .dropStreams =>
    if c.senders > 0 then
      some { c with
        streams.refs := c.streams.refs - 1
        streams.task := if c.streams.refs == 2 then none else c.streams.task
        senders := c.senders - 1 }
    else none
  | .accept =>
    if !c.isDone && c.streams.counts.role.isServer then c.run Streams.accept else none
  | .abruptShutdown reason =>
    if !c.isDone && c.streams.counts.role.isServer then do
      let c ← ({ c with goAway.isUserInitiated := true }).goAwayNow reason []
      c.run (Inner.handleError (ProtoError.userGoAway reason))
    else none
  | .gracefulShutdown =>
    if !c.isDone && c.streams.counts.role.isServer then
      if c.goAway.goingAway.isSome then some c
      else (c.goAwayGraceful StreamId.max).map fun c => { c with shutdownPing := true }
    else none
  | .dropConnection => do
    let c ← c.run (Inner.recvEof true)
    some { c with isDone := true }
  | .recvData frame => if c.canRecv then c.recv (Inner.recvData frame) else none
  | .recvHeaders frame => if c.canRecv then c.recv (Inner.recvHeaders frame) else none
  | .recvReset frame => if c.canRecv then c.recv (Inner.recvReset frame) else none
  | .recvGoAway frame =>
    if c.canRecv then
      (c.recv (Inner.recvGoAway frame)).map fun c =>
        if c.result.isNone then { c with error := some frame } else c
    else none
  | .recvWindowUpdate frame => if c.canRecv then c.recv (Inner.recvWindowUpdate frame) else none
  | .recvShutdownPong =>
    if c.canRecv && c.shutdownPing then
      (c.goAwayGraceful c.streams.recv.lastProcessedId).map fun c => { c with shutdownPing := false }
    else none
  | .recvError e => if c.canRecv then some { c with result := some (.error e) } else none
  | .recvEof =>
    if c.canRecv then
      (c.run (Inner.recvEof false)).map fun c => { c with result := some (.ok ()) }
    else none
  | .applyRemoteSettings settings =>
    if c.canRecv then c.recv (Streams.applyRemoteSettings settings) else none
  | .applyLocalSettings settings =>
    if c.canRecv then c.recv (Recv.applyLocalSettings settings) else none
  | .sendPendingGoAway => if c.isPolling then c.sendPendingGoAway else none
  | .sendPendingRefusal =>
    if c.isPolling then some { c with streams.recv.refused := none } else none
  | .pollWindowUpdate ready => if c.isPolling then c.run (Inner.pollWindowUpdate ready) else none
  | .clearExpiredResetStreams =>
    if c.isPolling then c.run Recv.clearExpiredResetStreams else none
  | .pollComplete maxFrameSize =>
    if c.isPolling then c.run (Send.pollCompleteRound maxFrameSize) else none
  | .parkTask waker =>
    if c.isPolling then some { c with streams.task := some waker } else none
  | .fillFrames flushed =>
    if c.isPolling && c.isSpa then c.run (TwoPlz.fillFrames flushed) else none
  | .goAwayIfIdle =>
    if c.result.isNone && !c.isDone && c.isIdle then c.goAwayNow Reason.NO_ERROR [] else none
  | .handleResult => do
    let result ← c.result
    if c.isDone then none else ({ c with result := none }).handlePoll2Result result
  | .tick duration => some { c with streams.now := c.streams.now + duration }

def after (c : Connection) (events : List Event) : Option Connection := events.foldlM next c

def increment (c : Connection) : Event → Option Nat
  | .pollWindowUpdate ready =>
    if c.isPolling then (Inner.pollWindowUpdate ready c.streams).bind (·.1.1) else none
  | _ => none

/-- A DATA frame as the codec reads it off the wire. -/
def recvWireData (c : Connection) (id : Nat) (flags : UInt8) (payload : Bytes) : Option Connection :=
  match Data.load id flags payload with
  | some frame => c.next (.recvData frame)
  | none => c.next (.recvError (ProtoError.libraryGoAway Reason.PROTOCOL_ERROR))

end Connection

end TwoPlz
