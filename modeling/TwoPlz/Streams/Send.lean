import TwoPlz.Streams.Inner

namespace TwoPlz

namespace SpaTracker

def addPendingSpa (t : SpaTracker) (id : Nat) : SpaTracker := { t with pendingSpa := t.pendingSpa ++ [id] }

def addPendingStreamUpdate (t : SpaTracker) (id : Nat) : SpaTracker :=
  { t with pendingStreamWindowUpdate := some (t.pendingStreamWindowUpdate.getD [] ++ [id]) }

def removePendingStreamUpdate (t : SpaTracker) (id : Nat) : SpaTracker :=
  { t with
    pendingStreamWindowUpdate :=
      (t.pendingStreamWindowUpdate.map (·.filter (· != id))).filter (!·.isEmpty) }

end SpaTracker

variable [HeaderPlz] [StoreCrates]

namespace Send

open M Counts

def modifySpa (f : SpaTracker → SpaTracker) : M Unit :=
  modify fun s => { s with send.spaTracker := s.send.spaTracker.map f }

def scheduleSend (k : Key) : M Unit := do
  let st ← resolve k
  M.when st.isSendReady do
    let _ ← push .send k
    wake

def queueFrame (frame : Frame) (k : Key) : M Unit := do
  pushBackSend k frame
  scheduleSend k

def checkHeaders (fields : HeaderMap) : Except UserError Unit :=
  if HeaderPlz.hasKey fields (HeaderPlz.constHeader .connection)
      || HeaderPlz.hasKey fields (HeaderPlz.constHeader .transferEncoding)
      || HeaderPlz.hasKey fields (HeaderPlz.constHeader .upgrade)
      || HeaderPlz.hasKey fields (ascii "keep-alive")
      || HeaderPlz.hasKey fields (ascii "proxy-connection") then
    .error .malformedHeaders
  else if (HeaderPlz.valueOfKey fields (HeaderPlz.constHeader .te)).any (· != ascii "trailers") then
    .error .malformedHeaders
  else .ok ()

def sendHeaders (frame : Headers) (k : Key) : M (Except UserError Unit) :=
  match checkHeaders frame.fields with
  | .error e => pure (.error e)
  | .ok () => do
    let st ← resolve k
    match st.state.sendOpen frame.isEndStream with
    | .error e => pure (.error e)
    | .ok state => do
      update k fun st => { st with state := state }
      let pendingOpen ← isLocalInit frame.streamId
      M.when pendingOpen do
        let _ ← push .opening k
      queueFrame (.headers frame) k
      M.when pendingOpen wake
      pure (.ok ())

def clearStreamQueue (k : Key) : M Unit := do
  drainSend k
  update k fun st => { st with remainingDataLen := none }

/-- Moves connection window to a stream: `connection_window_allocated += allocated` and
`let _ = self.flow.dec_window(allocated)`. -/
def allocate (k : Key) (allocated : Nat) : M Unit := do
  let st ← resolve k
  let total ← addU32 st.connectionWindowAllocated allocated
  update k fun st => { st with connectionWindowAllocated := total }
  modify fun s => { s with send.flow := s.send.flow.decWindowOrKeep allocated }

def tryAssignCapacity (k : Key) : M Unit := do
  let st ← resolve k
  let s ← get
  let streamAvailable := st.sendFlow.available
  if streamAvailable == 0 then pure ()
  else if s.send.flow.available == 0 then do
    let _ ← push .sendCapacity k
  else
    match st.remainingDataLen with
    | none => pure ()
    | some rem => do
      let remaining := if s.send.spaTracker.isSome then rem - 1 else rem
      let allocated := min (min s.send.flow.available streamAvailable) (remaining % 2 ^ 32)
      let _ ← push .send k
      if allocated == 0 then pure () else allocate k allocated

def assignConnectionCapacityLoop : Nat → M Unit
  | 0 => abort
  | n + 1 => do
    let s ← get
    if s.send.flow.available > 0 then
      match ← pop .sendCapacity with
      | none => pure ()
      | some k => do
        let st ← resolve k
        if !st.state.isSendStreaming || st.remainingDataLen.isNone then
          assignConnectionCapacityLoop n
        else do
          transition k (tryAssignCapacity k)
          assignConnectionCapacityLoop n
    else pure ()

def assignConnectionCapacity : M Unit := do
  let s ← get
  assignConnectionCapacityLoop s.fuel

def recvConnectionWindowUpdate (inc : Nat) : M (Except Nat Unit) := do
  let s ← get
  match s.send.flow.incWindow inc with
  | .error e => pure (.error e)
  | .ok flow => do
    set { s with send.flow := flow }
    assignConnectionCapacity
    pure (.ok ())

/-- What the stream holds goes back to the connection; its own field keeps its value. -/
def reclaimAllCapacity (k : Key) : M Unit := do
  let st ← resolve k
  M.when (st.connectionWindowAllocated > 0) do
    let _ ← recvConnectionWindowUpdate st.connectionWindowAllocated

def sendReset (reason : Nat) (initiator : Initiator) (k : Key) : M Unit := do
  let st ← resolve k
  if st.state.isReset then pure ()
  else do
    update k fun st => st.setReset reason initiator
    if st.state.isClosed && st.pendingSend.isEmpty then pure ()
    else do
      clearStreamQueue k
      queueFrame (.reset ⟨st.id, reason⟩) k
      reclaimAllCapacity k

def scheduleImplicitReset (k : Key) (reason : Nat) : M Unit := do
  let st ← resolve k
  if st.state.isClosed then pure ()
  else do
    update k fun st => { st with state := .closed (.scheduledLibraryReset reason) }
    reclaimAllCapacity k
    scheduleSend k

/-! SETTINGS. -/

def recvStreamWindowUpdate (sz : Nat) (k : Key) : M (Except Nat Unit) := do
  let st ← resolve k
  if st.state.isSendClosed then pure (.ok ())
  else do
    modifySpa (·.removePendingStreamUpdate st.id)
    match st.sendFlow.incWindow sz with
    | .error e => do
      sendReset Reason.FLOW_CONTROL_ERROR .library k
      pure (.error e)
    | .ok flow => do
      update k fun st => { st with sendFlow := flow }
      tryAssignCapacity k
      pure (.ok ())

/-- One stream of the loop that decreases the send windows; `totalReclaimed` is threaded through. -/
def decreaseWindow (dec : Nat) (totalReclaimed : Nat) (k : Key) : M (Except ProtoError Nat) := do
  let st ← resolve k
  if st.state.isSendClosed then pure (.ok totalReclaimed)
  else
    match st.sendFlow.decWindow dec with
    | .error e => pure (.error (ProtoError.libraryGoAway e))
    | .ok flow => do
      update k fun st => { st with sendFlow := flow }
      if st.connectionWindowAllocated > flow.available then do
        let extra := st.connectionWindowAllocated - flow.available
        let total ← addU32 totalReclaimed extra
        update k fun st => { st with connectionWindowAllocated := st.connectionWindowAllocated - extra }
        pure (.ok total)
      else pure (.ok totalReclaimed)

def increaseWindow (inc : Nat) (_ : Unit) (k : Key) : M (Except ProtoError Unit) := do
  let res ← recvStreamWindowUpdate inc k
  pure (res.mapError ProtoError.libraryGoAway)

def adjustWindows (old new : Nat) : M (Except ProtoError Unit) :=
  if new < old then do
    match ← tryForEach (decreaseWindow (old - new)) 0 with
    | .error e => pure (.error e)
    | .ok totalReclaimed => do
      M.when (totalReclaimed > 0) do
        let _ ← recvConnectionWindowUpdate totalReclaimed
      pure (.ok ())
  else if old < new then tryForEach (increaseWindow (new - old)) ()
  else pure (.ok ())

def applyInitialWindow (new : Nat) : M (Except ProtoError Unit) := do
  let s ← get
  set { s with send.initStreamWindowSz := new }
  adjustWindows s.send.initStreamWindowSz new

def applyRemoteSettings (settings : Settings) : M (Except ProtoError Unit) := do
  modify fun s =>
    { s with
      send.isPushEnabled := settings.isPushEnabled.getD s.send.isPushEnabled
      send.isExtendedConnectProtocolEnabled :=
        settings.isExtendedConnectProtocolEnabled.getD s.send.isExtendedConnectProtocolEnabled }
  match settings.initialWindowSize with
  | some new => applyInitialWindow new
  | none => pure (.ok ())

def recvGoAway (lastStreamId : Nat) : M (Except ProtoError Unit) := do
  let s ← get
  if lastStreamId > s.send.maxStreamId then
    pure (.error (ProtoError.libraryGoAway Reason.PROTOCOL_ERROR))
  else do
    set { s with send.maxStreamId := lastStreamId }
    pure (.ok ())

def ensureNextStreamId (s : Inner) : Except UserError Nat :=
  match s.send.nextStreamId with
  | some id => .ok id
  | none => .error .overflowedStreamId

def open' : M (Except UserError Nat) := do
  let s ← get
  match ensureNextStreamId s with
  | .error e => pure (.error e)
  | .ok streamId => do
    set { s with send.nextStreamId := StreamId.nextId streamId }
    pure (.ok streamId)

def handleError (k : Key) : M Unit := do
  clearStreamQueue k
  reclaimAllCapacity k

def maybeResetNextStreamId (id : Nat) : M Unit := do
  let s ← get
  match s.send.nextStreamId with
  | none => pure ()
  | some nextId => do
    debugAssert (StreamId.isServerInitiated id == StreamId.isServerInitiated nextId)
    M.when (id ≥ nextId) (set { s with send.nextStreamId := StreamId.nextId id })

/-! Clearing the queues. -/

def clearPendingCapacity : M Unit := clearQueue .sendCapacity fun k => transition k (pure ())

def clearPendingSend : M Unit :=
  clearQueue .send fun k => do
    let st ← resolve k
    let isPendingReset := st.isPendingResetExpiration
    M.whenSome st.state.getScheduledReset fun reason =>
      update k fun st => st.setReset reason .library
    transitionAfter k isPendingReset

def clearPendingOpen : M Unit :=
  clearQueue .opening fun k => do
    let st ← resolve k
    transitionAfter k st.isPendingResetExpiration

def clearQueues : M Unit := do
  clearPendingCapacity
  clearPendingSend
  clearPendingOpen

/-! Polling. -/

def popPendingOpen : M (Option Key) := do
  let s ← get
  if s.counts.canIncNumSendStreams then
    match ← pop .opening with
    | some k => do
      incNumSendStreams k
      pure (some k)
    | none => pure none
  else pure none

def tryAllocateStreamFlow (k : Key) (rem available : Nat) : M Bool := do
  let st ← resolve k
  let s ← get
  if !(st.connectionWindowAllocated == 0 && decide (rem > 0)) then pure true
  else
    let allocated := min (min s.send.flow.available available) (rem % 2 ^ 32)
    if allocated == 0 then pure false
    else do
      allocate k allocated
      pure true

/-- The end of the local half: `none` of `State.sendClose` is a panic. -/
def sendClose (k : Key) : M Unit := do
  let st ← resolve k
  let state ← lift st.state.sendClose
  update k fun st => { st with state := state }

def setDataFrameEos (k : Key) (toRet : Data) (remaining : Option Data) : M Data := do
  let st ← resolve k
  if st.remainingDataLen.isNone then
    if st.pendingSend.isEmpty then do
      sendClose k
      pure (toRet.setEndStream true)
    else do
      update k fun st => { st with isSendingTrailer := true }
      pure toRet
  else
    match remaining with
    | some frame => do
      pushFrontSend k (.data frame)
      pure toRet
    | none => pure toRet

/-- `rem == 0` in `pop_data_frame`. -/
def popEmptyDataFrame (k : Key) (frame : Data) : M (Option Frame) := do
  update k fun st => { st with remainingDataLen := none }
  let s ← get
  let st ← resolve k
  if s.send.spaTracker.isSome then do
    modifySpa (·.addPendingSpa st.id)
    pushFrontSend k (.data frame)
    pure none
  else do
    let toRet ← setDataFrameEos k frame none
    pure (some (.data toRet))

/-- The rest of `pop_data_frame` once there is capacity: `len` bytes are consumed and split off. -/
def emitData (k : Key) (rem maxFrameSize streamAvailable : Nat) (frame : Data) :
    M (Option Frame) := do
  let st ← resolve k
  let s ← get
  let len := min (min (min rem maxFrameSize % 2 ^ 32) streamAvailable) st.connectionWindowAllocated
  let len := if s.send.spaTracker.isSome && len == rem then len - 1 else len
  update k fun st =>
    { st with
      sendFlow := st.sendFlow.decWindowOrKeep len
      connectionWindowAllocated := st.connectionWindowAllocated - len
      remainingDataLen := if rem - len > 0 then some (rem - len) else none }
  assert (decide (len ≤ frame.data.length))
  let dataFrame := Data.new st.id (frame.data.take len)
  let toRet ← setDataFrameEos k dataFrame (some { frame with data := frame.data.drop len })
  pure (some (.data toRet))

def popDataFrame (k : Key) (maxFrameSize : Nat) (frame : Data) : M (Option Frame) := do
  let st ← resolve k
  match st.remainingDataLen with
  | none => pure none
  | some rem =>
    if rem == 0 then popEmptyDataFrame k frame
    else do
      let streamAvailable := st.sendFlow.available
      if streamAvailable == 0 then do
        modifySpa (·.addPendingStreamUpdate st.id)
        pushFrontSend k (.data frame)
        pure none
      else
        match ← tryAllocateStreamFlow k rem streamAvailable with
        | false => do
          pushFrontSend k (.data frame)
          let _ ← push .sendCapacity k
          pure none
        | true => emitData k rem maxFrameSize streamAvailable frame

/-- The frame to send for a stream that was popped off `pending_send`; `none` makes the loop of
`pop_frame` continue. -/
def nextFrame (k : Key) (maxFrameSize : Nat) (isPendingReset : Bool) : M (Option Frame) := do
  match ← popFrontSend k with
  | some (.data frame) => popDataFrame k maxFrameSize frame
  | some (.headers header) => do
    let st ← resolve k
    M.when st.remainingDataLen.isSome (tryAssignCapacity k)
    M.when st.isSendingTrailer (sendClose k)
    pure (some (.headers header))
  | some (.reset frame) => pure (some (.reset frame))
  | none => do
    let st ← resolve k
    match st.state.getScheduledReset with
    | some reason => do
      update k fun st => st.setReset reason .library
      pure (some (.reset ⟨st.id, reason⟩))
    | none => do
      debugAssert st.state.isClosed
      transitionAfter k isPendingReset
      pure none

/-- The end of an iteration that has a frame: the stream is queued again if it has more to send. -/
def requeue (k : Key) : M Unit := do
  let st ← resolve k
  let s ← get
  M.when st.state.isIdle (set { s with send.lastOpenedId := st.id })
  if s.send.spaTracker.isSome && st.remainingDataLen == some 1 then do
    debugAssert (!st.pendingSend.isEmpty)
    modifySpa (·.addPendingSpa st.id)
  else if !st.pendingSend.isEmpty || st.state.isScheduledReset then do
    let _ ← push .send k

def popFrameLoop (maxFrameSize : Nat) : Nat → M (Option Frame)
  | 0 => abort
  | n + 1 => do
    match ← pop .send with
    | none => pure none
    | some k => do
      let st ← resolve k
      let isPendingReset := st.isPendingResetExpiration
      M.when (st.state.isRemoteReset || st.state.getScheduledReset == some Reason.CANCEL)
        (clearStreamQueue k)
      match ← nextFrame k maxFrameSize isPendingReset with
      | none => popFrameLoop maxFrameSize n
      | some frame => do
        requeue k
        transitionAfter k isPendingReset
        pure (some frame)

def popFrame (maxFrameSize : Nat) : M (Option Frame) := do
  let s ← get
  popFrameLoop maxFrameSize s.fuel

def pollCompleteRound (maxFrameSize : Nat) : M (Option Frame) := do
  let opened ← popPendingOpen
  M.whenSome opened fun k => do
    let _ ← pushFront .send k
  popFrame maxFrameSize

end Send

end TwoPlz
