import TwoPlz.Frame

namespace TwoPlz

variable [HeaderPlz]

inductive Peer : Type
  | awaitingHeaders | streaming
  deriving DecidableEq

inductive Cause : Type
  | endStream
  | error (e : ProtoError)
  | scheduledLibraryReset (reason : Nat)
  deriving DecidableEq

inductive State : Type
  | idle
  | reservedLocal
  | reservedRemote
  | opened (localPeer remotePeer : Peer)
  | halfClosedLocal (peer : Peer)
  | halfClosedRemote (peer : Peer)
  | closed (cause : Cause)
  deriving DecidableEq

namespace State

def sendOpen (st : State) (eos : Bool) : Except UserError State :=
  match st with
  | .idle => .ok (if eos then .halfClosedLocal .awaitingHeaders else .opened .streaming .awaitingHeaders)
  | .opened .awaitingHeaders remote =>
    .ok (if eos then .halfClosedLocal remote else .opened .streaming remote)
  | .halfClosedRemote .awaitingHeaders | .reservedLocal =>
    .ok (if eos then .closed .endStream else .halfClosedRemote .streaming)
  | _ => .error .unexpectedFrameType

/-- The remote half after a header block: 1xx blocks leave it waiting. -/
def recvPeer (frame : Headers) : Peer :=
  if frame.isInformational then .awaitingHeaders else .streaming

/-- Returns whether the frame is the first one of the stream, with the new state. -/
def recvOpen (st : State) (frame : Headers) : Except ProtoError (Bool × State) :=
  let eos := frame.isEndStream
  match st with
  | .idle =>
    .ok (true, if eos then .halfClosedRemote .awaitingHeaders
      else .opened .awaitingHeaders (recvPeer frame))
  | .reservedRemote =>
    .ok (true, if eos then .closed .endStream
      else if frame.isInformational then .reservedRemote else .halfClosedLocal .streaming)
  | .opened localPeer .awaitingHeaders =>
    .ok (false, if eos then .halfClosedRemote localPeer else .opened localPeer (recvPeer frame))
  | .halfClosedLocal .awaitingHeaders =>
    .ok (false, if eos then .closed .endStream else .halfClosedLocal (recvPeer frame))
  | _ => .error (ProtoError.libraryGoAway Reason.PROTOCOL_ERROR)

omit [HeaderPlz] in
def recvClose : State → Except ProtoError State
  | .opened localPeer _ => .ok (.halfClosedRemote localPeer)
  | .halfClosedLocal _ => .ok (.closed .endStream)
  | _ => .error (ProtoError.libraryGoAway Reason.PROTOCOL_ERROR)

def recvReset (st : State) (frame : Reset) (queued : Bool) : State :=
  match st, queued with
  | .closed c, false => .closed c
  | _, _ => .closed (.error (ProtoError.remoteReset frame.streamId frame.errorCode))

def handleError (st : State) (err : ProtoError) : State :=
  match st with
  | .closed c => .closed c
  | _ => .closed (.error err)

def recvEof : State → State
  | .closed c => .closed c
  | _ => .closed (.error (.io .brokenPipe (some "stream closed because of a broken pipe")))

/-- `none` is the panic of the source. -/
def sendClose : State → Option State
  | .opened _ remote => some (.halfClosedLocal remote)
  | .halfClosedRemote _ => some (.closed .endStream)
  | _ => none

def setReset (id : Nat) (reason : Nat) (initiator : Initiator) : State :=
  .closed (.error (.reset id reason initiator))

def getScheduledReset : State → Option Nat
  | .closed (.scheduledLibraryReset r) => some r
  | _ => none

def isScheduledReset : State → Bool
  | .closed (.scheduledLibraryReset _) => true
  | _ => false

def isLocalError : State → Bool
  | .closed (.error e) => e.isLocal
  | .closed (.scheduledLibraryReset _) => true
  | _ => false

def isRemoteReset : State → Bool
  | .closed (.error (.reset _ _ .remote)) => true
  | _ => false

def isReset : State → Bool
  | .closed .endStream => false
  | .closed _ => true
  | _ => false

def isSendStreaming : State → Bool
  | .opened .streaming _ => true
  | .halfClosedRemote .streaming => true
  | _ => false

def isRecvHeaders : State → Bool
  | .idle => true
  | .opened _ .awaitingHeaders => true
  | .halfClosedLocal .awaitingHeaders => true
  | .reservedRemote => true
  | _ => false

def isRecvStreaming : State → Bool
  | .opened _ .streaming => true
  | .halfClosedLocal .streaming => true
  | _ => false

def isRecvEndStream : State → Bool
  | .closed .endStream => true
  | .halfClosedRemote _ => true
  | _ => false

def isClosed : State → Bool
  | .closed _ => true
  | _ => false

def isSendClosed : State → Bool
  | .closed _ => true
  | .halfClosedLocal _ => true
  | .reservedRemote => true
  | _ => false

def isIdle : State → Bool
  | .idle => true
  | _ => false

def ensureRecvOpen : State → Except ProtoError Bool
  | .closed (.error e) => .error e
  | .closed (.scheduledLibraryReset r) => .error (ProtoError.libraryGoAway r)
  | .closed .endStream => .ok false
  | .halfClosedRemote _ => .ok false
  | .reservedLocal => .ok false
  | _ => .ok true

omit [HeaderPlz] in
theorem isSendStreaming_cases {st : State} (h : st.isSendStreaming = true) :
    (∃ remote, st = .opened .streaming remote) ∨ st = .halfClosedRemote .streaming := by
  unfold isSendStreaming at h
  split at h
  · exact Or.inl ⟨_, rfl⟩
  · exact Or.inr rfl
  · cases h

omit [HeaderPlz] in
theorem isReset_cases {st : State} (h : st.isReset = true) :
    (∃ e, st = .closed (.error e)) ∨ ∃ reason, st = .closed (.scheduledLibraryReset reason) := by
  cases st with
  | closed cause =>
    cases cause with
    | endStream => cases h
    | error e => exact Or.inl ⟨e, rfl⟩
    | scheduledLibraryReset reason => exact Or.inr ⟨reason, rfl⟩
  | _ => cases h

omit [HeaderPlz] in
theorem isClosed_cases {st : State} (h : st.isClosed = true) : ∃ cause, st = .closed cause := by
  cases st with
  | closed cause => exact ⟨cause, rfl⟩
  | _ => cases h

omit [HeaderPlz] in
theorem isClosed_of_isScheduledReset {st : State} (h : st.isScheduledReset = true) :
    st.isClosed = true := by
  cases st <;> first | rfl | cases h

omit [HeaderPlz] in
theorem endStream_of_closed {st : State} (hclosed : st.isClosed = true) (hreset : st.isReset = false) :
    st = .closed .endStream := by
  obtain ⟨cause, rfl⟩ := isClosed_cases hclosed
  cases cause with
  | endStream => rfl
  | error e => cases hreset
  | scheduledLibraryReset reason => cases hreset

omit [HeaderPlz] in
theorem isRecvStreaming_of_closed {st : State} (h : st.isClosed = true) : st.isRecvStreaming = false := by
  cases st <;> simp_all [isClosed, isRecvStreaming]

omit [HeaderPlz] in
theorem isRecvStreaming_of_ended {st : State} (h : st.isRecvEndStream = true) : st.isRecvStreaming = false := by
  cases st <;> simp_all [isRecvEndStream, isRecvStreaming]

omit [HeaderPlz] in
theorem isRecvStreaming_of_error {st : State} {e : ProtoError} (h : st.ensureRecvOpen = .error e) :
    st.isRecvStreaming = false := by
  unfold ensureRecvOpen at h
  split at h <;> first | rfl | cases h

end State

end TwoPlz
