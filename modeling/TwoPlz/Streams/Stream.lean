import TwoPlz.Streams.FlowControl
import TwoPlz.Streams.State
import TwoPlz.Message

namespace TwoPlz

structure Key where
  index : Nat
  streamId : Nat
  deriving DecidableEq

/-- The six queues that thread through the streams, named after the `Next` types of `stream.rs`. -/
inductive Next : Type
  | send | sendCapacity | opening | accept | complete | resetExpire
  deriving DecidableEq

inductive ContentLength : Type
  | head
  | omitted
  | remaining (total rem : Nat)
  deriving DecidableEq

def ContentLength.isHead : ContentLength → Bool
  | .head => true
  | _ => false

abbrev ContentLength.Undeclared := { len : ContentLength // ∀ total rem, len ≠ .remaining total rem }

abbrev Instant := Nat

abbrev Waker := Nat

section

variable [HeaderPlz]

inductive RecvEvent : Type
  | headers (message : PollMessage)
  | data (payload : Bytes)
  | trailers (fields : HeaderMap)

structure Links where
  nextPendingSend : Option Key
  nextPendingSendCapacity : Option Key
  nextOpen : Option Key
  nextPendingAccept : Option Key
  nextPendingComplete : Option Key
  nextResetExpire : Option Key

/-- `pendingSend` and `pendingRecv` are the contents of the stream's two deques. -/
structure Stream where
  id : Nat
  state : State
  refCount : Nat
  isCounted : Bool
  sendFlow : FlowControl
  remainingDataLen : Option Nat
  connectionWindowAllocated : Nat
  isPendingSend : Bool
  pendingSend : List Frame
  isPendingSendCapacity : Bool
  isPendingOpen : Bool
  currBufLen : Nat
  isBufLimitReached : Bool
  recvFlow : FlowControl
  contentLength : ContentLength
  recvTask : Option Waker
  isPendingAccept : Bool
  pendingRecv : List RecvEvent
  isPendingComplete : Bool
  resetAt : Option Instant
  isSendingTrailer : Bool
  links : Links

namespace Stream

def new (id initSendWindow initRecvWindow : Nat) : Stream where
  id := id
  state := .idle
  refCount := 0
  isCounted := false
  sendFlow := FlowControl.new initSendWindow
  remainingDataLen := none
  connectionWindowAllocated := 0
  isPendingSend := false
  pendingSend := []
  isPendingSendCapacity := false
  isPendingOpen := false
  currBufLen := 0
  isBufLimitReached := false
  recvFlow := FlowControl.new initRecvWindow
  contentLength := .omitted
  recvTask := none
  isPendingAccept := false
  pendingRecv := []
  isPendingComplete := false
  resetAt := none
  isSendingTrailer := false
  links := ⟨none, none, none, none, none, none⟩

def isCanceledInterest (st : Stream) : Bool := st.refCount == 0 && !st.state.isClosed

def isClosed (st : Stream) : Bool :=
  st.state.isClosed && st.pendingSend.isEmpty && st.remainingDataLen.isNone

def isReleased (st : Stream) : Bool :=
  st.isClosed && st.refCount == 0 && !st.isPendingSend && !st.isPendingSendCapacity
    && !st.isPendingOpen && !st.isPendingAccept && !st.isPendingComplete && st.resetAt.isNone

def isSendReady (st : Stream) : Bool := !st.isPendingOpen

def isPendingResetExpiration (st : Stream) : Bool := st.resetAt.isSome

def notifyRecv (st : Stream) : Stream := { st with recvTask := none }

def setReset (st : Stream) (reason : Nat) (initiator : Initiator) : Stream :=
  { st with state := State.setReset st.id reason initiator }.notifyRecv

def contentLengthTotal (st : Stream) : Option Nat :=
  match st.contentLength with
  | .remaining total _ => some total
  | _ => none

def ensureContentLengthZero (st : Stream) : Bool :=
  match st.contentLength with
  | .remaining _ rem => rem == 0
  | _ => true

/-- `none` when the decrement underflows. -/
def decContentLength (st : Stream) (len : Nat) : Option Stream :=
  match st.contentLength with
  | .remaining total rem =>
    if rem < len then none else some { st with contentLength := .remaining total (rem - len) }
  | .head => if len ≠ 0 then none else some st
  | .omitted => some st

theorem isClosed_of_isReleased {st : Stream} (h : st.isReleased = true) : st.isClosed = true := by
  simp only [isReleased, Bool.and_eq_true] at h
  exact h.1.1.1.1.1.1.1

/-! The `Next` implementations. -/

def next (q : Next) (st : Stream) : Option Key :=
  match q with
  | .send => st.links.nextPendingSend
  | .sendCapacity => st.links.nextPendingSendCapacity
  | .opening => st.links.nextOpen
  | .accept => st.links.nextPendingAccept
  | .complete => st.links.nextPendingComplete
  | .resetExpire => st.links.nextResetExpire

def setNext (q : Next) (st : Stream) (key : Option Key) : Stream :=
  match q with
  | .send => { st with links.nextPendingSend := key }
  | .sendCapacity => { st with links.nextPendingSendCapacity := key }
  | .opening => { st with links.nextOpen := key }
  | .accept => { st with links.nextPendingAccept := key }
  | .complete => { st with links.nextPendingComplete := key }
  | .resetExpire => { st with links.nextResetExpire := key }

def isQueued (q : Next) (st : Stream) : Bool :=
  match q with
  | .send => st.isPendingSend
  | .sendCapacity => st.isPendingSendCapacity
  | .opening => st.isPendingOpen
  | .accept => st.isPendingAccept
  | .complete => st.isPendingComplete
  | .resetExpire => st.resetAt.isSome

def setQueued (q : Next) (now : Instant) (st : Stream) (val : Bool) : Stream :=
  match q with
  | .send => { st with isPendingSend := val }
  | .sendCapacity => { st with isPendingSendCapacity := val }
  | .opening => { st with isPendingOpen := val }
  | .accept => { st with isPendingAccept := val }
  | .complete => { st with isPendingComplete := val }
  | .resetExpire => { st with resetAt := if val then some now else none }

@[simp] theorem setNext_next (q : Next) (st : Stream) : st.setNext q (st.next q) = st := by
  cases q <;> rfl

@[simp] theorem next_setNext (q : Next) (st : Stream) (key : Option Key) :
    (st.setNext q key).next q = key := by
  cases q <;> rfl

@[simp] theorem next_setNext_ne {q p : Next} (st : Stream) (key : Option Key) (h : p ≠ q) :
    (st.setNext q key).next p = st.next p := by
  cases q <;> cases p <;> first | rfl | exact absurd rfl h

@[simp] theorem setNext_setNext (q : Next) (st : Stream) (a b : Option Key) :
    (st.setNext q a).setNext q b = st.setNext q b := by
  cases q <;> rfl

@[simp] theorem isQueued_setNext (q p : Next) (st : Stream) (key : Option Key) :
    (st.setNext q key).isQueued p = st.isQueued p := by
  cases q <;> cases p <;> rfl

@[simp] theorem next_setQueued (q p : Next) (now : Instant) (st : Stream) (val : Bool) :
    (st.setQueued q now val).next p = st.next p := by
  cases q <;> cases p <;> rfl

@[simp] theorem isQueued_setQueued (q : Next) (now : Instant) (st : Stream) (val : Bool) :
    (st.setQueued q now val).isQueued q = val := by
  cases q <;> cases val <;> rfl

@[simp] theorem isQueued_setQueued_ne {q p : Next} (now : Instant) (st : Stream) (val : Bool)
    (h : p ≠ q) : (st.setQueued q now val).isQueued p = st.isQueued p := by
  cases q <;> cases p <;> first | rfl | exact absurd rfl h

@[simp] theorem setNext_id (q : Next) (st : Stream) (key : Option Key) :
    (st.setNext q key).id = st.id := by
  cases q <;> rfl

@[simp] theorem setQueued_id (q : Next) (now : Instant) (st : Stream) (val : Bool) :
    (st.setQueued q now val).id = st.id := by
  cases q <;> rfl

/-- The debug assertions in `set_queued` of `NextSend` and `NextOpen`. -/
def setQueuedAssert (q : Next) (st : Stream) (val : Bool) : Bool :=
  match q with
  | .send => !val || !st.isPendingOpen
  | .opening => !val || !st.isPendingSend
  | _ => true

end Stream

end

end TwoPlz
