import TwoPlz.Streams.Store

/-! The shared state of the streams layer (`inner.rs`, with the fields of `counts.rs`, `action.rs`,
`recv.rs` and `send.rs`) and the monad its functions are written in.  A panic, a failed assertion
or a dangling key is `none`. -/

namespace TwoPlz

def USIZE_MAX : Nat := 2 ^ 64 - 1

structure Counts where
  role : Role
  maxSendStreams : Nat
  numSendStreams : Nat
  maxRecvStreams : Nat
  numRecvStreams : Nat
  maxLocalResetStreams : Nat
  numLocalResetStreams : Nat
  maxRemoteResetStreams : Nat
  numRemoteResetStreams : Nat
  maxLocalErrorResetStreams : Option Nat
  numLocalErrorResetStreams : Nat

structure SpaTracker where
  pendingSpa : List Nat
  pendingStreamWindowUpdate : Option (List Nat)

/-- `buffer` counts the occupied slots of the receive buffer. -/
structure Recv where
  buffer : Nat
  flow : FlowControl
  initStreamWindowSz : Nat
  lastProcessedId : Nat
  maxStreamId : Nat
  nextStreamId : Option Nat
  pendingAccept : Queue
  pendingComplete : Queue
  pendingResetExpired : Queue
  refused : Option Nat
  resetDuration : Nat
  isExtendedConnectProtocolEnabled : Bool
  checkConnectionWindowUpdate : Bool
  checkStreamWindowUpdate : Option Key
  maxRecvBufLimit : Nat

structure Send where
  initStreamWindowSz : Nat
  flow : FlowControl
  lastOpenedId : Nat
  maxStreamId : Nat
  nextStreamId : Option Nat
  pendingSend : Queue
  pendingCapacity : Queue
  pendingOpen : Queue
  isPushEnabled : Bool
  isExtendedConnectProtocolEnabled : Bool
  spaTracker : Option SpaTracker

section

variable [HeaderPlz] [StoreCrates]

/-- `sendBuffer` counts the occupied slots of the send buffer, `now` is the clock and
`debugAssertions` tells a debug build from a release build. -/
structure Inner where
  counts : Counts
  recv : Recv
  send : Send
  task : Option Waker
  connError : Option ProtoError
  store : Store
  refs : Nat
  sendBuffer : Nat
  now : Instant
  debugAssertions : Bool

namespace Inner

def get? (s : Inner) (k : Key) : Option Stream := s.store.get k

def queue (s : Inner) : Next → Queue
  | .send => s.send.pendingSend
  | .sendCapacity => s.send.pendingCapacity
  | .opening => s.send.pendingOpen
  | .accept => s.recv.pendingAccept
  | .complete => s.recv.pendingComplete
  | .resetExpire => s.recv.pendingResetExpired

def setQueue (s : Inner) (n : Next) (q : Queue) : Inner :=
  match n with
  | .send => { s with send.pendingSend := q }
  | .sendCapacity => { s with send.pendingCapacity := q }
  | .opening => { s with send.pendingOpen := q }
  | .accept => { s with recv.pendingAccept := q }
  | .complete => { s with recv.pendingComplete := q }
  | .resetExpire => { s with recv.pendingResetExpired := q }

@[simp] theorem setQueue_store (s : Inner) (n : Next) (q : Queue) : (s.setQueue n q).store = s.store := by
  cases n <;> rfl

@[simp] theorem queue_setQueue (s : Inner) (n : Next) (q : Queue) : (s.setQueue n q).queue n = q := by
  cases n <;> rfl

@[simp] theorem queue_setQueue_ne (s : Inner) {n m : Next} (q : Queue) (h : m ≠ n) :
    (s.setQueue n q).queue m = s.queue m := by
  cases n <;> cases m <;> first | rfl | exact absurd rfl h

@[simp] theorem setQueue_queue (s : Inner) (n : Next) : s.setQueue n (s.queue n) = s := by
  cases n <;> rfl

def Known (s : Inner) (id : Nat) : Prop :=
  ∀ next, (if s.counts.role.isLocalInit id then s.send.nextStreamId else s.recv.nextStreamId) =
    some next → id < next

end Inner

abbrev M := StateT Inner Option

namespace M

def abort {α : Type} : M α := fun _ => none

def assert (b : Bool) : M Unit := fun s => if b then some ((), s) else none

def debugAssert (b : Bool) : M Unit := fun s => if s.debugAssertions && !b then none else some ((), s)

def lift {α : Type} (x : Option α) : M α := fun s => x.map (·, s)

def resolve (k : Key) : M Stream := fun s => (s.get? k).map (·, s)

def update (k : Key) (f : Stream → Stream) : M Unit := fun s =>
  (s.get? k).map fun st => ((), { s with store := s.store.set k (f st) })

def push (n : Next) (k : Key) : M Bool := fun s =>
  (Queue.push n (s.queue n) s.debugAssertions s.now s.store k).map fun r =>
    (r.1, { s with store := r.2.2 }.setQueue n r.2.1)

def pushFront (n : Next) (k : Key) : M Bool := fun s =>
  (Queue.pushFront n (s.queue n) s.debugAssertions s.now s.store k).map fun r =>
    (r.1, { s with store := r.2.2 }.setQueue n r.2.1)

def pop (n : Next) : M (Option Key) := fun s =>
  (Queue.pop n (s.queue n) s.debugAssertions s.now s.store).map fun r =>
    (r.1, { s with store := r.2.2 }.setQueue n r.2.1)

def popIf (n : Next) (f : Stream → Bool) : M (Option Key) := fun s =>
  (Queue.popIf n (s.queue n) s.debugAssertions s.now s.store f).map fun r =>
    (r.1, { s with store := r.2.2 }.setQueue n r.2.1)

def wake : M Unit := modify fun s => { s with task := none }

def when (b : Bool) (x : M Unit) : M Unit := if b then x else pure ()

def whenSome {α : Type} (o : Option α) (f : α → M Unit) : M Unit :=
  match o with
  | some a => f a
  | none => pure ()

/-- `a + b` on `u32`: a panic in a debug build, a wrap in a release build. -/
def addU32 (a b : Nat) : M Nat := fun s =>
  if a + b < 2 ^ 32 then some (a + b, s)
  else if s.debugAssertions then none else some ((a + b) % 2 ^ 32, s)

def isLocalInit (id : Nat) : M Bool := do
  assert (id != 0)
  let s ← get
  pure (s.counts.role.isLocalInit id)

/-! The deques of a stream, with the shared buffers. -/

def pushBackSend (k : Key) (frame : Frame) : M Unit := do
  update k fun st => { st with pendingSend := st.pendingSend ++ [frame] }
  modify fun s => { s with sendBuffer := s.sendBuffer + 1 }

def pushFrontSend (k : Key) (frame : Frame) : M Unit := do
  update k fun st => { st with pendingSend := frame :: st.pendingSend }
  modify fun s => { s with sendBuffer := s.sendBuffer + 1 }

def popFrontSend (k : Key) : M (Option Frame) := do
  let st ← resolve k
  match st.pendingSend with
  | [] => pure none
  | frame :: rest => do
    update k fun st => { st with pendingSend := rest }
    modify fun s => { s with sendBuffer := s.sendBuffer - 1 }
    pure (some frame)

def drainSend (k : Key) : M Unit := do
  let st ← resolve k
  update k fun st => { st with pendingSend := [] }
  modify fun s => { s with sendBuffer := s.sendBuffer - st.pendingSend.length }

def pushBackRecv (k : Key) (event : RecvEvent) : M Unit := do
  update k fun st => { st with pendingRecv := st.pendingRecv ++ [event] }
  modify fun s => { s with recv.buffer := s.recv.buffer + 1 }

def drainRecv (k : Key) : M (List RecvEvent) := do
  let st ← resolve k
  update k fun st => { st with pendingRecv := [] }
  modify fun s => { s with recv.buffer := s.recv.buffer - st.pendingRecv.length }
  pure st.pendingRecv

/-! How a computation that returned went. -/

section

variable {α β : Type} {s s' : Inner} {k : Key}

theorem bind_some {x : M α} {f : α → M β} {r : β × Inner} :
    (x >>= f) s = some r ↔ ∃ a s₁, x s = some (a, s₁) ∧ f a s₁ = some r := by
  constructor
  · intro h
    obtain ⟨⟨a, s₁⟩, hx, hf⟩ := Option.bind_eq_some_iff.mp h
    exact ⟨a, s₁, hx, hf⟩
  · rintro ⟨a, s₁, hx, hf⟩
    exact Option.bind_eq_some_iff.mpr ⟨(a, s₁), hx, hf⟩

theorem pure_some {a b : α} : (pure a : M α) s = some (b, s') ↔ a = b ∧ s = s' := by
  simp only [pure, StateT.pure, Option.some.injEq, Prod.mk.injEq]

theorem get_some {a : Inner} : (get : M Inner) s = some (a, s') ↔ s = a ∧ s = s' := by
  change some (s, s) = some (a, s') ↔ _
  grind

theorem set_some {t : Inner} {u : PUnit} : (set t : M PUnit) s = some (u, s') ↔ s' = t := by
  change some (PUnit.unit, t) = some (u, s') ↔ _
  grind

theorem modify_some {f : Inner → Inner} {u : PUnit} :
    (modify f : M PUnit) s = some (u, s') ↔ s' = f s := by
  change some (PUnit.unit, f s) = some (u, s') ↔ _
  grind

theorem assert_some {b : Bool} {u : Unit} : assert b s = some (u, s') ↔ b = true ∧ s = s' := by
  unfold assert
  grind

theorem debugAssert_some {b : Bool} {u : Unit} :
    debugAssert b s = some (u, s') ↔ (s.debugAssertions = true → b = true) ∧ s = s' := by
  unfold debugAssert
  grind

theorem lift_some {x : Option α} {a : α} : lift x s = some (a, s') ↔ x = some a ∧ s = s' := by
  simp only [lift, Option.map_eq_some_iff, Prod.mk.injEq]
  grind

theorem when_some {b : Bool} {x : M Unit} {u : Unit} :
    M.when b x s = some (u, s') ↔ (b = true ∧ x s = some (u, s')) ∨ (b = false ∧ s = s') := by
  cases b with
  | true => simp [M.when]
  | false => simp [M.when, pure_some]

theorem whenSome_some {o : Option α} {f : α → M Unit} {u : Unit} :
    M.whenSome o f s = some (u, s') ↔
      (∃ a, o = some a ∧ f a s = some (u, s')) ∨ (o = none ∧ s = s') := by
  cases o with
  | some a => simp [M.whenSome]
  | none => simp [M.whenSome, pure_some]

theorem resolve_some {st : Stream} : resolve k s = some (st, s') ↔ s.get? k = some st ∧ s = s' := by
  simp only [resolve, Option.map_eq_some_iff, Prod.mk.injEq]
  grind

theorem update_some {f : Stream → Stream} {u : Unit} :
    update k f s = some (u, s') ↔
      ∃ st, s.get? k = some st ∧ s' = { s with store := s.store.set k (f st) } := by
  simp only [update, Option.map_eq_some_iff, Prod.mk.injEq]
  grind

end

end M

open M

/-- `Store::try_for_each`.  The third argument is the position, the second the number of entries
from it to the (current) end. -/
def tryForEachFrom {ε α : Type} (f : α → Key → M (Except ε α)) :
    Nat → Nat → α → M (Except ε α)
  | 0, _, a => pure (.ok a)
  | n + 1, i, a => do
    let s ← get
    match StoreCrates.ids.getIndex s.store.ids i with
    | none => abort
    | some (streamId, index) =>
      match ← f a ⟨index, streamId⟩ with
      | .error e => pure (.error e)
      | .ok a => do
        let s ← get
        let newLen := StoreCrates.ids.len s.store.ids
        if newLen < i + (n + 1) then do
          debugAssert (newLen == i + n)
          tryForEachFrom f n i a
        else tryForEachFrom f n (i + 1) a

def tryForEach {ε α : Type} (f : α → Key → M (Except ε α)) (a : α) : M (Except ε α) := do
  let s ← get
  tryForEachFrom f (StoreCrates.ids.len s.store.ids) 0 a

def forEach (f : Key → M Unit) : M Unit := do
  let _ ← tryForEach (ε := Empty) (fun _ k => do f k; pure (.ok ())) ()
  pure ()

/-- An upper bound on how often a loop that pops a queue can go round. -/
def Inner.fuel (s : Inner) : Nat := StoreCrates.slab.len s.store.slab + 1

namespace Counts

def hasStreams (c : Counts) : Bool := c.numSendStreams != 0 || c.numRecvStreams != 0

def canIncNumLocalErrorResets (c : Counts) : Bool :=
  match c.maxLocalErrorResetStreams with
  | some max => decide (c.numLocalErrorResetStreams < max)
  | none => true

def incNumLocalErrorResets : M Unit := do
  let s ← get
  assert s.counts.canIncNumLocalErrorResets
  set { s with counts.numLocalErrorResetStreams := s.counts.numLocalErrorResetStreams + 1 }

def canIncNumRecvStreams (c : Counts) : Bool := decide (c.numRecvStreams < c.maxRecvStreams)

def incNumRecvStreams (k : Key) : M Unit := do
  let s ← get
  assert s.counts.canIncNumRecvStreams
  let st ← resolve k
  assert (!st.isCounted)
  set { s with counts.numRecvStreams := s.counts.numRecvStreams + 1 }
  update k fun st => { st with isCounted := true }

def canIncNumSendStreams (c : Counts) : Bool := decide (c.numSendStreams < c.maxSendStreams)

def incNumSendStreams (k : Key) : M Unit := do
  let s ← get
  assert s.counts.canIncNumSendStreams
  let st ← resolve k
  assert (!st.isCounted)
  set { s with counts.numSendStreams := s.counts.numSendStreams + 1 }
  update k fun st => { st with isCounted := true }

def canIncNumResetStreams (c : Counts) : Bool :=
  decide (c.numLocalResetStreams < c.maxLocalResetStreams)

def decNumResetStreams : M Unit := do
  let s ← get
  assert (decide (0 < s.counts.numLocalResetStreams))
  set { s with counts.numLocalResetStreams := s.counts.numLocalResetStreams - 1 }

def incNumResetStreams : M Unit := do
  let s ← get
  assert s.counts.canIncNumResetStreams
  set { s with counts.numLocalResetStreams := s.counts.numLocalResetStreams + 1 }

def canIncNumRemoteResetStreams (c : Counts) : Bool :=
  decide (c.numRemoteResetStreams < c.maxRemoteResetStreams)

def incNumRemoteResetStreams : M Unit := do
  let s ← get
  assert s.counts.canIncNumRemoteResetStreams
  set { s with counts.numRemoteResetStreams := s.counts.numRemoteResetStreams + 1 }

def decNumRemoteResetStreams : M Unit := do
  let s ← get
  assert (decide (0 < s.counts.numRemoteResetStreams))
  set { s with counts.numRemoteResetStreams := s.counts.numRemoteResetStreams - 1 }

/-- A frame without the parameter lifts the limit. -/
def applyRemoteSettings (settings : Settings) : M Unit :=
  modify fun s =>
    { s with counts.maxSendStreams := settings.maxConcurrentStreams.getD USIZE_MAX }

def decNumOf (isLocal : Bool) : M Unit := do
  let s ← get
  if isLocal then do
    assert (decide (0 < s.counts.numSendStreams))
    set { s with counts.numSendStreams := s.counts.numSendStreams - 1 }
  else do
    assert (decide (0 < s.counts.numRecvStreams))
    set { s with counts.numRecvStreams := s.counts.numRecvStreams - 1 }

def decNumStreams (k : Key) : M Unit := do
  let st ← resolve k
  assert st.isCounted
  let isLocal ← isLocalInit st.id
  decNumOf isLocal
  update k fun st => { st with isCounted := false }

/-- What `transition_after` does with a stream that is closed and flushed. -/
def retire (k : Key) (isResetCounted : Bool) : M Unit := do
  let st ← resolve k
  M.when (!st.isPendingResetExpiration) do
    modify fun s => { s with store := s.store.unlink k }
    M.when isResetCounted decNumResetStreams
  M.when (!st.state.isScheduledReset && st.isCounted) (decNumStreams k)

def removeStream (k : Key) : M Unit := fun s =>
  (s.store.remove s.debugAssertions k).map fun store => ((), { s with store := store })

def transitionAfter (k : Key) (isResetCounted : Bool) : M Unit := do
  let st ← resolve k
  M.when st.isClosed (retire k isResetCounted)
  let st ← resolve k
  M.when st.isReleased (removeStream k)

def transition {α : Type} (k : Key) (f : M α) : M α := do
  let st ← resolve k
  let isPendingReset := st.isPendingResetExpiration
  let ret ← f
  transitionAfter k isPendingReset
  pure ret

end Counts

def clearQueueLoop (n : Next) (f : Key → M Unit) : Nat → M Unit
  | 0 => abort
  | m + 1 => do
    match ← pop n with
    | none => pure ()
    | some k => do
      f k
      clearQueueLoop n f m

def clearQueue (n : Next) (f : Key → M Unit) : M Unit := do
  let s ← get
  clearQueueLoop n f s.fuel

end

end TwoPlz
