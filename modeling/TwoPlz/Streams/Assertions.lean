import TwoPlz.Lib.Checked
import TwoPlz.Streams.Send

/-! The assertions of the sender.  In `Send` a panic is the failure of the whole round; here the three
that guard the queues of the streams say which one it was. -/

namespace TwoPlz

/-- `send_close` in an unexpected state, a stream without frames that is not closed, and the closure
of `Frame::map` on a frame that is not DATA. -/
inductive Panic : Type
  | sendClose (state : State)
  | notClosed
  | notData

variable [HeaderPlz] [StoreCrates]

/-- `Frame::map`: only the payload of a DATA frame is mapped. -/
def Frame.map {ε : Type} (f : Bytes → Checked ε Inner Bytes) : Frame → Checked ε Inner Frame
  | .data frame => do
    let data ← f frame.data
    pure (.data { frame with data := data })
  | frame => pure frame

namespace Send.Asserting

open M Counts

def sendClose (k : Key) : Checked Panic Inner Unit := do
  let st ← resolve k
  match st.state.sendClose with
  | some state => update k fun st => { st with state := state }
  | none => throw (.sendClose st.state)

def setDataFrameEos (k : Key) (toRet : Data) (remaining : Option Data) : Checked Panic Inner Data := do
  let st ← resolve k
  if st.remainingDataLen.isNone then
    if st.pendingSend.isEmpty then do
      sendClose k
      pure (toRet.setEndStream true)
    else do
      update k fun st => { st with isSendingTrailer := true }
      pure toRet
  else
    match remaining with
    | some frame => do
      pushFrontSend k (.data frame)
      pure toRet
    | none => pure toRet

def popEmptyDataFrame (k : Key) (frame : Data) : Checked Panic Inner (Option Frame) := do
  update k fun st => { st with remainingDataLen := none }
  let s ← (get : M Inner)
  let st ← resolve k
  if s.send.spaTracker.isSome then do
    modifySpa (·.addPendingSpa st.id)
    pushFrontSend k (.data frame)
    pure none
  else do
    let toRet ← setDataFrameEos k frame none
    pure (some (.data toRet))

def emitData (k : Key) (rem maxFrameSize streamAvailable : Nat) (frame : Data) :
    Checked Panic Inner (Option Frame) := do
  let st ← resolve k
  let s ← (get : M Inner)
  let len := min (min (min rem maxFrameSize % 2 ^ 32) streamAvailable) st.connectionWindowAllocated
  let len := if s.send.spaTracker.isSome && len == rem then len - 1 else len
  update k fun st =>
    { st with
      sendFlow := st.sendFlow.decWindowOrKeep len
      connectionWindowAllocated := st.connectionWindowAllocated - len
      remainingDataLen := if rem - len > 0 then some (rem - len) else none }
  assert (decide (len ≤ frame.data.length))
  let dataFrame := Data.new st.id (frame.data.take len)
  let toRet ← setDataFrameEos k dataFrame (some { frame with data := frame.data.drop len })
  pure (some (.data toRet))

def popDataFrame (k : Key) (maxFrameSize : Nat) (frame : Data) :
    Checked Panic Inner (Option Frame) := do
  let st ← resolve k
  match st.remainingDataLen with
  | none => pure none
  | some rem =>
    if rem == 0 then popEmptyDataFrame k frame
    else do
      let streamAvailable := st.sendFlow.available
      if streamAvailable == 0 then do
        modifySpa (·.addPendingStreamUpdate st.id)
        pushFrontSend k (.data frame)
        pure none
      else
        match ← tryAllocateStreamFlow k rem streamAvailable with
        | false => do
          pushFrontSend k (.data frame)
          let _ ← push .sendCapacity k
          pure none
        | true => emitData k rem maxFrameSize streamAvailable frame

def nextFrame (k : Key) (maxFrameSize : Nat) (isPendingReset : Bool) :
    Checked Panic Inner (Option Frame) := do
  match ← popFrontSend k with
  | some (.data frame) => popDataFrame k maxFrameSize frame
  | some (.headers header) => do
    let st ← resolve k
    M.when st.remainingDataLen.isSome (tryAssignCapacity k)
    if st.isSendingTrailer then sendClose k else pure ()
    pure (some (.headers header))
  | some frame => do
    let frame ← frame.map fun _ => throw .notData
    pure (some frame)
  | none => do
    let st ← resolve k
    match st.state.getScheduledReset with
    | some reason => do
      update k fun st => st.setReset reason .library
      pure (some (.reset ⟨st.id, reason⟩))
    | none => do
      let s ← (get : M Inner)
      if s.debugAssertions && !st.state.isClosed then throw .notClosed
      else do
        transitionAfter k isPendingReset
        pure none

def popFrameLoop (maxFrameSize : Nat) : Nat → Checked Panic Inner (Option Frame)
  | 0 => liftM (abort : M (Option Frame))
  | n + 1 => do
    match ← pop .send with
    | none => pure none
    | some k => do
      let st ← resolve k
      let isPendingReset := st.isPendingResetExpiration
      M.when (st.state.isRemoteReset || st.state.getScheduledReset == some Reason.CANCEL)
        (clearStreamQueue k)
      match ← nextFrame k maxFrameSize isPendingReset with
      | none => popFrameLoop maxFrameSize n
      | some frame => do
        requeue k
        transitionAfter k isPendingReset
        pure (some frame)

def popFrame (maxFrameSize : Nat) : Checked Panic Inner (Option Frame) := do
  let s ← (get : M Inner)
  popFrameLoop maxFrameSize s.fuel

def pollCompleteRound (maxFrameSize : Nat) : Checked Panic Inner (Option Frame) := do
  let opened ← popPendingOpen
  M.whenSome opened fun k => do
    let _ ← pushFront .send k
  popFrame maxFrameSize

/-! Without the reasons of the panics it is the sender. -/

open Checked

theorem erase_sendClose (k : Key) : erase (sendClose k) = Send.sendClose k := by
  simp only [sendClose, Send.sendClose, erase_bind, erase_lift]
  congr 1
  funext st
  cases st.state.sendClose with
  | none => rfl
  | some state => simp only [erase_lift]; rfl

theorem erase_setDataFrameEos (k : Key) (toRet : Data) (remaining : Option Data) :
    erase (setDataFrameEos k toRet remaining) = Send.setDataFrameEos k toRet remaining := by
  simp only [setDataFrameEos, Send.setDataFrameEos, erase_bind, erase_lift]
  congr 1
  funext st
  split
  · split
    · simp only [erase_bind, erase_sendClose, erase_pure]
    · simp only [erase_bind, erase_lift, erase_pure]
  · split
    · simp only [erase_bind, erase_lift, erase_pure]
    · rfl

theorem erase_popEmptyDataFrame (k : Key) (frame : Data) :
    erase (popEmptyDataFrame k frame) = Send.popEmptyDataFrame k frame := by
  simp only [popEmptyDataFrame, Send.popEmptyDataFrame, erase_bind, erase_lift]
  congr 1
  funext _
  congr 1
  funext s
  congr 1
  funext st
  split
  · simp only [erase_bind, erase_lift, erase_pure]
  · simp only [erase_bind, erase_setDataFrameEos, erase_pure]

theorem erase_emitData (k : Key) (rem maxFrameSize streamAvailable : Nat) (frame : Data) :
    erase (emitData k rem maxFrameSize streamAvailable frame) =
      Send.emitData k rem maxFrameSize streamAvailable frame := by
  simp only [emitData, Send.emitData, erase_bind, erase_lift, erase_setDataFrameEos, erase_pure]

theorem erase_popDataFrame (k : Key) (maxFrameSize : Nat) (frame : Data) :
    erase (popDataFrame k maxFrameSize frame) = Send.popDataFrame k maxFrameSize frame := by
  simp only [popDataFrame, Send.popDataFrame, erase_bind, erase_lift]
  congr 1
  funext st
  cases st.remainingDataLen with
  | none => rfl
  | some rem =>
    dsimp only
    split
    · exact erase_popEmptyDataFrame _ _
    · split
      · simp only [erase_bind, erase_lift, erase_pure]
      · simp only [erase_bind, erase_lift]
        congr 1
        funext b
        cases b with
        | false => simp only [erase_bind, erase_lift, erase_pure]
        | true => exact erase_emitData _ _ _ _ _

theorem erase_nextFrame (k : Key) (maxFrameSize : Nat) (isPendingReset : Bool) :
    erase (nextFrame k maxFrameSize isPendingReset) = Send.nextFrame k maxFrameSize isPendingReset := by
  simp only [nextFrame, Send.nextFrame, erase_bind, erase_lift]
  congr 1
  funext o
  cases o with
  | none =>
    simp only [erase_bind, erase_lift]
    congr 1
    funext st
    cases st.state.getScheduledReset with
    | some reason => simp only [erase_bind, erase_lift, erase_pure]
    | none =>
      funext s
      change erase (if s.debugAssertions && !st.state.isClosed then throw Panic.notClosed else _) s =
        (if s.debugAssertions && !st.state.isClosed then none else some ((), s)).bind _
      split
      · rfl
      · simp only [erase_bind, erase_lift, erase_pure]
        rfl
  | some frame =>
    cases frame with
    | data frame => exact erase_popDataFrame _ _ _
    | reset frame => rfl
    | headers header =>
      simp only [erase_bind, erase_lift]
      congr 1
      funext st
      congr 1
      funext _
      cases st.isSendingTrailer with
      | true => simp only [if_true, erase_bind, erase_sendClose, erase_pure, M.when]
      | false => rfl

theorem erase_popFrameLoop (maxFrameSize n : Nat) :
    erase (popFrameLoop maxFrameSize n) = Send.popFrameLoop maxFrameSize n := by
  induction n with
  | zero => exact erase_lift _
  | succ n ih =>
    simp only [popFrameLoop, Send.popFrameLoop, erase_bind, erase_lift]
    congr 1
    funext o
    cases o with
    | none => rfl
    | some k =>
      simp only [erase_bind, erase_lift, erase_nextFrame]
      congr 1
      funext st
      congr 1
      funext _
      congr 1
      funext frame
      cases frame with
      | none => exact ih
      | some frame => simp only [erase_bind, erase_lift, erase_pure]

theorem erase_pollCompleteRound (maxFrameSize : Nat) :
    erase (pollCompleteRound maxFrameSize) = Send.pollCompleteRound maxFrameSize := by
  simp only [pollCompleteRound, Send.pollCompleteRound, popFrame, Send.popFrame, erase_bind, erase_lift,
    erase_popFrameLoop]

end Send.Asserting

end TwoPlz
