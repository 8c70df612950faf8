import TwoPlz.Connection
import TwoPlz.Streams.Frames

/-! What receiving and the handles leave alone. -/

namespace TwoPlz

variable [HeaderPlz] [StoreCrates]

structure BlindHandle (R : Inner → Inner → Prop) : Prop extends Blind R where
  lastProcessed : ∀ s id, R s { s with recv.lastProcessedId := id }
  nextRecv : ∀ s o, R s { s with recv.nextStreamId := o }
  nextSend : ∀ s o, R s { s with send.nextStreamId := o }
  maxRecv : ∀ s id, R s { s with recv.maxStreamId := id }
  maxSend : ∀ s id, R s { s with send.maxStreamId := id }
  initWindow : ∀ s n, R s { s with recv.initStreamWindowSz := n }
  extended : ∀ s b, R s { s with recv.isExtendedConnectProtocolEnabled := b }
  remoteReset : ∀ s n, R s { s with counts.numRemoteResetStreams := n }
  errorReset : ∀ s n, R s { s with counts.numLocalErrorResetStreams := n }
  connError : ∀ s e, R s { s with connError := e }
  refs : ∀ s n, R s { s with refs := n }
  now : ∀ s n, R s { s with now := n }

structure BlindRecv (R : Inner → Inner → Prop) : Prop extends BlindHandle R where
  refused : ∀ s o, R s { s with recv.refused := o }
  checkConnection : ∀ s, R s { s with recv.checkConnectionWindowUpdate := true }
  checkStream : ∀ s o, R s { s with recv.checkStreamWindowUpdate := o }

namespace BlindHandle

open M

variable {R : Inner → Inner → Prop} (hR : BlindHandle R) {α β : Type}

include hR

/-! Recv. -/

theorem recvClearStreamQueue (k : Key) : Keeps R (Recv.clearStreamQueue k) :=
  hR.bind (hR.resolve _) fun _ => hR.when _ (hR.bind (hR.drainRecv _) fun _ => hR.pure _)

theorem moveFromPendingCompleteLoop (n : Nat) : Keeps R (Recv.moveFromPendingCompleteLoop n) := by
  induction n with
  | zero => exact Chains.abort
  | succ n ih =>
    refine hR.bind (hR.popIf _ _) fun o => ?_
    split
    · exact hR.pure _
    · refine hR.bind hR.get fun s => hR.bind (hR.when _ ?_) fun _ => ih
      refine hR.bind (hR.resolve _) fun st => .ite (hR.recvClearStreamQueue _) ?_
      exact hR.bind (hR.push _ _) fun _ => hR.pure _

theorem moveFromPendingComplete (k : Key) : Keeps R (Recv.moveFromPendingComplete k) :=
  hR.bind hR.get fun _ => hR.bind (hR.moveFromPendingCompleteLoop _) fun _ =>
    hR.when _ (hR.update _ _)

theorem parseContentLength (frame : Headers) (k : Key) : Keeps R (Recv.parseContentLength frame k) := by
  refine hR.bind (hR.resolve _) fun st => ?_
  split
  · exact hR.pure _
  · split
    · exact hR.pure _
    · split
      · exact hR.pure _
      · exact hR.bind (hR.update _ _) fun _ => .ite (hR.pure _) (hR.pure _)

theorem deliverHeaders (frame : Headers) (k : Key) : Keeps R (Recv.deliverHeaders frame k) := by
  refine hR.bind hR.get fun s => ?_
  split
  · exact hR.pure _
  · refine hR.bind (hR.lift _) fun res => ?_
    split
    · exact hR.pure _
    · refine hR.bind (hR.pushBackRecv _ _) fun _ => ?_
      split
      · exact hR.bind (hR.update _ _) fun _ => hR.pure _
      · exact hR.bind (hR.push _ _) fun _ => hR.bind (hR.when _ (hR.moveFromPendingComplete _)) fun _ =>
          hR.pure _

theorem checkedHeaders (frame : Headers) (isInitial : Bool) (k : Key) :
    Keeps R (Recv.checkedHeaders frame isInitial k) := by
  refine hR.bind (hR.resolve _) fun st => hR.bind (hR.parseContentLength _ _) fun res => ?_
  split
  · exact hR.pure _
  · refine hR.bind hR.get fun s => ?_
    dsimp only
    split
    · exact hR.pure _
    · split
      · exact hR.pure _
      · exact hR.deliverHeaders _ _

theorem incNumRecvStreams (k : Key) : Keeps R (Counts.incNumRecvStreams k) := by
  refine .get_bind fun s => .read_bind (fun a s' h => (assert_some.mp h).2.symm) fun _ =>
    .read_bind (fun a s' h => (resolve_some.mp h).2.symm) fun st =>
      .read_bind (fun a s' h => (assert_some.mp h).2.symm) fun _ => ?_
  exact .bind hR.trans (.set (hR.numRecv s _)) fun _ => hR.update _ _

theorem recvHeaders (frame : Headers) (k : Key) : Keeps R (Recv.recvHeaders frame k) := by
  refine hR.bind (hR.resolve _) fun st => ?_
  split
  · exact hR.pure _
  · refine hR.bind (hR.update _ _) fun _ => hR.bind (hR.when _ ?_) fun _ => hR.checkedHeaders _ _ _
    exact hR.bind (.modify fun s => hR.lastProcessed s _) fun _ => hR.incNumRecvStreams _

theorem recvTrailers (frame : Headers) (k : Key) : Keeps R (Recv.recvTrailers frame k) := by
  refine hR.bind (hR.resolve _) fun st => ?_
  split
  · exact hR.pure _
  · refine hR.bind (hR.update _ _) fun _ => .ite (hR.pure _) ?_
    exact hR.bind (hR.pushBackRecv _ _) fun _ => hR.bind (hR.moveFromPendingComplete _) fun _ =>
      hR.pure _

theorem countRemoteReset (k : Key) : Keeps R (Recv.countRemoteReset k) := by
  refine hR.bind (hR.resolve _) fun st => hR.bind hR.get fun s => ?_
  split
  · exact hR.pure _
  · split
    · exact hR.bind (Chains.checked fun s => hR.remoteReset s _) fun _ => hR.pure _
    · exact hR.pure _

theorem recvReset (frame : Reset) (k : Key) : Keeps R (Recv.recvReset frame k) := by
  refine hR.bind (hR.countRemoteReset _) fun res => ?_
  split
  · exact hR.pure _
  · exact hR.bind (hR.update _ _) fun _ => hR.bind (hR.moveFromPendingComplete _) fun _ =>
      hR.bind (hR.update _ _) fun _ => hR.pure _

theorem enqueueResetExpiration (k : Key) : Keeps R (Recv.enqueueResetExpiration k) := by
  refine hR.bind (hR.resolve _) fun st => hR.bind hR.get fun s => ?_
  split
  · exact hR.pure _
  · split
    · exact hR.bind (Chains.checked fun s => hR.numReset s _) fun _ =>
        hR.bind (hR.push _ _) fun _ => hR.pure _
    · exact hR.pure _

theorem adjustWindow (f : FlowControl → Except Nat FlowControl) (u : Unit) (k : Key) :
    Keeps R (Recv.adjustWindow f u k) := by
  refine hR.bind (hR.resolve _) fun st => ?_
  split
  · exact hR.pure _
  · exact hR.bind (hR.update _ _) fun _ => hR.pure _

theorem applyLocalSettings (settings : Settings) : Keeps R (Recv.applyLocalSettings settings) := by
  refine hR.bind (.modify fun s => hR.extended s _) fun _ => ?_
  split
  · exact hR.pure _
  · refine .get_bind fun s => .bind hR.trans (.set (hR.initWindow s _)) fun _ => ?_
    split
    · exact hR.tryForEach (hR.adjustWindow _) _
    · exact .ite (hR.tryForEach (hR.adjustWindow _) _) (hR.pure _)

theorem recvHandleError (err : ProtoError) (k : Key) : Keeps R (Recv.handleError err k) :=
  hR.bind (hR.update _ _) fun _ => hR.bind (hR.recvClearStreamQueue _) fun _ => hR.update _ _

theorem clearAll (n : Next) (b : Bool) : Keeps R (Recv.clearAll n b) :=
  hR.clearQueue n fun _ => hR.transitionAfter _ _

theorem recvClearQueues (b : Bool) : Keeps R (Recv.clearQueues b) :=
  hR.bind (hR.clearAll _ _) fun _ => hR.bind (hR.clearAll _ _) fun _ => hR.when _ (hR.clearAll _ _)

theorem clearExpiredLoop (now duration n : Nat) : Keeps R (Recv.clearExpiredLoop now duration n) := by
  induction n with
  | zero => exact Chains.abort
  | succ n ih =>
    refine hR.bind (hR.popIf _ _) fun o => ?_
    split
    · exact hR.pure _
    · exact hR.bind (hR.transitionAfter _ _) fun _ => ih

theorem clearExpiredResetStreams : Keeps R Recv.clearExpiredResetStreams :=
  hR.bind hR.get fun _ => hR.when _ (hR.clearExpiredLoop _ _ _)

theorem takeRequest (k : Key) : Keeps R (Recv.takeRequest k) := by
  refine hR.bind (hR.drainRecv _) fun events => ?_
  split
  · exact hR.bind (hR.lift _) fun _ => hR.pure _
  · exact Chains.abort

theorem takeResponse (k : Key) : Keeps R (Recv.takeResponse k) := by
  refine hR.bind (hR.drainRecv _) fun events => ?_
  split
  · exact hR.pure _
  · exact hR.bind (hR.lift _) fun _ => hR.pure _
  · exact Chains.abort

theorem pollResponse (waker : Waker) (k : Key) : Keeps R (Recv.pollResponse waker k) := by
  refine hR.bind (hR.resolve _) fun st => ?_
  split
  · refine hR.bind (hR.takeResponse _) fun res => ?_
    split <;> exact hR.pure _
  · split
    · exact hR.bind (hR.takeResponse _) fun _ => hR.pure _
    · exact hR.bind (hR.update _ _) fun _ => hR.pure _

/-! Actions. -/

theorem resetStream (reason : Nat) (initiator : Initiator) (k : Key) :
    Keeps R (Actions.resetStream reason initiator k) :=
  hR.bind (hR.sendReset _ _ _) fun _ => hR.bind (hR.enqueueResetExpiration _) fun _ => hR.update _ _

theorem incNumLocalErrorResets : Keeps R Counts.incNumLocalErrorResets :=
  Chains.checked fun s => hR.errorReset s _

theorem actionsSendReset (k : Key) (reason : Nat) (initiator : Initiator) :
    Keeps R (Actions.sendReset k reason initiator) := by
  refine hR.transition _ (hR.bind hR.get fun s => .ite (hR.pure _) ?_)
  exact hR.bind (hR.when _ hR.incNumLocalErrorResets) fun _ =>
    hR.bind (hR.resetStream _ _ _) fun _ => hR.pure _

theorem resetOnRecvStreamErr (k : Key) (res : Except ProtoError Unit) :
    Keeps R (Actions.resetOnRecvStreamErr k res) := by
  unfold Actions.resetOnRecvStreamErr
  split
  · refine hR.bind (hR.resolve _) fun st => hR.bind (hR.debugAssert _) fun _ => hR.bind hR.get fun s =>
      .ite ?_ (hR.pure _)
    exact hR.bind hR.incNumLocalErrorResets fun _ => hR.bind (hR.resetStream _ _ _) fun _ => hR.pure _
  · exact hR.pure _

theorem nextStreamIdOf (id : Nat) : Keeps R (Actions.nextStreamIdOf id) :=
  hR.bind (hR.isLocalInit _) fun _ => hR.bind hR.get fun _ => hR.pure _

theorem ensureNotIdle (id : Nat) : Keeps R (Actions.ensureNotIdle id) := by
  refine hR.bind (hR.nextStreamIdOf _) fun o => ?_
  split <;> exact hR.pure _

theorem isForgottenStream (id : Nat) : Keeps R (Actions.isForgottenStream id) := by
  unfold Actions.isForgottenStream
  split
  · exact hR.pure _
  · refine hR.bind (hR.nextStreamIdOf _) fun o => ?_
    split
    · exact hR.bind (hR.debugAssert _) fun _ => hR.pure _
    · exact hR.pure _

theorem insertStream (id : Nat) (st : Stream) : Keeps R (Inner.insertStream id st) := by
  intro s a s' h
  cases h
  exact hR.store s _

theorem find (id : Nat) : Keeps R (Inner.find id) := hR.bind hR.get fun _ => hR.pure _

theorem recvHeaderBlock (frame : Headers) (k : Key) : Keeps R (Inner.recvHeaderBlock frame k) := by
  refine hR.bind (hR.recvHeaders _ _) fun res => ?_
  split
  · exact hR.pure _
  · refine hR.bind ?_ fun _ => hR.pure _
    exact hR.bind (hR.sendHeaders _ _) fun _ => hR.bind (hR.debugAssert _) fun _ =>
      hR.bind (hR.scheduleImplicitReset _ _) fun _ => hR.enqueueResetExpiration _
  · exact hR.bind (hR.resolve _) fun _ => hR.pure _
  · exact hR.pure _

theorem recvStreamHeaders (frame : Headers) (k : Key) : Keeps R (Inner.recvStreamHeaders frame k) := by
  refine hR.bind (hR.resolve _) fun st => ?_
  split
  · exact hR.bind (hR.recvHeaderBlock _ _) fun _ => hR.resetOnRecvStreamErr _ _
  · split
    · exact hR.pure _
    · exact hR.bind (hR.recvTrailers _ _) fun _ => hR.resetOnRecvStreamErr _ _

theorem innerRecvReset (frame : Reset) : Keeps R (Inner.recvReset frame) := by
  refine hR.bind hR.get fun s => ?_
  split
  · exact hR.pure _
  · split
    · exact hR.pure _
    · refine hR.bind (hR.find _) fun o => ?_
      split
      · exact hR.bind (hR.ensureNotIdle _) fun _ => hR.pure _
      · refine hR.transition _ (hR.bind (hR.recvReset _ _) fun res => ?_)
        split
        · exact hR.pure _
        · exact hR.bind (hR.sendHandleError _) fun _ => hR.bind (hR.resolve _) fun _ =>
            hR.bind (hR.assert _) fun _ => hR.pure _

theorem maybeResetNextStreamId (isLocal : Bool) (id : Nat) :
    Keeps R (Inner.maybeResetNextStreamId isLocal id) := by
  cases isLocal with
  | true =>
    refine .get_bind fun s => ?_
    split
    · exact hR.pure _ s
    · refine .read_bind (fun a s' h => (debugAssert_some.mp h).2.symm) fun _ a s' h => ?_
      rcases when_some.mp h with ⟨-, h⟩ | ⟨-, rfl⟩
      · obtain rfl := set_some.mp h
        exact hR.nextSend s _
      · exact hR.refl s
  | false =>
    refine .get_bind fun s => ?_
    split
    · exact hR.pure _ s
    · refine .read_bind (fun a s' h => (debugAssert_some.mp h).2.symm) fun _ a s' h => ?_
      rcases when_some.mp h with ⟨-, h⟩ | ⟨-, rfl⟩
      · obtain rfl := set_some.mp h
        exact hR.nextRecv s _
      · exact hR.refl s

theorem innerSendReset (id reason : Nat) : Keeps R (Inner.sendReset id reason) := by
  refine hR.bind (hR.bind (hR.find _) fun o => ?_) fun _ => hR.actionsSendReset _ _ _
  split
  · exact hR.pure _
  · exact hR.bind (hR.isLocalInit _) fun _ => hR.bind (hR.maybeResetNextStreamId _ _) fun _ =>
      hR.insertStream _ _

theorem failStream (err : ProtoError) (k : Key) : Keeps R (Inner.failStream err k) :=
  hR.transition _ (hR.bind (hR.recvHandleError _ _) fun _ => hR.sendHandleError _)

theorem innerRecvGoAway (frame : GoAway) : Keeps R (Inner.recvGoAway frame) := by
  refine hR.bind ?_ fun res => ?_
  · refine .get_bind fun s => ?_
    split
    · exact hR.pure _ s
    · exact .bind hR.trans (.set (hR.maxSend s _)) fun _ => hR.pure _
  · split
    · exact hR.pure _
    · refine hR.bind (hR.forEach fun k => ?_) fun _ => hR.bind (.modify fun s => hR.connError s _) fun _ =>
        hR.pure _
      exact hR.bind (hR.resolve _) fun _ => hR.when _ (hR.failStream _ _)

theorem recvWindowUpdate (frame : WindowUpdate) : Keeps R (Inner.recvWindowUpdate frame) := by
  unfold Inner.recvWindowUpdate
  split
  · exact hR.bind (hR.recvConnectionWindowUpdate _) fun _ => hR.pure _
  · refine hR.bind (hR.find _) fun o => ?_
    split
    · exact hR.bind (hR.recvStreamWindowUpdate _ _) fun _ => hR.resetOnRecvStreamErr _ _
    · exact hR.bind (hR.ensureNotIdle _) fun _ => hR.pure _

theorem innerHandleError (err : ProtoError) : Keeps R (Inner.handleError err) :=
  hR.bind (hR.forEach fun _ => hR.failStream _ _) fun _ => .modify fun s => hR.connError s _

theorem innerRecvEof (b : Bool) : Keeps R (Inner.recvEof b) := by
  refine hR.bind (.modify fun s => hR.connError s _) fun _ => hR.bind (hR.forEach fun k => ?_) fun _ => ?_
  · exact hR.transition _ (hR.bind (hR.update _ _) fun _ => hR.sendHandleError _)
  · exact hR.bind (hR.recvClearQueues _) fun _ => hR.sendClearQueues

/-! The handles. -/

theorem refInc (k : Key) : Keeps R (TwoPlz.refInc k) :=
  hR.bind (hR.resolve _) fun _ => hR.bind (hR.assert _) fun _ => hR.update _ _

theorem newRef (k : Key) : Keeps R (TwoPlz.newRef k) :=
  hR.bind (.modify fun s => hR.refs s _) fun _ => hR.refInc _

theorem queueBodyTrailer (k : Key) (data : Option Data) (trailer : Option Headers) :
    Keeps R (TwoPlz.queueBodyTrailer k data trailer) :=
  hR.bind (hR.whenSome _ fun _ => hR.bind (hR.update _ _) fun _ => hR.pushBackSend _ _) fun _ =>
    hR.whenSome _ fun _ => hR.pushBackSend _ _

theorem sendRequest (request : Request) (isSpa : Bool) :
    Keeps R (Streams.sendRequest request isSpa) := by
  refine hR.bind hR.get fun s => ?_
  split
  · exact hR.pure _
  · split
    · exact hR.pure _
    · split
      · exact hR.pure _
      · refine hR.bind ?_ fun res => ?_
        · refine .get_bind fun s => ?_
          split
          · exact hR.pure _ s
          · exact .bind hR.trans (.set (hR.nextSend s _)) fun _ => hR.pure _
        · split
          · exact hR.pure _
          · refine hR.bind hR.get fun s => hR.bind (hR.assert _) fun _ =>
              hR.bind (hR.insertStream _ _) fun k => hR.bind (hR.sendHeaders _ _) fun res => ?_
            split
            · exact hR.bind (.modify fun s => hR.store s _) fun _ =>
                hR.bind (hR.removeStream _) fun _ => hR.pure _
            · exact hR.bind (hR.queueBodyTrailer _ _ _) fun _ => hR.bind (hR.resolve _) fun _ =>
                hR.bind (hR.debugAssert _) fun _ => hR.bind (hR.newRef _) fun _ => hR.pure _

theorem accept : Keeps R Streams.accept := by
  refine hR.bind (hR.pop _) fun o => ?_
  split
  · exact hR.pure _
  · refine hR.bind (hR.resolve _) fun _ => hR.bind (hR.when _ ?_) fun _ => hR.bind (hR.newRef _) fun _ =>
      hR.bind (hR.takeRequest _) fun _ => hR.pure _
    exact Chains.checked fun s => hR.remoteReset s _

theorem sendResponse (k : Key) (response : Response) : Keeps R (StreamRef.sendResponse k response) := by
  refine hR.bind (hR.resolve _) fun st => ?_
  split
  · exact hR.bind hR.wake fun _ => hR.pure _
  · refine hR.bind (hR.resolve _) fun st => hR.bind (hR.transition _ (hR.sendHeaders _ _)) fun res => ?_
    split
    · exact hR.pure _
    · exact hR.bind (hR.queueBodyTrailer _ _ _) fun _ => hR.pure _

theorem refSendReset (k : Key) (reason : Nat) : Keeps R (StreamRef.sendReset k reason) := by
  refine hR.bind (hR.actionsSendReset _ _ _) fun res => ?_
  split
  · exact hR.pure _
  · exact Chains.abort

theorem drop (k : Key) : Keeps R (OpaqueStreamRef.drop k) := by
  refine .get_bind fun s => .read_bind (fun a s' h => (assert_some.mp h).2.symm) fun _ =>
    .bind hR.trans (.set (hR.refs s _)) fun _ => ?_
  refine hR.bind (hR.bind (hR.resolve _) fun _ => hR.bind (hR.assert _) fun _ => hR.update _ _) fun _ =>
    hR.bind (hR.resolve _) fun _ => hR.bind (hR.when _ hR.wake) fun _ =>
      hR.bind (hR.when _ (hR.bind (hR.recvConnectionWindowUpdate _) fun _ => hR.pure _)) fun _ =>
        hR.bind (hR.recvClearStreamQueue _) fun _ => hR.transition _ ?_
  exact hR.bind (hR.resolve _) fun _ => hR.bind hR.get fun _ => hR.when _
    (hR.bind (hR.scheduleImplicitReset _ _) fun _ => hR.enqueueResetExpiration _)

theorem fillFrames (flushed : Bool) : Keeps R (TwoPlz.fillFrames flushed) := by
  refine hR.bind hR.get fun s => ?_
  split
  · exact hR.pure _
  · refine .ite (hR.pure _) (hR.bind ?_ fun _ => .ite (.modify fun s => hR.spa s _) (hR.pure _))
    rename_i spa _
    induction spa.pendingSpa.mergeSort (· ≤ ·) with
    | nil => exact hR.pure _
    | cons id ids ih =>
      refine hR.bind (hR.bind hR.get fun _ => hR.bind (hR.lift _) fun k =>
        hR.bind (hR.popFrontSend _) fun o => ?_) fun _ => ih
      split
      · exact Chains.abort
      · exact hR.sendClose _
      · exact hR.pure _

theorem goAway (id : Nat) : Keeps R (Recv.goAway id) := by
  refine .get_bind fun s => .read_bind (fun a s' h => (assert_some.mp h).2.symm) fun _ =>
    .set (hR.maxRecv s _)

theorem recvStreamData (hstream : ∀ s o, R s { s with recv.checkStreamWindowUpdate := o }) (frame : Data)
    (size : Nat) (k : Key) : Keeps R (Recv.recvStreamData frame size k) := by
  refine hR.bind (hR.resolve _) fun st => ?_
  dsimp only
  split
  · exact hR.pure _
  · split
    · exact hR.pure _
    · refine hR.bind (hR.update _ _) fun _ => ?_
      split
      · exact hR.pure _
      · split
        · exact hR.pure _
        · refine hR.bind (hR.update _ _) fun _ => ?_
          split
          · exact hR.pure _
          · refine hR.bind (hR.update _ _) fun _ => hR.bind (hR.pushBackRecv _ _) fun _ =>
              hR.bind hR.get fun s => ?_
            split
            · exact hR.bind (hR.update _ _) fun _ => hR.pure _
            · split
              · exact hR.bind (hR.moveFromPendingComplete _) fun _ => hR.pure _
              · exact hR.bind (.modify fun s => hstream s _) fun _ => hR.pure _

/-! DATA and the window updates, for a relation that does not see what they set. -/

section

variable (hflow : ∀ s flow, R s { s with recv.flow := flow })
variable (hconn : ∀ s, R s { s with recv.checkConnectionWindowUpdate := true })
variable (hstream : ∀ s o, R s { s with recv.checkStreamWindowUpdate := o })

include hflow

theorem decConnectionWindow (size : Nat) : Keeps R (Recv.decConnectionWindow size) := by
  refine .get_bind fun s => ?_
  split
  · exact hR.pure _ s
  · split
    · exact hR.pure _ s
    · exact .bind hR.trans (.set (hflow s _)) fun _ => hR.pure _

include hconn

theorem recvDataUnknown (frame : Data) : Keeps R (Inner.recvDataUnknown frame) := by
  refine hR.bind hR.get fun s => .ite (hR.pure _) (hR.bind (hR.isForgottenStream _) fun b => ?_)
  split
  · refine hR.bind (hR.assert _) fun _ => hR.bind (.modify fun s => hconn s) fun _ =>
      hR.bind (hR.decConnectionWindow hflow _) fun res => ?_
    split <;> exact hR.pure _
  · exact hR.pure _

include hstream

theorem recvData (frame : Data) (k : Key) : Keeps R (Recv.recvData frame k) := by
  refine hR.bind (hR.assert _) fun _ => hR.bind (hR.decConnectionWindow hflow _) fun res => ?_
  split
  · exact hR.pure _
  · refine hR.bind (.modify fun s => hconn s) fun _ => hR.bind (hR.resolve _) fun st => ?_
    split
    · exact hR.pure _
    · split
      · exact hR.pure _
      · exact hR.recvStreamData hstream _ _ _

theorem innerRecvData (frame : Data) : Keeps R (Inner.recvData frame) := by
  refine hR.bind (hR.find _) fun o => ?_
  split
  · exact hR.recvDataUnknown hflow hconn _
  · exact hR.transition _ (hR.bind (hR.recvData hflow hconn hstream _ _) fun _ =>
      hR.resetOnRecvStreamErr _ _)

end

theorem pollStreamWindowUpdate (ready : Bool) : Keeps R (Inner.pollStreamWindowUpdate ready) := by
  refine hR.bind hR.get fun s => ?_
  split
  · exact hR.pure _
  · refine hR.bind (hR.resolve _) fun st => ?_
    split
    · exact hR.pure _
    · exact .ite (hR.pure _) (hR.bind (hR.find _) fun _ =>
        hR.bind (hR.whenSome _ fun _ => hR.update _ _) fun _ => hR.pure _)

theorem pollWindowUpdate (hflow : ∀ s flow, R s { s with recv.flow := flow })
    (hoff : ∀ s, R s { s with
      recv.checkConnectionWindowUpdate := false, recv.checkStreamWindowUpdate := none }) (ready : Bool) :
    Keeps R (Inner.pollWindowUpdate ready) := by
  refine .get_bind fun s => ?_
  split
  · exact hR.pure _ s
  · refine .bind hR.trans (fun a s' h => ?_) fun _ => hR.bind (hR.pollStreamWindowUpdate _) fun res => ?_
    · rcases M.whenSome_some.mp h with ⟨size, -, h⟩ | ⟨-, rfl⟩
      · obtain rfl := M.set_some.mp h
        exact hflow s _
      · exact hR.refl s
    · split
      · exact hR.pure _
      · exact hR.bind (.modify hoff) fun _ => hR.pure _

/-! HEADERS, for a relation that does not see the refused stream. -/

section

variable (hrefused : ∀ s o, R s { s with recv.refused := o })

include hrefused

theorem canOpen (id : Nat) : Keeps R (Recv.canOpen id) := by
  refine hR.bind hR.get fun s => hR.bind (hR.assert _) fun _ => ?_
  split
  · exact hR.pure _
  · exact hR.pure _
  · split
    · exact hR.pure _
    · refine hR.bind (.modify fun s => hR.nextRecv s _) fun _ => .ite ?_ (hR.pure _)
      exact hR.bind (.modify fun s => hrefused s _) fun _ => hR.pure _

theorem insertOrCreate (id : Nat) : Keeps R (Inner.insertOrCreate id) := by
  refine hR.bind (hR.find _) fun o => ?_
  split
  · exact hR.pure _
  · refine hR.bind hR.get fun s => hR.bind ?_ fun forgotten => .ite (hR.pure _) ?_
    · exact hR.bind hR.get fun s => .ite (hR.pure _) (hR.isForgottenStream _)
    · refine hR.bind (hR.canOpen hrefused _) fun res => ?_
      split
      · exact hR.pure _
      · exact hR.pure _
      · exact hR.bind (hR.insertStream _ _) fun _ => hR.pure _

theorem innerRecvHeaders (frame : Headers) : Keeps R (Inner.recvHeaders frame) := by
  refine hR.bind hR.get fun s => ?_
  split
  · exact hR.pure _
  · refine hR.bind (hR.insertOrCreate hrefused _) fun res => ?_
    split
    · exact hR.pure _
    · exact hR.pure _
    · exact hR.bind (hR.resolve _) fun st => .ite (hR.pure _) (hR.transition _ (hR.recvStreamHeaders _ _))

end

end BlindHandle

structure BlindFlow (R : Inner → Inner → Prop) : Prop extends BlindRecv R where
  recvFlow : ∀ s flow, R s { s with recv.flow := flow }

theorem BlindFlow.innerRecvData {R : Inner → Inner → Prop} (hR : BlindFlow R) (frame : Data) :
    Keeps R (Inner.recvData frame) :=
  hR.toBlindHandle.innerRecvData hR.recvFlow hR.checkConnection hR.checkStream frame

structure BlindSettings (R : Inner → Inner → Prop) : Prop extends BlindRecv R where
  maxSendStreams : ∀ s n, R s { s with counts.maxSendStreams := n }
  sendWindow : ∀ s n, R s { s with send.initStreamWindowSz := n }
  pushEnabled : ∀ s b, R s { s with send.isPushEnabled := b }
  connect : ∀ s b, R s { s with send.isExtendedConnectProtocolEnabled := b }

theorem Blind.adjustWindows {R : Inner → Inner → Prop} (hR : Blind R) (old new : Nat) :
    Keeps R (Send.adjustWindows old new) := by
  unfold Send.adjustWindows
  split
  · refine hR.bind (hR.tryForEach (hR.decreaseWindow _) _) fun res => ?_
    split
    · exact hR.pure _
    · exact hR.bind (hR.when _ (hR.bind (hR.recvConnectionWindowUpdate _) fun _ => hR.pure _)) fun _ =>
        hR.pure _
  · exact .ite (hR.tryForEach (hR.increaseWindow _) _) (hR.pure _)

theorem Blind.applyRemoteSettings {R : Inner → Inner → Prop} (hR : Blind R)
    (hmax : ∀ s n, R s { s with counts.maxSendStreams := n })
    (hwindow : ∀ s n, R s { s with send.initStreamWindowSz := n })
    (hpush : ∀ s b, R s { s with send.isPushEnabled := b })
    (hconnect : ∀ s b, R s { s with send.isExtendedConnectProtocolEnabled := b })
    (settings : Settings) : Keeps R (Streams.applyRemoteSettings settings) := by
  refine hR.bind (.modify fun s => hmax s _) fun _ => hR.bind (.modify fun s => ?_) fun _ => ?_
  · exact hR.trans _ _ _ (hpush s (settings.isPushEnabled.getD s.send.isPushEnabled)) (hconnect _ _)
  · split
    · exact .get_bind fun s => .bind hR.trans (.set (hwindow s _)) fun _ => hR.adjustWindows _ _
    · exact hR.pure _

theorem BlindSettings.applyRemoteSettings {R : Inner → Inner → Prop} (hR : BlindSettings R)
    (settings : Settings) : Keeps R (Streams.applyRemoteSettings settings) :=
  hR.toBlind.applyRemoteSettings hR.maxSendStreams hR.sendWindow hR.pushEnabled hR.connect settings

end TwoPlz
