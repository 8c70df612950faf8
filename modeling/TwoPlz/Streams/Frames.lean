import TwoPlz.Streams.Chains
import TwoPlz.Streams.Send

/-! What sending leaves alone. -/

namespace TwoPlz

variable [HeaderPlz] [StoreCrates]

/-- `R` does not see what the streams layer changes when it sends. -/
structure Blind (R : Inner → Inner → Prop) : Prop extends Chains R where
  store : ∀ s store, R s { s with store := store }
  queue : ∀ s n q, R s (s.setQueue n q)
  flow : ∀ s flow, R s { s with send.flow := flow }
  task : ∀ s task, R s { s with task := task }
  sendBuffer : ∀ s n, R s { s with sendBuffer := n }
  recvBuffer : ∀ s n, R s { s with recv.buffer := n }
  spa : ∀ s spa, R s { s with send.spaTracker := spa }
  lastOpened : ∀ s id, R s { s with send.lastOpenedId := id }
  numSend : ∀ s n, R s { s with counts.numSendStreams := n }
  numRecv : ∀ s n, R s { s with counts.numRecvStreams := n }
  numReset : ∀ s n, R s { s with counts.numLocalResetStreams := n }

namespace Blind

open M

variable {R : Inner → Inner → Prop} (hR : Blind R) {α β : Type}

include hR

theorem update (k : Key) (f : Stream → Stream) : Keeps R (M.update k f) := by
  intro s a s' h
  obtain ⟨st, -, rfl⟩ := update_some.mp h
  exact hR.store s _

theorem queued {op : Inner → Option (α × Queue × Store)} (n : Next) :
    Keeps R (fun s => (op s).map fun r => (r.1, { s with store := r.2.2 }.setQueue n r.2.1)) := by
  intro s a s' h
  obtain ⟨r, -, heq⟩ := Option.map_eq_some_iff.mp h
  cases heq
  exact hR.trans _ _ _ (hR.store s r.2.2) (hR.queue _ n r.2.1)

theorem push (n : Next) (k : Key) : Keeps R (M.push n k) := hR.queued n

theorem pushFront (n : Next) (k : Key) : Keeps R (M.pushFront n k) := hR.queued n

theorem pop (n : Next) : Keeps R (M.pop n) := hR.queued n

theorem popIf (n : Next) (f : Stream → Bool) : Keeps R (M.popIf n f) := hR.queued n

theorem wake : Keeps R M.wake := .modify fun s => hR.task s none

theorem pushBackSend (k : Key) (frame : Frame) : Keeps R (M.pushBackSend k frame) :=
  hR.bind (hR.update _ _) fun _ => .modify fun s => hR.sendBuffer s _

theorem pushFrontSend (k : Key) (frame : Frame) : Keeps R (M.pushFrontSend k frame) :=
  hR.bind (hR.update _ _) fun _ => .modify fun s => hR.sendBuffer s _

theorem popFrontSend (k : Key) : Keeps R (M.popFrontSend k) := by
  refine hR.bind (hR.resolve _) fun st => ?_
  split
  · exact hR.pure _
  · exact hR.bind (hR.update _ _) fun _ =>
      hR.bind (.modify fun s => hR.sendBuffer s _) fun _ => hR.pure _

theorem drainSend (k : Key) : Keeps R (M.drainSend k) :=
  hR.bind (hR.resolve _) fun _ => hR.bind (hR.update _ _) fun _ => .modify fun s => hR.sendBuffer s _

theorem pushBackRecv (k : Key) (event : RecvEvent) : Keeps R (M.pushBackRecv k event) :=
  hR.bind (hR.update _ _) fun _ => .modify fun s => hR.recvBuffer s _

theorem drainRecv (k : Key) : Keeps R (M.drainRecv k) :=
  hR.bind (hR.resolve _) fun _ => hR.bind (hR.update _ _) fun _ =>
    hR.bind (.modify fun s => hR.recvBuffer s _) fun _ => hR.pure _

/-! The loops. -/

theorem clearQueueLoop (n : Next) {f : Key → M Unit} (hf : ∀ k, Keeps R (f k)) (m : Nat) :
    Keeps R (TwoPlz.clearQueueLoop n f m) := by
  induction m with
  | zero => exact Chains.abort
  | succ m ih =>
    refine hR.bind (hR.pop n) fun o => ?_
    split
    · exact hR.pure _
    · exact hR.bind (hf _) fun _ => ih

theorem clearQueue (n : Next) {f : Key → M Unit} (hf : ∀ k, Keeps R (f k)) :
    Keeps R (TwoPlz.clearQueue n f) :=
  hR.bind hR.get fun _ => hR.clearQueueLoop n hf _

/-! Counts. -/

theorem decNumResetStreams : Keeps R Counts.decNumResetStreams := Chains.checked fun s => hR.numReset s _

theorem decNumOf (isLocal : Bool) : Keeps R (Counts.decNumOf isLocal) := by
  cases isLocal with
  | true => exact Chains.checked fun s => hR.numSend s _
  | false => exact Chains.checked fun s => hR.numRecv s _

theorem decNumStreams (k : Key) : Keeps R (Counts.decNumStreams k) :=
  hR.bind (hR.resolve _) fun _ => hR.bind (hR.assert _) fun _ => hR.bind (hR.isLocalInit _) fun _ =>
    hR.bind (hR.decNumOf _) fun _ => hR.update _ _

theorem retire (k : Key) (b : Bool) : Keeps R (Counts.retire k b) :=
  hR.bind (hR.resolve _) fun _ =>
    hR.bind (hR.when _ (hR.bind (.modify fun s => hR.store s _) fun _ =>
      hR.when _ hR.decNumResetStreams)) fun _ => hR.when _ (hR.decNumStreams k)

theorem removeStream (k : Key) : Keeps R (Counts.removeStream k) := by
  intro s a s' h
  obtain ⟨store, -, heq⟩ := Option.map_eq_some_iff.mp h
  cases heq
  exact hR.store s store

theorem transitionAfter (k : Key) (b : Bool) : Keeps R (Counts.transitionAfter k b) :=
  hR.bind (hR.resolve _) fun _ => hR.bind (hR.when _ (hR.retire _ _)) fun _ =>
    hR.bind (hR.resolve _) fun _ => hR.when _ (hR.removeStream _)

theorem transition (k : Key) {m : M α} (hm : Keeps R m) : Keeps R (Counts.transition k m) :=
  hR.bind (hR.resolve _) fun _ => hR.bind hm fun _ => hR.bind (hR.transitionAfter _ _) fun _ =>
    hR.pure _

/-! Send. -/

theorem modifySpa (f : SpaTracker → SpaTracker) : Keeps R (Send.modifySpa f) :=
  .modify fun s => hR.spa s _

theorem scheduleSend (k : Key) : Keeps R (Send.scheduleSend k) :=
  hR.bind (hR.resolve _) fun _ => hR.when _ (hR.bind (hR.push _ _) fun _ => hR.wake)

theorem queueFrame (frame : Frame) (k : Key) : Keeps R (Send.queueFrame frame k) :=
  hR.bind (hR.pushBackSend _ _) fun _ => hR.scheduleSend _

theorem clearStreamQueue (k : Key) : Keeps R (Send.clearStreamQueue k) :=
  hR.bind (hR.drainSend _) fun _ => hR.update _ _

theorem allocate (k : Key) (a : Nat) : Keeps R (Send.allocate k a) :=
  hR.bind (hR.resolve _) fun _ => hR.bind (hR.addU32 _ _) fun _ => hR.bind (hR.update _ _) fun _ =>
    .modify fun s => hR.flow s _

theorem tryAssignCapacity (k : Key) : Keeps R (Send.tryAssignCapacity k) := by
  refine hR.bind (hR.resolve _) fun st => hR.bind hR.get fun s => ?_
  dsimp only
  split
  · exact hR.pure _
  · split
    · exact hR.bind (hR.push _ _) fun _ => hR.pure _
    · split
      · exact hR.pure _
      · exact hR.bind (hR.push _ _) fun _ => .ite (hR.pure _) (hR.allocate _ _)

theorem assignConnectionCapacityLoop (n : Nat) : Keeps R (Send.assignConnectionCapacityLoop n) := by
  induction n with
  | zero => exact Chains.abort
  | succ n ih =>
    refine hR.bind hR.get fun s => ?_
    split
    · refine hR.bind (hR.pop _) fun o => ?_
      split
      · exact hR.pure _
      · refine hR.bind (hR.resolve _) fun st => ?_
        split
        · exact ih
        · exact hR.bind (hR.transition _ (hR.tryAssignCapacity _)) fun _ => ih
    · exact hR.pure _

theorem assignConnectionCapacity : Keeps R Send.assignConnectionCapacity :=
  hR.bind hR.get fun _ => hR.assignConnectionCapacityLoop _

theorem recvConnectionWindowUpdate (inc : Nat) : Keeps R (Send.recvConnectionWindowUpdate inc) := by
  refine .get_bind fun s => ?_
  split
  · exact hR.pure _ s
  · exact .bind hR.trans (.set (hR.flow s _)) fun _ =>
      hR.bind hR.assignConnectionCapacity fun _ => hR.pure _

theorem reclaimAllCapacity (k : Key) : Keeps R (Send.reclaimAllCapacity k) :=
  hR.bind (hR.resolve _) fun _ => hR.when _ (hR.bind (hR.recvConnectionWindowUpdate _) fun _ =>
    hR.pure _)

theorem sendReset (reason : Nat) (initiator : Initiator) (k : Key) :
    Keeps R (Send.sendReset reason initiator k) := by
  refine hR.bind (hR.resolve _) fun st => ?_
  split
  · exact hR.pure _
  · refine hR.bind (hR.update _ _) fun _ => ?_
    split
    · exact hR.pure _
    · exact hR.bind (hR.clearStreamQueue _) fun _ => hR.bind (hR.queueFrame _ _) fun _ =>
        hR.reclaimAllCapacity _

theorem scheduleImplicitReset (k : Key) (reason : Nat) :
    Keeps R (Send.scheduleImplicitReset k reason) := by
  refine hR.bind (hR.resolve _) fun st => ?_
  split
  · exact hR.pure _
  · exact hR.bind (hR.update _ _) fun _ => hR.bind (hR.reclaimAllCapacity _) fun _ =>
      hR.scheduleSend _

theorem recvStreamWindowUpdate (sz : Nat) (k : Key) : Keeps R (Send.recvStreamWindowUpdate sz k) := by
  refine hR.bind (hR.resolve _) fun st => ?_
  split
  · exact hR.pure _
  · refine hR.bind (hR.modifySpa _) fun _ => ?_
    split
    · exact hR.bind (hR.sendReset _ _ _) fun _ => hR.pure _
    · exact hR.bind (hR.update _ _) fun _ => hR.bind (hR.tryAssignCapacity _) fun _ => hR.pure _

theorem decreaseWindow (dec total : Nat) (k : Key) : Keeps R (Send.decreaseWindow dec total k) := by
  refine hR.bind (hR.resolve _) fun st => ?_
  split
  · exact hR.pure _
  · split
    · exact hR.pure _
    · refine hR.bind (hR.update _ _) fun _ => ?_
      split
      · exact hR.bind (hR.addU32 _ _) fun _ => hR.bind (hR.update _ _) fun _ => hR.pure _
      · exact hR.pure _

theorem increaseWindow (inc : Nat) (u : Unit) (k : Key) : Keeps R (Send.increaseWindow inc u k) :=
  hR.bind (hR.recvStreamWindowUpdate _ _) fun _ => hR.pure _

theorem sendHeaders (frame : Headers) (k : Key) : Keeps R (Send.sendHeaders frame k) := by
  unfold Send.sendHeaders
  split
  · exact hR.pure _
  · refine hR.bind (hR.resolve _) fun st => ?_
    split
    · exact hR.pure _
    · exact hR.bind (hR.update _ _) fun _ => hR.bind (hR.isLocalInit _) fun _ =>
        hR.bind (hR.when _ (hR.bind (hR.push _ _) fun _ => hR.pure _)) fun _ =>
          hR.bind (hR.queueFrame _ _) fun _ => hR.bind (hR.when _ hR.wake) fun _ => hR.pure _

theorem sendHandleError (k : Key) : Keeps R (Send.handleError k) :=
  hR.bind (hR.clearStreamQueue _) fun _ => hR.reclaimAllCapacity _

theorem sendClearQueues : Keeps R Send.clearQueues := by
  refine hR.bind (hR.clearQueue _ fun k => hR.transition _ (hR.pure _)) fun _ =>
    hR.bind (hR.clearQueue _ fun k => ?_) fun _ => hR.clearQueue _ fun k => ?_
  · exact hR.bind (hR.resolve _) fun _ =>
      hR.bind (hR.whenSome _ fun _ => hR.update _ _) fun _ => hR.transitionAfter _ _
  · exact hR.bind (hR.resolve _) fun _ => hR.transitionAfter _ _

/-! Polling. -/

theorem incNumSendStreams (k : Key) : Keeps R (Counts.incNumSendStreams k) := by
  refine .get_bind fun s => .read_bind (fun a s' h => (assert_some.mp h).2.symm) fun _ =>
    .read_bind (fun a s' h => (resolve_some.mp h).2.symm) fun st =>
      .read_bind (fun a s' h => (assert_some.mp h).2.symm) fun _ => ?_
  exact .bind hR.trans (.set (hR.numSend s _)) fun _ => hR.update _ _

theorem popPendingOpen : Keeps R Send.popPendingOpen := by
  refine hR.bind hR.get fun s => ?_
  split
  · refine hR.bind (hR.pop _) fun o => ?_
    split
    · exact hR.bind (hR.incNumSendStreams _) fun _ => hR.pure _
    · exact hR.pure _
  · exact hR.pure _

theorem tryAllocateStreamFlow (k : Key) (rem available : Nat) :
    Keeps R (Send.tryAllocateStreamFlow k rem available) := by
  refine hR.bind (hR.resolve _) fun st => hR.bind hR.get fun s => ?_
  dsimp only
  split
  · exact hR.pure _
  · split
    · exact hR.pure _
    · exact hR.bind (hR.allocate _ _) fun _ => hR.pure _

theorem sendClose (k : Key) : Keeps R (Send.sendClose k) :=
  hR.bind (hR.resolve _) fun _ => hR.bind (hR.lift _) fun _ => hR.update _ _

theorem setDataFrameEos (k : Key) (toRet : Data) (remaining : Option Data) :
    Keeps R (Send.setDataFrameEos k toRet remaining) := by
  refine hR.bind (hR.resolve _) fun st => ?_
  split
  · split
    · exact hR.bind (hR.sendClose _) fun _ => hR.pure _
    · exact hR.bind (hR.update _ _) fun _ => hR.pure _
  · split
    · exact hR.bind (hR.pushFrontSend _ _) fun _ => hR.pure _
    · exact hR.pure _

theorem popEmptyDataFrame (k : Key) (frame : Data) : Keeps R (Send.popEmptyDataFrame k frame) := by
  refine hR.bind (hR.update _ _) fun _ => hR.bind hR.get fun s => hR.bind (hR.resolve _) fun st => ?_
  split
  · exact hR.bind (hR.modifySpa _) fun _ => hR.bind (hR.pushFrontSend _ _) fun _ => hR.pure _
  · exact hR.bind (hR.setDataFrameEos _ _ _) fun _ => hR.pure _

theorem emitData (k : Key) (rem maxFrameSize available : Nat) (frame : Data) :
    Keeps R (Send.emitData k rem maxFrameSize available frame) :=
  hR.bind (hR.resolve _) fun _ => hR.bind hR.get fun _ => hR.bind (hR.update _ _) fun _ =>
    hR.bind (hR.assert _) fun _ => hR.bind (hR.setDataFrameEos _ _ _) fun _ => hR.pure _

theorem popDataFrame (k : Key) (maxFrameSize : Nat) (frame : Data) :
    Keeps R (Send.popDataFrame k maxFrameSize frame) := by
  refine hR.bind (hR.resolve _) fun st => ?_
  split
  · exact hR.pure _
  · split
    · exact hR.popEmptyDataFrame _ _
    · dsimp only
      split
      · exact hR.bind (hR.modifySpa _) fun _ => hR.bind (hR.pushFrontSend _ _) fun _ => hR.pure _
      · refine hR.bind (hR.tryAllocateStreamFlow _ _ _) fun b => ?_
        split
        · exact hR.bind (hR.pushFrontSend _ _) fun _ => hR.bind (hR.push _ _) fun _ => hR.pure _
        · exact hR.emitData _ _ _ _ _

theorem nextFrame (k : Key) (maxFrameSize : Nat) (b : Bool) :
    Keeps R (Send.nextFrame k maxFrameSize b) := by
  refine hR.bind (hR.popFrontSend _) fun o => ?_
  split
  · exact hR.popDataFrame _ _ _
  · exact hR.bind (hR.resolve _) fun _ => hR.bind (hR.when _ (hR.tryAssignCapacity _)) fun _ =>
      hR.bind (hR.when _ (hR.sendClose _)) fun _ => hR.pure _
  · exact hR.pure _
  · refine hR.bind (hR.resolve _) fun st => ?_
    split
    · exact hR.bind (hR.update _ _) fun _ => hR.pure _
    · exact hR.bind (hR.debugAssert _) fun _ => hR.bind (hR.transitionAfter _ _) fun _ => hR.pure _

theorem requeue (k : Key) : Keeps R (Send.requeue k) := by
  refine hR.bind (hR.resolve _) fun st => .get_bind fun s => ?_
  refine .bind hR.trans ?_ fun _ => ?_
  · cases st.state.isIdle with
    | true => exact .set (hR.lastOpened s _)
    | false => exact hR.pure _ s
  · split
    · exact hR.bind (hR.debugAssert _) fun _ => hR.modifySpa _
    · split
      · exact hR.bind (hR.push _ _) fun _ => hR.pure _
      · exact hR.pure _

theorem popFrameLoop (maxFrameSize n : Nat) : Keeps R (Send.popFrameLoop maxFrameSize n) := by
  induction n with
  | zero => exact Chains.abort
  | succ n ih =>
    refine hR.bind (hR.pop _) fun o => ?_
    split
    · exact hR.pure _
    · refine hR.bind (hR.resolve _) fun st => hR.bind (hR.when _ (hR.clearStreamQueue _)) fun _ =>
        hR.bind (hR.nextFrame _ _ _) fun frame => ?_
      split
      · exact ih
      · exact hR.bind (hR.requeue _) fun _ => hR.bind (hR.transitionAfter _ _) fun _ => hR.pure _

theorem pollCompleteRound (maxFrameSize : Nat) : Keeps R (Send.pollCompleteRound maxFrameSize) :=
  hR.bind hR.popPendingOpen fun _ =>
    hR.bind (hR.whenSome _ fun _ => hR.bind (hR.pushFront _ _) fun _ => hR.pure _) fun _ =>
      hR.bind hR.get fun _ => hR.popFrameLoop _ _

end Blind

end TwoPlz
