import TwoPlz.Streams.Move
import TwoPlz.Streams.Send

/-! Sending as moves. -/

namespace TwoPlz

variable [HeaderPlz] [StoreCrates]

namespace Chains

open M

variable {R : Inner → Inner → Prop} (hR : Chains R)

include hR

theorem clearQueueLoop {n : Next} {f : Key → M Unit}
    (hf : ∀ s k s₁ u s', M.pop n s = some (some k, s₁) → f k s₁ = some (u, s') → R s s') (m : Nat) :
    Keeps R (TwoPlz.clearQueueLoop n f m) := by
  induction m with
  | zero => exact abort
  | succ m ih =>
    intro s u s' hloop
    obtain ⟨o, s₁, hpop, h⟩ := bind_eq_some hloop
    cases o with
    | none =>
      rcases pop_some hpop with ⟨-, -, rfl⟩ | ⟨_, _, _, hno, -⟩
      · cases h
        exact hR.refl _
      · cases hno
    | some k =>
      obtain ⟨_, s₂, hfirst, hrest⟩ := bind_eq_some h
      exact hR.trans _ _ _ (hf _ _ _ _ _ hpop hfirst) (ih _ _ _ hrest)

theorem clearQueue {n : Next} {f : Key → M Unit}
    (hf : ∀ s k s₁ u s', M.pop n s = some (some k, s₁) → f k s₁ = some (u, s') → R s s') :
    Keeps R (TwoPlz.clearQueue n f) :=
  hR.bind hR.get fun _ => hR.clearQueueLoop hf _

end Chains

namespace Moves

open M

variable {K : Scope} {α : Type} {s : Inner} {k : Key} {st : Stream}

theorem chains : Chains (Moves K) := ⟨.refl, fun _ _ _ => .trans⟩

theorem aside {s' : Inner} (h : Aside s s') : Moves K s s' := .single (.aside h)

theorem turn {st' : Stream} (hk : s.get? k = some st) (h : Turn K s.counts.role k .plain st st') :
    Moves K s (s.put k st') := .single (.turn hk h .plain)

theorem update {f : Stream → Stream}
    (h : ∀ (s : Inner) st, s.get? k = some st → Turn K s.counts.role k .plain st (f st)) :
    Keeps (Moves K) (M.update k f) := by
  intro s a s' hs
  obtain ⟨st, hk, rfl⟩ := update_some.mp hs
  exact turn hk (h s st hk)

theorem pushed {n : Next} (hk : s.get? k = some st) (hK : n = .opening → K.opens k ∧ K.refs k)
    (tally : PushTally s k st n s.counts) :
    KeepsAt (Moves K) s (M.push n k) := by
  intro b s' h
  obtain ⟨_, _, ⟨rfl, -, rfl⟩ | ⟨rfl, -⟩⟩ := push_some h
  · exact .refl _
  · have hmove : Move K s { s' with counts := s.counts } := .push h hk hK tally
    rw [← push_counts h] at hmove
    exact .single hmove

theorem pushSend (hk : s.get? k = some st) (ready : st.Schedulable) :
    KeepsAt (Moves K) s (M.push .send k) :=
  pushed hk (fun hn => by cases hn) (.send ready)

theorem pushCapacity (k : Key) : Keeps (Moves K) (M.push .sendCapacity k) := by
  intro s b s' h
  obtain ⟨st, hk, -⟩ := push_some h
  have hpushed : KeepsAt (Moves K) s (M.push .sendCapacity k) :=
    pushed hk (fun hn => by cases hn) .capacity
  exact hpushed b s' h

theorem pushFront (hK : K.pops k) : Keeps (Moves K) (M.pushFront .send k) := by
  intro s b s' h
  obtain ⟨st, hk, ⟨rfl, -, rfl⟩ | ⟨rfl, -⟩⟩ := pushFront_some h
  · exact .refl _
  · exact .single (.pushFront hK h)

theorem popped {n : Next} {s' : Inner} (hn : n ≠ .accept ∧ n ≠ .resetExpire)
    (h : M.pop n s = some (some k, s')) (hK : n = .send → K.pops k) : Move K s s' := by
  rcases pop_some h with ⟨hno, -⟩ | ⟨_, st, tail, hsome, hk, -⟩
  · cases hno
  · cases hsome
    have hmove : Move K s { s' with counts := s.counts } := .pop h hk hK (.other hn)
    rw [← pop_counts h] at hmove
    exact hmove

theorem pop {n : Next} (hn : n ≠ .accept ∧ n ≠ .resetExpire) (hK : ∀ k, n = .send → K.pops k) :
    Keeps (Moves K) (M.pop n) := by
  intro s o s' h
  cases o with
  | none =>
    rcases pop_some h with ⟨-, -, rfl⟩ | ⟨_, _, _, hno, -⟩
    · exact .refl _
    · cases hno
  | some k => exact .single (popped hn h (hK k))

theorem modified {f : Inner → Inner} (h : ∀ s, Aside s (f s)) :
    Keeps (Moves K) (MonadState.modifyGet fun s => (PUnit.unit, f s)) :=
  .modify fun s => aside (h s)

theorem wake : Keeps (Moves K) M.wake := modified fun _ => .of_beside (by rfl)

theorem pushBackSend (hK : K.send k) (hk : s.get? k = some st) (frame : Frame) (own : frame.streamId = st.id)
    (sent : st.state.isSent = true) (body : st.isSendingTrailer = false) (last : st.trailers = [])
    (dry : frame.isData = false) : KeepsAt (Moves K) s (M.pushBackSend k frame) :=
  chains.update_bind hk (turn hk (.queue hK frame _ sent body last (by simp [dry]) (Or.inr ⟨dry, rfl⟩) own))
    (modified (fun _ => .of_beside (by rfl)) _)

theorem popFrontSend (hK : K.pops k) : Keeps (Moves K) (M.popFrontSend k) := by
  intro s
  refine Chains.resolve_bind fun st hk => ?_
  split
  · exact chains.pure _ s
  · rename_i frame rest hqueue
    refine chains.update_bind hk (turn hk (.take hK frame rest hqueue)) ?_
    exact chains.bind (modified fun _ => .of_beside (by rfl)) (fun _ => chains.pure _) _

theorem pushBackRecv (hK : K.recv k) (hk : s.get? k = some st)
    (started : st.state.isRecvStreaming = true ∨ st.state.isRecvEndStream = true) (event : RecvEvent) :
    KeepsAt (Moves K) s (M.pushBackRecv k event) :=
  chains.update_bind hk (turn hk (.pushRecv hK event started)) (modified (fun _ => .of_beside (by rfl)) _)

theorem drainRecv (hK : K.turn k) (finished : ∀ st, s.get? k = some st →
      s.counts.role.isServer = true ∨ st.state.isRecvStreaming = false ∨ K.takes k) :
    KeepsAt (Moves K) s (M.drainRecv k) :=
  Chains.resolve_bind fun _ hk => chains.update_bind hk (turn hk (.drainRecv hK (finished _ hk)))
    (chains.bind (modified fun _ => .of_beside (by rfl)) (fun _ => chains.pure _) _)

/-! Counts. -/

theorem decNumOf_some {isLocal : Bool} {s' : Inner} {u : Unit}
    (h : Counts.decNumOf isLocal s = some (u, s')) :
    0 < s.counts.numOf isLocal ∧ s' = { s with counts := s.counts.uncountOf isLocal } := by
  simp only [Counts.decNumOf, bind_some, get_some] at h
  obtain ⟨_, _, ⟨rfl, rfl⟩, h⟩ := h
  cases isLocal with
  | true =>
    simp only [if_true, bind_some, assert_some, set_some] at h
    obtain ⟨_, _, ⟨hpos, rfl⟩, rfl⟩ := h
    exact ⟨of_decide_eq_true hpos, rfl⟩
  | false =>
    simp only [Bool.false_eq_true, if_false, bind_some, assert_some, set_some] at h
    obtain ⟨_, _, ⟨hpos, rfl⟩, rfl⟩ := h
    exact ⟨of_decide_eq_true hpos, rfl⟩

theorem isLocalInit_ends (id : Nat) : Ends s (M.isLocalInit id) fun isLocal s' =>
    s' = s ∧ id ≠ 0 ∧ isLocal = s.counts.role.isLocalInit id :=
  Ends.assert_bind fun hid => Ends.get_bind (Ends.pure ⟨rfl, by simpa using hid, rfl⟩)

theorem decNumStreams_some {s' : Inner} {u : Unit} (hk : s.get? k = some st)
    (h : Counts.decNumStreams k s = some (u, s')) :
    st.isCounted = true ∧ 0 < s.counts.numOf (s.counts.role.isLocalInit k.streamId) ∧
      s' = { s.put k { st with isCounted := false } with
        counts := s.counts.uncountOf (s.counts.role.isLocalInit k.streamId) } := by
  obtain ⟨_, _, hresolve, h⟩ := bind_eq_some h
  obtain ⟨hst, rfl⟩ := resolve_some.mp hresolve
  cases hk.symm.trans hst
  obtain ⟨_, _, hassert, h⟩ := bind_eq_some h
  obtain ⟨hcounted, rfl⟩ := assert_some.mp hassert
  obtain ⟨_, _, hinit, h⟩ := bind_eq_some h
  obtain ⟨rfl, -, rfl⟩ := isLocalInit_ends _ _ _ hinit
  rw [Store.get_id hk] at h
  obtain ⟨_, _, hdec, h⟩ := bind_eq_some h
  obtain ⟨hpos, rfl⟩ := decNumOf_some hdec
  obtain ⟨st', hst', rfl⟩ := update_some.mp h
  cases hk.symm.trans hst'
  exact ⟨hcounted, hpos, rfl⟩

structure Retired (st st' : Stream) : Prop where
  same : st' = { st with isCounted := st'.isCounted }
  uncounted : st'.isCounted = true → st.state.isScheduledReset = true

/-- The stream is not counted any more before it is unlinked, which it is unless a reset of it expires. -/
theorem retire (hk : s.get? k = some st) (closed : st.isClosed = true) {b : Bool}
    (hb : b = true → st.resetAt.isSome = true) :
    Ends s (Counts.retire k b) fun _ s' => ∃ t st', Moves K s t ∧ t.get? k = some st' ∧ Retired st st' ∧
      (st.resetAt.isSome = true ∧ s' = t ∨ st.resetAt = none ∧ s' = { t with store := t.store.unlink k }) := by
  refine Ends.resolve_bind fun _ hst => ?_
  cases hk.symm.trans hst
  intro u s' h
  obtain ⟨_, s₁, hunlink, hcount⟩ := bind_eq_some h
  have hkept : (!st.state.isScheduledReset && st.isCounted) = false → Retired st st := fun hno =>
    ⟨rfl, fun hcounted => by simpa [hcounted] using hno⟩
  have huncount : ∀ {t : Inner}, t.get? k = some st → st.isCounted = true →
      0 < t.counts.numOf (t.counts.role.isLocalInit k.streamId) →
      Moves K t { t.put k { st with isCounted := false } with
        counts := t.counts.uncountOf (t.counts.role.isLocalInit k.streamId) } :=
    fun ht hcounted hpos => .single (.turn ht (.uncount closed hcounted) (.uncount hpos))
  rcases when_some.mp hunlink with ⟨hpending, hunlink⟩ | ⟨hpending, rfl⟩
  · have hnone : st.resetAt = none := by simpa [Stream.isPendingResetExpiration] using hpending
    have hfalse : b = false := by
      cases b with
      | false => rfl
      | true => simp [hnone] at hb
    subst hfalse
    cases hunlink
    have hk₁ : Inner.get? { s with store := s.store.unlink k } k = some st := hk
    rcases when_some.mp hcount with ⟨-, hcount⟩ | ⟨hno, rfl⟩
    · obtain ⟨hcounted, hpos, rfl⟩ := decNumStreams_some hk₁ hcount
      have hget := Inner.get?_put hk { st with isCounted := false } rfl
      exact ⟨_, _, huncount hk hcounted hpos, hget, ⟨rfl, by simp⟩, Or.inr ⟨hnone, rfl⟩⟩
    · exact ⟨s, st, .refl _, hk, hkept hno, Or.inr ⟨hnone, rfl⟩⟩
  · have hsome : st.resetAt.isSome = true := by simpa [Stream.isPendingResetExpiration] using hpending
    rcases when_some.mp hcount with ⟨-, hcount⟩ | ⟨hno, rfl⟩
    · obtain ⟨hcounted, hpos, rfl⟩ := decNumStreams_some hk hcount
      exact ⟨_, _, huncount hk hcounted hpos, Inner.get?_put hk _ rfl, ⟨rfl, by simp⟩, Or.inl ⟨hsome, rfl⟩⟩
    · exact ⟨s, st, .refl _, hk, hkept hno, Or.inl ⟨hsome, rfl⟩⟩

theorem transitionAfter {b : Bool} (hb : b = true → s.Lingers k) :
    KeepsAt (Moves K) s (Counts.transitionAfter k b) := by
  refine Chains.resolve_bind fun st hk => fun a s' h => ?_
  obtain ⟨u, s₁, hretire, h⟩ := bind_eq_some h
  obtain ⟨st₁, _, hresolve, hremove⟩ := bind_eq_some h
  obtain ⟨hk₁, rfl⟩ := resolve_some.mp hresolve
  rcases when_some.mp hretire with ⟨hclosed, hretire⟩ | ⟨hopen, rfl⟩
  · obtain ⟨t, st', hmoves, hk', hretired, hunlink⟩ := retire hk hclosed (fun hyes => hb hyes st hk) _ _ hretire
    have hsame : st' = { st with isCounted := st'.isCounted } := hretired.same
    have hclosed' : st'.isClosed = true := by rw [hsame]; exact hclosed
    have huncounted : st'.isCounted = true → st'.state.isScheduledReset = true := fun hcounted => by
      rw [hsame]
      exact hretired.uncounted hcounted
    have hreset : st'.resetAt = st.resetAt := by rw [hsame]
    rcases hunlink with ⟨hsome, rfl⟩ | ⟨hnone, rfl⟩
    · cases hk'.symm.trans hk₁
      rcases when_some.mp hremove with ⟨hreleased, -⟩ | ⟨-, rfl⟩
      · simp [Stream.isReleased, hreset, Option.isSome_iff_ne_none.mp hsome] at hreleased
      · exact hmoves
    · have hkt : t.get? k = some st₁ := hk₁
      cases hk'.symm.trans hkt
      rcases when_some.mp hremove with ⟨hreleased, hremove⟩ | ⟨-, rfl⟩
      · obtain ⟨store, hstore, heq⟩ := Option.map_eq_some_iff.mp hremove
        cases heq
        obtain rfl := Store.remove_eq_some hstore
        exact hmoves.trans (.single (.remove hk' hreleased huncounted))
      · exact hmoves.trans (.single (.unlink hk' hclosed' (hreset.trans hnone) huncounted))
  · cases hk.symm.trans hk₁
    rcases when_some.mp hremove with ⟨hreleased, -⟩ | ⟨-, rfl⟩
    · rw [Stream.isClosed_of_isReleased hreleased] at hopen
      cases hopen
    · exact .refl _

/-- No reset expires in between, so `transition` does not touch the counter of the resets. -/
theorem transition (k : Key) {m : M α} (hm : KeepsAt (Moves K.lasting) s m) :
    KeepsAt (Moves K) s (Counts.transition k m) := by
  refine Chains.resolve_bind fun st hk => chains.step fun a s₁ h => ⟨(hm _ _ h).of_lasting, ?_⟩
  refine .bind chains.trans (transitionAfter fun hpending => (hm _ _ h).lingers fun st' hk' => ?_) fun _ =>
    chains.pure _
  cases hk.symm.trans hk'
  exact hpending

theorem clearQueue {n : Next} {f : Key → M Unit}
    (hf : ∀ s k s₁ u s', M.pop n s = some (some k, s₁) → f k s₁ = some (u, s') → Moves K s s') :
    Keeps (Moves K) (TwoPlz.clearQueue n f) := chains.clearQueue hf

/-! Send. -/

theorem modifySpa (f : SpaTracker → SpaTracker) : Keeps (Moves K) (Send.modifySpa f) :=
  modified fun s => { Aside.refl s with spa := by intro h; simp [h] }

theorem scheduleSend (ready : ∀ st, s.get? k = some st → st.Schedulable) :
    KeepsAt (Moves K) s (Send.scheduleSend k) := by
  refine Chains.resolve_bind fun st hk u s' h => ?_
  rcases when_some.mp h with ⟨-, h⟩ | ⟨-, rfl⟩
  · exact KeepsAt.bind chains.trans (pushSend hk (ready st hk)) (fun _ => wake) _ _ h
  · exact .refl _

theorem pushBackSend_some {s' : Inner} {u : Unit} {frame : Frame}
    (h : M.pushBackSend k frame s = some (u, s')) (hk : s.get? k = some st) :
    s'.get? k = some { st with pendingSend := st.pendingSend ++ [frame] } := by
  obtain ⟨_, s₁, hup, hmodify⟩ := bind_eq_some h
  cases hmodify
  obtain ⟨st₁, hst₁, rfl⟩ := update_some.mp hup
  cases hk.symm.trans hst₁
  exact Inner.get?_put hk { st with pendingSend := st.pendingSend ++ [frame] } rfl

theorem scheduleQueued {s' : Inner} {u : Unit} {frame : Frame}
    (h : M.pushBackSend k frame s = some (u, s')) (hk : s.get? k = some st) :
    KeepsAt (Moves K) s' (Send.scheduleSend k) := by
  refine scheduleSend fun st' hk' => Or.inl ?_
  cases (pushBackSend_some h hk).symm.trans hk'
  simp

theorem queueFrame (hK : K.send k) (hk : s.get? k = some st) (frame : Frame) (own : frame.streamId = st.id)
    (sent : st.state.isSent = true) (body : st.isSendingTrailer = false) (last : st.trailers = [])
    (dry : frame.isData = false) : KeepsAt (Moves K) s (Send.queueFrame frame k) :=
  chains.step fun _ _ h => ⟨pushBackSend hK hk frame own sent body last dry _ _ h, scheduleQueued h hk⟩

theorem drainSend_some {s' : Inner} {u : Unit} (h : M.drainSend k s = some (u, s'))
    (hk : s.get? k = some st) : s'.get? k = some { st with pendingSend := [] } := by
  simp only [M.drainSend, bind_some, resolve_some, update_some, modify_some] at h
  obtain ⟨_, _, ⟨hst, rfl⟩, _, _, ⟨st₁, hst₁, rfl⟩, rfl⟩ := h
  cases hk.symm.trans hst
  cases hk.symm.trans hst₁
  exact Inner.get?_put hk _ rfl

theorem clearStreamQueue_eq {s' : Inner} {u : Unit} (h : Send.clearStreamQueue k s = some (u, s'))
    (hk : s.get? k = some st) :
    s' = { s.put k { st with pendingSend := [], remainingDataLen := none } with
      sendBuffer := s.sendBuffer - st.pendingSend.length } := by
  obtain ⟨_, s₁, hdrain, h⟩ := bind_some.mp h
  have hk₁ := drainSend_some hdrain hk
  simp only [M.drainSend, bind_some, resolve_some, update_some, modify_some] at hdrain
  obtain ⟨_, _, ⟨hst, rfl⟩, _, _, ⟨st₂, hst₂, rfl⟩, rfl⟩ := hdrain
  cases hk.symm.trans hst
  cases hk.symm.trans hst₂
  obtain ⟨st₁, hst₁, rfl⟩ := update_some.mp h
  cases hk₁.symm.trans hst₁
  simp only [Inner.put, Store.set_set hk]

theorem clearStreamQueue_some {s' : Inner} {u : Unit} (h : Send.clearStreamQueue k s = some (u, s'))
    (hk : s.get? k = some st) :
    s'.get? k = some { st with pendingSend := [], remainingDataLen := none } := by
  rw [clearStreamQueue_eq h hk]
  exact Inner.get?_put hk { st with pendingSend := [], remainingDataLen := none } rfl

theorem clearStreamQueue (hK : K.closes k) (hk : s.get? k = some st) (closed : st.state.isClosed = true) :
    KeepsAt (Moves K) s (Send.clearStreamQueue k) := by
  intro u s' h
  rw [clearStreamQueue_eq h hk]
  exact (turn hk (.drainSend hK closed)).trans (aside (.of_beside rfl))

theorem allocate (k : Key) (a : Nat) : Keeps (Moves K) (Send.allocate k a) :=
  chains.bind (chains.resolve _) fun _ => chains.bind (chains.addU32 _ _) fun _ =>
    chains.bind (update fun _ _ _ => .calm _ _ _ _ _ id) fun _ => modified fun _ => .of_beside (by rfl)

theorem tryAssignCapacity (k : Key) : Keeps (Moves K) (Send.tryAssignCapacity k) := by
  intro s
  refine Chains.resolve_bind fun st hk => .get_bind ?_
  dsimp only
  split
  · exact chains.pure _ s
  · split
    · exact chains.bind (pushCapacity _) (fun _ => chains.pure _) s
    · split
      · exact chains.pure _ s
      · rename_i rem hrem
        have hready : st.Schedulable := Or.inr (Or.inr (by simp [hrem]))
        exact .bind chains.trans (pushSend hk hready) fun _ => .ite (chains.pure _) (allocate _ _)

theorem assignConnectionCapacityLoop (n : Nat) :
    Keeps (Moves K) (Send.assignConnectionCapacityLoop n) := by
  induction n with
  | zero => exact Chains.abort
  | succ n ih =>
    refine chains.bind chains.get fun s => ?_
    split
    · refine chains.bind (pop (by decide) nofun) fun o => ?_
      split
      · exact chains.pure _
      · refine chains.bind (chains.resolve _) fun st => ?_
        split
        · exact ih
        · exact chains.bind (fun s => transition _ (tryAssignCapacity _ s)) fun _ => ih
    · exact chains.pure _

theorem recvConnectionWindowUpdate (inc : Nat) :
    Keeps (Moves K) (Send.recvConnectionWindowUpdate inc) := by
  refine .get_bind fun s => ?_
  split
  · exact chains.pure _ s
  · exact .bind chains.trans (.set (aside (.of_beside (by rfl)))) fun _ =>
      chains.bind (chains.bind chains.get fun _ => assignConnectionCapacityLoop _) fun _ => chains.pure _

theorem reclaimAllCapacity (k : Key) : Keeps (Moves K) (Send.reclaimAllCapacity k) :=
  chains.bind (chains.resolve _) fun _ =>
    chains.when _ (chains.bind (recvConnectionWindowUpdate _) fun _ => chains.pure _)

theorem queueReset (hK : K.closes k) (hk : s.get? k = some st) (empty : st.pendingSend = [])
    (reset : st.state.isReset = true) (frame : Reset) (own : frame.streamId = st.id) :
    KeepsAt (Moves K) s (Send.queueFrame (.reset frame) k) := by
  refine chains.step fun _ _ h => ⟨?_, scheduleQueued h hk⟩
  exact chains.update_bind hk (turn hk (.queueReset hK frame empty reset own))
    (modified (fun _ => .of_beside (by rfl)) _) _ _ h

theorem announceReset (hK : K.closes k) (hk : s.get? k = some st) (empty : st.pendingSend = [])
    (reset : st.state.isReset = true) (frame : Reset) (own : frame.streamId = st.id) :
    KeepsAt (Moves K) s (do
      Send.queueFrame (.reset frame) k
      Send.reclaimAllCapacity k) :=
  .bind chains.trans (queueReset hK hk empty reset frame own) fun _ => reclaimAllCapacity _

theorem sendReset (hK : K.closes k) (reason : Nat) {initiator : Initiator} (own : initiator ≠ .remote) :
    Keeps (Moves K) (Send.sendReset reason initiator k) := by
  intro s
  refine Chains.resolve_bind fun st hk => ?_
  split
  · exact chains.pure _ s
  · rename_i hreset
    have hturn : ∀ queue rem, queue = [] →
        (queue = [] ∧ rem = none ∨ queue = st.pendingSend ∧ rem = st.remainingDataLen) → Moves K s (s.put k
          { st.setReset reason initiator with pendingSend := queue, remainingDataLen := rem }) :=
      fun queue rem hempty held => turn hk (.reset hK reason initiator own (Or.inl (by simpa using hreset))
        queue rem (Or.inl hempty) held)
    intro a s' h
    obtain ⟨_, s₁, hup, h⟩ := bind_eq_some h
    obtain ⟨st', hst', rfl⟩ := update_some.mp hup
    cases hk.symm.trans hst'
    split at h
    · rename_i hdone
      obtain ⟨-, rfl⟩ := pure_some.mp h
      rw [Bool.and_eq_true, List.isEmpty_iff] at hdone
      exact hturn st.pendingSend st.remainingDataLen hdone.2 (Or.inr ⟨rfl, rfl⟩)
    · -- the queue gives way to the RST_STREAM frame
      obtain ⟨_, s₂, hclear, h⟩ := bind_eq_some h
      have hk₁ := Inner.get?_put hk (st.setReset reason initiator) rfl
      have hk₂ := clearStreamQueue_some hclear hk₁
      have hcleared : Moves K s s₂ := by
        have heq := clearStreamQueue_eq hclear hk₁
        have hmove := hturn [] none rfl (Or.inl ⟨rfl, rfl⟩)
        rw [heq]
        exact (Inner.put_put hk _ _ ▸ hmove).trans (aside (.of_beside rfl))
      exact hcleared.trans (announceReset hK hk₂ rfl rfl _ rfl _ _ h)

theorem sendReset_reset (reason : Nat) (initiator : Initiator) :
    Ends s (Send.sendReset reason initiator k) fun _ s' =>
      ∀ st, s'.get? k = some st → st.state.isReset = true := by
  refine Ends.resolve_bind fun st hk => ?_
  split
  · rename_i hreset
    refine Ends.pure fun st' hk' => ?_
    cases hk.symm.trans hk'
    exact hreset
  · refine Ends.update_next hk rfl fun s₁ _ hk₁ => ?_
    split
    · refine Ends.pure fun st' hk' => ?_
      cases hk₁.symm.trans hk'
      rfl
    · refine Ends.bind fun u s₂ hclear u' s' h => ?_
      have hk₂ := clearStreamQueue_some hclear hk₁
      have hmoves : Moves .unborn s₂ s' := announceReset trivial hk₂ rfl rfl _ rfl _ _ h
      refine hmoves.reset fun st' hk' => ?_
      cases hk₂.symm.trans hk'
      rfl

theorem scheduleClosed (hk : s.get? k = some st) (closed : st.state.isClosed = true) :
    KeepsAt (Moves K) s (do
      Send.reclaimAllCapacity k
      Send.scheduleSend k) := by
  refine chains.step fun _ s₁ h => ⟨reclaimAllCapacity _ _ _ _ h, scheduleSend fun st₁ hk₁ => ?_⟩
  have hreclaimed : Moves .unborn s s₁ := reclaimAllCapacity _ _ _ _ h
  exact Or.inr (Or.inl (hreclaimed.closed hk closed hk₁))

theorem scheduleImplicitReset (hK : K.cancels k) (reason : Nat)
    (unheld : ∀ st, s.get? k = some st → st.refCount = 0 ∨ s.counts.role.isServer = true)
    (dry : reason ≠ Reason.CANCEL → ∀ st, s.get? k = some st → st.state.isClosed = false →
      st.hasData = false ∧ (st.isSendingTrailer = false ∨ st.state.isSendClosed = true)) :
    KeepsAt (Moves K) s (Send.scheduleImplicitReset k reason) := by
  refine Chains.resolve_bind fun st hk => ?_
  split
  · exact chains.pure _ s
  · rename_i hlive
    have hdry := fun hreason => dry hreason st hk (by simpa using hlive)
    refine chains.update_next hk rfl
      (turn hk (.schedule hK reason (by simpa using hlive) (unheld st hk) (fun hreason => (hdry hreason).1)
        fun hreason => (hdry hreason).2)) fun s₁ _ hk₁ => scheduleClosed hk₁ rfl

theorem recvStreamWindowUpdate (hK : K.closes k) (sz : Nat) :
    Keeps (Moves K) (Send.recvStreamWindowUpdate sz k) := by
  refine chains.bind (chains.resolve _) fun st => ?_
  split
  · exact chains.pure _
  · refine chains.bind (modifySpa _) fun _ => ?_
    split
    · exact chains.bind (sendReset hK _ (by decide)) fun _ => chains.pure _
    · exact chains.bind (update fun _ _ _ => .calm _ _ _ _ _ id) fun _ =>
        chains.bind (tryAssignCapacity _) fun _ => chains.pure _

theorem decreaseWindow (dec total : Nat) (k : Key) : Keeps (Moves K) (Send.decreaseWindow dec total k) := by
  refine chains.bind (chains.resolve _) fun st => ?_
  split
  · exact chains.pure _
  · split
    · exact chains.pure _
    · refine chains.bind (update fun _ _ _ => .calm _ _ _ _ _ id) fun _ => ?_
      split
      · exact chains.bind (chains.addU32 _ _) fun _ =>
          chains.bind (update fun _ _ _ => .calm _ _ _ _ _ id) fun _ => chains.pure _
      · exact chains.pure _

theorem adjustWindows (hK : ∀ k, K.closes k) (old new : Nat) :
    Keeps (Moves K) (Send.adjustWindows old new) := by
  unfold Send.adjustWindows
  split
  · refine chains.bind (chains.tryForEach (decreaseWindow _) _) fun res => ?_
    split
    · exact chains.pure _
    · exact chains.bind (chains.when _ (chains.bind (recvConnectionWindowUpdate _) fun _ =>
        chains.pure _)) fun _ => chains.pure _
  · refine .ite (chains.tryForEach (fun _ k => ?_) _) (chains.pure _)
    exact chains.bind (recvStreamWindowUpdate (hK k) _) fun _ => chains.pure _

theorem pushOpening (hK : K.opens k ∧ K.refs k) (hk : s.get? k = some st)
    (hid : s.counts.role.isLocalInit k.streamId = true)
    (uncounted : st.isCounted = false) : KeepsAt (Moves K) s (M.push .opening k) :=
  pushed hk (fun _ => hK) (.opening hid uncounted)

theorem push_kept {n : Next} {b : Bool} {s' : Inner} (h : M.push n k s = some (b, s'))
    (hk : s.get? k = some st) :
    ∃ b key, s'.get? k = some ((st.setQueued n s.now b).setNext n key) ∨ s'.get? k = some st := by
  obtain ⟨st', hk', ⟨-, -, rfl⟩ | ⟨-, -, hf⟩⟩ := push_some h
  · exact ⟨true, none, Or.inr hk⟩
  · obtain ⟨key, hself⟩ := hf.get_self hk
    exact ⟨true, key, Or.inl hself⟩

theorem sendHeaders (hK : K.send k) {frame : Headers} (hid : k.streamId = frame.streamId)
    (fresh : ∀ st, s.get? k = some st → st.state = .idle → K.opens k)
    (unsent : ∀ st, s.get? k = some st → st.state.isUnsent = true →
      st.pendingSend = [] ∧ st.isSendingTrailer = false)
    (uncounted : ∀ st, s.get? k = some st → s.counts.role.isLocalInit k.streamId = true →
      (K.opens k ∧ K.refs k) ∧ st.isCounted = false) :
    KeepsAt (Moves K) s (Send.sendHeaders frame k) := by
  unfold Send.sendHeaders
  split
  · exact chains.pure _ s
  · refine Chains.resolve_bind fun st hk => ?_
    split
    · exact chains.pure _ s
    · rename_i state hopen
      refine chains.update_next hk rfl (turn hk (.sendOpen hK _ state hopen (fresh st hk))) fun s₁ hs₁ hk₁ => ?_
      have hrole : s₁.counts.role = s.counts.role := by
        obtain ⟨store, rfl⟩ := hs₁
        rfl
      refine chains.step fun isLocal s₂ hinit => ?_
      obtain ⟨rfl, -, rfl⟩ := isLocalInit_ends _ _ _ hinit
      refine ⟨.refl _, chains.step fun u s₃ hpush => ?_⟩
      have hopening : Moves K s₂ s₃ ∧ ∃ st₃, s₃.get? k = some st₃ ∧ st₃.state = state ∧
          st₃.pendingSend = st.pendingSend ∧ st₃.isSendingTrailer = st.isSendingTrailer := by
        rcases when_some.mp hpush with ⟨hlocal, hpush⟩ | ⟨-, rfl⟩
        · obtain ⟨b, s₄, hpush, hpure⟩ := bind_eq_some hpush
          cases hpure
          rw [← hid] at hlocal
          obtain ⟨hK', huncounted⟩ := uncounted st hk (hrole ▸ hlocal)
          refine ⟨pushOpening hK' hk₁ hlocal huncounted _ _ hpush, ?_⟩
          obtain ⟨b', key, hkept | hkept⟩ := push_kept hpush hk₁
          · exact ⟨_, hkept, rfl, rfl, rfl⟩
          · exact ⟨_, hkept, rfl, rfl, rfl⟩
        · exact ⟨.refl _, _, hk₁, rfl, rfl, rfl⟩
      obtain ⟨hmoves, st₃, hk₃, hstate, hqueue, htrailer⟩ := hopening
      obtain ⟨hempty, hbody⟩ := unsent st hk (State.isUnsent_of_sendOpen hopen)
      refine ⟨hmoves, .bind chains.trans (queueFrame hK hk₃ _ (hid.symm.trans (Store.get_id hk₃).symm) ?_ ?_
        ?_ ?_) fun _ =>
        chains.bind (chains.when _ wake) fun _ => chains.pure _⟩
      · rw [hstate]
        exact (State.isSent_sendOpen hopen).1
      · rw [htrailer, hbody]
      · simp [Stream.trailers, hqueue, hempty]
      · rfl

theorem push_core {n : Next} {b : Bool} {s' : Inner} {st' : Stream} (h : M.push n k s = some (b, s'))
    (hk : s.get? k = some st) (hk' : s'.get? k = some st') : st'.core = st.core := by
  obtain ⟨b', key, hkept | hkept⟩ := push_kept h hk
  · cases hkept.symm.trans hk'
    cases n <;> rfl
  · cases hkept.symm.trans hk'
    rfl

theorem queueFrame_core (frame : Frame) (hk : s.get? k = some st) :
    Ends s (Send.queueFrame frame k) fun _ s' => ∀ st', s'.get? k = some st' →
      st'.core = Stream.core { st with pendingSend := st.pendingSend ++ [frame] } := by
  refine Ends.bind fun u s₁ hpush u' s' hsched st' hk' => ?_
  have hbeside : Moves .none s₁ s' := scheduleQueued hpush hk _ _ hsched
  exact hbeside.core (pushBackSend_some hpush hk) hk'

theorem sendHeaders_ends (frame : Headers) (hk : s.get? k = some st) :
    Ends s (Send.sendHeaders frame k) fun res s' => match res with
      | .error _ => s' = s
      | .ok () => ∃ state, st.state.sendOpen frame.isEndStream = .ok state ∧
          ∀ st', s'.get? k = some st' → st'.core =
            Stream.core { st with state := state, pendingSend := st.pendingSend ++ [.headers frame] } := by
  unfold Send.sendHeaders
  split
  · exact Ends.pure rfl
  · refine Ends.resolve_bind fun _ hst => ?_
    cases hk.symm.trans hst
    split
    · exact Ends.pure rfl
    · rename_i state hopen
      refine Ends.update_next hk rfl fun s₁ _ hk₁ => Ends.bind fun isLocal s₂ hinit => ?_
      obtain ⟨rfl, -⟩ := isLocalInit_ends _ _ _ hinit
      refine Ends.bind fun u s₃ hpush => Ends.bind fun u' s₄ hqueue => Ends.bind fun u'' s₅ hwake => ?_
      refine Ends.pure ⟨state, hopen, fun st' hk' => ?_⟩
      have hwoken : s₅.get? k = s₄.get? k := by
        rcases when_some.mp hwake with ⟨-, hwake⟩ | ⟨-, rfl⟩
        · cases hwake
          rfl
        · rfl
      rw [hwoken] at hk'
      have hk₃ : ∃ st₃, s₃.get? k = some st₃ ∧ st₃.core = Stream.core { st with state := state } := by
        rcases when_some.mp hpush with ⟨-, hpush⟩ | ⟨-, rfl⟩
        · obtain ⟨b, s₆, hpush, hpure⟩ := bind_eq_some hpush
          cases hpure
          obtain ⟨b', key, hkept | hkept⟩ := push_kept hpush hk₁
          · exact ⟨_, hkept, push_core hpush hk₁ hkept⟩
          · exact ⟨_, hkept, push_core hpush hk₁ hkept⟩
        · exact ⟨_, hk₁, rfl⟩
      obtain ⟨st₃, hk₃, hcore₃⟩ := hk₃
      have hcore := queueFrame_core (.headers frame) hk₃ _ _ hqueue st' hk'
      simp only [Stream.core, Prod.mk.injEq] at hcore hcore₃ ⊢
      obtain ⟨hstate, hsend, htrailer, hrem, href, hrecv⟩ := hcore
      obtain ⟨hstate₃, hsend₃, htrailer₃, hrem₃, href₃, hrecv₃⟩ := hcore₃
      exact ⟨hstate.trans hstate₃, hsend.trans (by rw [hsend₃]), htrailer.trans htrailer₃, hrem.trans hrem₃,
        href.trans href₃, hrecv.trans hrecv₃⟩

theorem sendHandleError (hK : K.closes k) (hk : s.get? k = some st) (closed : st.state.isClosed = true) :
    KeepsAt (Moves K) s (Send.handleError k) :=
  .bind chains.trans (clearStreamQueue hK hk closed) fun _ => reclaimAllCapacity _

theorem clearPendingSend_step (hK : K.closes k) (hK' : K.pops k) : Keeps (Moves K) (do
    let st ← resolve k
    M.whenSome st.state.getScheduledReset fun reason =>
      M.update k fun st => st.setReset reason .library
    Counts.transitionAfter k st.isPendingResetExpiration) := by
  intro s
  refine Chains.resolve_bind fun st hk => chains.step fun u s₁ h => ?_
  have hfirst : Moves K s s₁ ∧ ∃ st₁, s₁.get? k = some st₁ ∧ st₁.resetAt = st.resetAt := by
    rcases whenSome_some.mp h with ⟨reason, hreason, h⟩ | ⟨-, rfl⟩
    · obtain ⟨st', hst', rfl⟩ := update_some.mp h
      cases hk.symm.trans hst'
      exact ⟨turn hk (.reset hK reason .library (by decide) (Or.inr hreason) _ _ (Or.inr ⟨rfl, hK'⟩)
        (Or.inr ⟨rfl, rfl⟩)), _,
        Inner.get?_put hk (st.setReset reason .library) rfl, rfl⟩
    · exact ⟨.refl _, st, hk, rfl⟩
  obtain ⟨hmoves, st₁, hk₁, hsame⟩ := hfirst
  refine ⟨hmoves, transitionAfter fun hpending st' hk' => ?_⟩
  cases hk₁.symm.trans hk'
  rw [hsame]
  exact hpending

theorem clearPendingOpen_step : Keeps (Moves K) (do
    let st ← resolve k
    Counts.transitionAfter k st.isPendingResetExpiration) := by
  intro s
  refine Chains.resolve_bind fun st hk => transitionAfter fun hpending st' hk' => ?_
  cases hk.symm.trans hk'
  exact hpending

theorem sendClearQueues (hK : ∀ k, K.closes k) (hK' : ∀ k, K.pops k) : Keeps (Moves K) Send.clearQueues := by
  refine chains.bind (clearQueue fun s k s₁ u s' hpop h => ?_) fun _ =>
    chains.bind (clearQueue fun s k s₁ u s' hpop h => ?_) fun _ => clearQueue fun s k s₁ u s' hpop h => ?_
  · exact .step (popped (by decide) hpop nofun) (transition k (chains.pure _ _) _ _ h)
  · exact .step (popped (by decide) hpop fun _ => hK' k) (clearPendingSend_step (hK k) (hK' k) _ _ _ h)
  · exact .step (popped (by decide) hpop nofun) (clearPendingOpen_step _ _ _ h)

/-! Polling. -/

theorem incNumSendStreams (hk : s.get? k = some st)
    (own : s.counts.role.isLocalInit k.streamId = true) (unopened : st.isPendingOpen = false) :
    KeepsAt (Moves K) s (Counts.incNumSendStreams k) := by
  intro u s' h
  obtain ⟨_, _, hget, h⟩ := bind_eq_some h
  obtain ⟨rfl, rfl⟩ := get_some.mp hget
  obtain ⟨_, _, hroom, h⟩ := bind_eq_some h
  obtain ⟨-, rfl⟩ := assert_some.mp hroom
  obtain ⟨_, _, hresolve, h⟩ := bind_eq_some h
  obtain ⟨hst, rfl⟩ := resolve_some.mp hresolve
  cases hk.symm.trans hst
  obtain ⟨_, _, hassert, h⟩ := bind_eq_some h
  obtain ⟨huncounted, rfl⟩ := assert_some.mp hassert
  obtain ⟨_, _, hset, h⟩ := bind_eq_some h
  obtain rfl := set_some.mp hset
  obtain ⟨st', hst', rfl⟩ := update_some.mp h
  cases hk.symm.trans hst'
  exact .single (.turn hk (.count (by simpa using huncounted) unopened) (.count true own (by simp)))

theorem popPendingOpen
    (own : ∀ k tail, s.send.pendingOpen.indices = some ⟨k, tail⟩ →
      s.counts.role.isLocalInit k.streamId = true) :
    KeepsAt (Moves K) s Send.popPendingOpen := by
  refine .get_bind ?_
  split
  · refine chains.step fun o s₁ hpop => ?_
    rcases pop_some hpop with ⟨rfl, -, rfl⟩ | ⟨k, st, tail, rfl, hk, hhead, hf⟩
    · exact ⟨.refl _, chains.pure _ _⟩
    · refine ⟨.single (popped (by decide) hpop nofun), ?_⟩
      obtain ⟨key, hself⟩ := hf.get_self hk
      refine .bind chains.trans (incNumSendStreams hself ?_ rfl) fun _ => chains.pure _
      rw [hf.role]
      exact own k tail hhead
  · exact chains.pure _ s

theorem tryAllocateStreamFlow (k : Key) (rem available : Nat) :
    Keeps (Moves K) (Send.tryAllocateStreamFlow k rem available) := by
  refine chains.bind (chains.resolve _) fun st => chains.bind chains.get fun s => ?_
  dsimp only
  split
  · exact chains.pure _
  · split
    · exact chains.pure _
    · exact chains.bind (allocate _ _) fun _ => chains.pure _

theorem pushFrontSend (hK : K.pops k) (hk : s.get? k = some st) (hst : st.Served) (frame : Frame)
    (own : frame.streamId = k.streamId) :
    KeepsAt (Moves K) s (M.pushFrontSend k frame) :=
  chains.update_bind hk (turn hk (.putBack hK frame hst.dry hst.body hst.streams
    (own.trans (Store.get_id hk).symm))) (modified (fun _ => .of_beside (by rfl)) _)

theorem sendClose (hK : K.pops k) (hk : s.get? k = some st) (dry : st.hasData = false) :
    KeepsAt (Moves K) s (Send.sendClose k) := by
  refine Chains.resolve_bind fun _ hst a s' h => ?_
  cases hk.symm.trans hst
  obtain ⟨state, _, hlift, h⟩ := bind_some.mp h
  obtain ⟨hclose, rfl⟩ := lift_some.mp hlift
  obtain ⟨st', hst', rfl⟩ := update_some.mp h
  cases hk.symm.trans hst'
  exact turn hk (.sendClose hK state hclose dry)

theorem setDataFrameEos (hK : K.pops k) (hk : s.get? k = some st) (hst : st.Served) (toRet : Data)
    {remaining : Option Data} (own : ∀ frame, remaining = some frame → frame.streamId = k.streamId) :
    KeepsAt (Moves K) s (Send.setDataFrameEos k toRet remaining) := by
  refine Chains.resolve_bind fun _ hst' => ?_
  cases hk.symm.trans hst'
  split
  · split
    · exact .bind chains.trans (sendClose hK hk hst.dry) fun _ => chains.pure _
    · exact chains.update_bind hk (turn hk (.trailer hK hst.dry (State.isUnsent_of_streams hst.streams)))
        (chains.pure _ _)
  · split
    · exact .bind chains.trans (pushFrontSend hK hk hst _ (own _ rfl)) fun _ => chains.pure _
    · exact chains.pure _ _

theorem modifySpa_get (f : SpaTracker → SpaTracker) (k : Key) :
    Ends s (Send.modifySpa f) fun _ s' => s'.get? k = s.get? k := by
  intro u s' h
  cases h
  rfl

theorem popEmptyDataFrame (hK : K.pops k) (hk : s.get? k = some st) (hst : st.Served) (frame : Data)
    (own : frame.streamId = k.streamId) :
    KeepsAt (Moves K) s (Send.popEmptyDataFrame k frame) := by
  refine chains.update_next hk rfl (turn hk (.spend hK _ _ _)) fun s₁ _ hk₁ => .get_bind ?_
  refine Chains.resolve_bind fun _ _ => ?_
  have hserved : Stream.Served { st with remainingDataLen := none } := ⟨hst.dry, hst.body, hst.streams⟩
  split
  · refine chains.step fun u s₂ hspa => ⟨modifySpa _ _ _ _ hspa, ?_⟩
    rw [← modifySpa_get _ k _ _ hspa] at hk₁
    exact .bind chains.trans (pushFrontSend hK hk₁ hserved _ own) fun _ => chains.pure _
  · exact .bind chains.trans (setDataFrameEos hK hk₁ hserved _ nofun) fun _ => chains.pure _

theorem emitData (hK : K.pops k) (hk : s.get? k = some st) (hst : st.Served)
    (rem maxFrameSize available : Nat) (frame : Data) (own : frame.streamId = k.streamId) :
    KeepsAt (Moves K) s (Send.emitData k rem maxFrameSize available frame) := by
  refine Chains.resolve_bind fun _ _ => .get_bind ?_
  refine chains.update_next hk rfl (turn hk (.spend hK _ _ _)) fun s₁ _ hk₁ => Chains.assert_bind fun _ => ?_
  refine .bind chains.trans (setDataFrameEos hK hk₁ ⟨hst.dry, hst.body, hst.streams⟩ _ ?_) fun _ =>
    chains.pure _
  rintro _ ⟨⟩
  exact own

theorem served {s' : Inner} {st' : Stream} (h : Moves .none s s') (hk : s.get? k = some st)
    (hst : st.Served) (hk' : s'.get? k = some st') : st'.Served := by
  have hcore := h.core hk hk'
  simp only [Stream.core, Prod.mk.injEq] at hcore
  obtain ⟨hstate, hqueue, htrailer, -⟩ := hcore
  exact ⟨by rw [Stream.hasData, hqueue]; exact hst.dry, htrailer ▸ hst.body, hstate ▸ hst.streams⟩

theorem popDataFrame (hK : K.pops k) (hk : s.get? k = some st) (hst : st.Served) (maxFrameSize : Nat)
    (frame : Data) (own : frame.streamId = k.streamId) :
    KeepsAt (Moves K) s (Send.popDataFrame k maxFrameSize frame) := by
  refine Chains.resolve_bind fun _ hst' => ?_
  cases hk.symm.trans hst'
  split
  · exact chains.pure _ _
  · split
    · exact popEmptyDataFrame hK hk hst _ own
    · dsimp only
      split
      · refine chains.step fun u s₁ hspa => ⟨modifySpa _ _ _ _ hspa, ?_⟩
        rw [← modifySpa_get _ k _ _ hspa] at hk
        exact .bind chains.trans (pushFrontSend hK hk hst _ own) fun _ => chains.pure _
      · refine chains.step fun b s₁ hflow => ⟨tryAllocateStreamFlow _ _ _ _ _ _ hflow, ?_⟩
        have hbeside : Moves .none s s₁ := tryAllocateStreamFlow _ _ _ _ _ _ hflow
        intro a s' h
        have hk₁ : ∃ st₁, s₁.get? k = some st₁ := by
          split at h
          · obtain ⟨_, _, hpush, -⟩ := bind_eq_some h
            obtain ⟨_, _, hup, -⟩ := bind_eq_some hpush
            obtain ⟨st₁, hk₁, -⟩ := update_some.mp hup
            exact ⟨st₁, hk₁⟩
          · obtain ⟨st₁, _, hresolve, -⟩ := bind_eq_some h
            exact ⟨st₁, (resolve_some.mp hresolve).1⟩
        obtain ⟨st₁, hk₁⟩ := hk₁
        have hserved := served hbeside hk hst hk₁
        split at h
        · exact KeepsAt.bind chains.trans (pushFrontSend hK hk₁ hserved (.data frame) own) (fun _ =>
            chains.bind (pushCapacity _) fun _ => chains.pure _) _ _ h
        · exact emitData hK hk₁ hserved _ _ _ _ own _ _ h

theorem popFrontSend_ends (hk : s.get? k = some st) :
    Ends s (M.popFrontSend k) fun o s' => (o = none ∧ st.pendingSend = [] ∧ s' = s) ∨
      ∃ frame rest, o = some frame ∧ st.pendingSend = frame :: rest ∧
        s'.get? k = some { st with pendingSend := rest } := by
  refine Ends.resolve_bind fun _ hst => ?_
  cases hk.symm.trans hst
  split
  · rename_i hempty
    exact Ends.pure (Or.inl ⟨rfl, hempty, rfl⟩)
  · rename_i frame rest hqueue
    refine Ends.update_bind hk (Ends.modify_bind (Ends.pure (Or.inr ⟨frame, rest, rfl, hqueue, ?_⟩)))
    exact Inner.get?_put hk { st with pendingSend := rest } rfl

theorem nextHeaders (hK : K.pops k) (hk : s.get? k = some st) (hst : st.Shaped) (header : Headers) :
    KeepsAt (Moves K) s (do
      let st ← resolve k
      M.when st.remainingDataLen.isSome (Send.tryAssignCapacity k)
      M.when st.isSendingTrailer (Send.sendClose k)
      pure (some (Frame.headers header))) := by
  refine Chains.resolve_bind fun _ hst' => ?_
  cases hk.symm.trans hst'
  have hassign : ∀ K, Keeps (Moves K) (M.when st.remainingDataLen.isSome (Send.tryAssignCapacity k)) :=
    fun K => chains.when _ (tryAssignCapacity _)
  refine chains.step fun u s₁ hwhen => ⟨hassign K _ _ _ hwhen, .bind chains.trans ?_ fun _ => chains.pure _⟩
  intro u' s' hclose
  rcases when_some.mp hclose with ⟨htrailer, hclose⟩ | ⟨-, rfl⟩
  · obtain ⟨st₁, _, hresolve, -⟩ := bind_eq_some hclose
    have hk₁ := (resolve_some.mp hresolve).1
    have hcore := (hassign .none _ _ _ hwhen).core hk hk₁
    simp only [Stream.core, Prod.mk.injEq] at hcore
    refine sendClose hK hk₁ ?_ _ _ hclose
    rw [Stream.hasData, hcore.2.1]
    exact hst.dry_of_trailer htrailer
  · exact .refl _

theorem nextFrame (hK : K.pops k) (hK' : K.closes k) (hk : s.get? k = some st) (hst : st.Shaped)
    (maxFrameSize : Nat) {b : Bool} (hb : b = true → s.Lingers k) :
    KeepsAt (Moves K.lasting) s (Send.nextFrame k maxFrameSize b) := by
  have hpops : K.lasting.pops k := hK
  refine chains.step fun o s₁ hpop => ⟨popFrontSend hpops _ _ _ hpop, ?_⟩
  rcases popFrontSend_ends hk _ _ hpop with ⟨rfl, -, rfl⟩ | ⟨frame, rest, rfl, hqueue, hk₁⟩
  · refine Chains.resolve_bind fun st hk => ?_
    split
    · rename_i reason hreason
      have hturn : K.lasting.closes k := hK'
      exact chains.update_bind hk (turn hk (.reset hturn reason .library (by decide) (Or.inr hreason) _ _
        (Or.inr ⟨rfl, hpops⟩) (Or.inr ⟨rfl, rfl⟩))) (chains.pure _ _)
    · refine .read_bind (fun _ _ h => (debugAssert_some.mp h).2.symm) fun _ => ?_
      exact .bind chains.trans (transitionAfter hb) fun _ => chains.pure _
  · cases frame with
    | data data =>
      have hown : data.streamId = st.id := hst.own (.data data) (hqueue ▸ List.mem_cons_self)
      exact popDataFrame hpops hk₁ (hst.served hqueue) _ _ (hown.trans (Store.get_id hk))
    | headers header => exact nextHeaders hpops hk₁ (hst.taken hqueue) _
    | reset frame => exact chains.pure _ _

theorem requeue (k : Key) : Keeps (Moves K) (Send.requeue k) := by
  intro s
  refine Chains.resolve_bind fun st hk => .get_bind ?_
  refine chains.step fun u s₁ hidle => ?_
  have hfirst : Moves K s s₁ ∧ s₁.get? k = some st := by
    rcases when_some.mp hidle with ⟨-, hset⟩ | ⟨-, rfl⟩
    · obtain rfl := set_some.mp hset
      exact ⟨aside (.of_beside rfl), hk⟩
    · exact ⟨.refl _, hk⟩
  refine ⟨hfirst.1, ?_⟩
  split
  · exact chains.bind (chains.debugAssert _) (fun _ => modifySpa _) s₁
  · split
    · rename_i hmore
      have hready : st.Schedulable := by
        rw [Bool.or_eq_true, Bool.not_eq_true', List.isEmpty_eq_false_iff] at hmore
        exact hmore.imp_right fun hscheduled => Or.inl (State.isClosed_of_isScheduledReset hscheduled)
      exact .bind chains.trans (pushSend hfirst.2 hready) fun _ => chains.pure _
    · exact chains.pure _ s₁

omit [HeaderPlz] [StoreCrates] in
theorem isClosed_of_clear {state : State}
    (h : (state.isRemoteReset || state.getScheduledReset == some Reason.CANCEL) = true) :
    state.isClosed = true := by
  cases state with
  | closed cause => rfl
  | _ => cases h

theorem clearBeforePop (hK : K.closes k) (hk : s.get? k = some st) :
    KeepsAt (Moves K) s (M.when (st.state.isRemoteReset ||
      st.state.getScheduledReset == some Reason.CANCEL) (Send.clearStreamQueue k)) := by
  intro a s' h
  rcases when_some.mp h with ⟨hclear, h⟩ | ⟨-, rfl⟩
  · exact clearStreamQueue hK hk (isClosed_of_clear hclear) _ _ h
  · exact .refl _

theorem popFrameLoop (hK : ∀ k, K.pops k) (hK' : ∀ k, K.closes k) (maxFrameSize n : Nat)
    (hs : s.Each fun _ st => st.Shaped) :
    KeepsAt (Moves K.lasting) s (Send.popFrameLoop maxFrameSize n) := by
  induction n generalizing s with
  | zero => exact Chains.abort s
  | succ n ih =>
    refine chains.step fun o s₀ hpop => ?_
    have hpopped : Moves K.lasting s s₀ := pop (K := K.lasting) (by decide) (fun k _ => hK k) _ _ _ hpop
    refine ⟨hpopped, ?_⟩
    split
    · exact chains.pure _ _
    · rename_i k
      refine Chains.resolve_bind fun st hk => ?_
      have hlingers : st.isPendingResetExpiration = true → s₀.Lingers k := by
        intro hpending st' hk'
        cases hk.symm.trans hk'
        exact hpending
      refine chains.step fun u s₁ hclear => ?_
      have hcleared : Moves K.lasting s₀ s₁ := clearBeforePop (K := K.lasting) (hK' k) hk _ _ hclear
      refine ⟨hcleared, chains.step fun frame s₂ hnext => ?_⟩
      have hshaped := hcleared.shaped (hpopped.shaped hs)
      have hfound : ∃ st₁, s₁.get? k = some st₁ := by
        obtain ⟨_, _, hfront, -⟩ := bind_eq_some hnext
        obtain ⟨st₁, _, hresolve, -⟩ := bind_eq_some hfront
        exact ⟨st₁, (resolve_some.mp hresolve).1⟩
      obtain ⟨st₁, hk₁⟩ := hfound
      have hmoved : Moves K.lasting s₁ s₂ := nextFrame (hK k) (hK' k) hk₁ (hshaped k st₁ hk₁) _
        (fun hyes => hcleared.lingers (hlingers hyes)) _ _ hnext
      refine ⟨hmoved, ?_⟩
      split
      · exact ih (hmoved.shaped hshaped)
      · refine chains.step fun u s₃ hrequeue => ?_
        have hrequeued : Moves K.lasting s₂ s₃ := requeue k _ _ _ hrequeue
        refine ⟨hrequeued, .bind chains.trans (transitionAfter fun hyes => ?_) fun _ => chains.pure _⟩
        exact hrequeued.lingers (hmoved.lingers (hcleared.lingers (hlingers hyes)))

theorem pollCompleteRound (hK : ∀ k, K.pops k) (hK' : ∀ k, K.closes k) (maxFrameSize : Nat)
    (own : ∀ k tail, s.send.pendingOpen.indices = some ⟨k, tail⟩ →
      s.counts.role.isLocalInit k.streamId = true) (hs : s.Each fun _ st => st.Shaped) :
    KeepsAt (Moves K) s (Send.pollCompleteRound maxFrameSize) := by
  have hround : KeepsAt (Moves K.lasting) s (Send.pollCompleteRound maxFrameSize) := by
    refine chains.step fun o s₁ hopen => ⟨popPendingOpen own _ _ hopen, chains.step fun u s₂ hpush => ?_⟩
    have hopened : Moves K.lasting s s₁ := popPendingOpen own _ _ hopen
    have hpushed : Moves K.lasting s₁ s₂ :=
      chains.whenSome _ (fun k => chains.bind (pushFront (K := K.lasting) (hK k)) fun _ => chains.pure _) _ _ _ hpush
    exact ⟨hpushed, popFrameLoop hK hK' _ _ (hpushed.shaped (hopened.shaped hs))⟩
  exact fun a s' h => (hround a s' h).of_lasting

end Moves

end TwoPlz
