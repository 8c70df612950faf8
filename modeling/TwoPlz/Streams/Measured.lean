import TwoPlz.Streams.Onward
import TwoPlz.Streams.RefMoves
import TwoPlz.Streams.Serving

/-! `remaining_data_len` is the number of body bytes in the queue of its stream, as long as nothing is
held back for a `SpaTracker`. -/

namespace TwoPlz

variable [HeaderPlz] [StoreCrates]

def Frame.bodyLen : Frame → Nat
  | .data frame => frame.data.length
  | _ => 0

def Stream.queuedLen (st : Stream) : Nat := (st.pendingSend.map Frame.bodyLen).sum

def Stream.Measured (st : Stream) : Prop := st.queuedLen = st.remainingDataLen.getD 0

section

omit [StoreCrates]

theorem Frame.bodyLen_eq_zero {frame : Frame} (h : frame.isData = false) : frame.bodyLen = 0 := by
  cases frame with
  | data => cases h
  | _ => rfl

theorem Stream.queuedLen_of_dry {st : Stream} (h : st.hasData = false) : st.queuedLen = 0 := by
  refine List.sum_eq_zero fun n hn => ?_
  obtain ⟨frame, hframe, rfl⟩ := List.mem_map.mp hn
  refine Frame.bodyLen_eq_zero ?_
  have hall : ∀ frame ∈ st.pendingSend, frame.isData = false := by simpa [Stream.hasData] using h
  exact hall frame hframe

theorem Stream.queuedLen_concat (st : Stream) (frame : Frame) (rem : Option Nat) :
    Stream.queuedLen { st with pendingSend := st.pendingSend ++ [frame], remainingDataLen := rem } =
      st.queuedLen + frame.bodyLen := by
  simp [Stream.queuedLen]

theorem Stream.Shaped.length_front {st : Stream} (h : st.Shaped) {frame : Data} {rest : List Frame}
    (hqueue : st.pendingSend = .data frame :: rest) : frame.data.length = st.queuedLen := by
  have hrest := Stream.queuedLen_of_dry (h.served hqueue).dry
  change (rest.map Frame.bodyLen).sum = 0 at hrest
  rw [Stream.queuedLen, hqueue, List.map_cons, List.sum_cons, hrest]
  rfl

end

section

variable {K : Scope} {s s' : Inner} {k : Key} {st st' : Stream} {busy : Key → Prop}

omit [StoreCrates] in
theorem Turn.measured {role : Role} {kind : Kind} (h : Turn K role k kind st st') (hK : ¬K.pops k)
    (hst : st.Measured) : st'.Measured := by
  cases h with
  | fail => rfl
  | drainSend => rfl
  | reset _ reason initiator _ _ queue rem _ held =>
    rcases held with ⟨rfl, rfl⟩ | ⟨rfl, rfl⟩
    · rfl
    · exact hst
  | queueReset _ frame empty =>
    have hzero : st.queuedLen = 0 := Stream.queuedLen_of_dry (by simp [Stream.hasData, empty])
    exact (st.queuedLen_concat (.reset frame) st.remainingDataLen).trans hst
  | queue _ frame rem _ _ _ data held =>
    have hsum := st.queuedLen_concat frame rem
    rcases held with ⟨body, rfl, rfl⟩ | ⟨hframe, rfl⟩
    · rw [Stream.queuedLen_of_dry (data rfl).2, Nat.zero_add] at hsum
      exact hsum
    · rw [Frame.bodyLen_eq_zero hframe] at hsum
      exact hsum.trans hst
  | take hpops => exact absurd hpops hK
  | putBack hpops => exact absurd hpops hK
  | spend hpops => exact absurd hpops hK
  | _ => exact hst

def Inner.Measured (s : Inner) (busy : Key → Prop) : Prop := s.Each fun k st => busy k ∨ st.Measured

theorem Moves.measured (h : Moves K s s') (hK : ∀ k, K.pops k → busy k) (hs : s.Measured busy) :
    s'.Measured busy := by
  refine h.each ⟨⟨?_, ?_, ?_⟩, ?_⟩ hs
  · intro k kind st st' hturn hst
    rcases Classical.em (busy k) with hbusy | hfree
    · exact Or.inl hbusy
    · exact Or.inr (hturn.measured (fun hpops => hfree (hK k hpops)) (hst.resolve_left hfree))
  · intro k st n now val hst
    cases n <;> exact hst
  · intro k st n key hst
    cases n <;> exact hst
  · exact fun k _ _ _ _ => Or.inr rfl

end

namespace Send

open M

variable {s : Inner} {k : Key} {st : Stream}

def MeasuredAt (k : Key) (s : Inner) : Prop := ∀ st, s.get? k = some st → st.Measured

theorem MeasuredAt.of_get (hk : s.get? k = some st) (hst : st.Measured) : MeasuredAt k s := by
  intro st' hk'
  cases hk.symm.trans hk'
  exact hst

theorem MeasuredAt.beside {s' : Inner} (h : MeasuredAt k s) (hmoves : Moves .none s s') :
    MeasuredAt k s' := by
  intro st' hk'
  have hothers : s.Measured fun j => j ≠ k := fun j stj hj => by
    rcases Classical.em (j = k) with rfl | hne
    · exact Or.inr (h stj hj)
    · exact Or.inl hne
  exact (hmoves.measured (fun _ hno => hno.elim) hothers k st' hk').resolve_left fun hne => hne rfl

theorem sendClose_measured (h : MeasuredAt k s) : Ends s (sendClose k) fun _ => MeasuredAt k := by
  refine Ends.resolve_bind fun st hk => Ends.lift_bind fun state _ u s' hup => ?_
  obtain ⟨st', hst', rfl⟩ := update_some.mp hup
  exact .of_get (Inner.get?_put hst' { st' with state := state } rfl) (h st' hst')

theorem setDataFrameEos_measured (hk : s.get? k = some st) (toRet : Data) {remaining : Option Data}
    (hnone : st.remainingDataLen = none → st.queuedLen = 0)
    (hsome : ∀ rem, st.remainingDataLen = some rem →
      (remaining.map fun frame => frame.data.length).getD 0 + st.queuedLen = rem) :
    Ends s (setDataFrameEos k toRet remaining) fun _ => MeasuredAt k := by
  refine Ends.resolve_bind fun _ hst => ?_
  cases hk.symm.trans hst
  split
  · rename_i hrem
    have hrem := Option.isNone_iff_eq_none.mp hrem
    have hmeasured : st.Measured := (hnone hrem).trans (by rw [hrem]; rfl)
    split
    · refine Ends.bind fun _ s₁ hclose => Ends.pure ?_
      exact sendClose_measured (.of_get hk hmeasured) _ _ hclose
    · refine Ends.update_next hk rfl fun s₁ _ hk₁ => Ends.pure ?_
      exact .of_get hk₁ hmeasured
  · rename_i hrem
    obtain ⟨rem, hrem⟩ := Option.ne_none_iff_exists'.mp (by simpa using hrem)
    have hlen := hsome rem hrem
    cases remaining with
    | none =>
      refine Ends.pure (.of_get hk ?_)
      rw [Stream.Measured, hrem]
      simpa using hlen
    | some frame =>
      refine Ends.bind fun u s₁ hpush => Ends.pure ?_
      obtain ⟨hk₁, -⟩ := Asserting.pushFrontSend_some hpush hk
      refine .of_get hk₁ ?_
      rw [Stream.Measured, hrem]
      simpa [Stream.queuedLen, Frame.bodyLen] using hlen

theorem emitData_measured (hk : s.get? k = some st) {rem : Nat} {frame : Data}
    (hlen : frame.data.length + st.queuedLen = rem) (maxFrameSize available : Nat) :
    Ends s (emitData k rem maxFrameSize available frame) fun _ => MeasuredAt k := by
  refine Ends.resolve_bind fun _ hst => Ends.get_bind ?_
  cases hk.symm.trans hst
  refine Ends.update_bind hk ?_
  have hrest : ∀ (flow : FlowControl) (allocated len : Nat), Ends (s.put k { st with
        sendFlow := flow, connectionWindowAllocated := allocated
        remainingDataLen := if rem - len > 0 then some (rem - len) else none }) (do
      M.assert (decide (len ≤ frame.data.length))
      let toRet ← setDataFrameEos k (Data.new st.id (frame.data.take len))
        (some { frame with data := frame.data.drop len })
      pure (some (Frame.data toRet))) fun _ => MeasuredAt k := by
    intro flow allocated len
    refine Ends.assert_bind fun hsplit => Ends.bind fun d s₂ heos => Ends.pure ?_
    have hsplit : len ≤ frame.data.length := of_decide_eq_true hsplit
    have hk₁ := Inner.get?_put hk { st with
      sendFlow := flow, connectionWindowAllocated := allocated
      remainingDataLen := if rem - len > 0 then some (rem - len) else none } rfl
    refine setDataFrameEos_measured hk₁ _ (fun hnone => ?_) (fun left hleft => ?_) _ _ heos
    · have hzero : ¬rem - len > 0 := fun hpos => by simp [hpos] at hnone
      change st.queuedLen = 0
      omega
    · have hleft' : rem - len = left := by
        by_cases hpos : rem - len > 0
        · simpa [hpos] using hleft
        · simp [hpos] at hleft
      simp only [Option.map_some, Option.getD_some, List.length_drop]
      change frame.data.length - len + st.queuedLen = left
      omega
  exact hrest _ _ _

theorem popDataFrame_measured (hk : s.get? k = some st) {frame : Data}
    (hlen : frame.data.length + st.queuedLen = st.remainingDataLen.getD 0)
    (hspa : s.send.spaTracker = none) (maxFrameSize : Nat) :
    Ends s (popDataFrame k maxFrameSize frame) fun _ => MeasuredAt k := by
  refine Ends.resolve_bind fun _ hst => ?_
  cases hk.symm.trans hst
  have hrestored : ∀ {s₁ s₂ : Inner} {u : Unit} {allocated : Nat},
      s₁.get? k = some { st with connectionWindowAllocated := allocated } →
      M.pushFrontSend k (.data frame) s₁ = some (u, s₂) → MeasuredAt k s₂ := by
    intro s₁ s₂ u allocated hk₁ hpush
    obtain ⟨hk₂, -⟩ := Asserting.pushFrontSend_some hpush hk₁
    refine .of_get hk₂ ?_
    rw [Stream.Measured]
    simpa [Stream.queuedLen, Frame.bodyLen] using hlen
  cases hrem : st.remainingDataLen with
  | none =>
    rw [hrem, Option.getD_none] at hlen
    refine Ends.pure (.of_get hk ?_)
    rw [Stream.Measured, hrem, Option.getD_none]
    omega
  | some rem =>
    rw [hrem, Option.getD_some] at hlen
    dsimp only
    split
    · rename_i hzero
      rw [beq_iff_eq] at hzero
      refine Ends.update_next hk rfl fun s₁ hs₁ hk₁ => Ends.get_bind (Ends.resolve_bind fun _ _ => ?_)
      obtain ⟨store, rfl⟩ := hs₁
      rw [hspa, Option.isSome_none, if_neg Bool.false_ne_true]
      refine Ends.bind fun d s₂ heos => Ends.pure ?_
      refine setDataFrameEos_measured hk₁ _ (fun _ => ?_) (fun left hleft => by cases hleft) _ _ heos
      change st.queuedLen = 0
      omega
    · split
      · refine Ends.bind fun u s₁ hspa => Ends.bind fun u s₂ hpush => Ends.pure ?_
        obtain ⟨hsame, -⟩ := Asserting.modifySpa_some (k := k) hspa
        exact hrestored (hsame.trans hk) hpush
      · refine Ends.bind fun b s₁ hflow => ?_
        obtain ⟨⟨allocated, hk₁⟩, -⟩ := Asserting.tryAllocateStreamFlow_ends hk _ _ _ _ hflow
        cases b with
        | true => exact emitData_measured hk₁ hlen _ _
        | false =>
          refine Ends.bind fun u s₂ hpush => Ends.bind fun b s₃ hcapacity => Ends.pure ?_
          exact (hrestored hk₁ hpush).beside (Moves.pushCapacity k _ _ _ hcapacity)

theorem nextFrame_measured (hk : s.get? k = some st) (hst : st.Measured) (hspa : s.send.spaTracker = none)
    (maxFrameSize : Nat) {b : Bool} (hb : b = true → s.Lingers k) :
    Ends s (nextFrame k maxFrameSize b) fun _ => MeasuredAt k := by
  refine Ends.bind fun o s₁ hpop => ?_
  have hpopped : Moves .unborn s s₁ := Moves.popFrontSend (K := .unborn) trivial _ _ _ hpop
  rcases Moves.popFrontSend_ends hk _ _ hpop with ⟨rfl, -, rfl⟩ | ⟨frame, rest, rfl, hqueue, hk₁⟩
  · refine Ends.resolve_bind fun _ hst' => ?_
    cases hk.symm.trans hst'
    split
    · exact Ends.update_next hk rfl fun s₂ _ hk₂ => Ends.pure (.of_get hk₂ hst)
    · refine Ends.debugAssert_bind (Ends.bind fun u s₂ hafter => Ends.pure ?_)
      exact (MeasuredAt.of_get hk hst).beside (Moves.transitionAfter hb _ _ hafter)
  · rw [Stream.Measured, Stream.queuedLen, hqueue, List.map_cons, List.sum_cons] at hst
    cases frame with
    | data data => exact popDataFrame_measured hk₁ hst (hpopped.spaTracker_none hspa) _
    | headers header =>
      have hrest : Stream.Measured { st with pendingSend := rest } := (Nat.zero_add _).symm.trans hst
      refine Ends.resolve_bind fun _ hst' => ?_
      cases hk₁.symm.trans hst'
      refine Ends.bind fun u s₂ hassign => Ends.bind fun u s₃ hclose => Ends.pure ?_
      have hmoves : Moves .none s₁ s₂ := Moves.chains.when _ (Moves.tryAssignCapacity _) _ _ _ hassign
      have hmeasured := (MeasuredAt.of_get hk₁ hrest).beside hmoves
      rcases when_some.mp hclose with ⟨-, hclose⟩ | ⟨-, rfl⟩
      · exact sendClose_measured hmeasured _ _ hclose
      · exact hmeasured
    | reset frame => exact Ends.pure (.of_get hk₁ ((Nat.zero_add _).symm.trans hst))

end Send

variable {K : Scope} {s s' : Inner} {k : Key} {st : Stream}

theorem Flagged.measured {n : Next} {val : Bool} {busy : Key → Prop} (h : Flagged n k val s s')
    (hs : s.Measured busy) : s'.Measured busy := by
  intro j stj hj
  obtain ⟨st, hst, hsame⟩ := h.unqueued hj
  refine (hs j st hst).imp_right fun hmeasured => ?_
  have hqueue : stj.pendingSend = st.pendingSend := congrArg (·.pendingSend) hsame
  have hrem : stj.remainingDataLen = st.remainingDataLen := congrArg (·.remainingDataLen) hsame
  rw [Stream.Measured, Stream.queuedLen, hqueue, hrem]
  exact hmeasured

theorem M.pop_measured {n : Next} {o : Option Key} {busy : Key → Prop} (h : M.pop n s = some (o, s'))
    (hs : s.Measured busy) : s'.Measured busy := by
  rcases M.pop_some h with ⟨-, -, rfl⟩ | ⟨_, _, _, -, -, -, hf⟩
  · exact hs
  · exact hf.measured hs

def Inner.Measures (s s' : Inner) : Prop := s.Measured (fun _ => False) → s'.Measured fun _ => False

theorem Inner.measures : Chains Inner.Measures := ⟨fun _ hs => hs, fun _ _ _ h h' hs => h' (h hs)⟩

theorem Moves.measures (h : Moves K s s') (hK : ∀ k, ¬K.pops k) : s.Measures s' :=
  h.measured fun k hpops => hK k hpops

namespace Send

open M

theorem cleared_measured {s₀ s₁ : Inner} {u : Unit} {st₀ : Stream} (hs : s.Measured fun _ => False)
    (hpop : M.pop .send s = some (some k, s₀)) (hk₀ : s₀.get? k = some st₀)
    (hclear : M.when (st₀.state.isRemoteReset || st₀.state.getScheduledReset == some Reason.CANCEL)
      (clearStreamQueue k) s₀ = some (u, s₁)) : s₁.Measured fun _ => False := by
  let K : Scope := { Scope.none with closes := (· = k) }
  have hcleared : Moves K s₀ s₁ := Moves.clearBeforePop (K := K) rfl hk₀ _ _ hclear
  exact hcleared.measures (fun _ hno => hno) (pop_measured hpop hs)

/-- Only the stream that is served loses bytes of its queue. -/
theorem served_measured {s' : Inner} {frame : Option Frame} {maxFrameSize : Nat} {b : Bool}
    (hs : s.Measured fun _ => False) (hk : s.get? k = some st) (hst : st.Shaped)
    (hspa : s.send.spaTracker = none) (hb : b = true → s.Lingers k)
    (hframe : nextFrame k maxFrameSize b s = some (frame, s')) : s'.Measured fun _ => False := by
  let K : Scope := { Scope.none with closes := (· = k), pops := (· = k) }
  have hmoved : Moves K s s' := Moves.nextFrame (K := K) rfl rfl hk hst maxFrameSize hb _ _ hframe
  have hserved : MeasuredAt k s' :=
    nextFrame_measured hk ((hs k st hk).resolve_left id) hspa maxFrameSize hb _ _ hframe
  intro j stj hj
  refine Or.inr ?_
  have hothers : s.Measured (· = k) := fun i sti hi => Or.inr ((hs i sti hi).resolve_left id)
  rcases hmoved.measured (fun _ heq => heq) hothers j stj hj with heq | hother
  · exact hserved stj (heq ▸ hj)
  · exact hother

/-- The states in which `pop_frame` can serve every stream and knows how much each has left. -/
structure Ready (s : Inner) : Prop where
  servable : Asserting.Servable s
  measured : s.Measured fun _ => False
  spa : s.send.spaTracker = none

theorem Ready.cleared {s₀ s₁ : Inner} {u : Unit} {st₀ : Stream} (hs : Ready s)
    (hpop : M.pop .send s = some (some k, s₀)) (hk₀ : s₀.get? k = some st₀)
    (hclear : M.when (st₀.state.isRemoteReset || st₀.state.getScheduledReset == some Reason.CANCEL)
      (clearStreamQueue k) s₀ = some (u, s₁)) : Ready s₁ where
  servable := (hs.servable.cleared hpop hk₀ hclear).1
  measured := cleared_measured hs.measured hpop hk₀ hclear
  spa := by
    let K : Scope := { Scope.none with closes := (· = k) }
    have hpopped : Moves .unborn s s₀ := Moves.pop (by decide) (fun _ _ => trivial) _ _ _ hpop
    have hcleared : Moves K s₀ s₁ := Moves.clearBeforePop (K := K) rfl hk₀ _ _ hclear
    exact hcleared.spaTracker_none (hpopped.spaTracker_none hs.spa)

theorem Ready.served {s' : Inner} {frame : Option Frame} {maxFrameSize : Nat} {b : Bool} (hs : Ready s)
    (hk : s.get? k = some st) (hst : st.Due s.debugAssertions) (hb : b = true → s.Lingers k)
    (hframe : nextFrame k maxFrameSize b s = some (frame, s')) : Ready s' where
  servable := by
    refine hs.servable.served hk hb hframe ?_
    rw [← Asserting.erase_nextFrame] at hframe
    exact (Asserting.nextFrame_passes hk hst hs.servable.shaped maxFrameSize hb).erased _ _ hframe
  measured := served_measured hs.measured hk hst.shaped hs.spa hb hframe
  spa := by
    let K : Scope := { Scope.none with closes := (· = k), pops := (· = k) }
    have hmoved : Moves K s s' := Moves.nextFrame (K := K) rfl rfl hk hst.shaped maxFrameSize hb _ _ hframe
    exact hmoved.spaTracker_none hs.spa

theorem popFrameLoop_measured (maxFrameSize n : Nat) (hs : Ready s) :
    Ends s (popFrameLoop maxFrameSize n) fun _ s' => s'.Measured fun _ => False := by
  induction n generalizing s with
  | zero => exact fun _ _ h => by cases h
  | succ n ih =>
    refine Ends.bind fun o s₀ hpop => ?_
    cases o with
    | none => exact Ends.pure (pop_measured hpop hs.measured)
    | some k =>
      refine Ends.resolve_bind fun st₀ hk₀ => Ends.bind fun u s₁ hclear => ?_
      obtain ⟨-, hlingers, st₁, hk₁, hdue⟩ := hs.servable.cleared hpop hk₀ hclear
      refine Ends.bind fun frame s₂ hframe => ?_
      have hs₂ := (hs.cleared hpop hk₀ hclear).served hk₁ hdue hlingers hframe
      cases frame with
      | none => exact ih hs₂
      | some frame =>
        refine Ends.bind fun u s₃ hrequeue => Ends.bind fun u s₄ hafter => Ends.pure ?_
        let K : Scope := { Scope.none with closes := (· = k), pops := (· = k) }
        have hmoved : Moves K s₁ s₂ :=
          Moves.nextFrame (K := K) rfl rfl hk₁ hdue.shaped maxFrameSize hlingers _ _ hframe
        have hrequeued : Moves .none s₂ s₃ := Moves.requeue k _ _ _ hrequeue
        have hdone : Moves .none s₃ s₄ := Moves.transitionAfter (fun hyes =>
          Moves.lingers (K := Scope.none) hrequeued (Moves.lingers (K := K) hmoved (hlingers hyes))) _ _ hafter
        exact (hrequeued.trans hdone).measures (fun _ hno => hno) hs₂.measured

theorem Ready.opened {s₁ s₂ : Inner} {o : Option Key} {u : Unit} (hs : Ready s)
    (own : ∀ k tail, s.send.pendingOpen.indices = some ⟨k, tail⟩ →
      s.counts.role.isLocalInit k.streamId = true)
    (hopen : popPendingOpen s = some (o, s₁))
    (hpush : M.whenSome o (fun k => do let _ ← M.pushFront .send k) s₁ = some (u, s₂)) : Ready s₂ := by
  have hopened : Moves .none s s₁ := Moves.popPendingOpen own _ _ hopen
  have hs₁ := hopened.measures (fun _ hno => hno) hs.measured
  have hspa₁ := hopened.spaTracker_none hs.spa
  refine ⟨hs.servable.opened own hopen hpush, ?_, ?_⟩ <;>
    rcases whenSome_some.mp hpush with ⟨k, rfl, hpush⟩ | ⟨-, rfl⟩
  · obtain ⟨b, s₃, hpush, hpure⟩ := bind_eq_some hpush
    cases hpure
    obtain ⟨_, _, ⟨-, -, rfl⟩ | ⟨-, -, hf⟩⟩ := pushFront_some hpush
    · exact hs₁
    · exact hf.measured hs₁
  · exact hs₁
  · obtain ⟨b, s₃, hpush, hpure⟩ := bind_eq_some hpush
    cases hpure
    have hpushed : Moves .unborn s₁ s₂ := Moves.pushFront (K := .unborn) trivial _ _ _ hpush
    exact hpushed.spaTracker_none hspa₁
  · exact hspa₁

theorem pollCompleteRound_measured (maxFrameSize : Nat) (hs : Ready s)
    (own : ∀ k tail, s.send.pendingOpen.indices = some ⟨k, tail⟩ →
      s.counts.role.isLocalInit k.streamId = true) :
    Ends s (pollCompleteRound maxFrameSize) fun _ s' => s'.Measured fun _ => False :=
  Ends.bind fun _ _ hopen => Ends.bind fun _ _ hpush => Ends.get_bind
    (popFrameLoop_measured _ _ (hs.opened own hopen hpush))

end Send

namespace Inner.Measures

open M

theorem recvEofStream (k : Key) : Keeps Inner.Measures (Counts.transition k do
    Recv.recvEof k
    Send.handleError k) := by
  intro s
  refine Chains.resolve_bind fun st hk u s' h hs => ?_
  obtain ⟨u₁, s₁, hfirst, h⟩ := bind_eq_some h
  obtain ⟨_, s₂, hafter, hpure⟩ := bind_eq_some h
  cases hpure
  obtain ⟨_, s₀, heof, herror⟩ := bind_eq_some hfirst
  obtain ⟨st', hst', rfl⟩ := update_some.mp heof
  cases hk.symm.trans hst'
  let K : Scope := { Scope.none with closes := fun _ => True, pops := fun _ => True }
  have hk₀ := Inner.get?_put hk { st with state := st.state.recvEof }.notifyRecv rfl
  have heof : Moves K s (s.put k { st with state := st.state.recvEof }.notifyRecv) :=
    Moves.turn (K := K) hk (.eof trivial trivial)
  have herror' : Moves K (s.put k { st with state := st.state.recvEof }.notifyRecv) s₁ :=
    Moves.sendHandleError (K := K) trivial hk₀ (State.isClosed_recvEof _) _ _ herror
  let K' : Scope := { Scope.none with closes := fun _ => True }
  have hmeasures : Moves K' (s.put k { st with state := st.state.recvEof }.notifyRecv) s₁ :=
    Moves.sendHandleError (K := K') trivial hk₀ (State.isClosed_recvEof _) _ _ herror
  have hdone : Moves .none s₁ s' := Moves.transitionAfter (fun hpending =>
    Moves.lingers (K := K) (heof.trans herror') fun st' hk' => by
      cases hk.symm.trans hk'
      exact hpending) _ _ hafter
  refine hdone.measures (fun _ hno => hno) (hmeasures.measures (fun _ hno => hno) ?_)
  exact Inner.Each.put hs hk rfl ((hs k st hk).imp_right fun hst => hst)

theorem sendClearQueues : Keeps Inner.Measures Send.clearQueues := by
  refine Inner.measures.bind (Inner.measures.clearQueue fun s k s₁ u s' hpop h hs => ?_) fun _ =>
    Inner.measures.bind (Inner.measures.clearQueue fun s k s₁ u s' hpop h hs => ?_) fun _ =>
      Inner.measures.clearQueue fun s k s₁ u s' hpop h hs => ?_
  · have hmoves : Moves .none s₁ s' := Moves.transition k (Moves.chains.pure _ _) _ _ h
    exact hmoves.measures (fun _ hno => hno) (pop_measured hpop hs)
  · obtain ⟨st, _, hresolve, h⟩ := bind_eq_some h
    obtain ⟨hk, rfl⟩ := resolve_some.mp hresolve
    obtain ⟨_, s₂, hreset, hafter⟩ := bind_eq_some h
    have hs₁ := pop_measured hpop hs
    have hs₂ : s₂.Measured (fun _ => False) ∧ (st.isPendingResetExpiration = true → s₂.Lingers k) := by
      rcases whenSome_some.mp hreset with ⟨reason, -, hreset⟩ | ⟨-, rfl⟩
      · obtain ⟨st', hst', rfl⟩ := update_some.mp hreset
        cases hk.symm.trans hst'
        refine ⟨Inner.Each.put hs₁ hk rfl ((hs₁ k st hk).imp_right fun hst => hst), fun hpending st' hk' => ?_⟩
        cases (Inner.get?_put hk (st.setReset reason .library) rfl).symm.trans hk'
        exact hpending
      · refine ⟨hs₁, fun hpending st' hk' => ?_⟩
        cases hk.symm.trans hk'
        exact hpending
    have hdone : Moves .none s₂ s' := Moves.transitionAfter hs₂.2 _ _ hafter
    exact hdone.measures (fun _ hno => hno) hs₂.1
  · have hmoves : Moves .none s₁ s' := Moves.clearPendingOpen_step _ _ _ h
    exact hmoves.measures (fun _ hno => hno) (pop_measured hpop hs)

theorem recvEof (b : Bool) : Keeps Inner.Measures (Inner.recvEof b) := by
  refine Inner.measures.bind (.modify fun s hs => hs) fun _ =>
    Inner.measures.bind (Inner.measures.forEach recvEofStream) fun _ =>
      Inner.measures.bind ?_ fun _ => sendClearQueues
  intro s u s' h
  let K : Scope := { Scope.none with expires := True, leaks := True }
  have hmoves : Moves K s s' := Moves.recvClearQueues (K := K) trivial trivial b _ _ _ h
  exact hmoves.measures fun _ hno => hno

end Inner.Measures

end TwoPlz
