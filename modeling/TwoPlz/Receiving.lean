import TwoPlz.Settled
import TwoPlz.Streams.Receipts

/-! What the frames that a stream receives keep, from what each function makes of the stream. -/

namespace TwoPlz

variable [HeaderPlz] [StoreCrates]

def Inner.At (s : Inner) (k : Key) (P : Stream → Prop) : Prop := ∀ st, s.get? k = some st → P st

theorem Inner.At.of {s : Inner} {k : Key} {st : Stream} {P : Stream → Prop} (hk : s.get? k = some st) (hP : P st) :
    s.At k P := by
  intro st' hk'
  cases hk.symm.trans hk'
  exact hP

def Scope.deaf : Scope :=
  { Scope.unborn with recv := fun _ => False, takes := fun _ => False, ends := fun _ => False }

/-- `P` goes on while nothing is received; `P False` is what is left of it when a frame is rejected. -/
structure Follows (role : Role) (P : Prop → Stream → Prop) : Prop where
  turn : ∀ {live : Prop} {k : Key} {kind : Kind} {st st' : Stream}, Turn .deaf role k kind st st' →
    P live st → P live st'
  settles : ∀ {live : Prop} {st st' : Stream}, st.Settles st' → P live st → P live st'
  counted : ∀ {live : Prop} {st : Stream} (b : Bool), P live st → P live { st with isCounted := b }
  weaken : ∀ {live live' : Prop} {st : Stream}, (live' → live) → P live st → P live' st
  closed : ∀ {st : Stream}, st.state.isClosed = true → P False st → P True st

namespace Follows

variable {role : Role} {P : Prop → Stream → Prop} {s s' : Inner} {k : Key} {st : Stream}

theorem moves (hP : Follows role P) {live : Prop} (h : Moves .deaf s s') (hrole : s.counts.role = role)
    (hs : s.At k (P live)) : s'.At k (P live) := by
  have hstable : Stable .deaf s.counts.role fun j st => j = k → P live st :=
    { turn := fun j kind st st' hturn hst hj => hP.turn (hrole ▸ hturn) (hst hj)
      flag := fun j st n now val hst hj => hP.settles (.of_unqueued (Stream.unqueued_setQueued _ _ _ _)) (hst hj)
      link := fun j st n key hst hj => hP.settles (.of_unqueued (Stream.unqueued_setNext _ _ _)) (hst hj)
      born := fun _ _ _ _ hno => hno.elim }
  exact fun st hk => h.each hstable (fun j stj hj hjk => hs stj (hjk ▸ hj)) k st hk rfl

end Follows

/-- What a function makes of the stream: `P` goes on, or the frame is rejected. -/
def Verdict (P : Prop → Stream → Prop) (k : Key) (res : Except ProtoError Unit) (s' : Inner) : Prop :=
  s'.At k (P True) ∨ ((∃ id reason, res = resets id reason) ∧ s'.At k (P False))

/-- What a frame comes to: `P` goes on unless the connection fails. -/
def Received (P : Prop → Stream → Prop) (k : Key) (res : Except ProtoError Unit) (s' : Inner) : Prop :=
  s'.At k (P False) ∧
    ((∃ data reason initiator, res = .error (.goAway data reason initiator)) ∨ s'.At k (P True))

namespace Follows

open M

variable {role : Role} {P : Prop → Stream → Prop} {s s' : Inner} {k : Key} {st : Stream}

theorem received (hP : Follows role P) {res : Except ProtoError Unit} (h : s.At k (P True)) : Received P k res s :=
  ⟨fun st hk => hP.weaken (fun _ => trivial) (h st hk), Or.inr h⟩

theorem resetOnRecvStreamErr (hP : Follows role P) (hrole : s.counts.role = role) {res : Except ProtoError Unit}
    (own : OwnError res) (h : Verdict P k res s) :
    Ends s (Actions.resetOnRecvStreamErr k res) (Received P k) := by
  intro res' s' hrun
  have hmoves : Moves .deaf s s' := Moves.resetOnRecvStreamErr trivial trivial own _ _ _ hrun
  rcases h with hon | ⟨⟨id, reason, rfl⟩, hoff⟩
  · exact hP.received (hP.moves hmoves hrole hon)
  · have hoff := hP.moves hmoves hrole hoff
    refine ⟨hoff, (Moves.resetOnRecvStreamErr_reset _ _ _ _ _ hrun).imp_right fun hreset st hk => ?_⟩
    exact hP.closed (State.isClosed_of_isReset (hreset st hk)) (hoff st hk)

/-- `transition` only looks whether the stream is over. -/
theorem transition (hP : Follows role P) {m : M (Except ProtoError Unit)}
    (hm : ∀ st, s.get? k = some st → Ends s m (Received P k)) : Ends s (Counts.transition k m) (Received P k) := by
  refine Ends.resolve_bind fun st hk => Ends.bind fun res s₁ hfirst => Ends.bind fun _ s₂ hafter => Ends.pure ?_
  have hbeside := (Moves.transitionAfter_beside k _ _ _ _ hafter).2
  have hkeep : ∀ {live : Prop}, s₁.At k (P live) → s₂.At k (P live) := by
    intro live hs st₂ hk₂
    obtain ⟨st₁, hk₁, hsame⟩ := hbeside st₂ hk₂
    rw [hsame]
    exact hP.counted _ (hs st₁ hk₁)
  obtain ⟨hoff, hon⟩ := hm st hk _ _ hfirst
  exact ⟨hkeep hoff, hon.imp_right hkeep⟩

structure Blocks (P : Prop → Stream → Prop) (s : Inner) (st : Stream) (frame : Headers) : Prop where
  rejected : ∀ isInitial state b len res, st.state.recvOpen frame = .ok (isInitial, state) →
    LengthReceipt st frame res len → P False { st with state := state, isCounted := b, contentLength := len }
  taken : ∀ res st₁, HeadersReceipt s st frame res st₁ → res = .ok () → P True st₁

theorem sendOversizeResponse_gone {resp : Headers} (hk : s.get? k = none) (u : Unit) (s' : Inner) :
    Inner.sendOversizeResponse resp k s ≠ some (u, s') := by
  intro h
  obtain ⟨sent, s₁, hheaders, h⟩ := bind_eq_some h
  unfold Send.sendHeaders at hheaders
  cases hcheck : Send.checkHeaders resp.fields with
  | error e =>
    rw [hcheck] at hheaders
    cases hheaders
    obtain ⟨_, _, hassert, h⟩ := bind_eq_some h
    obtain ⟨-, rfl⟩ := debugAssert_some.mp hassert
    obtain ⟨_, _, hschedule, -⟩ := bind_eq_some h
    obtain ⟨st, _, hresolve, -⟩ := bind_eq_some hschedule
    cases hk.symm.trans (resolve_some.mp hresolve).1
  | ok u =>
    rw [hcheck] at hheaders
    obtain ⟨st, _, hresolve, -⟩ := bind_eq_some hheaders
    cases hk.symm.trans (resolve_some.mp hresolve).1

theorem recvHeaderBlock (hP : Follows role P) (hrole : s.counts.role = role) (frame : Headers)
    (hk : s.get? k = some st) (hst : P True st) (hfit : Blocks P s st frame)
    (hfirst : s.counts.role.isServer = true → Scope.deaf.Listens s k st frame.streamId) :
    Ends s (Inner.recvHeaderBlock frame k) (Verdict P k) := by
  refine Ends.bind fun res s₁ hblock => ?_
  have hreceipt := Recv.recvHeaders_receipt frame hk _ _ hblock
  have hrole₁ : s₁.counts.role = role := (sameRole_blind.recvHeaders _ _ _ _ _ hblock).trans hrole
  have hon : res = .ok () → s₁.At k (P True) := by
    rintro hres st₁ hk₁
    obtain ⟨st₂, hrec, hsettles⟩ := hreceipt st₁ hk₁
    exact hP.settles hsettles (hfit.taken _ _ hrec hres)
  have hoff : s₁.At k (P False) := by
    intro st₁ hk₁
    obtain ⟨st₂, hrec, hsettles⟩ := hreceipt st₁ hk₁
    refine hP.settles hsettles ?_
    cases hrec with
    | refused => exact hP.weaken (fun _ => trivial) hst
    | rejected isInitial state b len res _ h length => exact hfit.rejected isInitial state b len res h length
    | informational isInitial state b len h length info =>
      exact hP.weaken (fun _ => trivial) (hfit.taken _ _ (.informational isInitial state b len h length info) rfl)
    | delivered isInitial state b len message h length final built =>
      exact hP.weaken (fun _ => trivial) (hfit.taken _ _ (.delivered isInitial state b len message h length
        final built) rfl)
  split
  · exact Ends.pure (Or.inl (hon rfl))
  · rename_i resp
    refine Ends.bind fun _ s₂ hsent => Ends.pure (Or.inl ?_)
    cases hk₁ : s₁.get? k with
    | none => exact absurd hsent (sendOversizeResponse_gone hk₁ _ _)
    | some st₁ =>
      obtain ⟨st₂, hrec, hsettles⟩ := hreceipt st₁ hk₁
      have hsent' : Moves .deaf s₁ s₂ := by
        cases hrec with
        | rejected isInitial state b len _ _ h _ why =>
          obtain ⟨hserver, hinitial, hid⟩ :
              s.counts.role.isServer = true ∧ isInitial = true ∧ st.id = resp.streamId := by
            rcases why with why | ⟨id, why⟩
            · simp only [RecvHeaderBlockError.oversize.injEq, Recv.oversizeResponse] at why
              split at why
              · rename_i hyes
                rw [Bool.and_eq_true] at hyes
                cases why
                exact ⟨hyes.1, hyes.2, rfl⟩
              · cases why
            · cases why
          subst hinitial
          have hlistens := hfirst hserver
          obtain ⟨-, hremote, -, hempty, htrailer⟩ := hlistens.admits (Moves.recvOpen_initial h)
          have hstate : st₁.state = state := congrArg (fun st => st.state) hsettles
          refine Moves.sendOversizeResponse trivial trivial ((Store.get_id hk).symm.trans hid) hk₁
            (hstate ▸ not_idle_recvOpen h) ?_ ?_ ?_ ?_ _ _ hsent
          · exact (congrArg (fun st => st.pendingSend) hsettles).trans hempty
          · exact (congrArg (fun st => st.isSendingTrailer) hsettles).trans htrailer
          · rwa [hrole₁, ← hrole]
          · rwa [hrole₁, ← hrole]
      have hkept := hP.moves hsent' hrole₁ hoff
      exact fun st hk => hP.closed (Moves.sendOversizeResponse_closed _ _ _ hsent st hk) (hkept st hk)
  · exact Ends.resolve_bind fun _ _ => Ends.pure (Or.inr ⟨⟨_, _, rfl⟩, hoff⟩)
  · rename_i e
    refine Ends.pure ?_
    cases hk₁ : s₁.get? k with
    | none =>
      refine Or.inl fun st₁ hst₁ => ?_
      cases hk₁.symm.trans hst₁
    | some st₁ =>
      obtain ⟨st₂, hrec, hsettles⟩ := hreceipt st₁ hk₁
      cases hrec with
      | refused => exact Or.inl (.of hk₁ (hP.settles hsettles hst))
      | rejected _ _ _ _ _ _ _ _ why =>
        rcases why with why | ⟨id, why⟩
        · cases why
        · cases why
          exact Or.inr ⟨⟨_, _, rfl⟩, hoff⟩

theorem of_receipt (hP : Follows role P) {res : Except ProtoError Unit} {R : Stream → Prop} (h : Leads k R s)
    (hfit : ∀ st, R st → P True st ∨ (∃ id reason, res = resets id reason) ∧ P False st) : Verdict P k res s := by
  cases hk : s.get? k with
  | none =>
    refine Or.inl fun st hst => ?_
    cases hk.symm.trans hst
  | some st =>
    obtain ⟨st₁, hR, hsettles⟩ := h st hk
    rcases hfit st₁ hR with hon | ⟨hres, hoff⟩
    · exact Or.inl (.of hk (hP.settles hsettles hon))
    · exact Or.inr ⟨hres, .of hk (hP.settles hsettles hoff)⟩

theorem recvStreamHeaders (hP : Follows role P) (hrole : s.counts.role = role) (frame : Headers)
    (hk : s.get? k = some st) (hst : P True st)
    (hblock : st.state.isRecvHeaders = true → Ends s (Inner.recvHeaderBlock frame k) (Verdict P k))
    (htrailers : st.state.isRecvHeaders = false → Ends s (Recv.recvTrailers frame k) (Verdict P k)) :
    Ends s (Inner.recvStreamHeaders frame k) (Received P k) := by
  refine Ends.resolve_bind fun _ hst' => ?_
  cases hk.symm.trans hst'
  split
  · rename_i hheaders
    refine Ends.bind fun res s₁ hrun => ?_
    have hrole₁ : s₁.counts.role = role := (sameRole_blind.recvHeaderBlock _ _ _ _ _ hrun).trans hrole
    exact hP.resetOnRecvStreamErr hrole₁ (Inner.recvHeaderBlock_own _ _ _ _ _ hrun) (hblock hheaders _ _ hrun)
  · rename_i hheaders
    split
    · exact Ends.pure (hP.received (.of hk hst))
    · refine Ends.bind fun res s₁ hrun => ?_
      have hrole₁ : s₁.counts.role = role := (sameRole_blind.recvTrailers _ _ _ _ _ hrun).trans hrole
      exact hP.resetOnRecvStreamErr hrole₁ (Recv.recvTrailers_own _ _ _ _ _ hrun)
        (htrailers (by simpa using hheaders) _ _ hrun)

theorem innerRecvData (hP : Follows role P) (hrole : s.counts.role = role) (frame : Data)
    (hfind : s.store.find frame.streamId = some k)
    (hdata : ∀ st, s.get? k = some st → Ends s (Recv.recvData frame k) (Verdict P k)) :
    Ends s (Inner.recvData frame) (Received P k) := by
  refine Ends.bind fun o s₁ hfound => ?_
  obtain ⟨rfl, rfl⟩ := Moves.find_some hfound
  rw [hfind]
  refine hP.transition fun st hk => Ends.bind fun res s₂ hrun => ?_
  have hrole₂ : s₂.counts.role = role := (sameRole_blind.recvData sameRole_blind.recvFlow
    sameRole_blind.checkConnection sameRole_blind.checkStream _ _ _ _ _ hrun).trans hrole
  exact hP.resetOnRecvStreamErr hrole₂ (Recv.recvData_own _ _ _ _ _ hrun) (hdata st hk _ _ hrun)

theorem innerRecvHeaders (hP : Follows role P) (frame : Headers)
    (hfind : s.store.find frame.streamId = some k) (hs : s.At k (P True))
    (hheaders : ∀ st, s.get? k = some st → Ends s (Inner.recvStreamHeaders frame k) (Received P k)) :
    Ends s (Inner.recvHeaders frame) (Received P k) := by
  refine Ends.get_bind ?_
  split
  · exact Ends.pure (hP.received hs)
  · refine Ends.bind fun res s₁ hinsert => ?_
    obtain ⟨rfl, rfl⟩ : res = .ok (some k) ∧ s₁ = s := by
      obtain ⟨_, _, hfound, hinsert⟩ := bind_eq_some hinsert
      obtain ⟨rfl, rfl⟩ := Moves.find_some hfound
      rw [hfind] at hinsert
      cases hinsert
      exact ⟨rfl, rfl⟩
    refine Ends.resolve_bind fun st hk => ?_
    split
    · exact Ends.pure (hP.received hs)
    · exact hP.transition hheaders

end Follows

structure Reads (role : Role) (P : Prop → Stream → Prop) : Prop extends Follows role P where
  born : ∀ id initSend initRecv, P True (Stream.new id initSend initRecv)
  data : ∀ {st st' : Stream} {frame : Data} {limit : Nat} {res : Except ProtoError Unit}, P True st →
    st.state.isRecvStreaming = true → frame.data.length ≤ MAX_WINDOW_SIZE →
    DataReceipt st frame limit res st' →
    P True st' ∨ (∃ id reason, res = resets id reason) ∧ P False st'
  trailers : ∀ {st st' : Stream} {frame : Headers} {res : Except ProtoError Unit}, P True st →
    st.state.isRecvHeaders = false → TrailersReceipt st frame res st' → P True st'
  headers : ∀ {s : Inner} {st : Stream} {frame : Headers}, s.counts.role = role → P True st →
    st.state.isRecvHeaders = true → Follows.Blocks P s st frame

namespace Reads

open M

variable {role : Role} {P : Prop → Stream → Prop} {s s' : Inner} {k : Key} {st : Stream}

theorem innerRecvData (hP : Reads role P) (hrole : s.counts.role = role) (frame : Data)
    (hfind : s.store.find frame.streamId = some k) (hs : s.At k (P True))
    (hrange : s.At k fun st => st.recvFlow.InRange) : Ends s (Inner.recvData frame) (Received P k) := by
  refine hP.toFollows.innerRecvData hrole frame hfind fun st hk => ?_
  refine (Recv.recvData_receipt frame hk (hrange st hk)).mono fun res s' h => ?_
  rcases h with ⟨hsame, -⟩ | ⟨hstreaming, hsize, hreceipt⟩
  · exact hP.of_receipt hsame fun st₁ heq => Or.inl (heq ▸ hs st hk)
  · exact hP.of_receipt hreceipt fun st₁ h => hP.data (hs st hk) hstreaming hsize h

theorem recvStreamHeaders (hP : Reads role P) (hrole : s.counts.role = role) (frame : Headers)
    (hk : s.get? k = some st) (hst : P True st)
    (hfirst : st.state.isRecvHeaders = true → s.counts.role.isServer = true →
      Scope.deaf.Listens s k st frame.streamId) :
    Ends s (Inner.recvStreamHeaders frame k) (Received P k) := by
  refine hP.toFollows.recvStreamHeaders hrole frame hk hst (fun hheaders => ?_) fun hheaders => ?_
  · exact hP.recvHeaderBlock hrole frame hk hst (hP.headers hrole hst hheaders) (hfirst hheaders)
  · exact (Recv.recvTrailers_receipt frame hk).mono fun _ _ h =>
      hP.of_receipt h fun st₁ hreceipt => Or.inl (hP.trailers hst hheaders hreceipt)

theorem innerRecvHeaders (hP : Reads role P) (hrole : s.counts.role = role) (frame : Headers)
    (hfind : s.store.find frame.streamId = some k) (hs : s.At k (P True))
    (hrest : s.counts.role.isServer = true → s.At k fun st => st.state.isRecvHeaders = false) :
    Ends s (Inner.recvHeaders frame) (Received P k) := by
  refine hP.toFollows.innerRecvHeaders frame hfind hs fun st hk => ?_
  refine hP.recvStreamHeaders hrole frame hk (hs st hk) fun hheaders hserver => ?_
  exact absurd ((hrest hserver st hk).symm.trans hheaders) Bool.false_ne_true

theorem innerRecvHeaders_opened (hP : Reads role P) (hrole : s.counts.role = role) (frame : Headers)
    (hfind : s.store.find frame.streamId = none) :
    Ends s (Inner.recvHeaders frame) (Received P (s.freshKey frame.streamId)) := by
  have hnone : ∀ {s' : Inner} {res : Except ProtoError Unit}, s'.store = s.store →
      Received P (s.freshKey frame.streamId) res s' := by
    intro s' res hstore
    refine hP.received fun st hk => ?_
    have hget : s.get? (s.freshKey frame.streamId) = some st := by
      simpa only [Inner.get?, hstore] using hk
    rw [Inner.get?_freshKey] at hget
    cases hget
  refine Ends.get_bind ?_
  split
  · exact Ends.pure (hnone rfl)
  · rename_i hmax
    refine Ends.bind fun res s₁ hinsert => ?_
    have hinserted := Moves.insertOrCreate_ends _ _ _ hinsert
    split
    · exact Ends.pure (hnone hinserted)
    · exact Ends.pure (hnone hinserted)
    · rcases hinserted with ⟨hno, -⟩ | ⟨-, rfl, hopen, initSend, initRecv, hnew, rfl⟩
      · rw [hfind] at hno
        cases hno
      · refine Ends.resolve_bind fun st hk => ?_
        cases hk.symm.trans hnew
        rw [if_neg (by simp [Stream.new, State.isLocalError])]
        have hremote : s.counts.role.isLocalInit frame.streamId = false := hopen.remote
        refine hP.transition fun st hk => ?_
        cases hk.symm.trans hnew
        refine hP.recvStreamHeaders ?_ frame hnew (hP.born _ _ _) fun _ _ => ?_
        · exact hrole
        exact ⟨trivial, rfl, Nat.not_lt.mp hmax, rfl, fun _ => trivial, fun _ => rfl,
          fun _ => ⟨trivial, hremote, rfl, rfl, rfl⟩⟩

end Reads

namespace Connection

variable {c c' : Connection} {e : Event} {k : Key}

theorem recv_found (hrecv : (c.scope e).recv k) : c.canRecv = true ∧
    ((∃ frame, e = .recvData frame ∧ c.streams.store.find frame.streamId = some k) ∨
      ∃ frame, e = .recvHeaders frame ∧ (c.streams.store.find frame.streamId = some k ∨
        c.streams.store.find frame.streamId = none ∧ k = c.streams.freshKey frame.streamId)) := by
  obtain ⟨hdelivers, hcan, hfind⟩ := hrecv
  refine ⟨hcan, ?_⟩
  cases e with
  | recvData frame =>
    have hid : k.streamId = frame.streamId := hdelivers
    have hold : ¬c.New (.recvData frame) k := fun ⟨_, hno, _⟩ => hno
    exact Or.inl ⟨frame, rfl, hid ▸ hfind.resolve_right hold⟩
  | recvHeaders frame =>
    have hid : k.streamId = frame.streamId := hdelivers
    refine Or.inr ⟨frame, rfl, hfind.imp (fun h => hid ▸ h) ?_⟩
    rintro ⟨_, ⟨rfl, -, hnone, -⟩, rfl⟩
    exact ⟨hnone, rfl⟩
  | _ => exact hdelivers.elim

theorem not_failed (hcan : c.canRecv = true) : ¬c.Failed := fun hfail => by
  simp [hfail.not_canRecv] at hcan

/-- What is received keeps `P`, or the connection fails. -/
theorem Settled.read {P : Prop → Stream → Prop} (hc : c.Settled) (hP : Reads c.streams.counts.role P)
    (hnext : c.next e = some c') (hrecv : (c.scope e).recv k) (hs : c.streams.At k (P True)) :
    c'.streams.At k (P ¬c'.Failed) := by
  obtain ⟨hcan, hframe⟩ := recv_found hrecv
  have hlive := not_failed hcan
  have hreceived : ∃ res, Received P k res c'.streams ∧
      ((∃ data reason initiator, res = .error (.goAway data reason initiator)) → c'.Failed) := by
    rcases hframe with ⟨frame, rfl, hfind⟩ | ⟨frame, rfl, hfind⟩
    · obtain ⟨res, s', hrun, rfl⟩ := recv_some (Option.ite_none_right_eq_some.mp hnext).2
      refine ⟨res, hP.innerRecvData rfl frame hfind hs (fun st hk => hc.window k st hk) _ _ hrun, ?_⟩
      rintro ⟨data, reason, initiator, rfl⟩
      exact Or.inr (Or.inr (Or.inr ⟨_, _, _, rfl⟩))
    · obtain ⟨res, s', hrun, rfl⟩ := recv_some (Option.ite_none_right_eq_some.mp hnext).2
      refine ⟨res, ?_, ?_⟩
      · rcases hfind with hfind | ⟨hfind, rfl⟩
        · refine hP.innerRecvHeaders rfl frame hfind hs (fun hserver st hk => ?_) _ _ hrun
          by_contra hheaders
          exact hlive (hc.rest k st hk (by simpa [State.waits, hserver] using Or.inr hheaders))
        · exact hP.innerRecvHeaders_opened rfl frame hfind _ _ hrun
      · rintro ⟨data, reason, initiator, rfl⟩
        exact Or.inr (Or.inr (Or.inr ⟨_, _, _, rfl⟩))
  obtain ⟨res, ⟨hrejected, hfit⟩, hfailed⟩ := hreceived
  intro st hk
  rcases hfit with hgo | hkept
  · exact hP.weaken (fun hno => hno (hfailed hgo)) (hrejected st hk)
  · exact hP.weaken (fun _ => trivial) (hkept st hk)

end Connection

end TwoPlz
