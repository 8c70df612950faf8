import TwoPlz.ConnectionMoves
import TwoPlz.Streams.Onward

/-! Every connection is settled between two events. -/

namespace TwoPlz

variable [HeaderPlz] [StoreCrates]

omit [HeaderPlz] [StoreCrates] in
theorem State.waits_of_received {state : State} (h : state.isRecvHeaders = false) (role : Role) :
    state.waits role = false := by
  cases state <;> simp_all [State.waits, State.isIdle, State.isRecvHeaders]

omit [HeaderPlz] [StoreCrates] in
theorem State.waits_client {state : State} {role : Role} (hrole : role.isServer = false)
    (h : state.waits role = true) : state = .idle := by
  cases state <;> simp_all [State.waits, State.isIdle]

section

variable {K : Scope} {s s' : Inner} {k : Key} {st st' : Stream}

omit [StoreCrates] in
theorem Turn.waits {role : Role} {kind : Kind} (h : Turn K role k kind st st') {role' : Role}
    (hst : st.state.waits role' = false) : st'.state.waits role' = false := by
  simp only [State.waits, Bool.or_eq_false_iff, Bool.and_eq_false_iff] at hst ⊢
  refine ⟨?_, hst.2.imp_right h.received⟩
  have hawake : st'.state ≠ .idle := h.awake fun hidle => by simp [hidle, State.isIdle] at hst
  cases hst' : st'.state <;> first | rfl | exact absurd hst' hawake

theorem Moves.inRange (h : Moves K s s') (hs : s.Each fun _ st => st.recvFlow.InRange) :
    s'.Each fun _ st => st.recvFlow.InRange := by
  refine h.each ⟨⟨fun k kind st st' hturn hst => ?_, ?_, ?_⟩, ?_⟩ hs
  · cases hturn with
    | calm _ _ _ _ _ range => exact range hst
    | _ => exact hst
  · intro k st n now val
    cases n <;> exact id
  · intro k st n key
    cases n <;> exact id
  · exact fun _ _ _ _ _ => FlowControl.new_inRange _

theorem Moves.waits {role : Role} (h : Moves K s s')
    (hs : ∀ k st, s.get? k = some st → st.state.waits role = false) :
    ∀ k st, s'.get? k = some st → K.born k ∨ st.state.waits role = false := by
  refine h.each (P := fun k st => K.born k ∨ st.state.waits role = false) ⟨⟨?_, ?_, ?_⟩, ?_⟩
    fun k st hk => Or.inr (hs k st hk)
  · exact fun k kind st st' hturn => Or.imp id hturn.waits
  · intro k st n now val
    cases n <;> exact id
  · intro k st n key
    cases n <;> exact id
  · exact fun k _ _ _ hborn => Or.inl hborn

end

namespace Moves

open M

variable {s : Inner} {k : Key} {st : Stream} {role : Role}

theorem transition_ends {α : Type} {m : M α} {P : State → Prop} {R : α → Prop}
    (hm : Ends s m fun a s' => R a ∨ ∀ st, s'.get? k = some st → P st.state) :
    Ends s (Counts.transition k m) fun a s' => R a ∨ ∀ st, s'.get? k = some st → P st.state := by
  refine Ends.resolve_bind fun _ _ => Ends.bind fun a s₁ hfirst => Ends.bind fun _ s₂ hafter => Ends.pure ?_
  refine (hm _ _ hfirst).imp id fun hP st' hk' => ?_
  obtain ⟨st, hk, hsame⟩ := (transitionAfter_beside k _ _ _ _ hafter).2 st' hk'
  rw [hsame]
  exact hP st hk

theorem resetStream_reset (reason : Nat) (initiator : Initiator) :
    Ends s (Actions.resetStream reason initiator k) fun _ s' =>
      ∀ st, s'.get? k = some st → st.state.isReset = true := by
  refine Ends.bind fun _ s₁ hreset u s' h => ?_
  have hmoves : Moves .unborn s₁ s' :=
    chains.bind (enqueueResetExpiration _) (fun _ => update fun _ _ _ => .notify trivial) _ _ _ h
  exact hmoves.reset (sendReset_reset _ _ _ _ hreset)

theorem resetOnRecvStreamErr_reset (id reason : Nat) (initiator : Initiator) :
    Ends s (Actions.resetOnRecvStreamErr k (.error (.reset id reason initiator))) fun res s' =>
      (∃ data reason initiator, res = .error (.goAway data reason initiator)) ∨
        ∀ st, s'.get? k = some st → st.state.isReset = true := by
  refine Ends.resolve_bind fun st hk => Ends.debugAssert_bind (Ends.get_bind ?_)
  split
  · refine Ends.bind fun _ _ _ => Ends.bind fun _ s₁ hreset => Ends.pure (Or.inr ?_)
    exact resetStream_reset _ _ _ _ hreset
  · exact Ends.pure (Or.inl ⟨_, _, _, rfl⟩)

theorem scheduleImplicitReset_closed (reason : Nat) :
    Ends s (Send.scheduleImplicitReset k reason) fun _ s' =>
      ∀ st, s'.get? k = some st → st.state.isClosed = true := by
  refine Ends.resolve_bind fun st hk => ?_
  split
  · rename_i hclosed
    refine Ends.pure fun st' hk' => ?_
    cases hk.symm.trans hk'
    exact hclosed
  · refine Ends.update_next hk rfl fun s₁ _ hk₁ u s' h st' hk' => ?_
    have hmoves : Moves .unborn s₁ s' := scheduleClosed hk₁ rfl _ _ h
    exact hmoves.closed hk₁ rfl hk'

theorem sendOversizeResponse_closed (resp : Headers) :
    Ends s (Inner.sendOversizeResponse resp k) fun _ s' =>
      ∀ st, s'.get? k = some st → st.state.isClosed = true := by
  refine Ends.bind fun _ _ _ => Ends.debugAssert_bind (Ends.bind fun _ s₂ hsched u s' h => ?_)
  have hmoves : Moves .unborn s₂ s' := enqueueResetExpiration _ _ _ _ h
  exact hmoves.kept (P := fun state => state.isClosed = true) (fun _ _ _ _ => Turn.closed)
    (scheduleImplicitReset_closed _ _ _ hsched)

theorem checkedHeaders_informational {frame : Headers} (hserver : s.counts.role.isServer = true)
    (hinfo : frame.isInformational = true) (isInitial : Bool) :
    Ends s (Recv.checkedHeaders frame isInitial k) fun res _ =>
      (∃ resp, res = .error (.oversize resp)) ∨
        ∃ id reason, res = .error (.state (ProtoError.libraryReset id reason)) := by
  refine Ends.resolve_bind fun st hk => Ends.bind fun res s₁ hparse => ?_
  have hrole : s₁.counts.role = s.counts.role :=
    (parseContentLength (K := .unborn) trivial frame _ _ _ hparse).role
  cases res with
  | error e =>
    refine Ends.pure (Or.inr ?_)
    obtain ⟨id, reason, rfl⟩ := parseContentLength_error frame k _ _ hparse e rfl
    exact ⟨id, reason, rfl⟩
  | ok u =>
    refine Ends.get_bind ?_
    dsimp only
    split
    · exact Ends.pure (Or.inl ⟨_, rfl⟩)
    · have hstatus : frame.pseudo.status.isSome = true := by
        cases hstatus : frame.pseudo.status with
        | none => simp [Headers.isInformational, Pseudo.isInformational, hstatus] at hinfo
        | some _ => rfl
      rw [if_pos (by simp [Recv.areResponseHeadersInRequest, hstatus, hrole, hserver])]
      exact Ends.pure (Or.inr ⟨_, _, rfl⟩)

theorem recvHeaders_informational {frame : Headers} (hk : s.get? k = some st) (hidle : st.state = .idle)
    (hserver : s.counts.role.isServer = true) (hinfo : frame.isInformational = true) :
    Ends s (Recv.recvHeaders frame k) fun res _ =>
      (∃ resp, res = .error (.oversize resp)) ∨
        ∃ id reason, res = .error (.state (ProtoError.libraryReset id reason)) := by
  refine Ends.resolve_bind fun _ hst => ?_
  cases hk.symm.trans hst
  rw [hidle]
  refine Ends.update_next hk rfl fun s₁ hs₁ hk₁ => Ends.bind fun _ s₂ hcount => ?_
  obtain ⟨store, rfl⟩ := hs₁
  have hrole := @countOpened_role _ _ _ k frame true _ _ hcount
  exact checkedHeaders_informational (hrole ▸ hserver) hinfo _

/-- The first header block that a server gets starts the message, or the stream is given up. -/
theorem recvHeaderBlock_first {frame : Headers} (hK' : Scope.unborn.Listens s k st frame.streamId)
    (hk : s.get? k = some st) (hserver : s.counts.role.isServer = true) :
    Ends s (Inner.recvHeaderBlock frame k) fun res s' =>
      (∃ id reason, res = .error (ProtoError.libraryReset id reason)) ∨
        ∀ st, s'.get? k = some st → st.state.isRecvHeaders = false := by
  have hidle := hK'.first hserver
  refine Ends.bind fun res s₂ hheaders => ?_
  have hover : ∀ resp, Ends s₂ (Inner.sendOversizeResponse resp k) fun _ s' =>
      ∀ st, s'.get? k = some st → st.state.isRecvHeaders = false := fun resp =>
    (sendOversizeResponse_closed resp).mono fun _ _ h st hst => State.isRecvHeaders_of_closed (h st hst)
  cases hinfo : frame.isInformational with
  | false =>
    have hkept : ∀ st, s₂.get? k = some st → st.state.isRecvHeaders = false := by
      have hopen : st.state.recvOpen frame = .ok (true, if frame.isEndStream then
          .halfClosedRemote .awaitingHeaders else .opened .awaitingHeaders (State.recvPeer frame)) := by
        rw [hidle]
        rfl
      refine recvHeaders_kept (P := fun state => state.isRecvHeaders = false) hK' hk hopen ?_
        (fun _ _ _ _ => Turn.received) _ _ hheaders
      cases frame.isEndStream <;> simp [State.recvPeer, hinfo, State.isRecvHeaders]
    split
    · exact Ends.pure (Or.inr hkept)
    · exact Ends.bind fun _ s₃ hsent => Ends.pure (Or.inr (hover _ _ _ hsent))
    · exact Ends.resolve_bind fun _ _ => Ends.pure (Or.inr hkept)
    · exact Ends.pure (Or.inr hkept)
  | true =>
    obtain ⟨resp, rfl⟩ | ⟨id, reason, rfl⟩ :=
      recvHeaders_informational hk hidle hserver hinfo _ _ hheaders
    · cases resp with
      | none => exact Ends.resolve_bind fun _ _ => Ends.pure (Or.inl ⟨_, _, rfl⟩)
      | some resp => exact Ends.bind fun _ s₃ hsent => Ends.pure (Or.inr (hover _ _ _ hsent))
    · exact Ends.pure (Or.inl ⟨_, _, rfl⟩)

theorem recvStreamHeaders_first {frame : Headers} (hK' : Scope.unborn.Listens s k st frame.streamId)
    (hk : s.get? k = some st) (hserver : s.counts.role.isServer = true) :
    Ends s (Inner.recvStreamHeaders frame k) fun res s' =>
      (∃ data reason initiator, res = .error (.goAway data reason initiator)) ∨
        ∀ st, s'.get? k = some st → st.state.isRecvHeaders = false := by
  refine Ends.resolve_bind fun _ hst => ?_
  cases hk.symm.trans hst
  rw [if_pos (by rw [hK'.first hserver]; rfl)]
  refine Ends.bind fun res s₁ hblock => ?_
  rcases recvHeaderBlock_first hK' hk hserver _ _ hblock with ⟨id, reason, rfl⟩ | hkept
  · refine (resetOnRecvStreamErr_reset _ _ _).mono fun _ _ => Or.imp_right fun hreset st hst => ?_
    exact State.isRecvHeaders_of_closed (State.isClosed_of_isReset (hreset st hst))
  · intro res' s' h
    have hmoves : Moves .unborn s₁ s' :=
      resetOnRecvStreamErr trivial trivial (Inner.recvHeaderBlock_own _ _ _ _ _ hblock) _ _ _ h
    exact Or.inr (hmoves.kept (P := fun state => state.isRecvHeaders = false)
      (fun _ _ _ _ => Turn.received) hkept)

theorem innerRecvHeaders_opened {frame : Headers} (hfind : s.store.find frame.streamId = none)
    (hserver : s.counts.role.isServer = true) :
    Ends s (Inner.recvHeaders frame) fun res s' =>
      (∃ data reason initiator, res = .error (.goAway data reason initiator)) ∨
        ∀ st, s'.get? (s.freshKey frame.streamId) = some st → st.state.isRecvHeaders = false := by
  have hnone : ∀ s' : Inner, s'.store = s.store →
      ∀ st, s'.get? (s.freshKey frame.streamId) = some st → st.state.isRecvHeaders = false := by
    intro s' hstore st hk
    have hget : s.get? (s.freshKey frame.streamId) = some st := by
      simpa only [Inner.get?, hstore] using hk
    rw [Inner.get?_freshKey] at hget
    cases hget
  refine Ends.get_bind ?_
  split
  · exact Ends.pure (Or.inr (hnone _ rfl))
  · rename_i hmax
    refine Ends.bind fun res s₁ hinsert => ?_
    have hinserted := insertOrCreate_ends _ _ _ hinsert
    split
    · exact Ends.pure (Or.inr (hnone _ hinserted))
    · exact Ends.pure (Or.inr (hnone _ hinserted))
    · rcases hinserted with ⟨hno, -⟩ | ⟨-, rfl, hopen, _, _, hnew, rfl⟩
      · rw [hfind] at hno
        cases hno
      · refine Ends.resolve_bind fun st hk => ?_
        cases hk.symm.trans hnew
        rw [if_neg (by simp [Stream.new, State.isLocalError])]
        have hremote : s.counts.role.isLocalInit frame.streamId = false := hopen.remote
        refine transition_ends (P := fun state => state.isRecvHeaders = false)
          (recvStreamHeaders_first ?_ hnew hserver)
        exact ⟨trivial, rfl, Nat.not_lt.mp hmax, rfl, fun _ => trivial, fun _ => rfl,
          fun _ => ⟨trivial, hremote, rfl, rfl, rfl⟩⟩

theorem entryForReset_key {id : Nat} (hfind : s.store.find id = none) :
    Ends s (Inner.entryForReset id) fun k _ => k = s.freshKey id := by
  refine Ends.bind fun o s₁ hfound => ?_
  obtain ⟨rfl, rfl⟩ := find_some hfound
  rw [hfind]
  refine Ends.bind fun isLocal s₂ hinit => ?_
  obtain ⟨rfl, hid, rfl⟩ := isLocalInit_ends id _ _ hinit
  refine Ends.bind fun _ s₃ hreset k s' h => ?_
  rw [(insertStream_some h).1, Inner.freshKey, (maybeResetNextStreamId hid _ _ hreset).1.store]
  rfl

theorem innerSendReset_reset {id : Nat} (reason : Nat) (hfind : s.store.find id = none) :
    Ends s (Inner.sendReset id reason) fun res s' =>
      (∃ e, res = .error e) ∨ ∀ st, s'.get? (s.freshKey id) = some st → st.state.isReset = true := by
  refine Ends.bind fun k s₁ hentry => ?_
  obtain rfl := entryForReset_key hfind _ _ hentry
  refine transition_ends (P := fun state => state.isReset = true) (Ends.get_bind ?_)
  split
  · exact Ends.pure (Or.inl ⟨_, rfl⟩)
  · refine Ends.bind fun _ _ _ => Ends.bind fun _ s₃ hreset => Ends.pure (Or.inr ?_)
    exact resetStream_reset _ _ _ _ hreset

theorem startRequest_awake {id : Nat} (request : Request) (isSpa : Bool) :
    Ends s (Streams.startRequest id request isSpa) fun _ s' =>
      ∀ st, s'.get? (s.freshKey id) = some st → st.state ≠ .idle := by
  refine Ends.get_bind (Ends.assert_bind fun _ => Ends.bind fun k s₁ hinsert => ?_)
  obtain ⟨rfl, -, len, hnew⟩ := insertRequest_ends _ _ hinsert
  refine Ends.bind fun res s₂ hheaders => ?_
  cases res with
  | error e =>
    refine Ends.modify_bind (Ends.bind fun _ s₃ hremove => Ends.pure fun st hk => ?_)
    obtain ⟨store, hstore, heq⟩ := Option.map_eq_some_iff.mp hremove
    cases heq
    obtain rfl := Store.remove_eq_some hstore
    obtain rfl : s₂ = s₁ := sendHeaders_ends _ hnew _ _ hheaders
    have hnone := Store.get_vacate_self (s := s₂.store.unlink (s.freshKey id)) hnew
    cases hnone.symm.trans hk
  | ok u =>
    intro res' s' h
    have hready := sendHeaders_ready _ hnew (.new _ _ _ _) _ _ hheaders rfl
    obtain ⟨_, s₃, hqueue, h⟩ := bind_eq_some h
    have hqueued : Moves .unborn s₂ s₃ := queueBodyTrailer trivial hready requestFrames_body
      ⟨(requestFrames_owned _ _ _).data, (requestFrames_owned _ _ _).trailer⟩ _ _ hqueue
    obtain ⟨st₃, _, hresolve, h⟩ := bind_eq_some h
    obtain ⟨hk₃, rfl⟩ := resolve_some.mp hresolve
    obtain ⟨_, _, hassert, h⟩ := bind_eq_some h
    obtain ⟨-, rfl⟩ := debugAssert_some.mp hassert
    obtain ⟨_, s₄, href, h⟩ := bind_eq_some h
    cases h
    intro st hk
    cases (newRef_ends hk₃ _ _ href).symm.trans hk
    refine hqueued.awake (fun st₂ hk₂ hidle => ?_) st₃ hk₃
    have hsent := (hready st₂ hk₂).sent
    rw [hidle] at hsent
    cases hsent

theorem sendRequest_fresh {id : Nat} {P : Stream → Prop} (hnext : s.send.nextStreamId = some id)
    {request : Request} {isSpa : Bool}
    (hstart : ∀ s₁ : Inner, Aside s s₁ → Ends s₁ (Streams.startRequest id request isSpa) fun _ s' =>
      ∀ st, s'.get? (s₁.freshKey id) = some st → P st) :
    Ends s (Streams.sendRequest request isSpa) fun _ s' => ∀ st, s'.get? (s.freshKey id) = some st → P st := by
  have hnone : ∀ s' : Inner, s'.store = s.store → ∀ st, s'.get? (s.freshKey id) = some st → P st := by
    intro s' hstore st hk
    have hget : s.get? (s.freshKey id) = some st := by simpa only [Inner.get?, hstore] using hk
    rw [Inner.get?_freshKey] at hget
    cases hget
  refine Ends.get_bind ?_
  split
  · exact Ends.pure (hnone _ rfl)
  · split
    · exact Ends.pure (hnone _ rfl)
    · split
      · exact Ends.pure (hnone _ rfl)
      · refine Ends.bind fun res s₁ hopen => ?_
        obtain ⟨haside, hid⟩ := open_ends _ _ hopen
        split
        · exact Ends.pure (hnone _ haside.store)
        · rename_i id'
          cases hnext.symm.trans (hid id' rfl).1
          have hkey : s.freshKey id = s₁.freshKey id := by simp only [Inner.freshKey, haside.store]
          rw [hkey]
          exact hstart s₁ haside

end Moves

namespace Connection

variable {c c' : Connection} {e : Event}

theorem New.waits {k : Key} {st : Stream} (hnew : c.New e k) (h : c.next e = some c')
    (hk : c'.streams.get? k = some st)
    (hwaits : st.state.waits c.streams.counts.role = true) : c'.Failed := by
  obtain ⟨id, hopens, rfl⟩ := hnew
  cases e with
  | sendRequest request =>
    obtain ⟨hclient, hid⟩ := hopens
    obtain ⟨a, s', hrun, rfl⟩ := run_some (Option.ite_none_right_eq_some.mp h).2
    have hawake := Moves.sendRequest_fresh hid (fun _ _ => Moves.startRequest_awake _ _) _ _ hrun st hk
    exact absurd (State.waits_client hclient hwaits) hawake
  | recvHeaders frame =>
    obtain ⟨rfl, -, hfind, hopen⟩ := hopens
    obtain ⟨hserver, -⟩ := hopen.isServer
    obtain ⟨res, s', hrun, rfl⟩ := recv_some (Option.ite_none_right_eq_some.mp h).2
    rcases Moves.innerRecvHeaders_opened hfind hserver _ _ hrun with ⟨data, reason, initiator, rfl⟩ | hgot
    · exact Or.inr (Or.inr (Or.inr ⟨data, reason, initiator, rfl⟩))
    · rw [State.waits_of_received (hgot st hk)] at hwaits
      cases hwaits
  | _ => exact hopens.elim

theorem Revives.waits {k : Key} {st : Stream} (hrev : c.Revives e k) (h : c.next e = some c')
    (hk : c'.streams.get? k = some st) : st.state.isReset = true ∨ c'.Failed := by
  obtain ⟨rfl, id, reason, initiator, hresult, hfind, rfl⟩ := hrev
  obtain ⟨result, hresult', h⟩ := Option.bind_eq_some_iff.mp h
  cases hresult.symm.trans hresult'
  split at h
  · cases h
  · simp only [handlePoll2Result] at h
    split at h
    · cases h
    · obtain ⟨⟨res, s'⟩, hrun, h⟩ := Option.bind_eq_some_iff.mp h
      cases res with
      | error e => exact Or.inr (Failed.poll2GoAway h)
      | ok u =>
        cases h
        rcases Moves.innerSendReset_reset reason hfind _ _ hrun with ⟨e, hno⟩ | hreset
        · cases hno
        · exact Or.inl (hreset st hk)

theorem New.unknown {k : Key} (hc : c.Settled) (hnew : c.New e k) : ¬c.streams.Known k.streamId := by
  obtain ⟨id, hopens, rfl⟩ := hnew
  change ¬c.streams.Known id
  intro hknown
  cases e with
  | sendRequest request =>
    obtain ⟨hclient, hid⟩ := hopens
    have hlt := hknown id (by rw [Moves.isLocalInit_of_odd hclient (hc.parity hclient id hid), if_pos rfl, hid])
    exact Nat.lt_irrefl _ hlt
  | recvHeaders frame =>
    obtain ⟨-, -, -, hopen⟩ := hopens
    have hremote := hopen.remote
    obtain ⟨-, next, hnext, hle⟩ := hopen
    have hlt := hknown next (by rw [hremote, if_neg (by simp), hnext])
    exact absurd hle (Nat.not_le_of_lt hlt)
  | _ => exact hopens.elim

theorem New.fresh {k j : Key} {st : Stream} (hc : c.Settled) (hnew : c.New e k)
    (hj : c.streams.get? j = some st) : j.streamId ≠ k.streamId := by
  intro hsame
  exact hnew.unknown hc (hsame ▸ hc.known j st hj)

theorem New.unique {k j : Key} (hk : c.New e k) (hj : (c.scope e).born j)
    (hsame : j.streamId = k.streamId) : j = k := by
  obtain ⟨id, hopens, rfl⟩ := hk
  rcases hj with ⟨id', -, rfl⟩ | ⟨rfl, -⟩
  · cases (show id' = id from hsame)
    rfl
  · exact hopens.elim

theorem Settled.tidy_start (hc : c.Settled) (e : Event) : c.streams.Tidy (c.scope e).opens := by
  have hold : ∀ {k st}, c.streams.get? k = some st → st.Live ((c.scope e).opens k) → st.Live False := by
    rintro k st hk ⟨hclosed, hidle | hnew⟩
    · exact ⟨hclosed, Or.inl hidle⟩
    · exact absurd rfl (New.fresh hc hnew hk)
  refine ⟨hc.tidy.nodup, fun k st hk hlive => hc.tidy.linked k st hk (hold hk hlive),
    fun k j st st' hk hlive hj => hc.tidy.alone k j st st' hk (hold hk hlive) hj, ?_⟩
  exact fun k j st hnew hj hsame => absurd hsame (New.fresh hc hnew hj)

theorem scope_single (c : Connection) (e : Event) : (c.scope e).Single := fun _ _ hk hj => New.unique hk hj

theorem Settled.tidy_next (hc : c.Settled) (h : c.next e = some c') :
    c'.streams.Tidy fun _ => False := by
  have hend := (hc.moves h).tidy (c.scope_single e) (hc.tidy_start e)
  have hweak : ∀ {k st}, Stream.Live st False → st.Live ((c.scope e).opens k) := fun hlive =>
    ⟨hlive.1, hlive.2.imp_right False.elim⟩
  exact ⟨hend.nodup, fun k st hk hlive => hend.linked k st hk (hweak hlive),
    fun k j st st' hk hlive => hend.alone k j st st' hk (hweak hlive), fun _ _ _ hno => hno.elim⟩

theorem New.remote {k : Key} (hnew : c.New e k) (hserver : c.streams.counts.role.isServer = true) :
    c.streams.counts.role.isLocalInit k.streamId = false := by
  obtain ⟨id, hopens, rfl⟩ := hnew
  cases e with
  | sendRequest request => exact absurd (hopens.1.symm.trans hserver) Bool.false_ne_true
  | recvHeaders frame =>
    obtain ⟨rfl, -, -, hopen⟩ := hopens
    exact hopen.remote
  | _ => exact hopens.elim

theorem hears (c : Connection) (e : Event) : (c.scope e).Hears c.streams.counts.role := by
  rintro k (hclient | hnew) hserver
  · exact absurd (hclient.symm.trans hserver) Bool.false_ne_true
  · exact hnew.remote hserver

theorem Settled.next (hc : c.Settled) (h : c.next e = some c') : c'.Settled := by
  have hmoves := hc.moves h
  refine ⟨hmoves.lines hc.lines, hmoves.sound (hears c e) hc.lines hc.sound, hc.tidy_next h, hmoves.known hc.known,
    hmoves.maxStreamId_le.trans hc.max, ?_, ?_, hmoves.inRange hc.window⟩
  · exact fun hclient => hmoves.parity (hmoves.role ▸ hclient) (hc.parity (hmoves.role ▸ hclient))
  intro k st hk hwaits
  rw [hmoves.role] at hwaits
  by_cases hfail : c.Failed
  · exact hfail.next h
  have hnone : ∀ k st, c.streams.get? k = some st → st.state.waits c.streams.counts.role = false := by
    intro k st hk
    by_contra hno
    exact hfail (hc.rest k st hk (by simpa using hno))
  rcases hmoves.waits hnone k st hk with (hnew | hrev) | hno
  · exact hnew.waits h hk hwaits
  · rcases hrev.waits h hk with hreset | hfailed
    · rw [State.waits_of_received (State.isRecvHeaders_of_closed (State.isClosed_of_isReset hreset))]
        at hwaits
      cases hwaits
    · exact hfailed
  · rw [hno] at hwaits
    cases hwaits

theorem lines_new (role : Role) (config : ConnectionConfig) (debug : Bool) :
    (Connection.new role config debug).streams.Lines fun _ => [] := by
  intro n
  have hends : (Connection.new role config debug).streams.endsOf n = none := by cases n <;> rfl
  unfold Inner.Thread
  rw [hends]
  refine Threaded.empty (fun k => ?_) (fun k => ?_)
  · rintro ⟨st, hst, -⟩
    simp [Inner.get?, Connection.new, Inner.new] at hst
  · simp [Inner.nextOf, Inner.get?, Connection.new, Inner.new]

theorem Settled.new (role : Role) (config : ConnectionConfig) (debug : Bool) :
    (Connection.new role config debug).Settled where
  lines := ⟨_, lines_new role config debug⟩
  sound k st hk := by simp [Inner.get?, Connection.new, Inner.new] at hk
  tidy := by
    refine ⟨?_, ?_, ?_, fun _ _ _ hno => hno.elim⟩ <;> simp [Inner.get?, Connection.new, Inner.new]
  known k st hk := by simp [Inner.get?, Connection.new, Inner.new] at hk
  max := Nat.le_refl _
  parity _ n hn := by
    cases hn
    rfl
  rest k st hk := by simp [Inner.get?, Connection.new, Inner.new] at hk
  window k st hk := by simp [Inner.get?, Connection.new, Inner.new] at hk

/-- What holds at the start and is kept by every event of a settled connection holds after every run. -/
theorem after_invariant {I : Connection → Prop} {events : List Event} (hc : c.Settled) (hI : I c)
    (hnext : ∀ c e c', c.Settled → I c → c.next e = some c' → I c') (h : c.after events = some c') :
    c'.Settled ∧ I c' := by
  induction events generalizing c with
  | nil =>
    cases h
    exact ⟨hc, hI⟩
  | cons e events ih =>
    obtain ⟨c₁, hfirst, hrest⟩ := Option.bind_eq_some_iff.mp h
    exact ih (hc.next hfirst) (hnext _ _ _ hc hI hfirst) hrest

end Connection

end TwoPlz
