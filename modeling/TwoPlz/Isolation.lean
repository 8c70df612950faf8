import TwoPlz.Plain
import TwoPlz.Settled

/-! Streams are independent of each other: what the code does for one stream leaves the message, the
state and the handles of every other one as they were, over every run. -/

namespace TwoPlz

/-- Everything, for the streams of `p` only. -/
def Scope.only (p : Key → Prop) : Scope where
  turn := p
  takes := p
  closes := p
  recv := p
  lists := p
  ends := p
  send := p
  opens := p
  born := p
  offers := True
  refs := p
  pops := p
  cancels := p
  processes := p
  limits _ := True
  expires := True
  leaks := True

section

variable [HeaderPlz] [StoreCrates] {p : Key → Prop} {s s' : Inner} {k : Key} {st st' : Stream}

def Stream.own (st : Stream) :=
  (st.core, st.contentLength, st.recvTask)

section

omit [StoreCrates]

theorem Stream.isClosed_of_own (h : st'.own = st.own) : st'.isClosed = st.isClosed := by
  simp only [Stream.own, Stream.core, Prod.mk.injEq] at h
  simp only [Stream.isClosed, h]

theorem Turn.own {role : Role} {kind : Kind} (h : Turn (.only p) role k kind st st') (hk : ¬p k) :
    st'.own = st.own := by
  cases h with
  | calm => rfl
  | count => rfl
  | uncount => rfl
  | recvClose hK => exact absurd hK hk
  | _ hK => exact absurd hK hk

theorem Stream.own_of_unqueued (h : st'.unqueued = st.unqueued) : st'.own = st.own := by
  have hown : ∀ st : Stream, st.unqueued.own = st.own := fun _ => rfl
  rw [← hown st', h, hown]

end

theorem Flagged.present {n : Next} {j : Key} {val : Bool} (h : Flagged n j val s s')
    (hk : s.get? k = some st) : ∃ st', s'.get? k = some st' := by
  obtain ⟨link, hlink⟩ := h.get
  exact ⟨_, by rw [hlink, hk, Option.map_some]⟩

theorem M.push_present {n : Next} {j : Key} {b : Bool} (h : M.push n j s = some (b, s'))
    (hk : s.get? k = some st) : ∃ st', s'.get? k = some st' := by
  obtain ⟨_, _, ⟨-, -, rfl⟩ | ⟨-, -, hf⟩⟩ := M.push_some h
  · exact ⟨st, hk⟩
  · exact hf.present hk

theorem M.pop_present {n : Next} {o : Option Key} (h : M.pop n s = some (o, s'))
    (hk : s.get? k = some st) : ∃ st', s'.get? k = some st' := by
  rcases M.pop_some h with ⟨-, -, rfl⟩ | ⟨_, _, _, -, -, -, hf⟩
  · exact ⟨st, hk⟩
  · exact hf.present hk

/-- Only a stream that is closed, or was never opened, leaves the store. -/
theorem Move.present_of_open {K : Scope} (h : Move K s s') (hk : s.get? k = some st)
    (hopen : st.isClosed = false) (hopens : ¬K.opens k) : ∃ st', s'.get? k = some st' := by
  cases h with
  | aside h => exact ⟨st, by simpa only [Inner.get?, h.store] using hk⟩
  | limit => exact ⟨st, hk⟩
  | process => exact ⟨st, hk⟩
  | @turn j stj stj' kind counts hj hturn =>
    by_cases hkj : k = j
    · subst hkj
      exact ⟨stj', Inner.get?_put hj stj' hturn.id⟩
    · exact ⟨st, (Inner.get?_put_ne hj hturn.id hkj).trans hk⟩
  | push h =>
    obtain ⟨st', hst'⟩ := M.push_present h hk
    exact ⟨st', hst'⟩
  | pushFront _ h =>
    obtain ⟨_, _, ⟨-, -, rfl⟩ | ⟨-, -, hf⟩⟩ := M.pushFront_some h
    · exact ⟨st, hk⟩
    · exact hf.present hk
  | pop h =>
    obtain ⟨st', hst'⟩ := M.pop_present h hk
    exact ⟨st', hst'⟩
  | enlist _ _ _ _ _ _ h => exact M.push_present h hk
  | offer _ _ _ hpop hpush =>
    obtain ⟨st₁, hk₁⟩ := M.pop_present hpop hk
    exact M.push_present hpush hk₁
  | insert id initSend initRecv len =>
    have hne : k ≠ s.freshKey id := by
      rintro rfl
      rw [Inner.get?_freshKey] at hk
      cases hk
    exact ⟨st, (Store.get_insert_ne hne rfl).trans hk⟩
  | unlink => exact ⟨st, hk⟩
  | remove hj released =>
    refine ⟨st, (Store.get_vacate_ne hj ?_).trans hk⟩
    rintro rfl
    cases hk.symm.trans hj
    exact absurd (Stream.isClosed_of_isReleased released) (by simp [hopen])
  | discard hK hj =>
    refine ⟨st, (Store.get_vacate_ne hj ?_).trans hk⟩
    rintro rfl
    exact hopens hK

theorem Move.own (h : Move (.only p) s s') (hp : ¬p k) (hk : s.get? k = some st)
    (hk' : s'.get? k = some st') : st'.own = st.own := by
  cases h.fate hk' with
  | moved hst same =>
    cases hk.symm.trans hst
    exact Stream.own_of_unqueued same
  | turned hst hturn =>
    cases hk.symm.trans hst
    exact hturn.own hp
  | born _ _ _ hK => exact absurd hK hp

def Inner.Holds (s : Inner) (k : Key) (st : Stream) : Prop := ∃ st', s.get? k = some st' ∧ st'.own = st.own

theorem Moves.holds (h : Moves (.only p) s s') (hp : ¬p k) (hopen : st.isClosed = false)
    (hs : s.Holds k st) : s'.Holds k st := by
  refine h.invariant (P := fun s => s.Holds k st) (fun s s' hmove hs => ?_) hs
  obtain ⟨st₁, hk, hown⟩ := hs
  obtain ⟨st₂, hk'⟩ := hmove.present_of_open hk ((Stream.isClosed_of_own hown).trans hopen) hp
  exact ⟨st₂, hk', (hmove.own hp hk hk').trans hown⟩

namespace Connection

variable {c c' : Connection} {e : Event}

/-- The event may change the stream `k`: it is a call on its handle or a frame for it, or it is for the
whole connection. -/
def Touches (c : Connection) (e : Event) (k : Key) : Prop :=
  match e with
  | .sendRequest _ => c.New e k
  | .sendResponse j _ | .sendReset j _ | .cloneRef j | .dropRef j | .pollResponse j _
  | .takePartialResponse j => k = j
  | .accept => ∃ tail, c.streams.recv.pendingAccept.indices = some ⟨k, tail⟩
  | .recvData frame => k.streamId = frame.streamId
  | .recvHeaders frame => k.streamId = frame.streamId
  | .recvReset frame => k.streamId = frame.streamId
  | .recvWindowUpdate frame => k.streamId = frame.streamId
  | .handleResult => ∀ id reason initiator,
      c.result = some (.error (.reset id reason initiator)) → k.streamId = id
  | .abruptShutdown _ | .dropConnection | .recvGoAway _ | .recvEof | .applyRemoteSettings _
  | .pollComplete _ | .fillFrames _ => True
  | _ => False

theorem moves_handleResult (hresult : ∃ id reason initiator, c.result = some (.error (.reset id reason initiator)))
    (h : c.next .handleResult = some c') :
    c'.Failed ∨ Moves (.only (c.Touches .handleResult)) c.streams c'.streams := by
  obtain ⟨id, reason, initiator, hresult⟩ := hresult
  have htouch : ∀ k : Key, k.streamId = id → c.Touches .handleResult k := by
    rintro k rfl id' reason' initiator' hsame
    cases hresult.symm.trans hsame
    rfl
  obtain ⟨result, hresult', h⟩ := Option.bind_eq_some_iff.mp h
  cases hresult.symm.trans hresult'
  split at h
  · cases h
  · simp only [handlePoll2Result] at h
    split at h
    · cases h
    · obtain ⟨⟨res, s'⟩, hrun, h⟩ := Option.bind_eq_some_iff.mp h
      cases res with
      | error e => exact Or.inl (Failed.poll2GoAway h)
      | ok u =>
        cases h
        exact Or.inr (Moves.innerSendReset (fun _ => htouch _ rfl)
          (fun k hk => ⟨htouch k hk, htouch k hk⟩) reason _ _ hrun)

/-- An event does nothing to the streams that it does not touch, unless the connection fails. -/
theorem Settled.moves_only (hc : c.Settled) (h : c.next e = some c') :
    (∀ k, c.Touches e k) ∨ c'.Failed ∨ Moves (.only (c.Touches e)) c.streams c'.streams := by
  have hshaped : c.streams.Each fun _ st => st.Shaped := fun k st hk => (hc.sound k st hk).shaped
  cases e with
  | sendRequest request =>
    refine Or.inr (Or.inr (hc.moves_sendRequest (fun id hopens => ?_) h))
    have hnew : c.New (.sendRequest request) (c.streams.freshKey id) := ⟨id, hopens, rfl⟩
    exact ⟨hnew, hnew, hnew, hnew⟩
  | sendResponse k => exact Or.inr (Or.inr (hc.moves_sendResponse (K := .only (· = k)) rfl h))
  | sendReset k reason =>
    exact Or.inr (Or.inr (keeps_run (Moves.refSendReset (K := .only (· = k)) rfl rfl _)
      (Option.ite_none_right_eq_some.mp h).2))
  | cloneRef k => exact Or.inr (Or.inr (hc.moves_cloneRef (K := .only (· = k)) rfl h))
  | dropRef k =>
    exact Or.inr (Or.inr (keepsAt_run (Moves.drop (K := .only (· = k)) rfl rfl rfl rfl hshaped)
      (Option.ite_none_right_eq_some.mp h).2))
  | pollResponse k waker =>
    exact Or.inr (Or.inr (keeps_run (Moves.pollResponse (K := .only (· = k)) rfl _)
      (Option.ite_none_right_eq_some.mp h).2))
  | takePartialResponse k =>
    exact Or.inr (Or.inr (keepsAt_run (Moves.takeResponse (K := .only (· = k)) rfl fun _ _ => Or.inr rfl)
      (Option.ite_none_right_eq_some.mp h).2))
  | accept =>
    exact Or.inr (Or.inr (hc.moves_accept
      (fun k tail hidx => ⟨⟨⟨tail, hidx⟩, ⟨tail, hidx⟩⟩, ⟨tail, hidx⟩⟩) h))
  | recvData frame =>
    exact Or.inr (Or.inr (keepsAt_recv (Moves.innerRecvData fun k hk =>
      have hid := Moves.find_streamId hk
      ⟨⟨hid, hid, trivial, fun _ => hid⟩, hid⟩) (Option.ite_none_right_eq_some.mp h).2))
  | recvHeaders frame =>
    refine Or.inr (Or.inr (hc.moves_recvHeaders (fun k _ _ hid => ?_) (fun _ _ => ?_) h))
    · exact ⟨⟨hid, hid, trivial, fun _ => hid⟩, hid, hid, hid, fun _ => hid⟩
    · exact ⟨rfl, ⟨rfl, rfl, trivial, fun _ => rfl⟩, rfl, rfl, rfl, rfl, rfl, rfl⟩
  | recvReset frame =>
    exact Or.inr (Or.inr (keepsAt_recv (Moves.innerRecvReset trivial (fun k hk => ⟨hk, hk⟩)
      fun k st hfind hk hq => Or.inr trivial) (Option.ite_none_right_eq_some.mp h).2))
  | recvWindowUpdate frame =>
    exact Or.inr (Or.inr (keeps_recv (Moves.recvWindowUpdate _ fun k hk => ⟨hk, hk⟩)
      (Option.ite_none_right_eq_some.mp h).2))
  | handleResult =>
    by_cases hresult : ∃ id reason initiator, c.result = some (.error (.reset id reason initiator))
    · exact Or.inr (moves_handleResult hresult h)
    · exact Or.inl fun k id reason initiator hreset => absurd ⟨id, reason, initiator, hreset⟩ hresult
  | gracefulShutdown => exact Or.inr (Or.inr (hc.moves_gracefulShutdown trivial h))
  | recvShutdownPong => exact Or.inr (Or.inr (Settled.moves_recvShutdownPong trivial h))
  | clearExpiredResetStreams =>
    exact Or.inr (Or.inr (keepsAt_run (Moves.clearExpiredResetStreams trivial (Or.inr trivial))
      (Option.ite_none_right_eq_some.mp h).2))
  | abruptShutdown | dropConnection | recvGoAway | recvEof | applyRemoteSettings | pollComplete
  | fillFrames => exact Or.inl fun _ => trivial
  | cloneStreams | dropStreams | recvError | applyLocalSettings | sendPendingGoAway | sendPendingRefusal
  | pollWindowUpdate | parkTask | goAwayIfIdle | tick => exact Or.inr (Or.inr (moves_beside h trivial))

def Apart (k : Key) : Connection → List Event → Prop
  | _, [] => True
  | c, e :: events => ¬c.Touches e k ∧ ∀ c', c.next e = some c' → c'.Apart k events

/-- A stream that is not closed is not changed by any run that does not touch it: its state, its queued
and its received frames, its trailers, the handles that it has and the task that waits for it stay, or
the connection reads no more frames. -/
theorem after_apart {role : Role} {config : ConnectionConfig} {debug : Bool} {past events : List Event}
    (hpast : (Connection.new role config debug).after past = some c)
    (hk : c.streams.get? k = some st) (hopen : st.isClosed = false) (hapart : c.Apart k events)
    (h : c.after events = some c') : c'.Failed ∨ c'.streams.Holds k st := by
  have hc := (after_invariant (I := fun _ => True) (.new role config debug) trivial
    (fun _ _ _ _ _ _ => trivial) hpast).1
  have hrun : ∀ {c : Connection}, c.Settled → c.Failed ∨ c.streams.Holds k st → c.Apart k events →
      c.after events = some c' → c'.Failed ∨ c'.streams.Holds k st := by
    clear hpast hapart h hc hk
    induction events with
    | nil =>
      intro c _ hs _ h
      cases h
      exact hs
    | cons e events ih =>
      intro c hc hs hapart h
      obtain ⟨c₁, hfirst, hrest⟩ := Option.bind_eq_some_iff.mp h
      refine ih (hc.next hfirst) ?_ (hapart.2 c₁ hfirst) hrest
      rcases hs with hfail | hholds
      · exact Or.inl (hfail.next hfirst)
      · rcases hc.moves_only hfirst with hall | hfailed | hmoves
        · exact absurd (hall k) hapart.1
        · exact Or.inl hfailed
        · exact Or.inr (hmoves.holds hapart.1 hopen hholds)
  exact hrun hc (Or.inr ⟨st, hk, rfl⟩) hapart h

end Connection

end

section

attribute [local instance] plain plainCrates

def apartEvents : List Event :=
  [.recvHeaders (plainHeaders 3), .recvData (Data.new 3 [7]), .recvWindowUpdate ⟨3, 10⟩,
    .recvReset ⟨3, Reason.CANCEL⟩, .clearExpiredResetStreams]

theorem after_apart_request :
    ∃ c c' st, (Connection.new .server plainConfig true).after [.recvHeaders (plainHeaders 1)] = some c ∧
      c.streams.get? ⟨0, 1⟩ = some st ∧ st.isClosed = false ∧ c.Apart ⟨0, 1⟩ apartEvents ∧
      c.after apartEvents = some c' ∧ (c'.Failed ∨ c'.streams.Holds ⟨0, 1⟩ st) := by
  have hrun : (((Connection.new .server plainConfig true).after [.recvHeaders (plainHeaders 1)]).bind
      fun c => (c.streams.get? ⟨0, 1⟩).bind fun st => (c.after apartEvents).map
        fun _ => st.isClosed) = some false := by
    decide +kernel
  obtain ⟨c, hc, hrun⟩ := Option.bind_eq_some_iff.mp hrun
  obtain ⟨st, hst, hrun⟩ := Option.bind_eq_some_iff.mp hrun
  obtain ⟨c', hc', hopen⟩ := Option.map_eq_some_iff.mp hrun
  have hapart : c.Apart ⟨0, 1⟩ apartEvents :=
    ⟨(by decide : (1 : Nat) ≠ 3), fun _ _ => ⟨(by decide : (1 : Nat) ≠ 3), fun _ _ =>
      ⟨(by decide : (1 : Nat) ≠ 3), fun _ _ => ⟨(by decide : (1 : Nat) ≠ 3), fun _ _ =>
        ⟨id, fun _ _ => trivial⟩⟩⟩⟩⟩
  exact ⟨c, c', st, hc, hst, hopen, hapart, hc', Connection.after_apart hc hst hopen hapart hc'⟩

end

end TwoPlz
