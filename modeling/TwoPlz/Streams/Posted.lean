import TwoPlz.Streams.Move

/-! What waits in the queue of a stream can be sent. -/

namespace TwoPlz

namespace State

/-- The local half is open, or the queue of the stream is cleared before its next frame is taken. -/
def Posts (state : State) : Prop :=
  state.isSendStreaming = true ∨ state.isRemoteReset = true ∨ state.getScheduledReset = some Reason.CANCEL

variable {state state' : State}

theorem Posts.recvReset (frame : Reset) (queued : Bool) (h : state.Posts) :
    (state.recvReset frame queued).Posts := by
  unfold State.recvReset
  split
  · exact h
  · exact Or.inr (Or.inl rfl)

theorem isClosed_recvClose (h : state.recvClose = .ok state') : state.isClosed = false := by
  cases state <;> first | rfl | cases h

theorem isSendStreaming_recvClose (h : state.recvClose = .ok state')
    (hstreaming : state.isSendStreaming = true) : state'.isSendStreaming = true := by
  unfold State.recvClose at h
  split at h <;> cases h
  · rename_i localPeer _
    cases localPeer
    · cases hstreaming
    · rfl
  · cases hstreaming

theorem isClosed_recvOpen [HeaderPlz] {frame : Headers} {isInitial : Bool}
    (h : state.recvOpen frame = .ok (isInitial, state')) : state.isClosed = false := by
  cases state with
  | closed cause => cases h
  | _ => rfl

theorem isSendStreaming_recvOpen [HeaderPlz] {frame : Headers} {isInitial : Bool}
    (h : state.recvOpen frame = .ok (isInitial, state')) (hstreaming : state.isSendStreaming = true) :
    state'.isSendStreaming = true := by
  unfold State.recvOpen at h
  split at h <;> cases h <;> try cases hstreaming
  rename_i localPeer
  cases localPeer
  · cases hstreaming
  · cases frame.isEndStream <;> rfl

/-- A stream that is not closed posts only while its local half is open. -/
theorem Posts.streaming (h : state.Posts) (hlive : state.isClosed = false) :
    state.isSendStreaming = true := by
  rcases h with hstreaming | hreset | hscheduled
  · exact hstreaming
  · cases state with
    | closed => cases hlive
    | _ => cases hreset
  · cases state with
    | closed => cases hlive
    | _ => cases hscheduled

theorem sendClose_isSome (h : state.isSendStreaming = true) : state.sendClose.isSome = true := by
  cases state <;> first | rfl | cases h

end State

variable [HeaderPlz] [StoreCrates]

def Stream.hasHeaders (st : Stream) : Bool := st.pendingSend.any Frame.isHeaders

omit [StoreCrates] in
theorem Stream.trailers_queued {st : Stream} (h : st.trailers = []) (frame : Frame) :
    (Stream.trailers { st with pendingSend := st.pendingSend ++ [frame] }).length ≤ 1 := by
  unfold Stream.trailers at h ⊢
  rw [List.dropWhile_append]
  split
  · exact (List.length_filter_le _ _).trans ((List.dropWhile_sublist _).length_le)
  · rw [List.filter_append, h, List.nil_append]
    exact List.length_filter_le _ _

/-- The frames that wait can be sent, and a stream that waits to send has one, or is closed; the places
in the queues are those that a debug build asserts. -/
structure Stream.Posted (debug : Bool) (st : Stream) : Prop where
  body : st.hasData = true → st.state.Posts
  trailers : st.isSendingTrailer = true → st.hasHeaders = true → st.state.Posts
  single : st.trailers.length ≤ 1
  last : st.isSendingTrailer = true → (st.pendingSend.filter Frame.isHeaders).length ≤ 1
  held : st.remainingDataLen.isSome = true → st.hasData = true ∨ st.state.isClosed = true
  queued : debug = true → st.isPendingSend = true ∨ st.isPendingOpen = true →
    st.pendingSend ≠ [] ∨ st.state.isClosed = true
  apart : debug = true → st.isPendingSend = true → st.isPendingOpen = false

namespace Stream.Posted

variable {debug : Bool} {st : Stream} {state : State}

section

omit [StoreCrates]

theorem new (id initSend initRecv : Nat) (len : ContentLength) :
    Posted debug { Stream.new id initSend initRecv with contentLength := len } := by
  refine ⟨nofun, nofun, Nat.zero_le _, nofun, nofun, fun _ hq => ?_, fun _ _ => rfl⟩
  rcases hq with hq | hq <;> cases hq

theorem link (h : st.Posted debug) (n : Next) (key : Option Key) : (st.setNext n key).Posted debug := by
  cases n <;> exact ⟨h.body, h.trailers, h.single, h.last, h.held, h.queued, h.apart⟩

theorem unflagged (h : st.Posted debug) (n : Next) (now : Instant) :
    (st.setQueued n now false).Posted debug := by
  cases n with
  | send =>
    refine ⟨h.body, h.trailers, h.single, h.last, h.held, fun hd hq => h.queued hd (Or.inr ?_), nofun⟩
    simpa [setQueued] using hq
  | opening =>
    refine ⟨h.body, h.trailers, h.single, h.last, h.held, fun hd hq => h.queued hd (Or.inl ?_),
      fun _ _ => rfl⟩
    simpa [setQueued] using hq
  | _ => exact ⟨h.body, h.trailers, h.single, h.last, h.held, h.queued, h.apart⟩

theorem flagged (h : st.Posted debug) {n : Next} (hn : n ≠ .send ∧ n ≠ .opening) (now : Instant)
    (val : Bool) : (st.setQueued n now val).Posted debug := by
  cases n with
  | send => exact absurd rfl hn.1
  | opening => exact absurd rfl hn.2
  | _ => exact ⟨h.body, h.trailers, h.single, h.last, h.held, h.queued, h.apart⟩

theorem ready (h : st.Posted debug) (hready : st.Schedulable) :
    st.pendingSend ≠ [] ∨ st.state.isClosed = true := by
  rcases hready with hqueue | hclosed | hheld
  · exact Or.inl hqueue
  · exact Or.inr hclosed
  · refine (h.held hheld).imp_left fun hdata hempty => ?_
    simp [hasData, hempty] at hdata

theorem scheduled (h : st.Posted debug) (hready : st.Schedulable)
    (hopen : debug = true → st.isPendingOpen = false) (now : Instant) :
    (st.setQueued .send now true).Posted debug :=
  ⟨h.body, h.trailers, h.single, h.last, h.held, fun _ _ => h.ready hready, fun hd _ => hopen hd⟩

theorem drained (h : st.Posted debug) (hclosed : state.isClosed = true) (rem : Option Nat) :
    Posted debug { st with state := state, pendingSend := [], remainingDataLen := rem } :=
  ⟨nofun, nofun, Nat.zero_le _, fun _ => Nat.zero_le _, fun _ => Or.inr hclosed, fun _ _ => Or.inr hclosed,
    h.apart⟩

theorem closed (h : st.Posted debug) (hclosed : state.isClosed = true) (hposts : st.state.Posts → state.Posts) :
    Posted debug { st with state := state } :=
  ⟨fun hdata => hposts (h.body hdata), fun htrailer hheaders => hposts (h.trailers htrailer hheaders),
    h.single, h.last, fun _ => Or.inr hclosed, fun _ _ => Or.inr hclosed, h.apart⟩

theorem received (h : st.Posted debug) (hlive : st.state.isClosed = false)
    (hstreaming : st.state.isSendStreaming = true → state.isSendStreaming = true) :
    Posted debug { st with state := state } where
  body hdata := Or.inl (hstreaming ((h.body hdata).streaming hlive))
  trailers htrailer hheaders := Or.inl (hstreaming ((h.trailers htrailer hheaders).streaming hlive))
  single := h.single
  last := h.last
  held hheld := Or.inl ((h.held hheld).resolve_right (by simp [hlive]))
  queued hd hq := Or.inl ((h.queued hd hq).resolve_right (by simp [hlive]))
  apart := h.apart

end

end Stream.Posted

omit [StoreCrates] in
theorem Turn.posted {K : Scope} {role : Role} {k : Key} {kind : Kind} {st st' : Stream} {debug : Bool}
    (h : Turn K role k kind st st') (hK : ¬K.pops k) (hshaped : st.Shaped) (hst : st.Posted debug) :
    st'.Posted debug := by
  cases h with
  | schedule _ reason live _ dry ended =>
    refine ⟨fun hdata => ?_, fun htrailer hheaders => ?_, hst.single, hst.last, fun _ => Or.inr rfl,
      fun _ _ => Or.inr rfl, hst.apart⟩
    · refine Or.inr (Or.inr (congrArg some ?_))
      by_contra hreason
      rw [show st.hasData = true from hdata] at dry
      cases dry hreason
    · refine Or.inr (Or.inr (congrArg some ?_))
      by_contra hreason
      rcases ended hreason with hno | hclosed
      · rw [show st.isSendingTrailer = true from htrailer] at hno
        cases hno
      · have hstreaming := (hst.trailers htrailer hheaders).streaming live
        cases hstate : st.state <;> rw [hstate] at hstreaming hclosed <;>
          first | cases hstreaming | cases hclosed
  | remoteReset _ frame => exact hst.closed (State.isClosed_recvReset _ _ _) (.recvReset frame _)
  | fail _ err => exact hst.drained (State.isClosed_handleError _ _) none
  | eof _ last => exact absurd last hK
  | reset _ reason initiator _ _ queue rem cleared =>
    obtain rfl : queue = [] := cleared.resolve_right fun hkept => hK hkept.2
    have hreset := hst.drained (rfl : (State.setReset st.id reason initiator).isClosed = true) rem
    exact ⟨hreset.body, hreset.trailers, hreset.single, hreset.last, hreset.held, hreset.queued,
      hreset.apart⟩
  | drainSend _ closed => exact hst.drained closed none
  | queueReset _ frame empty reset =>
    have hclosed := State.isClosed_of_isReset reset
    refine ⟨fun hdata => ?_, fun _ hheaders => ?_, ?_, fun _ => ?_, fun _ => Or.inr hclosed,
      fun _ _ => Or.inr hclosed, hst.apart⟩
    · simp [Stream.hasData, empty, Frame.isData] at hdata
    · simp [Stream.hasHeaders, empty, Frame.isHeaders] at hheaders
    · simp [Stream.trailers, empty, Frame.isData]
    · simp [empty, Frame.isHeaders]
  | sendOpen _ eos state h =>
    have hunsent := State.isUnsent_of_sendOpen h
    obtain ⟨hempty, htrailer⟩ := hshaped.unsent hunsent
    have hlive : st.state.isClosed = false := by
      by_contra hclosed
      simp [State.isUnsent_of_isClosed (by simpa using hclosed)] at hunsent
    refine ⟨fun hdata => ?_, fun hno => ?_, hst.single, hst.last, fun hheld => ?_, fun hd hq => ?_, hst.apart⟩
    · simp [Stream.hasData, hempty] at hdata
    · rw [show st.isSendingTrailer = true from hno] at htrailer
      cases htrailer
    · have hdata := (hst.held hheld).resolve_right (by simp [hlive])
      simp [Stream.hasData, hempty] at hdata
    · exact absurd ((hst.queued hd hq).resolve_right (by simp [hlive])) (by simp [hempty])
  | queue _ frame rem sent body last data held =>
    refine ⟨fun hdata => ?_, fun hno => ?_, Stream.trailers_queued last frame, fun hno => ?_, fun hheld => ?_,
      fun _ _ => Or.inl (by simp), hst.apart⟩
    · have hor : st.hasData = true ∨ frame.isData = true := by simpa [Stream.hasData] using hdata
      rcases hor with hold | hnew
      · exact hst.body hold
      · exact Or.inl (data hnew).1
    · rw [show st.isSendingTrailer = true from hno] at body
      cases body
    · rw [show st.isSendingTrailer = true from hno] at body
      cases body
    · rcases held with ⟨body, rfl, -⟩ | ⟨-, rfl⟩
      · exact Or.inl (by simp [Stream.hasData, Frame.isData])
      · exact (hst.held hheld).imp_left fun hdata => by
          have hany : st.pendingSend.any Frame.isData = true := hdata
          simp [Stream.hasData, hany]
  | take hpops => exact absurd hpops hK
  | putBack hpops => exact absurd hpops hK
  | spend hpops => exact absurd hpops hK
  | trailer hpops => exact absurd hpops hK
  | sendClose hpops => exact absurd hpops hK
  | recvOpen _ frame _ state h =>
    exact hst.received (State.isClosed_recvOpen h) (State.isSendStreaming_recvOpen h)
  | recvClose _ state h => exact hst.received (State.isClosed_recvClose h) (State.isSendStreaming_recvClose h)
  | _ => exact ⟨hst.body, hst.trailers, hst.single, hst.last, hst.held, hst.queued, hst.apart⟩

def Inner.Posted (s : Inner) (busy : Key → Prop) : Prop :=
  s.Each fun k st => busy k ∨ st.Posted s.debugAssertions

section

variable {K : Scope} {s s' : Inner} {k : Key} {st : Stream} {busy : Key → Prop}

theorem Flagged.debug {n : Next} {val : Bool} (h : Flagged n k val s s') :
    s'.debugAssertions = s.debugAssertions := by
  rw [h.conn]
  cases n <;> rfl

theorem M.push_debug {n : Next} {b : Bool} (h : M.push n k s = some (b, s')) :
    s'.debugAssertions = s.debugAssertions := by
  obtain ⟨_, _, ⟨-, -, rfl⟩ | ⟨-, -, hf⟩⟩ := M.push_some h
  · rfl
  · exact hf.debug

theorem M.pop_debug {n : Next} {o : Option Key} (h : M.pop n s = some (o, s')) :
    s'.debugAssertions = s.debugAssertions := by
  rcases M.pop_some h with ⟨-, -, rfl⟩ | ⟨_, _, _, -, -, -, hf⟩
  · rfl
  · exact hf.debug

theorem Move.debug (h : Move K s s') : s'.debugAssertions = s.debugAssertions := by
  cases h with
  | aside h => exact h.debug
  | push h =>
    have hsame := M.push_debug h
    exact hsame
  | pushFront _ h =>
    obtain ⟨_, _, ⟨-, -, rfl⟩ | ⟨-, -, hf⟩⟩ := M.pushFront_some h
    · rfl
    · exact hf.debug
  | pop h =>
    have hsame := M.pop_debug h
    exact hsame
  | enlist _ _ _ _ _ _ h => exact M.push_debug h
  | offer _ _ _ hpop hpush => exact (M.push_debug hpush).trans (M.pop_debug hpop)
  | _ => rfl

theorem Moves.debug (h : Moves K s s') : s'.debugAssertions = s.debugAssertions := by
  induction h with
  | refl s => rfl
  | step hmove _ ih => exact ih.trans hmove.debug

theorem Inner.Posted.flagged {n : Next} {val : Bool} (hs : s.Posted busy) (h : Flagged n k val s s')
    (hk : ∀ st, s.get? k = some st → ¬busy k → st.Posted s.debugAssertions →
      (st.setQueued n s.now val).Posted s.debugAssertions) : s'.Posted busy := by
  intro j stj hj
  obtain ⟨st, key, hst, rfl⟩ := h.get_inv hj
  rw [h.debug]
  rcases Classical.em (busy j) with hbusy | hfree
  · exact Or.inl hbusy
  · have hold := (hs j st hst).resolve_left hfree
    refine Or.inr (Stream.Posted.link ?_ n key)
    split
    · rename_i hjk
      subst hjk
      exact hk st hst hfree hold
    · exact hold

theorem Inner.Posted.pop {n : Next} {o : Option Key} (hs : s.Posted busy) (h : M.pop n s = some (o, s')) :
    s'.Posted busy := by
  rcases M.pop_some h with ⟨-, -, rfl⟩ | ⟨_, _, _, -, -, -, hf⟩
  · exact hs
  · exact hs.flagged hf fun _ _ _ hold => hold.unflagged _ _

theorem Inner.Posted.push {n : Next} {b : Bool} (hs : s.Posted busy) (h : M.push n k s = some (b, s'))
    (hn : n ≠ .send ∧ n ≠ .opening) : s'.Posted busy := by
  obtain ⟨_, _, ⟨-, -, rfl⟩ | ⟨-, -, hf⟩⟩ := M.push_some h
  · exact hs
  · exact hs.flagged hf fun _ _ _ hold => hold.flagged hn _ _

theorem Inner.Posted.of_old (hs : s.Posted busy) (hdebug : s'.debugAssertions = s.debugAssertions)
    (hold : ∀ j stj, s'.get? j = some stj → s.get? j = some stj) : s'.Posted busy := by
  intro j stj hj
  rw [hdebug]
  exact hs j stj (hold j stj hj)

def Scope.Spares (K : Scope) (busy : Key → Prop) : Prop :=
  ∀ k, K.pops k ∨ K.opens k ∧ K.refs k → busy k

theorem Move.posted (hK : K.Spares busy) (h : Move K s s') (hshaped : s.Each fun _ st => st.Shaped)
    (hs : s.Posted busy) : s'.Posted busy := by
  cases h with
  | aside h => exact hs.of_old h.debug fun j stj hj => by simpa only [Inner.get?, h.store] using hj
  | limit => exact hs
  | process => exact hs
  | @turn k st st' _ _ hk h =>
    refine Inner.Each.put hs hk h.id ?_
    rcases Classical.em (busy k) with hbusy | hfree
    · exact Or.inl hbusy
    · have hpops : ¬K.pops k := fun hpops => hfree (hK k (Or.inl hpops))
      exact Or.inr (h.posted hpops (hshaped k st hk) ((hs k st hk).resolve_left hfree))
  | @push s₁ n k st _ h hk hopening tally =>
    obtain ⟨_, _, ⟨hno, -⟩ | ⟨-, -, hf⟩⟩ := M.push_some h
    · cases hno
    refine Inner.Posted.of_old (hs.flagged hf fun st' hk' hfree hold => ?_) rfl fun _ _ hj => hj
    cases hk.symm.trans hk'
    cases tally with
    | send ready =>
      refine hold.scheduled ready (fun hd => ?_) _
      have hassert := M.push_asserted h hk hd
      simpa [Stream.setQueuedAssert] using hassert
    | opening => exact absurd (hK k (Or.inr (hopening rfl))) hfree
    | capacity => exact hold.flagged (by decide) _ _
    | expire => exact hold.flagged (by decide) _ _
  | pushFront hpops h =>
    obtain ⟨_, _, ⟨-, -, rfl⟩ | ⟨-, -, hf⟩⟩ := M.pushFront_some h
    · exact hs
    · exact hs.flagged hf fun _ _ hfree => absurd (hK _ (Or.inl hpops)) hfree
  | pop h => exact Inner.Posted.of_old (hs.pop h) rfl fun _ _ hj => hj
  | enlist _ _ _ _ _ _ h => exact hs.push h (by decide)
  | offer _ _ _ hpop hpush => exact (hs.pop hpop).push hpush (by decide)
  | insert id initSend initRecv len =>
    intro j stj hj
    obtain ⟨rfl, rfl⟩ | hold := Inner.get?_insert rfl rfl hj
    · exact Or.inr (.new _ _ _ _)
    · exact hs j stj hold
  | unlink => exact hs
  | remove hk => exact hs.of_old rfl fun j stj hj => Inner.get?_vacate hk rfl hj
  | discard _ hk => exact hs.of_old rfl fun j stj hj => Inner.get?_vacate hk rfl hj

theorem Moves.posted (hK : K.Spares busy) (h : Moves K s s') (hshaped : s.Each fun _ st => st.Shaped)
    (hs : s.Posted busy) : s'.Posted busy := by
  induction h with
  | refl s => exact hs
  | step hmove _ ih => exact ih ((Moves.single hmove).shaped hshaped) (hmove.posted hK hshaped hs)

end

end TwoPlz
