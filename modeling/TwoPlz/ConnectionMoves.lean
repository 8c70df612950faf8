import TwoPlz.ConnectionFrames
import TwoPlz.Streams.Lines
import TwoPlz.Streams.RefMoves
import TwoPlz.Streams.Tidy

/-! The events of a connection as moves. -/

namespace TwoPlz

variable [HeaderPlz] [StoreCrates] {K : Scope} {c c' : Connection}

open Connection

def Connection.Opens (c : Connection) (e : Event) (id : Nat) : Prop :=
  match e with
  | .sendRequest _ => c.streams.counts.role.isServer = false ∧ c.streams.send.nextStreamId = some id
  | .recvHeaders frame =>
    frame.streamId = id ∧ id ≤ c.streams.recv.maxStreamId ∧ c.streams.store.find id = none ∧
      c.streams.Openable id
  | _ => False

def Event.EndsStream (e : Event) (id : Nat) : Prop :=
  match e with
  | .recvData frame => frame.streamId = id ∧ frame.isEndStream = true
  | .recvHeaders frame => frame.streamId = id ∧ frame.isEndStream = true
  | _ => False

omit [HeaderPlz] [StoreCrates] in
/-- The stream has not seen its first frame, or the first one of the client. -/
def State.waits (state : State) (role : Role) : Bool :=
  state.isIdle || role.isServer && state.isRecvHeaders

/-- What holds between two events: a stream that waits for its first frame is left behind by a
connection that fails, and only there. -/
structure Connection.Settled (c : Connection) : Prop where
  lines : ∃ line, c.streams.Lines line
  sound : c.streams.Each fun k st => st.Sound c.streams.counts.role k
  tidy : c.streams.Tidy fun _ => False
  known : c.streams.Each fun k _ => c.streams.Known k.streamId
  max : c.streams.recv.maxStreamId ≤ StreamId.max
  parity : c.streams.counts.role.isServer = false →
    ∀ n, c.streams.send.nextStreamId = some n → n % 2 = 1
  rest : ∀ k st, c.streams.get? k = some st → st.state.waits c.streams.counts.role = true → c.Failed
  window : c.streams.Each fun _ st => st.recvFlow.InRange

def Connection.New (c : Connection) (e : Event) (k : Key) : Prop :=
  ∃ id, c.Opens e id ∧ k = c.streams.freshKey id

def Connection.Revives (c : Connection) (e : Event) (k : Key) : Prop :=
  e = .handleResult ∧ ∃ id reason initiator, c.result = some (.error (.reset id reason initiator)) ∧
    c.streams.store.find id = none ∧ k = c.streams.freshKey id

def Connection.Refs (c : Connection) (e : Event) (k : Key) : Prop :=
  match e with
  | .cloneRef j | .dropRef j => k = j
  | .sendRequest _ => c.New e k
  | .accept => True
  | _ => False

def Event.Pops (e : Event) : Prop :=
  match e with
  | .pollComplete _ | .fillFrames _ | .recvEof | .dropConnection => True
  | _ => False

def Event.Takes (e : Event) (k : Key) : Prop :=
  match e with
  | .takePartialResponse j | .dropRef j => k = j
  | .accept => True
  | _ => False

def Event.Delivers (e : Event) (k : Key) : Prop :=
  match e with
  | .recvData frame => k.streamId = frame.streamId
  | .recvHeaders frame => k.streamId = frame.streamId
  | _ => False

def Event.Cancels (e : Event) (k : Key) : Prop :=
  match e with
  | .dropRef j => k = j
  | .recvHeaders frame => k.streamId = frame.streamId
  | _ => False

def Connection.Limits (c : Connection) (e : Event) (id : Nat) : Prop :=
  match e with
  | .gracefulShutdown => id = StreamId.max
  | .recvShutdownPong => id = c.streams.recv.lastProcessedId
  | _ => False

def Event.Expires (e : Event) : Prop :=
  match e with
  | .clearExpiredResetStreams | .recvEof | .dropConnection => True
  | _ => False

def Connection.Leaks (c : Connection) (e : Event) : Prop :=
  match e with
  | .clearExpiredResetStreams =>
    ¬Moves.ExpiresClosed c.streams c.streams.now c.streams.recv.resetDuration
  | .recvReset frame => ∃ k st, c.streams.store.find frame.streamId = some k ∧
      c.streams.get? k = some st ∧ st.isPendingAccept = true ∧ ¬Moves.Exact st
  | .recvEof | .dropConnection => True
  | _ => False

/-- What the event may do to which stream. -/
def Connection.scope (c : Connection) (e : Event) : Scope where
  turn _ := True
  takes k := e.Takes k
  closes _ := True
  send _ := True
  offers := True
  recv k := e.Delivers k ∧ c.canRecv = true ∧ (c.streams.store.find k.streamId = some k ∨ c.New e k)
  lists k := c.streams.counts.role.isServer = false ∨ c.New e k
  ends k := c.canRecv = true ∧ e.EndsStream k.streamId
  opens k := c.New e k
  born k := c.New e k ∨ c.Revives e k
  refs k := c.Refs e k
  pops _ := e.Pops
  cancels k := e.Cancels k
  processes k := c.canRecv = true ∧ c.New e k
  limits id := c.Limits e id
  expires := e.Expires
  leaks := c.Leaks e

theorem Connection.Settled.queued (hc : c.Settled) {n : Next} {k tail : Key}
    (hidx : (c.streams.queue n).indices = some ⟨k, tail⟩) :
    ∃ st, c.streams.get? k = some st ∧ st.isQueued n = true := by
  obtain ⟨line, hlines⟩ := hc.lines
  have hends : c.streams.endsOf n = some (k, tail) := by
    simp only [Inner.endsOf, hidx, Option.map_some]
  have hthread := hlines n
  unfold Inner.Thread at hthread
  rw [hends] at hthread
  obtain ⟨rest, hline, -⟩ := hthread.eq_cons
  exact (Threaded.queued_iff (hlines n) k).mpr (by simp [hline])

theorem Connection.Settled.head (hc : c.Settled) {k tail : Key} {st : Stream}
    (hidx : c.streams.recv.pendingAccept.indices = some ⟨k, tail⟩) (hk : c.streams.get? k = some st) :
    st.state ≠ .idle := by
  obtain ⟨st', hst', hq⟩ := hc.queued (n := .accept) hidx
  cases hk.symm.trans hst'
  have hheaders := (hc.sound k st hk).offered hq
  intro hidle
  rw [hidle] at hheaders
  cases hheaders

theorem Connection.Settled.held (hc : c.Settled) {k : Key} {st : Stream} (hk : c.streams.get? k = some st)
    (hheld : c.holds k = true) : st.state ≠ .idle := by
  intro hidle
  have hcount := (hc.sound k st hk).unheld hidle
  simp [holds, hk, hcount] at hheld

theorem Connection.Settled.remote (hc : c.Settled) {k : Key} {st : Stream} (hk : c.streams.get? k = some st)
    (hserver : c.streams.counts.role.isServer = true)
    (hheld : 0 < st.refCount ∨ st.isPendingAccept = true) :
    c.streams.counts.role.isLocalInit k.streamId = false := by
  by_contra hlocal
  obtain ⟨hcount, haccept, -⟩ := (hc.sound k st hk).held hserver (by simpa using hlocal)
  rcases hheld with hpos | hq
  · omega
  · rw [haccept] at hq
    cases hq

theorem Connection.holds_iff {k : Key} :
    c.holds k = true ↔ ∃ st, c.streams.get? k = some st ∧ 0 < st.refCount := by
  simp [holds, Option.any_eq_true]

namespace Moves

theorem fillFrame (hK : ∀ k, K.pops k) {s : Inner} (hs : s.Each fun _ st => st.Shaped) (id : Nat) :
    KeepsAt (Moves K) s (TwoPlz.fillFrame id) := by
  refine .get_bind (.read_bind (fun _ _ h => (M.lift_some.mp h).2.symm) fun k => ?_)
  refine chains.step fun o s₁ hpop => ⟨popFrontSend (hK k) _ _ _ hpop, ?_⟩
  have hfound : ∃ st, s.get? k = some st := by
    obtain ⟨st, _, hresolve, -⟩ := bind_eq_some hpop
    exact ⟨st, (M.resolve_some.mp hresolve).1⟩
  obtain ⟨st, hk⟩ := hfound
  rcases popFrontSend_ends hk _ _ hpop with ⟨rfl, -⟩ | ⟨frame, rest, rfl, hqueue, hk₁⟩
  · exact Chains.abort s₁
  · cases frame with
    | data frame => exact sendClose (hK k) hk₁ ((hs k st hk).served hqueue).dry
    | _ => exact chains.pure _ _

theorem forM_fillFrame (hK : ∀ k, K.pops k) (ids : List Nat) {s : Inner}
    (hs : s.Each fun _ st => st.Shaped) : KeepsAt (Moves K) s (ids.forM TwoPlz.fillFrame) := by
  induction ids generalizing s with
  | nil => exact chains.pure _ s
  | cons id ids ih =>
    refine chains.step fun u s₁ h => ?_
    have hfirst := fillFrame hK hs id _ _ h
    exact ⟨hfirst, ih (hfirst.shaped hs)⟩

theorem fillFrames (hK : ∀ k, K.pops k) (flushed : Bool) {s : Inner} (hs : s.Each fun _ st => st.Shaped) :
    KeepsAt (Moves K) s (TwoPlz.fillFrames flushed) := by
  refine .get_bind ?_
  split
  · exact chains.pure _ s
  · split
    · exact chains.pure _ s
    · exact .bind chains.trans (forM_fillFrame hK _ hs) fun _ =>
        .ite (modified fun s => { Aside.refl s with spa := fun _ => rfl }) (chains.pure _)

theorem poll2GoAway (hK : ∀ k, K.turn k ∧ K.closes k) {data : Bytes} {reason : Nat} {initiator : Initiator}
    (h : c.poll2GoAway data reason initiator = some c') : Moves K c.streams c'.streams := by
  simp only [Connection.poll2GoAway] at h
  split at h
  · cases h
    exact .refl _
  · obtain ⟨c₁, hrun, h⟩ := Option.bind_eq_some_iff.mp h
    have hfirst : Moves K c.streams c₁.streams := keeps_run (innerHandleError hK
      (by simp [ProtoError.remoteReset])) hrun
    obtain ⟨g, rfl, -⟩ := goAwayNow_some h
    exact hfirst

theorem handlePoll2Result (hK : ∀ k, K.turn k ∧ K.closes k) {result : Except ProtoError Unit}
    (hborn : ∀ id reason initiator, c.streams.store.find id = none →
      result = .error (.reset id reason initiator) → K.born (c.streams.freshKey id))
    (h : c.handlePoll2Result result = some c') : Moves K c.streams c'.streams := by
  unfold Connection.handlePoll2Result at h
  split at h
  · cases h
    exact .refl _
  · exact poll2GoAway hK h
  · rename_i id reason initiator
    split at h
    · cases h
    · obtain ⟨⟨res, s'⟩, hrun, h⟩ := Option.bind_eq_some_iff.mp h
      have hfirst : Moves K c.streams s' :=
        innerSendReset (fun hfind => hborn id reason initiator hfind rfl) (fun k _ => hK k) reason _ _ hrun
      cases res with
      | ok u =>
        cases h
        exact hfirst
      | error e =>
        have hrest := poll2GoAway hK h
        exact hfirst.trans hrest
  · obtain ⟨c₁, hrun, h⟩ := Option.bind_eq_some_iff.mp h
    have hfirst : Moves K c.streams c₁.streams := keeps_run (innerHandleError hK
      (by simp [ProtoError.remoteReset])) hrun
    cases h
    exact hfirst

end Moves

theorem Connection.keepsAt_run {α : Type} {R : Inner → Inner → Prop} {m : M α}
    (hm : KeepsAt R c.streams m) (h : c.run m = some c') : R c.streams c'.streams := by
  obtain ⟨a, s', hrun, rfl⟩ := run_some h
  exact hm _ _ hrun

theorem Connection.keepsAt_recv {R : Inner → Inner → Prop} {m : M (Except ProtoError Unit)}
    (hm : KeepsAt R c.streams m) (h : c.recv m = some c') : R c.streams c'.streams := by
  obtain ⟨res, s', hrun, rfl⟩ := recv_some h
  exact hm _ _ hrun

def Event.IsBeside : Event → Prop
  | .cloneStreams | .dropStreams | .recvError _ | .applyLocalSettings _ | .sendPendingGoAway | .sendPendingRefusal
  | .pollWindowUpdate _ | .parkTask _ | .goAwayIfIdle | .tick _ => True
  | _ => False

theorem Connection.moves_beside {e : Event} (h : c.next e = some c') (he : e.IsBeside) :
    Moves K c.streams c'.streams := by
  cases e with
  | cloneStreams | dropStreams | sendPendingRefusal | parkTask =>
    obtain ⟨-, h⟩ := Option.ite_none_right_eq_some.mp h
    cases h
    exact Moves.aside (.of_beside rfl)
  | tick =>
    cases h
    exact Moves.aside (.of_beside rfl)
  | recvError =>
    obtain ⟨-, h⟩ := Option.ite_none_right_eq_some.mp h
    cases h
    exact .refl _
  | sendPendingGoAway =>
    obtain ⟨result, rfl, -⟩ := sendPendingGoAway_some (Option.ite_none_right_eq_some.mp h).2
    exact .refl _
  | goAwayIfIdle =>
    obtain ⟨g, rfl, -⟩ := goAwayNow_some (Option.ite_none_right_eq_some.mp h).2
    exact .refl _
  | applyLocalSettings =>
    exact keeps_recv (Moves.applyLocalSettings _) (Option.ite_none_right_eq_some.mp h).2
  | pollWindowUpdate => exact keeps_run (Moves.pollWindowUpdate _) (Option.ite_none_right_eq_some.mp h).2
  | _ => exact he.elim

/-! What an event of a settled connection does to its stream, for any scope that allows it. -/

namespace Connection.Settled

theorem moves_sendRequest {request : Request} (hc : c.Settled)
    (hK : ∀ id, c.Opens (.sendRequest request) id → Moves.Scope.Requests K (c.streams.freshKey id))
    (h : c.next (.sendRequest request) = some c') : Moves K c.streams c'.streams := by
  refine keepsAt_run (Moves.sendRequest (fun id hrole hid => ?_) _ _) (Option.ite_none_right_eq_some.mp h).2
  exact ⟨hK id ⟨hrole, hid⟩, hc.parity hrole id hid⟩

theorem moves_sendResponse {k : Key} {response : Response} (hc : c.Settled) (hK : K.send k)
    (h : c.next (.sendResponse k response) = some c') : Moves K c.streams c'.streams := by
  obtain ⟨hholds, h⟩ := Option.ite_none_right_eq_some.mp h
  rw [Bool.and_eq_true] at hholds
  obtain ⟨hheld, hserver⟩ := hholds
  obtain ⟨st, hk, hpos⟩ := holds_iff.mp hheld
  exact keepsAt_run (Moves.sendResponse hK _ hk (hc.sound k st hk).shaped (hc.held hk hheld)
    (hc.remote hk hserver (Or.inl hpos))) h

theorem moves_cloneRef {k : Key} (hc : c.Settled) (hK : K.refs k) (h : c.next (.cloneRef k) = some c') :
    Moves K c.streams c'.streams := by
  obtain ⟨hheld, h⟩ := Option.ite_none_right_eq_some.mp h
  refine keepsAt_run (Moves.newRef hK (fun st hk => hc.held hk hheld) fun hserver => ?_) h
  obtain ⟨st, hk, hpos⟩ := holds_iff.mp hheld
  exact hc.remote hk hserver (Or.inl hpos)

theorem accept_some (hc : c.Settled)
    (hK : ∀ k tail, c.streams.recv.pendingAccept.indices = some ⟨k, tail⟩ → (K.turn k ∧ K.takes k) ∧ K.refs k) :
    Ends c.streams Streams.accept fun o s' => (o = none ∧ s' = c.streams) ∨
      ∃ k request s₁ counts, o = some (k, request) ∧ M.pop .accept c.streams = some (some k, s₁) ∧
        Move K c.streams { s₁ with counts := counts } ∧ Moves K { s₁ with counts := counts } s' := by
  refine Moves.accept_ends hK (fun k st tail hidx hk => hc.head hidx hk) fun k tail hidx hserver => ?_
  obtain ⟨st, hk, hq⟩ := hc.queued (n := .accept) hidx
  exact hc.remote hk hserver (Or.inr hq)

theorem accept_ends (hc : c.Settled) :
    Ends c.streams Streams.accept fun o s' => (o = none ∧ s' = c.streams) ∨
      ∃ k request s₁ counts, o = some (k, request) ∧ M.pop .accept c.streams = some (some k, s₁) ∧
        Move (c.scope .accept) c.streams { s₁ with counts := counts } ∧
          Moves (c.scope .accept) { s₁ with counts := counts } s' :=
  hc.accept_some fun _ _ _ => ⟨⟨trivial, trivial⟩, trivial⟩

theorem moves_accept (hc : c.Settled)
    (hK : ∀ k tail, c.streams.recv.pendingAccept.indices = some ⟨k, tail⟩ → (K.turn k ∧ K.takes k) ∧ K.refs k)
    (h : c.next .accept = some c') : Moves K c.streams c'.streams := by
  refine keepsAt_run (fun o s' haccept => ?_) (Option.ite_none_right_eq_some.mp h).2
  rcases hc.accept_some hK _ _ haccept with ⟨-, rfl⟩ | ⟨k, request, s₁, counts, -, -, hmove, hmoves⟩
  · exact .refl _
  · exact .step hmove hmoves

theorem moves_gracefulShutdown (hc : c.Settled) (hK : K.limits StreamId.max)
    (h : c.next .gracefulShutdown = some c') : Moves K c.streams c'.streams := by
  obtain rfl | ⟨s', g, hrun, rfl, -⟩ := next_gracefulShutdown h
  · exact .refl _
  · exact Moves.goAway hK (Or.inl hc.max) _ _ hrun

theorem moves_recvShutdownPong (hK : K.limits c.streams.recv.lastProcessedId)
    (h : c.next .recvShutdownPong = some c') : Moves K c.streams c'.streams := by
  obtain ⟨s', g, hrun, rfl⟩ := next_recvShutdownPong h
  exact Moves.goAway hK (Or.inr (Nat.le_refl _)) _ _ hrun

/-- On a connection that reads frames, only a stream of a client that has sent its request still waits
for headers. -/
theorem listens {k : Key} {st : Stream} (hc : c.Settled) (hcan : c.canRecv = true)
    (hk : c.streams.get? k = some st) (hheaders : st.state.isRecvHeaders = true)
    (hmax : k.streamId ≤ c.streams.recv.maxStreamId)
    (hK : c.streams.counts.role.isServer = false → K.lists k) : K.Listens c.streams k st k.streamId := by
  have hlive : ¬c.Failed := fun hfail => by simp [hfail.not_canRecv] at hcan
  have hclient : c.streams.counts.role.isServer = false := by
    by_contra hserver
    exact hlive (hc.rest k st hk (by simpa [State.waits, hheaders] using Or.inr hserver))
  have hawake : st.state ≠ .idle := fun hidle =>
    hlive (hc.rest k st hk (by simp [State.waits, State.isIdle, hidle]))
  refine ⟨hK hclient, ?_, hmax, rfl, fun hidle => absurd hidle hawake, by simp [hclient], ?_⟩
  · by_contra hq
    have hno := (hc.sound k st hk).offered (by simpa using hq)
    rw [hheaders] at hno
    cases hno
  · rintro (hidle | hreserved)
    · exact absurd hidle hawake
    · exact absurd hreserved (hc.sound k st hk).unreserved

theorem moves_recvHeaders {frame : Headers} (hc : c.Settled)
    (hfound : ∀ k : Key, c.canRecv = true → c.streams.store.find k.streamId = some k →
      k.streamId = frame.streamId → K.Receives k frame.isEndStream ∧ K.closes k ∧ K.send k ∧ K.cancels k ∧
        (c.streams.counts.role.isServer = false → K.lists k))
    (hopened : c.canRecv = true → c.New (.recvHeaders frame) (c.streams.freshKey frame.streamId) →
      K.born (c.streams.freshKey frame.streamId) ∧
        K.Admits (c.streams.freshKey frame.streamId) frame.isEndStream)
    (h : c.next (.recvHeaders frame) = some c') : Moves K c.streams c'.streams := by
  obtain ⟨hcan, h⟩ := Option.ite_none_right_eq_some.mp h
  refine keepsAt_recv (Moves.innerRecvHeaders (fun k st hmax hfind hk => ?_) fun hmax hfind hopen => ?_) h
  · have hid := Moves.find_streamId hfind
    rw [← hid] at hfind hmax ⊢
    obtain ⟨hreceives, hcloses, hsend, hcancels, hlists⟩ := hfound k hcan hfind hid
    exact ⟨hreceives, hcloses, hsend, hcancels, fun hheaders => hc.listens hcan hk hheaders hmax hlists⟩
  · exact hopened hcan ⟨frame.streamId, ⟨rfl, hmax, hfind, hopen⟩, rfl⟩

end Connection.Settled

open Moves in
/-- Every event of a settled connection is a sequence of moves. -/
theorem Connection.Settled.moves {e : Event} (hc : c.Settled) (h : c.next e = some c') :
    Moves (c.scope e) c.streams c'.streams := by
  have hturn : ∀ k, (c.scope e).turn k := fun _ => trivial
  have hcloses : ∀ k, (c.scope e).closes k := fun _ => trivial
  have hboth : ∀ k, (c.scope e).turn k ∧ (c.scope e).closes k := fun _ => ⟨trivial, trivial⟩
  have hshaped : c.streams.Each fun _ st => st.Shaped := fun k st hk => (hc.sound k st hk).shaped
  cases e with
  | sendRequest request =>
    refine hc.moves_sendRequest (fun id hopens => ?_) h
    have hnew : c.New (.sendRequest request) (c.streams.freshKey id) := ⟨id, hopens, rfl⟩
    exact ⟨Or.inl hnew, trivial, hnew, hnew⟩
  | sendResponse => exact hc.moves_sendResponse trivial h
  | sendReset k reason =>
    exact keeps_run (refSendReset (hturn k) (hcloses k) _) (Option.ite_none_right_eq_some.mp h).2
  | cloneRef => exact hc.moves_cloneRef rfl h
  | dropRef k =>
    exact keepsAt_run (drop (hturn k) (show (c.scope (.dropRef k)).takes k from rfl)
      (show (c.scope (.dropRef k)).refs k from rfl)
      (show (c.scope (.dropRef k)).cancels k from rfl) hshaped) (Option.ite_none_right_eq_some.mp h).2
  | pollResponse k waker =>
    exact keeps_run (pollResponse (hturn k) _) (Option.ite_none_right_eq_some.mp h).2
  | takePartialResponse k =>
    exact keepsAt_run (takeResponse (hturn k) fun _ _ => Or.inr rfl) (Option.ite_none_right_eq_some.mp h).2
  | accept => exact hc.moves_accept (fun _ _ _ => ⟨⟨trivial, trivial⟩, trivial⟩) h
  | abruptShutdown reason =>
    obtain ⟨g, -, hrun⟩ := next_abruptShutdown h
    have hrest := keeps_run (innerHandleError hboth (by simp [ProtoError.remoteReset, ProtoError.userGoAway])) hrun
    exact hrest
  | gracefulShutdown => exact hc.moves_gracefulShutdown rfl h
  | dropConnection =>
    obtain ⟨a, s', hrun, rfl⟩ := next_dropConnection h
    exact innerRecvEof hcloses (fun _ => trivial) trivial trivial _ _ _ _ hrun
  | recvData frame =>
    obtain ⟨hcan, h⟩ := Option.ite_none_right_eq_some.mp h
    refine keepsAt_recv (innerRecvData fun k hk =>
      ⟨⟨trivial, ⟨find_streamId hk, hcan, Or.inl ?_⟩, trivial, fun heos => ?_⟩, trivial⟩) h
    · rw [find_streamId hk]
      exact hk
    · exact ⟨hcan, (find_streamId hk).symm, heos⟩
  | recvHeaders frame =>
    refine hc.moves_recvHeaders (fun k hcan hfind hid => ?_) (fun hcan hnew => ?_) h
    · exact ⟨⟨trivial, ⟨hid, hcan, Or.inl hfind⟩, trivial, fun heos => ⟨hcan, hid.symm, heos⟩⟩, trivial,
        trivial, hid, Or.inl⟩
    · exact ⟨Or.inl hnew, ⟨trivial, ⟨rfl, hcan, Or.inr hnew⟩, trivial, fun heos => ⟨hcan, rfl, heos⟩⟩, trivial,
        trivial, rfl, hnew, Or.inr hnew, hcan, hnew⟩
  | recvReset frame =>
    obtain ⟨-, h⟩ := Option.ite_none_right_eq_some.mp h
    refine keepsAt_recv (innerRecvReset trivial (fun k _ => hboth k) fun k st hfind hk hq => ?_) h
    by_cases hexact : Exact st
    · exact Or.inl hexact
    · exact Or.inr ⟨k, st, hfind, hk, hq, hexact⟩
  | recvGoAway frame =>
    obtain ⟨res, s', error, result, hrun, rfl⟩ := next_recvGoAway h
    exact innerRecvGoAway hboth _ _ _ _ hrun
  | recvWindowUpdate frame =>
    exact keeps_recv (recvWindowUpdate _ fun k _ => hboth k) (Option.ite_none_right_eq_some.mp h).2
  | recvShutdownPong => exact moves_recvShutdownPong rfl h
  | recvEof =>
    obtain ⟨a, s', hrun, rfl⟩ := next_recvEof h
    exact innerRecvEof hcloses (fun _ => trivial) trivial trivial _ _ _ _ hrun
  | applyRemoteSettings settings =>
    exact keeps_recv (applyRemoteSettings hcloses _) (Option.ite_none_right_eq_some.mp h).2
  | clearExpiredResetStreams =>
    refine keepsAt_run (clearExpiredResetStreams trivial ?_) (Option.ite_none_right_eq_some.mp h).2
    by_cases hclosed : ExpiresClosed c.streams c.streams.now c.streams.recv.resetDuration
    · exact Or.inl hclosed
    · exact Or.inr hclosed
  | pollComplete maxFrameSize =>
    refine keepsAt_run (pollCompleteRound (fun _ => trivial) hcloses _ (fun k tail hidx => ?_) hshaped)
      (Option.ite_none_right_eq_some.mp h).2
    obtain ⟨st, hk, hq⟩ := hc.queued (n := .opening) hidx
    exact ((hc.sound k st hk).opening hq).1
  | fillFrames flushed =>
    exact keepsAt_run (Moves.fillFrames (fun _ => trivial) _ hshaped) (Option.ite_none_right_eq_some.mp h).2
  | handleResult =>
    obtain ⟨result, hresult, h⟩ := Option.bind_eq_some_iff.mp h
    split at h
    · cases h
    · have hrest := Moves.handlePoll2Result (c := { c with result := none }) hboth
        (fun id reason initiator hfind hreset =>
          Or.inr ⟨rfl, id, reason, initiator, hreset ▸ hresult, hfind, rfl⟩) h
      exact hrest
  | cloneStreams | dropStreams | recvError | applyLocalSettings | sendPendingGoAway | sendPendingRefusal
  | pollWindowUpdate | parkTask | goAwayIfIdle | tick => exact moves_beside h trivial

end TwoPlz
