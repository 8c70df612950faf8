import TwoPlz.Streams.Chains
import TwoPlz.Streams.Linking
import TwoPlz.Streams.Shape

/-! Every function of the streams layer is a sequence of the moves below.  A move carries what the
source knows where it makes it, and a `Scope` says to which streams a piece of code may do what, so
that an invariant is proved once for each move. -/

namespace TwoPlz

/-- The streams that may be polled (`turn`), whose messages may be taken before they are finished (`takes`),
that may be closed (`closes`), that may receive (`recv`), start (`lists`) or end (`ends`) a message, that
may queue one (`send`), and that may leave the idle state (`opens`); the new streams, and whether complete
messages may be offered to `next_accept`.  The handles of `refs` come and go, the frames of `pops` are
taken, `cancels` may be reset later on, and `processes` are put on record.  The bound on the ids of the
peer may become one of `limits`.  Resets may expire (`expires`), and the counters of the resets may go
wrong (`leaks`). -/
structure Scope where
  turn : Key → Prop
  takes : Key → Prop
  closes : Key → Prop
  recv : Key → Prop
  lists : Key → Prop
  ends : Key → Prop
  send : Key → Prop
  opens : Key → Prop
  born : Key → Prop
  offers : Prop
  refs : Key → Prop
  pops : Key → Prop
  cancels : Key → Prop
  processes : Key → Prop
  limits : Nat → Prop
  expires : Prop
  leaks : Prop

def NextLe : Option Nat → Option Nat → Prop
  | _, none => True
  | none, some _ => False
  | some a, some b => a ≤ b

theorem NextLe.refl (a : Option Nat) : NextLe a a := by
  cases a <;> simp [NextLe]

variable [HeaderPlz] [StoreCrates]

def Inner.freshKey (s : Inner) (id : Nat) : Key := ⟨StoreCrates.vacantKey s.store.slab, id⟩

theorem Inner.get?_freshKey (s : Inner) (id : Nat) : s.get? (s.freshKey id) = none :=
  s.store.get_vacantKey id

def Counts.tally (c : Counts) : Nat × Nat × Nat × Nat :=
  (c.numSendStreams, c.numRecvStreams, c.numLocalResetStreams, c.numRemoteResetStreams)

/-- A change of the connection that leaves the streams and their queues alone. -/
structure Aside (s s' : Inner) : Prop where
  store : s'.store = s.store
  role : s'.counts.role = s.counts.role
  debug : s'.debugAssertions = s.debugAssertions
  tally : s'.counts.tally = s.counts.tally
  queue : ∀ n, s'.queue n = s.queue n
  spa : s.send.spaTracker = none → s'.send.spaTracker = none
  nextSend : NextLe s.send.nextStreamId s'.send.nextStreamId
  parity : s.counts.role.isServer = false → (∀ n, s.send.nextStreamId = some n → n % 2 = 1) →
    ∀ n, s'.send.nextStreamId = some n → n % 2 = 1
  even : s.counts.role.isServer = false → (∀ n, s.recv.nextStreamId = some n → StreamId.isServerInitiated n = true) →
    ∀ n, s'.recv.nextStreamId = some n → StreamId.isServerInitiated n = true
  nextRecv : NextLe s.recv.nextStreamId s'.recv.nextStreamId
  limit : s'.recv.maxStreamId = s.recv.maxStreamId
  processed : s'.recv.lastProcessedId = s.recv.lastProcessedId

theorem Aside.refl (s : Inner) : Aside s s where
  store := rfl
  role := rfl
  debug := rfl
  tally := rfl
  queue _ := rfl
  spa h := h
  nextSend := .refl _
  parity _ h := h
  even _ h := h
  nextRecv := .refl _
  limit := rfl
  processed := rfl

def Inner.beside (s : Inner) :=
  (s.store, s.counts.role, s.debugAssertions, s.counts.tally, s.queue, s.send.spaTracker,
    s.send.nextStreamId, s.recv.nextStreamId, s.recv.maxStreamId, s.recv.lastProcessedId)

theorem Aside.of_beside {s s' : Inner} (h : s'.beside = s.beside) : Aside s s' := by
  simp only [Inner.beside, Prod.mk.injEq] at h
  obtain ⟨hstore, hrole, hdebug, htally, hqueue, hspa, hsend, hrecv, hlimit, hprocessed⟩ := h
  exact {
    store := hstore
    role := hrole
    debug := hdebug
    tally := htally
    queue := congrFun hqueue
    spa := fun hnone => hspa.trans hnone
    nextSend := hsend ▸ .refl _
    parity := fun _ hodd => hsend ▸ hodd
    even := fun _ hserver => hrecv ▸ hserver
    nextRecv := hrecv ▸ .refl _
    limit := hlimit
    processed := hprocessed }

inductive Kind : Type
  | plain | count | uncount | takeBack
  deriving DecidableEq

/-- What becomes of the stream behind `k` in one move. -/
inductive Turn (K : Scope) (role : Role) (k : Key) : Kind → Stream → Stream → Prop
  | calm {st : Stream} (sendFlow recvFlow : FlowControl) (allocated bufLen : Nat) (limit : Bool)
      (range : st.recvFlow.InRange → recvFlow.InRange) :
      Turn K role k .plain st
        { st with
          sendFlow := sendFlow, recvFlow := recvFlow, connectionWindowAllocated := allocated
          currBufLen := bufLen, isBufLimitReached := limit }
  | measure {st : Stream} (hK : K.recv k) (len : ContentLength) :
      Turn K role k .plain st { st with contentLength := len }
  | count {st : Stream} (uncounted : st.isCounted = false) (unopened : st.isPendingOpen = false) :
      Turn K role k .count st { st with isCounted := true }
  | uncount {st : Stream} (closed : st.isClosed = true) (counted : st.isCounted = true) :
      Turn K role k .uncount st { st with isCounted := false }
  | notify {st : Stream} (hK : K.turn k) : Turn K role k .plain st st.notifyRecv
  | park {st : Stream} (hK : K.turn k) (waker : Waker) (open' : Bool)
      (ended : st.state.isRecvEndStream = false) (live : st.state.ensureRecvOpen = .ok open') :
      Turn K role k .plain st { st with recvTask := some waker }
  | refInc {st : Stream} (hK : K.refs k) (awake : st.state ≠ .idle)
      (own : role.isServer = true → role.isLocalInit k.streamId = false) :
      Turn K role k .plain st { st with refCount := st.refCount + 1 }
  | refDec {st : Stream} (hK : K.refs k) (pos : 0 < st.refCount) :
      Turn K role k .plain st { st with refCount := st.refCount - 1 }
  | drainRecv {st : Stream} (hK : K.turn k)
      (finished : role.isServer = true ∨ st.state.isRecvStreaming = false ∨ K.takes k) :
      Turn K role k .plain st { st with pendingRecv := [] }
  | schedule {st : Stream} (hK : K.cancels k) (reason : Nat) (live : st.state.isClosed = false)
      (unheld : st.refCount = 0 ∨ role.isServer = true)
      (dry : reason ≠ Reason.CANCEL → st.hasData = false)
      (ended : reason ≠ Reason.CANCEL → st.isSendingTrailer = false ∨ st.state.isSendClosed = true) :
      Turn K role k .plain st { st with state := .closed (.scheduledLibraryReset reason) }
  | remoteReset {st : Stream} {kind : Kind} (hK : K.closes k) (frame : Reset)
      (offered : kind = .plain ∧ st.isPendingAccept = false ∨
        kind = .takeBack ∧ st.isPendingAccept = true) :
      Turn K role k kind st { st with state := st.state.recvReset frame st.isPendingSend }
  | fail {st : Stream} (hK : K.closes k) (err : ProtoError)
      (own : ∀ id reason, err ≠ ProtoError.remoteReset id reason) :
      Turn K role k .plain st
        { st with state := st.state.handleError err, pendingSend := [], remainingDataLen := none }
  | eof {st : Stream} (hK : K.closes k) (last : K.pops k) :
      Turn K role k .plain st { st with state := st.state.recvEof }.notifyRecv
  | reset {st : Stream} (hK : K.closes k) (reason : Nat) (initiator : Initiator)
      (own : initiator ≠ .remote)
      (fresh : st.state.isReset = false ∨ st.state.getScheduledReset = some reason)
      (queue : List Frame) (rem : Option Nat)
      (cleared : queue = [] ∨ queue = st.pendingSend ∧ K.pops k)
      (held : queue = [] ∧ rem = none ∨ queue = st.pendingSend ∧ rem = st.remainingDataLen) :
      Turn K role k .plain st
        { st.setReset reason initiator with pendingSend := queue, remainingDataLen := rem }
  | drainSend {st : Stream} (hK : K.closes k) (closed : st.state.isClosed = true) :
      Turn K role k .plain st { st with pendingSend := [], remainingDataLen := none }
  | queueReset {st : Stream} (hK : K.closes k) (frame : Reset) (empty : st.pendingSend = [])
      (reset : st.state.isReset = true) (own : frame.streamId = st.id) :
      Turn K role k .plain st { st with pendingSend := st.pendingSend ++ [.reset frame] }
  | sendOpen {st : Stream} (hK : K.send k) (eos : Bool) (state : State)
      (h : st.state.sendOpen eos = .ok state) (fresh : st.state = .idle → K.opens k) :
      Turn K role k .plain st { st with state := state }
  | queue {st : Stream} (hK : K.send k) (frame : Frame) (rem : Option Nat)
      (sent : st.state.isSent = true) (body : st.isSendingTrailer = false) (last : st.trailers = [])
      (data : frame.isData = true → st.state.isSendStreaming = true ∧ st.hasData = false)
      (held : (∃ body, frame = .data body ∧ rem = some body.data.length) ∨
        frame.isData = false ∧ rem = st.remainingDataLen) (own : frame.streamId = st.id) :
      Turn K role k .plain st
        { st with pendingSend := st.pendingSend ++ [frame], remainingDataLen := rem }
  | take {st : Stream} (hK : K.pops k) (frame : Frame) (rest : List Frame)
      (h : st.pendingSend = frame :: rest) : Turn K role k .plain st { st with pendingSend := rest }
  | putBack {st : Stream} (hK : K.pops k) (frame : Frame) (dry : st.hasData = false)
      (body : st.isSendingTrailer = false) (streams : st.state.Streams) (own : frame.streamId = st.id) :
      Turn K role k .plain st { st with pendingSend := frame :: st.pendingSend }
  | spend {st : Stream} (hK : K.pops k) (rem : Option Nat) (sendFlow : FlowControl) (allocated : Nat) :
      Turn K role k .plain st
        { st with
          remainingDataLen := rem, sendFlow := sendFlow, connectionWindowAllocated := allocated }
  | trailer {st : Stream} (hK : K.pops k) (dry : st.hasData = false)
      (sent : st.state.isUnsent = false) :
      Turn K role k .plain st { st with isSendingTrailer := true }
  | sendClose {st : Stream} (hK : K.pops k) (state : State) (h : st.state.sendClose = some state)
      (dry : st.hasData = false) :
      Turn K role k .plain st { st with state := state }
  | recvOpen {st : Stream} (hK : K.recv k) (frame : Headers) (isInitial : Bool) (state : State)
      (h : st.state.recvOpen frame = .ok (isInitial, state)) (fresh : st.state = .idle → K.opens k)
      (eos : state.isRecvEndStream = true → K.ends k) :
      Turn K role k .plain st { st with state := state }
  | recvClose {st : Stream} (hK : K.ends k) (state : State) (h : st.state.recvClose = .ok state) :
      Turn K role k .plain st { st with state := state }
  | pushRecv {st : Stream} (hK : K.recv k) (event : RecvEvent)
      (started : st.state.isRecvStreaming = true ∨ st.state.isRecvEndStream = true) :
      Turn K role k .plain st { st with pendingRecv := st.pendingRecv ++ [event] }

def Counts.countOf (c : Counts) (isLocal : Bool) : Counts :=
  if isLocal then { c with numSendStreams := c.numSendStreams + 1 }
  else { c with numRecvStreams := c.numRecvStreams + 1 }

def Counts.uncountOf (c : Counts) (isLocal : Bool) : Counts :=
  if isLocal then { c with numSendStreams := c.numSendStreams - 1 }
  else { c with numRecvStreams := c.numRecvStreams - 1 }

def Counts.numOf (c : Counts) (isLocal : Bool) : Nat :=
  if isLocal then c.numSendStreams else c.numRecvStreams

/-- The counters after a turn; `exact` is when the counter of the streams that the peer took back
stays right. -/
inductive Tally (K : Scope) (s : Inner) (k : Key) (st : Stream) : Kind → Counts → Prop
  | plain : Tally K s k st .plain s.counts
  | count (isLocal : Bool) (own : s.counts.role.isLocalInit k.streamId = isLocal)
      (processed : isLocal = false → k.streamId ≤ s.recv.lastProcessedId) :
      Tally K s k st .count (s.counts.countOf isLocal)
  | uncount (pos : 0 < s.counts.numOf (s.counts.role.isLocalInit k.streamId)) :
      Tally K s k st .uncount (s.counts.uncountOf (s.counts.role.isLocalInit k.streamId))
  | takeBack (exact : (st.state.isRemoteReset = false ∧
        (st.state.isClosed = false ∨ st.isPendingSend = true)) ∨ K.leaks) :
      Tally K s k st .takeBack
        { s.counts with numRemoteResetStreams := s.counts.numRemoteResetStreams + 1 }

def Stream.Schedulable (st : Stream) : Prop :=
  st.pendingSend ≠ [] ∨ st.state.isClosed = true ∨ st.remainingDataLen.isSome = true

inductive PushTally (s : Inner) (k : Key) (st : Stream) : Next → Counts → Prop
  | send (ready : st.Schedulable) : PushTally s k st .send s.counts
  | capacity : PushTally s k st .sendCapacity s.counts
  | opening (own : s.counts.role.isLocalInit k.streamId = true) (uncounted : st.isCounted = false) :
      PushTally s k st .opening s.counts
  | expire (own : st.state.isLocalError = true) :
      PushTally s k st .resetExpire
        { s.counts with numLocalResetStreams := s.counts.numLocalResetStreams + 1 }

inductive PopTally (K : Scope) (s : Inner) (st : Stream) : Next → Counts → Prop
  | other {n : Next} (h : n ≠ .accept ∧ n ≠ .resetExpire) : PopTally K s st n s.counts
  | expired (hK : K.expires) (closed : st.isClosed = true) (pos : 0 < s.counts.numLocalResetStreams) :
      PopTally K s st .resetExpire
        { s.counts with numLocalResetStreams := s.counts.numLocalResetStreams - 1 }
  | lapsed (hK : K.expires) (leak : K.leaks) : PopTally K s st .resetExpire s.counts
  | accept (live : st.state.isRemoteReset = false ∨ K.leaks) : PopTally K s st .accept s.counts
  | acceptReset (reset : st.state.isRemoteReset = true) (pos : 0 < s.counts.numRemoteResetStreams) :
      PopTally K s st .accept
        { s.counts with numRemoteResetStreams := s.counts.numRemoteResetStreams - 1 }

inductive Move (K : Scope) : Inner → Inner → Prop
  | aside {s s' : Inner} (h : Aside s s') : Move K s s'
  | limit {s : Inner} (id : Nat) (hK : K.limits id) (below : id ≤ s.recv.maxStreamId)
      (floor : s.recv.maxStreamId ≤ id ∨ s.recv.lastProcessedId ≤ id) :
      Move K s { s with recv.maxStreamId := id }
  | process {s : Inner} {k : Key} (hK : K.processes k) (below : k.streamId ≤ s.recv.maxStreamId) :
      Move K s { s with recv.lastProcessedId := max s.recv.lastProcessedId k.streamId }
  | turn {s : Inner} {k : Key} {st st' : Stream} {kind : Kind} {counts : Counts}
      (hk : s.get? k = some st) (h : Turn K s.counts.role k kind st st')
      (tally : Tally K s k st kind counts) : Move K s { s.put k st' with counts := counts }
  | push {s s' : Inner} {n : Next} {k : Key} {st : Stream} {counts : Counts}
      (h : M.push n k s = some (true, s')) (hk : s.get? k = some st)
      (hK : n = .opening → K.opens k ∧ K.refs k) (tally : PushTally s k st n counts) : Move K s
        { s' with counts := counts }
  | pushFront {s s' : Inner} {k : Key} (hK : K.pops k) (h : M.pushFront .send k s = some (true, s')) :
      Move K s s'
  | pop {s s' : Inner} {n : Next} {k : Key} {st : Stream} {counts : Counts}
      (h : M.pop n s = some (some k, s')) (hk : s.get? k = some st) (hK : n = .send → K.pops k)
      (tally : PopTally K s st n counts) : Move K s { s' with counts := counts }
  | enlist {s s' : Inner} {k : Key} {st : Stream} (hK : K.lists k) (hk : s.get? k = some st)
      (started : st.state.isRecvStreaming = true ∨ st.state.isRecvEndStream = true)
      (unoffered : st.isPendingAccept = false) (below : k.streamId ≤ s.recv.maxStreamId)
      (processed : s.counts.role.isServer = true → k.streamId ≤ s.recv.lastProcessedId)
      (h : M.push .complete k s = some (true, s')) : Move K s s'
  | offer {s s₁ s' : Inner} {k : Key} {st : Stream} (hK : K.offers) (hk : s.get? k = some st)
      (complete : st.state.isRecvEndStream = true) (hpop : M.pop .complete s = some (some k, s₁))
      (hpush : M.push .accept k s₁ = some (true, s')) : Move K s s'
  | insert {s : Inner} (id initSend initRecv : Nat) (len : ContentLength.Undeclared)
      (hK : K.born (s.freshKey id))
      (unlinked : s.store.find id = none) (known : s.Known id) :
      Move K s
        { s with
          store := (s.store.insert id
            { Stream.new id initSend initRecv with contentLength := len }).2 }
  | unlink {s : Inner} {k : Key} {st : Stream} (hk : s.get? k = some st) (closed : st.isClosed = true)
      (unqueued : st.resetAt = none)
      (uncounted : st.isCounted = true → st.state.isScheduledReset = true) :
      Move K s { s with store := s.store.unlink k }
  | remove {s : Inner} {k : Key} {st : Stream} (hk : s.get? k = some st)
      (released : st.isReleased = true)
      (uncounted : st.isCounted = true → st.state.isScheduledReset = true) :
      Move K s { s with store := (s.store.unlink k).vacate k }
  | discard {s : Inner} {k : Key} {st : Stream} (hK : K.opens k) (hk : s.get? k = some st)
      (idle : st.state = .idle) (unqueued : ∀ n, st.isQueued n = false) (unheld : st.refCount = 0)
      (uncounted : st.isCounted = false) :
      Move K s { s with store := (s.store.unlink k).vacate k }

inductive Moves (K : Scope) : Inner → Inner → Prop
  | refl (s : Inner) : Moves K s s
  | step {s s₁ s₂ : Inner} (h : Move K s s₁) (rest : Moves K s₁ s₂) : Moves K s s₂

namespace Moves

variable {K : Scope} {s s₁ s₂ : Inner}

theorem single (h : Move K s s₁) : Moves K s s₁ := .step h (.refl _)

theorem trans (h : Moves K s s₁) (h' : Moves K s₁ s₂) : Moves K s s₂ := by
  induction h with
  | refl s => exact h'
  | step hmove _ ih => exact .step hmove (ih h')

/-- What every move preserves is preserved by any number of them. -/
theorem invariant {P : Inner → Prop} (hmove : ∀ s s', Move K s s' → P s → P s')
    (h : Moves K s s₁) (hs : P s) : P s₁ := by
  induction h with
  | refl s => exact hs
  | step hstep _ ih => exact ih (hmove _ _ hstep hs)

end Moves

def Stream.unqueued (st : Stream) : Stream :=
  { st with
    isPendingSend := false, isPendingSendCapacity := false, isPendingOpen := false
    isPendingAccept := false, isPendingComplete := false, resetAt := none
    links := ⟨none, none, none, none, none, none⟩ }

/-! What holds of each stream. -/

def Inner.Each (s : Inner) (P : Key → Stream → Prop) : Prop := ∀ k st, s.get? k = some st → P k st

structure Steady (K : Scope) (role : Role) (P : Key → Stream → Prop) : Prop where
  turn : ∀ k kind st st', Turn K role k kind st st' → P k st → P k st'
  flag : ∀ k st n now val, P k st → P k (st.setQueued n now val)
  link : ∀ k st n key, P k st → P k (st.setNext n key)

structure Stable (K : Scope) (role : Role) (P : Key → Stream → Prop) : Prop extends Steady K role P where
  born : ∀ k initSend initRecv (len : ContentLength.Undeclared), K.born k →
    P k { Stream.new k.streamId initSend initRecv with contentLength := len }

section

variable {K : Scope} {s s' : Inner} {k : Key} {st st' : Stream} {P : Key → Stream → Prop}

omit [StoreCrates] in
theorem Turn.id {role : Role} {kind : Kind} (h : Turn K role k kind st st') : st'.id = st.id := by
  cases h <;> rfl

theorem Inner.Each.put (hs : s.Each P) (hk : s.get? k = some st) (hid : st'.id = st.id) (hP : P k st') :
    (s.put k st').Each P := by
  intro j stj hj
  by_cases hjk : j = k
  · subst hjk
    rw [Inner.get?_put hk _ hid] at hj
    cases hj
    exact hP
  · rw [Inner.get?_put_ne hk hid hjk] at hj
    exact hs j stj hj

theorem Inner.Each.flagged {role : Role} {n : Next} {val : Bool} (hP : Steady K role P)
    (hs : s.Each P) (h : Flagged n k val s s') : s'.Each P := by
  intro j stj hj
  obtain ⟨st, key, hst, rfl⟩ := h.get_inv hj
  have hold := hs j st hst
  split
  · exact hP.link _ _ _ _ (hP.flag _ _ _ _ _ hold)
  · exact hP.link _ _ _ _ hold

theorem Inner.Each.push {role : Role} {n : Next} {b : Bool} (hP : Steady K role P) (hs : s.Each P)
    (h : M.push n k s = some (b, s')) : s'.Each P := by
  obtain ⟨_, _, ⟨-, -, rfl⟩ | ⟨-, -, hf⟩⟩ := M.push_some h
  · exact hs
  · exact hs.flagged hP hf

theorem Inner.Each.pop {role : Role} {n : Next} {o : Option Key} (hP : Steady K role P) (hs : s.Each P)
    (h : M.pop n s = some (o, s')) : s'.Each P := by
  rcases M.pop_some h with ⟨-, -, rfl⟩ | ⟨_, _, _, -, -, -, hf⟩
  · exact hs
  · exact hs.flagged hP hf

theorem Move.each_of (hP : Steady K s.counts.role P)
    (hborn : ∀ id initSend initRecv (len : ContentLength.Undeclared), K.born (s.freshKey id) →
      P (s.freshKey id) { Stream.new id initSend initRecv with contentLength := len })
    (h : Move K s s') (hs : s.Each P) : s'.Each P := by
  cases h with
  | aside h =>
    intro j stj hj
    exact hs j stj (by simpa only [Inner.get?, h.store] using hj)
  | limit => exact hs
  | process => exact hs
  | turn hk h => exact hs.put hk h.id (hP.turn _ _ _ _ h (hs _ _ hk))
  | push h =>
    have hpushed := hs.push hP h
    exact hpushed
  | pushFront _ h =>
    obtain ⟨_, _, ⟨-, -, rfl⟩ | ⟨-, -, hf⟩⟩ := M.pushFront_some h
    · exact hs
    · exact hs.flagged hP hf
  | pop h =>
    have hpopped := hs.pop hP h
    exact hpopped
  | enlist _ _ _ _ _ _ h => exact hs.push hP h
  | offer _ _ _ hpop hpush => exact (hs.pop hP hpop).push hP hpush
  | insert id initSend initRecv len hK =>
    intro j stj hj
    obtain ⟨rfl, rfl⟩ | hold := Inner.get?_insert rfl rfl hj
    · exact hborn _ _ _ _ hK
    · exact hs j stj hold
  | unlink => exact hs
  | remove hk => exact fun j stj hj => hs j stj (Inner.get?_vacate hk rfl hj)
  | discard _ hk => exact fun j stj hj => hs j stj (Inner.get?_vacate hk rfl hj)

theorem Move.each (hP : Stable K s.counts.role P) (h : Move K s s') (hs : s.Each P) : s'.Each P :=
  h.each_of hP.toSteady (fun _ _ _ _ hK => hP.born _ _ _ _ hK) hs

/-- Where the stream that is at `k` after a move comes from. -/
inductive Fate (K : Scope) (s : Inner) (k : Key) (st' : Stream) : Prop
  | moved {st : Stream} (hk : s.get? k = some st) (same : st'.unqueued = st.unqueued)
  | turned {st : Stream} {kind : Kind} {counts : Counts} (hk : s.get? k = some st)
      (h : Turn K s.counts.role k kind st st') (tally : Tally K s k st kind counts)
  | born (initSend initRecv : Nat) (len : ContentLength.Undeclared) (hK : K.born k)
      (known : s.Known k.streamId)
      (fresh : st' = { Stream.new k.streamId initSend initRecv with contentLength := len })

theorem Fate.kept (hk : s.get? k = some st) : Fate K s k st := .moved hk rfl

omit [StoreCrates] in
theorem Stream.unqueued_setNext (st : Stream) (n : Next) (key : Option Key) :
    (st.setNext n key).unqueued = st.unqueued := by
  cases n <;> rfl

omit [StoreCrates] in
theorem Stream.unqueued_setQueued (st : Stream) (n : Next) (now : Instant) (val : Bool) :
    (st.setQueued n now val).unqueued = st.unqueued := by
  cases n <;> rfl

theorem Flagged.unqueued {n : Next} {val : Bool} {j : Key} {stj : Stream} (h : Flagged n k val s s')
    (hj : s'.get? j = some stj) : ∃ st, s.get? j = some st ∧ stj.unqueued = st.unqueued := by
  obtain ⟨st, key, hst, rfl⟩ := h.get_inv hj
  refine ⟨st, hst, ?_⟩
  rw [Stream.unqueued_setNext]
  split
  · exact Stream.unqueued_setQueued _ _ _ _
  · rfl

theorem M.push_unqueued {n : Next} {b : Bool} {j : Key} {stj : Stream} (h : M.push n k s = some (b, s'))
    (hj : s'.get? j = some stj) : ∃ st, s.get? j = some st ∧ stj.unqueued = st.unqueued := by
  obtain ⟨_, _, ⟨-, -, rfl⟩ | ⟨-, -, hf⟩⟩ := M.push_some h
  · exact ⟨stj, hj, rfl⟩
  · exact hf.unqueued hj

theorem M.pop_unqueued {n : Next} {o : Option Key} {j : Key} {stj : Stream} (h : M.pop n s = some (o, s'))
    (hj : s'.get? j = some stj) : ∃ st, s.get? j = some st ∧ stj.unqueued = st.unqueued := by
  rcases M.pop_some h with ⟨-, -, rfl⟩ | ⟨_, _, _, -, -, -, hf⟩
  · exact ⟨stj, hj, rfl⟩
  · exact hf.unqueued hj

theorem Move.fate {j : Key} {stj : Stream} (h : Move K s s') (hj : s'.get? j = some stj) :
    Fate K s j stj := by
  cases h with
  | aside h => exact .kept (by simpa only [Inner.get?, h.store] using hj)
  | limit => exact .kept hj
  | process => exact .kept hj
  | @turn k st st' kind counts hk h tally =>
    by_cases hjk : j = k
    · subst hjk
      have hself := Inner.get?_put hk st' h.id
      cases hself.symm.trans hj
      exact .turned hk h tally
    · have hother := Inner.get?_put_ne hk h.id hjk
      exact .kept (hother.symm.trans hj)
  | push h =>
    obtain ⟨st, hst, hsame⟩ := M.push_unqueued h hj
    exact .moved hst hsame
  | pushFront _ h =>
    obtain ⟨_, _, ⟨-, -, rfl⟩ | ⟨-, -, hf⟩⟩ := M.pushFront_some h
    · exact .kept hj
    · obtain ⟨st, hst, hsame⟩ := hf.unqueued hj
      exact .moved hst hsame
  | pop h =>
    obtain ⟨st, hst, hsame⟩ := M.pop_unqueued h hj
    exact .moved hst hsame
  | enlist _ _ _ _ _ _ h =>
    obtain ⟨st, hst, hsame⟩ := M.push_unqueued h hj
    exact .moved hst hsame
  | offer _ _ _ hpop hpush =>
    obtain ⟨st₁, hst₁, hsame₁⟩ := M.push_unqueued hpush hj
    obtain ⟨st, hst, hsame⟩ := M.pop_unqueued hpop hst₁
    exact .moved hst (hsame₁.trans hsame)
  | insert id initSend initRecv len hborn unlinked known =>
    obtain ⟨rfl, rfl⟩ | hold := Inner.get?_insert rfl rfl hj
    · exact .born initSend initRecv len hborn known rfl
    · exact .kept hold
  | unlink => exact .kept hj
  | remove hk => exact .kept (Inner.get?_vacate hk rfl hj)
  | discard _ hk => exact .kept (Inner.get?_vacate hk rfl hj)

theorem Move.keep {Q : State → Prop} (h : Move K s s')
    (hturn : ∀ role kind st st', Turn K role k kind st st' → Q st.state → Q st'.state)
    (hk : s.get? k = some st) (hQ : Q st.state) : ∀ st', s'.get? k = some st' → Q st'.state := by
  have hsteady : Steady K s.counts.role fun j st => j = k → Q st.state :=
    { turn := fun j kind st st' h hst hj => by subst hj; exact hturn _ _ _ _ h (hst rfl)
      flag := fun j st n now val hst => by cases n <;> exact hst
      link := fun j st n key hst => by cases n <;> exact hst }
  refine fun st' hk' => h.each_of hsteady (fun id _ _ _ _ hfresh => ?_) (fun j stj hj hjk => ?_) k st' hk' rfl
  · rw [← hfresh, Inner.get?_freshKey] at hk
    cases hk
  · subst hjk
    cases hk.symm.trans hj
    exact hQ

end

theorem Tally.role {K : Scope} {s : Inner} {k : Key} {st : Stream} {kind : Kind} {counts : Counts}
    (h : Tally K s k st kind counts) : counts.role = s.counts.role := by
  cases h with
  | count isLocal => cases isLocal <;> rfl
  | uncount => cases s.counts.role.isLocalInit k.streamId <;> rfl
  | _ => rfl

theorem PushTally.role {s : Inner} {k : Key} {st : Stream} {n : Next} {counts : Counts}
    (h : PushTally s k st n counts) : counts.role = s.counts.role := by
  cases h <;> rfl

theorem PopTally.role {K : Scope} {s : Inner} {st : Stream} {n : Next} {counts : Counts}
    (h : PopTally K s st n counts) : counts.role = s.counts.role := by
  cases h <;> rfl

theorem Flagged.role {n : Next} {k : Key} {val : Bool} {s s' : Inner} (h : Flagged n k val s s') :
    s'.counts.role = s.counts.role := by
  rw [h.conn]
  cases n <;> rfl

theorem M.push_role {n : Next} {k : Key} {b : Bool} {s s' : Inner} (h : M.push n k s = some (b, s')) :
    s'.counts.role = s.counts.role := by
  obtain ⟨_, _, ⟨-, -, rfl⟩ | ⟨-, -, hf⟩⟩ := M.push_some h
  · rfl
  · exact hf.role

theorem M.pop_role {n : Next} {o : Option Key} {s s' : Inner} (h : M.pop n s = some (o, s')) :
    s'.counts.role = s.counts.role := by
  rcases M.pop_some h with ⟨-, -, rfl⟩ | ⟨_, _, _, -, -, -, hf⟩
  · rfl
  · exact hf.role

theorem Move.role {K : Scope} {s s' : Inner} (h : Move K s s') :
    s'.counts.role = s.counts.role := by
  cases h with
  | aside h => exact h.role
  | turn _ _ tally => exact tally.role
  | push _ _ _ tally => exact tally.role
  | pushFront _ h =>
    obtain ⟨_, _, ⟨-, -, rfl⟩ | ⟨-, -, hf⟩⟩ := M.pushFront_some h
    · rfl
    · exact hf.role
  | pop h _ _ tally => exact tally.role
  | enlist _ _ _ _ _ _ h => exact M.push_role h
  | offer _ _ _ hpop hpush => exact (M.push_role hpush).trans (M.pop_role hpop)
  | _ => rfl

theorem Moves.role {K : Scope} {s s' : Inner} (h : Moves K s s') :
    s'.counts.role = s.counts.role := by
  induction h with
  | refl s => rfl
  | step hmove _ ih => exact ih.trans hmove.role

theorem Moves.each {K : Scope} {s s' : Inner} {P : Key → Stream → Prop} (h : Moves K s s')
    (hP : Stable K s.counts.role P) (hs : s.Each P) : s'.Each P := by
  induction h with
  | refl s => exact hs
  | step hmove _ ih => exact ih (hmove.role ▸ hP) (hmove.each hP hs)

omit [StoreCrates] in
theorem Turn.closed {K : Scope} {role : Role} {k : Key} {kind : Kind} {st st' : Stream}
    (h : Turn K role k kind st st')
    (hclosed : st.state.isClosed = true) : st'.state.isClosed = true := by
  obtain ⟨cause, hstate⟩ := State.isClosed_cases hclosed
  cases h with
  | remoteReset => exact State.isClosed_recvReset _ _ _
  | fail => exact State.isClosed_handleError _ _
  | eof => exact State.isClosed_recvEof _
  | schedule => rfl
  | reset => rfl
  | sendOpen _ _ _ h => rw [hstate] at h; cases h
  | sendClose _ _ h => rw [hstate] at h; cases h
  | recvOpen _ _ _ _ h _ => rw [hstate] at h; cases h
  | recvClose _ _ h => rw [hstate] at h; cases h
  | _ => exact hclosed

def Scope.unborn : Scope where
  turn _ := True
  takes _ := True
  closes _ := True
  recv _ := True
  lists _ := True
  ends _ := True
  send _ := True
  opens _ := True
  born _ := False
  offers := True
  refs _ := True
  pops _ := True
  cancels _ := True
  processes _ := True
  limits _ := True
  expires := True
  leaks := True

def Scope.none : Scope where
  turn _ := False
  takes _ := False
  closes _ := False
  recv _ := False
  lists _ := False
  ends _ := False
  send _ := False
  opens _ := False
  born _ := False
  offers := False
  refs _ := False
  pops _ := False
  cancels _ := False
  processes _ := False
  limits _ := False
  expires := False
  leaks := False

def Scope.lasting (K : Scope) : Scope := { K with expires := False, born := fun _ => False }

theorem Moves.keep {K : Scope} {s s' : Inner} {k : Key} {P : State → Prop} (h : Moves K s s')
    (hborn : ¬K.born k) (hturn : ∀ role kind st st', Turn K role k kind st st' → P st.state → P st'.state)
    (hs : ∀ st, s.get? k = some st → P st.state) : ∀ st, s'.get? k = some st → P st.state := by
  have hstable : Stable K s.counts.role fun j st => j = k → P st.state :=
    { turn := fun j kind st st' h hst hj => by subst hj; exact hturn _ _ _ _ h (hst rfl)
      flag := fun j st n now val hst => by cases n <;> exact hst
      link := fun j st n key hst => by cases n <;> exact hst
      born := fun j _ _ _ hj hjk => absurd (hjk ▸ hj) hborn }
  refine fun st hk => h.each hstable (fun j stj hj hjk => ?_) k st hk rfl
  subst hjk
  exact hs stj hj

theorem Moves.kept {s s' : Inner} {k : Key} {P : State → Prop} (h : Moves .unborn s s')
    (hturn : ∀ role kind st st', Turn .unborn role k kind st st' → P st.state → P st'.state)
    (hs : ∀ st, s.get? k = some st → P st.state) : ∀ st, s'.get? k = some st → P st.state :=
  h.keep (fun hno => hno) hturn hs

theorem Moves.closed {s s' : Inner} {k : Key} {st st' : Stream} (h : Moves .unborn s s')
    (hk : s.get? k = some st) (hclosed : st.state.isClosed = true) (hk' : s'.get? k = some st') :
    st'.state.isClosed = true :=
  h.kept (P := fun state => state.isClosed = true) (fun _ _ _ _ => Turn.closed)
    (fun _ hst => by cases hk.symm.trans hst; exact hclosed) st' hk'

section

omit [HeaderPlz] [StoreCrates]

theorem State.isReset_recvReset {state : State} (h : state.isReset = true) (frame : Reset) (queued : Bool) :
    (state.recvReset frame queued).isReset = true := by
  unfold State.recvReset
  split
  · exact h
  · rfl

theorem State.isReset_handleError {state : State} (h : state.isReset = true) (err : ProtoError) :
    (state.handleError err).isReset = true := by
  cases state <;> first | exact h | cases h

theorem State.isReset_recvEof {state : State} (h : state.isReset = true) :
    state.recvEof.isReset = true := by
  cases state <;> first | exact h | cases h

theorem State.isClosed_of_isReset {state : State} (h : state.isReset = true) : state.isClosed = true := by
  cases state <;> first | rfl | cases h

end

omit [StoreCrates] in
theorem Turn.reset_kept {K : Scope} {role : Role} {k : Key} {kind : Kind} {st st' : Stream}
    (h : Turn K role k kind st st')
    (hreset : st.state.isReset = true) : st'.state.isReset = true := by
  obtain ⟨cause, hstate⟩ := State.isClosed_cases (State.isClosed_of_isReset hreset)
  cases h with
  | remoteReset => exact State.isReset_recvReset hreset _ _
  | fail _ err => exact State.isReset_handleError hreset err
  | eof => exact State.isReset_recvEof hreset
  | schedule => rfl
  | reset => rfl
  | sendOpen _ _ _ h => rw [hstate] at h; cases h
  | sendClose _ _ h => rw [hstate] at h; cases h
  | recvOpen _ _ _ _ h _ => rw [hstate] at h; cases h
  | recvClose _ _ h => rw [hstate] at h; cases h
  | _ => exact hreset

theorem Moves.reset {s s' : Inner} {k : Key} (h : Moves .unborn s s')
    (hs : ∀ st, s.get? k = some st → st.state.isReset = true) :
    ∀ st, s'.get? k = some st → st.state.isReset = true :=
  h.kept (P := fun state => state.isReset = true) (fun _ _ _ _ => Turn.reset_kept) hs

omit [HeaderPlz] [StoreCrates] in
theorem not_idle_sendOpen {state state' : State} {eos : Bool} (h : state.sendOpen eos = .ok state') :
    state' ≠ .idle := by
  unfold State.sendOpen at h
  split at h <;> cases h <;> split <;> simp

omit [StoreCrates] in
theorem not_idle_recvOpen {state state' : State} {frame : Headers} {isInitial : Bool}
    (h : state.recvOpen frame = .ok (isInitial, state')) : state' ≠ .idle := by
  unfold State.recvOpen at h
  split at h <;> cases h <;> repeat' split
  all_goals simp

omit [StoreCrates] in
theorem Turn.awake {K : Scope} {role : Role} {k : Key} {kind : Kind} {st st' : Stream}
    (h : Turn K role k kind st st')
    (hawake : st.state ≠ .idle) : st'.state ≠ .idle := by
  cases h with
  | remoteReset _ frame =>
    intro hidle
    have hclosed := State.isClosed_recvReset st.state frame st.isPendingSend
    rw [show st.state.recvReset frame st.isPendingSend = .idle from hidle] at hclosed
    cases hclosed
  | fail _ err =>
    intro hidle
    have hclosed := State.isClosed_handleError st.state err
    rw [show st.state.handleError err = .idle from hidle] at hclosed
    cases hclosed
  | eof =>
    intro hidle
    have hclosed := State.isClosed_recvEof st.state
    rw [show st.state.recvEof = .idle from hidle] at hclosed
    cases hclosed
  | schedule => simp
  | reset => simp [Stream.setReset, Stream.notifyRecv, State.setReset]
  | sendOpen _ _ _ h => exact not_idle_sendOpen h
  | sendClose _ _ h =>
    rintro rfl
    unfold State.sendClose at h
    split at h <;> cases h
  | recvOpen _ _ _ _ h => exact not_idle_recvOpen h
  | recvClose _ _ h =>
    rintro rfl
    unfold State.recvClose at h
    split at h <;> cases h
  | _ => exact hawake

theorem Moves.awake {s s' : Inner} {k : Key} (h : Moves .unborn s s')
    (hs : ∀ st, s.get? k = some st → st.state ≠ .idle) : ∀ st, s'.get? k = some st → st.state ≠ .idle :=
  h.kept (P := fun state => state ≠ .idle) (fun _ _ _ _ => Turn.awake) hs

/-! Scopes. -/

structure Scope.Le (K K' : Scope) : Prop where
  turn : ∀ k, K.turn k → K'.turn k
  takes : ∀ k, K.takes k → K'.takes k
  closes : ∀ k, K.closes k → K'.closes k
  recv : ∀ k, K.recv k → K'.recv k
  lists : ∀ k, K.lists k → K'.lists k
  ends : ∀ k, K.ends k → K'.ends k
  send : ∀ k, K.send k → K'.send k
  opens : ∀ k, K.opens k → K'.opens k
  born : ∀ k, K.born k → K'.born k
  offers : K.offers → K'.offers
  refs : ∀ k, K.refs k → K'.refs k
  pops : ∀ k, K.pops k → K'.pops k
  cancels : ∀ k, K.cancels k → K'.cancels k
  processes : ∀ k, K.processes k → K'.processes k
  limits : ∀ id, K.limits id → K'.limits id
  expires : K.expires → K'.expires
  leaks : K.leaks → K'.leaks

omit [HeaderPlz] [StoreCrates] in
theorem Scope.Le.refl (K : Scope) : K.Le K where
  turn _ h := h
  takes _ h := h
  closes _ h := h
  recv _ h := h
  lists _ h := h
  ends _ h := h
  send _ h := h
  opens _ h := h
  born _ h := h
  offers h := h
  refs _ h := h
  pops _ h := h
  cancels _ h := h
  processes _ h := h
  limits _ h := h
  expires h := h
  leaks h := h

omit [HeaderPlz] [StoreCrates] in
theorem Scope.lasting_le (K : Scope) : K.lasting.Le K :=
  { Scope.Le.refl K with born := fun _ => False.elim, expires := False.elim }

section

variable {K K' : Scope} {s s' : Inner} {k : Key} {st st' : Stream}

omit [StoreCrates] in
theorem Turn.mono {role : Role} {kind : Kind} (h : Turn K role k kind st st') (hle : K.Le K') :
    Turn K' role k kind st st' := by
  cases h with
  | calm _ _ _ _ _ range => exact .calm _ _ _ _ _ range
  | measure hK => exact .measure (hle.recv k hK) _
  | count uncounted unopened => exact .count uncounted unopened
  | uncount closed counted => exact .uncount closed counted
  | notify hK => exact .notify (hle.turn k hK)
  | park hK waker open' ended live => exact .park (hle.turn k hK) waker open' ended live
  | refInc hK awake own => exact .refInc (hle.refs k hK) awake own
  | refDec hK pos => exact .refDec (hle.refs k hK) pos
  | drainRecv hK finished => exact .drainRecv (hle.turn k hK) (finished.imp_right (·.imp_right (hle.takes k)))
  | schedule hK reason live unheld dry ended =>
    exact .schedule (hle.cancels k hK) reason live unheld dry ended
  | remoteReset hK frame offered => exact .remoteReset (hle.closes k hK) frame offered
  | fail hK err own => exact .fail (hle.closes k hK) err own
  | eof hK last => exact .eof (hle.closes k hK) (hle.pops k last)
  | reset hK reason initiator own fresh queue rem cleared held =>
    exact .reset (hle.closes k hK) reason initiator own fresh queue rem
      (cleared.imp_right fun hkept => ⟨hkept.1, hle.pops k hkept.2⟩) held
  | drainSend hK closed => exact .drainSend (hle.closes k hK) closed
  | queueReset hK frame empty reset own => exact .queueReset (hle.closes k hK) frame empty reset own
  | sendOpen hK eos state h fresh =>
    exact .sendOpen (hle.send k hK) eos state h fun hidle => hle.opens k (fresh hidle)
  | queue hK frame rem sent body last data held own =>
    exact .queue (hle.send k hK) frame rem sent body last data held own
  | take hK frame rest h => exact .take (hle.pops k hK) frame rest h
  | putBack hK frame dry body streams own => exact .putBack (hle.pops k hK) frame dry body streams own
  | spend hK => exact .spend (hle.pops k hK) _ _ _
  | trailer hK dry sent => exact .trailer (hle.pops k hK) dry sent
  | sendClose hK state h dry => exact .sendClose (hle.pops k hK) state h dry
  | recvOpen hK frame isInitial state h fresh eos =>
    exact .recvOpen (hle.recv k hK) frame isInitial state h (fun hidle => hle.opens k (fresh hidle))
      fun hend => hle.ends k (eos hend)
  | recvClose hK state h => exact .recvClose (hle.ends k hK) state h
  | pushRecv hK event started => exact .pushRecv (hle.recv k hK) event started

theorem Tally.mono {kind : Kind} {counts : Counts} (h : Tally K s k st kind counts) (hle : K.Le K') :
    Tally K' s k st kind counts := by
  cases h with
  | plain => exact .plain
  | count isLocal own processed => exact .count isLocal own processed
  | uncount pos => exact .uncount pos
  | takeBack exact' => exact .takeBack (exact'.imp_right hle.leaks)

theorem PopTally.mono {n : Next} {counts : Counts} (h : PopTally K s st n counts) (hle : K.Le K') :
    PopTally K' s st n counts := by
  cases h with
  | other h => exact .other h
  | expired hK closed pos => exact .expired (hle.expires hK) closed pos
  | lapsed hK leak => exact .lapsed (hle.expires hK) (hle.leaks leak)
  | accept live => exact .accept (live.imp_right hle.leaks)
  | acceptReset reset pos => exact .acceptReset reset pos

theorem Move.mono (h : Move K s s') (hle : K.Le K') : Move K' s s' := by
  cases h with
  | aside h => exact .aside h
  | limit id hK below floor => exact .limit id (hle.limits id hK) below floor
  | process hK below => exact .process (hle.processes _ hK) below
  | turn hk h tally => exact .turn hk (h.mono hle) (tally.mono hle)
  | push h hk hK tally => exact .push h hk (fun hn => ⟨hle.opens _ (hK hn).1, hle.refs _ (hK hn).2⟩) tally
  | pushFront hK h => exact .pushFront (hle.pops _ hK) h
  | pop h hk hK tally => exact .pop h hk (fun hn => hle.pops _ (hK hn)) (tally.mono hle)
  | enlist hK hk started unoffered below processed h =>
    exact .enlist (hle.lists _ hK) hk started unoffered below processed h
  | offer hK hk complete hpop hpush => exact .offer (hle.offers hK) hk complete hpop hpush
  | insert id initSend initRecv len hK unlinked known =>
    exact .insert id initSend initRecv len (hle.born _ hK) unlinked known
  | unlink hk closed unqueued uncounted => exact .unlink hk closed unqueued uncounted
  | remove hk released uncounted => exact .remove hk released uncounted
  | discard hK hk idle unqueued unheld uncounted =>
    exact .discard (hle.opens _ hK) hk idle unqueued unheld uncounted

theorem Moves.mono (h : Moves K s s') (hle : K.Le K') : Moves K' s s' := by
  induction h with
  | refl s => exact .refl s
  | step hmove _ ih => exact .step (hmove.mono hle) ih

theorem Moves.of_lasting (h : Moves K.lasting s s') : Moves K s s' := h.mono K.lasting_le

end

/-! Streams that wait to be forgotten. -/

def Inner.Lingers (s : Inner) (k : Key) : Prop := ∀ st, s.get? k = some st → st.resetAt.isSome = true

omit [StoreCrates] in
theorem Turn.resetAt {K : Scope} {role : Role} {k : Key} {kind : Kind} {st st' : Stream}
    (h : Turn K role k kind st st') : st'.resetAt = st.resetAt := by
  cases h <;> rfl

theorem Flagged.lingers {n : Next} {k j : Key} {val : Bool} {s s' : Inner} (h : Flagged n j val s s')
    (hn : n = .resetExpire → val = true) (hs : s.Lingers k) : s'.Lingers k := by
  intro st' hk'
  obtain ⟨st, key, hst, rfl⟩ := h.get_inv hk'
  have hold := hs st hst
  split
  · cases n with
    | resetExpire =>
      rw [hn rfl]
      rfl
    | _ => exact hold
  · cases n <;> exact hold

theorem Move.lingers {K : Scope} {s s' : Inner} {k : Key} (h : Move K.lasting s s')
    (hs : s.Lingers k) : s'.Lingers k := by
  cases h with
  | aside h =>
    intro st' hk'
    exact hs st' (by simpa only [Inner.get?, h.store] using hk')
  | limit => exact hs
  | process => exact hs
  | @turn j stj stj' _ _ hj h _ =>
    intro st' hk'
    by_cases hkj : k = j
    · subst hkj
      have hself := Inner.get?_put hj stj' h.id
      cases hself.symm.trans hk'
      rw [h.resetAt]
      exact hs stj hj
    · have hother := Inner.get?_put_ne hj h.id hkj
      exact hs st' (hother.symm.trans hk')
  | push h =>
    obtain ⟨_, _, ⟨-, -, rfl⟩ | ⟨-, -, hf⟩⟩ := M.push_some h
    · exact hs
    · have hafter := hf.lingers (fun _ => rfl) hs
      exact hafter
  | pushFront _ h =>
    obtain ⟨_, _, ⟨-, -, rfl⟩ | ⟨-, -, hf⟩⟩ := M.pushFront_some h
    · exact hs
    · exact hf.lingers (fun _ => rfl) hs
  | pop h _ _ tally =>
    rcases M.pop_some h with ⟨-, -, rfl⟩ | ⟨_, _, _, -, -, -, hf⟩
    · exact hs
    · have hafter := hf.lingers (k := k) ?_ hs
      · exact hafter
      · rintro rfl
        cases tally with
        | other h => exact absurd rfl h.2
        | expired hK => exact hK.elim
        | lapsed hK => exact hK.elim
  | enlist _ _ _ _ _ _ h =>
    obtain ⟨_, _, ⟨-, -, rfl⟩ | ⟨-, -, hf⟩⟩ := M.push_some h
    · exact hs
    · exact hf.lingers (fun _ => rfl) hs
  | @offer s₁ _ _ _ _ _ _ hpop hpush =>
    have hmid : s₁.Lingers k := by
      rcases M.pop_some hpop with ⟨-, -, rfl⟩ | ⟨_, _, _, -, -, -, hf⟩
      · exact hs
      · exact hf.lingers (by simp) hs
    obtain ⟨_, _, ⟨-, -, rfl⟩ | ⟨-, -, hf⟩⟩ := M.push_some hpush
    · exact hmid
    · exact hf.lingers (fun _ => rfl) hmid
  | insert id initSend initRecv len hK => exact hK.elim
  | unlink => exact hs
  | remove hk => exact fun st' hk' => hs st' (Inner.get?_vacate hk rfl hk')
  | discard _ hk => exact fun st' hk' => hs st' (Inner.get?_vacate hk rfl hk')

theorem Moves.lingers {K : Scope} {s s' : Inner} {k : Key} (h : Moves K.lasting s s')
    (hs : s.Lingers k) : s'.Lingers k :=
  h.invariant (fun _ _ hmove => hmove.lingers) hs

/-! What only the code that works on a stream changes. -/

def Stream.core (st : Stream) : State × List Frame × Bool × Option Nat × Nat × List RecvEvent :=
  (st.state, st.pendingSend, st.isSendingTrailer, st.remainingDataLen, st.refCount, st.pendingRecv)

omit [StoreCrates] in
theorem Turn.core {role : Role} {k : Key} {kind : Kind} {st st' : Stream}
    (h : Turn .none role k kind st st') : st'.core = st.core := by
  cases h with
  | calm => rfl
  | measure hK => exact hK.elim
  | count => rfl
  | uncount => rfl
  | recvClose hK => exact hK.elim
  | _ hK => exact hK.elim

/-- What the code does beside a stream leaves it as it was. -/
theorem Moves.core {s s' : Inner} {k : Key} {st st' : Stream} (h : Moves .none s s')
    (hk : s.get? k = some st) (hk' : s'.get? k = some st') : st'.core = st.core := by
  refine h.each (P := fun j stj => j = k → stj.core = st.core) ⟨⟨?_, ?_, ?_⟩, ?_⟩
    (fun j stj hj hjk => ?_) k st' hk' rfl
  · exact fun j kind stj stj' hturn hold hjk => hturn.core.trans (hold hjk)
  · intro j stj n now val hold
    cases n <;> exact hold
  · intro j stj n key hold
    cases n <;> exact hold
  · exact fun j _ _ _ hborn => hborn.elim
  · subst hjk
    cases hk.symm.trans hj
    rfl

/-! The queue of a stream. -/

omit [StoreCrates] in
theorem Turn.shaped {K : Scope} {role : Role} {k : Key} {kind : Kind} {st st' : Stream}
    (h : Turn K role k kind st st') (hst : st.Shaped) : st'.Shaped := by
  cases h with
  | schedule _ reason live _ dry => exact hst.scheduled dry
  | remoteReset _ frame => exact hst.closed (State.isClosed_recvReset _ _ _) (State.Streams.recvReset frame _)
  | fail _ err => exact .drained (State.isClosed_handleError _ _) rfl
  | eof =>
    have heof := hst.closed (State.isClosed_recvEof _) State.Streams.recvEof
    exact ⟨heof.own, heof.unsent, heof.single, heof.data⟩
  | reset _ reason initiator _ _ queue rem cleared =>
    rcases cleared with rfl | ⟨rfl, -⟩
    · exact .drained rfl rfl
    · have hreset : Stream.Shaped { st with state := .setReset st.id reason initiator } :=
        hst.closed rfl fun _ => Or.inr ⟨rfl, nofun⟩
      exact ⟨hreset.own, hreset.unsent, hreset.single, hreset.data⟩
  | drainSend => exact ⟨nofun, fun hun => ⟨rfl, (hst.unsent hun).2⟩, Nat.zero_le _, nofun⟩
  | queueReset _ frame empty reset own => exact hst.queued own (State.isUnsent_of_isReset reset) nofun
  | sendOpen _ eos state h => exact hst.opened (State.isUnsent_of_sendOpen h)
  | queue _ frame rem sent body last data _ own =>
    have hqueued := hst.queued own (State.isUnsent_of_isSent sent) fun hdata =>
      ⟨Or.inl (data hdata).1, (data hdata).2, body⟩
    exact ⟨hqueued.own, hqueued.unsent, hqueued.single, hqueued.data⟩
  | take _ frame rest h => exact hst.taken h
  | putBack _ frame dry body streams own => exact hst.restored own dry body streams
  | trailer _ dry sent =>
    exact ⟨hst.own, fun hun => absurd hun (by simp [sent]), hst.single, fun hdata =>
      absurd (dry.symm.trans hdata) Bool.false_ne_true⟩
  | sendClose _ state h dry =>
    exact hst.restate (fun hun => absurd hun (by simp [State.isUnsent_sendClose h])) fun hdata _ =>
      absurd hdata (by simp [dry])
  | recvOpen _ frame _ state h =>
    exact hst.restate (State.isUnsent_recvOpen h) fun _ => State.Streams.recvOpen h
  | recvClose _ state h => exact hst.restate (State.isUnsent_recvClose h) fun _ => State.Streams.recvClose h
  | _ => exact ⟨hst.own, hst.unsent, hst.single, hst.data⟩

theorem Moves.shaped {K : Scope} {s s' : Inner} (h : Moves K s s') (hs : s.Each fun _ st => st.Shaped) :
    s'.Each fun _ st => st.Shaped := by
  refine h.each ⟨⟨?_, ?_, ?_⟩, ?_⟩ hs
  · exact fun k kind st st' hturn => hturn.shaped
  · intro k st n now val hst
    cases n <;> exact ⟨hst.own, hst.unsent, hst.single, hst.data⟩
  · intro k st n key hst
    cases n <;> exact ⟨hst.own, hst.unsent, hst.single, hst.data⟩
  · exact fun k _ _ _ _ => .new _ _ _ _

end TwoPlz
