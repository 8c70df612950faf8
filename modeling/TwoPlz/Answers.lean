import TwoPlz.Pings
import TwoPlz.Streams.ActionMoves

/-! The slots that hold what is to be answered to the peer: `pending_pong`, the remote SETTINGS, the
refused stream and the pending window updates. -/

namespace TwoPlz

section

variable [HeaderPlz] [StoreCrates]

def Inner.refuses (s : Inner) (id : Nat) : Bool :=
  decide (id ≤ s.recv.maxStreamId) && (s.store.find id).isNone && s.counts.role.isServer
    && StreamId.isClientInitiated id && s.recv.nextStreamId.any (decide <| · ≤ id)
    && !s.counts.canIncNumRecvStreams

structure SameSlots (s s' : Inner) : Prop where
  refused : s'.recv.refused = s.recv.refused
  checkConnection :
    s'.recv.checkConnectionWindowUpdate = s.recv.checkConnectionWindowUpdate
  checkStream : s'.recv.checkStreamWindowUpdate = s.recv.checkStreamWindowUpdate

theorem SameSlots.blind {R : Inner → Inner → Prop} (hR : ∀ s s', SameSlots s s' → R s s')
    (trans : ∀ a b c, R a b → R b c → R a c) : BlindHandle R where
  refl _ := hR _ _ ⟨rfl, rfl, rfl⟩
  trans := trans
  store _ _ := hR _ _ ⟨rfl, rfl, rfl⟩
  queue _ n _ := by cases n <;> exact hR _ _ ⟨rfl, rfl, rfl⟩
  flow _ _ := hR _ _ ⟨rfl, rfl, rfl⟩
  task _ _ := hR _ _ ⟨rfl, rfl, rfl⟩
  sendBuffer _ _ := hR _ _ ⟨rfl, rfl, rfl⟩
  recvBuffer _ _ := hR _ _ ⟨rfl, rfl, rfl⟩
  spa _ _ := hR _ _ ⟨rfl, rfl, rfl⟩
  lastOpened _ _ := hR _ _ ⟨rfl, rfl, rfl⟩
  numSend _ _ := hR _ _ ⟨rfl, rfl, rfl⟩
  numRecv _ _ := hR _ _ ⟨rfl, rfl, rfl⟩
  numReset _ _ := hR _ _ ⟨rfl, rfl, rfl⟩
  lastProcessed _ _ := hR _ _ ⟨rfl, rfl, rfl⟩
  nextRecv _ _ := hR _ _ ⟨rfl, rfl, rfl⟩
  nextSend _ _ := hR _ _ ⟨rfl, rfl, rfl⟩
  maxRecv _ _ := hR _ _ ⟨rfl, rfl, rfl⟩
  maxSend _ _ := hR _ _ ⟨rfl, rfl, rfl⟩
  initWindow _ _ := hR _ _ ⟨rfl, rfl, rfl⟩
  extended _ _ := hR _ _ ⟨rfl, rfl, rfl⟩
  remoteReset _ _ := hR _ _ ⟨rfl, rfl, rfl⟩
  errorReset _ _ := hR _ _ ⟨rfl, rfl, rfl⟩
  connError _ _ := hR _ _ ⟨rfl, rfl, rfl⟩
  refs _ _ := hR _ _ ⟨rfl, rfl, rfl⟩
  now _ _ := hR _ _ ⟨rfl, rfl, rfl⟩

theorem sameSlots_blind : BlindHandle SameSlots :=
  SameSlots.blind (fun _ _ h => h) fun _ _ _ h h' => ⟨h'.1.trans h.1, h'.2.trans h.2, h'.3.trans h.3⟩

def SameRefused (s s' : Inner) : Prop := s'.recv.refused = s.recv.refused

theorem sameRefused_blind : BlindHandle SameRefused :=
  SameSlots.blind (fun _ _ h => h.refused) fun _ _ _ h h' => h'.trans h

def Inner.Checked (s : Inner) : Prop :=
  s.recv.checkStreamWindowUpdate.isSome = true → s.recv.checkConnectionWindowUpdate = true

def KeepsChecked (s s' : Inner) : Prop := s.Checked → s'.Checked

theorem SameSlots.checked {s s' : Inner} (h : SameSlots s s') : KeepsChecked s s' := by
  intro hs hsome
  rw [h.checkStream] at hsome
  rw [h.checkConnection, hs hsome]

theorem keepsChecked_blind : BlindHandle KeepsChecked :=
  SameSlots.blind (fun _ _ h => h.checked) fun _ _ _ h h' hs => h' (h hs)

def StaysDue (s s' : Inner) : Prop :=
  s.recv.checkConnectionWindowUpdate = true → s'.recv.checkConnectionWindowUpdate = true

theorem staysDue_blind : BlindHandle StaysDue :=
  SameSlots.blind (fun _ _ h hs => h.checkConnection.trans hs) fun _ _ _ h h' hs => h' (h hs)

namespace Inner

open M

theorem recvData_checked (frame : Data) : Keeps KeepsChecked (Inner.recvData frame) := by
  have hR := keepsChecked_blind
  refine hR.bind (hR.find _) fun o => ?_
  split
  · exact hR.recvDataUnknown (fun _ _ => id) (fun _ _ _ => rfl) _
  · refine hR.transition _ (hR.bind ?_ fun _ => hR.resetOnRecvStreamErr _ _)
    refine hR.bind (hR.assert _) fun _ => hR.bind (hR.decConnectionWindow (fun _ _ => id) _) fun res => ?_
    split
    · exact hR.pure _
    · -- the connection is marked before the stream is
      intro s a s' h hs hsome
      obtain ⟨_, s₁, hmark, h⟩ := bind_eq_some h
      cases hmark
      refine (staysDue_blind.bind (staysDue_blind.resolve _) fun st => ?_ : Keeps StaysDue _) _ _ _ h rfl
      split
      · exact staysDue_blind.pure _
      · split
        · exact staysDue_blind.pure _
        · exact staysDue_blind.recvStreamData (fun _ _ => id) _ _ _

theorem pollWindowUpdate_checked (ready : Bool) : Keeps KeepsChecked (Inner.pollWindowUpdate ready) :=
  keepsChecked_blind.pollWindowUpdate (fun _ _ => id) (fun _ _ h => nomatch h) ready

theorem refuses_iff {s : Inner} {id : Nat} :
    s.refuses id = true ↔ id ≤ s.recv.maxStreamId ∧ s.store.find id = none ∧ s.Openable id ∧
      s.counts.canIncNumRecvStreams = false := by
  constructor
  · intro h
    simp only [refuses, Bool.and_eq_true, decide_eq_true_eq, Option.isNone_iff_eq_none,
      Bool.not_eq_true', Option.any_eq_true] at h
    obtain ⟨⟨⟨⟨⟨hmax, hfind⟩, hserver⟩, hclient⟩, nextId, hnext, hle⟩, hfull⟩ := h
    refine ⟨hmax, hfind, ⟨?_, nextId, hnext, hle⟩, hfull⟩
    cases hrole : s.counts.role with
    | client =>
      rw [hrole] at hserver
      cases hserver
    | server => simp [Role.ensureCanOpen, hclient]
  · rintro ⟨hmax, hfind, hopen, hfull⟩
    obtain ⟨hserver, hclient⟩ := hopen.isServer
    obtain ⟨-, nextId, hnext, hle⟩ := hopen
    simp [refuses, hmax, hfind, hserver, hclient, hnext, hle, hfull]

theorem canOpen_refused {s : Inner} {id : Nat} :
    Ends s (Recv.canOpen id) fun res s' => s.recv.refused = none ∧
      ((res = .ok false ∧ s'.recv.refused = some id ∧ s.Openable id ∧
          s.counts.canIncNumRecvStreams = false) ∨
        (s'.recv.refused = none ∧ ¬(s.Openable id ∧ s.counts.canIncNumRecvStreams = false))) := by
  refine Ends.get_bind (Ends.assert_bind fun hnone => ?_)
  have hnone := Option.isNone_iff_eq_none.mp hnone
  split
  · rename_i e herror
    refine Ends.pure ⟨hnone, Or.inr ⟨hnone, ?_⟩⟩
    rintro ⟨⟨hopen, -⟩, -⟩
    exact nomatch herror.symm.trans hopen
  · rename_i hnext
    refine Ends.pure ⟨hnone, Or.inr ⟨hnone, ?_⟩⟩
    rintro ⟨⟨-, nextId, hnext', -⟩, -⟩
    exact nomatch hnext.symm.trans hnext'
  · rename_i nextId hrole hnext
    split
    · rename_i hlt
      refine Ends.pure ⟨hnone, Or.inr ⟨hnone, ?_⟩⟩
      rintro ⟨⟨-, nextId', hnext', hle⟩, -⟩
      cases hnext.symm.trans hnext'
      exact absurd hlt (Nat.not_lt.mpr hle)
    · rename_i hle
      refine Ends.modify_bind ?_
      split
      · rename_i hfull
        refine Ends.modify_bind (Ends.pure ⟨hnone, Or.inl ⟨rfl, rfl, ?_, by simpa using hfull⟩⟩)
        exact ⟨hrole, nextId, hnext, Nat.le_of_not_lt hle⟩
      · rename_i hfull
        exact Ends.pure ⟨hnone, Or.inr ⟨hnone, fun h => hfull (by simp [h.2])⟩⟩

theorem insertOrCreate_refused {s : Inner} {id : Nat} (hnone : s.recv.refused = none) :
    Ends s (Inner.insertOrCreate id) fun res s' =>
      (res = .ok none ∧ s'.recv.refused = some id ∧ s.store.find id = none ∧ s.Openable id ∧
          s.counts.canIncNumRecvStreams = false) ∨
        (s'.recv.refused = none ∧
          ¬(s.store.find id = none ∧ s.Openable id ∧ s.counts.canIncNumRecvStreams = false)) := by
  refine Ends.bind fun o s₁ hfind => ?_
  obtain ⟨rfl, rfl⟩ := Moves.find_some hfind
  cases hfound : s₁.store.find id with
  | some k => exact Ends.pure (Or.inr ⟨hnone, by simp⟩)
  | none =>
    refine Ends.get_bind (Ends.bind fun forgotten s₂ hforgotten => ?_)
    obtain rfl : s₂ = s₁ := isForgottenByClient_read id _ _ _ hforgotten
    split
    · -- a server does not look whether the stream was forgotten
      rename_i htrue
      refine Ends.pure (Or.inr ⟨hnone, ?_⟩)
      rintro ⟨-, hopen, -⟩
      simp only [isForgottenByClient, bind_some, get_some] at hforgotten
      obtain ⟨_, _, ⟨rfl, rfl⟩, hforgotten⟩ := hforgotten
      rw [if_pos hopen.isServer.1] at hforgotten
      cases hforgotten
      cases htrue
    · refine Ends.bind fun res s₃ hres => ?_
      obtain ⟨-, ⟨rfl, hrefused, hopen, hfull⟩ | ⟨hrefused, hno⟩⟩ := canOpen_refused _ _ hres
      · exact Ends.pure (Or.inl ⟨rfl, hrefused, rfl, hopen, hfull⟩)
      · have hno : ¬(True ∧ s₂.Openable id ∧ s₂.counts.canIncNumRecvStreams = false) := fun h => hno h.2
        split
        · exact Ends.pure (Or.inr ⟨hrefused, by simpa using hno⟩)
        · exact Ends.pure (Or.inr ⟨hrefused, by simpa using hno⟩)
        · refine Ends.bind fun k s₄ hins => Ends.pure (Or.inr ⟨?_, by simpa using hno⟩)
          exact (sameRefused_blind.insertStream _ _ _ _ _ hins).trans hrefused

/-- A HEADERS frame fills the slot exactly when its stream is refused. -/
theorem recvHeaders_refused {s s' : Inner} {frame : Headers} {res : Except ProtoError Unit}
    (h : Inner.recvHeaders frame s = some (res, s')) (hnone : s.recv.refused = none) :
    s'.recv.refused = if s.refuses frame.streamId then some frame.streamId else none := by
  have hR := sameRefused_blind
  refine (?_ : Ends s (Inner.recvHeaders frame) fun _ s' => s'.recv.refused = _) res s' h
  refine Ends.get_bind ?_
  split
  · rename_i hmax
    refine Ends.pure ?_
    rw [hnone, if_neg fun href => absurd (refuses_iff.mp href).1 (by omega)]
  · rename_i hmax
    refine Ends.bind fun o s₁ hins => ?_
    obtain ⟨rfl, hrefused, hfind, hopen, hfull⟩ | ⟨hrefused, hno⟩ := insertOrCreate_refused hnone _ _ hins
    · refine Ends.pure ?_
      rw [hrefused, if_pos (refuses_iff.mpr ⟨by omega, hfind, hopen, hfull⟩)]
    · rw [if_neg fun href => hno (refuses_iff.mp href).2, ← hrefused]
      refine (?_ : Keeps SameRefused _) s₁
      split
      · exact hR.pure _
      · exact hR.pure _
      · exact hR.bind (hR.resolve _) fun st => .ite (hR.pure _) (hR.transition _ (hR.recvStreamHeaders _ _))

end Inner

inductive Answer : Type
  | pong (payload : PingPayload)
  | settingsAck
  | refusal (id : Nat)
  deriving DecidableEq

def Control.answer : Control → Option Answer
  | .ping ⟨true, payload⟩ => some (.pong payload)
  | .settingsAck => some .settingsAck
  | .reset frame => if frame.errorCode = Reason.REFUSED_STREAM then some (.refusal frame.streamId) else none
  | _ => none

namespace Poller

variable {p p' : Poller}

/-- The slots that hold an answer. -/
def owed (p : Poller) : List Answer :=
  (p.ping.pendingPong.map Answer.pong).toList ++
    (p.endpoint.settings.remote.map fun _ => Answer.settingsAck).toList ++
      (p.endpoint.connection.streams.recv.refused.map Answer.refusal).toList

/-- The answer that a frame calls for. -/
def due (p : Poller) : PollInput → List Answer
  | .recv (.ping ping) => if ping.ack then [] else [.pong ping.payload]
  | .recv (.settings frame) => if frame.isAck then [] else [.settingsAck]
  | .recv (.headers frame) =>
    if p.endpoint.connection.streams.refuses frame.streamId then [.refusal frame.streamId] else []
  | _ => []

def answers (p : Poller) (input : PollInput) : List Answer := (p.emits input).filterMap Control.answer

def announces (_ : Poller) : PollInput → List Settings
  | .recv (.settings frame) => if frame.isAck then [] else [frame]
  | _ => []

def applies (p : Poller) : PollInput → List Settings
  | .serve true _ => if p.stage = .remoteSettings then p.endpoint.settings.remote.toList else []
  | _ => []

/-- Those among them that were found to be a connection error. -/
def rejects (p : Poller) (input : PollInput) : List Settings :=
  if ((p.next input).bind (·.endpoint.connection.result)).isSome then p.applies input else []

structure Served (p : Poller) : Prop where
  checked : p.endpoint.connection.streams.Checked
  pong : p.stage ≠ .goAway → p.stage ≠ .pong → p.ping.pendingPong = none
  remote : p.stage ≠ .goAway → p.stage ≠ .pong → p.stage ≠ .ping → p.stage ≠ .remoteSettings →
    p.endpoint.settings.remote = none
  refused : p.stage = .windowUpdate ∨ p.stage = .read → p.endpoint.connection.streams.recv.refused = none
  checkStream : p.stage = .read → p.endpoint.connection.streams.recv.checkStreamWindowUpdate = none

structure Answers (p : Poller) (input : PollInput) (p' : Poller) : Prop where
  served : p'.Served
  answered : p.rejects input = [] → p.owed ++ p.due input = p.answers input ++ p'.owed
  applied : p.rejects input = [] →
    p.endpoint.settings.remote.toList ++ p.announces input =
      p.applies input ++ p'.endpoint.settings.remote.toList

theorem emits_of_step {input : PollInput} {out : List Control} (h : p.step input = some (p', out)) :
    p.emits input = out := by
  simp only [emits, h, Option.elim_some]

structure Quiet (p p' : Poller) : Prop where
  pong : p'.ping.pendingPong = p.ping.pendingPong
  remote : p'.endpoint.settings.remote = p.endpoint.settings.remote
  slots : SameSlots p.endpoint.connection.streams p'.endpoint.connection.streams
  stage : p'.stage = p.stage

theorem Quiet.owed (h : p.Quiet p') : p'.owed = p.owed := by
  simp only [Poller.owed, h.pong, h.remote, h.slots.refused]

theorem Quiet.served (h : p.Quiet p') (hp : p.Served) : p'.Served := by
  constructor
  · exact h.slots.checked hp.checked
  · rw [h.stage, h.pong]
    exact hp.pong
  · rw [h.stage, h.remote]
    exact hp.remote
  · rw [h.stage, h.slots.refused]
    exact hp.refused
  · rw [h.stage, h.slots.checkStream]
    exact hp.checkStream

theorem Quiet.answers {input : PollInput} (h : p.Quiet p') (hp : p.Served)
    (hstep : p.step input = some (p', [])) (hdue : p.due input = []) (happlies : p.applies input = [])
    (hannounces : p.announces input = []) : p.Answers input p' := by
  refine ⟨h.served hp, fun _ => ?_, fun _ => ?_⟩
  · rw [hdue, Poller.answers, emits_of_step hstep, h.owed]
    simp
  · rw [happlies, hannounces, h.remote]
    simp

theorem Quiet.run {e : Event} (h : p.run e = some p') (hdata : ∀ f, e ≠ .recvData f)
    (hheaders : ∀ f, e ≠ .recvHeaders f) (hrefusal : e ≠ .sendPendingRefusal)
    (hpoll : ∀ ready, e ≠ .pollWindowUpdate ready) (hset : ∀ s, e ≠ .applyRemoteSettings s) :
    p.Quiet p' := by
  obtain ⟨c, hc, rfl⟩ := run_some h
  exact ⟨rfl, rfl, sameSlots_blind.next hc hdata hheaders hrefusal hpoll hset, rfl⟩

theorem Answers.event {e : Event} (hp : p.Served) (h : p.next (.event e) = some p') :
    p.Answers (.event e) p' := by
  obtain ⟨out, hstep⟩ := next_some h
  have h := hstep
  simp only [step] at h
  obtain ⟨hguard, h⟩ | ⟨-, h⟩ := ite_eq_iff.mp h
  · obtain ⟨p₁, hp₁, heq⟩ := Option.map_eq_some_iff.mp h
    cases heq
    have hallowed : e.isHandle = true ∨ e.isOwner = true := by
      simp only [Bool.or_eq_true, Bool.and_eq_true] at hguard
      exact hguard.imp id And.left
    refine (Quiet.run hp₁ ?_ ?_ ?_ ?_ ?_).answers hp hstep rfl rfl rfl
    all_goals
      intros
      rintro rfl
      simp [Event.isHandle, Event.isOwner] at hallowed
  · cases h

theorem Answers.gracefulShutdown (hp : p.Served) (h : p.next .gracefulShutdown = some p') :
    p.Answers .gracefulShutdown p' := by
  obtain ⟨out, hstep⟩ := next_some h
  have hout : out = [] := by
    simp only [step] at hstep
    obtain ⟨-, hstep⟩ | ⟨-, hstep⟩ := ite_eq_iff.mp hstep
    · obtain ⟨p₁, -, heq⟩ := Option.map_eq_some_iff.mp hstep
      cases heq
      rfl
    · cases hstep
  subst hout
  refine Quiet.answers ?_ hp hstep rfl rfl rfl
  obtain ⟨-, rfl | ⟨c, hc, -, -, rfl⟩⟩ := gracefulShutdown_some h
  · exact ⟨rfl, rfl, ⟨rfl, rfl, rfl⟩, rfl⟩
  · exact ⟨rfl, rfl, sameSlots_blind.next hc (by simp) (by simp) (by simp) (by simp) (by simp), rfl⟩

theorem Answers.pollSpa {payload : PingPayload} {flushed : Bool} (hp : p.Served)
    (h : p.next (.pollSpa payload flushed) = some p') : p.Answers (.pollSpa payload flushed) p' := by
  obtain ⟨out, hstep⟩ := next_some h
  have hout : out = [] := by
    simp only [step] at hstep
    obtain ⟨-, hstep⟩ | ⟨-, hstep⟩ := ite_eq_iff.mp hstep
    · obtain ⟨p₁, -, heq⟩ := Option.map_eq_some_iff.mp hstep
      cases heq
      rfl
    · cases hstep
  subst hout
  refine Quiet.answers ?_ hp hstep rfl rfl rfl
  obtain rfl | ⟨mode, hmode, ⟨-, c, hc, rfl⟩ | ⟨-, rfl⟩⟩ := pollSpa_some h
  · exact ⟨rfl, rfl, ⟨rfl, rfl, rfl⟩, rfl⟩
  · exact ⟨rfl, rfl, sameSlots_blind.next hc (by simp) (by simp) (by simp) (by simp) (by simp), rfl⟩
  · refine ⟨?_, rfl, ⟨rfl, rfl, rfl⟩, rfl⟩
    unfold Mode.poll
    split <;> rfl

theorem Served.recv (hp : p.Served) (hstage : p.stage = .read) :
    p.ping.pendingPong = none ∧ p.endpoint.settings.remote = none ∧
      p.endpoint.connection.streams.recv.refused = none ∧
      p.endpoint.connection.streams.recv.checkStreamWindowUpdate = none := by
  refine ⟨hp.pong ?_ ?_, hp.remote ?_ ?_ ?_ ?_, hp.refused (Or.inr hstage), hp.checkStream hstage⟩
  all_goals
    rw [hstage]
    decide

structure Filled (p : Poller) (p' : Poller) (pong : Option PingPayload) (remote : Option Settings)
    (refused : Option Nat) : Prop where
  pong : p'.ping.pendingPong = pong
  remote : p'.endpoint.settings.remote = remote
  refused : p'.endpoint.connection.streams.recv.refused = refused
  checked : KeepsChecked p.endpoint.connection.streams p'.endpoint.connection.streams

theorem Quiet.filled (h : p.Quiet p') (hp : p.Served) (hstage : p.stage = .read) :
    p.Filled p' none none none := by
  obtain ⟨hpong, hremote, hrefused, -⟩ := hp.recv hstage
  exact ⟨h.pong.trans hpong, h.remote.trans hremote, h.slots.refused.trans hrefused, h.slots.checked⟩

theorem Filled.recvPing {ping : Ping} (hp : p.Served) (hstage : p.stage = .read)
    (h : p.next (.recv (.ping ping)) = some p') :
    p.Filled p' (if ping.ack then none else some ping.payload) none none := by
  obtain ⟨hpong, hremote, hrefused, -⟩ := hp.recv hstage
  obtain ⟨hack, rfl⟩ | ⟨hack, rfl, -⟩ | ⟨hack, -, hping, -, -, hres⟩ := recvPing_some h
  · rw [hack]
    exact ⟨rfl, hremote, hrefused, id⟩
  · rw [hack]
    exact ⟨hpong, hremote, hrefused, id⟩
  · have hquiet : p'.endpoint.settings = p.endpoint.settings ∧
        SameSlots p.endpoint.connection.streams p'.endpoint.connection.streams := by
      obtain heq | ⟨c, hc, heq⟩ := hres
      · rw [heq]
        exact ⟨rfl, rfl, rfl, rfl⟩
      · obtain ⟨s', g, hs, rfl, -⟩ := Connection.goAwayGraceful_some hc
        rw [heq]
        exact ⟨rfl, sameSlots_blind.goAway _ _ _ _ hs⟩
    obtain ⟨hsettings, hslots⟩ := hquiet
    rw [hack]
    refine ⟨?_, ?_, hslots.refused.trans hrefused, hslots.checked⟩
    · rw [hping]
      exact hpong
    · rw [hsettings, hremote]

theorem Filled.recvData {frame : Data} (hp : p.Served) (hstage : p.stage = .read)
    (h : p.recvFrame (.data frame) = some p') : p.Filled p' none none none := by
  obtain ⟨hpong, hremote, hrefused, -⟩ := hp.recv hstage
  obtain ⟨c, hc, rfl⟩ := run_some h
  have hc := (Option.ite_none_right_eq_some.mp hc).2
  refine ⟨hpong, hremote, ?_, Connection.keeps_recv (Inner.recvData_checked frame) hc⟩
  have hsame : SameRefused p.endpoint.connection.streams c.streams :=
    Connection.keeps_recv (sameRefused_blind.innerRecvData (fun _ _ => rfl) (fun _ => rfl) (fun _ _ => rfl) _)
      hc
  exact hsame.trans hrefused

theorem Filled.recvHeaders {frame : Headers} (hp : p.Served) (hstage : p.stage = .read)
    (h : p.recvFrame (.headers frame) = some p') :
    p.Filled p' none none
      (if p.endpoint.connection.streams.refuses frame.streamId then some frame.streamId else none) := by
  obtain ⟨hpong, hremote, hrefused, -⟩ := hp.recv hstage
  obtain ⟨c, hc, rfl⟩ := run_some h
  have hc := (Option.ite_none_right_eq_some.mp hc).2
  refine ⟨hpong, hremote, ?_, Connection.keeps_recv (keepsChecked_blind.innerRecvHeaders (fun _ _ => id) _) hc⟩
  obtain ⟨res, s', hrun, rfl⟩ := Connection.recv_some hc
  exact Inner.recvHeaders_refused hrun hrefused

theorem Filled.recvSettings {frame : Settings} (hp : p.Served) (hstage : p.stage = .read)
    (h : p.recvFrame (.settings frame) = some p') :
    p.Filled p' none (if frame.isAck then none else some frame) none := by
  obtain ⟨hpong, hremote, hrefused, -⟩ := hp.recv hstage
  obtain ⟨e, he, rfl⟩ := Option.map_eq_some_iff.mp h
  unfold Endpoint.recvSettings SettingsHandler.recv at he
  cases hack : frame.isAck with
  | false =>
    rw [hack] at he
    cases he
    exact ⟨hpong, rfl, hrefused, id⟩
  | true =>
    rw [hack] at he
    simp only [if_true] at he ⊢
    cases hlocal : p.endpoint.settings.local' with
    | waitingAck settings =>
      rw [hlocal] at he
      obtain ⟨c, hc, rfl⟩ := Option.map_eq_some_iff.mp he
      have hslots := sameSlots_blind.next hc (by simp) (by simp) (by simp) (by simp) (by simp)
      exact ⟨hpong, hremote, hslots.refused.trans hrefused, hslots.checked⟩
    | _ =>
      rw [hlocal] at he
      obtain ⟨c, hc, rfl⟩ := Option.map_eq_some_iff.mp he
      have hslots := sameSlots_blind.next hc (by simp) (by simp) (by simp) (by simp) (by simp)
      exact ⟨hpong, hremote, hslots.refused.trans hrefused, hslots.checked⟩

theorem recv_some {frame : Incoming} (h : p.next (.recv frame) = some p') :
    p.stage = .read ∧ p.endpoint.connection.canRecv = true ∧ p.step (.recv frame) = some (p', []) ∧
      ∃ p₁, p.recvFrame frame = some p₁ ∧ p' = p₁.restart := by
  obtain ⟨out, hstep⟩ := next_some h
  have h := hstep
  simp only [step] at h
  obtain ⟨hguard, h⟩ | ⟨-, h⟩ := ite_eq_iff.mp h
  · obtain ⟨p₁, hp₁, heq⟩ := Option.map_eq_some_iff.mp h
    cases heq
    simp only [Bool.and_eq_true, beq_iff_eq] at hguard
    exact ⟨hguard.1, hguard.2, hstep, p₁, hp₁, rfl⟩
  · cases h

theorem Filled.answers {frame : Incoming} {pong : Option PingPayload} {remote : Option Settings}
    {refused : Option Nat} (h : p.Filled p' pong remote refused) (hp : p.Served)
    (hnext : p.next (.recv frame) = some p')
    (hdue : p.due (.recv frame) = (pong.map Answer.pong).toList ++
      (remote.map fun _ => Answer.settingsAck).toList ++ (refused.map Answer.refusal).toList)
    (hannounces : p.announces (.recv frame) = remote.toList) : p.Answers (.recv frame) p' := by
  obtain ⟨hstage, -, hstep, p₁, -, rfl⟩ := recv_some hnext
  obtain ⟨hpong, hremote, hrefused, -⟩ := hp.recv hstage
  refine ⟨⟨h.checked hp.checked, ?_, ?_, ?_, ?_⟩, fun _ => ?_, fun _ => ?_⟩
  · exact fun hno => absurd rfl hno
  · exact fun hno => absurd rfl hno
  · rintro (hno | hno) <;> cases hno
  · exact fun hno => by cases hno
  · rw [hdue, Poller.answers, emits_of_step hstep]
    simp [owed, hpong, hremote, hrefused, h.pong, h.remote, h.refused]
  · rw [hannounces, h.remote, hremote]
    rfl

theorem Answers.recv {frame : Incoming} (hp : p.Served) (h : p.next (.recv frame) = some p') :
    p.Answers (.recv frame) p' := by
  obtain ⟨hstage, -, -, p₁, hp₁, rfl⟩ := recv_some h
  have hquiet : ∀ {e : Event}, p.run e = some p₁ → (∀ f, e ≠ .recvData f) → (∀ f, e ≠ .recvHeaders f) →
      e ≠ .sendPendingRefusal → (∀ ready, e ≠ .pollWindowUpdate ready) →
      (∀ s, e ≠ .applyRemoteSettings s) → p.Filled p₁.restart none none none := by
    intro e hrun hdata hheaders hrefusal hpoll hset
    obtain ⟨h₁, h₂, h₃, h₄⟩ := (Quiet.run hrun hdata hheaders hrefusal hpoll hset).filled hp hstage
    exact ⟨h₁, h₂, h₃, h₄⟩
  cases frame with
  | data frame =>
    obtain ⟨h₁, h₂, h₃, h₄⟩ := Filled.recvData hp hstage hp₁
    exact Filled.answers ⟨h₁, h₂, h₃, h₄⟩ hp h rfl rfl
  | headers frame =>
    obtain ⟨h₁, h₂, h₃, h₄⟩ := Filled.recvHeaders hp hstage hp₁
    refine Filled.answers ⟨h₁, h₂, h₃, h₄⟩ hp h ?_ rfl
    simp only [due]
    split <;> rfl
  | settings frame =>
    obtain ⟨h₁, h₂, h₃, h₄⟩ := Filled.recvSettings hp hstage hp₁
    refine Filled.answers ⟨h₁, h₂, h₃, h₄⟩ hp h ?_ ?_
    · simp only [due]
      split <;> rfl
    · simp only [announces]
      split <;> rfl
  | ping frame =>
    refine Filled.answers (Filled.recvPing hp hstage h) hp h ?_ rfl
    simp only [due]
    split <;> rfl
  | priority => cases hp₁
  | pushPromise => cases hp₁
  | _ => exact Filled.answers (hquiet hp₁ (by simp) (by simp) (by simp) (by simp) (by simp)) hp h rfl rfl

theorem Answers.stage {ready ready' : Bool} {out : List Control} (hstage : p.stage ≠ .remoteSettings)
    (hstep : p.step (.serve ready ready') = some (p', out)) (hserved : p'.Served)
    (howed : p.owed = out.filterMap Control.answer ++ p'.owed)
    (hremote : p'.endpoint.settings.remote = p.endpoint.settings.remote) :
    p.Answers (.serve ready ready') p' := by
  refine ⟨hserved, fun _ => ?_, fun _ => ?_⟩
  · rw [Poller.answers, emits_of_step hstep, ← howed]
    exact List.append_nil _
  · have happlies : p.applies (.serve ready ready') = [] := by
      cases ready
      · rfl
      · exact if_neg hstage
    rw [happlies, hremote]
    exact List.append_nil _

theorem Served.restart (hp : p.Served) : p.restart.Served := by
  refine ⟨hp.checked, ?_, ?_, ?_, ?_⟩
  · exact fun hno => absurd rfl hno
  · exact fun hno => absurd rfl hno
  · rintro (hno | hno) <;> cases hno
  · exact fun hno => by cases hno

theorem Answers.serveGoAway {ready ready' : Bool} {out : List Control} (hp : p.Served)
    (hstage : p.stage = .goAway) (hstep : p.step (.serve ready ready') = some (p', out))
    (h : p.serve ready ready' = some (p', out)) : p.Answers (.serve ready ready') p' := by
  have hne : p.stage ≠ .remoteSettings := by
    rw [hstage]
    decide
  simp only [Poller.serve, hstage] at h
  obtain ⟨-, h⟩ | ⟨-, h⟩ := ite_eq_iff.mp h
  · cases h
    exact .stage hne hstep hp rfl rfl
  · obtain ⟨c, hc, heq⟩ := Option.map_eq_some_iff.mp h
    obtain ⟨result, rfl, -⟩ := Connection.sendPendingGoAway_some hc
    cases heq
    refine .stage hne hstep ⟨hp.checked, ?_, ?_, ?_, ?_⟩ ?_ rfl
    · dsimp only
      split <;> simp
    · dsimp only
      split <;> simp
    · dsimp only
      split <;> simp
    · dsimp only
      split <;> simp
    · have hout : (p.endpoint.connection.goAway.pending.toList.map Control.goAway).filterMap
          Control.answer = [] := by
        cases p.endpoint.connection.goAway.pending <;> rfl
      rw [hout]
      rfl

theorem Answers.servePong {ready ready' : Bool} {out : List Control} (hp : p.Served)
    (hstage : p.stage = .pong) (hstep : p.step (.serve ready ready') = some (p', out))
    (h : p.serve ready ready' = some (p', out)) : p.Answers (.serve ready ready') p' := by
  have hne : p.stage ≠ .remoteSettings := by
    rw [hstage]
    decide
  simp only [Poller.serve, hstage] at h
  cases hpong : p.ping.pendingPong with
  | none =>
    rw [hpong] at h
    cases h
    refine .stage hne hstep ⟨hp.checked, fun _ _ => hpong, ?_, ?_, ?_⟩ rfl rfl
    · exact fun _ _ hno => absurd rfl hno
    · rintro (hno | hno) <;> cases hno
    · exact fun hno => by cases hno
  | some payload =>
    rw [hpong] at h
    cases ready with
    | false =>
      cases h
      exact .stage hne hstep hp.restart rfl rfl
    | true =>
      cases h
      refine .stage hne hstep ⟨hp.checked, fun _ _ => rfl, ?_, ?_, ?_⟩ ?_ rfl
      · exact fun _ _ hno => absurd rfl hno
      · rintro (hno | hno) <;> cases hno
      · exact fun hno => by cases hno
      · simp [owed, hpong, Control.answer]

theorem Answers.servePing {ready ready' : Bool} {out : List Control} (hp : p.Served)
    (hstage : p.stage = .ping) (hstep : p.step (.serve ready ready') = some (p', out))
    (h : p.serve ready ready' = some (p', out)) : p.Answers (.serve ready ready') p' := by
  have hne : p.stage ≠ .remoteSettings := by
    rw [hstage]
    decide
  have hpong : p.ping.pendingPong = none := by
    refine hp.pong ?_ ?_ <;> rw [hstage] <;> decide
  simp only [Poller.serve, hstage] at h
  split at h
  · cases ready with
    | false =>
      cases h
      exact .stage hne hstep hp.restart rfl rfl
    | true =>
      cases h
      refine .stage hne hstep ⟨hp.checked, fun _ _ => hpong, ?_, ?_, ?_⟩ rfl rfl
      · exact fun _ _ _ hno => absurd rfl hno
      · rintro (hno | hno) <;> cases hno
      · exact fun hno => by cases hno
  · cases h
    refine .stage hne hstep ⟨hp.checked, fun _ _ => hpong, ?_, ?_, ?_⟩ rfl rfl
    · exact fun _ _ _ hno => absurd rfl hno
    · rintro (hno | hno) <;> cases hno
    · exact fun hno => by cases hno

/-- The SETTINGS of the peer are acknowledged and applied, unless they are an error. -/
theorem Answers.serveRemoteSettings {ready ready' : Bool} {out : List Control} (hp : p.Served)
    (hstage : p.stage = .remoteSettings) (hstep : p.step (.serve ready ready') = some (p', out))
    (h : p.serve ready ready' = some (p', out)) : p.Answers (.serve ready ready') p' := by
  have hpong : p.ping.pendingPong = none := by
    refine hp.pong ?_ ?_ <;> rw [hstage] <;> decide
  simp only [Poller.serve, hstage] at h
  cases hremote : p.endpoint.settings.remote with
  | none =>
    rw [hremote] at h
    cases h
    have happlies : p.applies (.serve ready ready') = [] := by
      cases ready
      · rfl
      · simp [applies, hremote]
    refine ⟨⟨hp.checked, fun _ _ => hpong, fun _ _ _ _ => hremote, ?_, ?_⟩, fun _ => ?_, fun _ => ?_⟩
    · rintro (hno | hno) <;> cases hno
    · exact fun hno => by cases hno
    · rw [Poller.answers, emits_of_step hstep]
      exact List.append_nil _
    · rw [happlies, hremote]
      rfl
  | some frame =>
    rw [hremote] at h
    cases ready with
    | false =>
      cases h
      refine ⟨hp.restart, fun _ => ?_, fun _ => ?_⟩
      · rw [Poller.answers, emits_of_step hstep]
        exact List.append_nil _
      · exact List.append_nil _
    | true =>
      obtain ⟨e, he, heq⟩ := Option.map_eq_some_iff.mp h
      cases heq
      simp only [Endpoint.pollRemoteSettings, hremote, Bool.not_true, Bool.false_eq_true, if_false] at he
      obtain ⟨c, hc, he⟩ := Option.bind_eq_some_iff.mp he
      have hslots : SameSlots p.endpoint.connection.streams c.streams :=
        Connection.keeps_recv (sameSlots_blind.applyRemoteSettings (fun _ _ => ⟨rfl, rfl, rfl⟩)
          (fun _ _ => ⟨rfl, rfl, rfl⟩)
          (fun _ _ => ⟨rfl, rfl, rfl⟩) (fun _ _ => ⟨rfl, rfl, rfl⟩) _) (Option.ite_none_right_eq_some.mp hc).2
      have happlies : p.applies (.serve true ready') = [frame] := by simp [applies, hstage, hremote]
      obtain ⟨hresult, he⟩ | ⟨hresult, he⟩ := ite_eq_iff.mp he
      · cases he
        simp only [hresult, if_true] at hstep ⊢
        have hrejects : p.rejects (.serve true ready') ≠ [] := by
          simp [rejects, next, hstep, hresult, happlies]
        refine ⟨⟨hslots.checked hp.checked, ?_, ?_, ?_, ?_⟩, fun hno => absurd hno hrejects,
          fun hno => absurd hno hrejects⟩
        · exact fun hno => absurd rfl hno
        · exact fun hno => absurd rfl hno
        · rintro (hno | hno) <;> cases hno
        · exact fun hno => by cases hno
      · obtain ⟨codec, -, he⟩ := Option.bind_eq_some_iff.mp he
        cases he
        simp only [hresult] at hstep ⊢
        refine ⟨⟨hslots.checked hp.checked, fun _ _ => hpong, fun _ _ _ _ => rfl, ?_, ?_⟩, fun _ => ?_,
          fun _ => ?_⟩
        · rintro (hno | hno) <;> cases hno
        · exact fun hno => by cases hno
        · rw [Poller.answers, emits_of_step hstep]
          simp [owed, due, hpong, hremote, hslots.refused, Control.answer]
        · simp [happlies, hremote, announces]

theorem Answers.serveLocalSettings {ready ready' : Bool} {out : List Control} (hp : p.Served)
    (hstage : p.stage = .localSettings) (hstep : p.step (.serve ready ready') = some (p', out))
    (h : p.serve ready ready' = some (p', out)) : p.Answers (.serve ready ready') p' := by
  have hne : p.stage ≠ .remoteSettings := by
    rw [hstage]
    decide
  have hpong : p.ping.pendingPong = none := by
    refine hp.pong ?_ ?_ <;> rw [hstage] <;> decide
  have hremote : p.endpoint.settings.remote = none := by
    refine hp.remote ?_ ?_ ?_ ?_ <;> rw [hstage] <;> decide
  simp only [Poller.serve, hstage] at h
  split at h
  · cases ready with
    | false =>
      cases h
      exact .stage hne hstep hp.restart rfl rfl
    | true =>
      cases h
      refine .stage hne hstep ⟨hp.checked, fun _ _ => hpong, fun _ _ _ _ => hremote, ?_, ?_⟩ rfl rfl
      · rintro (hno | hno) <;> cases hno
      · exact fun hno => by cases hno
  · cases h
    refine .stage hne hstep ⟨hp.checked, fun _ _ => hpong, fun _ _ _ _ => hremote, ?_, ?_⟩ rfl rfl
    · rintro (hno | hno) <;> cases hno
    · exact fun hno => by cases hno

theorem Answers.serveRefusal {ready ready' : Bool} {out : List Control} (hp : p.Served)
    (hstage : p.stage = .refusal) (hstep : p.step (.serve ready ready') = some (p', out))
    (h : p.serve ready ready' = some (p', out)) : p.Answers (.serve ready ready') p' := by
  have hne : p.stage ≠ .remoteSettings := by
    rw [hstage]
    decide
  have hpong : p.ping.pendingPong = none := by
    refine hp.pong ?_ ?_ <;> rw [hstage] <;> decide
  have hremote : p.endpoint.settings.remote = none := by
    refine hp.remote ?_ ?_ ?_ ?_ <;> rw [hstage] <;> decide
  simp only [Poller.serve, hstage] at h
  cases hrefused : p.endpoint.connection.streams.recv.refused with
  | none =>
    rw [hrefused] at h
    cases h
    refine .stage hne hstep
      ⟨hp.checked, fun _ _ => hpong, fun _ _ _ _ => hremote, fun _ => hrefused, ?_⟩ rfl rfl
    exact fun hno => by cases hno
  | some id =>
    rw [hrefused] at h
    cases ready with
    | false =>
      cases h
      exact .stage hne hstep hp.restart rfl rfl
    | true =>
      cases h
      refine .stage hne hstep
        ⟨hp.checked, fun _ _ => hpong, fun _ _ _ _ => hremote, fun _ => rfl, ?_⟩ ?_ rfl
      · exact fun hno => by cases hno
      · simp [owed, hpong, hremote, hrefused, Control.answer]

theorem Answers.serveWindowUpdate {ready ready' : Bool} {out : List Control} (hp : p.Served)
    (hstage : p.stage = .windowUpdate) (hstep : p.step (.serve ready ready') = some (p', out))
    (h : p.serve ready ready' = some (p', out)) : p.Answers (.serve ready ready') p' := by
  have hne : p.stage ≠ .remoteSettings := by
    rw [hstage]
    decide
  have hpong : p.ping.pendingPong = none := by
    refine hp.pong ?_ ?_ <;> rw [hstage] <;> decide
  have hremote : p.endpoint.settings.remote = none := by
    refine hp.remote ?_ ?_ ?_ ?_ <;> rw [hstage] <;> decide
  have hrefused := hp.refused (Or.inl hstage)
  simp only [Poller.serve, hstage] at h
  obtain ⟨-, h⟩ | ⟨-, h⟩ := ite_eq_iff.mp h
  · cases h
    exact .stage hne hstep hp.restart rfl rfl
  · obtain ⟨⟨⟨size, update⟩, s'⟩, hr, heq⟩ := Option.map_eq_some_iff.mp h
    have hchecked : s'.Checked := Inner.pollWindowUpdate_checked _ _ _ _ hr hp.checked
    have hsame : s'.recv.refused = p.endpoint.connection.streams.recv.refused :=
      sameRefused_blind.pollWindowUpdate (fun _ _ => rfl) (fun _ => rfl) _ _ _ _ hr
    cases heq
    refine .stage hne hstep ⟨hchecked, fun _ _ => hpong, fun _ _ _ _ => hremote,
      fun _ => hsame.trans hrefused, ?_⟩ ?_ rfl
    · -- the frames are read again only when no update is left
      dsimp only
      intro hread
      by_contra hsome
      rw [hchecked (Option.isSome_iff_ne_none.mpr hsome)] at hread
      cases hread
    · have hout : ((size.map fun size => Control.windowUpdate ⟨0, size⟩).toList ++
          (update.map Control.windowUpdate).toList).filterMap Control.answer = [] := by
        cases size <;> cases update <;> rfl
      rw [hout]
      simp [owed, hsame]

theorem Answers.serve {ready ready' : Bool} (hp : p.Served) (h : p.next (.serve ready ready') = some p') :
    p.Answers (.serve ready ready') p' := by
  obtain ⟨out, hstep⟩ := next_some h
  have h := hstep
  simp only [step] at h
  obtain ⟨-, h⟩ | ⟨-, h⟩ := ite_eq_iff.mp h
  · cases hstage : p.stage with
    | goAway => exact .serveGoAway hp hstage hstep h
    | pong => exact .servePong hp hstage hstep h
    | ping => exact .servePing hp hstage hstep h
    | remoteSettings => exact .serveRemoteSettings hp hstage hstep h
    | localSettings => exact .serveLocalSettings hp hstage hstep h
    | refusal => exact .serveRefusal hp hstage hstep h
    | windowUpdate => exact .serveWindowUpdate hp hstage hstep h
    | read =>
      simp only [Poller.serve, hstage] at h
      cases h
      refine .stage ?_ hstep hp.restart rfl rfl
      rw [hstage]
      decide
  · cases h

theorem Answers.next {input : PollInput} (hp : p.Served) (h : p.next input = some p') :
    p.Answers input p' := by
  cases input with
  | event e => exact .event hp h
  | gracefulShutdown => exact .gracefulShutdown hp h
  | pollSpa payload flushed => exact .pollSpa hp h
  | serve ready ready' => exact .serve hp h
  | recv frame => exact .recv hp h

theorem Served.new (role : Role) (config : ConnectionConfig) (mode : Option Mode)
    (payload : PingPayload) (codec : FramedWrite) (debugAssertions : Bool) :
    (new role config mode payload codec debugAssertions).Served := by
  refine ⟨(nomatch ·), ?_, ?_, ?_, ?_⟩
  · exact fun hno => absurd rfl hno
  · exact fun hno => absurd rfl hno
  · rintro (hno | hno) <;> cases hno
  · exact fun hno => by cases hno

theorem next_failed {input : PollInput} (h : p.next input = some p')
    (hfail : p.endpoint.connection.Failed) : p'.endpoint.connection.Failed := by
  have hrun : ∀ {e : Event} {p₁ : Poller}, p.run e = some p₁ → p₁.endpoint.connection.Failed := by
    intro e p₁ hp₁
    obtain ⟨c, hc, rfl⟩ := run_some hp₁
    exact hfail.next hc
  cases input with
  | event e =>
    obtain ⟨out, h⟩ := next_some h
    simp only [step] at h
    obtain ⟨-, h⟩ | ⟨-, h⟩ := ite_eq_iff.mp h
    · obtain ⟨p₁, hp₁, heq⟩ := Option.map_eq_some_iff.mp h
      cases heq
      exact hrun hp₁
    · cases h
  | gracefulShutdown =>
    obtain ⟨-, rfl | ⟨c, hc, -, -, rfl⟩⟩ := gracefulShutdown_some h
    · exact hfail
    · exact hfail.next hc
  | pollSpa payload flushed =>
    obtain rfl | ⟨mode, -, ⟨-, c, hc, rfl⟩ | ⟨-, rfl⟩⟩ := pollSpa_some h
    · exact hfail
    · exact hfail.next hc
    · exact hfail
  | serve ready ready' =>
    obtain ⟨out, h⟩ := next_some h
    simp only [step] at h
    obtain ⟨hpoll, h⟩ | ⟨-, h⟩ := ite_eq_iff.mp h
    · obtain heq | ⟨e, he, -⟩ := serve_connection hpoll h
      · rw [heq]
        exact hfail
      · exact hfail.next he
    · cases h
  | recv frame =>
    obtain ⟨-, hcan, -⟩ := recv_some h
    rw [hfail.not_canRecv] at hcan
    cases hcan

/-- A run answers what it is owed, in order, and what is still to be answered is in a slot. -/
theorem answers_after {inputs : List PollInput} (hp : p.Served) (h : p.after inputs = some p') :
    p'.Served ∧ (p.collect rejects inputs = [] →
      p.owed ++ p.collect due inputs = p.collect answers inputs ++ p'.owed ∧
      p.endpoint.settings.remote.toList ++ p.collect announces inputs =
        p.collect applies inputs ++ p'.endpoint.settings.remote.toList) := by
  induction inputs generalizing p with
  | nil =>
    cases h
    exact ⟨hp, fun _ => ⟨List.append_nil _, List.append_nil _⟩⟩
  | cons input inputs ih =>
    obtain ⟨p₁, hnext, h⟩ := Option.bind_eq_some_iff.mp h
    have hstep := Answers.next hp hnext
    obtain ⟨hp', hrest⟩ := ih hstep.served h
    refine ⟨hp', fun hrejects => ?_⟩
    simp only [collect, hnext, Option.elim_some, List.append_eq_nil_iff] at hrejects ⊢
    obtain ⟨howed, hremote⟩ := hrest hrejects.2
    constructor
    · rw [← List.append_assoc, hstep.answered hrejects.1, List.append_assoc, howed, List.append_assoc]
    · rw [← List.append_assoc, hstep.applied hrejects.1, List.append_assoc, hremote, List.append_assoc]

theorem rejects_failed {input : PollInput} (h : p.next input = some p') (hrejects : p.rejects input ≠ []) :
    p'.endpoint.connection.Failed := by
  obtain ⟨out, hstep⟩ := next_some h
  simp only [rejects, h, Option.bind_some] at hrejects
  obtain ⟨hresult, hne⟩ : p'.endpoint.connection.result.isSome = true ∧ p.applies input ≠ [] := by
    by_cases hresult : p'.endpoint.connection.result.isSome = true
    · exact ⟨hresult, by simpa [hresult] using hrejects⟩
    · simp [hresult] at hrejects
  -- only the stage of the SETTINGS applies them
  cases input with
  | serve ready ready' =>
    cases ready with
    | false => exact absurd rfl hne
    | true =>
      simp only [applies] at hne
      by_cases hstage : p.stage = .remoteSettings
      · cases hremote : p.endpoint.settings.remote with
        | none => simp [hremote] at hne
        | some frame =>
          simp only [step] at hstep
          obtain ⟨-, hstep⟩ | ⟨-, hstep⟩ := ite_eq_iff.mp hstep
          · simp only [Poller.serve, hstage, hremote, if_true] at hstep
            obtain ⟨e, he, heq⟩ := Option.map_eq_some_iff.mp hstep
            cases heq
            simp only [Endpoint.pollRemoteSettings, hremote, Bool.not_true, Bool.false_eq_true,
              if_false] at he
            obtain ⟨c, hc, he⟩ := Option.bind_eq_some_iff.mp he
            obtain ⟨res, s', hrun, hconn⟩ := Connection.recv_some (Option.ite_none_right_eq_some.mp hc).2
            have hgo := applyRemoteSettings_isGoAway frame _ _ _ hrun
            cases res with
            | ok u =>
              subst hconn
              obtain ⟨codec, -, he⟩ := Option.bind_eq_some_iff.mp he
              cases he
              cases hresult
            | error err =>
              subst hconn
              cases he
              obtain ⟨reason, rfl⟩ := hgo
              exact Or.inr (Or.inr (Or.inr ⟨_, _, _, rfl⟩))
          · cases hstep
      · rw [if_neg hstage] at hne
        exact absurd rfl hne
  | _ => exact absurd rfl hne

theorem collect_rejects_failed {inputs : List PollInput} (h : p.after inputs = some p')
    (hrejects : p.collect rejects inputs ≠ []) : p'.endpoint.connection.Failed := by
  have hfailed : ∀ {inputs : List PollInput} {p : Poller}, p.after inputs = some p' →
      p.endpoint.connection.Failed → p'.endpoint.connection.Failed := by
    intro inputs
    induction inputs with
    | nil =>
      intro p h hfail
      cases h
      exact hfail
    | cons input inputs ih =>
      intro p h hfail
      obtain ⟨p₁, hnext, h⟩ := Option.bind_eq_some_iff.mp h
      exact ih h (next_failed hnext hfail)
  induction inputs generalizing p with
  | nil => exact absurd rfl hrejects
  | cons input inputs ih =>
    obtain ⟨p₁, hnext, h⟩ := Option.bind_eq_some_iff.mp h
    simp only [collect, hnext, Option.elim_some] at hrejects
    by_cases hfirst : p.rejects input = []
    · rw [hfirst] at hrejects
      exact ih h hrejects
    · exact hfailed h (rejects_failed hnext hfirst)

end Poller

end

section

attribute [local instance] plain plainCrates

def zeroPing : Ping := ⟨false, Vector.replicate 8 0⟩

def answerInputs : List PollInput :=
  List.replicate 7 (.serve true true) ++ [.recv (.ping zeroPing), .serve true true, .serve false false] ++
    List.replicate 7 (.serve true true) ++ [.recv (.settings Settings.default)] ++
      List.replicate 7 (.serve true true)

end

end TwoPlz
