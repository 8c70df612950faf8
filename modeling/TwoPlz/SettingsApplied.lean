import TwoPlz.Settings
import TwoPlz.Plain

/-! What the SETTINGS of the peer have set after a run. -/

namespace TwoPlz

section

variable [HeaderPlz] [StoreCrates]

@[ext]
structure PeerParams where
  maxSendStreams : Nat
  initStreamWindowSz : Nat
  isPushEnabled : Bool
  isExtendedConnectProtocolEnabled : Bool
  headerTableSize : Nat
  maxFrameSize : Nat
  deriving DecidableEq

def Endpoint.peerParams (p : Endpoint) : PeerParams where
  maxSendStreams := p.connection.streams.counts.maxSendStreams
  initStreamWindowSz := p.connection.streams.send.initStreamWindowSz
  isPushEnabled := p.connection.streams.send.isPushEnabled
  isExtendedConnectProtocolEnabled := p.connection.streams.send.isExtendedConnectProtocolEnabled
  headerTableSize := p.codec.hpack.size
  maxFrameSize := p.codec.maxFrameSize

/-- What the frame does not carry is the same in both. -/
structure Untouched (frame : Settings) (a b : PeerParams) : Prop where
  maxSendStreams : frame.maxConcurrentStreams = none → b.maxSendStreams = a.maxSendStreams
  initStreamWindowSz : frame.initialWindowSize = none → b.initStreamWindowSz = a.initStreamWindowSz
  isPushEnabled : frame.enablePush = none → b.isPushEnabled = a.isPushEnabled
  isExtendedConnectProtocolEnabled : frame.enableConnectProtocol = none →
    b.isExtendedConnectProtocolEnabled = a.isExtendedConnectProtocolEnabled
  headerTableSize : frame.headerTableSize = none → b.headerTableSize = a.headerTableSize
  maxFrameSize : frame.maxFrameSize = none → b.maxFrameSize = a.maxFrameSize

def lastAnnounced {α : Type} (param : Settings → Option α) (initial : α) (frames : List Settings) : α :=
  (frames.filterMap param).getLast?.getD initial

def PeerParams.announced (initial : PeerParams) (frames : List Settings) : PeerParams where
  maxSendStreams := lastAnnounced (·.maxConcurrentStreams) initial.maxSendStreams frames
  initStreamWindowSz := lastAnnounced (·.initialWindowSize) initial.initStreamWindowSz frames
  isPushEnabled := lastAnnounced (·.isPushEnabled) initial.isPushEnabled frames
  isExtendedConnectProtocolEnabled :=
    lastAnnounced (·.isExtendedConnectProtocolEnabled) initial.isExtendedConnectProtocolEnabled frames
  headerTableSize := lastAnnounced (·.headerTableSize) initial.headerTableSize frames
  maxFrameSize := lastAnnounced (·.maxFrameSize) initial.maxFrameSize frames

omit [HeaderPlz] [StoreCrates] in
theorem lastAnnounced_append {α : Type} (param : Settings → Option α) (initial : α)
    (frames : List Settings) (frame : Settings) :
    lastAnnounced param initial (frames ++ [frame]) =
      (param frame).getD (lastAnnounced param initial frames) := by
  unfold lastAnnounced
  rw [List.filterMap_append]
  cases h : param frame with
  | none => simp [h]
  | some a => simp [h]

structure SameParams (s s' : Inner) : Prop where
  maxSendStreams : s'.counts.maxSendStreams = s.counts.maxSendStreams
  initStreamWindowSz : s'.send.initStreamWindowSz = s.send.initStreamWindowSz
  isPushEnabled : s'.send.isPushEnabled = s.send.isPushEnabled
  isExtendedConnectProtocolEnabled :
    s'.send.isExtendedConnectProtocolEnabled = s.send.isExtendedConnectProtocolEnabled

theorem sameParams_blind : BlindFlow SameParams where
  refl _ := ⟨rfl, rfl, rfl, rfl⟩
  trans _ _ _ h h' :=
    ⟨h'.1.trans h.1, h'.2.trans h.2, h'.3.trans h.3, h'.4.trans h.4⟩
  store _ _ := ⟨rfl, rfl, rfl, rfl⟩
  queue _ n _ := by cases n <;> exact ⟨rfl, rfl, rfl, rfl⟩
  flow _ _ := ⟨rfl, rfl, rfl, rfl⟩
  task _ _ := ⟨rfl, rfl, rfl, rfl⟩
  sendBuffer _ _ := ⟨rfl, rfl, rfl, rfl⟩
  recvBuffer _ _ := ⟨rfl, rfl, rfl, rfl⟩
  spa _ _ := ⟨rfl, rfl, rfl, rfl⟩
  lastOpened _ _ := ⟨rfl, rfl, rfl, rfl⟩
  numSend _ _ := ⟨rfl, rfl, rfl, rfl⟩
  numRecv _ _ := ⟨rfl, rfl, rfl, rfl⟩
  numReset _ _ := ⟨rfl, rfl, rfl, rfl⟩
  lastProcessed _ _ := ⟨rfl, rfl, rfl, rfl⟩
  refused _ _ := ⟨rfl, rfl, rfl, rfl⟩
  nextRecv _ _ := ⟨rfl, rfl, rfl, rfl⟩
  nextSend _ _ := ⟨rfl, rfl, rfl, rfl⟩
  maxRecv _ _ := ⟨rfl, rfl, rfl, rfl⟩
  maxSend _ _ := ⟨rfl, rfl, rfl, rfl⟩
  checkConnection _ := ⟨rfl, rfl, rfl, rfl⟩
  checkStream _ _ := ⟨rfl, rfl, rfl, rfl⟩
  initWindow _ _ := ⟨rfl, rfl, rfl, rfl⟩
  extended _ _ := ⟨rfl, rfl, rfl, rfl⟩
  remoteReset _ _ := ⟨rfl, rfl, rfl, rfl⟩
  errorReset _ _ := ⟨rfl, rfl, rfl, rfl⟩
  connError _ _ := ⟨rfl, rfl, rfl, rfl⟩
  refs _ _ := ⟨rfl, rfl, rfl, rfl⟩
  now _ _ := ⟨rfl, rfl, rfl, rfl⟩
  recvFlow _ _ := ⟨rfl, rfl, rfl, rfl⟩

section

variable {s s' : Inner} {res : Except ProtoError Unit} {settings : Settings} {c c' : Connection}

theorem applyRemoteSettings_params (h : Streams.applyRemoteSettings settings s = some (res, s')) :
    s'.counts.maxSendStreams = settings.maxConcurrentStreams.getD USIZE_MAX ∧
      s'.send.initStreamWindowSz = settings.initialWindowSize.getD s.send.initStreamWindowSz ∧
      s'.send.isPushEnabled = settings.isPushEnabled.getD s.send.isPushEnabled ∧
      s'.send.isExtendedConnectProtocolEnabled =
        settings.isExtendedConnectProtocolEnabled.getD s.send.isExtendedConnectProtocolEnabled := by
  simp only [Streams.applyRemoteSettings, Counts.applyRemoteSettings, Send.applyRemoteSettings,
    M.bind_some, M.modify_some] at h
  obtain ⟨_, s₁, rfl, _, s₂, rfl, h⟩ := h
  cases hwin : settings.initialWindowSize with
  | none =>
    rw [hwin] at h
    obtain ⟨-, rfl⟩ := M.pure_some.mp h
    exact ⟨rfl, rfl, rfl, rfl⟩
  | some new =>
    simp only [hwin, Send.applyInitialWindow, M.bind_some, M.get_some, M.set_some] at h
    obtain ⟨_, _, ⟨rfl, rfl⟩, _, s₃, rfl, h⟩ := h
    have hsame := sameParams_blind.adjustWindows _ _ _ _ _ h
    exact ⟨hsame.maxSendStreams, hsame.initStreamWindowSz, hsame.isPushEnabled,
      hsame.isExtendedConnectProtocolEnabled⟩

theorem next_sameParams {e : Event} (h : c.next e = some c')
    (hset : ∀ settings, e ≠ .applyRemoteSettings settings) : SameParams c.streams c'.streams := by
  by_cases hdata : ∃ frame, e = .recvData frame
  · obtain ⟨frame, rfl⟩ := hdata
    exact Connection.keeps_recv (sameParams_blind.innerRecvData _) (Option.ite_none_right_eq_some.mp h).2
  · by_cases hpoll : ∃ ready, e = .pollWindowUpdate ready
    · obtain ⟨ready, rfl⟩ := hpoll
      exact Connection.keeps_run (sameParams_blind.pollWindowUpdate sameParams_blind.recvFlow
        (fun _ => ⟨rfl, rfl, rfl, rfl⟩) _) (Option.ite_none_right_eq_some.mp h).2
    · exact sameParams_blind.next h (fun f hf => hdata ⟨f, hf⟩) (fun r hr => hpoll ⟨r, hr⟩) hset

/-! An error of `apply_remote_settings` ends the connection. -/

def IsGoAway {α : Type} : Except ProtoError α → Prop
  | .ok _ => True
  | .error e => ∃ reason, e = ProtoError.libraryGoAway reason

theorem tryForEachFrom_isGoAway {α : Type} {f : α → Key → M (Except ProtoError α)}
    (hf : ∀ a k, Yields IsGoAway (f a k)) (n : Nat) :
    ∀ i a, Yields IsGoAway (tryForEachFrom f n i a) := by
  induction n with
  | zero => exact fun _ _ => .pure trivial
  | succ n ih =>
    intro i a
    refine .bind_any fun s => ?_
    split
    · intro s a s' h
      cases h
    · refine .bind (hf _ _) fun res hres => ?_
      split
      · exact .pure hres
      · refine .bind_any fun s => ?_
        dsimp only
        split
        · exact .bind_any fun _ => ih _ _
        · exact ih _ _

theorem decreaseWindow_isGoAway (dec total : Nat) (k : Key) :
    Yields IsGoAway (Send.decreaseWindow dec total k) := by
  refine .bind_any fun st => ?_
  split
  · exact .pure trivial
  · split
    · exact .pure ⟨_, rfl⟩
    · refine .bind_any fun _ => ?_
      split
      · exact .bind_any fun _ => .bind_any fun _ => .pure trivial
      · exact .pure trivial

theorem increaseWindow_isGoAway (inc : Nat) (u : Unit) (k : Key) :
    Yields IsGoAway (Send.increaseWindow inc u k) := by
  refine .bind_any fun res => .pure ?_
  cases res with
  | ok u => trivial
  | error reason => exact ⟨reason, rfl⟩

theorem applyRemoteSettings_isGoAway (settings : Settings) :
    Yields IsGoAway (Streams.applyRemoteSettings settings) := by
  refine .bind_any fun _ => .bind_any fun _ => ?_
  split
  · refine .bind_any fun s => .bind_any fun _ => ?_
    unfold Send.adjustWindows
    split
    · refine .bind (.bind_any fun _ => tryForEachFrom_isGoAway (decreaseWindow_isGoAway _) _ _ _)
        fun res hres => ?_
      split
      · exact .pure hres
      · exact .bind_any fun _ => .pure trivial
    · split
      · exact .bind_any fun _ => tryForEachFrom_isGoAway (increaseWindow_isGoAway _) _ _ _
      · exact .pure trivial
  · exact .pure trivial

end

namespace Endpoint

def applies (p : Endpoint) : Input → List Settings
  | .pollRemoteSettings true => p.settings.remote.toList
  | _ => []

inductive Run (ok : Endpoint → Input → Prop) (p₀ : Endpoint) : List Settings → Endpoint → Prop
  | start : Run ok p₀ [] p₀
  | step {frames : List Settings} {p p' : Endpoint} {input : Input} (run : Run ok p₀ frames p)
      (hok : ok p input) (hnext : p.next input = some p') : Run ok p₀ (frames ++ p.applies input) p'

theorem Run.mono {ok ok' : Endpoint → Input → Prop} {p₀ p : Endpoint} {frames : List Settings}
    (h : Run ok p₀ frames p) (hok : ∀ p input, ok p input → ok' p input) : Run ok' p₀ frames p := by
  induction h with
  | start => exact .start
  | step run ok hnext ih => exact .step ih (hok _ _ ok) hnext

/-- The frame carries the limit on streams, or there is none in force. -/
def KeepsLimit (p : Endpoint) (frame : Settings) : Prop :=
  frame.maxConcurrentStreams.isSome = true ∨ p.peerParams.maxSendStreams = USIZE_MAX

def AppliesKeep (p : Endpoint) (input : Input) : Prop := ∀ frame ∈ p.applies input, p.KeepsLimit frame

variable {p p' : Endpoint} {frame : Settings}

structure StreamsApplied (frame : Settings) (a b : PeerParams) : Prop where
  maxSendStreams : b.maxSendStreams = frame.maxConcurrentStreams.getD USIZE_MAX
  initStreamWindowSz : b.initStreamWindowSz = frame.initialWindowSize.getD a.initStreamWindowSz
  isPushEnabled : b.isPushEnabled = frame.isPushEnabled.getD a.isPushEnabled
  isExtendedConnectProtocolEnabled : b.isExtendedConnectProtocolEnabled =
    frame.isExtendedConnectProtocolEnabled.getD a.isExtendedConnectProtocolEnabled

structure CodecApplied (frame : Settings) (a b : PeerParams) : Prop where
  headerTableSize : b.headerTableSize = frame.headerTableSize.getD a.headerTableSize
  maxFrameSize : b.maxFrameSize = frame.maxFrameSize.getD a.maxFrameSize

omit [HeaderPlz] [StoreCrates] in
theorem applyRemoteSettings_codec {w w' : FramedWrite} (h : w.applyRemoteSettings frame = some w') :
    w'.hpack.size = frame.headerTableSize.getD w.hpack.size ∧
      w'.maxFrameSize = frame.maxFrameSize.getD w.maxFrameSize := by
  cases hsize : frame.headerTableSize with
  | none =>
    cases hframe : frame.maxFrameSize with
    | none =>
      simp only [FramedWrite.applyRemoteSettings, hsize, hframe, Option.some.injEq] at h
      subst h
      exact ⟨rfl, rfl⟩
    | some val =>
      simp only [FramedWrite.applyRemoteSettings, hsize, hframe, FramedWrite.setMaxFrameSize,
        Option.ite_none_right_eq_some, Option.some.injEq] at h
      obtain ⟨-, rfl⟩ := h
      exact ⟨rfl, rfl⟩
  | some size =>
    cases hframe : frame.maxFrameSize with
    | none =>
      simp only [FramedWrite.applyRemoteSettings, hsize, hframe, Option.some.injEq] at h
      subst h
      exact ⟨TableBound.size_updateMaxSize _ _, rfl⟩
    | some val =>
      simp only [FramedWrite.applyRemoteSettings, hsize, hframe, FramedWrite.setMaxFrameSize,
        Option.ite_none_right_eq_some, Option.some.injEq] at h
      obtain ⟨-, rfl⟩ := h
      exact ⟨TableBound.size_updateMaxSize _ _, rfl⟩

/-- A frame is applied in full, or it fails the connection and the codec keeps its values. -/
theorem pollRemoteSettings_params (hremote : p.settings.remote = some frame)
    (h : p.next (.pollRemoteSettings true) = some p') :
    StreamsApplied frame p.peerParams p'.peerParams ∧
      (CodecApplied frame p.peerParams p'.peerParams ∨
        p'.connection.Failed ∧ p'.codec = p.codec) := by
  simp only [next, pollRemoteSettings, hremote, Bool.not_true, Bool.false_eq_true, if_false] at h
  obtain ⟨c, hc, h⟩ := Option.bind_eq_some_iff.mp h
  obtain ⟨res, s', hrun, hconn⟩ := Connection.recv_some (Option.ite_none_right_eq_some.mp hc).2
  obtain ⟨h₁, h₂, h₃, h₄⟩ := applyRemoteSettings_params hrun
  have hgo := applyRemoteSettings_isGoAway frame _ _ _ hrun
  subst hconn
  cases res with
  | ok u =>
    obtain ⟨w, hw, h⟩ := Option.bind_eq_some_iff.mp h
    cases h
    obtain ⟨h₅, h₆⟩ := applyRemoteSettings_codec hw
    exact ⟨⟨h₁, h₂, h₃, h₄⟩, Or.inl ⟨h₅, h₆⟩⟩
  | error e =>
    cases h
    obtain ⟨reason, rfl⟩ := hgo
    exact ⟨⟨h₁, h₂, h₃, h₄⟩, Or.inr ⟨Or.inr (Or.inr (Or.inr ⟨_, _, _, rfl⟩)), rfl⟩⟩

theorem next_peerParams {input : Input} (h : p.next input = some p') (happlies : p.applies input = []) :
    p'.peerParams = p.peerParams := by
  have hsame : SameParams p.connection.streams p'.connection.streams →
      p'.codec.hpack.size = p.codec.hpack.size → p'.codec.maxFrameSize = p.codec.maxFrameSize →
      p'.peerParams = p.peerParams := by
    intro hs hsize hframe
    simp only [peerParams, hs.maxSendStreams, hs.initStreamWindowSz, hs.isPushEnabled,
      hs.isExtendedConnectProtocolEnabled, hsize, hframe]
  cases input with
  | event e =>
    have hset : ∀ settings, e ≠ .applyRemoteSettings settings := by
      rintro settings rfl
      cases h
    have hmap : (p.connection.next e).map (fun c => { p with connection := c }) = some p' := by
      cases e with
      | applyRemoteSettings settings => cases h
      | applyLocalSettings settings => cases h
      | _ => exact h
    obtain ⟨c, hc, rfl⟩ := Option.map_eq_some_iff.mp hmap
    exact hsame (next_sameParams hc hset) rfl rfl
  | recvSettings frame =>
    obtain ⟨-, h⟩ := Option.ite_none_right_eq_some.mp h
    simp only [recvSettings] at h
    split at h
    · obtain ⟨c, hc, rfl⟩ := Option.map_eq_some_iff.mp h
      exact hsame (next_sameParams hc (by simp)) rfl rfl
    · cases h
      rfl
    · obtain ⟨c, hc, rfl⟩ := Option.map_eq_some_iff.mp h
      exact hsame (next_sameParams hc (by simp)) rfl rfl
  | pollRemoteSettings ready =>
    cases hremote : p.settings.remote with
    | none =>
      simp only [next, pollRemoteSettings, hremote, Option.some.injEq] at h
      exact h ▸ rfl
    | some frame =>
      cases ready with
      | false =>
        simp only [next, pollRemoteSettings, hremote, Bool.not_false, if_true, Option.some.injEq] at h
        exact h ▸ rfl
      | true => simp [applies, hremote] at happlies
  | encode =>
    cases h
    exact hsame ⟨rfl, rfl, rfl, rfl⟩ (TableBound.size_encodeSizeUpdates _) rfl

theorem next_failed {input : Input} (h : p.next input = some p') (hf : p.connection.Failed) :
    p'.connection.Failed := by
  cases input with
  | event e =>
    have hmap : (p.connection.next e).map (fun c => { p with connection := c }) = some p' := by
      cases e with
      | applyRemoteSettings settings => cases h
      | applyLocalSettings settings => cases h
      | _ => exact h
    obtain ⟨c, hc, rfl⟩ := Option.map_eq_some_iff.mp hmap
    exact hf.next hc
  | recvSettings frame =>
    obtain ⟨hcan, -⟩ := Option.ite_none_right_eq_some.mp h
    exact absurd hcan (by simp [hf.not_canRecv])
  | pollRemoteSettings ready =>
    simp only [next, pollRemoteSettings] at h
    split at h
    · cases h
      exact hf
    · split at h
      · cases h
        exact hf
      · obtain ⟨c, hc, h⟩ := Option.bind_eq_some_iff.mp h
        exact absurd (Option.ite_none_right_eq_some.mp hc).1 (by simp [hf.not_canRecv])
  | encode =>
    cases h
    exact hf

theorem untouched_iff (hremote : p.settings.remote = some frame)
    (h : p.next (.pollRemoteSettings true) = some p') :
    Untouched frame p.peerParams p'.peerParams ↔ p.KeepsLimit frame := by
  obtain ⟨hstreams, hcodec⟩ := pollRemoteSettings_params hremote h
  constructor
  · intro hun
    cases hmax : frame.maxConcurrentStreams with
    | some n => exact Or.inl (by simp [hmax])
    | none =>
      have hvalue := hstreams.maxSendStreams
      rw [hmax, Option.getD_none] at hvalue
      exact Or.inr ((hun.maxSendStreams hmax).symm.trans hvalue)
  · intro hkeeps
    refine ⟨fun hnone => ?_, fun hnone => ?_, fun hnone => ?_, fun hnone => ?_, fun hnone => ?_,
      fun hnone => ?_⟩
    · rcases hkeeps with hsome | hlimit
      · simp [hnone] at hsome
      · rw [hstreams.maxSendStreams, hlimit, hnone, Option.getD_none]
    · rw [hstreams.initStreamWindowSz, hnone, Option.getD_none]
    · rw [hstreams.isPushEnabled, Settings.isPushEnabled, hnone, Option.map_none, Option.getD_none]
    · rw [hstreams.isExtendedConnectProtocolEnabled, Settings.isExtendedConnectProtocolEnabled, hnone,
        Option.map_none, Option.getD_none]
    · rcases hcodec with hcodec | ⟨-, heq⟩
      · rw [hcodec.headerTableSize, hnone, Option.getD_none]
      · simp only [peerParams, heq]
    · rcases hcodec with hcodec | ⟨-, heq⟩
      · rw [hcodec.maxFrameSize, hnone, Option.getD_none]
      · simp only [peerParams, heq]

theorem announced_append {initial : PeerParams} {frames : List Settings}
    (hremote : p.settings.remote = some frame) (h : p.next (.pollRemoteSettings true) = some p')
    (hkeeps : p.KeepsLimit frame) (hlive : ¬p'.connection.Failed)
    (hp : p.peerParams = initial.announced frames) :
    p'.peerParams = initial.announced (frames ++ [frame]) := by
  obtain ⟨hstreams, hcodec | ⟨hno, -⟩⟩ := pollRemoteSettings_params hremote h
  · have hmax : p'.peerParams.maxSendStreams =
        frame.maxConcurrentStreams.getD p.peerParams.maxSendStreams := by
      rw [hstreams.maxSendStreams]
      rcases hkeeps with hsome | hlimit
      · obtain ⟨n, hn⟩ := Option.isSome_iff_exists.mp hsome
        rw [hn, Option.getD_some, Option.getD_some]
      · rw [hlimit]
    rw [hp] at hstreams hcodec hmax
    refine PeerParams.ext ?_ ?_ ?_ ?_ ?_ ?_ <;> simp only [PeerParams.announced, lastAnnounced_append]
    · exact hmax
    · exact hstreams.initStreamWindowSz
    · exact hstreams.isPushEnabled
    · exact hstreams.isExtendedConnectProtocolEnabled
    · exact hcodec.headerTableSize
    · exact hcodec.maxFrameSize
  · exact absurd hno hlive

theorem run_announced {p₀ : Endpoint} {frames : List Settings} (h : Run AppliesKeep p₀ frames p)
    (hlive : ¬p.connection.Failed) : p.peerParams = p₀.peerParams.announced frames := by
  induction h with
  | start => rfl
  | step run hok hnext ih =>
    rename_i frames p p' input
    have hp := ih fun hf => hlive (next_failed hnext hf)
    cases happlies : p.applies input with
    | nil => rw [List.append_nil, next_peerParams hnext happlies, hp]
    | cons frame rest =>
      have hinput : input = .pollRemoteSettings true ∧ p.settings.remote = some frame ∧ rest = [] := by
        cases input with
        | pollRemoteSettings ready =>
          cases ready with
          | false => cases happlies
          | true =>
            cases hremote : p.settings.remote with
            | none => simp [applies, hremote] at happlies
            | some frame' =>
              simp only [applies, hremote, Option.toList_some, List.cons.injEq] at happlies
              obtain ⟨rfl, rfl⟩ := happlies
              exact ⟨rfl, rfl, rfl⟩
        | _ => cases happlies
      obtain ⟨rfl, hremote, rfl⟩ := hinput
      exact announced_append hremote hnext (hok frame (by simp [happlies])) hlive hp

/-- In every reachable state a SETTINGS frame leaves what it does not carry alone exactly if it
carries the limit on streams or there is none in force; over a run of such frames each parameter has
the last value announced for it, as long as the connection reads frames. -/
theorem remote_settings_apply (p₀ : Endpoint) :
    (∀ (frames : List Settings) (p p' : Endpoint) (frame : Settings), Run (fun _ _ => True) p₀ frames p →
      p.settings.remote = some frame → p.next (.pollRemoteSettings true) = some p' →
      (Untouched frame p.peerParams p'.peerParams ↔ p.KeepsLimit frame)) ∧
    ∀ (frames : List Settings) (p : Endpoint), Run AppliesKeep p₀ frames p →
      p.connection.canRecv = true → p.peerParams = p₀.peerParams.announced frames := by
  refine ⟨fun _ _ _ _ _ hremote hnext => untouched_iff hremote hnext, fun _ _ hrun hcan => ?_⟩
  exact run_announced hrun fun hf => absurd hcan (by simp [hf.not_canRecv])

end Endpoint

end

section

attribute [local instance] plain plainCrates

def limitedConfig : ConnectionConfig :=
  { plainConfig with peerSettings := { Settings.default with maxConcurrentStreams := some 1 } }

def plainCodec : FramedWrite := ⟨⟨4096, none⟩, 16384⟩

def windowFrame : Settings := { Settings.default with initialWindowSize := some 1000 }

def received (frame : Settings) : Endpoint :=
  { Endpoint.new .client limitedConfig plainCodec true with
    settings := ⟨.waitingAck Settings.default, some frame⟩ }

theorem received_run {frame : Settings} (h : frame.isAck = false)
    {ok : Endpoint → Input → Prop} (hok : ∀ p, ok p (.recvSettings frame)) :
    Endpoint.Run ok (Endpoint.new .client limitedConfig plainCodec true) [] (received frame) := by
  have hnext : (Endpoint.new .client limitedConfig plainCodec true).next (.recvSettings frame) =
      some (received frame) := by
    have hrecv : (Endpoint.new .client limitedConfig plainCodec true).settings.recv frame =
        .ok (.ok, ⟨.waitingAck Settings.default, some frame⟩) := by
      change (SettingsHandler.new limitedConfig.localSettings).recv frame = _
      simp only [SettingsHandler.recv, h]
      rfl
    change Endpoint.recvSettings _ frame = _
    rw [Endpoint.recvSettings, hrecv]
    rfl
  exact .step .start (hok _) hnext

/-- The limit is gone after a frame that does not mention it. -/
theorem remote_settings_lift_limit :
    ¬∀ (role : Role) (config : ConnectionConfig) (codec : FramedWrite) (debugAssertions : Bool)
        (frames : List Settings) (p p' : Endpoint) (frame : Settings),
      Endpoint.Run (fun _ _ => True) (Endpoint.new role config codec debugAssertions) frames p →
      p.settings.remote = some frame → p.next (.pollRemoteSettings true) = some p' →
      Untouched frame p.peerParams p'.peerParams := by
  intro h
  obtain ⟨p', hp'⟩ : ∃ p', (received windowFrame).next (.pollRemoteSettings true) = some p' := ⟨_, rfl⟩
  have hun := h _ _ _ _ _ _ _ _ (received_run rfl fun _ => trivial) rfl hp'
  have hno := (Endpoint.untouched_iff rfl hp').mp hun
  rcases hno with hno | hno <;> cases hno

def bothFrame : Settings := { windowFrame with maxConcurrentStreams := some 2 }

def limitFrame : Settings := { Settings.default with maxConcurrentStreams := some 5 }

theorem appliesKeep_limit {p : Endpoint} {frame : Settings} (hremote : p.settings.remote = some frame)
    (hlimit : frame.maxConcurrentStreams.isSome = true) : p.AppliesKeep (.pollRemoteSettings true) := by
  intro frame' hframe
  rw [Endpoint.applies, hremote, Option.toList_some, List.mem_singleton] at hframe
  rw [hframe]
  exact Or.inl hlimit

theorem limits_run : ∃ p p',
    Endpoint.Run Endpoint.AppliesKeep (Endpoint.new .client limitedConfig plainCodec true) [bothFrame] p ∧
      p.settings.remote = some limitFrame ∧ p.next (.pollRemoteSettings true) = some p' ∧
      p'.connection.canRecv = true := by
  have hrecv : Endpoint.Run Endpoint.AppliesKeep (Endpoint.new .client limitedConfig plainCodec true) []
      (received bothFrame) := received_run rfl fun _ _ hframe => by cases hframe
  obtain ⟨p₁, hp₁⟩ : ∃ p₁, (received bothFrame).next (.pollRemoteSettings true) = some p₁ := ⟨_, rfl⟩
  have hrun₁ := Endpoint.Run.step hrecv (appliesKeep_limit rfl rfl) hp₁
  have hnext : ∃ p₂ p', p₁.next (.recvSettings limitFrame) = some p₂ ∧ p₂.settings.remote = some limitFrame ∧
      p₂.next (.pollRemoteSettings true) = some p' ∧ p'.connection.canRecv = true := by
    cases hp₁
    exact ⟨_, _, rfl, rfl, rfl, rfl⟩
  obtain ⟨p₂, p', hp₂, hremote, hp', hcan⟩ := hnext
  exact ⟨p₂, p', .step hrun₁ (fun _ hframe => by cases hframe) hp₂, hremote, hp', hcan⟩

theorem remote_settings_apply_limit : ∃ p p' : Endpoint,
    Endpoint.Run Endpoint.AppliesKeep (Endpoint.new .client limitedConfig plainCodec true)
      [bothFrame, limitFrame] p' ∧
      p.next (.pollRemoteSettings true) = some p' ∧ Untouched limitFrame p.peerParams p'.peerParams ∧
      p'.peerParams = (Endpoint.new .client limitedConfig plainCodec true).peerParams.announced
        [bothFrame, limitFrame] ∧
      p'.peerParams.initStreamWindowSz = 1000 ∧ p'.peerParams.maxSendStreams = 5 := by
  obtain ⟨p, p', hrun, hremote, hnext, hcan⟩ := limits_run
  have hrun' : Endpoint.Run Endpoint.AppliesKeep (Endpoint.new .client limitedConfig plainCodec true)
      [bothFrame, limitFrame] p' := by
    have hstep := Endpoint.Run.step hrun (appliesKeep_limit hremote rfl) hnext
    rwa [Endpoint.applies, hremote] at hstep
  have hall : Endpoint.Run (fun _ _ => True) (Endpoint.new .client limitedConfig plainCodec true)
      [bothFrame] p := hrun.mono fun _ _ _ => trivial
  have hparams := (Endpoint.remote_settings_apply _).2 _ _ hrun' hcan
  refine ⟨p, p', hrun', hnext, ?_, hparams, ?_, ?_⟩
  · exact ((Endpoint.remote_settings_apply _).1 _ _ _ _ hall hremote hnext).mpr (Or.inl rfl)
  · rw [hparams]
    rfl
  · rw [hparams]
    rfl

end

end TwoPlz
