import TwoPlz.SendAssertions
import TwoPlz.Streams.Progress

/-! The progress of `pop_data_frame` over the runs of a connection without a `SpaTracker`. -/

namespace TwoPlz

section

variable [HeaderPlz] [StoreCrates]

namespace Send

open M

/-- The loop of `pop_frame` from the first state asks `k` for its next frame in the second one: `k` was
popped and its queue cleared if it had to be, and no stream before it had a frame. -/
inductive Asks (maxFrameSize : Nat) : Inner → Key → Inner → Prop
  | first {s s₀ s₁ : Inner} {k : Key} {st : Stream} {u : Unit} (pop : M.pop .send s = some (some k, s₀))
      (found : s₀.get? k = some st)
      (clear : M.when (st.state.isRemoteReset || st.state.getScheduledReset == some Reason.CANCEL)
        (clearStreamQueue k) s₀ = some (u, s₁)) : Asks maxFrameSize s k s₁
  | next {s s₀ s₁ s₂ s' : Inner} {j k : Key} {st : Stream} {u : Unit} (pop : M.pop .send s = some (some j, s₀))
      (found : s₀.get? j = some st)
      (clear : M.when (st.state.isRemoteReset || st.state.getScheduledReset == some Reason.CANCEL)
        (clearStreamQueue j) s₀ = some (u, s₁))
      (idle : nextFrame j maxFrameSize st.isPendingResetExpiration s₁ = some (none, s₂))
      (later : Asks maxFrameSize s₂ k s') : Asks maxFrameSize s k s'

def RoundAsks (maxFrameSize : Nat) (s : Inner) (k : Key) (s' : Inner) : Prop :=
  ∃ o s₁ u s₂, popPendingOpen s = some (o, s₁) ∧
    M.whenSome o (fun k => do let _ ← M.pushFront .send k) s₁ = some (u, s₂) ∧ Asks maxFrameSize s₂ k s'

theorem Ready.asked {maxFrameSize : Nat} {s s' : Inner} {k : Key} (h : Asks maxFrameSize s k s') (hs : Ready s) :
    Ready s' ∧ ∃ st, s'.get? k = some st ∧ st.Due s'.debugAssertions := by
  induction h with
  | first pop found clear => exact ⟨hs.cleared pop found clear, (hs.servable.cleared pop found clear).2.2⟩
  | next pop found clear idle later ih =>
    obtain ⟨-, hlingers, st, hk, hdue⟩ := hs.servable.cleared pop found clear
    exact ih ((hs.cleared pop found clear).served hk hdue hlingers idle)

/-- The DATA frame at the front of the queue goes to `pop_data_frame`, which sends a DATA frame that is not
empty when both windows have room, and only does not send one when a window has none. -/
def Progresses (s : Inner) (k : Key) (st : Stream) (frame : Data) (maxFrameSize : Nat) : Prop :=
  ∃ s₁, popFrontSend k s = some (some (.data frame), s₁) ∧
    (HasWindow s st → ∃ d s', popDataFrame k maxFrameSize frame s₁ = some (some (.data d), s') ∧ d.data ≠ []) ∧
    ∀ s', popDataFrame k maxFrameSize frame s₁ = some (none, s') → ¬HasWindow s st

theorem Ready.progresses_iff {s : Inner} {k : Key} {st : Stream} {maxFrameSize : Nat} (hs : Ready s)
    (hk : s.get? k = some st) (hdue : st.Due s.debugAssertions)
    (hmax : 0 < maxFrameSize ∧ maxFrameSize < 2 ^ 32) {frame : Data} {rest : List Frame}
    (hqueue : st.pendingSend = .data frame :: rest) {rem : Nat} (hrem : st.remainingDataLen = some rem)
    (hpos : 0 < rem) : Progresses s k st frame maxFrameSize ↔ ¬(HasWindow s st ∧ Truncated st rem) := by
  have hmeasured : st.Measured := (hs.measured k st hk).resolve_left id
  rw [Stream.Measured, hrem, Option.getD_some] at hmeasured
  have hlen : frame.data.length = rem := (hdue.shaped.length_front hqueue).trans hmeasured
  -- the DATA frame leaves the queue
  have hpop : Returns s (popFrontSend k) fun o s₁ => o = some (.data frame) ∧
      s₁.get? k = some { st with pendingSend := rest } ∧ s₁.send = s.send := by
    refine Returns.resolve_bind hk ?_
    rw [hqueue]
    refine Returns.update_bind hk ⟨_, _, rfl, rfl, ?_, rfl⟩
    exact Inner.get?_put hk { st with pendingSend := rest } rfl
  obtain ⟨o, s₁, hpop, rfl, hk₁, hsend⟩ := hpop
  have hwindow : HasWindow s₁ { st with pendingSend := rest } ↔ HasWindow s st := by
    simp only [HasWindow, hsend]
  have hstreaming : st.state.isSendStreaming = true := (hdue.bare hqueue).streaming
  have hspa : s₁.send.spaTracker = none := hsend ▸ hs.spa
  constructor
  · rintro ⟨s₁', hpop', hprogress, -⟩ ⟨hopen, hcast⟩
    cases hpop.symm.trans hpop'
    obtain ⟨d, s', hsent, -⟩ := hprogress hopen
    cases popDataFrame_truncated hk₁ hrem hpos hcast _ _ _ _ hsent
  · intro hfit
    have hsends : HasWindow s st → Returns s₁ (popDataFrame k maxFrameSize frame)
        fun o _ => ∃ d, o = some (.data d) ∧ d.data ≠ [] := fun hopen =>
      popDataFrame_returns hk₁ hstreaming hspa hrem hlen hpos hmax (hwindow.mpr hopen) fun hcast => hfit ⟨hopen, hcast⟩
    refine ⟨s₁, hpop, fun hopen => ?_, fun s' hnone hopen => ?_⟩
    · obtain ⟨_, s', hsent, d, rfl, hd⟩ := hsends hopen
      exact ⟨d, s', hsent, hd⟩
    · obtain ⟨_, s'', hsent, d, rfl, -⟩ := hsends hopen
      cases hnone.symm.trans hsent

end Send

namespace Connection

open Send.Asserting

variable {c c' : Connection} {e : Event}

def Meters (c : Connection) : Prop :=
  c.Serves ∧ c.streams.send.spaTracker = none ∧ c.streams.Measured fun _ => False

theorem Meters.new {config : ConnectionConfig} (hspa : config.spaTracker = none) (role : Role)
    (debug : Bool) : (Connection.new role config debug).Meters := by
  refine ⟨Serves.new hspa role debug, by simp [Connection.new, Inner.new, Send.new, hspa], fun k st hk => ?_⟩
  simp [Inner.get?, Connection.new, Inner.new] at hk

theorem Meters.measured_next (hc : c.Settled) (h : c.Meters) (hnext : c.next e = some c') :
    c'.streams.Measured fun _ => False := by
  obtain ⟨⟨hspa, hserves⟩, htracker, hmeasured⟩ := h
  cases e with
  | pollComplete maxFrameSize =>
    obtain ⟨hpoll, hrun⟩ := Option.ite_none_right_eq_some.mp hnext
    obtain ⟨a, s', hround, rfl⟩ := run_some hrun
    have hs := hserves.resolve_left fun hover => by simp [hover.not_polling] at hpoll
    refine Send.pollCompleteRound_measured maxFrameSize ⟨hs, hmeasured, htracker⟩ (fun k tail hidx => ?_) _ _ hround
    obtain ⟨st, hk, hq⟩ := hc.queued (n := .opening) hidx
    exact ((hc.sound k st hk).opening hq).1
  | recvEof =>
    obtain ⟨a, s', hrun, rfl⟩ := next_recvEof hnext
    exact Inner.Measures.recvEof _ _ _ _ hrun hmeasured
  | dropConnection =>
    obtain ⟨a, s', hrun, rfl⟩ := next_dropConnection hnext
    exact Inner.Measures.recvEof _ _ _ _ hrun hmeasured
  | fillFrames flushed => simp [Connection.next, hspa] at hnext
  | _ => exact (hc.moves hnext).measures (fun k hno => hno) hmeasured

theorem Meters.next (hc : c.Settled) (h : c.Meters) (hnext : c.next e = some c') : c'.Meters :=
  ⟨h.1.next hc hnext, (hc.moves hnext).spaTracker_none h.2.1, h.measured_next hc hnext⟩

def Asks (c : Connection) (maxFrameSize : Nat) (k : Key) (s : Inner) : Prop :=
  c.isPolling = true ∧ Send.RoundAsks maxFrameSize c.streams k s

/-- `remaining_data_len` is the number of body bytes in the queue, and `pop_data_frame` makes progress as
long as the windows are open, unless the stream holds nothing of the connection window and the low 32
bits of `remaining_data_len` are 0. -/
theorem data_progress {role : Role} {config : ConnectionConfig} {debug : Bool} {events : List Event}
    (hspa : config.spaTracker = none)
    (h : (Connection.new role config debug).after events = some c) :
    (∀ k st, c.streams.get? k = some st → st.queuedLen = st.remainingDataLen.getD 0) ∧
    ∀ maxFrameSize k s, DEFAULT_MAX_FRAME_SIZE ≤ maxFrameSize → maxFrameSize ≤ MAX_MAX_FRAME_SIZE →
      c.Asks maxFrameSize k s → ∃ st, s.get? k = some st ∧ st.queuedLen = st.remainingDataLen.getD 0 ∧
        ∀ frame rest rem, st.pendingSend = .data frame :: rest → st.remainingDataLen = some rem → 0 < rem →
          (Send.Progresses s k st frame maxFrameSize ↔ ¬(Send.HasWindow s st ∧ Send.Truncated st rem)) := by
  obtain ⟨hc, hmeters⟩ := after_invariant (Settled.new role config debug) (Meters.new hspa role debug)
    (fun c e c' hc hI hnext => hI.next hc hnext) h
  refine ⟨fun k st hk => (hmeters.2.2 k st hk).resolve_left id, fun maxFrameSize k s hleast hmost hasks => ?_⟩
  obtain ⟨⟨-, hserves⟩, htracker, hmeasured⟩ := hmeters
  obtain ⟨hpoll, o, s₁, u, s₂, hopen, hpush, hasks⟩ := hasks
  have hs := hserves.resolve_left fun hover => by simp [hover.not_polling] at hpoll
  have hready : Send.Ready c.streams := ⟨hs, hmeasured, htracker⟩
  have hopened := hready.opened (fun k tail hidx => by
    obtain ⟨st, hk, hq⟩ := hc.queued (n := .opening) hidx
    exact ((hc.sound k st hk).opening hq).1) hopen hpush
  obtain ⟨hasked, st, hk, hdue⟩ := Send.Ready.asked hasks hopened
  refine ⟨st, hk, (hasked.measured k st hk).resolve_left id, fun frame rest rem hqueue hrem hpos => ?_⟩
  have hmax : 0 < maxFrameSize ∧ maxFrameSize < 2 ^ 32 := by
    simp only [DEFAULT_MAX_FRAME_SIZE, MAX_MAX_FRAME_SIZE] at hleast hmost
    omega
  exact hasked.progresses_iff hk hdue hmax hqueue hrem hpos

end Connection

end

section

attribute [local instance] plain plainCrates

def requested : Connection :=
  ((Connection.new .client plainConfig true).next (.sendRequest (plainRequest (some [0])))).getD
    (Connection.new .client plainConfig true)

def bodied (len : Nat) (body : Bytes) : Connection :=
  { requested with
    streams := requested.streams.put ⟨0, 1⟩
      (((requested.streams.get? ⟨0, 1⟩).map fun st =>
        { st with
          remainingDataLen := some len
          pendingSend := st.pendingSend.take 1 ++ [.data ((Data.new 1 body).setEndStream true)] }).getD
        (Stream.new 0 0 0)) }

theorem next_sendRequest_body (body : Bytes) :
    (Connection.new .client plainConfig true).next (.sendRequest (plainRequest (some body))) =
      some (bodied body.length body) := by
  with_unfolding_all rfl

def hugeBody : Bytes := List.replicate 4294967296 0

def askProbe (c : Connection) : Option (Option Key × Bool × Option Nat × Nat × Nat × Nat) :=
  if c.isPolling then do
    let (o, s₁) ← Send.popPendingOpen c.streams
    let (_, s₂) ← M.whenSome o (fun k => do let _ ← M.pushFront .send k) s₁
    let (k, s₀) ← M.pop .send s₂
    let st ← s₀.get? ⟨0, 1⟩
    let (_, s) ← M.when (st.state.isRemoteReset || st.state.getScheduledReset == some Reason.CANCEL)
      (Send.clearStreamQueue ⟨0, 1⟩) s₀
    let st ← s.get? ⟨0, 1⟩
    some (k, (st.pendingSend.head?.map Frame.isData).getD false, st.remainingDataLen,
      st.connectionWindowAllocated, st.sendFlow.available, s.send.flow.available)
  else none

theorem askProbe_some {c : Connection} {o : Option Nat} {allocated stream conn : Nat}
    (hprobe : askProbe c = some (some ⟨0, 1⟩, true, o, allocated, stream, conn)) :
    ∃ s st frame rest, c.Asks DEFAULT_MAX_FRAME_SIZE ⟨0, 1⟩ s ∧ s.get? ⟨0, 1⟩ = some st ∧
      st.pendingSend = .data frame :: rest ∧ st.remainingDataLen = o ∧
      st.connectionWindowAllocated = allocated ∧ st.sendFlow.available = stream ∧
      s.send.flow.available = conn := by
  obtain ⟨hpoll, hprobe⟩ := Option.ite_none_right_eq_some.mp hprobe
  obtain ⟨⟨o, s₁⟩, hopen, hprobe⟩ := Option.bind_eq_some_iff.mp hprobe
  obtain ⟨⟨u, s₂⟩, hpush, hprobe⟩ := Option.bind_eq_some_iff.mp hprobe
  obtain ⟨⟨k, s₀⟩, hpop, hprobe⟩ := Option.bind_eq_some_iff.mp hprobe
  obtain ⟨st₀, hk₀, hprobe⟩ := Option.bind_eq_some_iff.mp hprobe
  obtain ⟨⟨u, s⟩, hclear, hprobe⟩ := Option.bind_eq_some_iff.mp hprobe
  obtain ⟨st, hk, hprobe⟩ := Option.bind_eq_some_iff.mp hprobe
  simp only [Option.some.injEq, Prod.mk.injEq] at hprobe
  obtain ⟨rfl, hdata, hrem, hallocated, hstream, hconn⟩ := hprobe
  have hqueue : ∃ frame rest, st.pendingSend = .data frame :: rest := by
    cases hq : st.pendingSend with
    | nil => simp [hq] at hdata
    | cons front rest =>
      cases front with
      | data frame => exact ⟨frame, rest, rfl⟩
      | _ => simp [hq, Frame.isData] at hdata
  obtain ⟨frame, rest, hqueue⟩ := hqueue
  exact ⟨s, st, frame, rest, ⟨hpoll, o, s₁, _, s₂, hopen, hpush, .first hpop hk₀ hclear⟩, hk, hqueue, hrem,
    hallocated, hstream, hconn⟩

theorem askProbe_huge :
    ((bodied 4294967296 hugeBody).next (.pollComplete DEFAULT_MAX_FRAME_SIZE)).bind askProbe =
      some (some ⟨0, 1⟩, true, some 4294967296, 0, 65535, 65535) := by
  decide +kernel

/-- A body of 4 GiB stalls although both windows are open. -/
theorem huge_body_stalls : ∃ c s st frame rest, (Connection.new .client plainConfig true).after
      [.sendRequest (plainRequest (some hugeBody)), .pollComplete DEFAULT_MAX_FRAME_SIZE] = some c ∧
    c.Asks DEFAULT_MAX_FRAME_SIZE ⟨0, 1⟩ s ∧ s.get? ⟨0, 1⟩ = some st ∧ st.pendingSend = .data frame :: rest ∧
    st.remainingDataLen = some (2 ^ 32) ∧ Send.HasWindow s st ∧
    ¬Send.Progresses s ⟨0, 1⟩ st frame DEFAULT_MAX_FRAME_SIZE := by
  have hlen : hugeBody.length = 4294967296 := List.length_replicate
  obtain ⟨c, hround, hprobe⟩ := Option.bind_eq_some_iff.mp askProbe_huge
  obtain ⟨s, st, frame, rest, hasks, hk, hqueue, hrem, hallocated, hstream, hconn⟩ := askProbe_some hprobe
  have hwindow : Send.HasWindow s st := ⟨by omega, Or.inr (by omega)⟩
  refine ⟨c, s, st, frame, rest, ?_, hasks, hk, hqueue, hrem, hwindow, ?_⟩
  · simp only [Connection.after, List.foldlM_cons, List.foldlM_nil, next_sendRequest_body, hlen]
    rw [Option.bind_eq_bind, Option.bind_some, hround]
    rfl
  · rintro ⟨s', hfront, hsends, -⟩
    obtain ⟨d, s'', hsent, -⟩ := hsends hwindow
    have hk' : s'.get? ⟨0, 1⟩ = some { st with pendingSend := rest } := by
      rcases Moves.popFrontSend_ends hk _ _ hfront with ⟨hno, -⟩ | ⟨_, _, -, hcons, hself⟩
      · cases hno
      · cases hqueue.symm.trans hcons
        exact hself
    cases Send.popDataFrame_truncated hk' hrem (by decide) ⟨hallocated, rfl⟩ _ _ _ _ hsent

theorem data_progress_body : ∃ c s st frame rest, (Connection.new .client plainConfig true).after
      [.sendRequest (plainRequest (some [1, 2, 3])), .pollComplete DEFAULT_MAX_FRAME_SIZE] = some c ∧
    (∀ k st, c.streams.get? k = some st → st.queuedLen = st.remainingDataLen.getD 0) ∧
    c.Asks DEFAULT_MAX_FRAME_SIZE ⟨0, 1⟩ s ∧ s.get? ⟨0, 1⟩ = some st ∧ st.queuedLen = 3 ∧
    st.pendingSend = .data frame :: rest ∧ Send.HasWindow s st ∧
    Send.Progresses s ⟨0, 1⟩ st frame DEFAULT_MAX_FRAME_SIZE := by
  have hprobe : ((Connection.new .client plainConfig true).after
      [.sendRequest (plainRequest (some [1, 2, 3])), .pollComplete DEFAULT_MAX_FRAME_SIZE]).bind askProbe =
        some (some ⟨0, 1⟩, true, some 3, 3, 65535, 65532) := by
    decide +kernel
  obtain ⟨c, hc, hprobe⟩ := Option.bind_eq_some_iff.mp hprobe
  obtain ⟨s, st, frame, rest, hasks, hk, hqueue, hrem, hallocated, hstream, hconn⟩ := askProbe_some hprobe
  obtain ⟨hall, hasked⟩ := Connection.data_progress rfl hc
  obtain ⟨st', hk', hlen, hiff⟩ := hasked DEFAULT_MAX_FRAME_SIZE ⟨0, 1⟩ s (Nat.le_refl _) (by decide) hasks
  cases hk.symm.trans hk'
  refine ⟨c, s, st, frame, rest, hc, hall, hasks, hk, ?_, hqueue, ⟨by omega, Or.inr (by omega)⟩, ?_⟩
  · rw [hlen, hrem]
    rfl
  · refine (hiff frame rest 3 hqueue hrem (by decide)).mpr ?_
    rintro ⟨-, -, hcast⟩
    cases hcast

end

end TwoPlz
