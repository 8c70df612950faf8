import TwoPlz.Streams.RecvFrames

/-! What the events of a connection leave alone. -/

namespace TwoPlz

variable [HeaderPlz] [StoreCrates] {α : Type} {R : Inner → Inner → Prop} {c c' : Connection}

namespace Connection

theorem run_eq {m : M α} {a : α} {s' : Inner} (h : m c.streams = some (a, s')) :
    c.run m = some { c with streams := s' } := by
  simp only [run, h, Option.map_some]

theorem run_some {m : M α} (h : c.run m = some c') :
    ∃ a s', m c.streams = some (a, s') ∧ c' = { c with streams := s' } := by
  obtain ⟨⟨a, s'⟩, hm, rfl⟩ := Option.map_eq_some_iff.mp h
  exact ⟨a, s', hm, rfl⟩

theorem recv_some {m : M (Except ProtoError Unit)} (h : c.recv m = some c') :
    ∃ res s', m c.streams = some (res, s') ∧
      c' = { c with
        streams := s'
        result := match res with
          | .ok () => none
          | .error e => some (.error e) } := by
  obtain ⟨⟨res, s'⟩, hm, rfl⟩ := Option.map_eq_some_iff.mp h
  exact ⟨res, s', hm, rfl⟩

theorem goAwayNow_some {reason : Nat} {data : Bytes} (h : c.goAwayNow reason data = some c') :
    ∃ g, c' = { c with goAway := g } ∧ g.closeNow = true := by
  obtain ⟨g, hg, rfl⟩ := Option.map_eq_some_iff.mp h
  refine ⟨g, rfl, ?_⟩
  simp only [GoAwayHandler.goAwayNow] at hg
  split at hg
  · cases hg
    rfl
  · simp only [GoAwayHandler.enqueueGoAway] at hg
    split at hg
    · cases hg
    · cases hg
      rfl

theorem goAwayGraceful_some {id : Nat} (h : c.goAwayGraceful id = some c') :
    ∃ s' g, Recv.goAway id c.streams = some ((), s') ∧ c' = { c with streams := s', goAway := g } ∧
      g.closeNow = c.goAway.closeNow := by
  obtain ⟨c₁, hrun, h⟩ := Option.bind_eq_some_iff.mp h
  obtain ⟨g, hg, h⟩ := Option.bind_eq_some_iff.mp h
  cases h
  obtain ⟨a, s', hm, rfl⟩ := run_some hrun
  refine ⟨s', g, hm, rfl, ?_⟩
  simp only [GoAwayHandler.enqueueGoAway] at hg
  split at hg
  · cases hg
  · cases hg
    rfl

theorem sendPendingGoAway_some (h : c.sendPendingGoAway = some c') :
    ∃ result, c' = { c with goAway.pending := none, result := result } ∧
      (result = c.result ∨ c.goAway.closeNow = true) := by
  simp only [sendPendingGoAway] at h
  split at h
  · cases h
    exact ⟨_, rfl, Or.inl rfl⟩
  · split at h
    · rename_i hclose
      cases h
      exact ⟨_, rfl, Or.inr hclose⟩
    · split at h
      · cases h
      · cases h
        exact ⟨_, rfl, Or.inl rfl⟩

theorem next_abruptShutdown {reason : Nat} (h : c.next (.abruptShutdown reason) = some c') :
    ∃ g, g.closeNow = true ∧
      ({ c with goAway := g }).run (Inner.handleError (ProtoError.userGoAway reason)) = some c' := by
  obtain ⟨c₁, hgo, hrun⟩ := Option.bind_eq_some_iff.mp (Option.ite_none_right_eq_some.mp h).2
  obtain ⟨g, rfl, hclose⟩ := goAwayNow_some hgo
  exact ⟨g, hclose, hrun⟩

theorem next_gracefulShutdown (h : c.next .gracefulShutdown = some c') :
    c' = c ∨ ∃ s' g, Recv.goAway StreamId.max c.streams = some ((), s') ∧
      c' = { c with streams := s', goAway := g, shutdownPing := true } ∧
      g.closeNow = c.goAway.closeNow := by
  obtain ⟨-, h⟩ := Option.ite_none_right_eq_some.mp h
  split at h
  · exact Or.inl (Option.some.inj h).symm
  · obtain ⟨c₁, hgo, rfl⟩ := Option.map_eq_some_iff.mp h
    obtain ⟨s', g, hrun, rfl, hclose⟩ := goAwayGraceful_some hgo
    exact Or.inr ⟨s', g, hrun, rfl, hclose⟩

theorem next_recvShutdownPong (h : c.next .recvShutdownPong = some c') :
    ∃ s' g, Recv.goAway c.streams.recv.lastProcessedId c.streams = some ((), s') ∧
      c' = { c with streams := s', goAway := g, shutdownPing := false } := by
  obtain ⟨c₁, hgo, rfl⟩ := Option.map_eq_some_iff.mp (Option.ite_none_right_eq_some.mp h).2
  obtain ⟨s', g, hrun, rfl, -⟩ := goAwayGraceful_some hgo
  exact ⟨s', g, hrun, rfl⟩

theorem next_dropConnection (h : c.next .dropConnection = some c') :
    ∃ a s', Inner.recvEof true c.streams = some (a, s') ∧
      c' = { c with streams := s', isDone := true } := by
  obtain ⟨c₁, hrun, h⟩ := Option.bind_eq_some_iff.mp h
  obtain ⟨a, s', hm, rfl⟩ := run_some hrun
  exact ⟨a, s', hm, (Option.some.inj h).symm⟩

theorem next_recvEof (h : c.next .recvEof = some c') :
    ∃ a s', Inner.recvEof false c.streams = some (a, s') ∧
      c' = { c with streams := s', result := some (.ok ()) } := by
  obtain ⟨c₁, hrun, rfl⟩ := Option.map_eq_some_iff.mp (Option.ite_none_right_eq_some.mp h).2
  obtain ⟨a, s', hm, rfl⟩ := run_some hrun
  exact ⟨a, s', hm, rfl⟩

theorem next_recvGoAway {frame : GoAway} (h : c.next (.recvGoAway frame) = some c') :
    ∃ res s' error result, Inner.recvGoAway frame c.streams = some (res, s') ∧
      c' = { c with streams := s', error := error, result := result } := by
  obtain ⟨c₁, hrecv, heq⟩ := Option.map_eq_some_iff.mp (Option.ite_none_right_eq_some.mp h).2
  obtain ⟨res, s', hm, rfl⟩ := recv_some hrecv
  refine ⟨res, s', c'.error, c'.result, hm, ?_⟩
  rw [← heq]
  cases res <;> rfl

theorem keeps_run {m : M α} (hm : Keeps R m) (h : c.run m = some c') : R c.streams c'.streams := by
  obtain ⟨a, s', hrun, rfl⟩ := run_some h
  exact hm _ _ _ hrun

theorem keeps_recv {m : M (Except ProtoError Unit)} (hm : Keeps R m) (h : c.recv m = some c') :
    R c.streams c'.streams := by
  obtain ⟨res, s', hrun, rfl⟩ := recv_some h
  exact hm _ _ _ hrun

end Connection

open Connection

namespace BlindHandle

theorem poll2GoAway (hR : BlindHandle R) {data : Bytes} {reason : Nat} {initiator : Initiator}
    (h : c.poll2GoAway data reason initiator = some c') : R c.streams c'.streams := by
  simp only [Connection.poll2GoAway] at h
  split at h
  · cases h
    exact hR.refl _
  · obtain ⟨c₁, hrun, h⟩ := Option.bind_eq_some_iff.mp h
    have hfirst : R c.streams c₁.streams := keeps_run (hR.innerHandleError _) hrun
    obtain ⟨g, rfl, -⟩ := goAwayNow_some h
    exact hfirst

theorem resetResult (hR : BlindHandle R) {id reason : Nat} (h : c.resetResult id reason = some c') :
    R c.streams c'.streams := by
  obtain ⟨⟨res, s'⟩, hrun, h⟩ := Option.bind_eq_some_iff.mp h
  have hfirst : R c.streams s' := hR.innerSendReset _ _ _ _ _ hrun
  cases res with
  | ok u =>
    cases h
    exact hfirst
  | error e => exact hR.trans _ _ _ hfirst (hR.poll2GoAway h)

theorem handlePoll2Result (hR : BlindHandle R) {result : Except ProtoError Unit}
    (h : c.handlePoll2Result result = some c') : R c.streams c'.streams := by
  unfold Connection.handlePoll2Result at h
  split at h
  · cases h
    exact hR.refl _
  · exact hR.poll2GoAway h
  · split at h
    · cases h
    · exact hR.resetResult h
  · obtain ⟨c₁, hrun, h⟩ := Option.bind_eq_some_iff.mp h
    have hfirst : R c.streams c₁.streams := keeps_run (hR.innerHandleError _) hrun
    cases h
    exact hfirst

/-- Everything but DATA, HEADERS, the SETTINGS of the peer and the frames that wait in a slot. -/
theorem next (hR : BlindHandle R) {e : Event} (h : c.next e = some c') (hdata : ∀ f, e ≠ .recvData f)
    (hheaders : ∀ f, e ≠ .recvHeaders f) (hrefusal : e ≠ .sendPendingRefusal)
    (hpoll : ∀ ready, e ≠ .pollWindowUpdate ready) (hset : ∀ s, e ≠ .applyRemoteSettings s) :
    R c.streams c'.streams := by
  cases e with
  | recvData f => exact absurd rfl (hdata f)
  | recvHeaders f => exact absurd rfl (hheaders f)
  | sendPendingRefusal => exact absurd rfl hrefusal
  | pollWindowUpdate ready => exact absurd rfl (hpoll ready)
  | applyRemoteSettings s => exact absurd rfl (hset s)
  | sendRequest request =>
    exact keeps_run (hR.sendRequest _ _) (Option.ite_none_right_eq_some.mp h).2
  | sendResponse k response =>
    exact keeps_run (hR.sendResponse _ _) (Option.ite_none_right_eq_some.mp h).2
  | sendReset k reason =>
    exact keeps_run (hR.refSendReset _ _) (Option.ite_none_right_eq_some.mp h).2
  | cloneRef k => exact keeps_run (hR.newRef _) (Option.ite_none_right_eq_some.mp h).2
  | dropRef k => exact keeps_run (hR.drop _) (Option.ite_none_right_eq_some.mp h).2
  | pollResponse k waker =>
    exact keeps_run (hR.pollResponse _ _) (Option.ite_none_right_eq_some.mp h).2
  | takePartialResponse k =>
    exact keeps_run (hR.takeResponse _) (Option.ite_none_right_eq_some.mp h).2
  | cloneStreams =>
    obtain ⟨-, h⟩ := Option.ite_none_right_eq_some.mp h
    cases h
    exact hR.refs _ _
  | dropStreams =>
    obtain ⟨-, h⟩ := Option.ite_none_right_eq_some.mp h
    cases h
    exact hR.trans _ _ _ (hR.refs c.streams (c.streams.refs - 1)) (hR.task _ _)
  | accept => exact keeps_run hR.accept (Option.ite_none_right_eq_some.mp h).2
  | abruptShutdown reason =>
    obtain ⟨g, -, hrun⟩ := next_abruptShutdown h
    have hrest := keeps_run (hR.innerHandleError _) hrun
    exact hrest
  | gracefulShutdown =>
    obtain rfl | ⟨s', g, hrun, rfl, -⟩ := next_gracefulShutdown h
    · exact hR.refl _
    · exact hR.goAway _ _ _ _ hrun
  | dropConnection =>
    obtain ⟨a, s', hrun, rfl⟩ := next_dropConnection h
    exact hR.innerRecvEof _ _ _ _ hrun
  | recvReset frame => exact keeps_recv (hR.innerRecvReset _) (Option.ite_none_right_eq_some.mp h).2
  | recvGoAway frame =>
    obtain ⟨res, s', error, result, hrun, rfl⟩ := next_recvGoAway h
    exact hR.innerRecvGoAway _ _ _ _ hrun
  | recvWindowUpdate frame =>
    exact keeps_recv (hR.recvWindowUpdate _) (Option.ite_none_right_eq_some.mp h).2
  | recvShutdownPong =>
    obtain ⟨s', g, hrun, rfl⟩ := next_recvShutdownPong h
    exact hR.goAway _ _ _ _ hrun
  | recvError e =>
    obtain ⟨-, h⟩ := Option.ite_none_right_eq_some.mp h
    cases h
    exact hR.refl _
  | recvEof =>
    obtain ⟨a, s', hrun, rfl⟩ := next_recvEof h
    exact hR.innerRecvEof _ _ _ _ hrun
  | applyLocalSettings settings =>
    exact keeps_recv (hR.applyLocalSettings _) (Option.ite_none_right_eq_some.mp h).2
  | sendPendingGoAway =>
    obtain ⟨result, rfl, -⟩ := sendPendingGoAway_some (Option.ite_none_right_eq_some.mp h).2
    exact hR.refl _
  | clearExpiredResetStreams =>
    exact keeps_run hR.clearExpiredResetStreams (Option.ite_none_right_eq_some.mp h).2
  | pollComplete maxFrameSize =>
    exact keeps_run (hR.pollCompleteRound _) (Option.ite_none_right_eq_some.mp h).2
  | parkTask waker =>
    obtain ⟨-, h⟩ := Option.ite_none_right_eq_some.mp h
    cases h
    exact hR.task _ _
  | fillFrames flushed => exact keeps_run (hR.fillFrames _) (Option.ite_none_right_eq_some.mp h).2
  | goAwayIfIdle =>
    obtain ⟨g, rfl, -⟩ := goAwayNow_some (Option.ite_none_right_eq_some.mp h).2
    exact hR.refl _
  | handleResult =>
    obtain ⟨result, -, h⟩ := Option.bind_eq_some_iff.mp h
    split at h
    · cases h
    · have hrest := hR.handlePoll2Result h
      exact hrest
  | tick duration =>
    cases h
    exact hR.now _ _

end BlindHandle

/-- Everything but DATA, the connection window update and the SETTINGS of the peer. -/
theorem BlindRecv.next (hR : BlindRecv R) {e : Event} (h : c.next e = some c')
    (hdata : ∀ f, e ≠ .recvData f) (hpoll : ∀ ready, e ≠ .pollWindowUpdate ready)
    (hset : ∀ s, e ≠ .applyRemoteSettings s) : R c.streams c'.streams := by
  by_cases hheaders : ∃ frame, e = .recvHeaders frame
  · obtain ⟨frame, rfl⟩ := hheaders
    exact keeps_recv (hR.innerRecvHeaders hR.refused _) (Option.ite_none_right_eq_some.mp h).2
  · by_cases hrefusal : e = .sendPendingRefusal
    · subst hrefusal
      obtain ⟨-, h⟩ := Option.ite_none_right_eq_some.mp h
      cases h
      exact hR.refused _ _
    · exact hR.toBlindHandle.next h hdata (fun f hf => hheaders ⟨f, hf⟩) hrefusal hpoll hset

namespace Connection

/-- The connection will not read a frame again, be it after an error or after an orderly end. -/
def Failed (c : Connection) : Prop :=
  c.state ≠ .opened ∨ c.isDone = true ∨ c.goAway.closeNow = true ∨
    ∃ data reason initiator, c.result = some (.error (.goAway data reason initiator))

theorem Failed.not_canRecv (h : c.Failed) : c.canRecv = false := by
  rcases h with h | h | h | ⟨data, reason, initiator, h⟩
  · simp [canRecv, isPolling, h]
  · simp [canRecv, isPolling, h]
  · simp [canRecv, h]
  · simp [canRecv, isPolling, h]

theorem Failed.of_eq (h : c.Failed) (hstate : c'.state = c.state) (hdone : c'.isDone = c.isDone)
    (hclose : c'.goAway.closeNow = c.goAway.closeNow) (hresult : c'.result = c.result) : c'.Failed := by
  unfold Failed
  rwa [hstate, hdone, hclose, hresult]

theorem Failed.run {m : M α} (h : c.Failed) (hrun : c.run m = some c') : c'.Failed := by
  obtain ⟨a, s', -, rfl⟩ := run_some hrun
  exact h

theorem Failed.of_polling (h : c.Failed) (hpoll : c.isPolling = true)
    (hclose : c.goAway.closeNow = true → c'.goAway.closeNow = true) : c'.Failed := by
  simp only [isPolling, Bool.and_eq_true, Bool.not_eq_true', beq_iff_eq, Option.isNone_iff_eq_none] at hpoll
  obtain ⟨⟨hstate, hresult⟩, hdone⟩ := hpoll
  rcases h with h | h | h | ⟨data, reason, initiator, h⟩
  · exact absurd hstate h
  · exact absurd h (by simp [hdone])
  · exact Or.inr (Or.inr (Or.inl (hclose h)))
  · exact absurd h (by simp [hresult])

theorem Failed.poll2GoAway {data : Bytes} {reason : Nat} {initiator : Initiator}
    (h : c.poll2GoAway data reason initiator = some c') : c'.Failed := by
  simp only [Connection.poll2GoAway] at h
  split at h
  · cases h
    exact Or.inl (by simp)
  · obtain ⟨c₁, hrun, h⟩ := Option.bind_eq_some_iff.mp h
    obtain ⟨g, rfl, hclose⟩ := goAwayNow_some h
    exact Or.inr (Or.inr (Or.inl hclose))

theorem Failed.handleResult (h : c.Failed) (hnext : c.next .handleResult = some c') : c'.Failed := by
  obtain ⟨result, hresult, hnext⟩ := Option.bind_eq_some_iff.mp hnext
  split at hnext
  · cases hnext
  · have hrest : ({ c with result := none } : Connection).Failed ∨
        ∃ data reason initiator, result = .error (.goAway data reason initiator) := by
      rcases h with h | h | h | ⟨data, reason, initiator, h⟩
      · exact Or.inl (Or.inl h)
      · exact Or.inl (Or.inr (Or.inl h))
      · exact Or.inl (Or.inr (Or.inr (Or.inl h)))
      · exact Or.inr ⟨data, reason, initiator, Option.some.inj (hresult.symm.trans h)⟩
    unfold handlePoll2Result at hnext
    split at hnext
    · cases hnext
      exact Or.inl (by simp)
    · exact Failed.poll2GoAway hnext
    · have hfail : ({ c with result := none } : Connection).Failed := by
        rcases hrest with hrest | ⟨_, _, _, hno⟩
        · exact hrest
        · cases hno
      split at hnext
      · cases hnext
      · obtain ⟨⟨res, s'⟩, hrun, hnext⟩ := Option.bind_eq_some_iff.mp hnext
        cases res with
        | ok u =>
          cases hnext
          exact hfail
        | error e => exact Failed.poll2GoAway hnext
    · obtain ⟨c₁, hrun, hnext⟩ := Option.bind_eq_some_iff.mp hnext
      cases hnext
      exact Or.inr (Or.inl rfl)

theorem Failed.next {e : Event} (h : c.Failed) (hnext : c.next e = some c') : c'.Failed := by
  have hcan : c.canRecv = false := h.not_canRecv
  cases e with
  | sendRequest request => exact h.run (Option.ite_none_right_eq_some.mp hnext).2
  | sendResponse k response => exact h.run (Option.ite_none_right_eq_some.mp hnext).2
  | sendReset k reason => exact h.run (Option.ite_none_right_eq_some.mp hnext).2
  | cloneRef k => exact h.run (Option.ite_none_right_eq_some.mp hnext).2
  | dropRef k => exact h.run (Option.ite_none_right_eq_some.mp hnext).2
  | pollResponse k waker => exact h.run (Option.ite_none_right_eq_some.mp hnext).2
  | takePartialResponse k => exact h.run (Option.ite_none_right_eq_some.mp hnext).2
  | cloneStreams =>
    obtain ⟨-, hnext⟩ := Option.ite_none_right_eq_some.mp hnext
    cases hnext
    exact h
  | dropStreams =>
    obtain ⟨-, hnext⟩ := Option.ite_none_right_eq_some.mp hnext
    cases hnext
    exact h
  | accept => exact h.run (Option.ite_none_right_eq_some.mp hnext).2
  | abruptShutdown reason =>
    obtain ⟨g, hclose, hrun⟩ := next_abruptShutdown hnext
    exact Failed.run (Or.inr (Or.inr (Or.inl hclose))) hrun
  | gracefulShutdown =>
    obtain rfl | ⟨s', g, -, rfl, hclose⟩ := next_gracefulShutdown hnext
    · exact h
    · exact h.of_eq rfl rfl hclose rfl
  | dropConnection =>
    obtain ⟨a, s', -, rfl⟩ := next_dropConnection hnext
    exact Or.inr (Or.inl rfl)
  | sendPendingGoAway =>
    obtain ⟨hpoll, hnext⟩ := Option.ite_none_right_eq_some.mp hnext
    obtain ⟨result, rfl, -⟩ := sendPendingGoAway_some hnext
    exact h.of_polling hpoll id
  | sendPendingRefusal =>
    obtain ⟨-, hnext⟩ := Option.ite_none_right_eq_some.mp hnext
    cases hnext
    exact h
  | pollWindowUpdate ready => exact h.run (Option.ite_none_right_eq_some.mp hnext).2
  | clearExpiredResetStreams => exact h.run (Option.ite_none_right_eq_some.mp hnext).2
  | pollComplete maxFrameSize => exact h.run (Option.ite_none_right_eq_some.mp hnext).2
  | parkTask waker =>
    obtain ⟨-, hnext⟩ := Option.ite_none_right_eq_some.mp hnext
    cases hnext
    exact h
  | fillFrames flushed => exact h.run (Option.ite_none_right_eq_some.mp hnext).2
  | goAwayIfIdle =>
    obtain ⟨g, rfl, hclose⟩ := goAwayNow_some (Option.ite_none_right_eq_some.mp hnext).2
    exact Or.inr (Or.inr (Or.inl hclose))
  | handleResult => exact h.handleResult hnext
  | tick duration =>
    cases hnext
    exact h
  | recvShutdownPong =>
    simp [Connection.next, hcan] at hnext
  | _ =>
    -- what is left reads a frame
    exact absurd (Option.ite_none_right_eq_some.mp hnext).1 (by simp [hcan])

theorem isSpa_poll2GoAway {data : Bytes} {reason : Nat} {initiator : Initiator}
    (h : c.poll2GoAway data reason initiator = some c') : c'.isSpa = c.isSpa := by
  simp only [Connection.poll2GoAway] at h
  split at h
  · cases h
    rfl
  · obtain ⟨c₁, hrun, h⟩ := Option.bind_eq_some_iff.mp h
    obtain ⟨_, _, -, rfl⟩ := run_some hrun
    obtain ⟨g, rfl, -⟩ := goAwayNow_some h
    rfl

theorem isSpa_handlePoll2Result {result : Except ProtoError Unit}
    (h : c.handlePoll2Result result = some c') : c'.isSpa = c.isSpa := by
  unfold handlePoll2Result at h
  split at h
  · cases h
    rfl
  · exact isSpa_poll2GoAway h
  · split at h
    · cases h
    · obtain ⟨⟨res, s'⟩, -, h⟩ := Option.bind_eq_some_iff.mp h
      cases res with
      | ok u =>
        cases h
        rfl
      | error e =>
        have hsame := isSpa_poll2GoAway h
        exact hsame
  · obtain ⟨c₁, hrun, h⟩ := Option.bind_eq_some_iff.mp h
    obtain ⟨_, _, -, rfl⟩ := run_some hrun
    cases h
    rfl

theorem next_isSpa {e : Event} (h : c.next e = some c') : c'.isSpa = c.isSpa := by
  have hrun : ∀ {α : Type} {m : M α} {c'}, c.run m = some c' → c'.isSpa = c.isSpa := by
    intro α m c' h
    obtain ⟨_, _, -, rfl⟩ := run_some h
    rfl
  have hrecv : ∀ {m : M (Except ProtoError Unit)} {c'}, c.recv m = some c' → c'.isSpa = c.isSpa := by
    intro m c' h
    obtain ⟨_, _, -, rfl⟩ := recv_some h
    rfl
  cases e with
  | abruptShutdown reason =>
    obtain ⟨g, -, hrest⟩ := next_abruptShutdown h
    obtain ⟨_, _, -, rfl⟩ := run_some hrest
    rfl
  | gracefulShutdown =>
    obtain rfl | ⟨s', g, -, rfl, -⟩ := next_gracefulShutdown h
    · rfl
    · rfl
  | dropConnection =>
    obtain ⟨a, s', -, rfl⟩ := next_dropConnection h
    rfl
  | recvGoAway frame =>
    obtain ⟨res, s', error, result, -, rfl⟩ := next_recvGoAway h
    rfl
  | recvShutdownPong =>
    obtain ⟨s', g, -, rfl⟩ := next_recvShutdownPong h
    rfl
  | recvEof =>
    obtain ⟨a, s', -, rfl⟩ := next_recvEof h
    rfl
  | sendPendingGoAway =>
    obtain ⟨result, rfl, -⟩ := sendPendingGoAway_some (Option.ite_none_right_eq_some.mp h).2
    rfl
  | goAwayIfIdle =>
    obtain ⟨g, rfl, -⟩ := goAwayNow_some (Option.ite_none_right_eq_some.mp h).2
    rfl
  | handleResult =>
    obtain ⟨result, -, h⟩ := Option.bind_eq_some_iff.mp h
    split at h
    · cases h
    · have hsame := isSpa_handlePoll2Result h
      exact hsame
  | cloneStreams | dropStreams | recvError e | sendPendingRefusal | parkTask waker =>
    obtain ⟨-, h⟩ := Option.ite_none_right_eq_some.mp h
    cases h
    rfl
  | tick duration =>
    cases h
    rfl
  | recvData frame | recvHeaders frame | recvReset frame | recvWindowUpdate frame
  | applyRemoteSettings frame | applyLocalSettings frame =>
    exact hrecv (Option.ite_none_right_eq_some.mp h).2
  | _ => exact hrun (Option.ite_none_right_eq_some.mp h).2

end Connection

/-! The role. -/

theorem sameRole_blind : BlindFlow fun s s' : Inner => s'.counts.role = s.counts.role where
  refl _ := rfl
  trans _ _ _ h h' := h'.trans h
  store _ _ := rfl
  queue _ n _ := by cases n <;> rfl
  flow _ _ := rfl
  task _ _ := rfl
  sendBuffer _ _ := rfl
  recvBuffer _ _ := rfl
  spa _ _ := rfl
  lastOpened _ _ := rfl
  numSend _ _ := rfl
  numRecv _ _ := rfl
  numReset _ _ := rfl
  lastProcessed _ _ := rfl
  refused _ _ := rfl
  nextRecv _ _ := rfl
  nextSend _ _ := rfl
  maxRecv _ _ := rfl
  maxSend _ _ := rfl
  checkConnection _ := rfl
  checkStream _ _ := rfl
  initWindow _ _ := rfl
  extended _ _ := rfl
  remoteReset _ _ := rfl
  errorReset _ _ := rfl
  connError _ _ := rfl
  refs _ _ := rfl
  now _ _ := rfl
  recvFlow _ _ := rfl

theorem Connection.next_role {e : Event} (h : c.next e = some c') :
    c'.streams.counts.role = c.streams.counts.role := by
  by_cases hdata : ∃ frame, e = .recvData frame
  · obtain ⟨frame, rfl⟩ := hdata
    exact keeps_recv (sameRole_blind.innerRecvData _) (Option.ite_none_right_eq_some.mp h).2
  · by_cases hpoll : ∃ ready, e = .pollWindowUpdate ready
    · obtain ⟨ready, rfl⟩ := hpoll
      exact keeps_run (sameRole_blind.pollWindowUpdate sameRole_blind.recvFlow (fun _ => rfl) _)
        (Option.ite_none_right_eq_some.mp h).2
    · by_cases hset : ∃ settings, e = .applyRemoteSettings settings
      · obtain ⟨settings, rfl⟩ := hset
        exact keeps_recv (sameRole_blind.applyRemoteSettings (fun _ _ => rfl) (fun _ _ => rfl)
          (fun _ _ => rfl) (fun _ _ => rfl) _) (Option.ite_none_right_eq_some.mp h).2
      · exact sameRole_blind.next h (fun f hf => hdata ⟨f, hf⟩) (fun r hr => hpoll ⟨r, hr⟩)
          fun s hs => hset ⟨s, hs⟩

end TwoPlz
