import TwoPlz.Plain
import TwoPlz.Settled
import TwoPlz.Streams.Serving

/-! The assertions of the sender over the runs of a connection without a `SpaTracker`. -/

namespace TwoPlz

section

variable [HeaderPlz] [StoreCrates]

namespace Send.Asserting

open M Checked

variable {s : Inner} {k : Key} {st : Stream}

structure Fresh (st : Stream) : Prop where
  queue : st.pendingSend = []
  body : st.isSendingTrailer = false
  rem : st.remainingDataLen = none
  send : st.isPendingSend = false

omit [StoreCrates] in
theorem Fresh.queued {debug : Bool} (h : Fresh st) (header : Headers) :
    Stream.Posted debug { st with pendingSend := st.pendingSend ++ [.headers header] } where
  body hdata := by simp [Stream.hasData, h.queue, Frame.isData] at hdata
  trailers htrailer := absurd htrailer (by simp [h.body])
  single := by simp [Stream.trailers, h.queue, Frame.isData]
  last htrailer := absurd htrailer (by simp [h.body])
  held hheld := absurd hheld (by simp [h.rem])
  queued _ _ := Or.inl (by simp)
  apart _ hq := absurd hq (by simp [h.send])

theorem sendHeaders_posted {frame : Headers} (hid : frame.streamId = k.streamId)
    (hk : s.get? k = some st) (hst : Fresh st)
    (hshaped : s.Each fun _ st => st.Shaped) :
    Ends s (Send.sendHeaders frame k) fun res s' => res = .ok () → PostedAt k s' := by
  unfold Send.sendHeaders
  split
  · exact Ends.pure nofun
  · refine Ends.resolve_bind fun _ hst' => ?_
    cases hk.symm.trans hst'
    split
    · exact Ends.pure nofun
    · rename_i state hopen
      refine Ends.bind fun u s₁ hup => ?_
      have hmoved : Moves .unborn s s₁ := by
        obtain ⟨st', hst', rfl⟩ := update_some.mp hup
        cases hk.symm.trans hst'
        exact Moves.turn hk (.sendOpen trivial _ state hopen fun _ => trivial)
      have hk₁ : s₁.get? k = some { st with state := state } := by
        obtain ⟨st', hst', rfl⟩ := update_some.mp hup
        cases hk.symm.trans hst'
        exact Inner.get?_put hk { st with state := state } rfl
      have hfresh₁ : Fresh { st with state := state } := ⟨hst.queue, hst.body, hst.rem, hst.send⟩
      refine Ends.bind fun isLocal s₂ hinit => ?_
      obtain ⟨rfl, -⟩ := Moves.isLocalInit_ends _ _ _ hinit
      refine Ends.bind fun u s₃ hpush => ?_
      -- the stream waits to be opened, or not
      have hopening : s₃.Each (fun _ st => st.Shaped) ∧ ∃ st₃, s₃.get? k = some st₃ ∧ Fresh st₃ ∧
          st₃.state = state := by
        have hshaped₂ := hmoved.shaped hshaped
        rcases when_some.mp hpush with ⟨-, hpush⟩ | ⟨-, rfl⟩
        · obtain ⟨b, s₄, hpush, hpure⟩ := bind_eq_some hpush
          cases hpure
          obtain ⟨_, _, ⟨-, -, rfl⟩ | ⟨-, -, hf⟩⟩ := push_some hpush
          · exact ⟨hshaped₂, _, hk₁, hfresh₁, rfl⟩
          · obtain ⟨key, hself⟩ := hf.get_self hk₁
            refine ⟨fun j stj hj => ?_, _, hself, ⟨hst.queue, hst.body, hst.rem, hst.send⟩, rfl⟩
            obtain ⟨stj', key', hj', rfl⟩ := hf.get_inv hj
            have hold := hshaped₂ j stj' hj'
            split <;> exact ⟨hold.own, hold.unsent, hold.single, hold.data⟩
        · exact ⟨hshaped₂, _, hk₁, hfresh₁, rfl⟩
      obtain ⟨hshaped₃, st₃, hk₃, hfresh, hstate⟩ := hopening
      refine Ends.bind fun u s₄ hqueue => Ends.bind fun u s₅ hwake => Ends.pure fun _ => ?_
      obtain ⟨_, s₆, hpushed, hschedule⟩ := bind_eq_some hqueue
      have hqueued : Moves .unborn s₃ s₆ := Moves.pushBackSend (K := .unborn) trivial hk₃ (.headers frame)
        (hid.trans (Store.get_id hk₃).symm) (hstate ▸ (State.isSent_sendOpen hopen).1) hfresh.body
          (by simp [Stream.trailers, hfresh.queue])
        rfl _ _ hpushed
      have hposted := PostedAt.of_get (Moves.pushBackSend_some hpushed hk₃) (hfresh.queued frame)
      have hscheduled : Moves .none s₆ s₄ := Moves.scheduleQueued hpushed hk₃ _ _ hschedule
      have hwoken : Moves .none s₄ s₅ := Moves.chains.when _ Moves.wake _ _ _ hwake
      exact hposted.beside (hscheduled.trans hwoken) (hqueued.shaped hshaped₃)

theorem startRequest_posted {id : Nat} (hclient : s.counts.role.isServer = false)
    (hshaped : s.Each fun _ st => st.Shaped) (request : Request) (isSpa : Bool) :
    Ends s (Streams.startRequest id request isSpa) fun _ s' =>
      ∀ st, s'.get? (s.freshKey id) = some st → st.Posted s.debugAssertions := by
  refine Ends.get_bind (Ends.assert_bind fun _ => Ends.bind fun k s₁ hinsert => ?_)
  obtain ⟨rfl, hrole, len, hnew⟩ := Moves.insertRequest_ends _ _ hinsert
  have hstore := (Moves.insertStream_some hinsert).2
  have hdebug₁ : s₁.debugAssertions = s.debugAssertions := by rw [hstore]
  have hshaped₁ : s₁.Each fun _ st => st.Shaped := by
    intro j stj hj
    by_cases hjk : j = s.freshKey id
    · subst hjk
      cases hnew.symm.trans hj
      exact .new _ _ _ _
    · obtain ⟨rfl, -⟩ | hold := Inner.get?_insert (congrArg Inner.store hstore) (by split <;> rfl) hj
      · exact absurd rfl hjk
      · exact hshaped j stj hold
  refine Ends.bind fun res s₂ hheaders => ?_
  cases res with
  | error e =>
    refine Ends.modify_bind (Ends.bind fun _ s₃ hremove => Ends.pure fun st hk => ?_)
    obtain ⟨store, hremoved, heq⟩ := Option.map_eq_some_iff.mp hremove
    cases heq
    obtain rfl := Store.remove_eq_some hremoved
    obtain rfl : s₂ = s₁ := Moves.sendHeaders_ends _ hnew _ _ hheaders
    have hnone := Store.get_vacate_self (s := s₂.store.unlink (s.freshKey id)) hnew
    cases hnone.symm.trans hk
  | ok u =>
    intro res' s' h
    have hown := Moves.requestFrames_owned id request isSpa
    have hready := Moves.sendHeaders_ready _ hnew (.new _ _ _ _) _ _ hheaders rfl
    have hposted := sendHeaders_posted hown.header hnew ⟨rfl, rfl, rfl, rfl⟩ hshaped₁ _ _ hheaders rfl
    have hsend : KeepsAt (Moves .unborn) s₁
        (Send.sendHeaders (Streams.requestFrames id request isSpa).header (s.freshKey id)) := by
      refine Moves.sendHeaders trivial (Moves.requestFrames_owned _ _ _).header.symm (fun _ _ _ => trivial)
        (fun st hst _ => ?_) (fun st hst _ => ⟨⟨trivial, trivial⟩, ?_⟩)
      · cases hnew.symm.trans hst
        exact ⟨rfl, rfl⟩
      · cases hnew.symm.trans hst
        rfl
    have hsent : Moves .unborn s₁ s₂ := hsend _ _ hheaders
    have hshaped₂ := hsent.shaped hshaped₁
    let K : Scope := { Scope.none with send := fun _ => True, refs := fun _ => True }
    obtain ⟨_, s₃, hqueue, h⟩ := bind_eq_some h
    have hqueued : Moves K s₂ s₃ := Moves.queueBodyTrailer (K := K) trivial hready
      Moves.requestFrames_body ⟨hown.data, hown.trailer⟩ _ _ hqueue
    obtain ⟨st₃, _, hresolve, h⟩ := bind_eq_some h
    obtain ⟨hk₃, rfl⟩ := resolve_some.mp hresolve
    obtain ⟨_, _, hassert, h⟩ := bind_eq_some h
    obtain ⟨-, rfl⟩ := debugAssert_some.mp hassert
    obtain ⟨_, s₄, href, h⟩ := bind_eq_some h
    cases h
    have hawake : ∀ st, s₃.get? (s.freshKey id) = some st → st.state ≠ .idle := by
      have hlast : Moves .unborn s₂ s₃ := Moves.queueBodyTrailer (K := .unborn) trivial hready
        Moves.requestFrames_body ⟨hown.data, hown.trailer⟩ _ _ hqueue
      refine hlast.awake fun st₂ hk₂ hidle => ?_
      have hsent₂ := (hready st₂ hk₂).sent
      rw [hidle] at hsent₂
      cases hsent₂
    have hreferred : Moves K s₃ s' := by
      have hnewRef : KeepsAt (Moves K) s₃ (newRef (s.freshKey id)) := by
        refine Moves.newRef (K := K) trivial (fun st hst => ?_) (fun hserver => ?_)
        · exact hawake st hst
        · rw [hqueued.role, hsent.role, hrole, hclient] at hserver
          cases hserver
      exact hnewRef _ _ href
    have hdebug : s'.debugAssertions = s.debugAssertions :=
      (hqueued.trans hreferred).debug.trans (hsent.debug.trans hdebug₁)
    exact hdebug ▸ hposted.moves (fun _ hno => hno) (fun _ hno => hno) (hqueued.trans hreferred) hshaped₂

end Send.Asserting

namespace Connection

open Send.Asserting

variable {c c' : Connection} {e : Event}

def Over (c : Connection) : Prop := c.isDone = true ∨ c.result = some (.ok ()) ∨ c.state ≠ .opened

theorem Over.not_polling (h : c.Over) : c.isPolling = false := by
  rcases h with h | h | h <;> simp [isPolling, h]

theorem Over.run {α : Type} {m : M α} (h : c.Over) (hrun : c.run m = some c') : c'.Over := by
  obtain ⟨a, s', -, rfl⟩ := run_some hrun
  exact h

theorem Over.poll2GoAway {data : Bytes} {reason : Nat} {initiator : Initiator}
    (h : c.isDone = true ∨ c.state ≠ .opened) (hnext : c.poll2GoAway data reason initiator = some c') :
    c'.Over := by
  simp only [Connection.poll2GoAway] at hnext
  split at hnext
  · cases hnext
    exact Or.inr (Or.inr (by simp))
  · obtain ⟨c₁, hrun, hnext⟩ := Option.bind_eq_some_iff.mp hnext
    obtain ⟨_, s', -, rfl⟩ := run_some hrun
    obtain ⟨g, rfl, -⟩ := goAwayNow_some hnext
    exact h.imp_right Or.inr

theorem Over.handlePoll2Result {result : Except ProtoError Unit}
    (h : result = .ok () ∨ c.isDone = true ∨ c.state ≠ .opened)
    (hnext : c.handlePoll2Result result = some c') : c'.Over := by
  unfold Connection.handlePoll2Result at hnext
  split at hnext
  · cases hnext
    exact Or.inr (Or.inr (by simp))
  · exact Over.poll2GoAway (h.resolve_left nofun) hnext
  · have hover := h.resolve_left nofun
    split at hnext
    · cases hnext
    · obtain ⟨⟨res, s'⟩, -, hnext⟩ := Option.bind_eq_some_iff.mp hnext
      cases res with
      | ok u =>
        cases hnext
        exact hover.imp_right Or.inr
      | error e => exact Over.poll2GoAway (c := { c with streams := s' }) hover hnext
  · obtain ⟨c₁, hrun, hnext⟩ := Option.bind_eq_some_iff.mp hnext
    cases hnext
    exact Or.inl rfl

theorem Over.next (h : c.Over) (hnext : c.next e = some c') : c'.Over := by
  have hcan : c.canRecv = false := by simp [canRecv, h.not_polling]
  have hpoll : c.isPolling = false := h.not_polling
  cases e with
  | sendRequest request => exact h.run (Option.ite_none_right_eq_some.mp hnext).2
  | sendResponse k response => exact h.run (Option.ite_none_right_eq_some.mp hnext).2
  | sendReset k reason => exact h.run (Option.ite_none_right_eq_some.mp hnext).2
  | cloneRef k => exact h.run (Option.ite_none_right_eq_some.mp hnext).2
  | dropRef k => exact h.run (Option.ite_none_right_eq_some.mp hnext).2
  | pollResponse k waker => exact h.run (Option.ite_none_right_eq_some.mp hnext).2
  | takePartialResponse k => exact h.run (Option.ite_none_right_eq_some.mp hnext).2
  | accept => exact h.run (Option.ite_none_right_eq_some.mp hnext).2
  | cloneStreams =>
    obtain ⟨-, hnext⟩ := Option.ite_none_right_eq_some.mp hnext
    cases hnext
    exact h
  | dropStreams =>
    obtain ⟨-, hnext⟩ := Option.ite_none_right_eq_some.mp hnext
    cases hnext
    exact h
  | abruptShutdown reason =>
    obtain ⟨g, -, hrun⟩ := next_abruptShutdown hnext
    have hover : Over { c with goAway := g } := h
    exact hover.run hrun
  | gracefulShutdown =>
    obtain rfl | ⟨s', g, -, rfl, -⟩ := next_gracefulShutdown hnext
    · exact h
    · exact h
  | dropConnection =>
    obtain ⟨a, s', -, rfl⟩ := next_dropConnection hnext
    exact Or.inl rfl
  | goAwayIfIdle =>
    obtain ⟨g, rfl, -⟩ := goAwayNow_some (Option.ite_none_right_eq_some.mp hnext).2
    exact h
  | handleResult =>
    obtain ⟨result, hresult, hnext⟩ := Option.bind_eq_some_iff.mp hnext
    split at hnext
    · cases hnext
    · refine Over.handlePoll2Result ?_ hnext
      rcases h with h | h | h
      · exact Or.inr (Or.inl h)
      · exact Or.inl (Option.some.inj (hresult.symm.trans h))
      · exact Or.inr (Or.inr h)
  | tick duration =>
    cases hnext
    exact h
  | recvShutdownPong => simp [Connection.next, hcan] at hnext
  | fillFrames flushed => simp [Connection.next, hpoll] at hnext
  | sendPendingGoAway | sendPendingRefusal | pollWindowUpdate ready | clearExpiredResetStreams
  | pollComplete maxFrameSize | parkTask waker =>
    exact absurd (Option.ite_none_right_eq_some.mp hnext).1 (by simp [hpoll])
  | _ =>
    -- what is left reads a frame
    exact absurd (Option.ite_none_right_eq_some.mp hnext).1 (by simp [hcan])

/-- The assertion of the sender that fails in this event, if any. -/
def panics (c : Connection) : Event → Option Panic
  | .pollComplete maxFrameSize =>
    if c.isPolling then
      ((pollCompleteRound maxFrameSize).run c.streams).bind fun r => match r.1 with
        | .error panic => some panic
        | .ok _ => none
    else none
  | _ => none

def Serves (c : Connection) : Prop := c.isSpa = false ∧ (c.Over ∨ Servable c.streams)

theorem Settled.round (hc : c.Settled) (hs : Servable c.streams) (maxFrameSize : Nat) :
    Checked.Passes c.streams (pollCompleteRound maxFrameSize) fun _ => Servable := by
  refine pollCompleteRound_passes maxFrameSize hs fun k tail hidx => ?_
  obtain ⟨st, hk, hq⟩ := hc.queued (n := .opening) hidx
  exact ((hc.sound k st hk).opening hq).1

theorem Settled.servable (hc : c.Settled) (hs : Servable c.streams) (h : c.next e = some c')
    (hpops : ¬e.Pops) (hopens : ∀ k, ¬(c.New e k ∧ c.Refs e k)) : Servable c'.streams := by
  refine hs.beside (fun k hk => ?_) (hc.moves h)
  rcases hk with hk | hk
  · exact hpops hk
  · exact hopens k hk

theorem Settled.servable_request {request : Request} (hc : c.Settled) (hs : Servable c.streams)
    (h : c.next (.sendRequest request) = some c') : Servable c'.streams := by
  have hmoves := hc.moves h
  refine ⟨hmoves.shaped hs.shaped, fun k st hk => Or.inr ?_⟩
  have hbusy : (c.scope (.sendRequest request)).Spares (c.New (.sendRequest request)) := by
    rintro k (hno | ⟨hnew, -⟩)
    · exact hno.elim
    · exact hnew
  have hothers : c.streams.Posted (c.New (.sendRequest request)) :=
    fun j stj hj => Or.inr ((hs.posted j stj hj).resolve_left fun hno => hno)
  rcases hmoves.posted hbusy hs.shaped hothers k st hk with ⟨id, ⟨hclient, hid⟩, rfl⟩ | hposted
  · obtain ⟨a, s', hrun, rfl⟩ := run_some (Option.ite_none_right_eq_some.mp h).2
    have hdebug : s'.debugAssertions = c.streams.debugAssertions := hmoves.debug
    have hfresh := Moves.sendRequest_fresh (P := fun st => st.Posted c.streams.debugAssertions) hid
      (fun s₁ haside _ s₂ hstart st₂ hk₂ => ?_) _ _ hrun st hk
    · exact hdebug ▸ hfresh
    · have hclient₁ : s₁.counts.role.isServer = false := haside.role ▸ hclient
      have hshaped₁ : s₁.Each fun _ st => st.Shaped := by
        intro j stj hj
        exact hs.shaped j stj (by simpa only [Inner.get?, haside.store] using hj)
      exact haside.debug ▸ startRequest_posted hclient₁ hshaped₁ request c.isSpa _ _ hstart st₂ hk₂
  · exact hposted

theorem Serves.next (hc : c.Settled) (h : c.Serves) (hnext : c.next e = some c') : c'.Serves := by
  obtain ⟨hspa, hover | hs⟩ := h
  · exact ⟨(next_isSpa hnext).trans hspa, Or.inl (hover.next hnext)⟩
  refine ⟨(next_isSpa hnext).trans hspa, ?_⟩
  cases e with
  | sendRequest request => exact Or.inr (hc.servable_request hs hnext)
  | pollComplete maxFrameSize =>
    obtain ⟨a, s', hrun, rfl⟩ := run_some (Option.ite_none_right_eq_some.mp hnext).2
    rw [← erase_pollCompleteRound] at hrun
    exact Or.inr ((hc.round hs maxFrameSize).erased _ _ hrun)
  | recvEof =>
    obtain ⟨a, s', -, rfl⟩ := next_recvEof hnext
    exact Or.inl (Or.inr (Or.inl rfl))
  | dropConnection =>
    obtain ⟨a, s', -, rfl⟩ := next_dropConnection hnext
    exact Or.inl (Or.inl rfl)
  | fillFrames flushed => simp [Connection.next, hspa] at hnext
  | _ =>
    refine Or.inr (hc.servable hs hnext (fun hno => hno) ?_)
    rintro k ⟨⟨id, hopens, -⟩, hrefs⟩
    first | exact hopens | exact hrefs

theorem Serves.new {config : ConnectionConfig} (hspa : config.spaTracker = none) (role : Role)
    (debug : Bool) : (Connection.new role config debug).Serves := by
  refine ⟨by simp [Connection.new, hspa], Or.inr ⟨fun k st hk => ?_, fun k st hk => ?_⟩⟩ <;>
    simp [Inner.get?, Connection.new, Inner.new] at hk

/-- Without a `SpaTracker` no assertion of the sender fails, whatever the handles and the peer do. -/
theorem never_panics {role : Role} {config : ConnectionConfig} {debug : Bool} {events : List Event}
    (hspa : config.spaTracker = none)
    (h : (Connection.new role config debug).after events = some c) (e : Event) : c.panics e = none := by
  obtain ⟨hc, -, hserves⟩ := after_invariant (Settled.new role config debug) (Serves.new hspa role debug)
    (fun c e c' hc hI hnext => hI.next hc hnext) h
  cases e with
  | pollComplete maxFrameSize =>
    dsimp only [panics]
    split
    · rename_i hpoll
      have hs := hserves.resolve_left fun hover => by simp [hover.not_polling] at hpoll
      refine Option.bind_eq_none_iff.mpr fun ⟨r, s'⟩ hrun => ?_
      obtain ⟨a, rfl, -⟩ := hc.round hs maxFrameSize _ _ hrun
      rfl
    · rfl
  | _ => rfl

end Connection

end

section

attribute [local instance] plain plainCrates

def bodyEvents : List Event :=
  [.sendRequest (plainRequest (some [1, 2, 3])), .sendRequest (plainRequest (some [4, 5])),
    .pollComplete 16384, .pollComplete 16384, .recvReset ⟨3, Reason.CANCEL⟩, .pollComplete 16384]

theorem never_panics_bodies : ∃ c, (Connection.new .client plainConfig true).after bodyEvents = some c ∧
    c.isPolling = true ∧ c.panics (.pollComplete 16384) = none := by
  have hrun : ((Connection.new .client plainConfig true).after bodyEvents).map (·.isPolling) = some true := by
    decide +kernel
  obtain ⟨c, hc, hpolling⟩ := Option.map_eq_some_iff.mp hrun
  exact ⟨c, hc, hpolling, Connection.never_panics rfl hc _⟩

end

end TwoPlz
