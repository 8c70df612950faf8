import TwoPlz.Poll
import TwoPlz.SettingsApplied

/-! Which PING frames resolve a pending ping. -/

namespace TwoPlz

section

variable [HeaderPlz] [StoreCrates]

def Mode.isIdle : Mode → Bool
  | .ping none => true
  | .enhancedPing .secondToSend _ => true
  | _ => false

omit [HeaderPlz] [StoreCrates] in
theorem Mode.poll_isIdle {m : Mode} (h : m.isIdle = true) (handler : PingHandler) (payload : PingPayload) :
    (m.poll handler payload).1.isIdle = false ∧ (m.poll handler payload).1.isDue = false := by
  unfold Mode.isIdle at h
  split at h
  · exact ⟨rfl, rfl⟩
  · exact ⟨rfl, rfl⟩
  · cases h

omit [HeaderPlz] [StoreCrates] in
theorem Mode.poll_of_not_isIdle {m : Mode} (h : m.isIdle = false) (handler : PingHandler)
    (payload : PingPayload) : m.poll handler payload = (m, handler) := by
  unfold Mode.poll
  split
  · cases h
  · cases h
  · rfl

namespace Poller

variable {p p' : Poller}

theorem run_some {e : Event} (h : p.run e = some p') :
    ∃ c, p.endpoint.connection.next e = some c ∧ p' = { p with endpoint.connection := c } := by
  obtain ⟨c, hc, rfl⟩ := Option.map_eq_some_iff.mp h
  exact ⟨c, hc, rfl⟩

theorem next_some {input : PollInput} (h : p.next input = some p') :
    ∃ out, p.step input = some (p', out) := by
  obtain ⟨⟨p₁, out⟩, hstep, rfl⟩ := Option.map_eq_some_iff.mp h
  exact ⟨out, hstep⟩

theorem serve_connection {ready ready' : Bool} {out : List Control}
    (hpoll : p.endpoint.connection.isPolling = true) (h : p.serve ready ready' = some (p', out)) :
    p'.endpoint.connection = p.endpoint.connection ∨
      ∃ e, p.endpoint.connection.next e = some p'.endpoint.connection ∧ (e = .sendPendingGoAway ∨
        e = .sendPendingRefusal ∨ (∃ ready, e = .pollWindowUpdate ready) ∨
          ∃ settings, e = .applyRemoteSettings settings) := by
  simp only [Poller.serve] at h
  split at h
  · obtain ⟨-, h⟩ | ⟨-, h⟩ := ite_eq_iff.mp h
    · cases h
      exact Or.inl rfl
    · obtain ⟨c, hc, heq⟩ := Option.map_eq_some_iff.mp h
      cases heq
      refine Or.inr ⟨.sendPendingGoAway, ?_, Or.inl rfl⟩
      exact (if_pos hpoll).trans hc
  · split at h
    · cases h
      exact Or.inl rfl
    · split at h <;> cases h <;> exact Or.inl rfl
  · split at h
    · split at h <;> cases h <;> exact Or.inl rfl
    · cases h
      exact Or.inl rfl
  · split at h
    · cases h
      exact Or.inl rfl
    · split at h
      · obtain ⟨e, he, heq⟩ := Option.map_eq_some_iff.mp h
        cases heq
        unfold Endpoint.pollRemoteSettings at he
        split at he
        · cases he
          exact Or.inl rfl
        · obtain ⟨c, hc, he⟩ := Option.bind_eq_some_iff.mp he
          obtain rfl : e.connection = c := by
            obtain ⟨-, he⟩ | ⟨-, he⟩ := ite_eq_iff.mp he
            · cases he
              rfl
            · obtain ⟨codec, -, he⟩ := Option.bind_eq_some_iff.mp he
              cases he
              rfl
          exact Or.inr ⟨_, hc, Or.inr (Or.inr (Or.inr ⟨_, rfl⟩))⟩
      · cases h
        exact Or.inl rfl
  · split at h
    · split at h <;> cases h <;> exact Or.inl rfl
    · cases h
      exact Or.inl rfl
  · split at h
    · cases h
      exact Or.inl rfl
    · split at h
      · cases h
        exact Or.inr ⟨.sendPendingRefusal, if_pos hpoll, Or.inr (Or.inl rfl)⟩
      · cases h
        exact Or.inl rfl
  · obtain ⟨-, h⟩ | ⟨-, h⟩ := ite_eq_iff.mp h
    · cases h
      exact Or.inl rfl
    · obtain ⟨⟨r, s'⟩, hr, heq⟩ := Option.map_eq_some_iff.mp h
      cases heq
      have hrun := Connection.run_eq hr
      exact Or.inr ⟨.pollWindowUpdate _, (if_pos hpoll).trans hrun, Or.inr (Or.inr (Or.inl ⟨_, rfl⟩))⟩
  · cases h
    exact Or.inl rfl

structure Calm (p p' : Poller) : Prop where
  mode : p'.mode = p.mode
  isSpa : p'.endpoint.connection.isSpa = p.endpoint.connection.isSpa
  role : p'.endpoint.connection.streams.counts.role = p.endpoint.connection.streams.counts.role
  ping : p'.ping.pendingPing = p.ping.pendingPing ∨ ∃ payload,
    p.ping.pendingPing = some ⟨payload, false⟩ ∧ p'.ping.pendingPing = some ⟨payload, true⟩

theorem Calm.run {e : Event} (h : p.run e = some p') : p.Calm p' := by
  obtain ⟨c, hc, rfl⟩ := run_some h
  exact ⟨rfl, Connection.next_isSpa hc, Connection.next_role hc, Or.inl rfl⟩

theorem Calm.recvSettings {frame : Settings} {e : Endpoint}
    (h : p.endpoint.recvSettings frame = some e) : p.Calm { p with endpoint := e } := by
  unfold Endpoint.recvSettings at h
  split at h
  · obtain ⟨c, hc, rfl⟩ := Option.map_eq_some_iff.mp h
    exact ⟨rfl, Connection.next_isSpa hc, Connection.next_role hc, Or.inl rfl⟩
  · cases h
    exact ⟨rfl, rfl, rfl, Or.inl rfl⟩
  · obtain ⟨c, hc, rfl⟩ := Option.map_eq_some_iff.mp h
    exact ⟨rfl, Connection.next_isSpa hc, Connection.next_role hc, Or.inl rfl⟩

theorem Calm.recvFrame {frame : Incoming} (h : p.recvFrame frame = some p')
    (hping : ∀ ping, frame ≠ .ping ping) : p.Calm p' := by
  cases frame with
  | ping ping => exact absurd rfl (hping ping)
  | priority => cases h
  | pushPromise => cases h
  | settings frame =>
    obtain ⟨e, he, rfl⟩ := Option.map_eq_some_iff.mp h
    exact Calm.recvSettings he
  | _ => exact Calm.run h

theorem Calm.pollRemoteSettings {e : Endpoint} {stage : Stage} {ready : Bool}
    (h : p.endpoint.pollRemoteSettings ready = some e) : p.Calm { p with endpoint := e, stage := stage } := by
  unfold Endpoint.pollRemoteSettings at h
  split at h
  · cases h
    exact ⟨rfl, rfl, rfl, Or.inl rfl⟩
  · split at h
    · cases h
      exact ⟨rfl, rfl, rfl, Or.inl rfl⟩
    · obtain ⟨c, hc, h⟩ := Option.bind_eq_some_iff.mp h
      split at h
      · cases h
        exact ⟨rfl, Connection.next_isSpa hc, Connection.next_role hc, Or.inl rfl⟩
      · obtain ⟨codec, -, h⟩ := Option.bind_eq_some_iff.mp h
        cases h
        exact ⟨rfl, Connection.next_isSpa hc, Connection.next_role hc, Or.inl rfl⟩

theorem Calm.pollWindowUpdate {ready ready' : Bool} {out : List Control}
    (h : p.pollWindowUpdate ready ready' = some (p', out)) : p.Calm p' := by
  obtain ⟨-, h⟩ | ⟨-, h⟩ := ite_eq_iff.mp h
  · cases h
    exact ⟨rfl, rfl, rfl, Or.inl rfl⟩
  · obtain ⟨⟨r, s'⟩, hr, heq⟩ := Option.map_eq_some_iff.mp h
    cases heq
    exact ⟨rfl, rfl, sameRole_blind.pollWindowUpdate sameRole_blind.recvFlow (fun _ => rfl) _ _ _ _ hr,
      Or.inl rfl⟩

theorem Calm.serve {ready ready' : Bool} {out : List Control}
    (h : p.serve ready ready' = some (p', out)) : p.Calm p' := by
  simp only [Poller.serve] at h
  split at h
  · split at h
    · cases h
      exact ⟨rfl, rfl, rfl, Or.inl rfl⟩
    · obtain ⟨c, hc, heq⟩ := Option.map_eq_some_iff.mp h
      cases heq
      obtain ⟨result, rfl, -⟩ := Connection.sendPendingGoAway_some hc
      exact ⟨rfl, rfl, rfl, Or.inl rfl⟩
  · split at h
    · cases h
      exact ⟨rfl, rfl, rfl, Or.inl rfl⟩
    · split at h <;> cases h <;> exact ⟨rfl, rfl, rfl, Or.inl rfl⟩
  · split at h
    · rename_i payload hpending
      split at h
      · cases h
        exact ⟨rfl, rfl, rfl, Or.inr ⟨payload, hpending, rfl⟩⟩
      · cases h
        exact ⟨rfl, rfl, rfl, Or.inl rfl⟩
    · cases h
      exact ⟨rfl, rfl, rfl, Or.inl rfl⟩
  · split at h
    · cases h
      exact ⟨rfl, rfl, rfl, Or.inl rfl⟩
    · split at h
      · obtain ⟨e, he, heq⟩ := Option.map_eq_some_iff.mp h
        cases heq
        exact Calm.pollRemoteSettings he
      · cases h
        exact ⟨rfl, rfl, rfl, Or.inl rfl⟩
  · split at h
    · split at h <;> cases h <;> exact ⟨rfl, rfl, rfl, Or.inl rfl⟩
    · cases h
      exact ⟨rfl, rfl, rfl, Or.inl rfl⟩
  · split at h
    · cases h
      exact ⟨rfl, rfl, rfl, Or.inl rfl⟩
    · split at h <;> cases h <;> exact ⟨rfl, rfl, rfl, Or.inl rfl⟩
  · exact Calm.pollWindowUpdate h
  · cases h
    exact ⟨rfl, rfl, rfl, Or.inl rfl⟩

/-- What a run keeps of the pings: no ping is queued while another one is pending, and without a
`SpaTracker` there is only that of the shutdown. -/
structure Pinged (p : Poller) : Prop where
  server : p.endpoint.connection.streams.counts.role.isServer = true → p.mode = none
  shutdown : p.endpoint.connection.isSpa = false →
    p.mode = none ∧ ∀ pending, p.ping.pendingPing = some pending → pending.payload = Ping.SHUTDOWN
  single : ∀ mode, p.mode = some mode → p.ping.pendingPing.isSome = true →
    mode.isIdle = false ∧ mode.isDue = false

theorem Pinged.calm (hp : p.Pinged) (h : p.Calm p') : p'.Pinged := by
  refine ⟨fun hs => ?_, fun hspa => ?_, fun mode hmode hsome => ?_⟩
  · rw [h.role] at hs
    rw [h.mode, hp.server hs]
  · rw [h.isSpa] at hspa
    refine ⟨by rw [h.mode, (hp.shutdown hspa).1], fun pending hpending => ?_⟩
    obtain heq | ⟨payload, hold, hnew⟩ := h.ping
    · exact (hp.shutdown hspa).2 pending (heq ▸ hpending)
    · rw [hnew] at hpending
      cases hpending
      exact (hp.shutdown hspa).2 ⟨payload, false⟩ hold
  · rw [h.mode] at hmode
    refine hp.single mode hmode ?_
    obtain heq | ⟨payload, hold, -⟩ := h.ping
    · rw [← heq, hsome]
    · rw [hold, Option.isSome_some]

theorem Pinged.new (role : Role) (config : ConnectionConfig) (mode : Option Mode)
    (payload : PingPayload) (codec : FramedWrite) (debugAssertions : Bool) :
    (new role config mode payload codec debugAssertions).Pinged := by
  unfold Poller.new
  cases role with
  | server => exact ⟨fun _ => rfl, fun _ => ⟨rfl, fun _ h => nomatch h⟩, fun _ h => nomatch h⟩
  | client =>
    cases mode with
    | none => exact ⟨fun _ => rfl, fun _ => ⟨rfl, fun _ h => nomatch h⟩, fun _ h => nomatch h⟩
    | some m =>
      refine ⟨(nomatch ·), (nomatch ·), fun mode hmode hsome => ?_⟩
      cases m with
      | native => cases hsome
      | ping sent => cases hsome
      | enhancedPing state sent =>
        cases hmode
        exact ⟨rfl, rfl⟩

theorem Calm.next {input : PollInput} (h : p.next input = some p')
    (hping : ∀ ping, input ≠ .recv (.ping ping)) (hshutdown : input ≠ .gracefulShutdown)
    (hspa : ∀ payload flushed, input ≠ .pollSpa payload flushed) : p.Calm p' := by
  obtain ⟨out, h⟩ := next_some h
  cases input with
  | event e =>
    simp only [step] at h
    split at h
    · obtain ⟨p₁, hp₁, heq⟩ := Option.map_eq_some_iff.mp h
      cases heq
      exact Calm.run hp₁
    · cases h
  | gracefulShutdown => exact absurd rfl hshutdown
  | pollSpa payload flushed => exact absurd rfl (hspa payload flushed)
  | serve ready ready' =>
    simp only [step] at h
    split at h
    · exact Calm.serve h
    · cases h
  | recv frame =>
    simp only [step] at h
    split at h
    · obtain ⟨p₁, hp₁, heq⟩ := Option.map_eq_some_iff.mp h
      cases heq
      obtain ⟨hm, hs, hr, hc⟩ := Calm.recvFrame hp₁ fun ping hframe => hping ping (hframe ▸ rfl)
      exact ⟨hm, hs, hr, hc⟩
    · cases h

theorem gracefulShutdown_some (h : p.next .gracefulShutdown = some p') :
    p.endpoint.connection.streams.counts.role.isServer = true ∧
      (p' = p ∨ ∃ c, p.endpoint.connection.next .gracefulShutdown = some c ∧
        p.endpoint.connection.goAway.goingAway = none ∧ p.ping.pendingPing = none ∧
        p' = { p with
          endpoint.connection := c
          ping.pendingPing := some ⟨Ping.SHUTDOWN, false⟩ }) := by
  obtain ⟨out, h⟩ := next_some h
  simp only [step] at h
  split at h
  · rename_i hguard
    refine ⟨(Bool.and_eq_true_iff.mp hguard).2, ?_⟩
    obtain ⟨p₁, hp₁, heq⟩ := Option.map_eq_some_iff.mp h
    cases heq
    unfold Poller.gracefulShutdown at hp₁
    split at hp₁
    · cases hp₁
      exact Or.inl rfl
    · rename_i hgoing
      obtain ⟨p₂, hp₂, hp₁⟩ := Option.bind_eq_some_iff.mp hp₁
      obtain ⟨handler, hh, hp₁⟩ := Option.bind_eq_some_iff.mp hp₁
      cases hp₁
      obtain ⟨c, hc, rfl⟩ := run_some hp₂
      unfold PingHandler.pingShutdown at hh
      split at hh
      · cases hh
      · rename_i hnone
        cases hh
        exact Or.inr ⟨c, hc, Option.not_isSome_iff_eq_none.mp hgoing,
          Option.not_isSome_iff_eq_none.mp hnone, rfl⟩
  · cases h

theorem pollSpa_some {payload : PingPayload} {flushed : Bool}
    (h : p.next (.pollSpa payload flushed) = some p') :
    p' = p ∨ ∃ mode, p.mode = some mode ∧
      ((mode.isDue = true ∧ ∃ c, p.endpoint.connection.next (.fillFrames flushed) = some c ∧
          p' = { p with endpoint.connection := c, mode := if flushed then none else p.mode }) ∨
        (mode.isDue = false ∧
          p' = { p with mode := some (mode.poll p.ping payload).1, ping := (mode.poll p.ping payload).2 })) := by
  obtain ⟨out, h⟩ := next_some h
  simp only [step] at h
  split at h
  · obtain ⟨p₁, hp₁, heq⟩ := Option.map_eq_some_iff.mp h
    cases heq
    simp only [Poller.pollSpa] at hp₁
    cases hmode : p.mode with
    | none =>
      rw [hmode] at hp₁
      cases hp₁
      exact Or.inl rfl
    | some mode =>
      cases hspa : p.endpoint.connection.streams.send.spaTracker with
      | none =>
        rw [hmode, hspa] at hp₁
        cases hp₁
        exact Or.inl rfl
      | some spa =>
        rw [hmode, hspa] at hp₁
        obtain ⟨-, hp₁⟩ | ⟨-, hp₁⟩ := ite_eq_iff.mp hp₁
        · cases hp₁
          exact Or.inl rfl
        · obtain ⟨hdue, hp₁⟩ | ⟨hdue, hp₁⟩ := ite_eq_iff.mp hp₁
          · obtain ⟨p₂, hp₂, heq⟩ := Option.map_eq_some_iff.mp hp₁
            obtain ⟨c, hc, rfl⟩ := run_some hp₂
            refine Or.inr ⟨mode, rfl, Or.inl ⟨hdue, c, hc, ?_⟩⟩
            subst heq
            split
            · rfl
            · rw [hmode]
          · cases hp₁
            exact Or.inr ⟨mode, rfl, Or.inr ⟨Bool.eq_false_iff.mpr hdue, rfl⟩⟩
  · cases h

def Resolves (p p' : Poller) : Prop :=
  p'.endpoint = p.endpoint ∨
    ∃ c, p.endpoint.connection.goAwayGraceful p.endpoint.connection.streams.recv.lastProcessedId = some c ∧
      p'.endpoint = { p.endpoint with connection := { c with shutdownPing := false } }

theorem Resolves.calm (h : p.Resolves p') :
    p'.endpoint.connection.isSpa = p.endpoint.connection.isSpa ∧
      p'.endpoint.connection.streams.counts.role = p.endpoint.connection.streams.counts.role := by
  obtain heq | ⟨c, hc, heq⟩ := h
  · rw [heq]
    exact ⟨rfl, rfl⟩
  · obtain ⟨s', g, hs, rfl, -⟩ := Connection.goAwayGraceful_some hc
    rw [heq]
    exact ⟨rfl, sameRole_blind.goAway _ _ _ _ hs⟩

/-- Any acknowledgement takes the pending ping, but for a ping that is neither of the shutdown nor
of a `SpaTracker`. -/
theorem recvPing_some {ping : Ping} (h : p.next (.recv (.ping ping)) = some p') :
    (ping.ack = false ∧ p' = { p with ping.pendingPong := some ping.payload, stage := .goAway }) ∨
    (ping.ack = true ∧ p' = { p with stage := .goAway } ∧ (p.ping.pendingPing = none ∨
      p.endpoint.connection.isSpa = false ∧
        ∃ pending, p.ping.pendingPing = some pending ∧ pending.payload ≠ Ping.SHUTDOWN)) ∨
    (ping.ack = true ∧ p.ping.pendingPing.isSome = true ∧ p'.ping = { p.ping with pendingPing := none } ∧
      (p.mode = none → p'.mode = none) ∧ p'.stage = .goAway ∧ p.Resolves p') := by
  obtain ⟨out, h⟩ := next_some h
  simp only [step] at h
  obtain ⟨-, h⟩ | ⟨-, h⟩ := ite_eq_iff.mp h
  · obtain ⟨p₁, hp₁, heq⟩ := Option.map_eq_some_iff.mp h
    cases heq
    simp only [recvFrame, recvPing, PingHandler.handle] at hp₁
    obtain ⟨ack, payload⟩ := ping
    cases ack with
    | false =>
      cases hp₁
      exact Or.inl ⟨rfl, rfl⟩
    | true =>
      cases hpending : p.ping.pendingPing with
      | none =>
        simp only [hpending, Bool.not_true, Bool.false_eq_true, if_false] at hp₁
        have heq : (⟨none, p.ping.pendingPong⟩ : PingHandler) = p.ping := by rw [← hpending]
        refine Or.inr (Or.inl ⟨rfl, ?_, Or.inl rfl⟩)
        split at hp₁
        · simp only [PingHandler.pendingPingPayload, hpending, Option.map_none] at hp₁
          cases hp₁
          simp only [restart, heq]
        · cases hp₁
          rfl
      | some pending =>
        simp only [hpending, Bool.not_true, Bool.false_eq_true, if_false] at hp₁
        by_cases hshutdown : pending.payload = Ping.SHUTDOWN
        · simp only [if_pos hshutdown] at hp₁
          obtain ⟨c, hc, rfl⟩ := Option.map_eq_some_iff.mp hp₁
          exact Or.inr (Or.inr ⟨rfl, rfl, rfl, id, rfl, Or.inr ⟨c, hc, rfl⟩⟩)
        · simp only [if_neg hshutdown] at hp₁
          split at hp₁
          · simp only [PingHandler.pendingPingPayload, hpending, Option.map_some] at hp₁
            cases hp₁
            refine Or.inr (Or.inr ⟨rfl, rfl, rfl, fun hmode => ?_, rfl, Or.inl rfl⟩)
            simp only [restart, hmode, Option.map_none]
          · rename_i hspa
            cases hp₁
            exact Or.inr (Or.inl ⟨rfl, rfl, Or.inr ⟨Bool.eq_false_iff.mpr hspa, pending, rfl, hshutdown⟩⟩)
  · cases h

theorem Pinged.next {input : PollInput} (hp : p.Pinged) (h : p.next input = some p') : p'.Pinged := by
  by_cases hping : ∃ ping, input = .recv (.ping ping)
  · obtain ⟨ping, rfl⟩ := hping
    obtain ⟨-, rfl⟩ | ⟨-, rfl, -⟩ | ⟨-, -, hping, hmode, -, hres⟩ := recvPing_some h
    · exact ⟨hp.server, hp.shutdown, hp.single⟩
    · exact ⟨hp.server, hp.shutdown, hp.single⟩
    · obtain ⟨hspa, hrole⟩ := hres.calm
      have hnone : p'.ping.pendingPing = none := by rw [hping]
      refine ⟨fun hs => hmode (hp.server (hrole ▸ hs)), fun hs => ?_, fun _ _ hsome => ?_⟩
      · refine ⟨hmode (hp.shutdown (hspa ▸ hs)).1, fun pending hpending => ?_⟩
        rw [hnone] at hpending
        cases hpending
      · rw [hnone] at hsome
        cases hsome
  · by_cases hshutdown : input = .gracefulShutdown
    · subst hshutdown
      obtain ⟨hserver, rfl | ⟨c, hc, -, -, rfl⟩⟩ := gracefulShutdown_some h
      · exact hp
      · refine ⟨fun _ => hp.server hserver, fun _ => ⟨hp.server hserver, ?_⟩, fun mode hmode _ => ?_⟩
        · rintro pending ⟨⟩
          rfl
        · rw [hp.server hserver] at hmode
          cases hmode
    · by_cases hspa : ∃ payload flushed, input = .pollSpa payload flushed
      · obtain ⟨payload, flushed, rfl⟩ := hspa
        obtain rfl | ⟨mode, hmode, ⟨hdue, c, hc, rfl⟩ | ⟨hdue, rfl⟩⟩ := pollSpa_some h
        · exact hp
        · have hcalm : p.Calm { p with endpoint.connection := c } :=
            ⟨rfl, Connection.next_isSpa hc, Connection.next_role hc, Or.inl rfl⟩
          have hp' := hp.calm hcalm
          cases flushed with
          | true => exact ⟨fun _ => rfl, fun hs => ⟨rfl, (hp'.shutdown hs).2⟩, fun _ hm => nomatch hm⟩
          | false => exact ⟨hp'.server, hp'.shutdown, hp'.single⟩
        · have hserver : p.endpoint.connection.streams.counts.role.isServer ≠ true := by
            intro hs
            rw [hp.server hs] at hmode
            cases hmode
          have hspa : p.endpoint.connection.isSpa ≠ false := by
            intro hs
            rw [(hp.shutdown hs).1] at hmode
            cases hmode
          refine ⟨fun hs => absurd hs hserver, fun hs => absurd hs hspa, ?_⟩
          rintro m ⟨⟩ hsome
          cases hidle : mode.isIdle with
          | true => exact Mode.poll_isIdle hidle _ _
          | false =>
            rw [Mode.poll_of_not_isIdle hidle] at hsome ⊢
            exact ⟨hidle, hdue⟩
      · refine hp.calm (Calm.next h ?_ hshutdown ?_)
        · exact fun ping hinput => hping ⟨ping, hinput⟩
        · exact fun payload flushed hinput => hspa ⟨payload, flushed, hinput⟩

theorem Pinged.after {inputs : List PollInput} (hp : p.Pinged) (h : p.after inputs = some p') :
    p'.Pinged := by
  induction inputs generalizing p with
  | nil =>
    cases h
    exact hp
  | cons input inputs ih =>
    obtain ⟨p₁, hnext, h⟩ := Option.bind_eq_some_iff.mp h
    exact ih (hp.next hnext) h

def Acknowledges (p : Poller) (ping : Ping) : Prop :=
  ping.ack = true ∧ p.ping.pendingPing = some ⟨ping.payload, true⟩

structure Unresolved (p : Poller) (ping : Ping) (p' : Poller) : Prop where
  pending : p'.ping.pendingPing = p.ping.pendingPing
  mode : p'.mode = p.mode
  endpoint : p'.endpoint = p.endpoint
  handler : ping.ack = true → p'.ping = p.ping

structure Pends (p p' : Poller) (pending : PendingPing) : Prop where
  ping : p'.ping.pendingPing = some pending ∨ p'.ping.pendingPing = some ⟨pending.payload, true⟩
  mode : p'.mode = p.mode

theorem Calm.pends {pending : PendingPing} (h : p.Calm p') (hpending : p.ping.pendingPing = some pending) :
    p.Pends p' pending := by
  refine ⟨?_, h.mode⟩
  obtain heq | ⟨payload, hold, hnew⟩ := h.ping
  · exact Or.inl (heq.trans hpending)
  · rw [hpending] at hold
    cases hold
    exact Or.inr hnew

theorem Pinged.pends {input : PollInput} {pending : PendingPing} (hp : p.Pinged)
    (hpending : p.ping.pendingPing = some pending) (h : p.next input = some p')
    (hping : ∀ ping, input ≠ .recv (.ping ping)) : p.Pends p' pending := by
  by_cases hshutdown : input = .gracefulShutdown
  · subst hshutdown
    obtain ⟨-, rfl | ⟨c, -, -, hnone, -⟩⟩ := gracefulShutdown_some h
    · exact ⟨Or.inl hpending, rfl⟩
    · rw [hpending] at hnone
      cases hnone
  · by_cases hspa : ∃ payload flushed, input = .pollSpa payload flushed
    · obtain ⟨payload, flushed, rfl⟩ := hspa
      obtain rfl | ⟨mode, hmode, hcase⟩ := pollSpa_some h
      · exact ⟨Or.inl hpending, rfl⟩
      · -- while a ping is pending the mode waits for it
        obtain ⟨hidle, hdue⟩ := hp.single mode hmode (by rw [hpending, Option.isSome_some])
        obtain ⟨hdue', -⟩ | ⟨-, rfl⟩ := hcase
        · rw [hdue] at hdue'
          cases hdue'
        · rw [Mode.poll_of_not_isIdle hidle]
          exact ⟨Or.inl hpending, hmode.symm⟩
    · refine (Calm.next h hping hshutdown ?_).pends hpending
      exact fun payload flushed hinput => hspa ⟨payload, flushed, hinput⟩

/-- In every run a PING frame that is no acknowledgement of the pending ping leaves it, the shutdown
and the mode exactly when it is no acknowledgement at all, or no ping is pending: any other
acknowledgement is taken for that of the pending ping. No other step resolves a pending ping. -/
theorem pending_ping_resolved (role : Role) (config : ConnectionConfig) (mode : Option Mode)
    (payload : PingPayload) (codec : FramedWrite) (debugAssertions : Bool) (inputs : List PollInput)
    (h : (new role config mode payload codec debugAssertions).after inputs = some p) :
    (∀ ping p', p.next (.recv (.ping ping)) = some p' →
      ((¬ p.Acknowledges ping → p.Unresolved ping p') ↔
        ping.ack = false ∨ p.ping.pendingPing = none ∨ p.Acknowledges ping)) ∧
    ∀ input p' pending, p.next input = some p' → (∀ ping, input ≠ .recv (.ping ping)) →
      p.ping.pendingPing = some pending → p.Pends p' pending := by
  have hp := (Pinged.new role config mode payload codec debugAssertions).after h
  refine ⟨fun ping p' hnext => ⟨fun hun => ?_, fun hcond hack => ?_⟩, ?_⟩
  · by_contra hno
    push Not at hno
    obtain ⟨hack, hsome, hnack⟩ := hno
    have hun := hun hnack
    obtain ⟨hfalse, -⟩ | ⟨-, -, hnone | ⟨hspa, pending, hpending, hne⟩⟩ | ⟨-, -, hping, -⟩ :=
      recvPing_some hnext
    · exact hack hfalse
    · exact hsome hnone
    · exact hne ((hp.shutdown hspa).2 pending hpending)
    · exact hsome (hun.pending.symm.trans (by rw [hping]))
  · obtain ⟨hfalse, rfl⟩ | ⟨-, rfl, -⟩ | ⟨hack', hsome, -⟩ := recvPing_some hnext
    · refine ⟨rfl, rfl, rfl, fun htrue => ?_⟩
      rw [hfalse] at htrue
      cases htrue
    · exact ⟨rfl, rfl, rfl, fun _ => rfl⟩
    · obtain hfalse | hnone | hcond := hcond
      · rw [hfalse] at hack'
        cases hack'
      · rw [hnone] at hsome
        cases hsome
      · exact absurd hcond hack
  · exact fun input p' pending hnext hping hpending => hp.pends hpending hnext hping

end Poller

end

section

attribute [local instance] plain plainCrates

def plainServer : Poller := Poller.new .server plainConfig none Ping.SHUTDOWN plainCodec true

def shutdownInputs : List PollInput := .gracefulShutdown :: List.replicate 7 (.serve true true)

def zeroPong : Ping := ⟨true, Vector.replicate 8 0⟩

/-- The acknowledgement of another ping ends the shutdown. -/
theorem pending_ping_other_payload :
    ¬∀ (role : Role) (config : ConnectionConfig) (mode : Option Mode) (payload : PingPayload)
        (codec : FramedWrite) (debugAssertions : Bool) (inputs : List PollInput) (p : Poller) (ping : Ping)
        (p' : Poller),
      (Poller.new role config mode payload codec debugAssertions).after inputs = some p →
      p.next (.recv (.ping ping)) = some p' → ¬ p.Acknowledges ping → p.Unresolved ping p' := by
  intro h
  have hrun : (plainServer.after shutdownInputs).isSome = true := by decide +kernel
  have hping : (plainServer.after shutdownInputs).map (·.ping.pendingPing) =
      some (some ⟨Ping.SHUTDOWN, true⟩) := by decide +kernel
  have hpong : ((plainServer.after shutdownInputs).bind (·.next (.recv (.ping zeroPong)))).map
      (·.ping.pendingPing) = some none := by decide +kernel
  obtain ⟨p, hp⟩ := Option.isSome_iff_exists.mp hrun
  rw [hp] at hping hpong
  obtain ⟨p', hp', hnone⟩ := Option.map_eq_some_iff.mp hpong
  have hpending : p.ping.pendingPing = some ⟨Ping.SHUTDOWN, true⟩ := Option.some.inj hping
  refine absurd ((h _ _ _ _ _ _ _ p zeroPong p' hp hp' ?_).pending.symm.trans hnone) ?_
  · rintro ⟨-, hack⟩
    rw [hpending] at hack
    exact absurd (congrArg (Option.map (·.payload)) hack) (by decide)
  · rw [hpending]
    exact nofun

/-- The shutdown ping is resolved by its own acknowledgement; a ping of the peer leaves it, and so
does the next write. -/
theorem pending_ping_resolved_shutdown :
    ∃ p p₁ p₂ p₃, plainServer.after shutdownInputs = some p ∧
      p.next (.recv (.ping ⟨true, Ping.SHUTDOWN⟩)) = some p₁ ∧ p₁.ping.pendingPing = none ∧
      (¬p.Acknowledges ⟨true, Ping.SHUTDOWN⟩ → p.Unresolved ⟨true, Ping.SHUTDOWN⟩ p₁) ∧
      p.next (.recv (.ping ⟨false, Ping.SHUTDOWN⟩)) = some p₂ ∧ p.Unresolved ⟨false, Ping.SHUTDOWN⟩ p₂ ∧
      p.next (.serve true true) = some p₃ ∧ p.Pends p₃ ⟨Ping.SHUTDOWN, true⟩ := by
  have hping : (plainServer.after shutdownInputs).map (·.ping.pendingPing) =
      some (some ⟨Ping.SHUTDOWN, true⟩) := by decide +kernel
  have hpong : ((plainServer.after shutdownInputs).bind (·.next (.recv (.ping ⟨true, Ping.SHUTDOWN⟩)))).map
      (·.ping.pendingPing) = some none := by decide +kernel
  have hother : ((plainServer.after shutdownInputs).bind
      (·.next (.recv (.ping ⟨false, Ping.SHUTDOWN⟩)))).isSome = true := by decide +kernel
  have hserve : ((plainServer.after shutdownInputs).bind (·.next (.serve true true))).isSome = true := by
    decide +kernel
  obtain ⟨p, hp, hpending⟩ := Option.map_eq_some_iff.mp hping
  rw [hp] at hpong hother hserve
  obtain ⟨p₁, hp₁, hnone⟩ := Option.map_eq_some_iff.mp hpong
  obtain ⟨p₂, hp₂⟩ := Option.isSome_iff_exists.mp hother
  obtain ⟨p₃, hp₃⟩ := Option.isSome_iff_exists.mp hserve
  have hack : p.Acknowledges ⟨true, Ping.SHUTDOWN⟩ := ⟨rfl, hpending⟩
  have hunacked : ¬p.Acknowledges ⟨false, Ping.SHUTDOWN⟩ := by
    rintro ⟨hno, -⟩
    cases hno
  obtain ⟨hrecv, hstays⟩ := Poller.pending_ping_resolved _ _ _ _ _ _ _ hp
  exact ⟨p, p₁, p₂, p₃, hp, hp₁, hnone, (hrecv _ _ hp₁).mpr (Or.inr (Or.inr hack)), hp₂,
    (hrecv _ _ hp₂).mpr (Or.inl rfl) hunacked, hp₃, hstays _ _ _ hp₃ nofun hpending⟩

end

end TwoPlz
