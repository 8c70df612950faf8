import TwoPlz.AcceptOrder
import TwoPlz.Receiving
import TwoPlz.Streams.Arrivals

/-! The responses of a client follow the grammar of messages. -/

namespace TwoPlz

open RecvEvent

section

variable [HeaderPlz] [StoreCrates]

theorem arrives_reads : Reads .client Stream.Arrives where
  turn hturn hst := hturn.arrives rfl (fun hno => hno) (fun _ hno => hno) hst
  settles hsettles hst :=
    hst.same (congrArg (fun st => st.pendingRecv) hsettles) (congrArg (fun st => st.state) hsettles)
  counted _ hst := hst.same rfl rfl
  weaken hlive hst := hst.weaken hlive
  closed hclosed hst := .finished hst.message rfl (State.isRecvHeaders_of_closed hclosed)
    (State.isRecvStreaming_of_closed hclosed)
  born _ _ _ := ⟨rfl, fun _ _ => rfl, nofun⟩
  data hst hstreaming _ hreceipt := Or.inl (hst.dataReceipt hstreaming hreceipt)
  trailers hst hheaders hreceipt := hst.trailersReceipt hheaders hreceipt
  headers hrole hst hheaders := by
    refine ⟨fun _ _ _ _ _ _ _ => ⟨hst.message, False.elim, False.elim⟩, ?_⟩
    rintro _ st₁ hreceipt rfl
    exact hst.headersReceipt hheaders hrole hreceipt

namespace Moves

open M

variable {s : Inner} {k : Key} {st : Stream}

theorem drop_unheld (hk : s.get? k = some st) (hlast : st.refCount ≤ 1) (hs : s.Each fun _ st => st.Shaped) :
    Ends s (OpaqueStreamRef.drop k) fun _ s' => ∀ st, s'.get? k = some st → st.refCount = 0 := by
  intro u s' h
  let K : Scope := { Scope.unborn with refs := fun _ => False }
  obtain ⟨s₁, hdec, hmoves⟩ := drop_ends (K := K) trivial trivial trivial hs _ _ h
  refine hmoves.unheld (fun hno => hno) fun st₁ hk₁ => ?_
  obtain ⟨_, _, hresolve, hdec⟩ := bind_eq_some hdec
  obtain ⟨hst, rfl⟩ := resolve_some.mp hresolve
  cases hk.symm.trans hst
  obtain ⟨_, _, hassert, hdec⟩ := bind_eq_some hdec
  obtain ⟨-, rfl⟩ := assert_some.mp hassert
  obtain ⟨st', hst', rfl⟩ := update_some.mp hdec
  cases hk.symm.trans hst'
  cases (Inner.get?_put hk { st with refCount := st.refCount - 1 } rfl).symm.trans hk₁
  exact Nat.sub_eq_zero_of_le hlast

end Moves

namespace Connection

variable {c c' : Connection} {e : Event}

/-- The event takes what was received of a response that is still arriving, and handles remain. -/
def TakesEarly (c : Connection) : Event → Prop
  | .takePartialResponse k => ∃ st, c.streams.get? k = some st ∧ st.state.isRecvStreaming = true
  | .dropRef k => ∃ st, c.streams.get? k = some st ∧ st.state.isRecvStreaming = true ∧ 1 < st.refCount
  | _ => False

structure Collects (c : Connection) : Prop where
  client : c.streams.counts.role.isServer = false
  arrives : c.streams.Each fun _ st => 0 < st.refCount → st.Arrives ¬c.Failed

theorem Collects.received (hc : c.Settled) (h : c.Collects) (hnext : c.next e = some c') {k : Key}
    (hrecv : (c.scope e).recv k) {st : Stream} (hk : c'.streams.get? k = some st) (hheld : 0 < st.refCount) :
    st.Arrives ¬c'.Failed := by
  obtain ⟨hcan, hframe⟩ := recv_found hrecv
  have hrefs : ¬(c.scope e).refs k := by
    rcases hframe with ⟨frame, rfl, -⟩ | ⟨frame, rfl, -⟩ <;> exact fun hno => hno
  have hrole : c.streams.counts.role = .client := by
    have hclient := h.client
    cases hrole : c.streams.counts.role with
    | client => rfl
    | server => simp [hrole, Role.isServer] at hclient
  refine hc.read (hrole.symm ▸ arrives_reads) hnext hrecv (fun st₀ hk₀ => ?_) st hk
  refine (h.arrives k st₀ hk₀ ?_).weaken fun _ => not_failed hcan
  by_contra hno
  have hzero := (hc.moves hnext).unheld hrefs (fun st₁ hk₁ => ?_) st hk
  · omega
  · cases hk₀.symm.trans hk₁
    omega

theorem Collects.next (hc : c.Settled) (h : c.Collects) (hnext : c.next e = some c')
    (hlate : ¬c.TakesEarly e) : c'.Collects := by
  have hmoves := hc.moves hnext
  refine ⟨hmoves.role ▸ h.client, fun k st hk hheld => ?_⟩
  by_cases hrecv : (c.scope e).recv k
  · exact h.received hc hnext hrecv hk hheld
  have hlast : ∀ st₀, c.streams.get? k = some st₀ → e = .dropRef k → 1 < st₀.refCount := by
    rintro st₀ hk₀ rfl
    by_contra hlast
    obtain ⟨u, s', hrun, rfl⟩ := run_some (Option.ite_none_right_eq_some.mp hnext).2
    have hzero := Moves.drop_unheld hk₀ (Nat.not_lt.mp hlast) (fun k st hk => (hc.sound k st hk).shaped)
      _ _ hrun st hk
    omega
  have hfirst : st.Arrives ¬c.Failed ∧ _ :=
    hmoves.arrives h.client hrecv (fun st₀ hk₀ hheld₀ => ⟨?_, ?_⟩) st hk (Or.inl hheld)
  · exact hfirst.1.weaken fun hno hfail => hno (hfail.next hnext)
  · refine h.arrives k st₀ hk₀ (hheld₀.elim id fun hrefs => ?_)
    have hholds : c.holds k = true → 0 < st₀.refCount := fun hholds => by
      obtain ⟨st₁, hk₁, hpos⟩ := holds_iff.mp hholds
      cases hk₀.symm.trans hk₁
      exact hpos
    cases e with
    | cloneRef j =>
      cases (show k = j from hrefs)
      exact hholds (Option.ite_none_right_eq_some.mp hnext).1
    | dropRef j =>
      cases (show k = j from hrefs)
      exact hholds (Option.ite_none_right_eq_some.mp hnext).1
    | sendRequest request =>
      obtain ⟨id, -, rfl⟩ := hrefs
      rw [Inner.get?_freshKey] at hk₀
      cases hk₀
    | accept =>
      have hserver := (Option.ite_none_right_eq_some.mp hnext).1
      simp [h.client] at hserver
    | _ => exact hrefs.elim
  · intro hstreaming htakes
    cases e with
    | takePartialResponse j =>
      cases (show k = j from htakes)
      exact hlate ⟨st₀, hk₀, hstreaming⟩
    | dropRef j =>
      cases (show k = j from htakes)
      exact hlate ⟨st₀, hk₀, hstreaming, hlast st₀ hk₀ rfl⟩
    | accept =>
      have hserver := (Option.ite_none_right_eq_some.mp hnext).1
      simp [h.client] at hserver
    | _ => exact htakes.elim

theorem Collects.new (config : ConnectionConfig) (debug : Bool) :
    (Connection.new .client config debug).Collects where
  client := rfl
  arrives k st hk := by simp [Inner.get?, Connection.new, Inner.new] at hk

theorem Collects.after {events : List Event} (hc : c.Settled) (h : c.Collects)
    (hrun : c.after events = some c')
    (hlate : ∀ before e later c₁, events = before ++ e :: later → c.after before = some c₁ →
      ¬c₁.TakesEarly e) : c'.Collects := by
  induction events generalizing c with
  | nil =>
    cases hrun
    exact h
  | cons e events ih =>
    obtain ⟨c₁, hfirst, hrest⟩ := Option.bind_eq_some_iff.mp hrun
    refine ih (hc.next hfirst) (h.next hc hfirst (hlate [] e events c rfl rfl)) hrest ?_
    intro before e' later c₂ hevents hbefore
    refine hlate (e :: before) e' later c₂ (by rw [hevents]; rfl) ?_
    exact Option.bind_eq_some_iff.mpr ⟨c₁, hfirst, hbefore⟩

/-- What the user takes from a stream is a message, so that neither `poll_response` nor
`take_partial_response` reaches an `unreachable!`, as long as nothing is taken of a response that is
still arriving. The capacity that they ask for the body is not looked at: see `bodyCapacity`. -/
theorem response_grammar (config : ConnectionConfig) (debug : Bool) {events : List Event}
    (h : (Connection.new .client config debug).after events = some c)
    (hlate : ∀ before e later c₁, events = before ++ e :: later →
      (Connection.new .client config debug).after before = some c₁ → ¬c₁.TakesEarly e) :
    ∀ k, c.holds k = true →
      (∃ st, c.streams.get? k = some st ∧ isMessage st.pendingRecv = true) ∧
        (∀ waker, (c.next (.pollResponse k waker)).isSome = true) ∧
          (c.next (.takePartialResponse k)).isSome = true := by
  intro k hholds
  have hcollects := (Collects.new config debug).after (Settled.new .client config debug) h hlate
  obtain ⟨st, hk, hpos⟩ := holds_iff.mp hholds
  have hmessage := (hcollects.arrives k st hk hpos).message
  have hclient : c.streams.counts.role.isClient = true := by
    cases hrole : c.streams.counts.role with
    | client => rfl
    | server =>
      have hno := hcollects.client
      simp [hrole, Role.isServer] at hno
  have hallowed : (c.holds k && c.streams.counts.role.isClient) = true := by simp [hholds, hclient]
  refine ⟨⟨st, hk, hmessage⟩, fun waker => ?_, ?_⟩
  · obtain ⟨res, s', hpoll, -⟩ := Recv.pollResponse_returns hk hmessage waker
    have hrun : c.run (OpaqueStreamRef.pollResponse k waker) = some _ := run_eq hpoll
    simp only [Connection.next, hallowed, if_true, hrun, Option.isSome_some]
  · obtain ⟨res, s', htake, -⟩ := Recv.takeResponse_returns hk hmessage
    have hrun : c.run (OpaqueStreamRef.takePartialResponse k) = some _ := run_eq htake
    simp only [Connection.next, hallowed, if_true, hrun, Option.isSome_some]

end Connection

end

section

attribute [local instance] plain plainCrates

def partialEvents : List Event :=
  [.sendRequest (plainRequest none), .pollComplete 16384,
    .recvHeaders (Headers.new 1 (Pseudo.response HeaderPlz.OK) []), .takePartialResponse ⟨0, 1⟩,
    .recvData ((Data.new 1 [7]).setEndStream true)]

/-- The rest of it starts with DATA. -/
theorem partial_response_panics :
    ((Connection.new .client plainConfig true).after partialEvents).any (fun c =>
      c.holds ⟨0, 1⟩ && (c.streams.get? ⟨0, 1⟩).any (fun st => !isMessage st.pendingRecv) &&
        (c.next (.pollResponse ⟨0, 1⟩ 0)).isNone) = true := by
  decide +kernel

def resetEvents : List Event :=
  [.sendRequest (plainRequest none), .pollComplete 16384,
    .recvHeaders (Headers.new 1 (Pseudo.response HeaderPlz.OK) []), .recvData (Data.new 1 [7]),
    .recvReset ⟨1, Reason.CANCEL⟩, .pollResponse ⟨0, 1⟩ 0]

theorem response_grammar_reset : ∃ c, (Connection.new .client plainConfig true).after resetEvents = some c ∧
    (c.next (.takePartialResponse ⟨0, 1⟩)).isSome = true := by
  have hrun : ((Connection.new .client plainConfig true).after resetEvents).any
      (fun c => c.holds ⟨0, 1⟩) = true := by decide +kernel
  obtain ⟨c, hc, hholds⟩ := (Option.any_eq_true _ _).mp hrun
  refine ⟨c, hc, (Connection.response_grammar plainConfig true hc ?_ ⟨0, 1⟩ hholds).2.2⟩
  intro before e later c₁ hevents _
  have he : e ∈ resetEvents := by simp [hevents]
  simp only [resetEvents, List.mem_cons, List.not_mem_nil, or_false] at he
  rcases he with rfl | rfl | rfl | rfl | rfl | rfl <;> exact fun hno => hno

end

end TwoPlz
