import TwoPlz.AcceptOrder

/-! The next stream ids of both sides, and what they say about a stream that is not in the store. -/

namespace TwoPlz

section

variable [HeaderPlz] [StoreCrates]

theorem M.debugAssert_true (s : Inner) : M.debugAssert true s = some ((), s) := by
  simp [M.debugAssert]

theorem M.matching_some (s t : Inner) (o : Option Nat) (id : Nat) :
    (∀ n, o = some n → StreamId.isServerInitiated id = StreamId.isServerInitiated n) →
    ((match o with
      | none => pure ()
      | some n => do
        M.debugAssert (StreamId.isServerInitiated id == StreamId.isServerInitiated n)
        M.when (id ≥ n) (set t) : M Unit) s).isSome = true := by
  intro h
  cases o with
  | none => rfl
  | some n =>
    change ((M.debugAssert (StreamId.isServerInitiated id == StreamId.isServerInitiated n) s).bind
      fun r => M.when (id ≥ n) (set t) r.2).isSome = true
    rw [h n rfl, beq_self_eq_true, M.debugAssert_true]
    cases decide (id ≥ n) <;> rfl

namespace Connection

variable {c c' : Connection}

/-- Each next id is one of its side, so that the assertions on the sides of two ids hold, and a stream
that is not in the store is taken for a forgotten one when its id was given out. -/
structure Paired (c : Connection) : Prop where
  send : ∀ n, c.streams.send.nextStreamId = some n → c.streams.counts.role.isLocalInit n = true
  recv : ∀ n, c.streams.recv.nextStreamId = some n → c.streams.counts.role.isLocalInit n = false
  resets : ∀ id, id ≠ 0 → (Inner.maybeResetNextStreamId (c.streams.counts.role.isLocalInit id) id
    c.streams).isSome = true
  forgotten : ∀ id, id ≠ 0 → ∃ b, Actions.isForgottenStream id c.streams = some (b, c.streams) ∧
    (b = true ↔ c.streams.Known id)

def Passed (c : Connection) (events : List Event) (id : Nat) : Prop :=
  ∃ before e later c₀ c₁, events = before ++ e :: later ∧ c.after before = some c₀ ∧
    c₀.next e = some c₁ ∧ ¬c₀.streams.Known id ∧ c₁.streams.Known id

structure Odd (c : Connection) : Prop where
  role : c.streams.counts.role = .client
  send : ∀ n, c.streams.send.nextStreamId = some n → n % 2 = 1
  recv : ∀ n, c.streams.recv.nextStreamId = some n → StreamId.isServerInitiated n = true

theorem Odd.next {e : Event} (h : c.Odd) (hc : c.Settled) (hnext : c.next e = some c') : c'.Odd := by
  have hmoves := hc.moves hnext
  have hclient : c.streams.counts.role.isServer = false := by rw [h.role]; rfl
  refine ⟨hmoves.role.trans h.role, hmoves.parity hclient h.send, ?_⟩
  exact hmoves.even hclient h.recv

theorem isLocalInit_client {id : Nat} (hrole : c.streams.counts.role = .client) :
    c.streams.counts.role.isLocalInit id = !StreamId.isServerInitiated id := by
  rw [hrole]
  cases hid : StreamId.isServerInitiated id <;> simp [Role.isLocalInit, Role.isServer, hid]

theorem Odd.side {id n : Nat} (h : c.Odd)
    (hn : (if c.streams.counts.role.isLocalInit id then c.streams.send.nextStreamId
      else c.streams.recv.nextStreamId) = some n) :
    StreamId.isServerInitiated id = StreamId.isServerInitiated n := by
  rw [isLocalInit_client h.role] at hn
  cases hid : StreamId.isServerInitiated id with
  | true =>
    rw [hid] at hn
    exact (h.recv n hn).symm
  | false =>
    rw [hid] at hn
    have hodd := h.send n hn
    simp [StreamId.isServerInitiated, hodd]

theorem Odd.forgotten {id : Nat} (h : c.Odd) (hid : id ≠ 0) :
    ∃ b, Actions.isForgottenStream id c.streams = some (b, c.streams) ∧ (b = true ↔ c.streams.Known id) := by
  have hnext : Actions.nextStreamIdOf id c.streams = some (if c.streams.counts.role.isLocalInit id then
      c.streams.send.nextStreamId else c.streams.recv.nextStreamId, c.streams) := by
    simp [Actions.nextStreamIdOf, M.isLocalInit, M.assert, hid, bind, StateT.bind, get, getThe,
      MonadStateOf.get, StateT.get, pure, StateT.pure]
  unfold Actions.isForgottenStream
  rw [if_neg (by simpa using hid)]
  simp only [bind, StateT.bind, hnext, Option.bind_some]
  cases hside : (if c.streams.counts.role.isLocalInit id then c.streams.send.nextStreamId
    else c.streams.recv.nextStreamId) with
  | none => exact ⟨true, rfl, by simp [Inner.Known, hside]⟩
  | some n =>
    refine ⟨decide (id < n), ?_, by simp [Inner.Known, hside]⟩
    change (M.debugAssert (_ == _) c.streams).bind _ = _
    rw [h.side hside, beq_self_eq_true, M.debugAssert_true]
    rfl

theorem Odd.resets {id : Nat} (h : c.Odd) :
    (Inner.maybeResetNextStreamId (c.streams.counts.role.isLocalInit id) id c.streams).isSome = true := by
  have hside : ∀ n, (if c.streams.counts.role.isLocalInit id then c.streams.send.nextStreamId
      else c.streams.recv.nextStreamId) = some n → _ := fun n hn => h.side hn
  cases hlocal : c.streams.counts.role.isLocalInit id with
  | true =>
    rw [hlocal] at hside
    exact M.matching_some _ _ _ id hside
  | false =>
    rw [hlocal] at hside
    exact M.matching_some _ _ _ id hside

theorem Odd.paired (h : c.Odd) : c.Paired where
  send n hn := by
    rw [isLocalInit_client h.role]
    simp [StreamId.isServerInitiated, h.send n hn]
  recv n hn := by rw [isLocalInit_client h.role, h.recv n hn, Bool.not_true]
  resets _ _ := h.resets
  forgotten _ hid := h.forgotten hid

theorem not_known_new (role : Role) (config : ConnectionConfig) (debug : Bool) {id : Nat} (hid : id ≠ 0) :
    ¬(Connection.new role config debug).streams.Known id := by
  intro hknown
  cases hlocal : role.isLocalInit id with
  | true =>
    have hlt := hknown 1 (by simp [Connection.new, Inner.new, Counts.new, hlocal, Send.new])
    omega
  | false =>
    have hlt := hknown (if role.isServer then 1 else 2)
      (by simp [Connection.new, Inner.new, Counts.new, hlocal, Recv.new])
    cases role with
    | server =>
      change id < 1 at hlt
      omega
    | client =>
      change id < 2 at hlt
      obtain rfl : id = 1 := by omega
      cases hlocal

theorem known_after {events : List Event} {id : Nat} (hc : c.Settled) (hid : c.streams.Known id)
    (h : c.after events = some c') : c'.streams.Known id :=
  (after_invariant hc hid (fun _ _ _ hc hid hnext => (hc.moves hnext).knows hid) h).2

/-- An id is known once the next id of its side has passed it. -/
theorem known_iff_passed {events : List Event} {id : Nat} (hc : c.Settled) (hid : ¬c.streams.Known id)
    (h : c.after events = some c') : c'.streams.Known id ↔ c.Passed events id := by
  constructor
  · intro hknown
    induction events generalizing c with
    | nil =>
      cases h
      exact absurd hknown hid
    | cons e events ih =>
      obtain ⟨c₁, hfirst, hrest⟩ := Option.bind_eq_some_iff.mp h
      by_cases hpassed : c₁.streams.Known id
      · exact ⟨[], e, events, c, c₁, rfl, rfl, hfirst, hid, hpassed⟩
      · obtain ⟨before, e', later, c₀, c₂, rfl, hbefore, hnext, hno, hyes⟩ :=
          ih (hc.next hfirst) hpassed hrest
        refine ⟨e :: before, e', later, c₀, c₂, rfl, ?_, hnext, hno, hyes⟩
        exact Option.bind_eq_some_iff.mpr ⟨c₁, hfirst, hbefore⟩
  · rintro ⟨before, e, later, c₀, c₁, rfl, hbefore, hnext, -, hyes⟩
    obtain ⟨c₂, hsame, hrest⟩ := after_append h
    cases hbefore.symm.trans hsame
    obtain ⟨c₃, hfirst, hlater⟩ := Option.bind_eq_some_iff.mp hrest
    cases hnext.symm.trans hfirst
    have hc₀ := (after_invariant (I := fun _ => True) hc trivial (fun _ _ _ _ _ _ => trivial) hbefore).1
    exact known_after (hc₀.next hnext) hyes hlater

/-- The next ids are on their sides, whatever the run, for a client and only for a client; and then a
stream that is not in the store is taken for a forgotten one exactly when its id was passed. -/
theorem next_ids_paired (role : Role) (config : ConnectionConfig) (debug : Bool) :
    (∀ events c, (Connection.new role config debug).after events = some c → c.Paired ∧
      (∀ k st, c.streams.get? k = some st → c.streams.Known k.streamId) ∧
        ∀ id, id ≠ 0 → (c.streams.Known id ↔ (Connection.new role config debug).Passed events id)) ↔
      role = .client := by
  have hnew := Settled.new role config debug
  constructor
  · intro h
    cases role with
    | client => rfl
    | server => exact absurd ((h [] _ rfl).1.send 1 rfl) Bool.false_ne_true
  · rintro rfl events c h
    have hodd : (Connection.new .client config debug).Odd := by
      refine ⟨rfl, ?_, ?_⟩
      · rintro n ⟨⟩
        rfl
      · rintro n ⟨⟩
        rfl
    obtain ⟨hc, hodd⟩ := after_invariant hnew hodd (fun _ _ _ hc hodd hnext => hodd.next hc hnext) h
    exact ⟨hodd.paired, hc.known, fun id hid => known_iff_passed hnew (not_known_new _ _ _ hid) h⟩

end Connection

end

section

attribute [local instance] plain plainCrates

/-- The next id of a server starts on the side of the client: a debug build panics on DATA for a stream of
the server, a release build does not. -/
theorem next_ids_server :
    (Connection.new .server plainConfig true).streams.send.nextStreamId = some 1 ∧
      Role.server.isLocalInit 1 = false ∧
      ((Connection.new .server plainConfig true).next (.recvData (Data.new 2 []))).isNone = true ∧
      ((Connection.new .server plainConfig false).next (.recvData (Data.new 2 []))).isSome = true := by
  decide +kernel

end

end TwoPlz
