import TwoPlz.Plain
import TwoPlz.Settled

/-! The lifecycle of a stream: each of its two halves only moves forward, over every run, and the id
of a stream that was closed and forgotten is never opened again. -/

namespace TwoPlz

/-- One direction of a stream, as the endpoint that uses it sees it. -/
inductive Half : Type
  | unused | headers | body | ended
  deriving DecidableEq

namespace Half

def progress : Half → Nat
  | .unused => 0
  | .headers => 1
  | .body => 2
  | .ended => 3

theorem progress_injective : Function.Injective progress := by
  intro a b h
  cases a <;> cases b <;> first | rfl | cases h

instance : LinearOrder Half := LinearOrder.lift' progress progress_injective

instance : BoundedOrder Half where
  top := .ended
  le_top a := by cases a <;> decide
  bot := .unused
  bot_le a := by cases a <;> decide

end Half

def Peer.half : Peer → Half
  | .awaitingHeaders => .headers
  | .streaming => .body

theorem Peer.headers_le_half (peer : Peer) : Half.headers ≤ peer.half := by
  cases peer <;> decide

namespace State

theorem headers_le_body : Peer.awaitingHeaders.half ≤ Peer.streaming.half := by decide

def halves : State → Half × Half
  | .idle => (.unused, .unused)
  | .reservedLocal => (.headers, .ended)
  | .reservedRemote => (.ended, .headers)
  | .opened localPeer remotePeer => (localPeer.half, remotePeer.half)
  | .halfClosedLocal peer => (.ended, peer.half)
  | .halfClosedRemote peer => (peer.half, .ended)
  | .closed _ => (.ended, .ended)

theorem halves_closed {st : State} (h : st.isClosed = true) : st.halves = ⊤ := by
  obtain ⟨cause, rfl⟩ := isClosed_cases h
  rfl

theorem halves_le_closed (st : State) {st' : State} (h : st'.isClosed = true) : st.halves ≤ st'.halves := by
  rw [halves_closed h]
  exact le_top

theorem sendOpen_halves {st st' : State} {eos : Bool} (h : st.sendOpen eos = .ok st') :
    st.halves ≤ st'.halves := by
  unfold sendOpen at h
  split at h
  · cases h
    exact bot_le
  · cases h
    split
    · exact ⟨le_top, le_rfl⟩
    · exact ⟨headers_le_body, le_rfl⟩
  · cases h
    split
    · exact le_top
    · exact ⟨headers_le_body, le_rfl⟩
  · cases h
    split
    · exact le_top
    · exact ⟨headers_le_body, le_rfl⟩
  · cases h

theorem sendClose_halves {st st' : State} (h : st.sendClose = some st') : st.halves ≤ st'.halves := by
  unfold sendClose at h
  split at h
  · cases h
    exact ⟨le_top, le_rfl⟩
  · cases h
    exact le_top
  · cases h

theorem recvClose_halves {st st' : State} (h : st.recvClose = .ok st') : st.halves ≤ st'.halves := by
  unfold recvClose at h
  split at h
  · cases h
    exact ⟨le_rfl, le_top⟩
  · cases h
    exact le_top
  · cases h

section

variable [HeaderPlz] [StoreCrates]

omit [StoreCrates] in
theorem recvOpen_halves {st st' : State} {frame : Headers} {isInitial : Bool}
    (h : st.recvOpen frame = .ok (isInitial, st')) : st.halves ≤ st'.halves := by
  unfold recvOpen at h
  dsimp only at h
  split at h
  · cases h
    exact bot_le
  · cases h
    split
    · exact le_top
    · split
      · exact le_rfl
      · exact ⟨le_rfl, headers_le_body⟩
  · cases h
    split
    · exact ⟨le_rfl, le_top⟩
    · exact ⟨le_rfl, (recvPeer frame).headers_le_half⟩
  · cases h
    split
    · exact le_top
    · exact ⟨le_rfl, (recvPeer frame).headers_le_half⟩
  · cases h

end

end State

section

variable [HeaderPlz] [StoreCrates] {K : Scope} {s s' : Inner} {k : Key} {st st' : Stream}

omit [StoreCrates] in
theorem Turn.halves {role : Role} {kind : Kind} (h : Turn K role k kind st st') :
    st.state.halves ≤ st'.state.halves := by
  cases h with
  | remoteReset => exact State.halves_le_closed _ (State.isClosed_recvReset _ _ _)
  | fail => exact State.halves_le_closed _ (State.isClosed_handleError _ _)
  | eof => exact State.halves_le_closed _ (State.isClosed_recvEof _)
  | schedule => exact State.halves_le_closed _ rfl
  | reset => exact State.halves_le_closed _ rfl
  | sendOpen _ _ _ h => exact State.sendOpen_halves h
  | sendClose _ _ h => exact State.sendClose_halves h
  | recvOpen _ _ _ _ h => exact State.recvOpen_halves h
  | recvClose _ _ h => exact State.recvClose_halves h
  | _ => exact le_rfl

theorem Moves.halves {floor : Half × Half} (h : Moves K s s') (hborn : ¬K.born k)
    (hs : ∀ st, s.get? k = some st → floor ≤ st.state.halves) :
    ∀ st, s'.get? k = some st → floor ≤ st.state.halves :=
  h.keep hborn (P := fun state => floor ≤ state.halves) (fun _ _ _ _ hturn hle => hle.trans hturn.halves) hs

def Inner.Reached (s : Inner) (id : Nat) (floor : Half × Half) : Prop :=
  s.Known id ∧ ∀ k st, s.get? k = some st → k.streamId = id → floor ≤ st.state.halves

namespace Connection

variable {c c' : Connection} {e : Event}

theorem Settled.reached (hc : c.Settled) (hk : c.streams.get? k = some st) :
    c.Failed ∨ c.streams.Reached k.streamId st.state.halves := by
  by_cases hfail : c.Failed
  · exact Or.inl hfail
  refine Or.inr ⟨hc.known k st hk, fun j stj hj hsame => ?_⟩
  have hawake : ∀ {i sti}, c.streams.get? i = some sti → sti.state ≠ .idle := by
    intro i sti hi hidle
    exact hfail (hc.rest i sti hi (by simp [State.waits, State.isIdle, hidle]))
  by_cases hclosed : stj.state.isClosed = true
  · exact State.halves_le_closed _ hclosed
  · have hlive : stj.Live False := ⟨by simpa using hclosed, Or.inl (hawake hj)⟩
    obtain rfl : k = j := hc.tidy.alone j k stj st hj hlive hk hsame.symm
    cases hk.symm.trans hj
    exact le_rfl

theorem Settled.reached_next {id : Nat} {floor : Half × Half} (hc : c.Settled)
    (hs : c.Failed ∨ c.streams.Reached id floor) (h : c.next e = some c') :
    c'.Failed ∨ c'.streams.Reached id floor := by
  rcases hs with hfail | ⟨hknown, hfloor⟩
  · exact Or.inl (hfail.next h)
  have hmoves := hc.moves h
  by_cases hfailed : c'.Failed
  · exact Or.inl hfailed
  refine Or.inr ⟨hmoves.knows hknown, fun j stj hj hid => ?_⟩
  by_cases hborn : (c.scope e).born j
  · rcases hborn with hnew | hrev
    · exact absurd (hid ▸ hknown) (hnew.unknown hc)
    · -- the stream is put back in the store only to be reset
      rcases hrev.waits h hj with hreset | hno
      · rw [State.halves_closed (State.isClosed_of_isReset hreset)]
        exact le_top
      · exact absurd hno hfailed
  · exact hmoves.halves hborn (fun st hst => hfloor j st hst hid) stj hj

/-- The lifecycle of a stream id: what its stream has reached once, every stream that is found under
this id later on has reached too, or the connection reads no more frames. -/
theorem after_halves {role : Role} {config : ConnectionConfig} {debug : Bool} {past events : List Event}
    {j : Key} (hpast : (Connection.new role config debug).after past = some c)
    (hk : c.streams.get? k = some st) (h : c.after events = some c')
    (hj : c'.streams.get? j = some st') (hid : j.streamId = k.streamId) :
    st.state.halves ≤ st'.state.halves ∨ c'.Failed := by
  have hc := (after_invariant (I := fun _ => True) (.new role config debug) trivial
    (fun _ _ _ _ _ _ => trivial) hpast).1
  obtain ⟨-, hfail | ⟨-, hfloor⟩⟩ := after_invariant
    (I := fun c => c.Failed ∨ c.streams.Reached k.streamId st.state.halves) hc (hc.reached hk)
    (fun _ _ _ hc hs hnext => hc.reached_next hs hnext) h
  · exact Or.inr hfail
  · exact Or.inl (hfloor j st' hj hid)

end Connection

end

section

attribute [local instance] plain plainCrates

def lifecycleEvents : List Event :=
  [.recvData ((Data.new 1 [7]).setEndStream true), .accept, .sendReset ⟨0, 1⟩ Reason.CANCEL]

def halvesAfter (events : List Event) : Option (Half × Half) :=
  (((Connection.new .server plainConfig true).after (.recvHeaders (plainHeaders 1) :: events)).bind
    (·.streams.get? ⟨0, 1⟩)).map (·.state.halves)

example : (List.range 4).map (fun n => halvesAfter (lifecycleEvents.take n)) =
    [some (.headers, .body), some (.headers, .ended), some (.headers, .ended), some ⊤] := by
  decide +kernel

theorem after_halves_request :
    ∃ c c' st st', (Connection.new .server plainConfig true).after [.recvHeaders (plainHeaders 1)] = some c ∧
      c.streams.get? ⟨0, 1⟩ = some st ∧ c.after lifecycleEvents = some c' ∧
      c'.streams.get? ⟨0, 1⟩ = some st' ∧ (st.state.halves ≤ st'.state.halves ∨ c'.Failed) := by
  have hrun : (((Connection.new .server plainConfig true).after [.recvHeaders (plainHeaders 1)]).bind
      fun c => (c.streams.get? ⟨0, 1⟩).bind fun _ => (c.after lifecycleEvents).bind
        fun c' => c'.streams.get? ⟨0, 1⟩).isSome = true := by
    decide +kernel
  obtain ⟨st', hrun⟩ := Option.isSome_iff_exists.mp hrun
  obtain ⟨c, hc, hrun⟩ := Option.bind_eq_some_iff.mp hrun
  obtain ⟨st, hst, hrun⟩ := Option.bind_eq_some_iff.mp hrun
  obtain ⟨c', hc', hst'⟩ := Option.bind_eq_some_iff.mp hrun
  exact ⟨c, c', st, st', hc, hst, hc', hst', Connection.after_halves hc hst hc' hst' rfl⟩

end

end TwoPlz
