import TwoPlz.Streams.Move
import TwoPlz.Streams.Queues

/-! The queues of the received messages under the moves. -/

namespace TwoPlz

variable [HeaderPlz] [StoreCrates]

section

omit [HeaderPlz] [StoreCrates]

theorem State.isRecvHeaders_of_closed {state : State} (h : state.isClosed = true) :
    state.isRecvHeaders = false := by
  obtain ⟨cause, rfl⟩ := State.isClosed_cases h
  rfl

theorem State.isRecvHeaders_of_ended {state : State} (h : state.isRecvEndStream = true) :
    state.isRecvHeaders = false := by
  unfold State.isRecvEndStream at h
  split at h <;> first | rfl | cases h

theorem State.isRecvHeaders_sendOpen {state state' : State} {eos : Bool}
    (h : state.sendOpen eos = .ok state') (hst : state.isRecvHeaders = false) :
    state'.isRecvHeaders = false := by
  unfold State.sendOpen at h
  split at h <;> cases h <;> cases eos <;> first | rfl | (rename_i remote; cases remote <;> first | rfl | cases hst)

theorem State.isRecvHeaders_sendClose {state state' : State} (h : state.sendClose = some state')
    (hst : state.isRecvHeaders = false) : state'.isRecvHeaders = false := by
  unfold State.sendClose at h
  split at h <;> cases h
  · rename_i remote
    cases remote with
    | awaitingHeaders => cases hst
    | streaming => rfl
  · rfl

end

omit [StoreCrates] in
theorem State.isRecvHeaders_recvOpen {state state' : State} {frame : Headers} {isInitial : Bool}
    (h : state.recvOpen frame = .ok (isInitial, state')) : state.isRecvHeaders = true := by
  unfold State.recvOpen at h
  split at h <;> first | rfl | cases h

/-- Every queue is threaded through the streams; `line` gives their contents. -/
def Inner.Lines (s : Inner) (line : Next → List Key) : Prop := ∀ n, s.Thread n (line n)

inductive Shift (K : Scope) (s : Inner) : List Key → List Key → List Key → List Key → Prop
  | same (la lc : List Key) : Shift K s la lc la lc
  | accept (k : Key) (la lc : List Key) : Shift K s (k :: la) lc la lc
  | complete (k : Key) (la lc : List Key) : Shift K s la (k :: lc) la lc
  | offer {k : Key} {st : Stream} (la lc : List Key) (hk : s.get? k = some st)
      (complete : st.state.isRecvEndStream = true) : Shift K s la (k :: lc) (la ++ [k]) lc
  | enlist {k : Key} (la lc : List Key) (hK : K.lists k) (new : k ∉ la ++ lc)
      (below : k.streamId ≤ s.recv.maxStreamId)
      (processed : s.counts.role.isServer = true → k.streamId ≤ s.recv.lastProcessedId) :
      Shift K s la lc la (lc ++ [k])

section

variable {K : Scope} {s s' : Inner} {k : Key} {st st' : Stream} {line : Next → List Key}

omit [StoreCrates] in
theorem Turn.isQueued {role : Role} {kind : Kind} (h : Turn K role k kind st st') (n : Next) :
    st'.isQueued n = st.isQueued n ∧ st'.next n = st.next n := by
  cases h <;> cases n <;> exact ⟨rfl, rfl⟩

theorem PushTally.other {n : Next} {counts : Counts} (h : PushTally s k st n counts) :
    n ≠ .accept ∧ n ≠ .complete := by
  cases h <;> decide

namespace Inner.Lines

theorem counts (h : s.Lines line) (counts : Counts) : Inner.Lines { s with counts := counts } line :=
  fun n => (h n).congr (by cases n <;> rfl) (fun _ => Iff.rfl) (fun _ => rfl)

theorem update {n : Next} {l : List Key} {val : Bool} (h : s.Lines line) (hf : Flagged n k val s s')
    (hn : s'.Thread n l) : s'.Lines (Function.update line n l) := by
  intro m
  by_cases hm : m = n
  · subst hm
    rw [Function.update_self]
    exact hn
  · rw [Function.update_of_ne hm]
    exact hf.thread hm (h m)

theorem push {n : Next} (h : s.Lines line) (hpush : M.push n k s = some (true, s')) :
    s'.Lines (Function.update line n (line n ++ [k])) := by
  obtain ⟨_, _, ⟨hno, -⟩ | ⟨-, -, hf⟩⟩ := M.push_some hpush
  · cases hno
  · exact h.update hf (M.push_thread (h n) hpush)

theorem pushFront {n : Next} (h : s.Lines line) (hpush : M.pushFront n k s = some (true, s')) :
    s'.Lines (Function.update line n (k :: line n)) := by
  obtain ⟨_, _, ⟨hno, -⟩ | ⟨-, -, hf⟩⟩ := M.pushFront_some hpush
  · cases hno
  · exact h.update hf (M.pushFront_thread (h n) hpush)

theorem pop {n : Next} (h : s.Lines line) (hpop : M.pop n s = some (some k, s')) :
    ∃ rest, line n = k :: rest ∧ s'.Lines (Function.update line n rest) := by
  obtain ⟨rest, hline, hthread⟩ := M.pop_thread (h n) hpop
  rcases M.pop_some hpop with ⟨hno, -⟩ | ⟨_, _, _, _, _, -, hf⟩
  · cases hno
  · exact ⟨rest, hline, h.update hf hthread⟩

theorem mem_iff {n : Next} (h : s.Lines line) (hk : s.get? k = some st) :
    k ∈ line n ↔ st.isQueued n = true := by
  rw [← isQueued_self hk]
  exact (Threaded.queued_iff (h n) k).symm

theorem not_mem {n : Next} (h : s.Lines line) (hk : s.get? k = some st)
    (hq : st.isQueued n = false) : k ∉ line n := by
  rw [h.mem_iff hk, hq]
  simp

end Inner.Lines

/-- Every move keeps the queues threaded. -/
theorem Move.lines (h : Move K s s') (hs : s.Lines line) :
    ∃ line', s'.Lines line' ∧
      Shift K s (line .accept) (line .complete) (line' .accept) (line' .complete) := by
  cases h with
  | aside h =>
    refine ⟨line, fun n => (hs n).congr (h.queue n) (fun j => ?_) (fun j => ?_), .same _ _⟩
    · simp only [Inner.isQueued, Inner.get?, h.store]
    · simp only [Inner.nextOf, Inner.get?, h.store]
  | limit => exact ⟨line, fun n => (hs n).congr (by cases n <;> rfl) (fun _ => Iff.rfl) (fun _ => rfl), .same _ _⟩
  | process => exact ⟨line, fun n => (hs n).congr (by cases n <;> rfl) (fun _ => Iff.rfl) (fun _ => rfl), .same _ _⟩
  | turn hk h =>
    exact ⟨line, fun n => (hs n).set hk h.id rfl (by cases n <;> rfl) (h.isQueued n).1 (h.isQueued n).2,
      .same _ _⟩
  | push h _ _ tally =>
    refine ⟨_, (hs.push h).counts _, ?_⟩
    rw [Function.update_of_ne tally.other.1.symm, Function.update_of_ne tally.other.2.symm]
    exact .same _ _
  | pushFront _ h =>
    refine ⟨_, hs.pushFront h, ?_⟩
    rw [Function.update_of_ne (by decide), Function.update_of_ne (by decide)]
    exact .same _ _
  | @pop _ n k _ _ h =>
    obtain ⟨rest, hline, hlines⟩ := hs.pop h
    refine ⟨_, hlines.counts _, ?_⟩
    by_cases haccept : n = .accept
    · subst haccept
      rw [hline]
      exact .accept k _ _
    · by_cases hcomplete : n = .complete
      · subst hcomplete
        rw [hline]
        exact .complete k _ _
      · rw [Function.update_of_ne (Ne.symm haccept), Function.update_of_ne (Ne.symm hcomplete)]
        exact .same _ _
  | enlist hK hk started unoffered below processed h =>
    obtain ⟨st', hk', ⟨hno, -⟩ | ⟨-, hq, -⟩⟩ := M.push_some h
    · cases hno
    refine ⟨_, hs.push h, .enlist _ _ hK ?_ below processed⟩
    rw [List.mem_append, not_or]
    exact ⟨hs.not_mem hk unoffered, hs.not_mem hk' hq⟩
  | offer hK hk complete hpop hpush =>
    obtain ⟨rest, hline, hlines⟩ := hs.pop hpop
    refine ⟨_, hlines.push hpush, ?_⟩
    rw [hline]
    exact .offer _ _ hk complete
  | insert id initSend initRecv len hK unlinked =>
    exact ⟨line, fun n => (hs n).insert rfl (by cases n <;> rfl) (by cases n <;> rfl) rfl
      (by cases n <;> rfl), .same _ _⟩
  | unlink hk closed =>
    exact ⟨line, fun n => (hs n).congr (by cases n <;> rfl) (fun _ => Iff.rfl) (fun _ => rfl), .same _ _⟩
  | remove hk released =>
    exact ⟨line, fun n => (hs n).vacate hk (isQueued_released released n) rfl (by cases n <;> rfl),
      .same _ _⟩
  | discard hK hk idle unqueued =>
    exact ⟨line, fun n => (hs n).vacate hk (unqueued n) rfl (by cases n <;> rfl), .same _ _⟩

/-- A stream that waits to be accepted has its headers, and nobody holds an idle one.  The streams that
wait for a slot are those of this endpoint; a server hands out those of the client. -/
structure Stream.Sound (role : Role) (k : Key) (st : Stream) : Prop where
  offered : st.isPendingAccept = true → st.state.isRecvHeaders = false
  unheld : st.state = .idle → st.refCount = 0
  unreserved : st.state ≠ .reservedRemote
  opening : st.isPendingOpen = true → role.isLocalInit k.streamId = true ∧ st.isCounted = false
  held : role.isServer = true → role.isLocalInit k.streamId = true →
    st.refCount = 0 ∧ st.isPendingAccept = false ∧ st.isPendingComplete = false
  shaped : st.Shaped

omit [StoreCrates] in
theorem Turn.received {role : Role} {kind : Kind} (h : Turn K role k kind st st')
    (hst : st.state.isRecvHeaders = false) : st'.state.isRecvHeaders = false := by
  cases h with
  | remoteReset _ frame =>
    exact State.isRecvHeaders_of_closed (State.isClosed_recvReset st.state frame st.isPendingSend)
  | fail _ err => exact State.isRecvHeaders_of_closed (State.isClosed_handleError st.state err)
  | eof => exact State.isRecvHeaders_of_closed (State.isClosed_recvEof st.state)
  | schedule => rfl
  | reset => rfl
  | sendOpen _ _ _ h => exact State.isRecvHeaders_sendOpen h hst
  | sendClose _ _ h => exact State.isRecvHeaders_sendClose h hst
  | recvOpen _ _ _ _ h =>
    rw [State.isRecvHeaders_recvOpen h] at hst
    cases hst
  | recvClose _ _ h =>
    unfold State.recvClose at h
    split at h <;> cases h <;> rfl
  | _ => exact hst

omit [HeaderPlz] [StoreCrates] in
theorem State.unreserved_closed {state : State} (h : state.isClosed = true) : state ≠ .reservedRemote := by
  rintro rfl
  cases h

omit [StoreCrates] in
theorem Turn.unreserved {role : Role} {kind : Kind} (h : Turn K role k kind st st')
    (hst : st.state ≠ .reservedRemote) : st'.state ≠ .reservedRemote := by
  cases h with
  | remoteReset _ frame => exact State.unreserved_closed (State.isClosed_recvReset st.state frame st.isPendingSend)
  | fail _ err => exact State.unreserved_closed (State.isClosed_handleError st.state err)
  | eof => exact State.unreserved_closed (State.isClosed_recvEof st.state)
  | schedule => simp
  | reset => exact State.unreserved_closed rfl
  | sendOpen _ eos _ h =>
    unfold State.sendOpen at h
    split at h <;> cases h <;> cases eos <;> simp
  | sendClose _ _ h =>
    unfold State.sendClose at h
    split at h <;> cases h <;> simp
  | recvOpen _ frame _ _ h =>
    unfold State.recvOpen at h
    split at h <;> cases h
    · cases frame.isEndStream <;> simp
    · exact absurd (by assumption) hst
    · cases frame.isEndStream <;> simp
    · cases frame.isEndStream <;> simp
  | recvClose _ _ h =>
    unfold State.recvClose at h
    split at h <;> cases h <;> simp
  | _ => exact hst

omit [StoreCrates] in
theorem Turn.sound {role : Role} {kind : Kind} (h : Turn K role k kind st st') (hst : st.Sound role k) :
    st'.Sound role k where
  offered hq := by
    have hold : st.isQueued .accept = true := (h.isQueued .accept).1.symm.trans hq
    exact h.received (hst.offered hold)
  unheld hidle := by
    have hold : st.state = .idle := by
      by_contra hno
      exact h.awake hno hidle
    have hcount := hst.unheld hold
    cases h with
    | refInc _ awake => exact absurd hold awake
    | refDec => exact Nat.sub_eq_zero_of_le (by simp [hcount])
    | _ => exact hcount
  unreserved := h.unreserved hst.unreserved
  opening hq := by
    have hold : st.isQueued .opening = true := (h.isQueued .opening).1.symm.trans hq
    obtain ⟨hlocal, huncounted⟩ := hst.opening hold
    refine ⟨hlocal, ?_⟩
    cases h with
    | count _ unopened => exact absurd (unopened.symm.trans hold) Bool.false_ne_true
    | uncount => rfl
    | _ => exact huncounted
  held hserver hlocal := by
    obtain ⟨hcount, haccept, hcomplete⟩ := hst.held hserver hlocal
    refine ⟨?_, (h.isQueued .accept).1.trans haccept, (h.isQueued .complete).1.trans hcomplete⟩
    cases h with
    | refInc _ _ own => exact absurd ((own hserver).symm.trans hlocal) Bool.false_ne_true
    | refDec => exact Nat.sub_eq_zero_of_le (by simp [hcount])
    | _ => exact hcount
  shaped := h.shaped hst.shaped

structure Enters (role : Role) (n : Next) (k : Key) (st : Stream) : Prop where
  accept : n = .accept → st.state.isRecvHeaders = false
  opening : n = .opening → role.isLocalInit k.streamId = true ∧ st.isCounted = false
  held : n = .accept ∨ n = .complete → role.isServer = true → role.isLocalInit k.streamId = false

omit [StoreCrates] in
theorem Stream.Sound.flag {role : Role} {n : Next} {now : Instant} {val : Bool} (h : st.Sound role k)
    (hn : val = true → Enters role n k st) : (st.setQueued n now val).Sound role k := by
  cases n with
  | accept =>
    refine ⟨fun hq => (hn hq).accept rfl, h.unheld, h.unreserved, h.opening, fun hserver hlocal => ?_,
      ⟨h.shaped.own, h.shaped.unsent, h.shaped.single, h.shaped.data⟩⟩
    obtain ⟨hcount, -, hcomplete⟩ := h.held hserver hlocal
    refine ⟨hcount, ?_, hcomplete⟩
    cases val with
    | false => rfl
    | true => exact absurd (((hn rfl).held (Or.inl rfl) hserver).symm.trans hlocal) Bool.false_ne_true
  | complete =>
    refine ⟨h.offered, h.unheld, h.unreserved, h.opening, fun hserver hlocal => ?_,
      ⟨h.shaped.own, h.shaped.unsent, h.shaped.single, h.shaped.data⟩⟩
    obtain ⟨hcount, haccept, -⟩ := h.held hserver hlocal
    refine ⟨hcount, haccept, ?_⟩
    cases val with
    | false => rfl
    | true => exact absurd (((hn rfl).held (Or.inr rfl) hserver).symm.trans hlocal) Bool.false_ne_true
  | opening =>
    exact ⟨h.offered, h.unheld, h.unreserved, fun hq => (hn hq).opening rfl, h.held,
      ⟨h.shaped.own, h.shaped.unsent, h.shaped.single, h.shaped.data⟩⟩
  | _ =>
    exact ⟨h.offered, h.unheld, h.unreserved, h.opening, h.held,
      ⟨h.shaped.own, h.shaped.unsent, h.shaped.single, h.shaped.data⟩⟩

omit [StoreCrates] in
theorem Stream.Sound.link {role : Role} {n : Next} {key : Option Key} (h : st.Sound role k) :
    (st.setNext n key).Sound role k := by
  cases n <;> exact ⟨h.offered, h.unheld, h.unreserved, h.opening, h.held,
    ⟨h.shaped.own, h.shaped.unsent, h.shaped.single, h.shaped.data⟩⟩

theorem Flagged.sound {role : Role} {n : Next} {val : Bool} (h : Flagged n k val s s')
    (hs : s.Each fun k st => st.Sound role k) (hk : s.get? k = some st)
    (hval : val = true → Enters role n k st) : s'.Each fun k st => st.Sound role k := by
  intro j stj hj
  obtain ⟨stj', key, hold, rfl⟩ := h.get_inv hj
  have hsound := hs j stj' hold
  split
  · rename_i hjk
    subst hjk
    cases hk.symm.trans hold
    exact (hsound.flag hval).link
  · exact hsound.link

theorem PushTally.enters {n : Next} {counts : Counts} (h : PushTally s k st n counts) :
    Enters s.counts.role n k st := by
  cases h with
  | opening own uncounted => exact ⟨nofun, fun _ => ⟨own, uncounted⟩, by simp⟩
  | _ => exact ⟨nofun, nofun, by simp⟩

def Scope.Hears (K : Scope) (role : Role) : Prop :=
  ∀ k, K.lists k → role.isServer = true → role.isLocalInit k.streamId = false

theorem Move.sound (hK : K.Hears s.counts.role) (h : Move K s s') (hl : s.Lines line)
    (hs : s.Each fun k st => st.Sound s.counts.role k) :
    s'.Each fun k st => st.Sound s.counts.role k := by
  cases h with
  | aside h =>
    intro j stj hj
    exact hs j stj (by simpa only [Inner.get?, h.store] using hj)
  | limit => exact hs
  | process => exact hs
  | turn hk h => exact hs.put hk h.id (h.sound (hs _ _ hk))
  | push h hk _ tally =>
    obtain ⟨_, hst, ⟨-, -, rfl⟩ | ⟨-, -, hf⟩⟩ := M.push_some h
    · exact hs
    · have hpushed := hf.sound hs hk fun _ => tally.enters
      exact hpushed
  | pushFront _ h =>
    obtain ⟨st, hk, ⟨-, -, rfl⟩ | ⟨-, -, hf⟩⟩ := M.pushFront_some h
    · exact hs
    · exact hf.sound hs hk fun _ => ⟨(fun hno => by cases hno), (fun hno => by cases hno), by simp⟩
  | pop h =>
    rcases M.pop_some h with ⟨-, -, rfl⟩ | ⟨_, st, _, -, hk, -, hf⟩
    · exact hs
    · have hpopped := hf.sound hs hk fun hno => by cases hno
      exact hpopped
  | enlist hlists _ _ _ _ _ h =>
    obtain ⟨st, hk, ⟨-, -, rfl⟩ | ⟨-, -, hf⟩⟩ := M.push_some h
    · exact hs
    · exact hf.sound hs hk fun _ => ⟨(fun hno => by cases hno), (fun hno => by cases hno), fun _ => hK _ hlists⟩
  | @offer s₁ _ k st _ hk complete hpop hpush =>
    obtain ⟨rest, hline, -⟩ := hl.pop hpop
    have hlisted : st.isPendingComplete = true := (hl.mem_iff (n := .complete) hk).mp (by simp [hline])
    rcases M.pop_some hpop with ⟨hno, -⟩ | ⟨_, _, _, hsome, hk', -, hf⟩
    · cases hno
    cases hsome
    cases hk.symm.trans hk'
    have hs₁ := hf.sound hs hk fun hno => by cases hno
    obtain ⟨st₂, hk₂, ⟨hno, -⟩ | ⟨-, -, hf₂⟩⟩ := M.push_some hpush
    · cases hno
    obtain ⟨key, hself⟩ := hf.get_self hk
    cases hk₂.symm.trans hself
    refine hf₂.sound hs₁ hk₂ fun _ =>
      ⟨fun _ => State.isRecvHeaders_of_ended complete, (fun hno => by cases hno), fun _ hserver => ?_⟩
    by_contra hlocal
    have hunlisted := ((hs k st hk).held hserver (by simpa using hlocal)).2.2
    rw [hlisted] at hunlisted
    cases hunlisted
  | insert id initSend initRecv len hK =>
    intro j stj hj
    obtain ⟨rfl, rfl⟩ | hold := Inner.get?_insert rfl rfl hj
    · exact ⟨(fun hno => by cases hno), fun _ => rfl, (fun hno => by cases hno), (fun hno => by cases hno),
        fun _ _ => ⟨rfl, rfl, rfl⟩, .new _ _ _ _⟩
    · exact hs j stj hold
  | unlink => exact hs
  | remove hk => exact fun j stj hj => hs j stj (Inner.get?_vacate hk rfl hj)
  | discard _ hk => exact fun j stj hj => hs j stj (Inner.get?_vacate hk rfl hj)

end

end TwoPlz
