import TwoPlz.Streams.Stream

/-! The frames that a stream has yet to send. -/

namespace TwoPlz

namespace State

def isUnsent : State → Bool
  | .idle | .reservedLocal => true
  | .opened .awaitingHeaders _ => true
  | .halfClosedRemote .awaitingHeaders => true
  | _ => false

def isSent : State → Bool
  | .opened .streaming _ => true
  | .halfClosedLocal _ => true
  | .halfClosedRemote .streaming => true
  | .closed .endStream => true
  | _ => false

/-- A body may still be in the queue; that of a stream that is to be reset goes before the reset only
if there is no hurry. -/
def Streams (state : State) : Prop :=
  state.isSendStreaming = true ∨
    state.isClosed = true ∧ ∀ reason, state.getScheduledReset = some reason → reason = Reason.CANCEL

theorem isUnsent_of_streams {state : State} (h : state.Streams) : state.isUnsent = false := by
  rcases h with h | ⟨h, -⟩
  · cases state with
    | opened localPeer _ => cases localPeer <;> first | rfl | cases h
    | halfClosedRemote peer => cases peer <;> first | rfl | cases h
    | _ => first | rfl | cases h
  · cases state <;> first | rfl | cases h

theorem isUnsent_of_isSent {state : State} (h : state.isSent = true) : state.isUnsent = false := by
  cases state with
  | opened localPeer _ => cases localPeer <;> first | rfl | cases h
  | halfClosedRemote peer => cases peer <;> first | rfl | cases h
  | _ => first | rfl | cases h

theorem isUnsent_of_isClosed {state : State} (h : state.isClosed = true) : state.isUnsent = false := by
  cases state <;> first | rfl | cases h

theorem isUnsent_of_isReset {state : State} (h : state.isReset = true) : state.isUnsent = false := by
  cases state <;> first | rfl | cases h

theorem isUnsent_of_sendOpen {state state' : State} {eos : Bool} (h : state.sendOpen eos = .ok state') :
    state.isUnsent = true := by
  unfold sendOpen at h
  split at h <;> first | rfl | cases h

theorem isSent_sendOpen {state state' : State} {eos : Bool} (h : state.sendOpen eos = .ok state') :
    state'.isSent = true ∧ (eos = false → state'.isSendStreaming = true) := by
  unfold sendOpen at h
  split at h <;> cases h <;> cases eos <;> simp [isSent, isSendStreaming]

theorem isUnsent_sendClose {state state' : State} (h : state.sendClose = some state') :
    state'.isUnsent = false := by
  unfold sendClose at h
  split at h <;> cases h <;> rfl

theorem isUnsent_recvClose {state state' : State} (h : state.recvClose = .ok state')
    (hun : state'.isUnsent = true) : state.isUnsent = true := by
  unfold recvClose at h
  split at h <;> cases h
  · rename_i localPeer _
    cases localPeer <;> first | rfl | cases hun
  · cases hun

theorem isUnsent_recvOpen [HeaderPlz] {state state' : State} {frame : Headers} {isInitial : Bool}
    (h : state.recvOpen frame = .ok (isInitial, state')) (hun : state'.isUnsent = true) :
    state.isUnsent = true := by
  unfold recvOpen at h
  split at h <;> cases h
  · rfl
  · revert hun
    cases frame.isEndStream <;> cases frame.isInformational <;> simp [isUnsent]
  · rename_i localPeer
    revert hun
    cases localPeer
    · exact fun _ => rfl
    · cases frame.isEndStream <;> simp [isUnsent]
  · revert hun
    cases frame.isEndStream <;> simp [isUnsent]

theorem isClosed_recvReset (state : State) (frame : Reset) (queued : Bool) :
    (state.recvReset frame queued).isClosed = true := by
  unfold State.recvReset
  split <;> rfl

theorem isClosed_handleError (state : State) (err : ProtoError) :
    (state.handleError err).isClosed = true := by
  cases state <;> rfl

theorem isClosed_recvEof (state : State) : state.recvEof.isClosed = true := by
  cases state <;> rfl

namespace Streams

variable {state state' : State}

theorem recvReset (frame : Reset) (queued : Bool) (h : state.Streams) :
    (state.recvReset frame queued).Streams := by
  unfold State.recvReset
  split
  · exact h
  · exact Or.inr ⟨rfl, nofun⟩

theorem recvEof (h : state.Streams) : state.recvEof.Streams := by
  unfold State.recvEof
  split
  · exact h
  · exact Or.inr ⟨rfl, nofun⟩

theorem recvClose (hclose : state.recvClose = .ok state') (h : state.Streams) : state'.Streams := by
  unfold State.recvClose at hclose
  split at hclose <;> cases hclose
  · rename_i localPeer _
    cases localPeer
    · rcases h with h | ⟨h, -⟩ <;> cases h
    · exact Or.inl rfl
  · rcases h with h | ⟨h, -⟩ <;> cases h

theorem recvOpen [HeaderPlz] {frame : Headers} {isInitial : Bool}
    (hopen : state.recvOpen frame = .ok (isInitial, state')) (h : state.Streams) : state'.Streams := by
  unfold State.recvOpen at hopen
  split at hopen <;> cases hopen
  · rcases h with h | ⟨h, -⟩ <;> cases h
  · rcases h with h | ⟨h, -⟩ <;> cases h
  · rename_i localPeer
    cases localPeer
    · rcases h with h | ⟨h, -⟩ <;> cases h
    · cases frame.isEndStream <;> exact Or.inl rfl
  · rcases h with h | ⟨h, -⟩ <;> cases h

end Streams

end State

variable [HeaderPlz]

def Stream.hasData (st : Stream) : Bool := st.pendingSend.any Frame.isData

def Stream.trailers (st : Stream) : List Frame :=
  (st.pendingSend.dropWhile fun frame => !frame.isData).filter Frame.isHeaders

theorem Stream.trailers_of_dry {st : Stream} (h : st.hasData = false) : st.trailers = [] := by
  have hall : ∀ frame ∈ st.pendingSend, (!frame.isData) = true := by
    simpa [hasData] using h
  have hnil := @List.dropWhile_append_of_pos _ _ _ [] hall
  simp only [List.append_nil, List.dropWhile_nil] at hnil
  simp [trailers, hnil]

/-- The queue of a stream: headers, at most one DATA frame, trailers, all of them its own. -/
structure Stream.Shaped (st : Stream) : Prop where
  own : ∀ frame ∈ st.pendingSend, frame.streamId = st.id
  unsent : st.state.isUnsent = true → st.pendingSend = [] ∧ st.isSendingTrailer = false
  single : (st.pendingSend.filter Frame.isData).length ≤ 1
  data : st.hasData = true → st.isSendingTrailer = false ∧ st.state.Streams

structure Stream.Served (st : Stream) : Prop where
  dry : st.hasData = false
  body : st.isSendingTrailer = false
  streams : st.state.Streams

namespace Stream.Shaped

variable {st : Stream} {state : State}

theorem new (id initSend initRecv : Nat) (len : ContentLength) :
    Shaped { Stream.new id initSend initRecv with contentLength := len } :=
  ⟨nofun, fun _ => ⟨rfl, rfl⟩, Nat.zero_le _, nofun⟩

theorem restate (h : st.Shaped) (hun : state.isUnsent = true → st.state.isUnsent = true)
    (hstreams : st.hasData = true → st.state.Streams → state.Streams) :
    Shaped { st with state := state } where
  own := h.own
  unsent hstate := h.unsent (hun hstate)
  single := h.single
  data hdata := (h.data hdata).imp_right (hstreams hdata)

theorem closed (h : st.Shaped) (hclosed : state.isClosed = true) (hstreams : st.state.Streams → state.Streams) :
    Shaped { st with state := state } :=
  h.restate (fun hun => absurd hun (by simp [State.isUnsent_of_isClosed hclosed])) fun _ => hstreams

theorem drained (hclosed : st.state.isClosed = true) (hempty : st.pendingSend = []) : Shaped st where
  own := by simp [hempty]
  unsent hun := absurd hun (by simp [State.isUnsent_of_isClosed hclosed])
  single := by simp [hempty]
  data hdata := absurd hdata (by simp [hasData, hempty])

theorem scheduled (h : st.Shaped) {reason : Nat} (dry : reason ≠ Reason.CANCEL → st.hasData = false) :
    Shaped { st with state := .closed (.scheduledLibraryReset reason) } := by
  refine h.restate nofun fun hdata _ => Or.inr ⟨rfl, fun r hr => ?_⟩
  cases hr
  by_contra hno
  rw [dry hno] at hdata
  cases hdata

theorem opened (h : st.Shaped) (hun : st.state.isUnsent = true) : Shaped { st with state := state } := by
  obtain ⟨hempty, htrailer⟩ := h.unsent hun
  exact h.restate (fun _ => hun) fun hdata => absurd hdata (by simp [hasData, hempty])

theorem queued (h : st.Shaped) {frame : Frame} (own : frame.streamId = st.id) (sent : st.state.isUnsent = false)
    (data : frame.isData = true → st.state.Streams ∧ st.hasData = false ∧ st.isSendingTrailer = false) :
    Shaped { st with pendingSend := st.pendingSend ++ [frame] } where
  own := by
    intro f hf
    rcases List.mem_append.mp hf with hf | hf
    · exact h.own f hf
    · exact List.mem_singleton.mp hf ▸ own
  unsent hun := absurd hun (by simp [sent])
  single := by
    cases hframe : frame.isData with
    | false => simpa [List.filter_append, hframe] using h.single
    | true =>
      have hnone : st.pendingSend.filter Frame.isData = [] := by
        simpa [hasData] using (data hframe).2.1
      simp [List.filter_append, hnone, hframe]
  data hdata := by
    have hor : st.hasData = true ∨ frame.isData = true := by simpa [hasData] using hdata
    rcases hor with hold | hnew
    · exact h.data hold
    · obtain ⟨hstreams, -, htrailer⟩ := data hnew
      exact ⟨htrailer, hstreams⟩

theorem taken (h : st.Shaped) {frame : Frame} {rest : List Frame} (htake : st.pendingSend = frame :: rest) :
    Shaped { st with pendingSend := rest } where
  own f hf := h.own f (htake ▸ List.mem_cons_of_mem _ hf)
  unsent hun := by
    have hempty := (h.unsent hun).1
    rw [htake] at hempty
    cases hempty
  single := by
    refine Nat.le_trans (List.Sublist.length_le ?_) h.single
    rw [htake]
    exact (List.sublist_cons_self frame rest).filter _
  data hdata := by
    refine h.data ?_
    have hrest : rest.any Frame.isData = true := hdata
    simp [hasData, htake, hrest]

theorem restored (h : st.Shaped) {frame : Frame} (own : frame.streamId = st.id) (dry : st.hasData = false)
    (body : st.isSendingTrailer = false) (streams : st.state.Streams) :
    Shaped { st with pendingSend := frame :: st.pendingSend } where
  own f hf := by
    rcases List.mem_cons.mp hf with rfl | hf
    · exact own
    · exact h.own f hf
  unsent hun := absurd hun (by simp [State.isUnsent_of_streams streams])
  single := by
    have hnone : st.pendingSend.filter Frame.isData = [] := by simpa [hasData] using dry
    simp only [List.filter_cons, hnone]
    split <;> simp
  data _ := ⟨body, streams⟩

theorem served (h : st.Shaped) {data : Data} {rest : List Frame} (htake : st.pendingSend = .data data :: rest) :
    Served { st with pendingSend := rest } := by
  have hdata : st.hasData = true := by simp [hasData, htake, Frame.isData]
  obtain ⟨hbody, hstreams⟩ := h.data hdata
  refine ⟨?_, hbody, hstreams⟩
  have hsingle := h.single
  simp only [htake, List.filter_cons, Frame.isData, if_true, List.length_cons] at hsingle
  have hnone : rest.filter Frame.isData = [] := List.eq_nil_of_length_eq_zero (by omega)
  simpa [hasData] using hnone

theorem dry_of_trailer (h : st.Shaped) (htrailer : st.isSendingTrailer = true) : st.hasData = false := by
  by_contra hno
  rw [(h.data (by simpa using hno)).1] at htrailer
  cases htrailer

end Stream.Shaped

end TwoPlz
