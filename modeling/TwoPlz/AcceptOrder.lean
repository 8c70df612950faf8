import TwoPlz.Settled
import TwoPlz.Plain

/-! The order in which a server hands out requests. -/

namespace TwoPlz

section

variable [HeaderPlz] [StoreCrates]

def Event.headersId : Event → Option Nat
  | .recvHeaders frame => some frame.streamId
  | _ => none

def Ended (past : List Event) (id : Nat) : Prop := ∃ e ∈ past, e.EndsStream id

/-- The two queues `la` and `lc` of received messages: together they are part of `whole`, what is
offered is complete, and each id was opened by the peer. -/
structure Inner.InLine (s : Inner) (ended : Nat → Prop) (whole la lc : List Key) : Prop where
  part : (la ++ lc).Sublist whole
  offered : ∀ k ∈ la, ended k.streamId
  processed : ∀ k ∈ la ++ lc, k.streamId ≤ s.recv.lastProcessedId
  below : ∀ k ∈ la ++ lc, k.streamId ≤ s.recv.maxStreamId

def Stream.EndsOnlyIf (st : Stream) (ended : Prop) : Prop :=
  st.state ≠ .reservedLocal ∧ (st.state.isRecvEndStream = true → ended)

section

variable {K : Scope} {s s' : Inner} {k : Key} {st st' : Stream} {ended : Nat → Prop}
variable {whole la lc la' lc' : List Key}

omit [HeaderPlz] [StoreCrates] in
theorem sublist_of_not_mem {l whole : List Key} {k : Key} (h : l.Sublist (whole ++ [k])) (hk : k ∉ l) :
    l.Sublist whole := by
  obtain ⟨l₁, l₂, rfl, h₁, h₂⟩ := List.sublist_append_iff.mp h
  cases l₂ with
  | nil => simpa using h₁
  | cons a l₂ =>
    have ha : a = k := by simpa using h₂.subset List.mem_cons_self
    exact absurd (List.mem_append_right _ (ha ▸ List.mem_cons_self)) hk

theorem Shift.inLine (h : Shift K s la lc la' lc') (hserver : s.counts.role.isServer = true)
    (hlists : ∀ k, K.lists k → ∃ rest, whole = rest ++ [k])
    (hended : ∀ k st, s.get? k = some st → st.state.isRecvEndStream = true → ended k.streamId)
    (hs : s.InLine ended whole la lc) : s.InLine ended whole la' lc' := by
  obtain ⟨hpart, hoffered, hprocessed, hbelow⟩ := hs
  cases h with
  | same => exact ⟨hpart, hoffered, hprocessed, hbelow⟩
  | accept k =>
    rw [List.cons_append] at hpart hprocessed hbelow
    exact ⟨(List.sublist_cons_self _ _).trans hpart, fun j hj => hoffered j (List.mem_cons_of_mem _ hj),
      fun j hj => hprocessed j (List.mem_cons_of_mem _ hj), fun j hj => hbelow j (List.mem_cons_of_mem _ hj)⟩
  | complete k =>
    have hsub : (la ++ lc').Sublist (la ++ k :: lc') := (List.sublist_cons_self k lc').append_left la
    exact ⟨hsub.trans hpart, hoffered, fun j hj => hprocessed j (hsub.subset hj),
      fun j hj => hbelow j (hsub.subset hj)⟩
  | @offer k st _ _ hk complete =>
    have hsame : la ++ [k] ++ lc' = la ++ k :: lc' := by simp
    refine ⟨hsame ▸ hpart, fun j hj => ?_, hsame ▸ hprocessed, hsame ▸ hbelow⟩
    rcases List.mem_append.mp hj with hj | hj
    · exact hoffered j hj
    · rw [List.mem_singleton] at hj
      subst hj
      exact hended j st hk complete
  | @enlist k _ _ hK new below processed =>
    obtain ⟨rest, rfl⟩ := hlists k hK
    refine ⟨?_, hoffered, fun j hj => ?_, fun j hj => ?_⟩
    · rw [← List.append_assoc]
      exact (sublist_of_not_mem hpart new).append_right [k]
    all_goals rw [← List.append_assoc] at hj
    · rcases List.mem_append.mp hj with hj | hj
      · exact hprocessed j hj
      · rw [List.mem_singleton] at hj
        exact hj ▸ processed hserver
    · rcases List.mem_append.mp hj with hj | hj
      · exact hbelow j hj
      · rw [List.mem_singleton] at hj
        exact hj ▸ below

theorem Move.inLine (h : Move K s s') (hs : s.InLine ended whole la lc) :
    s'.InLine ended whole la lc := by
  obtain ⟨hpart, hoffered, hprocessed, hbelow⟩ := hs
  refine ⟨hpart, hoffered, fun j hj => (hprocessed j hj).trans h.onward.processed, fun j hj => ?_⟩
  rcases h.onward.floor with hfloor | hfloor
  · exact (hbelow j hj).trans hfloor
  · exact (hprocessed j hj).trans hfloor

section

omit [HeaderPlz] [StoreCrates]

theorem State.isRecvEndStream_sendOpen {state state' : State} {eos : Bool}
    (h : state.sendOpen eos = .ok state') (hstate : state ≠ .reservedLocal) :
    state' ≠ .reservedLocal ∧ (state'.isRecvEndStream = true → state.isRecvEndStream = true) := by
  unfold State.sendOpen at h
  split at h <;> cases h <;> cases eos <;> simp_all [State.isRecvEndStream]

theorem State.isRecvEndStream_sendClose {state state' : State} (h : state.sendClose = some state') :
    state' ≠ .reservedLocal ∧ (state'.isRecvEndStream = true → state.isRecvEndStream = true) := by
  unfold State.sendClose at h
  split at h <;> cases h <;> simp [State.isRecvEndStream]

theorem State.isRecvEndStream_closed (state : State) (err : ProtoError) (frame : Reset) (queued : Bool) :
    ((state.recvReset frame queued).isRecvEndStream = true → state.isRecvEndStream = true) ∧
      ((state.handleError err).isRecvEndStream = true → state.isRecvEndStream = true) ∧
        (state.recvEof.isRecvEndStream = true → state.isRecvEndStream = true) := by
  cases state <;> cases queued <;>
    simp [State.recvReset, State.handleError, State.recvEof, State.isRecvEndStream]

theorem State.ne_reservedLocal {state : State} (h : state.isClosed = true) : state ≠ .reservedLocal := by
  rintro rfl
  cases h

end

omit [StoreCrates] in
theorem State.recvOpen_ne_reservedLocal {state state' : State} {frame : Headers} {isInitial : Bool}
    (h : state.recvOpen frame = .ok (isInitial, state')) : state' ≠ .reservedLocal := by
  unfold State.recvOpen at h
  split at h <;> cases h <;> repeat' split
  all_goals simp

omit [StoreCrates] in
theorem Turn.endsOnlyIf {role : Role} {kind : Kind} (h : Turn K role k kind st st') {ended : Prop}
    (hends : K.ends k → ended) (hst : st.EndsOnlyIf ended) : st'.EndsOnlyIf ended := by
  obtain ⟨hreserved, hend⟩ := hst
  cases h with
  | remoteReset _ frame =>
    exact ⟨State.ne_reservedLocal (State.isClosed_recvReset _ _ _), fun hyes =>
      hend ((State.isRecvEndStream_closed st.state (.io .brokenPipe none) frame st.isPendingSend).1 hyes)⟩
  | fail _ err =>
    exact ⟨State.ne_reservedLocal (State.isClosed_handleError _ _), fun hyes =>
      hend ((State.isRecvEndStream_closed st.state err ⟨0, 0⟩ false).2.1 hyes)⟩
  | eof =>
    exact ⟨State.ne_reservedLocal (State.isClosed_recvEof _), fun hyes =>
      hend ((State.isRecvEndStream_closed st.state (.io .brokenPipe none) ⟨0, 0⟩ false).2.2 hyes)⟩
  | schedule => exact ⟨by simp, by simp [State.isRecvEndStream]⟩
  | reset => exact ⟨State.ne_reservedLocal rfl, fun hyes => by cases hyes⟩
  | sendOpen _ _ _ h =>
    obtain ⟨hne, hold⟩ := State.isRecvEndStream_sendOpen h hreserved
    exact ⟨hne, fun hyes => hend (hold hyes)⟩
  | sendClose _ _ h =>
    obtain ⟨hne, hold⟩ := State.isRecvEndStream_sendClose h
    exact ⟨hne, fun hyes => hend (hold hyes)⟩
  | recvOpen _ _ _ _ h _ eos => exact ⟨State.recvOpen_ne_reservedLocal h, fun hyes => hends (eos hyes)⟩
  | recvClose hK _ h =>
    refine ⟨?_, fun _ => hends hK⟩
    rintro rfl
    cases isRecvEndStream_recvClose h
  | _ => exact ⟨hreserved, hend⟩

theorem Moves.endsOnlyIf (h : Moves K s s') (hends : ∀ k : Key, K.ends k → ended k.streamId)
    (hs : s.Each fun k st => st.EndsOnlyIf (ended k.streamId)) :
    s'.Each fun k st => st.EndsOnlyIf (ended k.streamId) := by
  refine h.each ⟨⟨?_, ?_, ?_⟩, ?_⟩ hs
  · exact fun k kind st st' hturn => hturn.endsOnlyIf (hends k)
  · intro k st n now val
    cases n <;> exact fun h => h
  · intro k st n key
    cases n <;> exact fun h => h
  · exact fun k _ _ _ _ => ⟨by simp [Stream.new], by simp [Stream.new, State.isRecvEndStream]⟩

theorem Moves.inLine (h : Moves K s s') (hserver : s.counts.role.isServer = true)
    (hlists : ∀ k, K.lists k → ∃ rest, whole = rest ++ [k])
    (hends : ∀ k : Key, K.ends k → ended k.streamId)
    (hstates : s.Each fun k st => st.EndsOnlyIf (ended k.streamId))
    (hs : ∃ line, s.Lines line ∧ s.InLine ended whole (line .accept) (line .complete)) :
    ∃ line, s'.Lines line ∧ s'.InLine ended whole (line .accept) (line .complete) := by
  induction h with
  | refl => exact hs
  | step hmove _ ih =>
    obtain ⟨line, hlines, hin⟩ := hs
    obtain ⟨line', hlines', hshift⟩ := hmove.lines hlines
    refine ih (hmove.role ▸ hserver) ((Moves.single hmove).endsOnlyIf hends hstates) ⟨line', hlines', ?_⟩
    exact hmove.inLine (hshift.inLine hserver hlists (fun k st hk => (hstates k st hk).2) hin)

end

structure InOrder (past : List Event) (ids : List Nat) : Prop where
  sorted : ids.Pairwise (· < ·)
  arrived : ids.Sublist (past.filterMap Event.headersId)
  client : ∀ id ∈ ids, StreamId.isClientInitiated id = true

section

omit [StoreCrates]

theorem InOrder.part {past : List Event} {ids ids' : List Nat} (h : InOrder past ids)
    (hsub : ids'.Sublist ids) : InOrder past ids' :=
  ⟨h.sorted.sublist hsub, hsub.trans h.arrived, fun id hid => h.client id (hsub.subset hid)⟩

theorem InOrder.later {past : List Event} {ids : List Nat} (h : InOrder past ids) (e : Event) :
    InOrder (past ++ [e]) ids := by
  refine ⟨h.sorted, ?_, h.client⟩
  rw [List.filterMap_append]
  exact h.arrived.trans (List.sublist_append_left _ _)

theorem Ended.later {past : List Event} {id : Nat} (h : Ended past id) (e : Event) :
    Ended (past ++ [e]) id := by
  obtain ⟨e', he', hends⟩ := h
  exact ⟨e', List.mem_append_left _ he', hends⟩

end

theorem Inner.Known.lt {s : Inner} {id next : Nat} (hknown : s.Known id)
    (hserver : s.counts.role.isServer = true) (hclient : StreamId.isClientInitiated id = true)
    (hnext : s.recv.nextStreamId = some next) : id < next := by
  simp only [StreamId.isClientInitiated, Bool.and_eq_true, bne_iff_ne, beq_iff_eq] at hclient
  refine hknown next ?_
  rw [if_neg (by simp [Role.isLocalInit, hserver, StreamId.isServerInitiated, hclient.2]), hnext]

theorem InOrder.snoc {s : Inner} {past : List Event} {ids : List Nat} {frame : Headers} (h : InOrder past ids)
    (hserver : s.counts.role.isServer = true) (hknown : ∀ id ∈ ids, s.Known id)
    (hopen : s.Openable frame.streamId) :
    InOrder (past ++ [.recvHeaders frame]) (ids ++ [frame.streamId]) := by
  obtain ⟨-, hclient⟩ := hopen.isServer
  obtain ⟨-, next, hnext, hle⟩ := hopen
  refine ⟨?_, ?_, fun id hid => ?_⟩
  · rw [List.pairwise_append]
    refine ⟨h.sorted, List.pairwise_singleton _ _, fun id hid id' hid' => ?_⟩
    rw [List.mem_singleton] at hid'
    subst hid'
    exact Nat.lt_of_lt_of_le ((hknown id hid).lt hserver (h.client id hid) hnext) hle
  · rw [List.filterMap_append]
    exact h.arrived.append (List.Sublist.refl _)
  · rcases List.mem_append.mp hid with hid | hid
    · exact h.client id hid
    · rw [List.mem_singleton] at hid
      exact hid ▸ hclient

namespace Connection

def accepts (c : Connection) : Event → Option Nat
  | .accept =>
    if !c.isDone && c.streams.counts.role.isServer then
      ((Streams.accept c.streams).bind (·.1)).map (·.1.streamId)
    else none
  | _ => none

def accepted (c : Connection) : List Event → List Nat
  | [] => []
  | e :: events => (c.accepts e).toList ++ ((c.next e).elim [] fun c' => c'.accepted events)

/-- After the events `past` the requests `acc` have been accepted, and what waits continues them. -/
structure Ordered (c : Connection) (past : List Event) (acc : List Nat) : Prop where
  server : c.streams.counts.role.isServer = true
  states : c.streams.Each fun k st => st.EndsOnlyIf (Ended past k.streamId)
  accepted : ∀ id ∈ acc, Ended past id ∧ c.streams.Known id
  queues : ∃ line, c.streams.Lines line ∧
    c.streams.InLine (Ended past) (line .accept ++ line .complete) (line .accept) (line .complete) ∧
      InOrder past (acc ++ (line .accept ++ line .complete).map Key.streamId)

variable {c c' : Connection} {e : Event} {past : List Event} {acc : List Nat}

theorem accepts_eq_none (h : e ≠ .accept) : c.accepts e = none := by
  cases e <;> first | rfl | exact absurd rfl h

theorem Settled.known_of_mem {line : Next → List Key} {n : Next} {k : Key} (hc : c.Settled)
    (hlines : c.streams.Lines line) (hk : k ∈ line n) : c.streams.Known k.streamId := by
  obtain ⟨st, hst, -⟩ := (Threaded.queued_iff (hlines n) k).mpr hk
  exact hc.known k st hst

/-- The invariant after an event, from where its moves have left the queues. -/
theorem Ordered.of_inLine {s : Inner} {acc' : List Nat} (hc : c.Ordered past acc) (whole : List Key)
    (hmoves : Moves (c.scope e) c.streams s) (hstreams : c'.streams = s)
    (hacc : ∀ id ∈ acc', Ended (past ++ [e]) id ∧ c.streams.Known id)
    (hline : ∃ line, s.Lines line ∧ s.InLine (Ended (past ++ [e])) whole (line .accept) (line .complete))
    (horder : InOrder (past ++ [e]) (acc' ++ whole.map Key.streamId)) :
    c'.Ordered (past ++ [e]) acc' := by
  subst hstreams
  obtain ⟨line, hlines, hin⟩ := hline
  refine ⟨hmoves.role ▸ hc.server, ?_, fun id hid => ⟨(hacc id hid).1, hmoves.knows (hacc id hid).2⟩,
    line, hlines, ⟨List.Sublist.refl _, hin.offered, hin.processed, hin.below⟩, ?_⟩
  · refine @Moves.endsOnlyIf _ _ _ _ _ (Ended (past ++ [e])) hmoves
      (fun k hk => ⟨e, List.mem_append_right _ List.mem_cons_self, hk.2⟩) fun k st hk => ?_
    obtain ⟨hreserved, hend⟩ := hc.states k st hk
    exact ⟨hreserved, fun hyes => (hend hyes).later e⟩
  · exact horder.part ((hin.part.map _).append_left _)

theorem Ordered.later (hc : c.Ordered past acc) (e : Event) :
    (c.streams.Each fun k st => st.EndsOnlyIf (Ended (past ++ [e]) k.streamId)) ∧
      ∀ id ∈ acc, Ended (past ++ [e]) id ∧ c.streams.Known id := by
  refine ⟨fun k st hk => ?_, fun id hid => ⟨(hc.accepted id hid).1.later e, (hc.accepted id hid).2⟩⟩
  obtain ⟨hreserved, hend⟩ := hc.states k st hk
  exact ⟨hreserved, fun hyes => (hend hyes).later e⟩

theorem Ordered.next_accept (hc : c.Settled) (ho : c.Ordered past acc) (h : c.next .accept = some c') :
    c'.Ordered (past ++ [.accept]) (acc ++ (c.accepts .accept).toList) := by
  have hmoves := hc.moves h
  obtain ⟨hdone, h⟩ := Option.ite_none_right_eq_some.mp h
  obtain ⟨o, s', hrun, rfl⟩ := run_some h
  have haccepts : c.accepts .accept = o.map (·.1.streamId) := by
    simp only [accepts, if_pos hdone, hrun, Option.bind_some]
  rw [haccepts]
  obtain ⟨hstates, hacc⟩ := ho.later .accept
  obtain ⟨line, hlines, hin, horder⟩ := ho.queues
  have hlater : c.streams.InLine (Ended (past ++ [.accept])) (line .accept ++ line .complete)
      (line .accept) (line .complete) :=
    ⟨hin.part, fun k hk => (hin.offered k hk).later _, hin.processed, hin.below⟩
  rcases hc.accept_ends _ _ hrun with ⟨rfl, rfl⟩ | ⟨k, request, s₁, counts, rfl, hpop, hpopped, hrest⟩
  · refine ho.of_inLine _ hmoves rfl ?_ ⟨line, hlines, hlater⟩ ?_
    · simpa using hacc
    · simpa using horder.later .accept
  · obtain ⟨rest, hline, hlines₁⟩ := hlines.pop hpop
    have hk : k ∈ line .accept := hline ▸ List.mem_cons_self
    refine ho.of_inLine (rest ++ line .complete) hmoves rfl (fun id hid => ?_) ?_ ?_
    · rcases List.mem_append.mp hid with hid | hid
      · exact hacc id hid
      · rw [Option.map_some, Option.toList_some, List.mem_singleton] at hid
        subst hid
        exact ⟨hlater.offered k hk, hc.known_of_mem hlines hk⟩
    · have hends : ∀ k : Key, (c.scope .accept).ends k → Ended (past ++ [.accept]) k.streamId :=
        fun _ hk => hk.2.elim
      refine hrest.inLine (hpopped.role ▸ ho.server) (fun k hk => ?_) hends
        ((Moves.single hpopped).endsOnlyIf hends hstates) ⟨_, hlines₁.counts _, hpopped.inLine ?_⟩
      · rcases hk with hclient | ⟨id, hopens, -⟩
        · rw [ho.server] at hclient
          cases hclient
        · exact hopens.elim
      · rw [Function.update_self, Function.update_of_ne (by decide)]
        have hsub : (rest ++ line .complete).Sublist (line .accept ++ line .complete) := by
          rw [hline]
          exact List.sublist_cons_self _ _
        exact ⟨List.Sublist.refl _, fun j hj => hlater.offered j (hline ▸ List.mem_cons_of_mem _ hj),
          fun j hj => hlater.processed j (hsub.subset hj), fun j hj => hlater.below j (hsub.subset hj)⟩
    · have hids : acc ++ (Option.map (·.1.streamId) (some (k, request))).toList ++
          (rest ++ line .complete).map Key.streamId =
          acc ++ (line .accept ++ line .complete).map Key.streamId := by
        simp [hline]
      rw [hids]
      exact horder.later .accept

theorem Ordered.next (hc : c.Settled) (ho : c.Ordered past acc) (h : c.next e = some c') :
    c'.Ordered (past ++ [e]) (acc ++ (c.accepts e).toList) := by
  by_cases he : e = .accept
  · subst he
    exact ho.next_accept hc h
  rw [accepts_eq_none he, Option.toList_none, List.append_nil]
  have hmoves := hc.moves h
  obtain ⟨hstates, hacc⟩ := ho.later e
  obtain ⟨line, hlines, hin, horder⟩ := ho.queues
  have hends : ∀ k : Key, (c.scope e).ends k → Ended (past ++ [e]) k.streamId :=
    fun k hk => ⟨e, List.mem_append_right _ List.mem_cons_self, hk.2⟩
  have hstart : ∀ new : List Key, c.streams.InLine (Ended (past ++ [e]))
      (line .accept ++ line .complete ++ new) (line .accept) (line .complete) := fun new =>
    ⟨List.sublist_append_left _ _, fun k hk => (hin.offered k hk).later _, hin.processed, hin.below⟩
  have hlists : ∀ k, (c.scope e).lists k → c.New e k := by
    rintro k (hclient | hnew)
    · rw [ho.server] at hclient
      cases hclient
    · exact hnew
  by_cases hnew : ∃ k, c.New e k
  · -- the event opens a stream, which may be listed last
    obtain ⟨k, id, hopens, rfl⟩ := hnew
    refine ho.of_inLine (line .accept ++ line .complete ++ [c.streams.freshKey id]) hmoves rfl hacc
      (hmoves.inLine ho.server (fun j hj => ?_) hends hstates ⟨line, hlines, hstart _⟩) ?_
    · obtain ⟨id', hopens', rfl⟩ := hlists j hj
      obtain rfl : id' = id := by
        cases e with
        | sendRequest request => exact Option.some.inj (hopens'.2.symm.trans hopens.2)
        | recvHeaders frame => exact hopens'.1.symm.trans hopens.1
        | _ => exact hopens.elim
      exact ⟨_, rfl⟩
    · cases e with
      | sendRequest request =>
        cases ho.server.symm.trans hopens.1
      | recvHeaders frame =>
        obtain ⟨rfl, -, -, hopen⟩ := hopens
        rw [List.map_append, ← List.append_assoc]
        refine horder.snoc ho.server (fun id hid => ?_) hopen
        rcases List.mem_append.mp hid with hid | hid
        · exact (ho.accepted id hid).2
        · obtain ⟨k, hk, rfl⟩ := List.mem_map.mp hid
          rcases List.mem_append.mp hk with hk | hk
          · exact hc.known_of_mem hlines hk
          · exact hc.known_of_mem hlines hk
      | _ => exact hopens.elim
  · refine ho.of_inLine (line .accept ++ line .complete ++ []) hmoves rfl hacc
      (hmoves.inLine ho.server (fun k hk => absurd ⟨k, hlists k hk⟩ hnew) hends hstates
        ⟨line, hlines, hstart _⟩) ?_
    rw [List.append_nil]
    exact horder.later e

theorem Ordered.new (config : ConnectionConfig) (debug : Bool) :
    (Connection.new .server config debug).Ordered [] [] := by
  obtain ⟨line, hlines⟩ := (Settled.new .server config debug).lines
  have hempty : ∀ n, line n = [] := by
    intro n
    refine List.eq_nil_iff_forall_not_mem.mpr fun k hk => ?_
    obtain ⟨st, hst, -⟩ := (Threaded.queued_iff (hlines n) k).mpr hk
    simp [Inner.get?, Connection.new, Inner.new] at hst
  refine ⟨rfl, fun k st hk => ?_, by simp, line, hlines, ?_, ?_⟩
  · simp [Inner.get?, Connection.new, Inner.new] at hk
  · rw [hempty, hempty]
    exact ⟨List.Sublist.refl _, by simp, by simp, by simp⟩
  · rw [hempty, hempty]
    exact ⟨List.Pairwise.nil, List.Sublist.refl _, by simp⟩

theorem Ordered.after {events : List Event} (hc : c.Settled) (ho : c.Ordered past acc)
    (h : c.after events = some c') :
    c'.Settled ∧ c'.Ordered (past ++ events) (acc ++ c.accepted events) := by
  induction events generalizing c past acc with
  | nil =>
    cases h
    simpa [Connection.accepted] using ⟨hc, ho⟩
  | cons e events ih =>
    obtain ⟨c₁, hfirst, hrest⟩ := Option.bind_eq_some_iff.mp h
    obtain ⟨hc', ho'⟩ := ih (hc.next hfirst) (ho.next hc hfirst) hrest
    refine ⟨hc', ?_⟩
    simpa [Connection.accepted, hfirst] using ho'

end Connection

/-! Requests that the peer takes back. -/

namespace Moves

open M

variable {s : Inner} {k : Key} {st : Stream}

theorem innerRecvReset_closed {frame : Reset} (hid : frame.streamId ≠ 0)
    (hmax : frame.streamId ≤ s.recv.maxStreamId) (hfind : s.store.find frame.streamId = some k)
    (hk : s.get? k = some st) (hq : st.isPendingAccept = false) :
    Ends s (Inner.recvReset frame) fun _ s' =>
      ∀ st, s'.get? k = some st → st.state.isClosed = true := by
  refine Ends.get_bind ?_
  rw [if_neg (by simpa using hid), if_neg (Nat.not_lt.mpr hmax)]
  refine Ends.bind fun o s₁ hfound => ?_
  obtain ⟨rfl, rfl⟩ := find_some hfound
  rw [hfind]
  refine (transition_ends (P := fun state => state.isClosed = true) (R := fun _ => False) ?_).mono
    fun _ _ h => h.resolve_left (fun hno => hno)
  refine Ends.bind fun res s₂ hreset => ?_
  cases res with
  | error e =>
    -- the limit is on streams that wait to be accepted
    obtain ⟨res', s₃, hcount, hreset⟩ := bind_eq_some hreset
    simp only [Recv.countRemoteReset, bind_some, resolve_some, get_some] at hcount
    obtain ⟨_, _, ⟨hst, rfl⟩, _, _, ⟨rfl, rfl⟩, hcount⟩ := hcount
    cases hk.symm.trans hst
    rw [if_pos (by simp [hq])] at hcount
    cases hcount
    obtain ⟨_, _, -, hreset⟩ := bind_eq_some hreset
    obtain ⟨_, _, -, hreset⟩ := bind_eq_some hreset
    obtain ⟨_, _, -, hreset⟩ := bind_eq_some hreset
    cases hreset
  | ok u =>
    intro res' s' h
    obtain ⟨st₂, hk₂, hclosed⟩ := recvReset_closed _ _ _ hreset rfl
    have hmoves : Moves .unborn s₂ s' := by
      refine KeepsAt.bind chains.trans (sendHandleError trivial hk₂ hclosed) (fun _ => ?_) _ _ h
      exact chains.bind (chains.resolve _) fun _ => chains.bind (chains.assert _) fun _ => chains.pure _
    exact Or.inr fun st' hk' => hmoves.closed hk₂ hclosed hk'

theorem ensureNotIdle_known (id : Nat) :
    Ends s (Actions.ensureNotIdle id) fun res _ => res = .ok () → s.Known id := by
  refine Ends.bind fun o s₁ hnext => ?_
  obtain ⟨isLocal, s₂, hinit, hnext⟩ := bind_eq_some hnext
  obtain ⟨rfl, -, rfl⟩ := isLocalInit_ends id _ _ hinit
  obtain ⟨_, _, hget, hnext⟩ := bind_eq_some hnext
  obtain ⟨rfl, rfl⟩ := get_some.mp hget
  cases hnext
  unfold Inner.Known
  split
  · rename_i next hsome
    refine Ends.pure fun hok next' hnext' => ?_
    cases hsome.symm.trans hnext'
    by_contra hge
    rw [if_pos (Nat.not_lt.mp hge)] at hok
    cases hok
  · rename_i hnone
    refine Ends.pure fun _ next' hnext' => ?_
    cases hnone.symm.trans hnext'

theorem innerRecvReset_known {frame : Reset} (hid : frame.streamId ≠ 0)
    (hmax : frame.streamId ≤ s.recv.maxStreamId)
    (hs : s.Each fun k _ => s.Known k.streamId) :
    Ends s (Inner.recvReset frame) fun res _ =>
      s.Known frame.streamId ∨ ∃ data reason initiator, res = .error (.goAway data reason initiator) := by
  refine Ends.get_bind ?_
  rw [if_neg (by simpa using hid), if_neg (Nat.not_lt.mpr hmax)]
  refine Ends.bind fun o s₁ hfound => ?_
  obtain ⟨rfl, rfl⟩ := find_some hfound
  cases hfind : s₁.store.find frame.streamId with
  | none =>
    refine Ends.bind fun res s₂ hidle => Ends.pure ?_
    cases res with
    | ok u => exact Or.inl (ensureNotIdle_known _ _ _ hidle rfl)
    | error e => exact Or.inr ⟨_, _, _, rfl⟩
  | some k =>
    refine Ends.resolve_bind fun st hk => Ends.mono (P := fun _ _ => True) (fun _ _ _ => trivial) fun _ _ _ => ?_
    exact Or.inl (find_streamId hfind ▸ hs k st hk)

end Moves

structure Inner.Barred (s : Inner) (id : Nat) (la lc : List Key) : Prop where
  offered : ∀ k ∈ la, k.streamId ≠ id
  listed : ∀ k ∈ lc, k.streamId = id → ∀ st, s.get? k = some st → st.state.isReset = true

theorem Shift.barred {K : Scope} {s : Inner} {id : Nat} {la lc la' lc' : List Key}
    (h : Shift K s la lc la' lc') (hlists : ∀ k, K.lists k → k.streamId ≠ id)
    (hs : s.Barred id la lc) : s.Barred id la' lc' := by
  obtain ⟨hoffered, hlisted⟩ := hs
  cases h with
  | same => exact ⟨hoffered, hlisted⟩
  | accept k => exact ⟨fun j hj => hoffered j (List.mem_cons_of_mem _ hj), hlisted⟩
  | complete k => exact ⟨hoffered, fun j hj => hlisted j (List.mem_cons_of_mem _ hj)⟩
  | @offer k st _ _ hk complete =>
    refine ⟨fun j hj hid => ?_, fun j hj => hlisted j (List.mem_cons_of_mem _ hj)⟩
    rcases List.mem_append.mp hj with hj | hj
    · exact hoffered j hj hid
    · rw [List.mem_singleton] at hj
      subst hj
      have hreset := hlisted j List.mem_cons_self hid st hk
      rcases State.isReset_cases hreset with ⟨e, hstate⟩ | ⟨reason, hstate⟩ <;>
        simp [hstate, State.isRecvEndStream] at complete
  | @enlist k _ _ hK =>
    refine ⟨hoffered, fun j hj hid => ?_⟩
    rcases List.mem_append.mp hj with hj | hj
    · exact hlisted j hj hid
    · rw [List.mem_singleton] at hj
      exact absurd hid (hj ▸ hlists k hK)

theorem Shift.mem_complete {K : Scope} {s : Inner} {k : Key} {la lc la' lc' : List Key}
    (h : Shift K s la lc la' lc') (hk : k ∈ lc') : k ∈ lc ∨ K.lists k := by
  cases h with
  | same => exact Or.inl hk
  | accept => exact Or.inl hk
  | complete => exact Or.inl (List.mem_cons_of_mem _ hk)
  | offer => exact Or.inl (List.mem_cons_of_mem _ hk)
  | enlist _ _ hK =>
    rcases List.mem_append.mp hk with hk | hk
    · exact Or.inl hk
    · rw [List.mem_singleton] at hk
      exact Or.inr (hk ▸ hK)

theorem Moves.barred {K : Scope} {s s' : Inner} {id : Nat} (h : Moves K s s')
    (hlists : ∀ k, K.lists k → k.streamId ≠ id)
    (hs : ∃ line, s.Lines line ∧ s.Barred id (line .accept) (line .complete)) :
    ∃ line, s'.Lines line ∧ s'.Barred id (line .accept) (line .complete) := by
  refine h.invariant (P := fun s => ∃ line, s.Lines line ∧ s.Barred id (line .accept) (line .complete))
    (fun s s' hmove => ?_) hs
  rintro ⟨line, hlines, hbarred⟩
  obtain ⟨line', hlines', hshift⟩ := hmove.lines hlines
  have hbarred' := hshift.barred hlists hbarred
  refine ⟨line', hlines', hbarred'.offered, fun k hk hid st' hst' => ?_⟩
  rcases hshift.mem_complete hk with hk' | hlist
  · obtain ⟨st, hst, -⟩ := (Threaded.queued_iff (hlines .complete) k).mpr hk'
    exact hmove.keep (Q := fun state => state.isReset = true) (fun _ _ _ _ => Turn.reset_kept) hst
      (hbarred'.listed k hk hid st hst) st' hst'
  · exact absurd hid (hlists k hlist)

namespace Connection

variable {c c' : Connection} {e : Event} {past : List Event} {acc : List Nat}

/-- A request that the peer has taken back: it is not handed out and its id is used up. -/
structure Doomed (c : Connection) (id : Nat) : Prop where
  server : c.streams.counts.role.isServer = true
  client : StreamId.isClientInitiated id = true
  barred : ∃ line, c.streams.Lines line ∧ c.streams.Barred id (line .accept) (line .complete)
  shut : c.Failed ∨ c.streams.Known id ∨ c.streams.recv.maxStreamId < id

theorem Doomed.not_new {id : Nat} {k : Key} (hd : c.Doomed id) (h : c.next e = some c')
    (hnew : c.New e k) : k.streamId ≠ id := by
  obtain ⟨id', hopens, rfl⟩ := hnew
  rintro rfl
  cases e with
  | sendRequest request => cases hd.server.symm.trans hopens.1
  | recvHeaders frame =>
    obtain ⟨rfl, hmax, -, hopen⟩ := hopens
    obtain ⟨-, next, hnext, hle⟩ := hopen
    obtain ⟨hcan, -⟩ := Option.ite_none_right_eq_some.mp h
    rcases hd.shut with hfail | hknown | hlt
    · rw [hfail.not_canRecv] at hcan
      cases hcan
    · exact Nat.not_le_of_lt (hknown.lt hd.server hd.client hnext) hle
    · exact Nat.not_le_of_lt hlt hmax
  | _ => exact hopens.elim

theorem Doomed.next {id : Nat} (hc : c.Settled) (hd : c.Doomed id) (h : c.next e = some c') :
    c'.Doomed id := by
  have hmoves := hc.moves h
  refine ⟨hmoves.role ▸ hd.server, hd.client, hmoves.barred ?_ hd.barred, ?_⟩
  · rintro k (hclient | hnew)
    · cases hd.server.symm.trans hclient
    · exact hd.not_new h hnew
  · rcases hd.shut with hfail | hknown | hlt
    · exact Or.inl (hfail.next h)
    · exact Or.inr (Or.inl (hmoves.knows hknown))
    · exact Or.inr (Or.inr (Nat.lt_of_le_of_lt hmoves.maxStreamId_le hlt))

theorem Doomed.not_accepts {id : Nat} (hc : c.Settled) (hd : c.Doomed id) : c.accepts e ≠ some id := by
  by_cases he : e = .accept
  · subst he
    intro haccepts
    simp only [accepts] at haccepts
    split at haccepts
    · obtain ⟨⟨k, request⟩, hbind, rfl⟩ := Option.map_eq_some_iff.mp haccepts
      obtain ⟨⟨o, s'⟩, hrun, rfl⟩ := Option.bind_eq_some_iff.mp hbind
      rcases hc.accept_ends _ _ hrun with ⟨hno, -⟩ | ⟨_, _, s₁, _, hsome, hpop, -⟩
      · cases hno
      · cases hsome
        obtain ⟨line, hlines, hbarred⟩ := hd.barred
        obtain ⟨rest, hline, -⟩ := hlines.pop hpop
        exact hbarred.offered k (hline ▸ List.mem_cons_self) rfl
    · cases haccepts
  · rw [accepts_eq_none he]
    simp

theorem Doomed.not_accepted {id : Nat} {events : List Event} (hc : c.Settled) (hd : c.Doomed id) :
    id ∉ c.accepted events := by
  induction events generalizing c with
  | nil => simp [Connection.accepted]
  | cons e events ih =>
    rw [Connection.accepted, List.mem_append, not_or]
    refine ⟨fun hid => hd.not_accepts hc (e := e) (by simpa using hid), ?_⟩
    cases h : c.next e with
    | none => simp
    | some c' => exact ih (hc.next h) (hd.next hc h)

theorem Ordered.doomed {frame : Reset} (hc : c.Settled) (ho : c.Ordered past acc)
    (h : c.next (.recvReset frame) = some c')
    (hclient : StreamId.isClientInitiated frame.streamId = true)
    (hno : ¬Ended past frame.streamId) : c'.Doomed frame.streamId := by
  have hmoves := hc.moves h
  have ho' := ho.next hc h
  have hno' : ¬Ended (past ++ [.recvReset frame]) frame.streamId := by
    rintro ⟨e, he, hends⟩
    rcases List.mem_append.mp he with he | he
    · exact hno ⟨e, he, hends⟩
    · rw [List.mem_singleton] at he
      subst he
      exact hends
  have hid : frame.streamId ≠ 0 := by
    rintro hzero
    rw [hzero] at hclient
    cases hclient
  obtain ⟨hcan, hrecv⟩ := Option.ite_none_right_eq_some.mp h
  have hlive : ¬c.Failed := fun hfail => by simp [hfail.not_canRecv] at hcan
  obtain ⟨res, s', hrun, hc'⟩ := recv_some hrecv
  have hstreams : c'.streams = s' := by rw [hc']
  -- no stream is new
  have hborn : ∀ k, ¬(c.scope (.recvReset frame)).born k := by
    rintro k (⟨id, hopens, -⟩ | ⟨hno, -⟩)
    · exact hopens.elim
    · cases hno
  have hold : c'.streams.Each fun k _ => ∃ st, c.streams.get? k = some st :=
    hmoves.each ⟨⟨fun _ _ _ _ _ h => h, fun _ _ _ _ _ h => h, fun _ _ _ _ h => h⟩,
      fun k _ _ _ hk => absurd hk (hborn k)⟩ fun k st hk => ⟨st, hk⟩
  obtain ⟨line, hlines, hin, -⟩ := ho.queues
  obtain ⟨line', hlines', hin', -⟩ := ho'.queues
  refine ⟨ho'.server, hclient, ⟨line', hlines', fun k hk hsame => ?_, fun k hk hsame st' hst' => ?_⟩, ?_⟩
  · exact hno' (hsame ▸ hin'.offered k hk)
  · have hmax : frame.streamId ≤ c.streams.recv.maxStreamId :=
      (hsame ▸ hin'.below k (List.mem_append_right _ hk)).trans hmoves.maxStreamId_le
    have hend : st'.state.isRecvEndStream = false := by
      by_contra hend
      exact hno' (hsame ▸ (ho'.states k st' hst').2 (by simpa using hend))
    have hclosed : st'.state.isClosed = true := by
      obtain ⟨st, hst⟩ := hold k st' hst'
      by_cases hclosed : st.state.isClosed = true
      · refine hmoves.keep (P := fun state => state.isClosed = true) (hborn k) (fun _ _ _ _ => Turn.closed)
          (fun st₁ hst₁ => ?_) st' hst'
        cases hst.symm.trans hst₁
        exact hclosed
      · -- an open stream is the one that the frame is for
        have hidle : st.state ≠ .idle := fun hidle =>
          hlive (hc.rest k st hst (by simp [State.waits, State.isIdle, hidle]))
        have hfind := hc.tidy.linked k st hst ⟨by simpa using hclosed, Or.inl hidle⟩
        have hq : st.isPendingAccept = false := by
          by_contra hq
          have hqueued : st.isPendingAccept = true := by simpa using hq
          exact hno (hsame ▸ hin.offered k ((hlines.mem_iff hst).mpr hqueued))
        rw [hstreams] at hst'
        exact Moves.innerRecvReset_closed hid hmax (hsame ▸ hfind) hst hq _ _ hrun st' hst'
    by_contra hreset
    rw [State.endStream_of_closed hclosed (by simpa using hreset)] at hend
    cases hend
  · by_cases hmax : frame.streamId ≤ c.streams.recv.maxStreamId
    · rcases Moves.innerRecvReset_known hid hmax hc.known _ _ hrun with hknown | ⟨data, reason, initiator, rfl⟩
      · exact Or.inr (Or.inl (hmoves.knows hknown))
      · rw [hc']
        exact Or.inl (Or.inr (Or.inr (Or.inr ⟨data, reason, initiator, rfl⟩)))
    · exact Or.inr (Or.inr (Nat.lt_of_le_of_lt hmoves.maxStreamId_le (Nat.not_le.mp hmax)))

theorem accepted_append {before later : List Event} (h : c.after before = some c') :
    c.accepted (before ++ later) = c.accepted before ++ c'.accepted later := by
  induction before generalizing c with
  | nil =>
    cases h
    rfl
  | cons e before ih =>
    obtain ⟨c₁, hfirst, hrest⟩ := Option.bind_eq_some_iff.mp h
    simp [Connection.accepted, hfirst, ih hrest]

theorem after_append {before later : List Event} (h : c.after (before ++ later) = some c') :
    ∃ c₁, c.after before = some c₁ ∧ c₁.after later = some c' := by
  simp only [Connection.after, List.foldlM_append] at h
  exact Option.bind_eq_some_iff.mp h

/-- A server hands out requests in the order of their HEADERS, once each, after END_STREAM, and not
when the peer has reset them before. -/
theorem accepted_in_order (config : ConnectionConfig) (debug : Bool) {events : List Event}
    (h : (Connection.new .server config debug).after events = some c) :
    ((Connection.new .server config debug).accepted events).Pairwise (· < ·) ∧
      ((Connection.new .server config debug).accepted events).Sublist (events.filterMap Event.headersId) ∧
      (∀ before later, events = before ++ later →
        ∀ id ∈ (Connection.new .server config debug).accepted before, Ended before id) ∧
      ∀ before frame later, events = before ++ .recvReset frame :: later →
        ¬Ended before frame.streamId →
          frame.streamId ∉ (Connection.new .server config debug).accepted events := by
  have hnew := Settled.new .server config debug
  have hordered := Ordered.new config debug
  obtain ⟨-, ho⟩ := hordered.after hnew h
  obtain ⟨line, -, -, horder⟩ := ho.queues
  have hin : InOrder events ((Connection.new .server config debug).accepted events) := by
    simpa using horder.part (List.sublist_append_left _ _)
  refine ⟨hin.sorted, hin.arrived, ?_, ?_⟩
  · rintro before later rfl id hid
    obtain ⟨c₁, hbefore, -⟩ := after_append h
    obtain ⟨-, ho₁⟩ := hordered.after hnew hbefore
    simpa using (ho₁.accepted id (by simpa using hid)).1
  · rintro before frame later rfl hno hid
    have hclient := hin.client _ hid
    obtain ⟨c₁, hbefore, hrest⟩ := after_append h
    obtain ⟨c₂, hreset, hlater⟩ := Option.bind_eq_some_iff.mp hrest
    obtain ⟨hc₁, ho₁⟩ := hordered.after hnew hbefore
    rw [List.nil_append, List.nil_append] at ho₁
    rw [accepted_append hbefore] at hid
    rcases List.mem_append.mp hid with hid | hid
    · exact hno (ho₁.accepted _ hid).1
    · have hdoomed := ho₁.doomed hc₁ hreset hclient hno
      simp only [Connection.accepted, accepts_eq_none (e := .recvReset frame) (by simp), hreset,
        Option.toList_none, List.nil_append, Option.elim_some] at hid
      exact hdoomed.not_accepted (hc₁.next hreset) hid

end Connection

end

section

attribute [local instance] plain plainCrates

def requestEvents : List Event :=
  [.recvHeaders (plainHeaders 1), .recvHeaders (plainHeaders 3).setEndStream,
    .recvHeaders (plainHeaders 5), .recvReset ⟨5, Reason.CANCEL⟩,
    .recvData ((Data.new 1 [7]).setEndStream true), .accept, .accept, .accept]

theorem accepted_in_order_requests :
    (Connection.new .server plainConfig true).accepted requestEvents = [1, 3] ∧
      5 ∉ (Connection.new .server plainConfig true).accepted requestEvents := by
  have hrun : ((Connection.new .server plainConfig true).after requestEvents).isSome = true := by
    decide +kernel
  obtain ⟨c, hc⟩ := Option.isSome_iff_exists.mp hrun
  obtain ⟨-, -, -, hreset⟩ := Connection.accepted_in_order plainConfig true hc
  refine ⟨by decide +kernel, hreset (requestEvents.take 3) ⟨5, Reason.CANCEL⟩ (requestEvents.drop 4) rfl ?_⟩
  rintro ⟨e, he, hends⟩
  simp only [requestEvents, List.take, List.mem_cons, List.not_mem_nil, or_false] at he
  rcases he with rfl | rfl | rfl
  · cases hends.1
  · cases hends.1
  · cases hends.2

end

end TwoPlz
