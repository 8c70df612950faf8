import TwoPlz.Pings
import TwoPlz.AcceptOrder

/-! The GOAWAY frames of a connection (`go_away.rs`): which streams they announce, and that the
assertions of a shutdown hold. -/

namespace TwoPlz

structure GoAwayHandler.Covers (g : GoAwayHandler) (last limit : Nat) : Prop where
  below : last ≤ limit
  fresh : g.goingAway = none → limit = StreamId.max ∧ g.pending = none
  announced : ∀ going, g.goingAway = some going →
    last ≤ going.lastProcessedId ∧ (g.closeNow = false → limit = going.lastProcessedId)
  pending : ∀ frame, g.pending = some frame →
    g.goingAway = some ⟨frame.lastStreamId, frame.errorCode⟩

def GoAwayHandler.Lowers (g g' : GoAwayHandler) : Prop :=
  ∀ going, g.goingAway = some going →
    ∃ going', g'.goingAway = some going' ∧ going'.lastProcessedId ≤ going.lastProcessedId

namespace GoAwayHandler

variable {g g' : GoAwayHandler} {last limit : Nat}

theorem Lowers.of_eq (h : g'.goingAway = g.goingAway) : g.Lowers g' :=
  fun going hgoing => ⟨going, h.trans hgoing, Nat.le_refl _⟩

theorem Lowers.none (h : g.Lowers g') (hnone : g'.goingAway = none) : g.goingAway = none := by
  by_contra hsome
  obtain ⟨going, hgoing⟩ := Option.ne_none_iff_exists'.mp hsome
  obtain ⟨going', hgoing', -⟩ := h going hgoing
  rw [hnone] at hgoing'
  cases hgoing'

namespace Covers

theorem process {last' : Nat} (h : g.Covers last limit) (hlive : g.closeNow = false)
    (hlast : last' ≤ limit) : g.Covers last' limit where
  below := hlast
  fresh := h.fresh
  announced going hgoing := by
    have hlimit := (h.announced going hgoing).2
    exact ⟨hlimit hlive ▸ hlast, hlimit⟩
  pending := h.pending

theorem enqueue (h : g.Covers last limit) (reason : Nat) (data : Bytes) :
    g.enqueueGoAway ⟨last, reason, data⟩ =
      some { g with goingAway := some ⟨last, reason⟩, pending := some ⟨last, reason, data⟩ } := by
  have hassert : (g.goingAway.any fun going => going.lastProcessedId < last) = false := by
    cases hgoing : g.goingAway with
    | none => rfl
    | some going => simpa using (h.announced going hgoing).1
  exact if_neg (by simp only [hassert, Bool.false_eq_true, not_false_eq_true])

theorem now (h : g.Covers last limit) (reason : Nat) (data : Bytes) :
    ∃ g', g.goAwayNow ⟨last, reason, data⟩ = some g' ∧ g'.Covers last limit ∧ g.Lowers g' := by
  have hclosing : ({ g with closeNow := true } : GoAwayHandler).Covers last limit :=
    ⟨h.below, h.fresh, fun going hgoing => ⟨(h.announced going hgoing).1, nofun⟩, h.pending⟩
  by_cases hsame : g.goingAway = some ⟨last, reason⟩
  · exact ⟨_, if_pos hsame, hclosing, .of_eq rfl⟩
  · refine ⟨_, (if_neg hsame).trans (hclosing.enqueue reason data), ⟨h.below, nofun, ?_, ?_⟩, ?_⟩
    · rintro going ⟨⟩
      exact ⟨Nat.le_refl _, nofun⟩
    · rintro frame ⟨⟩
      rfl
    · exact fun going hgoing => ⟨_, rfl, (h.announced going hgoing).1⟩

theorem final (h : g.Covers last limit) :
    ∃ g', g.enqueueGoAway ⟨last, Reason.NO_ERROR, []⟩ = some g' ∧ g'.Covers last last ∧ g.Lowers g' ∧
      g'.pending = some ⟨last, Reason.NO_ERROR, []⟩ := by
  refine ⟨_, h.enqueue _ _, ⟨Nat.le_refl _, nofun, ?_, ?_⟩, ?_, rfl⟩
  · rintro going ⟨⟩
    exact ⟨Nat.le_refl _, fun _ => rfl⟩
  · rintro frame ⟨⟩
    rfl
  · exact fun going hgoing => ⟨_, rfl, (h.announced going hgoing).1⟩

theorem first (h : g.Covers last limit) (hfresh : g.goingAway = none) :
    ∃ g', g.enqueueGoAway ⟨StreamId.max, Reason.NO_ERROR, []⟩ = some g' ∧ g'.Covers last limit ∧
      g.Lowers g' ∧ g'.goingAway = some ⟨StreamId.max, Reason.NO_ERROR⟩ := by
  obtain ⟨hlimit, -⟩ := h.fresh hfresh
  have hassert : ¬(g.goingAway.any fun going => going.lastProcessedId < StreamId.max) = true := by
    simp [hfresh]
  refine ⟨_, if_neg hassert, ⟨h.below, nofun, ?_, ?_⟩, ?_, rfl⟩
  · rintro going ⟨⟩
    exact ⟨hlimit ▸ h.below, fun _ => hlimit⟩
  · rintro frame ⟨⟩
    rfl
  · simp [Lowers, hfresh]

end Covers

end GoAwayHandler

section

variable [HeaderPlz] [StoreCrates]

/-! The streams that were processed. -/

structure Inner.OnRecord (s : Inner) : Prop where
  counted : s.Each fun k st => st.isCounted = true → s.counts.role.isLocalInit k.streamId = false →
    k.streamId ≤ s.recv.lastProcessedId
  listed : ∃ line, s.Lines line ∧ (s.counts.role.isServer = true →
    ∀ k ∈ line .accept ++ line .complete, k.streamId ≤ s.recv.lastProcessedId)

section

variable {K : Scope} {s s' : Inner} {k : Key} {st st' : Stream}

omit [StoreCrates] in
theorem Turn.isCounted {role : Role} {kind : Kind} (h : Turn K role k kind st st')
    (hcounted : st'.isCounted = true) : kind = .count ∨ st.isCounted = true := by
  cases h with
  | count => exact Or.inl rfl
  | uncount => cases hcounted
  | _ => exact Or.inr hcounted

theorem Move.counted (h : Move K s s') (hk : s'.get? k = some st') (hcounted : st'.isCounted = true)
    (hremote : s.counts.role.isLocalInit k.streamId = false) :
    (∃ st, s.get? k = some st ∧ st.isCounted = true) ∨ k.streamId ≤ s.recv.lastProcessedId := by
  cases h.fate hk with
  | @moved st hst same =>
    have hsame := congrArg Stream.isCounted same
    exact Or.inl ⟨st, hst, hsame.symm.trans hcounted⟩
  | turned hst hturn tally =>
    rcases hturn.isCounted hcounted with rfl | hold
    · cases tally with
      | count isLocal own processed => exact Or.inr (processed (own.symm.trans hremote))
    · exact Or.inl ⟨_, hst, hold⟩
  | born _ _ _ _ _ fresh =>
    subst fresh
    cases hcounted

theorem Shift.processed {la lc la' lc' : List Key} (h : Shift K s la lc la' lc')
    (hserver : s.counts.role.isServer = true)
    (hs : ∀ k ∈ la ++ lc, k.streamId ≤ s.recv.lastProcessedId) :
    ∀ k ∈ la' ++ lc', k.streamId ≤ s.recv.lastProcessedId := by
  cases h with
  | same => exact hs
  | accept k => exact fun j hj => hs j (List.mem_cons_of_mem _ hj)
  | complete k => exact fun j hj => hs j (((List.sublist_cons_self k lc').append_left la).subset hj)
  | offer => exact fun j hj => hs j (by simpa using hj)
  | enlist _ _ _ _ _ processed =>
    intro j hj
    rw [← List.append_assoc, List.mem_append, List.mem_singleton] at hj
    rcases hj with hj | rfl
    · exact hs j hj
    · exact processed hserver

theorem Move.onRecord (h : Move K s s') (hs : s.OnRecord) : s'.OnRecord where
  counted k st hk hcounted hremote := by
    rw [h.role] at hremote
    rcases h.counted hk hcounted hremote with ⟨st₀, hst₀, hold⟩ | hle
    · exact (hs.counted k st₀ hst₀ hold hremote).trans h.onward.processed
    · exact hle.trans h.onward.processed
  listed := by
    obtain ⟨line, hlines, hprocessed⟩ := hs.listed
    obtain ⟨line', hlines', hshift⟩ := h.lines hlines
    refine ⟨line', hlines', fun hserver k hk => ?_⟩
    rw [h.role] at hserver
    exact (hshift.processed hserver (hprocessed hserver) k hk).trans h.onward.processed

theorem Moves.origin (h : Moves K s s') (hk : s'.get? k = some st') :
    K.born k ∨ ∃ st, s.get? k = some st := by
  refine h.each (P := fun k _ => K.born k ∨ ∃ st, s.get? k = some st) ⟨⟨?_, ?_, ?_⟩, ?_⟩
    (fun j stj hj => Or.inr ⟨stj, hj⟩) k st' hk
  · exact fun j kind stj stj' _ hold => hold
  · exact fun j stj n now val hold => hold
  · exact fun j stj n key hold => hold
  · exact fun j _ _ _ hborn => Or.inl hborn

theorem Moves.onRecord (h : Moves K s s') (hs : s.OnRecord) : s'.OnRecord :=
  h.invariant (fun _ _ hmove => hmove.onRecord) hs

end

/-! The connection. -/

def Event.announces : Event → Bool
  | .abruptShutdown _ | .gracefulShutdown | .recvShutdownPong | .goAwayIfIdle | .handleResult => true
  | _ => false

def Scope.failing : Scope :=
  { Scope.unborn with born := fun _ => True, processes := fun _ => False, limits := fun _ => False }

namespace Connection

variable {c c' : Connection}

theorem next_goAway {e : Event} (h : c.next e = some c') (he : e.announces = false) :
    c'.goAway = c.goAway ∨ c'.goAway = { c.goAway with pending := none } := by
  have hrun : ∀ {α : Type} {m : M α} {c'}, c.run m = some c' → c'.goAway = c.goAway := by
    intro α m c' h
    obtain ⟨_, _, -, rfl⟩ := run_some h
    rfl
  have hrecv : ∀ {m : M (Except ProtoError Unit)} {c'}, c.recv m = some c' → c'.goAway = c.goAway := by
    intro m c' h
    obtain ⟨_, _, -, rfl⟩ := recv_some h
    rfl
  cases e with
  | abruptShutdown | gracefulShutdown | recvShutdownPong | goAwayIfIdle | handleResult => cases he
  | dropConnection =>
    obtain ⟨a, s', -, rfl⟩ := next_dropConnection h
    exact Or.inl rfl
  | recvGoAway frame =>
    obtain ⟨res, s', error, result, -, rfl⟩ := next_recvGoAway h
    exact Or.inl rfl
  | recvEof =>
    obtain ⟨a, s', -, rfl⟩ := next_recvEof h
    exact Or.inl rfl
  | sendPendingGoAway =>
    obtain ⟨result, rfl, -⟩ := sendPendingGoAway_some (Option.ite_none_right_eq_some.mp h).2
    exact Or.inr rfl
  | cloneStreams | dropStreams | recvError e | sendPendingRefusal | parkTask waker =>
    obtain ⟨-, h⟩ := Option.ite_none_right_eq_some.mp h
    cases h
    exact Or.inl rfl
  | tick duration =>
    cases h
    exact Or.inl rfl
  | recvData frame | recvHeaders frame | recvReset frame | recvWindowUpdate frame
  | applyRemoteSettings settings | applyLocalSettings settings =>
    exact Or.inl (hrecv (Option.ite_none_right_eq_some.mp h).2)
  | _ => exact Or.inl (hrun (Option.ite_none_right_eq_some.mp h).2)

structure Covered (c : Connection) : Prop where
  covers : c.goAway.Covers c.streams.recv.lastProcessedId c.streams.recv.maxStreamId
  onRecord : c.streams.OnRecord

namespace Covered

theorem moves {K : Scope} {s' : Inner} (h : c.Covered) (hmoves : Moves K c.streams s')
    (hlimits : ∀ id, ¬K.limits id) (hlive : ∀ k, K.processes k → c.goAway.closeNow = false) :
    Covered { c with streams := s' } := by
  refine ⟨?_, hmoves.onRecord h.onRecord⟩
  have hbelow := hmoves.processed_below h.covers.below
  change c.goAway.Covers s'.recv.lastProcessedId s'.recv.maxStreamId
  rw [hmoves.maxStreamId_eq hlimits] at hbelow ⊢
  by_cases hnone : ∀ k, ¬K.processes k
  · rw [hmoves.lastProcessedId_eq hnone]
    exact h.covers
  · obtain ⟨k, hk⟩ := not_forall_not.mp hnone
    exact h.covers.process (hlive k hk) hbelow

theorem failing {s' : Inner} (h : c.Covered) (hmoves : Moves .failing c.streams s') :
    Covered { c with streams := s' } :=
  h.moves hmoves (fun _ hno => hno) fun _ hno => hno.elim

theorem goAwayNow (h : c.Covered) (reason : Nat) (data : Bytes) :
    ∃ c', c.goAwayNow reason data = some c' ∧ c'.Covered ∧ c.goAway.Lowers c'.goAway := by
  obtain ⟨g, hnow, hcovers, hlowers⟩ := h.covers.now reason data
  refine ⟨{ c with goAway := g }, ?_, ⟨hcovers, h.onRecord⟩, hlowers⟩
  simp only [Connection.goAwayNow, hnow, Option.map_some]

theorem handleError {data : Bytes} {reason : Nat} {initiator : Initiator} (h : c.Covered)
    (hrun : c.run (Inner.handleError (.goAway data reason initiator)) = some c') :
    c'.Covered ∧ c'.goAway = c.goAway := by
  obtain ⟨a, s', hm, rfl⟩ := run_some hrun
  exact ⟨h.failing (Moves.innerHandleError (fun _ => ⟨trivial, trivial⟩)
    (by simp [ProtoError.remoteReset]) _ _ _ hm), rfl⟩

theorem sendReset {id reason : Nat} {res : Except TooManyResets Unit} {s' : Inner} (h : c.Covered)
    (hrun : Inner.sendReset id reason c.streams = some (res, s')) : Covered { c with streams := s' } :=
  h.failing (Moves.innerSendReset (fun _ => trivial) (fun _ _ => ⟨trivial, trivial⟩) reason _ _ hrun)

theorem poll2GoAway {data : Bytes} {reason : Nat} {initiator : Initiator} (h : c.Covered)
    (hgo : c.poll2GoAway data reason initiator = some c') : c'.Covered ∧ c.goAway.Lowers c'.goAway := by
  simp only [Connection.poll2GoAway] at hgo
  split at hgo
  · cases hgo
    exact ⟨⟨h.covers, h.onRecord⟩, .of_eq rfl⟩
  · obtain ⟨c₁, hrun, hgo⟩ := Option.bind_eq_some_iff.mp hgo
    obtain ⟨hcovered, hsame⟩ := h.handleError hrun
    obtain ⟨c₂, hnow, hafter, hlowers⟩ := hcovered.goAwayNow reason data
    cases hnow.symm.trans hgo
    exact ⟨hafter, hsame ▸ hlowers⟩

theorem handleResult (h : c.Covered) {result : Except ProtoError Unit}
    (hnext : c.handlePoll2Result result = some c') : c'.Covered ∧ c.goAway.Lowers c'.goAway := by
  unfold handlePoll2Result at hnext
  split at hnext
  · cases hnext
    exact ⟨⟨h.covers, h.onRecord⟩, .of_eq rfl⟩
  · exact h.poll2GoAway hnext
  · split at hnext
    · cases hnext
    · obtain ⟨⟨res, s'⟩, hrun, hnext⟩ := Option.bind_eq_some_iff.mp hnext
      have hreset := h.sendReset hrun
      cases res with
      | ok u =>
        cases hnext
        exact ⟨hreset, .of_eq rfl⟩
      | error e => exact hreset.poll2GoAway hnext
  · obtain ⟨c₁, hrun, hnext⟩ := Option.bind_eq_some_iff.mp hnext
    obtain ⟨a, s', hm, rfl⟩ := run_some hrun
    cases hnext
    have hafter := h.failing (Moves.innerHandleError (fun _ => ⟨trivial, trivial⟩)
      (by simp [ProtoError.remoteReset]) _ _ _ hm)
    exact ⟨⟨hafter.covers, hafter.onRecord⟩, .of_eq rfl⟩

theorem limit {id : Nat} (h : c.Covered) (hid : id ≤ c.streams.recv.maxStreamId)
    (hlast : c.streams.recv.lastProcessedId ≤ id) :
    c.run (Recv.goAway id) = some { c with streams.recv.maxStreamId := id } ∧
      Inner.OnRecord { c.streams with recv.maxStreamId := id } := by
  refine ⟨run_eq (a := ()) ?_, Move.onRecord (K := .unborn) (.limit id trivial hid (Or.inr hlast)) h.onRecord⟩
  simp [Recv.goAway, M.assert, hid, get, getThe, MonadStateOf.get, StateT.get, set, StateT.set,
    bind, StateT.bind, pure]

theorem goAwayFirst (h : c.Covered) (hfresh : c.goAway.goingAway = none) :
    ∃ c', c.goAwayGraceful StreamId.max = some c' ∧ c'.Covered ∧ c.goAway.Lowers c'.goAway ∧
      c'.goAway.goingAway = some ⟨StreamId.max, Reason.NO_ERROR⟩ := by
  obtain ⟨hlimit, -⟩ := h.covers.fresh hfresh
  obtain ⟨hrun, honRecord⟩ := h.limit (Nat.le_of_eq hlimit.symm) (hlimit ▸ h.covers.below)
  obtain ⟨g, henqueue, hcovers, hlowers, hgoing⟩ := h.covers.first hfresh
  refine ⟨{ c with streams.recv.maxStreamId := StreamId.max, goAway := g }, ?_, ⟨?_, honRecord⟩, hlowers,
    hgoing⟩
  · simp only [Connection.goAwayGraceful, hrun, Option.bind_eq_bind, Option.bind_some, henqueue]
  · rwa [hlimit] at hcovers

theorem goAwayFinal (h : c.Covered) :
    ∃ c', c.goAwayGraceful c.streams.recv.lastProcessedId = some c' ∧ c'.Covered ∧
      c.goAway.Lowers c'.goAway ∧ c'.streams.recv.maxStreamId = c.streams.recv.lastProcessedId ∧
        c'.goAway.pending = some ⟨c.streams.recv.lastProcessedId, Reason.NO_ERROR, []⟩ := by
  obtain ⟨hrun, honRecord⟩ := h.limit h.covers.below (Nat.le_refl _)
  obtain ⟨g, henqueue, hcovers, hlowers, hpending⟩ := h.covers.final
  refine ⟨{ c with streams.recv.maxStreamId := c.streams.recv.lastProcessedId, goAway := g }, ?_,
    ⟨hcovers, honRecord⟩, hlowers, rfl, hpending⟩
  simp only [Connection.goAwayGraceful, hrun, Option.bind_eq_bind, Option.bind_some, henqueue]

theorem next {e : Event} (h : c.Covered) (hc : c.Settled) (hnext : c.next e = some c') :
    c'.Covered ∧ c.goAway.Lowers c'.goAway := by
  by_cases he : e.announces = false
  · have hmoves := h.moves (hc.moves hnext) (fun id hid => ?_) fun k hk => ?_
    · rcases next_goAway hnext he with hsame | hsame
      · exact ⟨⟨hsame ▸ hmoves.covers, hmoves.onRecord⟩, .of_eq (by rw [hsame])⟩
      · have hcovers := hmoves.covers
        refine ⟨⟨hsame ▸ ⟨hcovers.below, fun hnone => ⟨(hcovers.fresh hnone).1, rfl⟩, hcovers.announced, nofun⟩,
          hmoves.onRecord⟩, .of_eq (by rw [hsame])⟩
    · cases e <;> first | exact hid.elim | cases he
    · have hcan := hk.1
      simp only [canRecv, Bool.and_eq_true, Bool.not_eq_true'] at hcan
      exact hcan.1.2
  cases e with
  | abruptShutdown reason =>
    obtain ⟨-, hnext⟩ := Option.ite_none_right_eq_some.mp hnext
    obtain ⟨c₁, hgo, hrun⟩ := Option.bind_eq_some_iff.mp hnext
    have huser : Covered { c with goAway.isUserInitiated := true } :=
      ⟨⟨h.covers.below, h.covers.fresh, h.covers.announced, h.covers.pending⟩, h.onRecord⟩
    obtain ⟨c₂, hnow, hcovered, hlowers⟩ := huser.goAwayNow reason []
    cases hnow.symm.trans hgo
    obtain ⟨hafter, hsame⟩ := hcovered.handleError hrun
    exact ⟨hafter, hsame ▸ hlowers⟩
  | gracefulShutdown =>
    obtain ⟨-, hnext⟩ := Option.ite_none_right_eq_some.mp hnext
    obtain ⟨-, hnext⟩ | ⟨hfresh, hnext⟩ := ite_eq_iff.mp hnext
    · cases hnext
      exact ⟨h, .of_eq rfl⟩
    · obtain ⟨c₁, hgo, rfl⟩ := Option.map_eq_some_iff.mp hnext
      obtain ⟨c₂, hfirst, hcovered, hlowers, -⟩ := h.goAwayFirst (Option.not_isSome_iff_eq_none.mp hfresh)
      cases hfirst.symm.trans hgo
      exact ⟨⟨hcovered.covers, hcovered.onRecord⟩, hlowers⟩
  | recvShutdownPong =>
    obtain ⟨-, hnext⟩ := Option.ite_none_right_eq_some.mp hnext
    obtain ⟨c₁, hgo, rfl⟩ := Option.map_eq_some_iff.mp hnext
    obtain ⟨c₂, hfinal, hcovered, hlowers, -⟩ := h.goAwayFinal
    cases hfinal.symm.trans hgo
    exact ⟨⟨hcovered.covers, hcovered.onRecord⟩, hlowers⟩
  | goAwayIfIdle =>
    obtain ⟨c₁, hnow, hcovered, hlowers⟩ := h.goAwayNow Reason.NO_ERROR []
    cases hnow.symm.trans (Option.ite_none_right_eq_some.mp hnext).2
    exact ⟨hcovered, hlowers⟩
  | handleResult =>
    obtain ⟨result, -, hnext⟩ := Option.bind_eq_some_iff.mp hnext
    split at hnext
    · cases hnext
    · have hclear : Covered { c with result := none } := ⟨h.covers, h.onRecord⟩
      exact hclear.handleResult hnext
  | _ => exact absurd rfl he

end Covered

/-- No assertion of `enqueue_go_away` and `Recv::go_away` fails where the connection calls them: when it
is shut down, closes because it is idle, or fails, after a stream was reset or not. -/
structure GoesAway (c : Connection) : Prop where
  now : ∀ user reason data,
    (({ c with goAway.isUserInitiated := user } : Connection).goAwayNow reason data).isSome = true
  failed : ∀ data reason initiator c₁, c.run (Inner.handleError (.goAway data reason initiator)) = some c₁ →
    (c₁.goAwayNow reason data).isSome = true
  reset : ∀ id code res s₁ data reason c₁, Inner.sendReset id code c.streams = some (res, s₁) →
    ({ c with streams := s₁ } : Connection).run (Inner.handleError (.goAway data reason .library)) = some c₁ →
      (c₁.goAwayNow reason data).isSome = true
  first : c.goAway.goingAway = none → (c.goAwayGraceful StreamId.max).isSome = true
  final : (c.goAwayGraceful c.streams.recv.lastProcessedId).isSome = true

theorem Covered.goesAway (h : c.Covered) : c.GoesAway := by
  have hnow : ∀ {c : Connection} (reason : Nat) (data : Bytes), c.Covered →
      (c.goAwayNow reason data).isSome = true := by
    intro c reason data h
    obtain ⟨c', hsome, -⟩ := h.goAwayNow reason data
    rw [hsome, Option.isSome_some]
  refine ⟨fun user reason data => hnow _ _ ?_, ?_, ?_, fun hfresh => ?_, ?_⟩
  · exact ⟨⟨h.covers.below, h.covers.fresh, h.covers.announced, h.covers.pending⟩, h.onRecord⟩
  · exact fun data reason initiator c₁ hrun => hnow _ _ (h.handleError hrun).1
  · exact fun id code res s₁ data reason c₁ hreset hrun => hnow _ _ ((h.sendReset hreset).handleError hrun).1
  · obtain ⟨c', hsome, -⟩ := h.goAwayFirst hfresh
    rw [hsome, Option.isSome_some]
  · obtain ⟨c', hsome, -⟩ := h.goAwayFinal
    rw [hsome, Option.isSome_some]

theorem New.below {e : Event} {k : Key} (hnew : c.New e k) (hc : c.Settled)
    (hremote : c.streams.counts.role.isLocalInit k.streamId = false) :
    k.streamId ≤ c.streams.recv.maxStreamId := by
  obtain ⟨id, hopens, rfl⟩ := hnew
  cases e with
  | sendRequest request =>
    have hlocal := Moves.isLocalInit_of_odd hopens.1 (hc.parity hopens.1 id hopens.2)
    exact absurd (hremote.symm.trans hlocal) Bool.false_ne_true
  | recvHeaders frame => exact hopens.2.1
  | _ => exact hopens.elim

theorem goAwayGraceful_ping {id : Nat} (waits : Bool) (h : c.goAwayGraceful id = some c') :
    ({ c with shutdownPing := waits } : Connection).goAwayGraceful id =
      some { c' with shutdownPing := waits } := by
  obtain ⟨c₁, hrun, h⟩ := Option.bind_eq_some_iff.mp h
  obtain ⟨g, hg, h⟩ := Option.bind_eq_some_iff.mp h
  cases h
  obtain ⟨a, s', hm, rfl⟩ := run_some hrun
  have hwaits : ({ c with shutdownPing := waits } : Connection).run (Recv.goAway id) =
      some { c with streams := s', shutdownPing := waits } := run_eq hm
  simp only [goAwayGraceful, hwaits, Option.bind_eq_bind, Option.bind_some, hg]

theorem Settled.of_ping (h : c.Settled) (waits : Bool) : Settled { c with shutdownPing := waits } :=
  ⟨h.lines, h.sound, h.tidy, h.known, h.max, h.parity, h.rest, h.window⟩

end Connection

/-! The loop of `poll2`. -/

def Control.goAwayId : Control → Option Nat
  | .goAway frame => some frame.lastStreamId
  | _ => none

namespace Poller

variable {p p' : Poller}

/-- An input is at most one event of the connection; that a ping of a `SpaTracker` may be taken for the
one of a shutdown is why the connection need not wait for the answer. -/
theorem next_connection {input : PollInput} (h : p.next input = some p') :
    p'.endpoint.connection = p.endpoint.connection ∨
      ∃ waits e, ({ p.endpoint.connection with shutdownPing := waits } : Connection).next e =
        some p'.endpoint.connection ∧ (e = .handleResult → input = .event .handleResult) := by
  cases input with
  | event e =>
    obtain ⟨out, h⟩ := next_some h
    obtain ⟨p₁, hp₁, heq⟩ := Option.map_eq_some_iff.mp (Option.ite_none_right_eq_some.mp h).2
    cases heq
    obtain ⟨c, hc, rfl⟩ := run_some hp₁
    exact Or.inr ⟨p.endpoint.connection.shutdownPing, e, hc, fun he => he ▸ rfl⟩
  | gracefulShutdown =>
    obtain ⟨-, rfl | ⟨c, hc, -, -, rfl⟩⟩ := gracefulShutdown_some h
    · exact Or.inl rfl
    · exact Or.inr ⟨p.endpoint.connection.shutdownPing, _, hc, nofun⟩
  | pollSpa payload flushed =>
    rcases pollSpa_some h with rfl | ⟨mode, -, ⟨-, c, hc, rfl⟩ | ⟨-, rfl⟩⟩
    · exact Or.inl rfl
    · exact Or.inr ⟨p.endpoint.connection.shutdownPing, _, hc, nofun⟩
    · exact Or.inl rfl
  | serve ready ready' =>
    obtain ⟨out, h⟩ := next_some h
    obtain ⟨hpoll, h⟩ := Option.ite_none_right_eq_some.mp h
    rcases serve_connection hpoll h with hsame | ⟨e, he, hkind⟩
    · exact Or.inl hsame
    · refine Or.inr ⟨p.endpoint.connection.shutdownPing, e, he, ?_⟩
      rintro rfl
      simp at hkind
  | recv frame =>
    obtain ⟨out, hstep⟩ := next_some h
    obtain ⟨hguard, hstep⟩ := Option.ite_none_right_eq_some.mp hstep
    have hcan : p.endpoint.connection.canRecv = true := (Bool.and_eq_true_iff.mp hguard).2
    obtain ⟨p₁, hp₁, heq⟩ := Option.map_eq_some_iff.mp hstep
    cases heq
    cases frame with
    | priority => cases hp₁
    | pushPromise => cases hp₁
    | settings frame =>
      obtain ⟨e, he, rfl⟩ := Option.map_eq_some_iff.mp hp₁
      unfold Endpoint.recvSettings at he
      split at he
      · obtain ⟨c, hc, rfl⟩ := Option.map_eq_some_iff.mp he
        exact Or.inr ⟨p.endpoint.connection.shutdownPing, _, hc, nofun⟩
      · cases he
        exact Or.inl rfl
      · obtain ⟨c, hc, rfl⟩ := Option.map_eq_some_iff.mp he
        exact Or.inr ⟨p.endpoint.connection.shutdownPing, _, hc, nofun⟩
    | ping ping =>
      rcases recvPing_some h with ⟨-, heq⟩ | ⟨-, heq, -⟩ | ⟨-, -, -, -, -, heq | ⟨c, hc, heq⟩⟩
      · exact Or.inl (by rw [heq])
      · exact Or.inl (by rw [heq])
      · exact Or.inl (by rw [heq])
      · refine Or.inr ⟨true, .recvShutdownPong, ?_, nofun⟩
        have hpong := Connection.goAwayGraceful_ping true hc
        refine (if_pos (Bool.and_eq_true_iff.mpr ⟨hcan, rfl⟩)).trans ?_
        rw [heq]
        exact congrArg (Option.map _) hpong
    | _ =>
      obtain ⟨c, hc, rfl⟩ := run_some hp₁
      exact Or.inr ⟨p.endpoint.connection.shutdownPing, _, hc, nofun⟩

/-- What a run keeps: a server pings for a shutdown that has begun only. -/
structure Shuts (p : Poller) : Prop where
  settled : p.endpoint.connection.Settled
  covered : p.endpoint.connection.Covered
  pinged : p.Pinged
  silent : p.endpoint.connection.streams.counts.role.isServer = true →
    p.endpoint.connection.goAway.goingAway = none → p.ping.pendingPing = none

theorem next_moves {input : PollInput} (hp : p.Shuts) (h : p.next input = some p') :
    p'.endpoint.connection.Settled ∧ p'.endpoint.connection.Covered ∧
      p.endpoint.connection.goAway.Lowers p'.endpoint.connection.goAway ∧
        p'.endpoint.connection.streams.recv.maxStreamId ≤ p.endpoint.connection.streams.recv.maxStreamId := by
  rcases next_connection h with hsame | ⟨waits, e, he, -⟩
  · rw [hsame]
    exact ⟨hp.settled, hp.covered, .of_eq rfl, Nat.le_refl _⟩
  · have hsettled := hp.settled.of_ping waits
    have hcovered : Connection.Covered { p.endpoint.connection with shutdownPing := waits } :=
      ⟨hp.covered.covers, hp.covered.onRecord⟩
    obtain ⟨hafter, hlowers⟩ := hcovered.next hsettled he
    exact ⟨hsettled.next he, hafter, hlowers, (hsettled.moves he).maxStreamId_le⟩

theorem Shuts.next {input : PollInput} (hp : p.Shuts) (h : p.next input = some p') : p'.Shuts := by
  obtain ⟨hsettled, hcovered, hlowers, -⟩ := next_moves hp h
  refine ⟨hsettled, hcovered, hp.pinged.next h, fun hserver hnone => ?_⟩
  have hfresh := hlowers.none hnone
  have hrole : p'.endpoint.connection.streams.counts.role = p.endpoint.connection.streams.counts.role := by
    rcases next_connection h with hsame | ⟨waits, e, he, -⟩
    · rw [hsame]
    · have hsame := Connection.next_role he
      exact hsame
  rw [hrole] at hserver
  have hsilent := hp.silent hserver hfresh
  by_cases hping : ∃ ping, input = .recv (.ping ping)
  · obtain ⟨ping, rfl⟩ := hping
    rcases recvPing_some h with ⟨-, rfl⟩ | ⟨-, rfl, -⟩ | ⟨-, -, htaken, -⟩
    · exact hsilent
    · exact hsilent
    · rw [htaken]
  by_cases hgraceful : input = .gracefulShutdown
  · subst hgraceful
    obtain ⟨-, rfl | ⟨c, hc, -, -, rfl⟩⟩ := gracefulShutdown_some h
    · exact hsilent
    · obtain ⟨-, hc⟩ := Option.ite_none_right_eq_some.mp hc
      rw [if_neg (by simp [hfresh])] at hc
      obtain ⟨c₁, hgo, rfl⟩ := Option.map_eq_some_iff.mp hc
      obtain ⟨c₂, hfirst, -, -, hgoing⟩ := hp.covered.goAwayFirst hfresh
      cases hfirst.symm.trans hgo
      exact absurd (hgoing.symm.trans hnone) (by simp)
  by_cases hspa : ∃ payload flushed, input = .pollSpa payload flushed
  · obtain ⟨payload, flushed, rfl⟩ := hspa
    rcases pollSpa_some h with rfl | ⟨mode, hmode, -⟩
    · exact hsilent
    · rw [hp.pinged.server hserver] at hmode
      cases hmode
  have hcalm := Calm.next h (fun ping hin => hping ⟨ping, hin⟩) hgraceful
    fun payload flushed hin => hspa ⟨payload, flushed, hin⟩
  rcases hcalm.ping with hsame | ⟨payload, hpending, -⟩
  · rw [hsame, hsilent]
  · rw [hsilent] at hpending
    cases hpending

theorem Shuts.new (role : Role) (config : ConnectionConfig) (mode : Option Mode) (payload : PingPayload)
    (codec : FramedWrite) (debugAssertions : Bool) :
    (new role config mode payload codec debugAssertions).Shuts where
  settled := Connection.Settled.new _ _ _
  covered := by
    refine ⟨⟨Nat.zero_le _, fun _ => ⟨rfl, rfl⟩, nofun, nofun⟩, ?_, _, Connection.lines_new _ _ _, nofun⟩
    intro k st hk
    simp [Poller.new, Endpoint.new, Inner.get?, Connection.new, Inner.new] at hk
  pinged := Pinged.new role config mode payload codec debugAssertions
  silent hserver _ := by
    cases role with
    | server => rfl
    | client => cases hserver

theorem Shuts.after {inputs : List PollInput} (hp : p.Shuts) (h : p.after inputs = some p') :
    p'.Shuts ∧ p'.endpoint.connection.streams.recv.maxStreamId ≤
      p.endpoint.connection.streams.recv.maxStreamId := by
  induction inputs generalizing p with
  | nil =>
    cases h
    exact ⟨hp, Nat.le_refl _⟩
  | cons input inputs ih =>
    obtain ⟨p₁, hfirst, hrest⟩ := Option.bind_eq_some_iff.mp h
    obtain ⟨hafter, hle⟩ := ih (hp.next hfirst) hrest
    exact ⟨hafter, hle.trans (next_moves hp hfirst).2.2.2⟩

/-! The frames that are buffered. -/

def goAways (p : Poller) (input : PollInput) : List Nat := (p.emits input).filterMap Control.goAwayId

theorem serve_goAways {ready ready' : Bool} {out : List Control} (h : p.serve ready ready' = some (p', out)) :
    out.filterMap Control.goAwayId = [] ∨
      out = p.endpoint.connection.goAway.pending.toList.map Control.goAway := by
  simp only [Poller.serve] at h
  split at h
  · obtain ⟨-, h⟩ | ⟨-, h⟩ := ite_eq_iff.mp h
    · cases h
      exact Or.inl rfl
    · obtain ⟨c, hc, heq⟩ := Option.map_eq_some_iff.mp h
      cases heq
      exact Or.inr rfl
  · split at h
    · cases h
      exact Or.inl rfl
    · split at h <;> cases h <;> exact Or.inl rfl
  · split at h
    · split at h <;> cases h <;> exact Or.inl rfl
    · cases h
      exact Or.inl rfl
  · split at h
    · cases h
      exact Or.inl rfl
    · split at h
      · obtain ⟨e, he, heq⟩ := Option.map_eq_some_iff.mp h
        cases heq
        exact Or.inl rfl
      · cases h
        exact Or.inl rfl
  · split at h
    · split at h <;> cases h <;> exact Or.inl rfl
    · cases h
      exact Or.inl rfl
  · split at h
    · cases h
      exact Or.inl rfl
    · split at h <;> cases h <;> exact Or.inl rfl
  · obtain ⟨-, h⟩ | ⟨-, h⟩ := ite_eq_iff.mp h
    · cases h
      exact Or.inl rfl
    · obtain ⟨⟨⟨size, update⟩, s'⟩, -, heq⟩ := Option.map_eq_some_iff.mp h
      cases heq
      cases size <;> cases update <;> exact Or.inl rfl
  · cases h
    exact Or.inl rfl

theorem goAways_pending (p : Poller) (input : PollInput) :
    p.goAways input = [] ∨ ∃ frame, p.endpoint.connection.goAway.pending = some frame ∧
      p.goAways input = [frame.lastStreamId] := by
  unfold goAways emits
  cases hstep : p.step input with
  | none => exact Or.inl rfl
  | some r =>
    obtain ⟨p', out⟩ := r
    change out.filterMap _ = [] ∨ ∃ frame, _ ∧ out.filterMap _ = _
    cases input with
    | serve ready ready' =>
      rcases serve_goAways (Option.ite_none_right_eq_some.mp hstep).2 with hnone | rfl
      · exact Or.inl hnone
      · cases hpending : p.endpoint.connection.goAway.pending with
        | none => exact Or.inl rfl
        | some frame => exact Or.inr ⟨frame, rfl, rfl⟩
    | _ =>
      obtain ⟨p₁, -, heq⟩ := Option.map_eq_some_iff.mp (Option.ite_none_right_eq_some.mp hstep).2
      cases heq
      exact Or.inl rfl

theorem collect_goAways (inputs : List PollInput) (hp : p.Shuts) :
    (p.collect goAways inputs).Pairwise (· ≥ ·) ∧ ∀ id ∈ p.collect goAways inputs,
      ∀ going, p.endpoint.connection.goAway.goingAway = some going → id ≤ going.lastProcessedId := by
  induction inputs generalizing p with
  | nil => exact ⟨.nil, nofun⟩
  | cons input inputs ih =>
    obtain ⟨hpairwise, hbound⟩ : ((p.next input).elim [] fun p' => p'.collect goAways inputs).Pairwise (· ≥ ·) ∧
        ∀ id ∈ (p.next input).elim [] fun p' => p'.collect goAways inputs, ∀ going,
          p.endpoint.connection.goAway.goingAway = some going → id ≤ going.lastProcessedId := by
      cases hnext : p.next input with
      | none => exact ⟨.nil, nofun⟩
      | some p' =>
        obtain ⟨hpairwise, hbound⟩ := ih (hp.next hnext)
        refine ⟨hpairwise, fun id hid going hgoing => ?_⟩
        obtain ⟨going', hgoing', hle⟩ := (next_moves hp hnext).2.2.1 going hgoing
        exact (hbound id hid going' hgoing').trans hle
    rcases goAways_pending p input with hnone | ⟨frame, hpending, hsingle⟩
    · simp only [collect, hnone, List.nil_append]
      exact ⟨hpairwise, hbound⟩
    · have hgoing := hp.covered.covers.pending frame hpending
      simp only [collect, hsingle, List.singleton_append]
      refine ⟨.cons (fun id hid => hbound id hid _ hgoing) hpairwise, fun id hid going hgoing' => ?_⟩
      cases hgoing.symm.trans hgoing'
      rcases List.mem_cons.mp hid with rfl | hid
      · exact Nat.le_refl _
      · exact hbound id hid _ hgoing

structure Unfailing (p : Poller) : Prop where
  goesAway : p.endpoint.connection.GoesAway
  pings : p.endpoint.connection.streams.counts.role.isServer = true →
    p.endpoint.connection.goAway.goingAway = none → p.ping.pingShutdown.isSome = true

/-- The streams of the peer above `last` are not counted and not accepted.  One is put in the store only to
be reset, when `poll2` returned a stream error that names it. -/
structure Leaves (p : Poller) (last : Nat) : Prop where
  counted : p.endpoint.connection.streams.Each fun k st =>
    p.endpoint.connection.streams.counts.role.isLocalInit k.streamId = false → last < k.streamId →
      st.isCounted = false
  accepted : p.endpoint.connection.streams.counts.role.isServer = true → ∀ k request s',
    Streams.accept p.endpoint.connection.streams = some (some (k, request), s') → k.streamId ≤ last
  created : ∀ input p' k st, p.next input = some p' → p'.endpoint.connection.streams.get? k = some st →
    p.endpoint.connection.streams.get? k = none →
      p.endpoint.connection.streams.counts.role.isLocalInit k.streamId = false → last < k.streamId →
        input = .event .handleResult ∧ ∃ reason initiator,
          p.endpoint.connection.result = some (.error (.reset k.streamId reason initiator))

theorem Shuts.unfailing (hp : p.Shuts) : p.Unfailing := by
  refine ⟨hp.covered.goesAway, fun hserver hnone => ?_⟩
  unfold PingHandler.pingShutdown
  rw [hp.silent hserver hnone]
  rfl

theorem Shuts.leaves {last : Nat} (hp : p.Shuts)
    (hlimit : p.endpoint.connection.streams.recv.maxStreamId ≤ last) : p.Leaves last := by
  have hbelow := hp.covered.covers.below.trans hlimit
  refine ⟨fun k st hk hremote hlast => ?_, fun hserver k request s' haccept => ?_, ?_⟩
  · by_contra hcounted
    have hle := hp.covered.onRecord.counted k st hk (by simpa using hcounted) hremote
    omega
  · obtain ⟨line, hlines, hlisted⟩ := hp.covered.onRecord.listed
    rcases hp.settled.accept_ends _ _ haccept with ⟨hno, -⟩ | ⟨j, _, s₁, counts, hsome, hpop, -⟩
    · cases hno
    cases hsome
    obtain ⟨rest, hline, -⟩ := hlines.pop hpop
    exact (hlisted hserver k (by simp [hline])).trans hbelow
  · intro input p' k st hnext hk hnew hremote hlast
    rcases next_connection hnext with hsame | ⟨waits, e, he, hresult⟩
    · rw [hsame, hnew] at hk
      cases hk
    · have hsettled := hp.settled.of_ping waits
      rcases (hsettled.moves he).origin hk with (hopens | hrev) | ⟨st₀, hst₀⟩
      · exact absurd (hopens.below hsettled hremote) (Nat.not_le_of_lt (Nat.lt_of_le_of_lt hlimit hlast))
      · obtain ⟨rfl, id, reason, initiator, herror, -, rfl⟩ := hrev
        exact ⟨hresult rfl, reason, initiator, herror⟩
      · rw [hnew] at hst₀
        cases hst₀

theorem Shuts.final {ping : Ping} (hp : p.Shuts) (hshutdown : (p.ping.handle ping).1 = .shutdown)
    (h : p.next (.recv (.ping ping)) = some p') :
    p'.endpoint.connection.goAway.pending =
        some ⟨p.endpoint.connection.streams.recv.lastProcessedId, Reason.NO_ERROR, []⟩ ∧
      p'.endpoint.connection.streams.recv.maxStreamId =
        p.endpoint.connection.streams.recv.lastProcessedId := by
  obtain ⟨c, hfinal, -, -, hlimit, hpending⟩ := hp.covered.goAwayFinal
  obtain ⟨out, h⟩ := next_some h
  obtain ⟨-, h⟩ := Option.ite_none_right_eq_some.mp h
  obtain ⟨p₁, hp₁, heq⟩ := Option.map_eq_some_iff.mp h
  cases heq
  cases hhandle : p.ping.handle ping with
  | mk action handler =>
  rw [hhandle] at hshutdown
  cases hshutdown
  simp only [recvFrame, recvPing, hhandle, hfinal, Option.map_some, Option.some.injEq] at hp₁
  subst hp₁
  exact ⟨hpending, hlimit⟩

theorem after_append {before rest : List PollInput} :
    p.after (before ++ rest) = (p.after before).bind fun p₁ => p₁.after rest := by
  simp only [after, List.foldlM_append]
  rfl

/-- The GOAWAY frames of a run announce fewer and fewer streams, and no assertion of a shutdown fails in
it.  After the last frame of a graceful shutdown the streams above it are left alone. -/
theorem goAway_monotone (role : Role) (config : ConnectionConfig) (mode : Option Mode) (payload : PingPayload)
    (codec : FramedWrite) (debugAssertions : Bool) (inputs : List PollInput) :
    ((new role config mode payload codec debugAssertions).collect goAways inputs).Pairwise (· ≥ ·) ∧
      ∀ p, (new role config mode payload codec debugAssertions).after inputs = some p → p.Unfailing ∧
        ∀ before ping rest p₀, inputs = before ++ .recv (.ping ping) :: rest →
          (new role config mode payload codec debugAssertions).after before = some p₀ →
            (p₀.ping.handle ping).1 = .shutdown →
              (∃ p₁, p₀.next (.recv (.ping ping)) = some p₁ ∧ p₁.endpoint.connection.goAway.pending =
                some ⟨p₀.endpoint.connection.streams.recv.lastProcessedId, Reason.NO_ERROR, []⟩) ∧
                  p.Leaves p₀.endpoint.connection.streams.recv.lastProcessedId := by
  have hstart := Shuts.new role config mode payload codec debugAssertions
  refine ⟨(collect_goAways inputs hstart).1, fun p hp => ⟨(hstart.after hp).1.unfailing, ?_⟩⟩
  rintro before ping rest p₀ rfl hbefore hshutdown
  rw [after_append, hbefore, Option.bind_some] at hp
  obtain ⟨p₁, hfinal, hrest⟩ := Option.bind_eq_some_iff.mp hp
  have hp₀ := (hstart.after hbefore).1
  obtain ⟨hpending, hlimit⟩ := hp₀.final hshutdown hfinal
  obtain ⟨hafter, hle⟩ := (hp₀.next hfinal).after hrest
  exact ⟨⟨p₁, hfinal, hpending⟩, hafter.leaves (hle.trans (Nat.le_of_eq hlimit))⟩

end Poller

end

section

attribute [local instance] plain plainCrates

def shutdownPong : Ping := ⟨true, Ping.SHUTDOWN⟩

def gracefulInputs : List PollInput :=
  shutdownInputs ++ .recv (.ping shutdownPong) :: List.replicate 7 (.serve true true)

theorem goAway_monotone_graceful :
    (plainServer.collect Poller.goAways gracefulInputs = [StreamId.max, 0]) ∧
      ∃ p, plainServer.after gracefulInputs = some p ∧ p.Unfailing ∧ p.Leaves 0 := by
  have hrun : (plainServer.after gracefulInputs).isSome = true := by decide +kernel
  have hping : (plainServer.after shutdownInputs).map (fun p => (p.ping.handle shutdownPong).1) =
      some .shutdown := by decide +kernel
  have hlast : (plainServer.after shutdownInputs).map
      (·.endpoint.connection.streams.recv.lastProcessedId) = some 0 := by decide +kernel
  obtain ⟨p, hp⟩ := Option.isSome_iff_exists.mp hrun
  obtain ⟨p₀, hp₀, hshutdown⟩ := Option.map_eq_some_iff.mp hping
  rw [hp₀] at hlast
  have hzero : p₀.endpoint.connection.streams.recv.lastProcessedId = 0 := Option.some.inj hlast
  have hall := (Poller.goAway_monotone .server plainConfig none Ping.SHUTDOWN plainCodec true gracefulInputs).2 p hp
  have hleaves := (hall.2 shutdownInputs shutdownPong _ p₀ rfl hp₀ hshutdown).2
  exact ⟨by decide +kernel, p, hp, hall.1, hzero ▸ hleaves⟩

def malformedInputs : List PollInput :=
  [.recv (.error (ProtoError.libraryReset 1 Reason.PROTOCOL_ERROR)), .event .handleResult]

/-- A stream above the last one that was announced is put in the store to be reset. -/
theorem goAway_creates_stream :
    ∃ p₀ p₁ p₂ k st, plainServer.after shutdownInputs = some p₀ ∧
      (p₀.ping.handle shutdownPong).1 = .shutdown ∧
      p₀.endpoint.connection.streams.recv.lastProcessedId = 0 ∧
      plainServer.after gracefulInputs = some p₁ ∧ p₁.endpoint.connection.streams.get? k = none ∧
      p₁.after malformedInputs = some p₂ ∧ p₂.endpoint.connection.streams.get? k = some st ∧
      p₂.endpoint.connection.streams.counts.role.isLocalInit k.streamId = false ∧ 0 < k.streamId := by
  have hping : (plainServer.after shutdownInputs).map (fun p =>
      ((p.ping.handle shutdownPong).1, p.endpoint.connection.streams.recv.lastProcessedId)) =
      some (.shutdown, 0) := by decide +kernel
  have hrun : (plainServer.after gracefulInputs).map (fun p =>
      (p.endpoint.connection.streams.get? ⟨0, 1⟩).isSome) = some false := by decide +kernel
  have hreset : ((plainServer.after gracefulInputs).bind (·.after malformedInputs)).map (fun p =>
      ((p.endpoint.connection.streams.get? ⟨0, 1⟩).isSome, p.endpoint.connection.streams.counts.role)) =
      some (true, .server) := by decide +kernel
  obtain ⟨p₀, hp₀, hshutdown⟩ := Option.map_eq_some_iff.mp hping
  obtain ⟨p₁, hp₁, hnone⟩ := Option.map_eq_some_iff.mp hrun
  rw [hp₁, Option.bind_some] at hreset
  obtain ⟨p₂, hp₂, hsome⟩ := Option.map_eq_some_iff.mp hreset
  obtain ⟨st, hst⟩ := Option.isSome_iff_exists.mp (congrArg Prod.fst hsome)
  refine ⟨p₀, p₁, p₂, ⟨0, 1⟩, st, hp₀, congrArg Prod.fst hshutdown, congrArg Prod.snd hshutdown, hp₁, ?_,
    hp₂, hst, ?_, Nat.one_pos⟩
  · exact Option.not_isSome_iff_eq_none.mp (by rw [hnone]; exact Bool.false_ne_true)
  · rw [show p₂.endpoint.connection.streams.counts.role = .server from congrArg Prod.snd hsome]
    rfl

end

end TwoPlz
