import TwoPlz.AcceptOrder
import TwoPlz.Receiving
import TwoPlz.Streams.Arrivals

/-! The bytes that a stream holds of a message, next to the content length that was declared for it. -/

namespace TwoPlz

theorem parseU64_lt {src : Bytes} {n : Nat} (h : parseU64 src = some n) : n < 10 ^ 19 := by
  have hfold : ∀ (digits : Bytes) (ret n : Nat), digits.foldlM (fun ret d =>
      if d < 48 || d > 57 then none else some (ret * 10 + (d.toNat - 48))) ret = some n →
        n < (ret + 1) * 10 ^ digits.length := by
    intro digits
    induction digits with
    | nil =>
      intro ret n h
      cases h
      simp
    | cons d digits ih =>
      intro ret n h
      obtain ⟨ret', hd, h⟩ := Option.bind_eq_some_iff.mp h
      dsimp only at hd
      split at hd
      · cases hd
      rename_i hdigit
      cases hd
      have hle : d.toNat - 48 ≤ 9 := by
        have hd : ¬d > 57 := fun hgt => hdigit (by simp [hgt])
        have hd : d.toNat ≤ 57 := UInt8.le_iff_toNat_le.mp (UInt8.not_lt.mp hd)
        omega
      calc n < (ret * 10 + (d.toNat - 48) + 1) * 10 ^ digits.length := ih _ _ h
        _ ≤ ((ret + 1) * 10) * 10 ^ digits.length := Nat.mul_le_mul_right _ (by omega)
        _ = (ret + 1) * 10 ^ (d :: digits).length := by
          rw [List.length_cons, Nat.pow_succ, Nat.mul_assoc, Nat.mul_comm 10]
  unfold parseU64 at h
  split at h
  · cases h
  · rename_i hlen
    calc n < (0 + 1) * 10 ^ src.length := hfold src 0 n h
      _ ≤ 10 ^ 19 := by
        rw [Nat.zero_add, Nat.one_mul]
        exact Nat.pow_le_pow_right (by decide) (Nat.not_lt.mp hlen)

variable [HeaderPlz] [StoreCrates]

def RecvEvent.payload : RecvEvent → Bytes
  | .data payload => payload
  | _ => []

def RecvEvent.bytes (events : List RecvEvent) : Bytes := events.flatMap RecvEvent.payload

open RecvEvent

omit [StoreCrates] in
theorem Recv.processRemainingFrames_bytes {events : List RecvEvent} {body : Option Bytes}
    {trailers : Option HeaderMap} (h : Recv.processRemainingFrames events = some (body, trailers)) :
    body = if events.any isData then some (bytes events) else none := by
  unfold Recv.processRemainingFrames at h
  change body = if events.any isData then
    some (((none, none) : Option Bytes × Option HeaderMap).1.getD [] ++ bytes events)
    else ((none, none) : Option Bytes × Option HeaderMap).1
  generalize ((none, none) : Option Bytes × Option HeaderMap) = acc at h ⊢
  induction events generalizing acc with
  | nil =>
    cases h
    rfl
  | cons e events ih =>
    obtain ⟨acc', he, h⟩ := Option.bind_eq_some_iff.mp h
    rw [ih acc' h]
    cases e with
    | headers message => cases he
    | data payload =>
      cases he
      by_cases hmore : events.any isData = true
      · simp [isData, hmore, bytes, RecvEvent.payload]
      · have hnone : bytes events = [] := by
          refine List.flatMap_eq_nil_iff.mpr fun e he => ?_
          cases e with
          | data payload => exact absurd (List.any_eq_true.mpr ⟨_, he, rfl⟩) hmore
          | _ => rfl
        simp [isData, hmore, bytes, RecvEvent.payload] at hnone ⊢
        simpa [RecvEvent.payload] using hnone
    | trailers fields =>
      cases he
      simp [isData, bytes, RecvEvent.payload]

omit [StoreCrates] in
theorem Recv.bodyCapacity_eq (st : Stream) (events : List RecvEvent) :
    Recv.bodyCapacity st events = (events.find? isData).map fun e =>
      (st.contentLengthTotal.map asUsize).getD (asUsize (e.payload.length * 2)) := by
  induction events with
  | nil => rfl
  | cons e events ih =>
    cases e with
    | data payload => rfl
    | _ => exact ih

/-- What is known of the body of a message and of the content length; as long as the connection is
`live`, they go together. -/
structure Stream.Fits (live : Prop) (st : Stream) : Prop where
  unreserved : st.state ≠ .reservedLocal
  short : ∀ e ∈ st.pendingRecv, e.payload.length ≤ MAX_WINDOW_SIZE
  declared : ∀ total rem, st.contentLength = .remaining total rem → total < 10 ^ 19
  waiting : live → st.state.isRecvHeaders = true → st.pendingRecv = [] ∧
    ∀ total rem, st.contentLength = .remaining total rem → rem = total
  measured : (live ∧ st.state.isRecvStreaming = true) ∨ st.state.isRecvEndStream = true →
    ∀ message rest, st.pendingRecv = .headers message :: rest →
      ∀ total rem, st.contentLength = .remaining total rem → (bytes rest).length + rem = total

section

variable {K : Scope} {s s' : Inner} {k : Key} {st st' : Stream} {role : Role} {kind : Kind} {live : Prop}

namespace Stream.Fits

section

omit [StoreCrates]

theorem new (id initSend initRecv : Nat) (len : ContentLength.Undeclared) :
    Fits live { Stream.new id initSend initRecv with contentLength := len } where
  unreserved := nofun
  short _ he := by cases he
  declared total rem hlen := absurd hlen (len.2 _ _)
  waiting _ _ := ⟨rfl, fun total rem hlen => absurd hlen (len.2 _ _)⟩
  measured _ _ _ hqueue := by cases hqueue

theorem weaken {live' : Prop} (h : st.Fits live) (hlive : live' → live) : st.Fits live' :=
  ⟨h.unreserved, h.short, h.declared, fun hl => h.waiting (hlive hl), fun hl =>
    h.measured (hl.imp_left (.imp_left hlive))⟩

theorem mono (h : st.Fits live) (hstate : st'.state ≠ .reservedLocal)
    (hheaders : st'.state.isRecvHeaders = true → st.state.isRecvHeaders = true)
    (hstreaming : st'.state.isRecvStreaming = true → st.state.isRecvStreaming = true)
    (hend : st'.state.isRecvEndStream = true → st.state.isRecvEndStream = true)
    (hqueue : st'.pendingRecv = st.pendingRecv)
    (hlen : st'.contentLength = st.contentLength) : st'.Fits live where
  unreserved := hstate
  short := hqueue ▸ h.short
  declared := hlen ▸ h.declared
  waiting hlive hst := by
    rw [hqueue, hlen]
    exact h.waiting hlive (hheaders hst)
  measured hst := by
    rw [hqueue, hlen]
    exact h.measured (hst.imp (.imp_right hstreaming) hend)

theorem same (h : st.Fits live) (hstate : st'.state = st.state)
    (hqueue : st'.pendingRecv = st.pendingRecv)
    (hlen : st'.contentLength = st.contentLength) : st'.Fits live :=
  h.mono (hstate ▸ h.unreserved) (fun hst => hstate ▸ hst) (fun hst => hstate ▸ hst)
    (fun hst => hstate ▸ hst) hqueue hlen

theorem closed (h : st.Fits live) (hclosed : st'.state.isClosed = true)
    (hend : st'.state.isRecvEndStream = true → st.state.isRecvEndStream = true)
    (hqueue : st'.pendingRecv = st.pendingRecv)
    (hlen : st'.contentLength = st.contentLength) : st'.Fits live := by
  refine h.mono (State.ne_reservedLocal hclosed) (fun hno => ?_) (fun hno => ?_) hend hqueue hlen
  · exact absurd ((State.isRecvHeaders_of_closed hclosed).symm.trans hno) Bool.false_ne_true
  · exact absurd ((State.isRecvStreaming_of_closed hclosed).symm.trans hno) Bool.false_ne_true

end

end Stream.Fits

omit [StoreCrates] in
/-- A message that ends has the length that was declared, as far as the receiver checked it. -/
theorem Turn.fits (h : Turn K role k kind st st') (hrecv : ¬K.recv k) (hends : K.ends k → live)
    (hst : st.Fits live) : st'.Fits live := by
  cases h with
  | measure hK => exact absurd hK hrecv
  | recvOpen hK => exact absurd hK hrecv
  | pushRecv hK => exact absurd hK hrecv
  | sendOpen _ _ _ h =>
    obtain ⟨hheaders, hstreaming⟩ := State.recv_sendOpen h
    obtain ⟨hreserved, hend⟩ := State.isRecvEndStream_sendOpen h hst.unreserved
    exact hst.mono hreserved hheaders hstreaming hend rfl rfl
  | sendClose _ _ h =>
    obtain ⟨hheaders, hstreaming⟩ := State.recv_sendClose h
    obtain ⟨hreserved, hend⟩ := State.isRecvEndStream_sendClose h
    exact hst.mono hreserved hheaders hstreaming hend rfl rfl
  | recvClose hK state h =>
    have hend := isRecvEndStream_recvClose h
    refine ⟨?_, hst.short, hst.declared, fun _ hno => ?_, fun _ message rest hqueue => ?_⟩
    · rintro rfl
      cases hend
    · exact absurd ((State.isRecvHeaders_of_ended hend).symm.trans hno) Bool.false_ne_true
    · cases hheaders : st.state.isRecvHeaders with
      | true =>
        have hempty := (hst.waiting (hends hK) hheaders).1
        cases hempty.symm.trans hqueue
      | false =>
        exact hst.measured (Or.inl ⟨hends hK, State.isRecvStreaming_of_recvClose h hheaders⟩) message rest hqueue
  | schedule => exact hst.closed rfl nofun rfl rfl
  | reset => exact hst.closed rfl nofun rfl rfl
  | remoteReset _ frame =>
    exact hst.closed (State.isClosed_recvReset _ _ _)
      (State.isRecvEndStream_closed st.state (.io .brokenPipe none) frame st.isPendingSend).1 rfl rfl
  | fail _ err =>
    exact hst.closed (State.isClosed_handleError _ _)
      (State.isRecvEndStream_closed st.state err ⟨0, 0⟩ false).2.1 rfl rfl
  | eof =>
    exact hst.closed (State.isClosed_recvEof _)
      (State.isRecvEndStream_closed st.state (.io .brokenPipe none) ⟨0, 0⟩ false).2.2 rfl rfl
  | drainRecv =>
    refine ⟨hst.unreserved, ?_, hst.declared, fun hl hheaders => ⟨rfl, (hst.waiting hl hheaders).2⟩, ?_⟩
    · exact fun e he => absurd he List.not_mem_nil
    · exact fun _ _ _ hno => absurd hno (List.cons_ne_nil _ _).symm
  | _ => exact hst.same rfl rfl rfl

theorem Moves.fits (h : Moves K s s') (hrecv : ¬K.recv k) (hends : K.ends k → live)
    (hs : s.At k (Stream.Fits live)) : s'.At k (Stream.Fits live) := by
  have hstable : Stable K s.counts.role fun j st => j = k → st.Fits live :=
    { turn := fun j kind st st' hturn hst hj => hturn.fits (hj ▸ hrecv) (hj ▸ hends) (hst hj)
      flag := fun j st n now val hst => by cases n <;> exact fun hj => (hst hj).same rfl rfl rfl
      link := fun j st n key hst => by cases n <;> exact fun hj => (hst hj).same rfl rfl rfl
      born := fun j _ _ _ _ _ => .new _ _ _ _ }
  exact fun st hk => h.each hstable (fun j stj hj hjk => hs stj (hjk ▸ hj)) k st hk rfl

end

section

variable {st st' : Stream}

def ContentLength.Whole (len : ContentLength) : Prop :=
  ∀ total rem, len = .remaining total rem → rem = total ∧ total < 10 ^ 19

omit [StoreCrates] in
theorem LengthReceipt.whole {frame : Headers} {res : Except ProtoError Unit} {len : ContentLength}
    (h : LengthReceipt st frame res len) (hst : st.contentLength.Whole) : len.Whole := by
  cases h with
  | head => exact hst
  | none => exact hst
  | unreadable => exact hst
  | declared value n _ _ good =>
    rintro total rem ⟨⟩
    exact ⟨rfl, parseU64_lt good⟩

omit [StoreCrates] in
theorem Stream.decContentLength_remaining {n total rem : Nat}
    (h : st.decContentLength n = some { st with contentLength := .remaining total rem }) :
    st.contentLength = .remaining total (n + rem) := by
  unfold decContentLength at h
  split at h
  · rename_i total' rem' hst
    split at h
    · cases h
    · rename_i hle
      have hlen := congrArg (fun st : Stream => st.contentLength) (Option.some.inj h)
      obtain ⟨rfl, rfl⟩ := ContentLength.remaining.inj hlen
      rw [hst, Nat.add_sub_cancel' (Nat.not_lt.mp hle)]
  · rename_i hst
    split at h
    · cases h
    · cases hst.symm.trans (congrArg (fun st : Stream => st.contentLength) (Option.some.inj h))
  · rename_i hst
    cases hst.symm.trans (congrArg (fun st : Stream => st.contentLength) (Option.some.inj h))

namespace Stream.Fits

section

omit [StoreCrates]

theorem whole (h : st.Fits True) (hheaders : st.state.isRecvHeaders = true) : st.contentLength.Whole :=
  fun total rem hlen => ⟨(h.waiting trivial hheaders).2 total rem hlen,
    h.declared total rem hlen⟩

theorem dataReceipt {frame : Data} {limit : Nat} {res : Except ProtoError Unit} (h : st.Fits True)
    (hstreaming : st.state.isRecvStreaming = true) (hsize : frame.data.length ≤ MAX_WINDOW_SIZE)
    (hreceipt : DataReceipt st frame limit res st') :
    st'.Fits True ∨ (∃ id reason, res = resets id reason) ∧ st'.Fits False := by
  have hdeclared : ∀ {len}, st.decContentLength frame.data.length = some { st with contentLength := len } →
      ∀ total rem, len = .remaining total rem → total < 10 ^ 19 := by
    rintro _ hdec total rem rfl
    exact h.declared total _ (decContentLength_remaining hdec)
  cases hreceipt with
  | windowless => exact Or.inl h
  | tooLong => exact Or.inl h
  | tooShort len hdec =>
    refine Or.inr ⟨⟨_, _, rfl⟩, h.unreserved, h.short, hdeclared hdec, False.elim, ?_⟩
    rintro (⟨hno, -⟩ | hend)
    · exact hno.elim
    · exact absurd ((State.isRecvStreaming_of_ended hend).symm.trans hstreaming) Bool.false_ne_true
  | buffered len state flow hdec _ next =>
    have hheaders : state.isRecvHeaders = false ∧ state ≠ .reservedLocal := by
      split at next
      · have hend := isRecvEndStream_recvClose next
        exact ⟨State.isRecvHeaders_of_ended hend, fun hno => by simp [hno, State.isRecvEndStream] at hend⟩
      · cases next
        exact ⟨State.isRecvHeaders_of_streaming hstreaming, h.unreserved⟩
    refine Or.inl ⟨hheaders.2, ?_, hdeclared hdec, fun _ hno => ?_, fun _ message rest hqueue => ?_⟩
    · intro e he
      rcases List.mem_append.mp he with hold | hnew
      · exact h.short e hold
      · obtain rfl := List.mem_singleton.mp hnew
        exact hsize
    · exact absurd (hheaders.1.symm.trans hno) Bool.false_ne_true
    · rintro total rem rfl
      obtain ⟨hold, hnew⟩ | ⟨front, hold, hnew⟩ := List.append_eq_cons_iff.mp hqueue
      · cases hnew
      · have hbefore := h.measured (Or.inl ⟨trivial, hstreaming⟩) message front hold total _
          (decContentLength_remaining hdec)
        rw [hnew]
        simp only [bytes, List.flatMap_append, List.flatMap_singleton, List.length_append, payload] at hbefore ⊢
        omega

theorem trailersReceipt {frame : Headers} {res : Except ProtoError Unit} (h : st.Fits True)
    (hheaders : st.state.isRecvHeaders = false) (hreceipt : TrailersReceipt st frame res st') :
    st'.Fits True := by
  have hclosed : ∀ {state}, st.state.recvClose = .ok state →
      state ≠ .reservedLocal ∧ state.isRecvHeaders = false ∧ st.state.isRecvStreaming = true := by
    intro state hclose
    have hend := isRecvEndStream_recvClose hclose
    exact ⟨fun hno => by simp [hno, State.isRecvEndStream] at hend, State.isRecvHeaders_of_ended hend,
      State.isRecvStreaming_of_recvClose hclose hheaders⟩
  cases hreceipt with
  | refused => exact h
  | tooShort state hclose =>
    obtain ⟨hreserved, hlate, hstreaming⟩ := hclosed hclose
    refine ⟨hreserved, h.short, h.declared, fun _ hno => ?_, fun _ => h.measured (Or.inl ⟨trivial, hstreaming⟩)⟩
    exact absurd (hlate.symm.trans hno) Bool.false_ne_true
  | taken state hclose =>
    obtain ⟨hreserved, hlate, hstreaming⟩ := hclosed hclose
    refine ⟨hreserved, ?_, h.declared, fun _ hno => ?_, fun _ message rest hqueue total rem hlen => ?_⟩
    · intro e he
      rcases List.mem_append.mp he with hold | hnew
      · exact h.short e hold
      · obtain rfl := List.mem_singleton.mp hnew
        exact Nat.zero_le _
    · exact absurd (hlate.symm.trans hno) Bool.false_ne_true
    · obtain ⟨hold, hnew⟩ | ⟨front, hold, hnew⟩ := List.append_eq_cons_iff.mp hqueue
      · cases hnew
      · have hbefore := h.measured (Or.inl ⟨trivial, hstreaming⟩) message front hold total rem hlen
        rw [hnew]
        simpa only [bytes, List.flatMap_append, List.flatMap_singleton, payload, List.append_nil] using hbefore

end

theorem blocks {s : Inner} {frame : Headers} (h : st.Fits True) (hheaders : st.state.isRecvHeaders = true) :
    Follows.Blocks Stream.Fits s st frame where
  rejected isInitial state b len res hopen hlength := by
    have hwhole := hlength.whole (h.whole hheaders)
    have hempty := (h.waiting trivial hheaders).1
    refine ⟨State.recvOpen_ne_reservedLocal hopen, h.short, fun total rem hlen => (hwhole total rem hlen).2,
      False.elim, ?_⟩
    exact fun _ _ _ hqueue => by cases hempty.symm.trans hqueue
  taken := by
    rintro res st₁ hreceipt rfl
    have hempty := (h.waiting trivial hheaders).1
    cases hreceipt with
    | informational isInitial state b len hopen hlength info =>
      have hwhole := hlength.whole (h.whole hheaders)
      refine ⟨State.recvOpen_ne_reservedLocal hopen, h.short, fun total rem hlen => (hwhole total rem hlen).2,
        fun _ _ => ⟨hempty, ?_⟩, ?_⟩
      · exact fun total rem hlen => (hwhole total rem hlen).1
      · exact fun _ _ _ hqueue => by cases hempty.symm.trans hqueue
    | delivered isInitial state b len message hopen hlength final =>
      have hwhole := hlength.whole (h.whole hheaders)
      refine ⟨State.recvOpen_ne_reservedLocal hopen, ?_, fun total rem hlen => (hwhole total rem hlen).2,
        fun _ hno => ?_, ?_⟩
      · intro e he
        rw [hempty, List.nil_append, List.mem_singleton] at he
        subst he
        exact Nat.zero_le _
      · exact absurd (((recvOpen_next hopen).2 final).symm.trans hno) Bool.false_ne_true
      · intro _ message' rest hqueue total rem hlen
        rw [hempty] at hqueue
        cases hqueue
        exact (Nat.zero_add rem).trans (hwhole total rem hlen).1

end Stream.Fits

theorem fits_reads (role : Role) : Reads role Stream.Fits where
  turn hturn hst := hturn.fits (fun hno => hno) False.elim hst
  settles hsettles hst := hst.same (congrArg (fun st => st.state) hsettles)
    (congrArg (fun st => st.pendingRecv) hsettles) (congrArg (fun st => st.contentLength) hsettles)
  counted _ hst := hst.same rfl rfl rfl
  weaken hlive hst := hst.weaken hlive
  closed hclosed hst := by
    refine ⟨hst.unreserved, hst.short, hst.declared, fun _ hno => ?_, fun hno => hst.measured (Or.inr ?_)⟩
    · exact absurd ((State.isRecvHeaders_of_closed hclosed).symm.trans hno) Bool.false_ne_true
    · refine hno.resolve_left fun ⟨_, hno⟩ => ?_
      exact absurd ((State.isRecvStreaming_of_closed hclosed).symm.trans hno) Bool.false_ne_true
  born id initSend initRecv := .new id initSend initRecv ⟨.omitted, nofun⟩
  data hst hstreaming hsize hreceipt := hst.dataReceipt hstreaming hsize hreceipt
  trailers hst hheaders hreceipt := hst.trailersReceipt hheaders hreceipt
  headers _ hst hheaders := hst.blocks hheaders

end

end TwoPlz
