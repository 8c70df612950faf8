import TwoPlz.Streams.Bodies

/-! The memory that a body is put together in. -/

namespace TwoPlz

open RecvEvent

/-- A capacity that can be asked for, and that goes with what is buffered or with the limit of that. -/
def Proportionate (factor limit buffered capacity : Nat) : Prop :=
  capacity ≤ Recv.ISIZE_MAX ∧ capacity ≤ factor * max buffered limit

theorem Proportionate.of_buffered {factor limit buffered capacity : Nat} (hmax : capacity ≤ Recv.ISIZE_MAX)
    (h : capacity ≤ factor * buffered) : Proportionate factor limit buffered capacity :=
  ⟨hmax, h.trans (Nat.mul_le_mul_left _ (Nat.le_max_left _ _))⟩

section

variable [HeaderPlz] [StoreCrates]

structure Stream.Complete (st : Stream) (rest : List RecvEvent) : Prop where
  ended : st.state.isRecvEndStream = true
  whole : st.ensureContentLengthZero = true
  fits : (bytes rest).length ≤ Recv.ISIZE_MAX

omit [StoreCrates] in
theorem RecvEvent.payload_le {rest : List RecvEvent} {e : RecvEvent} (h : e ∈ rest) :
    e.payload.length ≤ (bytes rest).length := by
  rw [bytes, List.flatMap_def]
  exact (List.sublist_flatten_of_mem (List.mem_map_of_mem h)).length_le

namespace Connection

variable {c c' : Connection} {e : Event}

def Fits (c : Connection) : Prop := c.streams.Each fun _ st => st.Fits ¬c.Failed

theorem Fits.next (hc : c.Settled) (h : c.Fits) (hnext : c.next e = some c') : c'.Fits := by
  intro k st hk
  by_cases hrecv : (c.scope e).recv k
  · refine hc.read (fits_reads _) hnext hrecv (fun st hk => ?_) st hk
    exact (h k st hk).weaken fun _ => not_failed (recv_found hrecv).1
  · have hkept := (hc.moves hnext).fits hrecv (fun hends => not_failed hends.1) (h k) st hk
    exact hkept.weaken fun hno hfail => hno (hfail.next hnext)

theorem Fits.new (role : Role) (config : ConnectionConfig) (debug : Bool) :
    (Connection.new role config debug).Fits := by
  intro k st hk
  simp [Inner.get?, Connection.new, Inner.new] at hk

/-- Where a message is put together, the body is the payloads in order; and the capacity goes with
what is buffered just when the message is complete, or the length that was declared does. -/
theorem body_reassembly (role : Role) (config : ConnectionConfig) (debug : Bool) {events : List Event}
    (h : (Connection.new role config debug).after events = some c) {k : Key} {st : Stream}
    {message : PollMessage} {rest : List RecvEvent} (hk : c.streams.get? k = some st)
    (hqueue : st.pendingRecv = .headers message :: rest) :
    (∀ body trailers, Recv.processRemainingFrames rest = some (body, trailers) →
      body = if rest.any isData then some (bytes rest) else none) ∧
    ∀ factor, 2 ≤ factor →
      ((∀ capacity, Recv.bodyCapacity st rest = some capacity →
          Proportionate factor c.streams.recv.maxRecvBufLimit (bytes rest).length capacity) ↔
        st.Complete rest ∨ rest.any isData = false ∨
          ∀ total, st.contentLengthTotal = some total →
            Proportionate factor c.streams.recv.maxRecvBufLimit (bytes rest).length total) := by
  have hfits : st.Fits ¬c.Failed :=
    (after_invariant (Settled.new role config debug) (Fits.new role config debug)
      (fun _ _ _ hc hI hnext => hI.next hc hnext) h).2 k st hk
  refine ⟨fun body trailers => Recv.processRemainingFrames_bytes, fun factor hfactor => ?_⟩
  rw [Recv.bodyCapacity_eq]
  cases hdata : rest.find? isData with
  | none =>
    have hnone : rest.any isData = false := List.any_eq_false.mpr (List.find?_eq_none.mp hdata)
    simp [hnone]
  | some e =>
    have he := List.mem_of_find?_eq_some hdata
    have hany : rest.any isData = true := List.any_eq_true.mpr ⟨e, he, List.find?_some hdata⟩
    have hpart := RecvEvent.payload_le he
    simp only [Option.map_some, Option.some.injEq, forall_eq', hany, Bool.true_eq_false, false_or]
    cases hlen : st.contentLength with
    | remaining total rem =>
      have htotal : st.contentLengthTotal = some total := by simp only [Stream.contentLengthTotal, hlen]
      have husize : Recv.asUsize total = total :=
        Nat.mod_eq_of_lt ((hfits.declared total rem hlen).trans (by decide))
      simp only [htotal, Option.map_some, Option.getD_some, husize, Option.some.injEq, forall_eq']
      refine ⟨Or.inr, fun hcond => hcond.elim (fun hcomplete => ?_) id⟩
      have hrem : rem = 0 := by
        have hwhole := hcomplete.whole
        simpa only [Stream.ensureContentLengthZero, hlen, beq_iff_eq] using hwhole
      have hsum := hfits.measured (Or.inr hcomplete.ended) message rest hqueue total rem hlen
      rw [hrem, Nat.add_zero] at hsum
      subst hsum
      exact .of_buffered hcomplete.fits (Nat.le_mul_of_pos_left _ (by omega))
    | _ =>
      have htotal : st.contentLengthTotal = none := by simp only [Stream.contentLengthTotal, hlen]
      have hshort : e.payload.length ≤ 2 ^ 31 - 1 :=
        hfits.short e (by rw [hqueue]; exact List.mem_cons_of_mem _ he)
      have husize : Recv.asUsize (e.payload.length * 2) = e.payload.length * 2 :=
        Nat.mod_eq_of_lt (Nat.lt_of_le_of_lt (Nat.mul_le_mul_right 2 hshort) (by decide))
      simp only [htotal, Option.map_none, Option.getD_none, husize, reduceCtorEq, false_implies,
        implies_true, or_true, iff_true]
      refine .of_buffered ((Nat.mul_le_mul_right 2 hshort).trans (by decide)) ?_
      rw [Nat.mul_comm]
      exact Nat.mul_le_mul hfactor hpart

end Connection

end

section

attribute [local instance] plain plainCrates

def boastfulEvents : List Event :=
  [.sendRequest (plainRequest none), .pollComplete 16384,
    .recvHeaders (Headers.new 1 (Pseudo.response HeaderPlz.OK)
      [(ascii "content-length", ascii "9999999999999999999")]),
    .recvData (Data.new 1 [7]), .recvReset ⟨1, Reason.CANCEL⟩]

/-- What is received of it is put together in a buffer of that length. -/
theorem boastful_response_overflows :
    ((Connection.new .client plainConfig true).after boastfulEvents).any (fun c =>
      (c.streams.get? ⟨0, 1⟩).any (fun st =>
        (Recv.bodyCapacity st st.pendingRecv.tail).any (fun capacity =>
          decide (Recv.ISIZE_MAX < capacity)) &&
            decide (bytes st.pendingRecv.tail = [7])) && (c.next (.pollResponse ⟨0, 1⟩ 0)).isSome) = true := by
  decide +kernel

def modestEvents : List Event :=
  [.sendRequest (plainRequest none), .pollComplete 16384,
    .recvHeaders (Headers.new 1 (Pseudo.response HeaderPlz.OK) [(ascii "content-length", ascii "1")]),
    .recvData ((Data.new 1 [7]).setEndStream true)]

theorem body_reassembly_modest : ∃ c st message rest,
    (Connection.new .client plainConfig true).after modestEvents = some c ∧
      c.streams.get? ⟨0, 1⟩ = some st ∧ st.pendingRecv = .headers message :: rest ∧
        ∀ capacity, Recv.bodyCapacity st rest = some capacity →
          Proportionate 2 c.streams.recv.maxRecvBufLimit (bytes rest).length capacity := by
  have hrun : ((Connection.new .client plainConfig true).after modestEvents).any (fun c =>
      (c.streams.get? ⟨0, 1⟩).any (fun st => st.state.isRecvEndStream && st.ensureContentLengthZero &&
        decide ((bytes st.pendingRecv.tail).length ≤ Recv.ISIZE_MAX) &&
          RecvEvent.isBegun st.pendingRecv)) = true := by decide +kernel
  obtain ⟨c, hc, hst⟩ := (Option.any_eq_true _ _).mp hrun
  obtain ⟨st, hk, hst⟩ := (Option.any_eq_true _ _).mp hst
  simp only [Bool.and_eq_true, decide_eq_true_eq] at hst
  obtain ⟨⟨⟨hend, hzero⟩, hfits⟩, hbegun⟩ := hst
  obtain ⟨response, rest, hqueue, -⟩ := RecvEvent.isBegun_cases hbegun
  rw [hqueue] at hfits
  exact ⟨c, st, .client response, rest, hc, hk, hqueue,
    ((Connection.body_reassembly .client plainConfig true hc hk hqueue).2 2 (Nat.le_refl _)).mpr
      (Or.inl ⟨hend, hzero, hfits⟩)⟩

end

end TwoPlz
