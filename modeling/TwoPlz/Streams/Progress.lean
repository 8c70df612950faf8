import TwoPlz.Streams.Measured

/-! When `pop_data_frame` has a DATA frame to send. -/

namespace TwoPlz

variable [HeaderPlz] [StoreCrates]

namespace Send

open M

variable {s : Inner} {k : Key} {st : Stream}

/-- Both windows have room for the stream: its own, and what it holds of the connection's, or the
connection's. -/
def HasWindow (s : Inner) (st : Stream) : Prop :=
  0 < st.sendFlow.available ∧ (0 < st.connectionWindowAllocated ∨ 0 < s.send.flow.available)

/-- The low 32 bits of `remaining_data_len` are 0, and the stream holds nothing yet. -/
def Truncated (st : Stream) (rem : Nat) : Prop := st.connectionWindowAllocated = 0 ∧ rem % 2 ^ 32 = 0

theorem pushFrontSend_returns (hk : s.get? k = some st) (frame : Frame) :
    Returns s (pushFrontSend k frame) fun _ _ => True := by
  exact Returns.update_bind hk ⟨(), _, modify_some.mpr rfl, trivial⟩

theorem sendClose_returns (hk : s.get? k = some st) (hst : st.state.isSendStreaming = true) :
    Returns s (sendClose k) fun _ _ => True := by
  obtain ⟨state, hclose⟩ := Option.isSome_iff_exists.mp (State.sendClose_isSome hst)
  refine Returns.resolve_bind hk (Returns.lift_bind hclose (Returns.update hk trivial))

theorem setDataFrameEos_returns (hk : s.get? k = some st) (hst : st.state.isSendStreaming = true)
    (toRet : Data) (remaining : Option Data) :
    Returns s (setDataFrameEos k toRet remaining) fun d _ => d.data = toRet.data := by
  refine Returns.resolve_bind hk ?_
  split
  · split
    · exact (sendClose_returns hk hst).bind fun _ _ _ => Returns.pure rfl
    · exact Returns.update_bind hk (Returns.pure rfl)
  · cases remaining with
    | none => exact Returns.pure rfl
    | some frame => exact (pushFrontSend_returns hk _).bind fun _ _ _ => Returns.pure rfl

theorem emitData_returns (hk : s.get? k = some st) (hst : st.state.isSendStreaming = true)
    (hspa : s.send.spaTracker = none) {rem maxFrameSize available : Nat} {frame : Data}
    (hlen : frame.data.length = rem) (hrem : 0 < rem) (hmax : 0 < maxFrameSize ∧ maxFrameSize < 2 ^ 32)
    (havailable : 0 < available) (hallocated : 0 < st.connectionWindowAllocated) :
    Returns s (emitData k rem maxFrameSize available frame) fun o _ =>
      ∃ d, o = some (.data d) ∧ d.data ≠ [] := by
  have hfit : min rem maxFrameSize % 2 ^ 32 = min rem maxFrameSize := Nat.mod_eq_of_lt (by omega)
  refine Returns.resolve_bind hk (Returns.get_bind ?_)
  rw [hspa, hfit]
  have hrest : ∀ (flow : FlowControl) (allocated : Nat) (left : Option Nat) (len : Nat), 0 < len → len ≤ rem →
      Returns (s.put k { st with
        sendFlow := flow, connectionWindowAllocated := allocated, remainingDataLen := left }) (do
          M.assert (decide (len ≤ frame.data.length))
          let toRet ← setDataFrameEos k (Data.new st.id (frame.data.take len))
            (some { frame with data := frame.data.drop len })
          pure (some (Frame.data toRet))) fun o _ => ∃ d, o = some (.data d) ∧ d.data ≠ [] := by
    intro flow allocated left len hpos hle
    refine Returns.assert_bind (decide_eq_true (by omega)) ?_
    have hk₁ := Inner.get?_put hk { st with
      sendFlow := flow, connectionWindowAllocated := allocated, remainingDataLen := left } rfl
    refine (setDataFrameEos_returns hk₁ hst _ _).bind fun d _ hd => Returns.pure ⟨d, rfl, ?_⟩
    have hlength : d.data.length = len := by
      rw [hd, Data.new, List.length_take]
      omega
    exact List.ne_nil_of_length_pos (by omega)
  refine Returns.update_bind hk (hrest _ _ _ _ ?_ ?_)
  · simp only [Option.isSome_none, Bool.false_and, Bool.false_eq_true, if_false]
    omega
  · simp only [Option.isSome_none, Bool.false_and, Bool.false_eq_true, if_false]
    omega

/-- The stream gets some of the connection window unless the cast of the remainder to 32 bits is 0. -/
theorem tryAllocateStreamFlow_returns (hk : s.get? k = some st) {rem available : Nat}
    (havailable : 0 < available)
    (hconn : 0 < st.connectionWindowAllocated ∨ 0 < s.send.flow.available ∧ rem % 2 ^ 32 ≠ 0) :
    Returns s (tryAllocateStreamFlow k rem available) fun b s' => b = true ∧
      s'.send.spaTracker = s.send.spaTracker ∧
      ∃ allocated, 0 < allocated ∧ s'.get? k = some { st with connectionWindowAllocated := allocated } := by
  refine Returns.resolve_bind hk (Returns.get_bind ?_)
  dsimp only
  split
  · rename_i hskip
    refine Returns.pure ⟨rfl, rfl, st.connectionWindowAllocated, ?_, hk⟩
    rcases hconn with hheld | ⟨-, hrem⟩
    · exact hheld
    · have hpos : 0 < rem := Nat.pos_of_ne_zero fun hzero => hrem (by simp [hzero])
      simp [hpos] at hskip
      omega
  · rename_i hzero
    have hnone : st.connectionWindowAllocated = 0 := by
      simp only [Bool.not_eq_true', Bool.and_eq_true, beq_iff_eq, Bool.not_eq_false] at hzero
      exact hzero.1
    obtain ⟨hflow, hrem⟩ := hconn.resolve_left (by omega)
    have hpos : 0 < min (min s.send.flow.available available) (rem % 2 ^ 32) := by omega
    have hlt : min (min s.send.flow.available available) (rem % 2 ^ 32) < 2 ^ 32 := by
      have hmod := Nat.mod_lt rem (show 0 < 2 ^ 32 by decide)
      omega
    rw [if_neg (by simp only [beq_iff_eq]; omega)]
    generalize min (min s.send.flow.available available) (rem % 2 ^ 32) = allocated at hpos hlt
    have halloc : Returns s (allocate k allocated) fun _ s' => s'.send.spaTracker = s.send.spaTracker ∧
        s'.get? k = some { st with connectionWindowAllocated := allocated } := by
      refine Returns.resolve_bind hk (Returns.step (?_ : _ = some (allocated, s)) ?_)
      · rw [hnone, addU32, Nat.zero_add, if_pos hlt]
      · refine Returns.update_bind hk ⟨(), _, modify_some.mpr rfl, rfl, ?_⟩
        exact Inner.get?_put hk { st with connectionWindowAllocated := allocated } rfl
    exact halloc.bind fun _ s₁ ⟨hspa, hk₁⟩ => Returns.pure ⟨rfl, hspa, allocated, hpos, hk₁⟩

theorem popDataFrame_returns (hk : s.get? k = some st) (hst : st.state.isSendStreaming = true)
    (hspa : s.send.spaTracker = none) {rem maxFrameSize : Nat} {frame : Data}
    (hrem : st.remainingDataLen = some rem) (hlen : frame.data.length = rem) (hpos : 0 < rem)
    (hmax : 0 < maxFrameSize ∧ maxFrameSize < 2 ^ 32) (hwindow : HasWindow s st)
    (hfit : ¬Truncated st rem) :
    Returns s (popDataFrame k maxFrameSize frame) fun o _ => ∃ d, o = some (.data d) ∧ d.data ≠ [] := by
  obtain ⟨havailable, hconn⟩ := hwindow
  refine Returns.resolve_bind hk ?_
  rw [hrem]
  dsimp only
  rw [if_neg (by simp only [beq_iff_eq]; omega), if_neg (by simp only [beq_iff_eq]; omega)]
  have hallocates : 0 < st.connectionWindowAllocated ∨ 0 < s.send.flow.available ∧ rem % 2 ^ 32 ≠ 0 := by
    rcases Nat.eq_zero_or_pos st.connectionWindowAllocated with hzero | hheld
    · exact Or.inr ⟨hconn.resolve_left (by omega), fun hmod => hfit ⟨hzero, hmod⟩⟩
    · exact Or.inl hheld
  refine (tryAllocateStreamFlow_returns hk havailable hallocates).bind ?_
  rintro b s₁ ⟨rfl, hspa₁, allocated, hheld, hk₁⟩
  exact emitData_returns hk₁ hst (hspa₁.trans hspa) hlen hpos hmax havailable hheld

theorem popDataFrame_truncated (hk : s.get? k = some st) {rem : Nat} (hrem : st.remainingDataLen = some rem)
    (hpos : 0 < rem) (hcast : Truncated st rem) (maxFrameSize : Nat) (frame : Data) :
    Ends s (popDataFrame k maxFrameSize frame) fun o _ => o = none := by
  refine Ends.resolve_bind fun _ hst' => ?_
  cases hk.symm.trans hst'
  rw [hrem]
  dsimp only
  rw [if_neg (by simp only [beq_iff_eq]; omega)]
  split
  · exact Ends.bind fun _ _ _ => Ends.bind fun _ _ _ => Ends.pure rfl
  · refine Ends.bind fun b s₁ hflow => ?_
    have hfalse : b = false := by
      obtain ⟨_, _, hresolve, hflow⟩ := bind_eq_some hflow
      obtain ⟨hst₁, rfl⟩ := resolve_some.mp hresolve
      cases hk.symm.trans hst₁
      obtain ⟨_, _, hget, hflow⟩ := bind_eq_some hflow
      obtain ⟨rfl, rfl⟩ := get_some.mp hget
      simp only [hcast.1, hpos, hcast.2, Nat.min_zero, beq_self_eq_true, decide_true, Bool.and_self,
        Bool.not_true, Bool.false_eq_true, if_false, if_true] at hflow
      cases hflow
      rfl
    subst hfalse
    exact Ends.bind fun _ _ _ => Ends.bind fun _ _ _ => Ends.pure rfl

end Send

end TwoPlz
