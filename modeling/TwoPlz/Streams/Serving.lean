import TwoPlz.Streams.Assertions
import TwoPlz.Streams.Posted
import TwoPlz.Streams.SendMoves

/-! The assertions of the sender hold while every stream is posted. -/

namespace TwoPlz

variable [HeaderPlz] [StoreCrates]

namespace Stream

variable {debug : Bool} {st : Stream}

structure Unqueued (debug : Bool) (st : Stream) : Prop where
  send : st.isPendingSend = false
  opening : debug = true → st.isPendingOpen = false

omit [StoreCrates] in
theorem Unqueued.apart (h : st.Unqueued debug) :
    ¬(debug = true ∧ (st.isPendingSend = true ∨ st.isPendingOpen = true)) := by
  rintro ⟨hd, hq | hq⟩
  · rw [h.send] at hq
    cases hq
  · rw [h.opening hd] at hq
    cases hq

/-- The stream was taken off `pending_send`, and its queue cleared if nobody wants it any more. -/
structure Due (debug : Bool) (st : Stream) : Prop extends Unqueued debug st where
  posted : st.Posted debug
  shaped : st.Shaped
  streaming : st.state.Posts → st.pendingSend ≠ [] → st.state.isSendStreaming = true
  ready : debug = true → st.pendingSend ≠ [] ∨ st.state.isClosed = true

structure Bare (debug : Bool) (st : Stream) : Prop extends Unqueued debug st where
  dry : st.hasData = false
  body : st.isSendingTrailer = false
  streaming : st.state.isSendStreaming = true
  single : (st.pendingSend.filter Frame.isHeaders).length ≤ 1

omit [StoreCrates] in
theorem Due.bare (h : st.Due debug) {data : Data} {rest : List Frame} (hqueue : st.pendingSend = .data data :: rest) :
    Bare debug { st with pendingSend := rest } := by
  have hserved := h.shaped.served hqueue
  have hdata : st.hasData = true := by simp [hasData, hqueue, Frame.isData]
  refine ⟨⟨h.send, h.opening⟩, hserved.dry, hserved.body, ?_, ?_⟩
  · exact h.streaming (h.posted.body hdata) (by simp [hqueue])
  · have hsingle := h.posted.single
    simpa [Stream.trailers, hqueue, Frame.isData, Frame.isHeaders] using hsingle

omit [StoreCrates] in
theorem Due.taken (h : st.Due debug) {frame : Frame} {rest : List Frame} (hqueue : st.pendingSend = frame :: rest)
    (hframe : frame.isData = false) : Posted debug { st with pendingSend := rest } where
  body hdata := by
    have hrest : rest.any Frame.isData = true := hdata
    exact h.posted.body (by simp [hasData, hqueue, hrest])
  trailers htrailer hheaders := by
    have hrest : rest.any Frame.isHeaders = true := hheaders
    exact h.posted.trailers htrailer (by simp [hasHeaders, hqueue, hrest])
  single := by
    have hsingle := h.posted.single
    simpa [Stream.trailers, hqueue, hframe] using hsingle
  last htrailer := by
    have hlast := h.posted.last htrailer
    rw [hqueue] at hlast
    exact ((List.sublist_cons_self frame rest).filter _).length_le.trans hlast
  held hheld := by
    refine (h.posted.held hheld).imp_left fun hdata => ?_
    simpa [hasData, hqueue, hframe] using hdata
  queued hd hq := absurd ⟨hd, hq⟩ h.apart
  apart _ hq := absurd hq (by simp [h.send])

namespace Bare

section

omit [StoreCrates]

theorem posted (h : st.Bare debug) (hrem : st.remainingDataLen = none) : st.Posted debug where
  body hdata := absurd hdata (by simp [h.dry])
  trailers htrailer := absurd htrailer (by simp [h.body])
  single := by simp [trailers_of_dry h.dry]
  last htrailer := absurd htrailer (by simp [h.body])
  held hheld := absurd hheld (by simp [hrem])
  queued hd hq := absurd ⟨hd, hq⟩ h.apart
  apart _ hq := absurd hq (by simp [h.send])

theorem restored (h : st.Bare debug) (frame : Data) :
    Posted debug { st with pendingSend := .data frame :: st.pendingSend } where
  body _ := Or.inl h.streaming
  trailers htrailer := absurd htrailer (by simp [h.body])
  single := by simpa [trailers, Frame.isData, Frame.isHeaders] using h.single
  last htrailer := absurd htrailer (by simp [h.body])
  held _ := Or.inl (by simp [hasData, Frame.isData])
  queued hd hq := absurd ⟨hd, hq⟩ h.apart
  apart _ hq := absurd hq (by simp [h.send])

theorem ended (h : st.Bare debug) (hrem : st.remainingDataLen = none) (state : State) :
    Posted debug { st with state := state } where
  body hdata := absurd (show st.hasData = true from hdata) (by simp [h.dry])
  trailers htrailer := absurd htrailer (by simp [h.body])
  single := by
    have hnone := trailers_of_dry h.dry
    exact (congrArg List.length hnone).le.trans (Nat.zero_le _)
  last htrailer := absurd htrailer (by simp [h.body])
  held hheld := absurd hheld (by simp [hrem])
  queued hd hq := absurd ⟨hd, hq⟩ h.apart
  apart _ hq := absurd hq (by simp [h.send])

theorem trailer (h : st.Bare debug) (hrem : st.remainingDataLen = none) :
    Posted debug { st with isSendingTrailer := true } where
  body hdata := absurd (show st.hasData = true from hdata) (by simp [h.dry])
  trailers _ _ := Or.inl h.streaming
  single := by
    have hnone := trailers_of_dry h.dry
    exact (congrArg List.length hnone).le.trans (Nat.zero_le _)
  last _ := h.single
  held hheld := absurd hheld (by simp [hrem])
  queued hd hq := absurd ⟨hd, hq⟩ h.apart
  apart _ hq := absurd hq (by simp [h.send])

theorem spent (h : st.Bare debug) (sendFlow : FlowControl) (allocated : Nat) (rem : Option Nat) :
    Bare debug { st with
      sendFlow := sendFlow, connectionWindowAllocated := allocated, remainingDataLen := rem } :=
  ⟨⟨h.send, h.opening⟩, h.dry, h.body, h.streaming, h.single⟩

end

end Bare

end Stream

namespace Send.Asserting

open M Checked

variable {s : Inner} {k : Key} {st : Stream}

def PostedAt (k : Key) (s : Inner) : Prop := ∀ st, s.get? k = some st → st.Posted s.debugAssertions

theorem PostedAt.of_get (hk : s.get? k = some st) (hst : st.Posted s.debugAssertions) : PostedAt k s := by
  intro st' hk'
  cases hk.symm.trans hk'
  exact hst

theorem sendClose_passes (h : ∀ st, s.get? k = some st → st.state.isSendStreaming = true) :
    Passes s (sendClose k) fun _ s' => ∃ st state, s.get? k = some st ∧
      s' = s.put k { st with state := state } := by
  refine Passes.lift_bind fun st s₁ hresolve => ?_
  obtain ⟨hk, rfl⟩ := resolve_some.mp hresolve
  obtain ⟨state, hclose⟩ := Option.isSome_iff_exists.mp (State.sendClose_isSome (h st hk))
  simp only [hclose]
  refine Passes.lift fun u s' hup => ?_
  obtain ⟨st', hst', rfl⟩ := update_some.mp hup
  cases hk.symm.trans hst'
  exact ⟨st, state, hk, rfl⟩

theorem pushFrontSend_some {s' : Inner} {u : Unit} {frame : Frame}
    (h : M.pushFrontSend k frame s = some (u, s')) (hk : s.get? k = some st) :
    s'.get? k = some { st with pendingSend := frame :: st.pendingSend } ∧
      s'.debugAssertions = s.debugAssertions := by
  obtain ⟨_, s₁, hup, hmodify⟩ := bind_eq_some h
  cases hmodify
  obtain ⟨st₁, hst₁, rfl⟩ := update_some.mp hup
  cases hk.symm.trans hst₁
  exact ⟨Inner.get?_put hk { st with pendingSend := frame :: st.pendingSend } rfl, rfl⟩

theorem setDataFrameEos_passes (hk : s.get? k = some st) (hst : st.Bare s.debugAssertions) (toRet : Data)
    {remaining : Option Data} (hrem : st.remainingDataLen.isSome = true → remaining.isSome = true) :
    Passes s (setDataFrameEos k toRet remaining) fun _ => PostedAt k := by
  refine Passes.lift_bind fun _ s₁ hresolve => ?_
  obtain ⟨hst', rfl⟩ := resolve_some.mp hresolve
  cases hk.symm.trans hst'
  split
  · rename_i hnone
    have hnone := Option.isNone_iff_eq_none.mp hnone
    split
    · have hclosing : ∀ st', s.get? k = some st' → st'.state.isSendStreaming = true := by
        intro st' hk'
        cases hk.symm.trans hk'
        exact hst.streaming
      refine Passes.bind (sendClose_passes hclosing) fun _ s' _ hclose => Passes.pure ?_
      obtain ⟨st', state, hk', rfl⟩ := hclose
      cases hk.symm.trans hk'
      exact .of_get (Inner.get?_put hk { st with state := state } rfl) (hst.ended hnone state)
    · refine Passes.lift_bind fun u s' h => Passes.pure ?_
      obtain ⟨st', hst', rfl⟩ := update_some.mp h
      cases hk.symm.trans hst'
      exact .of_get (Inner.get?_put hk { st with isSendingTrailer := true } rfl) (hst.trailer hnone)
  · rename_i hsome
    cases remaining with
    | none =>
      exact absurd (hrem (Option.isSome_iff_ne_none.mpr (by simpa using hsome))) (by simp)
    | some frame =>
      refine Passes.lift_bind fun u s' h => Passes.pure ?_
      obtain ⟨hk', hdebug⟩ := pushFrontSend_some h hk
      exact .of_get hk' (hdebug ▸ hst.restored frame)

theorem modifySpa_some {f : SpaTracker → SpaTracker} {s' : Inner} {u : Unit}
    (h : Send.modifySpa f s = some (u, s')) :
    s'.get? k = s.get? k ∧ s'.debugAssertions = s.debugAssertions := by
  cases h
  exact ⟨rfl, rfl⟩

theorem popEmptyDataFrame_passes (hk : s.get? k = some st) (hst : st.Bare s.debugAssertions) (frame : Data) :
    Passes s (popEmptyDataFrame k frame) fun _ => PostedAt k := by
  refine Passes.lift_bind fun u s₁ h => ?_
  obtain ⟨st', hst', rfl⟩ := update_some.mp h
  cases hk.symm.trans hst'
  have hk₁ := Inner.get?_put hk { st with remainingDataLen := none } rfl
  have hbare := hst.spent st.sendFlow st.connectionWindowAllocated none
  refine Passes.lift_bind fun s₂ s₃ hget => ?_
  obtain ⟨rfl, rfl⟩ := get_some.mp hget
  refine Passes.lift_bind fun st₂ s₃ hresolve => ?_
  obtain ⟨-, rfl⟩ := resolve_some.mp hresolve
  split
  · refine Passes.lift_bind fun u s₄ hspa => Passes.lift_bind fun u s₅ hpush => Passes.pure ?_
    obtain ⟨hsame, hdebug⟩ := modifySpa_some (k := k) hspa
    obtain ⟨hk', hdebug'⟩ := pushFrontSend_some hpush (hsame.trans hk₁)
    exact .of_get hk' (hdebug'.trans hdebug ▸ hbare.restored frame)
  · refine Passes.bind (setDataFrameEos_passes hk₁ hbare frame nofun) fun _ _ _ hposted => Passes.pure hposted

theorem emitData_passes (hk : s.get? k = some st) (hst : st.Bare s.debugAssertions)
    (rem maxFrameSize available : Nat) (frame : Data) :
    Passes s (emitData k rem maxFrameSize available frame) fun _ => PostedAt k := by
  refine Passes.lift_bind fun _ s₁ hresolve => ?_
  obtain ⟨hst', rfl⟩ := resolve_some.mp hresolve
  cases hk.symm.trans hst'
  refine Passes.lift_bind fun s₂ s₃ hget => ?_
  obtain ⟨rfl, rfl⟩ := get_some.mp hget
  refine Passes.lift_bind fun u s₁ h => ?_
  obtain ⟨st', hst', rfl⟩ := update_some.mp h
  cases hk.symm.trans hst'
  have hrest : ∀ (flow : FlowControl) (allocated : Nat) (left : Option Nat) (len : Nat),
      Passes (s.put k { st with
        sendFlow := flow, connectionWindowAllocated := allocated, remainingDataLen := left }) (do
          M.assert (decide (len ≤ frame.data.length))
          let toRet ← setDataFrameEos k (Data.new st.id (frame.data.take len))
            (some { frame with data := frame.data.drop len })
          pure (some (Frame.data toRet))) fun _ => PostedAt k := by
    intro flow allocated left len
    refine Passes.lift_bind fun u s₃ hassert => ?_
    obtain ⟨-, rfl⟩ := assert_some.mp hassert
    have hk₁ := Inner.get?_put hk { st with
      sendFlow := flow, connectionWindowAllocated := allocated, remainingDataLen := left } rfl
    exact Passes.bind (setDataFrameEos_passes hk₁ (hst.spent _ _ _) _ fun _ => rfl)
      fun _ _ _ hposted => Passes.pure hposted
  exact hrest _ _ _ _

theorem tryAllocateStreamFlow_ends (hk : s.get? k = some st) (rem available : Nat) :
    Ends s (Send.tryAllocateStreamFlow k rem available) fun _ s' =>
      (∃ allocated, s'.get? k = some { st with connectionWindowAllocated := allocated }) ∧
        s'.debugAssertions = s.debugAssertions := by
  refine Ends.resolve_bind fun _ hst' => ?_
  cases hk.symm.trans hst'
  refine Ends.get_bind ?_
  dsimp only
  split
  · exact Ends.pure ⟨⟨_, hk⟩, rfl⟩
  · split
    · exact Ends.pure ⟨⟨_, hk⟩, rfl⟩
    · refine Ends.bind fun u s₁ halloc => Ends.pure ?_
      obtain ⟨_, _, hresolve, halloc⟩ := bind_eq_some halloc
      obtain ⟨-, rfl⟩ := resolve_some.mp hresolve
      obtain ⟨total, s₂, hadd, halloc⟩ := bind_eq_some halloc
      obtain rfl : s₂ = s := Chains.same.addU32 _ _ _ _ _ hadd
      obtain ⟨_, s₃, hup, hmodify⟩ := bind_eq_some halloc
      cases hmodify
      obtain ⟨st₃, hst₃, rfl⟩ := update_some.mp hup
      cases hk.symm.trans hst₃
      exact ⟨⟨total, Inner.get?_put hk { st with connectionWindowAllocated := total } rfl⟩, rfl⟩

theorem popDataFrame_passes (hk : s.get? k = some st) (hst : st.Bare s.debugAssertions)
    (maxFrameSize : Nat) (frame : Data) :
    Passes s (popDataFrame k maxFrameSize frame) fun _ => PostedAt k := by
  refine Passes.lift_bind fun _ s₁ hresolve => ?_
  obtain ⟨hst', rfl⟩ := resolve_some.mp hresolve
  cases hk.symm.trans hst'
  cases hrem : st.remainingDataLen with
  | none => exact Passes.pure (.of_get hk (hst.posted hrem))
  | some rem =>
    dsimp only
    split
    · exact popEmptyDataFrame_passes hk hst frame
    · split
      · refine Passes.lift_bind fun u s₁ hspa => Passes.lift_bind fun u s₂ hpush => Passes.pure ?_
        obtain ⟨hsame, hdebug⟩ := modifySpa_some (k := k) hspa
        obtain ⟨hk', hdebug'⟩ := pushFrontSend_some hpush (hsame.trans hk)
        exact .of_get hk' (hdebug'.trans hdebug ▸ hst.restored frame)
      · refine Passes.lift_bind fun b s₁ hflow => ?_
        obtain ⟨⟨allocated, hk₁⟩, hdebug⟩ := tryAllocateStreamFlow_ends hk _ _ _ _ hflow
        have hbare : Stream.Bare s₁.debugAssertions { st with connectionWindowAllocated := allocated } :=
          hdebug ▸ hst.spent st.sendFlow allocated st.remainingDataLen
        cases b with
        | true => exact emitData_passes hk₁ hbare _ _ _ _
        | false =>
          refine Passes.lift_bind fun u s₂ hpush => Passes.lift_bind fun b s₃ hcapacity => Passes.pure ?_
          obtain ⟨hk₂, hdebug₂⟩ := pushFrontSend_some hpush hk₁
          have hposted := hbare.restored frame
          intro st₃ hk₃
          rw [M.push_debug hcapacity, hdebug₂]
          obtain ⟨_, hst₂, ⟨-, -, rfl⟩ | ⟨-, -, hf⟩⟩ := M.push_some hcapacity
          · cases hk₂.symm.trans hk₃
            exact hposted
          · obtain ⟨key, hself⟩ := hf.get_self hk₂
            cases hself.symm.trans hk₃
            exact (hposted.flagged (by decide) _ _).link _ _

omit [HeaderPlz] [StoreCrates] in
theorem spares {K : Scope} {busy : Key → Prop} (hpops : ∀ k, ¬K.pops k) (hopens : ∀ k, ¬K.opens k) :
    K.Spares busy := by
  rintro k (hno | ⟨hno, -⟩)
  · exact absurd hno (hpops k)
  · exact absurd hno (hopens k)

theorem PostedAt.moves {s' : Inner} {K : Scope} (h : PostedAt k s) (hpops : ∀ k, ¬K.pops k)
    (hopens : ∀ k, ¬K.opens k) (hmoves : Moves K s s') (hshaped : s.Each fun _ st => st.Shaped) :
    PostedAt k s' := by
  intro st' hk'
  have hothers : s.Posted fun j => j ≠ k := fun j stj hj => by
    rcases Classical.em (j = k) with rfl | hne
    · exact Or.inr (h stj hj)
    · exact Or.inl hne
  have hafter := hmoves.posted (spares hpops hopens) hshaped hothers
  exact (hafter k st' hk').resolve_left (fun hne => hne rfl)

theorem PostedAt.beside {s' : Inner} (h : PostedAt k s) (hmoves : Moves .none s s')
    (hshaped : s.Each fun _ st => st.Shaped) : PostedAt k s' :=
  h.moves (fun _ hno => hno) (fun _ hno => hno) hmoves hshaped

omit [StoreCrates] in
theorem closed_posted {debug : Bool} {state : State} (hst : st.Posted debug) (hdry : st.hasData = false)
    (hlast : st.hasHeaders = false) (hstreaming : st.state.isSendStreaming = true) :
    Stream.Posted debug { st with state := state } := by
  have hlive : st.state.isClosed = false := by
    cases hstate : st.state <;> rw [hstate] at hstreaming <;> first | rfl | cases hstreaming
  refine ⟨fun hdata => ?_, fun _ hheaders => ?_, hst.single, hst.last, fun hheld => ?_, fun hd hq => ?_, hst.apart⟩
  · exact absurd (show st.hasData = true from hdata) (by simp [hdry])
  · exact absurd (show st.hasHeaders = true from hheaders) (by simp [hlast])
  · rcases hst.held hheld with hdata | hclosed
    · exact absurd hdata (by simp [hdry])
    · exact absurd hclosed (by simp [hlive])
  · exact Or.inl ((hst.queued hd hq).resolve_right (by simp [hlive]))

theorem nextHeaders_passes {header : Headers} {rest : List Frame} (hst : st.Due s.debugAssertions)
    (hqueue : st.pendingSend = .headers header :: rest)
    (hk : s.get? k = some { st with pendingSend := rest }) (hshaped : s.Each fun _ st => st.Shaped) :
    Passes s (do
      let st ← resolve k
      M.when st.remainingDataLen.isSome (Send.tryAssignCapacity k)
      if st.isSendingTrailer then sendClose k else pure ()
      pure (some (Frame.headers header))) fun _ => PostedAt k := by
  refine Passes.lift_bind fun _ s₁ hresolve => ?_
  obtain ⟨hst', rfl⟩ := resolve_some.mp hresolve
  cases hk.symm.trans hst'
  refine Passes.lift_bind fun u s₂ hassign => ?_
  have hmoves : Moves .none s s₂ := Moves.chains.when _ (Moves.tryAssignCapacity _) _ _ _ hassign
  have hposted := (PostedAt.of_get hk (hst.taken hqueue rfl)).beside hmoves hshaped
  split
  · rename_i htrailer
    have htrailer : st.isSendingTrailer = true := htrailer
    have hheaders : st.hasHeaders = true := by simp [Stream.hasHeaders, hqueue, Frame.isHeaders]
    have hstreaming := hst.streaming (hst.posted.trailers htrailer hheaders) (by simp [hqueue])
    have hsame : ∀ st₂, s₂.get? k = some st₂ → st₂.state = st.state ∧ st₂.pendingSend = rest := by
      intro st₂ hk₂
      have hcore := hmoves.core hk hk₂
      simp only [Stream.core, Prod.mk.injEq] at hcore
      exact ⟨hcore.1, hcore.2.1⟩
    have hclosing : ∀ st₂, s₂.get? k = some st₂ → st₂.state.isSendStreaming = true :=
      fun st₂ hk₂ => (hsame st₂ hk₂).1 ▸ hstreaming
    refine Passes.bind (sendClose_passes hclosing) fun _ s' _ hclose => Passes.pure ?_
    obtain ⟨st₂, state, hk₂, rfl⟩ := hclose
    refine .of_get (Inner.get?_put hk₂ { st₂ with state := state } rfl) ?_
    refine closed_posted (hposted st₂ hk₂) ?_ ?_ (hclosing st₂ hk₂)
    · have hdry := hst.shaped.dry_of_trailer htrailer
      rw [Stream.hasData, hqueue] at hdry
      rw [Stream.hasData, (hsame st₂ hk₂).2]
      simpa [Frame.isData] using hdry
    · have hlast := hst.posted.last htrailer
      rw [hqueue] at hlast
      rw [List.filter_cons_of_pos (by rfl), List.length_cons] at hlast
      have hnone := List.eq_nil_of_length_eq_zero (Nat.le_zero.mp (Nat.le_of_succ_le_succ hlast))
      rw [Stream.hasHeaders, (hsame st₂ hk₂).2]
      simpa using hnone
  · exact Passes.pure hposted

theorem nextFrame_passes (hk : s.get? k = some st) (hst : st.Due s.debugAssertions)
    (hshaped : s.Each fun _ st => st.Shaped) (maxFrameSize : Nat) {b : Bool} (hb : b = true → s.Lingers k) :
    Passes s (nextFrame k maxFrameSize b) fun _ => PostedAt k := by
  refine Passes.lift_bind fun o s₁ hpop => ?_
  have hpopped : Moves .unborn s s₁ := Moves.popFrontSend (K := .unborn) trivial _ _ _ hpop
  rcases Moves.popFrontSend_ends hk _ _ hpop with ⟨rfl, hempty, rfl⟩ | ⟨frame, rest, rfl, hqueue, hk₁⟩
  · refine Passes.lift_bind fun _ s₂ hresolve => ?_
    obtain ⟨hst', rfl⟩ := resolve_some.mp hresolve
    cases hk.symm.trans hst'
    cases hscheduled : st.state.getScheduledReset with
    | some reason =>
      refine Passes.lift_bind fun u s₃ hup => Passes.pure ?_
      obtain ⟨st', hst', rfl⟩ := update_some.mp hup
      cases hk.symm.trans hst'
      have hturn : Turn { Scope.none with closes := fun _ => True } s₁.counts.role k .plain st
          (st.setReset reason .library) :=
        .reset trivial reason .library (by decide) (Or.inr hscheduled) st.pendingSend st.remainingDataLen
          (Or.inl hempty) (Or.inr ⟨rfl, rfl⟩)
      exact .of_get (Inner.get?_put hk (st.setReset reason .library) rfl)
        (hturn.posted (fun hno => hno) hst.shaped hst.posted)
    | none =>
      refine Passes.lift_bind fun s₃ s₄ hget => ?_
      obtain ⟨rfl, rfl⟩ := get_some.mp hget
      split
      · rename_i hfails
        rw [Bool.and_eq_true] at hfails
        have hclosed := (hst.ready hfails.1).resolve_left (fun hne => hne hempty)
        simp [hclosed] at hfails
      · refine Passes.lift_bind fun u s₅ hafter => Passes.pure ?_
        exact (PostedAt.of_get hk hst.posted).beside (Moves.transitionAfter hb _ _ hafter) hshaped
  · have hshaped₁ := hpopped.shaped hshaped
    rw [← hpopped.debug] at hst
    cases frame with
    | data data => exact popDataFrame_passes hk₁ (hst.bare hqueue) _ _
    | headers header => exact nextHeaders_passes hst hqueue hk₁ hshaped₁
    | reset frame => exact Passes.pure (.of_get hk₁ (hst.taken hqueue rfl))

structure Servable (s : Inner) : Prop where
  shaped : s.Each fun _ st => st.Shaped
  posted : s.Posted fun _ => False

theorem Servable.beside {s' : Inner} (hs : Servable s) {K : Scope} (hK : K.Spares fun _ => False)
    (h : Moves K s s') : Servable s' := ⟨h.shaped hs.shaped, h.posted hK hs.shaped hs.posted⟩

theorem due_of_pop {s₀ s₁ : Inner} {u : Unit} {st₀ : Stream} (hs : Servable s)
    (hpop : M.pop .send s = some (some k, s₀)) (hk₀ : s₀.get? k = some st₀)
    (hclear : M.when (st₀.state.isRemoteReset || st₀.state.getScheduledReset == some Reason.CANCEL)
      (Send.clearStreamQueue k) s₀ = some (u, s₁)) (hs₁ : Servable s₁) :
    ∃ st₁, s₁.get? k = some st₁ ∧ st₁.Due s₁.debugAssertions := by
  rcases pop_some hpop with ⟨hno, -⟩ | ⟨_, st, _, hsome, hk, -, hf⟩
  · cases hno
  cases hsome
  obtain ⟨key, hself⟩ := hf.get_self hk
  cases hself.symm.trans hk₀
  have hold := (hs.posted k st hk).resolve_left fun hno => hno
  have hdebug : s₀.debugAssertions = s.debugAssertions := M.pop_debug hpop
  have hready : s.debugAssertions = true → st.pendingSend ≠ [] ∨ st.state.isClosed = true :=
    fun hd => hold.queued hd (Or.inl (M.pop_asserted hpop hk hd))
  have hopening : s.debugAssertions = true → st.isPendingOpen = false :=
    fun hd => hold.apart hd (M.pop_asserted hpop hk hd)
  rcases when_some.mp hclear with ⟨hcancel, hclear⟩ | ⟨hkeep, rfl⟩
  · have hk₁ := Moves.clearStreamQueue_some hclear hk₀
    have hdebug₁ : s₁.debugAssertions = s.debugAssertions := by
      rw [Moves.clearStreamQueue_eq hclear hk₀, ← hdebug]
      rfl
    refine ⟨_, hk₁, ⟨⟨rfl, fun hd => hopening (hdebug₁ ▸ hd)⟩, ?_, hs₁.shaped k _ hk₁, fun _ hne => ?_, fun _ => ?_⟩⟩
    · exact (hs₁.posted k _ hk₁).resolve_left fun hno => hno
    · exact absurd rfl hne
    · exact Or.inr (Moves.isClosed_of_clear hcancel)
  · refine ⟨_, hk₀, ⟨⟨rfl, fun hd => hopening (hdebug ▸ hd)⟩, ?_, hs₁.shaped k _ hk₀, fun hposts _ => ?_,
      fun hd => hready (hdebug ▸ hd)⟩⟩
    · exact (hs₁.posted k _ hk₀).resolve_left fun hno => hno
    · rw [Bool.or_eq_false_iff] at hkeep
      rcases hposts with hstreaming | hreset | hscheduled
      · exact hstreaming
      · rw [hkeep.1] at hreset
        cases hreset
      · rw [hscheduled] at hkeep
        simp at hkeep

theorem Servable.cleared {s₀ s₁ : Inner} {u : Unit} {st₀ : Stream} (hs : Servable s)
    (hpop : M.pop .send s = some (some k, s₀)) (hk₀ : s₀.get? k = some st₀)
    (hclear : M.when (st₀.state.isRemoteReset || st₀.state.getScheduledReset == some Reason.CANCEL)
      (Send.clearStreamQueue k) s₀ = some (u, s₁)) :
    Servable s₁ ∧ (st₀.isPendingResetExpiration = true → s₁.Lingers k) ∧
      ∃ st₁, s₁.get? k = some st₁ ∧ st₁.Due s₁.debugAssertions := by
  have hpopped : Moves .unborn s s₀ := Moves.pop (by decide) (fun _ _ => trivial) _ _ _ hpop
  have hs₀ : Servable s₀ := ⟨hpopped.shaped hs.shaped, hs.posted.pop hpop⟩
  let K : Scope := { Scope.none with closes := (· = k) }
  have hcleared : Moves K s₀ s₁ := Moves.clearBeforePop (K := K) rfl hk₀ _ _ hclear
  have hs₁ : Servable s₁ := hs₀.beside (spares (fun _ hno => hno) fun _ hno => hno) hcleared
  refine ⟨hs₁, fun hpending => Moves.lingers (K := K) hcleared fun st' hk' => ?_,
    due_of_pop hs hpop hk₀ hclear hs₁⟩
  cases hk₀.symm.trans hk'
  exact hpending

/-- Only the stream that is served changes in a way that the others cannot. -/
theorem Servable.served {s' : Inner} {frame : Option Frame} {maxFrameSize : Nat} {b : Bool} (hs : Servable s)
    (hk : s.get? k = some st) (hb : b = true → s.Lingers k)
    (hframe : Send.nextFrame k maxFrameSize b s = some (frame, s')) (hposted : PostedAt k s') : Servable s' := by
  let K : Scope := { Scope.none with closes := (· = k), pops := (· = k) }
  have hmoved : Moves K s s' :=
    Moves.nextFrame (K := K) rfl rfl hk (hs.shaped k st hk) maxFrameSize hb _ _ hframe
  refine ⟨hmoved.shaped hs.shaped, fun j stj hj => Or.inr ?_⟩
  have hbusy : K.Spares (· = k) := by
    rintro j (hj | ⟨hno, -⟩)
    · exact hj
    · cases hno
  rcases hmoved.posted hbusy hs.shaped (fun j stj hj => Or.inr ((hs.posted j stj hj).resolve_left
    fun hno => hno)) j stj hj with rfl | hother
  · exact hposted stj hj
  · exact hother

theorem popFrameLoop_passes (maxFrameSize n : Nat) (hs : Servable s) :
    Passes s (popFrameLoop maxFrameSize n) fun _ => Servable := by
  induction n generalizing s with
  | zero => exact Passes.lift fun _ _ h => by cases h
  | succ n ih =>
    refine Passes.lift_bind fun o s₀ hpop => ?_
    cases o with
    | none =>
      have hpopped : Moves .unborn s s₀ := Moves.pop (by decide) (fun _ _ => trivial) _ _ _ hpop
      exact Passes.pure ⟨hpopped.shaped hs.shaped, hs.posted.pop hpop⟩
    | some k =>
      refine Passes.lift_bind fun st₀ s₀' hresolve => ?_
      obtain ⟨hk₀, rfl⟩ := resolve_some.mp hresolve
      refine Passes.lift_bind fun u s₁ hclear => ?_
      obtain ⟨hs₁, hlingers, st₁, hk₁, hdue⟩ := hs.cleared hpop hk₀ hclear
      refine Passes.bind (nextFrame_passes hk₁ hdue hs₁.shaped maxFrameSize hlingers)
        fun frame s₂ hframe hposted => ?_
      rw [erase_nextFrame] at hframe
      have hs₂ := hs₁.served hk₁ hlingers hframe hposted
      cases frame with
      | none => exact ih hs₂
      | some frame =>
        refine Passes.lift_bind fun u s₃ hrequeue => Passes.lift_bind fun u s₄ hafter => Passes.pure ?_
        let K : Scope := { Scope.none with closes := (· = k), pops := (· = k) }
        have hmoved : Moves K s₁ s₂ := Moves.nextFrame (K := K) rfl rfl hk₁ hdue.shaped maxFrameSize hlingers _ _ hframe
        have hrequeued : Moves .none s₂ s₃ := Moves.requeue k _ _ _ hrequeue
        have hs₃ := hs₂.beside (spares (fun _ hno => hno) fun _ hno => hno) hrequeued
        refine hs₃.beside (spares (fun _ hno => hno) fun _ hno => hno)
          (Moves.transitionAfter (K := .none) (fun hyes => ?_) _ _ hafter)
        exact Moves.lingers (K := Scope.none) hrequeued (Moves.lingers (K := K) hmoved (hlingers hyes))

theorem popPendingOpen_ends (hs : Servable s) :
    Ends s Send.popPendingOpen fun o s' => s'.debugAssertions = s.debugAssertions ∧
      ∀ k st, o = some k → s'.get? k = some st → s.debugAssertions = true →
        (st.pendingSend ≠ [] ∨ st.state.isClosed = true) ∧ st.isPendingOpen = false := by
  refine Ends.get_bind ?_
  split
  · refine Ends.bind fun o s₁ hpop => ?_
    cases o with
    | none => exact Ends.pure ⟨M.pop_debug hpop, fun _ _ hno => by cases hno⟩
    | some k =>
      have hdebug : s₁.debugAssertions = s.debugAssertions := M.pop_debug hpop
      refine Ends.bind fun u s₂ hinc => Ends.pure ?_
      rcases pop_some hpop with ⟨hno, -⟩ | ⟨_, st, _, hsome, hk, -, hf⟩
      · cases hno
      cases hsome
      obtain ⟨key, hk₁⟩ := hf.get_self hk
      obtain ⟨_, _, hget, hinc⟩ := bind_eq_some hinc
      obtain ⟨rfl, rfl⟩ := get_some.mp hget
      obtain ⟨_, _, hroom, hinc⟩ := bind_eq_some hinc
      obtain ⟨-, rfl⟩ := assert_some.mp hroom
      obtain ⟨_, _, hresolve, hinc⟩ := bind_eq_some hinc
      obtain ⟨hst, rfl⟩ := resolve_some.mp hresolve
      obtain ⟨_, _, hassert, hinc⟩ := bind_eq_some hinc
      obtain ⟨-, rfl⟩ := assert_some.mp hassert
      obtain ⟨_, _, hset, hup⟩ := bind_eq_some hinc
      obtain rfl := set_some.mp hset
      obtain ⟨st', hst', rfl⟩ := update_some.mp hup
      cases hk₁.symm.trans hst'
      refine ⟨hdebug, fun j stj hj hk' hd => ?_⟩
      cases hj
      cases (Inner.get?_put hk₁ { (st.setQueued .opening s.now false).setNext .opening key with isCounted := true }
        rfl).symm.trans hk'
      have hold := (hs.posted k st hk).resolve_left fun hno => hno
      exact ⟨hold.queued hd (Or.inr (M.pop_asserted hpop hk hd)), rfl⟩
  · exact Ends.pure ⟨rfl, fun _ _ hno => by cases hno⟩

theorem Servable.opened {s₁ s₂ : Inner} {o : Option Key} {u : Unit} (hs : Servable s)
    (own : ∀ k tail, s.send.pendingOpen.indices = some ⟨k, tail⟩ →
      s.counts.role.isLocalInit k.streamId = true)
    (hopen : Send.popPendingOpen s = some (o, s₁))
    (hpush : M.whenSome o (fun k => do let _ ← M.pushFront .send k) s₁ = some (u, s₂)) : Servable s₂ := by
  have hopened : Moves .none s s₁ := Moves.popPendingOpen own _ _ hopen
  have hs₁ := hs.beside (spares (fun _ hno => hno) fun _ hno => hno) hopened
  obtain ⟨hdebug, hready⟩ := popPendingOpen_ends hs _ _ hopen
  rcases whenSome_some.mp hpush with ⟨k, rfl, hpush⟩ | ⟨-, rfl⟩
  · obtain ⟨b, s₃, hpush, hpure⟩ := bind_eq_some hpush
    cases hpure
    have hpushed : Moves .unborn s₁ s₂ := Moves.pushFront (K := .unborn) trivial _ _ _ hpush
    refine ⟨hpushed.shaped hs₁.shaped, ?_⟩
    obtain ⟨_, _, ⟨-, -, rfl⟩ | ⟨-, -, hf⟩⟩ := pushFront_some hpush
    · exact hs₁.posted
    · refine hs₁.posted.flagged hf fun st hk _ hold => ?_
      have hst := fun hd => hready k st rfl hk (hdebug ▸ hd)
      exact ⟨hold.body, hold.trailers, hold.single, hold.last, hold.held, fun hd _ => (hst hd).1,
        fun hd _ => (hst hd).2⟩
  · exact hs₁

theorem pollCompleteRound_passes (maxFrameSize : Nat) (hs : Servable s)
    (own : ∀ k tail, s.send.pendingOpen.indices = some ⟨k, tail⟩ →
      s.counts.role.isLocalInit k.streamId = true) :
    Passes s (pollCompleteRound maxFrameSize) fun _ => Servable := by
  refine Passes.lift_bind fun o s₁ hopen => Passes.lift_bind fun u s₂ hpush => ?_
  refine Passes.lift_bind fun s₃ s₄ hget => ?_
  obtain ⟨rfl, rfl⟩ := get_some.mp hget
  exact popFrameLoop_passes _ _ (hs.opened own hopen hpush)

end Send.Asserting

end TwoPlz
