import TwoPlz.ReceiveWindow

/-! This endpoint and a peer that keeps to its send window: whether the two sides agree on the
connection window of the receiver. -/

namespace TwoPlz

structure WireData where
  id : Nat
  flags : UInt8
  payload : Bytes

section

variable [HeaderPlz] [StoreCrates]

/-- `window` is the send window of the peer, `data` are the DATA frames on their way to this side and
`updates` the increments on their way to the peer. -/
structure Pair where
  connection : Connection
  window : Int
  data : List WireData
  updates : List Nat

inductive PairInput : Type
  /-- Anything that this side does besides receiving DATA. -/
  | event (e : Event)
  | sendData (frame : WireData)
  | deliverData
  | deliverUpdate

namespace Pair

def new (role : Role) (config : ConnectionConfig) (debugAssertions : Bool) : Pair where
  connection := Connection.new role config debugAssertions
  window := DEFAULT_INITIAL_WINDOW_SIZE
  data := []
  updates := []

def next (p : Pair) : PairInput → Option Pair
  | .event (.recvData _) => none
  | .event e =>
    (p.connection.next e).map fun c =>
      { p with connection := c, updates := p.updates ++ (p.connection.increment e).toList }
  | .sendData frame =>
    if (frame.payload.length : Int) ≤ p.window then
      some { p with window := p.window - frame.payload.length, data := p.data ++ [frame] }
    else none
  | .deliverData =>
    match p.data with
    | [] => none
    | frame :: rest =>
      (p.connection.recvWireData frame.id frame.flags frame.payload).map fun c =>
        { p with connection := c, data := rest }
  | .deliverUpdate =>
    match p.updates with
    | [] => none
    | n :: rest => some { p with window := p.window + n, updates := rest }

/-- The DATA frame that arrives has no padding and is for a stream that is, or was, in the store. -/
def DeliversSeen (p : Pair) : PairInput → Prop
  | .deliverData =>
    ∀ frame ∈ p.data.head?, frame.flags &&& PADDED = 0 ∧ p.connection.streams.Seen frame.id
  | _ => True

inductive Run (ok : Pair → PairInput → Prop) (p₀ : Pair) : Option PairInput → Pair → Prop
  | start : Run ok p₀ none p₀
  | step {last : Option PairInput} {p p' : Pair} {input : PairInput} (run : Run ok p₀ last p)
      (hok : ok p input) (hnext : p.next input = some p') : Run ok p₀ (some input) p'

def dataLen (p : Pair) : Nat := (p.data.map (·.payload.length)).sum

/-- What the peer may still send once everything under way has arrived. -/
def credit (p : Pair) : Int := p.window + p.updates.sum

structure Agrees (p : Pair) : Prop where
  window : p.connection.streams.recv.flow.window = p.credit + p.dataLen
  capacity : p.connection.streams.recv.flow.capacity = DEFAULT_INITIAL_WINDOW_SIZE
  nonneg : 0 ≤ p.window
  bound : p.connection.streams.recv.flow.window ≤ DEFAULT_INITIAL_WINDOW_SIZE
  enough : p.connection.streams.recv.checkConnectionWindowUpdate = false →
    DEFAULT_INITIAL_WINDOW_SIZE / 2 < p.connection.streams.recv.flow.window

end Pair

/-! Polling for a window update. -/

omit [HeaderPlz] [StoreCrates] in
theorem shouldSendWindowUpdate_none {f : FlowControl} (hcap : 0 < f.capacity)
    (h : f.shouldSendWindowUpdate = none) : f.capacity / 2 < f.window := by
  have htdiv : f.capacity.tdiv 2 = f.capacity / 2 := Int.tdiv_eq_ediv_of_nonneg (by omega)
  simp only [FlowControl.shouldSendWindowUpdate, htdiv] at h
  split at h
  · omega
  · split at h
    · omega
    · cases h

omit [HeaderPlz] [StoreCrates] in
theorem shouldSendWindowUpdate_some {f : FlowControl} {n : Nat} (hcap : f.capacity ≤ I32_MAX)
    (hwin : 0 ≤ f.window) (h : f.shouldSendWindowUpdate = some n) :
    (f.incWindowOrKeep n).window = f.window + n ∧ (f.incWindowOrKeep n).window = f.capacity ∧
      (f.incWindowOrKeep n).capacity = f.capacity := by
  simp only [FlowControl.shouldSendWindowUpdate] at h
  split at h
  · cases h
  · rename_i hlt
    split at h
    · cases h
    · cases h
      have hsz : asI32 (f.capacity - f.window).toNat = f.capacity - f.window := by
        rw [asI32_of_lt (by simp only [I32_MAX] at hcap; omega)]
        omega
      have hv : f.window + asI32 (f.capacity - f.window).toNat = f.capacity := by omega
      have hno : ¬((f.capacity < I32_MIN ∨ I32_MAX < f.capacity) ∨ f.capacity > MAX_WINDOW_SIZE) := by
        simp only [I32_MIN, I32_MAX, MAX_WINDOW_SIZE] at hcap ⊢
        omega
      simp only [FlowControl.incWindowOrKeep, FlowControl.incWindow, hv, if_neg hno]
      exact ⟨by omega, trivial, trivial⟩

variable {s s' : Inner} {c c' : Connection} {ready : Bool} {p p' : Pair}

theorem pollStreamWindowUpdate_ready :
    Yields (fun r => r ≠ none) (Inner.pollStreamWindowUpdate true) := by
  refine .bind_any fun s => ?_
  split
  · exact .pure (by simp)
  · refine .bind_any fun st => ?_
    split
    · exact .pure (by simp)
    · rw [if_neg (by simp)]
      exact .bind_any fun _ => .bind_any fun _ => .pure (by simp)

theorem pollWindowUpdate_credit {r : Option Nat × Option WindowUpdate}
    (h : Inner.pollWindowUpdate ready s = some (r, s')) (hcap : 0 < s.recv.flow.capacity)
    (hmax : s.recv.flow.capacity ≤ I32_MAX) (hwin : 0 ≤ s.recv.flow.window) :
    s'.recv.flow.window = s.recv.flow.window + (r.1.getD 0 : Nat) ∧
      s'.recv.flow.capacity = s.recv.flow.capacity ∧
      (s'.recv.flow = s.recv.flow ∨ s'.recv.flow.window = s.recv.flow.capacity) ∧
      (s.recv.checkConnectionWindowUpdate = true → s.recv.flow.capacity / 2 < s'.recv.flow.window) ∧
      (ready = true → s'.recv.checkConnectionWindowUpdate = false) := by
  simp only [Inner.pollWindowUpdate, M.bind_some, M.get_some] at h
  obtain ⟨_, _, ⟨rfl, rfl⟩, h⟩ := h
  split at h
  · rename_i hoff
    obtain ⟨rfl, rfl⟩ := M.pure_some.mp h
    have hcheck : s.recv.checkConnectionWindowUpdate = false := by simpa using hoff
    exact ⟨by simp, rfl, Or.inl rfl, fun hon => absurd hon (by simp [hcheck]), fun _ => hcheck⟩
  · simp only [M.bind_some] at h
    obtain ⟨_, s₁, hsize, updated, s₂, hstream, h⟩ := h
    have hsame : SameFlow s₁ s₂ := sameFlow_blind.pollStreamWindowUpdate _ _ _ _ hstream
    have hdone : ready = true → updated ≠ none := by
      rintro rfl
      exact pollStreamWindowUpdate_ready _ _ _ hstream
    -- the connection half
    have hconn : s₁.recv.flow.window =
          s.recv.flow.window + (s.recv.flow.shouldSendWindowUpdate.getD 0 : Nat) ∧
        s₁.recv.flow.capacity = s.recv.flow.capacity ∧
        (s₁.recv.flow = s.recv.flow ∨ s₁.recv.flow.window = s.recv.flow.capacity) ∧
        s.recv.flow.capacity / 2 < s₁.recv.flow.window := by
      rcases M.whenSome_some.mp hsize with ⟨size, hsome, hset⟩ | ⟨hnone, rfl⟩
      · obtain rfl := M.set_some.mp hset
        obtain ⟨hinc, hfull, hsamecap⟩ := shouldSendWindowUpdate_some hmax hwin hsome
        rw [hsome]
        refine ⟨hinc, hsamecap, Or.inr hfull, lt_of_lt_of_eq ?_ hfull.symm⟩
        omega
      · rw [hnone]
        exact ⟨by simp, rfl, Or.inl rfl, shouldSendWindowUpdate_none hcap hnone⟩
    rw [← hsame.flow] at hconn
    obtain ⟨hwindow, hcapacity, hflow, henough⟩ := hconn
    cases updated with
    | none =>
      obtain ⟨rfl, rfl⟩ := M.pure_some.mp h
      exact ⟨hwindow, hcapacity, hflow, fun _ => henough, fun hready => absurd rfl (hdone hready)⟩
    | some u =>
      simp only [M.bind_some, M.modify_some, M.pure_some] at h
      obtain ⟨_, _, rfl, rfl, rfl⟩ := h
      exact ⟨hwindow, hcapacity, hflow, fun _ => henough, fun _ => rfl⟩

/-! Agreement. -/

namespace Pair

theorem new_agrees {role : Role} {config : ConnectionConfig} {debugAssertions : Bool}
    (h : config.initialConnectionWindowSize.getD DEFAULT_INITIAL_WINDOW_SIZE =
      DEFAULT_INITIAL_WINDOW_SIZE) : (new role config debugAssertions).Agrees := by
  have hflow : (new role config debugAssertions).connection.streams.recv.flow =
      FlowControl.new DEFAULT_INITIAL_WINDOW_SIZE := by
    change FlowControl.new _ = _
    rw [h]
  refine ⟨?_, ?_, ?_, ?_, fun _ => ?_⟩
  · rw [hflow]
    rfl
  · rw [hflow]
    rfl
  · exact Int.natCast_nonneg _
  · rw [hflow]
    decide
  · rw [hflow]
    decide

theorem Agrees.same (h : p.Agrees) (hsame : SameFlow p.connection.streams c.streams) :
    ({ p with connection := c } : Pair).Agrees where
  window := by
    rw [hsame.flow]
    exact h.window
  capacity := by
    rw [hsame.flow]
    exact h.capacity
  nonneg := h.nonneg
  bound := by
    rw [hsame.flow]
    exact h.bound
  enough hoff := by
    rw [hsame.flow]
    refine h.enough (Bool.eq_false_iff.mpr fun hon => ?_)
    exact absurd (hsame.check hon) (Bool.eq_false_iff.mp hoff)

theorem next_sameFlow {e : Event} (h : c.next e = some c') (hdata : ∀ f, e ≠ .recvData f)
    (hpoll : ∀ ready, e ≠ .pollWindowUpdate ready) : SameFlow c.streams c'.streams := by
  by_cases hset : ∃ settings, e = .applyRemoteSettings settings
  · obtain ⟨settings, rfl⟩ := hset
    exact Connection.keeps_recv (sameFlow_blind.applyRemoteSettings _)
      (Option.ite_none_right_eq_some.mp h).2
  · exact sameFlow_blind.next h hdata hpoll fun settings heq => hset ⟨settings, heq⟩

theorem Agrees.poll (h : p.Agrees) (hnext : p.connection.next (.pollWindowUpdate ready) = some c') :
    ({ p with
        connection := c'
        updates := p.updates ++ (p.connection.increment (.pollWindowUpdate ready)).toList } : Pair).Agrees := by
  obtain ⟨hpolling, hpoll⟩ := Option.ite_none_right_eq_some.mp hnext
  obtain ⟨r, s', hrun, rfl⟩ := Connection.run_some hpoll
  have hcap := h.capacity
  have hcred : 0 ≤ p.connection.streams.recv.flow.window := by
    have hnonneg := h.nonneg
    rw [h.window, credit]
    omega
  obtain ⟨hwindow, hcapacity, hflow, henough, -⟩ := pollWindowUpdate_credit hrun
    (by rw [hcap]; decide) (by rw [hcap]; decide) hcred
  have hinc : p.connection.increment (.pollWindowUpdate ready) = r.1 := by
    simp only [Connection.increment, hpolling, if_true, hrun, Option.bind_some]
  rw [hinc]
  refine ⟨?_, hcapacity.trans hcap, h.nonneg, ?_, fun hoff => ?_⟩
  · have hold := h.window
    have hsum : (p.updates ++ r.1.toList).sum = p.updates.sum + r.1.getD 0 := by
      cases r.1 with
      | none => simp
      | some n => simp
    simp only [credit, dataLen, hsum] at hold ⊢
    simp only [Int.natCast_add]
    omega
  · rcases hflow with hflow | hflow
    · exact hflow ▸ h.bound
    · exact le_of_eq (hflow.trans hcap)
  · by_cases hon : p.connection.streams.recv.checkConnectionWindowUpdate = true
    · have hlow := henough hon
      rw [hcap] at hlow
      exact hlow
    · have hlow := h.enough (by simpa using hon)
      rcases hflow with hflow | hflow
      · exact hflow ▸ hlow
      · change _ < s'.recv.flow.window
        rw [hflow, hcap]
        decide

theorem Agrees.deliver {frame : WireData} {rest : List WireData} (h : p.Agrees)
    (hdata : p.data = frame :: rest) (hpad : frame.flags &&& PADDED = 0)
    (hseen : p.connection.streams.Seen frame.id)
    (hnext : p.connection.recvWireData frame.id frame.flags frame.payload = some c') :
    ({ p with connection := c', data := rest } : Pair).Agrees := by
  have hnonneg := h.nonneg
  have hbound := h.bound
  have hwindow := h.window
  have hlen : p.dataLen = frame.payload.length + (rest.map (·.payload.length)).sum := by
    simp [dataLen, hdata]
  simp only [Connection.recvWireData, load_unpadded hpad hseen.1] at hnext
  obtain ⟨res, hrun, -⟩ := Connection.next_recvData hnext
  have hdeb := innerRecvData_debits hrun
  simp only at hdeb
  rw [if_neg fun hno => hseen.2.elim (fun hfind => hfind hno.1) fun hle => absurd hle.1 (by omega)] at hdeb
  rcases hdeb with ⟨hdeb, hcheck⟩ | ⟨-, -, hroom⟩
  · refine ⟨?_, hdeb.capacity.trans h.capacity, hnonneg, ?_, fun hoff => absurd hcheck (Bool.eq_false_iff.mp hoff)⟩
    · have hw := hdeb.window
      simp only [credit, dataLen] at hwindow hlen ⊢
      omega
    · have hw := hdeb.window
      change c'.streams.recv.flow.window ≤ _
      omega
  · refine absurd ⟨?_, ?_⟩ (hroom hseen)
    · simp only [credit] at hwindow
      omega
    · simp only [DEFAULT_INITIAL_WINDOW_SIZE] at hbound
      simp only [I32_MAX]
      omega

theorem Agrees.next {input : PairInput} (h : p.Agrees) (hok : p.DeliversSeen input)
    (hnext : p.next input = some p') : p'.Agrees := by
  cases input with
  | event e =>
    by_cases hpoll : ∃ ready, e = .pollWindowUpdate ready
    · obtain ⟨ready, rfl⟩ := hpoll
      obtain ⟨c, hc, rfl⟩ := Option.map_eq_some_iff.mp hnext
      exact h.poll hc
    · have hdata : ∀ f, e ≠ .recvData f := by
        rintro f rfl
        cases hnext
      have hinc : p.connection.increment e = none := by
        cases e with
        | pollWindowUpdate ready => exact absurd ⟨ready, rfl⟩ hpoll
        | _ => rfl
      have hmap : (p.connection.next e).map (fun c =>
          { p with connection := c, updates := p.updates ++ (p.connection.increment e).toList }) =
            some p' := by
        cases e with
        | recvData f => exact absurd rfl (hdata f)
        | _ => exact hnext
      obtain ⟨c, hc, rfl⟩ := Option.map_eq_some_iff.mp hmap
      have hsame := h.same (next_sameFlow hc hdata fun ready hr => hpoll ⟨ready, hr⟩)
      simpa [hinc] using hsame
  | sendData frame =>
    obtain ⟨hfits, hnext⟩ := Option.ite_none_right_eq_some.mp hnext
    cases hnext
    have hwindow := h.window
    refine ⟨?_, h.capacity, ?_, h.bound, h.enough⟩
    · simp only [credit, dataLen, List.map_append, List.sum_append, List.map_cons, List.map_nil,
        List.sum_cons, List.sum_nil] at hwindow ⊢
      simp only [Int.natCast_add] at hwindow ⊢
      omega
    · change 0 ≤ p.window - _
      omega
  | deliverData =>
    cases hdata : p.data with
    | nil => simp [Pair.next, hdata] at hnext
    | cons frame rest =>
      simp only [Pair.next, hdata] at hnext
      obtain ⟨c, hc, rfl⟩ := Option.map_eq_some_iff.mp hnext
      obtain ⟨hpad, hseen⟩ := hok frame (by simp [hdata])
      exact h.deliver hdata hpad hseen hc
  | deliverUpdate =>
    cases hupdates : p.updates with
    | nil => simp [Pair.next, hupdates] at hnext
    | cons n rest =>
      simp only [Pair.next, hupdates, Option.some.injEq] at hnext
      subst hnext
      have hwindow := h.window
      have hnonneg := h.nonneg
      refine ⟨?_, h.capacity, ?_, h.bound, h.enough⟩
      · simp only [credit, dataLen, hupdates, List.sum_cons] at hwindow ⊢
        simp only [Int.natCast_add] at hwindow ⊢
        omega
      · change 0 ≤ p.window + n
        omega

theorem run_agrees {p₀ : Pair} {last : Option PairInput} (h₀ : p₀.Agrees)
    (h : Run DeliversSeen p₀ last p) : p.Agrees := by
  induction h with
  | start => exact h₀
  | step run hok hnext ih => exact ih.next hok hnext

theorem Agrees.next_poll (h : p.Agrees)
    (hnext : p.next (.event (.pollWindowUpdate true)) = some p') :
    p'.connection.streams.recv.checkConnectionWindowUpdate = false := by
  obtain ⟨c, hc, rfl⟩ := Option.map_eq_some_iff.mp hnext
  obtain ⟨r, s', hrun, rfl⟩ := Connection.run_some (Option.ite_none_right_eq_some.mp hc).2
  have hnonneg := h.nonneg
  have hwindow := h.window
  refine (pollWindowUpdate_credit hrun ?_ ?_ ?_).2.2.2.2 rfl
  · rw [h.capacity]
    decide
  · rw [h.capacity]
    decide
  · simp only [credit] at hwindow
    omega

/-- With the window that the protocol starts from, the two sides agree once everything has arrived,
and after a poll the peer has credit or gets some. -/
theorem connection_credit {role : Role} {config : ConnectionConfig} {debugAssertions : Bool}
    (hconfig : config.initialConnectionWindowSize.getD DEFAULT_INITIAL_WINDOW_SIZE =
      DEFAULT_INITIAL_WINDOW_SIZE) {last : Option PairInput} {p : Pair}
    (h : Run DeliversSeen (new role config debugAssertions) last p) :
    (p.data = [] → p.updates = [] → p.connection.streams.recv.flow.window = p.window) ∧
      (last = some (.event (.pollWindowUpdate true)) → p.data = [] → 0 < p.credit) := by
  have hagrees : p.Agrees := run_agrees (new_agrees hconfig) h
  refine ⟨fun hdata hupdates => ?_, fun hlast hdata => ?_⟩
  · simpa [credit, dataLen, hdata, hupdates] using hagrees.window
  · have hoff : p.connection.streams.recv.checkConnectionWindowUpdate = false := by
      cases h with
      | start => cases hlast
      | step run hok hnext =>
        cases hlast
        exact (run_agrees (new_agrees hconfig) run).next_poll hnext
    have henough := hagrees.enough hoff
    have hwindow := hagrees.window
    simp only [dataLen, hdata, List.map_nil, List.sum_nil] at hwindow
    simp only [DEFAULT_INITIAL_WINDOW_SIZE] at henough
    omega

end Pair

end

section

attribute [local instance] plain plainCrates

/-- A connection that is configured with a larger window never tells the peer. -/
theorem connection_credit_configured :
    ¬∀ (role : Role) (config : ConnectionConfig) (debugAssertions : Bool) (last : Option PairInput)
        (p : Pair), Pair.Run (fun _ _ => True) (Pair.new role config debugAssertions) last p →
      p.data = [] → p.updates = [] → p.connection.streams.recv.flow.window = p.window := by
  intro h
  have hno := h .client { plainConfig with initialConnectionWindowSize := some 131072 } true none _
    .start rfl rfl
  exact absurd hno (by decide)

theorem connection_credit_request :
    ∃ p : Pair, p.connection.streams.recv.flow.window = 65532 ∧ 0 < p.credit := by
  have hsent : (((Pair.new .server plainConfig true).next (.event (.recvHeaders (plainHeaders 1)))).bind
      fun p => (p.next (.sendData ⟨1, 0, [1, 2, 3]⟩)).map fun p =>
        (p.connection.streams.store.find 1, p.data)) = some (some ⟨0, 1⟩, [⟨1, 0, [1, 2, 3]⟩]) := rfl
  have hpolled : (((Pair.new .server plainConfig true).next (.event (.recvHeaders (plainHeaders 1)))).bind
      fun p => (p.next (.sendData ⟨1, 0, [1, 2, 3]⟩)).bind fun p =>
        (p.next .deliverData).bind fun p => (p.next (.event (.pollWindowUpdate true))).map fun p =>
          (p.connection.streams.recv.flow.window, p.data)) = some (65532, []) := rfl
  obtain ⟨p₁, hp₁, hrest⟩ := Option.bind_eq_some_iff.mp hpolled
  obtain ⟨p₂, hp₂, hrest⟩ := Option.bind_eq_some_iff.mp hrest
  obtain ⟨p₃, hp₃, hrest⟩ := Option.bind_eq_some_iff.mp hrest
  obtain ⟨p₄, hp₄, hrest⟩ := Option.map_eq_some_iff.mp hrest
  obtain ⟨hwindow, hdata⟩ := Prod.mk.inj hrest
  rw [hp₁, Option.bind_some, hp₂, Option.map_some, Option.some.injEq, Prod.mk.injEq] at hsent
  have hok : p₂.DeliversSeen .deliverData := by
    intro frame hframe
    rw [hsent.2] at hframe
    cases hframe
    exact ⟨rfl, by decide, Or.inl (by simp [hsent.1])⟩
  have hrun₁ : Pair.Run Pair.DeliversSeen (Pair.new .server plainConfig true) _ p₁ :=
    .step .start (by trivial) hp₁
  have hrun₂ : Pair.Run Pair.DeliversSeen (Pair.new .server plainConfig true) _ p₂ :=
    .step hrun₁ (by trivial) hp₂
  have hrun₃ : Pair.Run Pair.DeliversSeen (Pair.new .server plainConfig true) _ p₃ :=
    .step hrun₂ hok hp₃
  have hrun₄ : Pair.Run Pair.DeliversSeen (Pair.new .server plainConfig true) _ p₄ :=
    .step hrun₃ (by trivial) hp₄
  exact ⟨p₄, hwindow, (Pair.connection_credit rfl hrun₄).2 rfl hdata⟩

end

end TwoPlz
