import TwoPlz.Streams.Lines

/-! The marks of the connection: the ids that were given out, announced and processed. -/

namespace TwoPlz

variable [HeaderPlz] [StoreCrates]

def Inner.marks (s : Inner) : Role × Nat × Nat × Option Nat × Option Nat × Option SpaTracker :=
  (s.counts.role, s.recv.maxStreamId, s.recv.lastProcessedId, s.recv.nextStreamId, s.send.nextStreamId,
    s.send.spaTracker)

/-- The marks of the connection only move in favour of the streams it has. -/
structure Inner.Onward (K : Scope) (s s' : Inner) : Prop where
  role : s'.counts.role = s.counts.role
  spa : s.send.spaTracker = none → s'.send.spaTracker = none
  nextSend : NextLe s.send.nextStreamId s'.send.nextStreamId
  parity : s.counts.role.isServer = false → (∀ n, s.send.nextStreamId = some n → n % 2 = 1) →
    ∀ n, s'.send.nextStreamId = some n → n % 2 = 1
  even : s.counts.role.isServer = false → (∀ n, s.recv.nextStreamId = some n → StreamId.isServerInitiated n = true) →
    ∀ n, s'.recv.nextStreamId = some n → StreamId.isServerInitiated n = true
  nextRecv : NextLe s.recv.nextStreamId s'.recv.nextStreamId
  max : s'.recv.maxStreamId ≤ s.recv.maxStreamId
  floor : s.recv.maxStreamId ≤ s'.recv.maxStreamId ∨ s.recv.lastProcessedId ≤ s'.recv.maxStreamId
  limit : s'.recv.maxStreamId = s.recv.maxStreamId ∨ K.limits s'.recv.maxStreamId
  processed : s.recv.lastProcessedId ≤ s'.recv.lastProcessedId
  process : s'.recv.lastProcessedId = s.recv.lastProcessedId ∨
    (∃ k, K.processes k) ∧ (s.recv.lastProcessedId ≤ s'.recv.maxStreamId →
      s'.recv.lastProcessedId ≤ s'.recv.maxStreamId)

section

variable {K : Scope} {s s' : Inner} {k : Key} {st st' : Stream}

theorem Flagged.marks {n : Next} {val : Bool} (h : Flagged n k val s s') : s'.marks = s.marks := by
  rw [h.conn]
  cases n <;> rfl

theorem M.push_marks {n : Next} {b : Bool} (h : M.push n k s = some (b, s')) : s'.marks = s.marks := by
  obtain ⟨_, _, ⟨-, -, rfl⟩ | ⟨-, -, hf⟩⟩ := M.push_some h
  · rfl
  · exact hf.marks

theorem M.pop_marks {n : Next} {o : Option Key} (h : M.pop n s = some (o, s')) : s'.marks = s.marks := by
  rcases M.pop_some h with ⟨-, -, rfl⟩ | ⟨_, _, _, -, -, -, hf⟩
  · rfl
  · exact hf.marks

theorem Inner.Onward.of_marks (h : s'.marks = s.marks) : Inner.Onward K s s' := by
  simp only [Inner.marks, Prod.mk.injEq] at h
  obtain ⟨hrole, hmax, hlast, hrecv, hsend, hspa⟩ := h
  exact ⟨hrole, fun hs => hspa ▸ hs, hsend ▸ NextLe.refl _, fun _ hs => hsend ▸ hs, fun _ hs => hrecv ▸ hs,
    hrecv ▸ NextLe.refl _, Nat.le_of_eq hmax,
    Or.inl (Nat.le_of_eq hmax.symm), Or.inl hmax, Nat.le_of_eq hlast.symm, Or.inl hlast⟩

theorem Aside.onward (h : Aside s s') : Inner.Onward K s s' :=
  ⟨h.role, h.spa, h.nextSend, h.parity, h.even, h.nextRecv, Nat.le_of_eq h.limit, Or.inl (Nat.le_of_eq h.limit.symm),
    Or.inl h.limit, Nat.le_of_eq h.processed.symm, Or.inl h.processed⟩

theorem Inner.marks_counts {counts : Counts} (h : counts.role = s.counts.role) (hs : s'.marks = s.marks) :
    Inner.marks { s' with counts := counts } = s.marks := by
  simp only [Inner.marks, Prod.mk.injEq] at hs ⊢
  exact ⟨h, hs.2⟩

theorem Move.onward (h : Move K s s') : Inner.Onward K s s' := by
  cases h with
  | aside h => exact h.onward
  | limit id hK below floor =>
    exact ⟨rfl, fun hs => hs, NextLe.refl _, fun _ hs => hs, fun _ hs => hs, NextLe.refl _, below, floor,
      Or.inr hK, Nat.le_refl _,
      Or.inl rfl⟩
  | process hK below =>
    exact ⟨rfl, fun hs => hs, NextLe.refl _, fun _ hs => hs, fun _ hs => hs, NextLe.refl _, Nat.le_refl _,
      Or.inl (Nat.le_refl _),
      Or.inl rfl, Nat.le_max_left _ _, Or.inr ⟨⟨_, hK⟩, fun hs => max_le hs below⟩⟩
  | turn hk h tally => exact .of_marks (Inner.marks_counts tally.role rfl)
  | push h _ _ tally => exact .of_marks (Inner.marks_counts tally.role (M.push_marks h))
  | pushFront _ h =>
    obtain ⟨_, _, ⟨-, -, rfl⟩ | ⟨-, -, hf⟩⟩ := M.pushFront_some h
    · exact .of_marks rfl
    · exact .of_marks hf.marks
  | pop h _ _ tally => exact .of_marks (Inner.marks_counts tally.role (M.pop_marks h))
  | enlist _ _ _ _ _ _ h => exact .of_marks (M.push_marks h)
  | offer _ _ _ hpop hpush => exact .of_marks ((M.push_marks hpush).trans (M.pop_marks hpop))
  | _ => exact .of_marks rfl

theorem Moves.spaTracker_none (h : Moves K s s') (hs : s.send.spaTracker = none) :
    s'.send.spaTracker = none :=
  h.invariant (P := fun s => s.send.spaTracker = none) (fun _ _ hmove => hmove.onward.spa) hs

theorem Moves.maxStreamId_le (h : Moves K s s') : s'.recv.maxStreamId ≤ s.recv.maxStreamId := by
  induction h with
  | refl => exact Nat.le_refl _
  | step hmove _ ih => exact Nat.le_trans ih hmove.onward.max

theorem Moves.maxStreamId_eq (h : Moves K s s') (hK : ∀ id, ¬K.limits id) :
    s'.recv.maxStreamId = s.recv.maxStreamId := by
  induction h with
  | refl => rfl
  | step hmove _ ih => exact ih.trans (hmove.onward.limit.resolve_right (hK _))

theorem Moves.lastProcessedId_eq (h : Moves K s s') (hK : ∀ k, ¬K.processes k) :
    s'.recv.lastProcessedId = s.recv.lastProcessedId := by
  induction h with
  | refl => rfl
  | step hmove _ ih =>
    refine ih.trans (hmove.onward.process.resolve_right ?_)
    rintro ⟨⟨k, hk⟩, -⟩
    exact hK k hk

theorem Moves.processed_below (h : Moves K s s') (hs : s.recv.lastProcessedId ≤ s.recv.maxStreamId) :
    s'.recv.lastProcessedId ≤ s'.recv.maxStreamId := by
  refine h.invariant (P := fun s => s.recv.lastProcessedId ≤ s.recv.maxStreamId)
    (fun s s' hmove hs => ?_) hs
  have hfloor : s.recv.lastProcessedId ≤ s'.recv.maxStreamId := by
    rcases hmove.onward.floor with hfloor | hfloor
    · exact hs.trans hfloor
    · exact hfloor
  rcases hmove.onward.process with hsame | ⟨-, hnew⟩
  · exact hsame ▸ hfloor
  · exact hnew hfloor

theorem Moves.parity (h : Moves K s s') (hclient : s.counts.role.isServer = false)
    (hs : ∀ n, s.send.nextStreamId = some n → n % 2 = 1) :
    ∀ n, s'.send.nextStreamId = some n → n % 2 = 1 := by
  induction h with
  | refl => exact hs
  | step hmove _ ih => exact ih (hmove.role ▸ hclient) (hmove.onward.parity hclient hs)

theorem Moves.even (h : Moves K s s') (hclient : s.counts.role.isServer = false)
    (hs : ∀ n, s.recv.nextStreamId = some n → StreamId.isServerInitiated n = true) :
    ∀ n, s'.recv.nextStreamId = some n → StreamId.isServerInitiated n = true := by
  induction h with
  | refl => exact hs
  | step hmove _ ih => exact ih (hmove.role ▸ hclient) (hmove.onward.even hclient hs)

theorem Inner.Known.mono {id : Nat} (h : s.Known id) (hrole : s'.counts.role = s.counts.role)
    (hsend : NextLe s.send.nextStreamId s'.send.nextStreamId)
    (hrecv : NextLe s.recv.nextStreamId s'.recv.nextStreamId) : s'.Known id := by
  have hlt : ∀ {a b : Option Nat}, NextLe a b → (∀ n, a = some n → id < n) → ∀ n, b = some n → id < n := by
    intro a b hle hlt n hn
    subst hn
    cases a with
    | none => cases hle
    | some a => exact Nat.lt_of_lt_of_le (hlt a rfl) hle
  unfold Inner.Known at h ⊢
  rw [hrole]
  split
  · rename_i hlocal
    rw [if_pos hlocal] at h
    exact hlt hsend h
  · rename_i hlocal
    rw [if_neg hlocal] at h
    exact hlt hrecv h

theorem Move.knows {id : Nat} (h : Move K s s') (hs : s.Known id) : s'.Known id :=
  hs.mono h.onward.role h.onward.nextSend h.onward.nextRecv

theorem Moves.knows {id : Nat} (h : Moves K s s') (hs : s.Known id) : s'.Known id :=
  h.invariant (P := fun s => s.Known id) (fun _ _ hmove => hmove.knows) hs

theorem Move.origin {j : Key} {stj : Stream} (h : Move K s s') (hj : s'.get? j = some stj) :
    (∃ st, s.get? j = some st) ∨ s.Known j.streamId := by
  cases h.fate hj with
  | moved hk => exact Or.inl ⟨_, hk⟩
  | turned hk => exact Or.inl ⟨_, hk⟩
  | born _ _ _ _ known => exact Or.inr known

theorem Moves.known (h : Moves K s s') (hs : s.Each fun k _ => s.Known k.streamId) :
    s'.Each fun k _ => s'.Known k.streamId := by
  refine h.invariant (P := fun s => s.Each fun k _ => s.Known k.streamId) (fun s s' hmove hs j stj hj => ?_) hs
  rcases hmove.origin hj with ⟨st, hst⟩ | hknown
  · exact hmove.knows (hs j st hst)
  · exact hmove.knows hknown

theorem Moves.lines (h : Moves K s s') (hs : ∃ line, s.Lines line) : ∃ line, s'.Lines line :=
  h.invariant (P := fun s => ∃ line, s.Lines line)
    (fun _ _ hmove ⟨_, hl⟩ => (hmove.lines hl).imp fun _ hl' => hl'.1) hs

theorem Moves.sound (hK : K.Hears s.counts.role) (h : Moves K s s') (hl : ∃ line, s.Lines line)
    (hs : s.Each fun k st => st.Sound s.counts.role k) :
    s'.Each fun k st => st.Sound s'.counts.role k := by
  induction h with
  | refl => exact hs
  | step hmove _ ih =>
    obtain ⟨line, hlines⟩ := hl
    have hnext := hmove.sound hK hlines hs
    rw [← hmove.role] at hK hnext
    exact ih hK ((hmove.lines hlines).imp fun _ h => h.1) hnext

end

end TwoPlz
