import TwoPlz.Streams.Tidy

/-! `Store::try_for_each` visits every stream once, as long as its closure unlinks no other one. -/

namespace TwoPlz

variable [HeaderPlz] [StoreCrates]

namespace Store

def keys (s : Store) : List Key := s.entries.map fun p => ⟨p.2, p.1⟩

def Distinct (s : Store) : Prop := (s.entries.map Prod.fst).Nodup

variable {s s' : Store} {k : Key} {i : Nat}

theorem getElem?_keys : s.keys[i]? = some k ↔ s.entries[i]? = some (k.streamId, k.index) := by
  rw [keys, List.getElem?_map, Option.map_eq_some_iff]
  constructor
  · rintro ⟨p, hp, rfl⟩
    exact hp
  · exact fun hp => ⟨_, hp, rfl⟩

theorem length_keys : s.keys.length = s.entries.length := List.length_map _

theorem Distinct.keys_nodup (h : s.Distinct) : s.keys.Nodup := by
  have hfst : s.keys.map Key.streamId = s.entries.map Prod.fst := by
    rw [keys, List.map_map]
    rfl
  exact List.Nodup.of_map Key.streamId (hfst ▸ h)

theorem keys_congr (h : s'.entries = s.entries) : s'.keys = s.keys := by rw [keys, h, keys]

/-- The last entry moves into the place of the one that is unlinked. -/
theorem entries_unlink (h : s.Distinct) (hk : s.entries[i]? = some (k.streamId, k.index)) :
    ∃ last, s.entries.getLast? = some last ∧ (s.unlink k).entries = (s.entries.set i last).dropLast := by
  have hne : s.entries ≠ [] := by
    intro hnil
    rw [hnil] at hk
    cases hk
  have hlast := List.getLast?_eq_getLast_of_ne_nil hne
  exact ⟨s.entries.getLast hne, hlast, StoreCrates.ids_documented.swapRemove _ _ _ _ _ h hk hlast⟩

theorem length_unlink (h : s.Distinct) (hk : s.entries[i]? = some (k.streamId, k.index)) :
    (s.unlink k).entries.length = s.entries.length - 1 := by
  obtain ⟨last, -, hunlink⟩ := entries_unlink h hk
  rw [hunlink, List.length_dropLast, List.length_set]

theorem drop_keys_unlink (h : s.Distinct) (hk : s.entries[i]? = some (k.streamId, k.index)) :
    ((s.unlink k).keys.drop i).Perm (s.keys.drop (i + 1)) := by
  obtain ⟨last, hlast, hunlink⟩ := entries_unlink h hk
  rw [keys, keys, ← List.map_drop, ← List.map_drop, hunlink]
  exact (List.drop_dropLast_set_perm (List.getElem?_eq_some_iff.mp hk).1 hlast).map _

theorem drop_keys (hk : s.entries[i]? = some (k.streamId, k.index)) :
    s.keys.drop i = k :: s.keys.drop (i + 1) := by
  obtain ⟨hi, hentry⟩ := List.getElem?_eq_some_iff.mp (getElem?_keys.mpr hk)
  rw [List.drop_eq_getElem_cons hi, hentry]

end Store

/-- What a closure may do when it is called on `k`: it leaves the map alone or unlinks `k`, and no stream
that is still linked leaves the slab. -/
structure Visits (k : Key) (s s' : Inner) : Prop where
  ids : s'.store.ids = s.store.ids ∨ s'.store.ids = (s.store.unlink k).ids
  kept : ∀ j ∈ s'.store.keys, (s.get? j).isSome = true → (s'.get? j).isSome = true

def OnlyUnlinks {ε α : Type} (f : α → Key → M (Except ε α)) : Prop :=
  ∀ a k s r s', s.store.Distinct → k ∈ s.store.keys → f a k s = some (r, s') → Visits k s s'

section

variable {ε α : Type} {f : α → Key → M (Except ε α)} {a₀ a : α} {s₀ s : Inner} {visited : List Key}
  {len i : Nat}

/-- The head of the loop of `try_for_each` is reached with these variables after calls on `visited`. -/
inductive Reaches (f : α → Key → M (Except ε α)) (a₀ : α) (s₀ : Inner) :
    List Key → Nat → Nat → α → Inner → Prop
  | start : Reaches f a₀ s₀ [] s₀.store.entries.length 0 a₀ s₀
  | shrunk {visited : List Key} {len i : Nat} {a a' : α} {s s' : Inner} {k : Key}
      (head : Reaches f a₀ s₀ visited len i a s) (below : i < len)
      (entry : s.store.entries[i]? = some (k.streamId, k.index)) (call : f a k s = some (.ok a', s'))
      (less : s'.store.entries.length < len) : Reaches f a₀ s₀ (visited ++ [k]) (len - 1) i a' s'
  | kept {visited : List Key} {len i : Nat} {a a' : α} {s s' : Inner} {k : Key}
      (head : Reaches f a₀ s₀ visited len i a s) (below : i < len)
      (entry : s.store.entries[i]? = some (k.streamId, k.index)) (call : f a k s = some (.ok a', s'))
      (same : len ≤ s'.store.entries.length) : Reaches f a₀ s₀ (visited ++ [k]) len (i + 1) a' s'

inductive Outcome (f : α → Key → M (Except ε α)) (len i : Nat) (a : α) (s : Inner) :
    Option (Except ε α × Inner) → Prop
  | done (all : i = len) : Outcome f len i a s (some (.ok a, s))
  | failed {k : Key} {e : ε} {s' : Inner} (below : i < len)
      (entry : s.store.entries[i]? = some (k.streamId, k.index)) (call : f a k s = some (.error e, s')) :
      Outcome f len i a s (some (.error e, s'))
  | panicked {k : Key} (below : i < len) (entry : s.store.entries[i]? = some (k.streamId, k.index))
      (call : f a k s = none) : Outcome f len i a s none

/-- The invariant of the loop: what was visited and what is still to come are the streams that were linked
at the start, and the ones to come are where they were. -/
structure Unvisited (s₀ : Inner) (visited : List Key) (len i : Nat) (s : Inner) : Prop where
  total : len = s.store.entries.length
  below : i ≤ len
  distinct : s.store.Distinct
  once : (visited ++ s.store.keys.drop i).Perm s₀.store.keys
  kept : ∀ j ∈ s.store.keys.drop i, (s₀.get? j).isSome = true → (s.get? j).isSome = true

theorem Unvisited.nodup (h : Unvisited s₀ visited len i s) (hs : s₀.store.Distinct) : visited.Nodup :=
  (List.nodup_append.mp (h.once.nodup_iff.mpr hs.keys_nodup)).1

theorem Unvisited.all (h : Unvisited s₀ visited len i s) (hi : i = len) : visited.Perm s₀.store.keys := by
  have honce := h.once
  rwa [hi, h.total, ← Store.length_keys, List.drop_length, List.append_nil] at honce

theorem Unvisited.next (h : Unvisited s₀ visited len i s) (hs : s₀.store.Distinct) (hi : i < len) :
    ∃ k, s.store.entries[i]? = some (k.streamId, k.index) ∧ k ∈ s₀.store.keys ∧ k ∉ visited ∧
      ((s₀.get? k).isSome = true → (s.get? k).isSome = true) := by
  have hlt : i < s.store.entries.length := h.total ▸ hi
  have hk : s.store.entries[i]? = some (s.store.entries[i].1, s.store.entries[i].2) := List.getElem?_eq_getElem hlt
  have hdrop := Store.drop_keys (k := ⟨s.store.entries[i].2, s.store.entries[i].1⟩) hk
  have hmem : (⟨s.store.entries[i].2, s.store.entries[i].1⟩ : Key) ∈ s.store.keys.drop i := by
    rw [hdrop]
    exact List.mem_cons_self
  refine ⟨⟨s.store.entries[i].2, s.store.entries[i].1⟩, hk, h.once.mem_iff.mp (List.mem_append_right _ hmem),
    fun hno => ?_, h.kept _ hmem⟩
  exact (List.nodup_append.mp (h.once.nodup_iff.mpr hs.keys_nodup)).2.2 _ hno _ hmem rfl

/-- One call moves the stream from the ones to come to the ones visited; an entry that takes its place
is visited next. -/
theorem Unvisited.call (hf : OnlyUnlinks f) (h : Unvisited s₀ visited len i s) {k : Key} {r : Except ε α}
    {s' : Inner} (hi : i < len) (hk : s.store.entries[i]? = some (k.streamId, k.index))
    (hcall : f a k s = some (r, s')) :
    (s'.store.entries.length < len → s'.store.entries.length = len - 1 ∧ Unvisited s₀ (visited ++ [k]) (len - 1) i s') ∧
      (len ≤ s'.store.entries.length → Unvisited s₀ (visited ++ [k]) len (i + 1) s') := by
  have hmem : k ∈ s.store.keys := List.mem_of_getElem? (Store.getElem?_keys.mpr hk)
  obtain ⟨hids, hkept⟩ := hf a k s r s' h.distinct hmem hcall
  have honce : (visited ++ [k] ++ s.store.keys.drop (i + 1)).Perm s₀.store.keys := by
    have hcons := h.once
    rw [Store.drop_keys hk] at hcons
    rwa [List.append_assoc, List.singleton_append]
  have htail : ∀ j ∈ s.store.keys.drop (i + 1), (s₀.get? j).isSome = true → (s.get? j).isSome = true := by
    intro j hj
    refine h.kept j ?_
    rw [Store.drop_keys hk]
    exact List.mem_cons_of_mem k hj
  rcases hids.imp Store.entries_congr Store.entries_congr with hids | hids
  · have hlen : s'.store.entries.length = len := by rw [hids, ← h.total]
    refine ⟨fun hless => absurd hless (by omega), fun _ => ⟨hlen.symm, hi, ?_, ?_, fun j hj hold => ?_⟩⟩
    · rw [Store.Distinct, hids]
      exact h.distinct
    · rwa [Store.keys_congr hids]
    · have hj' := Store.keys_congr hids ▸ hj
      exact hkept j (List.mem_of_mem_drop hj) (htail j hj' hold)
  · have hlen : s'.store.entries.length = len - 1 := by rw [hids, Store.length_unlink h.distinct hk, ← h.total]
    have hperm := Store.drop_keys_unlink h.distinct hk
    have hkeys : s'.store.keys = (s.store.unlink k).keys := Store.keys_congr hids
    refine ⟨fun _ => ⟨hlen, hlen.symm, by omega, ?_, ?_, fun j hj hold => ?_⟩, fun hle => absurd hle (by omega)⟩
    · rw [Store.Distinct, hids]
      exact (Store.mem_unlink h.distinct k).1
    · rw [hkeys]
      exact (hperm.append_left _).trans honce
    · have hj' := hperm.mem_iff.mp (hkeys ▸ hj)
      exact hkept j (List.mem_of_mem_drop hj) (htail j hj' hold)

theorem Reaches.unvisited (hf : OnlyUnlinks f) (hs : s₀.store.Distinct)
    (h : Reaches f a₀ s₀ visited len i a s) : Unvisited s₀ visited len i s := by
  induction h with
  | start => exact ⟨rfl, Nat.zero_le _, hs, .refl _, fun _ _ hold => hold⟩
  | shrunk _ below entry call less ih => exact ((ih.call hf below entry call).1 less).2
  | kept _ below entry call same ih => exact (ih.call hf below entry call).2 same

section

variable {s' : Inner} {a' : α} {n : Nat} {k : Key}

theorem tryForEachFrom_none (hk : s.store.entries[i]? = some (k.streamId, k.index)) (hcall : f a k s = none) :
    tryForEachFrom f (n + 1) i a s = none := by
  simp only [tryForEachFrom, bind, StateT.bind, get, getThe, MonadStateOf.get, StateT.get, pure,
    Option.bind_some, Store.getIndex_ids, hk]
  rw [hcall]
  rfl

theorem tryForEachFrom_error (hk : s.store.entries[i]? = some (k.streamId, k.index)) {e : ε}
    (hcall : f a k s = some (.error e, s')) :
    tryForEachFrom f (n + 1) i a s = some (.error e, s') := by
  simp only [tryForEachFrom, bind, StateT.bind, get, getThe, MonadStateOf.get, StateT.get, pure,
    Option.bind_some, Store.getIndex_ids, hk]
  rw [hcall]
  rfl

theorem tryForEachFrom_shrunk (hk : s.store.entries[i]? = some (k.streamId, k.index))
    (hcall : f a k s = some (.ok a', s')) (hlen : s'.store.entries.length = i + n) :
    tryForEachFrom f (n + 1) i a s = tryForEachFrom f n i a' s' := by
  rw [tryForEachFrom]
  simp only [bind, StateT.bind, get, getThe, MonadStateOf.get, StateT.get, pure,
    Option.bind_some, Store.getIndex_ids, hk]
  rw [hcall]
  change (if StoreCrates.ids.len s'.store.ids < i + (n + 1) then _ else _ : M (Except ε α)) s' = _
  rw [Store.len_ids, if_pos (by omega)]
  change (M.debugAssert _ s').bind _ = _
  simp [M.debugAssert, hlen]

theorem tryForEachFrom_kept (hk : s.store.entries[i]? = some (k.streamId, k.index))
    (hcall : f a k s = some (.ok a', s')) (hlen : ¬s'.store.entries.length < i + (n + 1)) :
    tryForEachFrom f (n + 1) i a s = tryForEachFrom f n (i + 1) a' s' := by
  rw [tryForEachFrom]
  simp only [bind, StateT.bind, get, getThe, MonadStateOf.get, StateT.get, pure,
    Option.bind_some, Store.getIndex_ids, hk]
  rw [hcall]
  change (if StoreCrates.ids.len s'.store.ids < i + (n + 1) then _ else _ : M (Except ε α)) s' = _
  rw [Store.len_ids, if_neg hlen]

end

theorem Reaches.runs (hf : OnlyUnlinks f) (hs : s₀.store.Distinct) (n : Nat) :
    ∀ {visited i a s}, Reaches f a₀ s₀ visited (i + n) i a s →
      ∃ visited' len' i' a' s', Reaches f a₀ s₀ visited' len' i' a' s' ∧
        Outcome f len' i' a' s' (tryForEachFrom f n i a s) := by
  induction n with
  | zero => exact fun {visited i a s} h => ⟨visited, i, i, a, s, h, .done rfl⟩
  | succ n ih =>
    intro visited i a s h
    have hunvisited := h.unvisited hf hs
    have hbelow : i < i + (n + 1) := by omega
    obtain ⟨k, hk, -⟩ := hunvisited.next hs hbelow
    cases hcall : f a k s with
    | none => exact ⟨visited, _, i, a, s, h, tryForEachFrom_none hk hcall ▸ .panicked hbelow hk hcall⟩
    | some res =>
      obtain ⟨r, s'⟩ := res
      cases r with
      | error e => exact ⟨visited, _, i, a, s, h, tryForEachFrom_error hk hcall ▸ .failed hbelow hk hcall⟩
      | ok a' =>
        obtain ⟨hshrunk, -⟩ := hunvisited.call hf hbelow hk hcall
        by_cases hless : s'.store.entries.length < i + (n + 1)
        · have hlen : s'.store.entries.length = i + n := by
            have hone := (hshrunk hless).1
            omega
          rw [tryForEachFrom_shrunk hk hcall hlen]
          exact ih (h.shrunk hbelow hk hcall hless)
        · rw [tryForEachFrom_kept hk hcall hless]
          have hhead := h.kept hbelow hk hcall (by omega)
          rw [show i + (n + 1) = i + 1 + n by omega] at hhead
          exact ih hhead

end

/-! A linked stream is in the slab. -/

def Inner.Present (s : Inner) : Prop := ∀ k ∈ s.store.keys, (s.get? k).isSome = true

section

variable {K : Scope} {s s' : Inner} {k : Key} {st : Stream}

theorem Store.mem_keys_unlink {s : Store} (h : s.Distinct) {j : Key} (hj : j ∈ (s.unlink k).keys) :
    j ∈ s.keys ∧ j.streamId ≠ k.streamId := by
  obtain ⟨p, hp, rfl⟩ := List.mem_map.mp hj
  obtain ⟨hold, hne⟩ := ((Store.mem_unlink h k).2 p).mp hp
  exact ⟨List.mem_map.mpr ⟨p, hold, rfl⟩, hne⟩

theorem Inner.Present.flagged {n : Next} {val : Bool} (hs : s.Present) (h : Flagged n k val s s') : s'.Present := by
  intro j hj
  rw [Store.keys_congr (Store.entries_congr h.ids)] at hj
  obtain ⟨link, hlink⟩ := h.get
  rw [hlink, Option.isSome_map]
  exact hs j hj

theorem Inner.Present.of_store (hs : s.Present) (h : s'.store = s.store) : s'.Present := by
  intro j hj
  rw [h] at hj
  simpa only [Inner.get?, h] using hs j hj

theorem Inner.Present.forget (hs : s.Present) (hd : s.store.Distinct) (hk : s.get? k = some st) :
    Inner.Present { s with store := (s.store.unlink k).vacate k } := by
  intro j hj
  obtain ⟨hold, hne⟩ := Store.mem_keys_unlink hd hj
  have hsame : ((s.store.unlink k).vacate k).get j = s.store.get j :=
    Store.get_vacate_ne (s := s.store.unlink k) hk fun heq => hne (congrArg Key.streamId heq)
  exact (congrArg Option.isSome hsame).trans (hs j hold)

theorem Move.present (h : Move K s s') (hd : s.store.Distinct) (hs : s.Present) : s'.Present := by
  cases h with
  | aside h => exact hs.of_store h.store
  | limit => exact hs.of_store rfl
  | process => exact hs.of_store rfl
  | @turn k st st' _ _ hk h =>
    intro j hj
    by_cases hjk : j = k
    · subst hjk
      have hself := Inner.get?_put hk st' h.id
      exact Option.isSome_iff_exists.mpr ⟨st', hself⟩
    · have hother := Inner.get?_put_ne hk h.id hjk
      exact (congrArg Option.isSome hother).trans (hs j hj)
  | push h =>
    obtain ⟨_, _, ⟨-, -, rfl⟩ | ⟨-, -, hf⟩⟩ := M.push_some h
    · exact hs
    · exact (hs.flagged hf).of_store rfl
  | pushFront _ h =>
    obtain ⟨_, _, ⟨-, -, rfl⟩ | ⟨-, -, hf⟩⟩ := M.pushFront_some h
    · exact hs
    · exact hs.flagged hf
  | pop h =>
    rcases M.pop_some h with ⟨-, -, rfl⟩ | ⟨_, _, _, -, -, -, hf⟩
    · exact hs
    · exact (hs.flagged hf).of_store rfl
  | enlist _ _ _ _ _ _ h =>
    obtain ⟨_, _, ⟨-, -, rfl⟩ | ⟨-, -, hf⟩⟩ := M.push_some h
    · exact hs
    · exact hs.flagged hf
  | offer _ _ _ hpop hpush =>
    rcases M.pop_some hpop with ⟨hno, -⟩ | ⟨_, _, _, -, -, -, hf⟩
    · cases hno
    obtain ⟨_, _, ⟨hno, -⟩ | ⟨-, -, hf'⟩⟩ := M.push_some hpush
    · cases hno
    exact (hs.flagged hf).flagged hf'
  | insert id initSend initRecv len _ unlinked =>
    intro j hj
    by_cases hnew : j = s.freshKey id
    · subst hnew
      exact Option.isSome_iff_exists.mpr ⟨_, Store.get_insert_self s.store
        { Stream.new id initSend initRecv with contentLength := len }⟩
    · have hsame := @Store.get_insert_ne _ _ s.store { Stream.new id initSend initRecv with contentLength := len }
        id j hnew rfl
      refine (congrArg Option.isSome hsame).trans (hs j ?_)
      obtain ⟨p, hp, rfl⟩ := List.mem_map.mp hj
      rcases List.mem_append.mp (Store.entries_insert unlinked _ ▸ hp) with hold | hp
      · exact List.mem_map.mpr ⟨p, hold, rfl⟩
      · obtain rfl := List.mem_singleton.mp hp
        exact absurd rfl hnew
  | unlink hk => exact fun j hj => hs j (Store.mem_keys_unlink hd hj).1
  | remove hk => exact hs.forget hd hk
  | discard _ hk => exact hs.forget hd hk

theorem Moves.present (hK : K.Single) (h : Moves K s s') (ht : s.Tidy K.opens) (hs : s.Present) : s'.Present :=
  (h.invariant (P := fun s => s.Tidy K.opens ∧ s.Present)
    (fun _ _ hmove ⟨ht, hs⟩ => ⟨hmove.tidy hK ht, hmove.present ht.nodup hs⟩) ⟨ht, hs⟩).2

end

end TwoPlz
