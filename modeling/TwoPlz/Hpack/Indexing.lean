import TwoPlz.Hpack.Evict

/-! `index` of the table of the HPACK encoder. -/

open RobinHood Budget

namespace TwoPlz.Hpack

theorem modify_append_cons {α : Type} (f : α → α) (l₁ : List α) (a : α) (l₂ : List α) :
    (l₁ ++ a :: l₂).modify l₁.length f = l₁ ++ f a :: l₂ :=
  List.modifyTailIdx_add (List.modifyHead f) 0 l₁ (a :: l₂)

theorem modify_concat {α : Type} (f : α → α) {l : List α} {k : Nat} (a : α) (h : k ≠ l.length) :
    (l ++ [a]).modify k f = l.modify k f ++ [a] := by
  induction l generalizing k with
  | nil =>
    obtain ⟨k, rfl⟩ := Nat.exists_eq_succ_of_ne_zero h
    simp
  | cons b l ih =>
    cases k with
    | zero => rfl
    | succ k =>
      simp only [List.cons_append, List.modify_succ_cons, List.cons.injEq, true_and]
      exact ih (by simpa using h)

variable [HeaderPlz]

section

variable {inserted k : Nat} {slots : List Slot} {b : Nat × Slot} {name : Name}

theorem exists_node {s : Slot} (hs : s ∈ slots) (inserted k : Nat) :
    ∃ i, (i, s) ∈ nodesFrom inserted k slots := by
  obtain ⟨j, hj⟩ := List.mem_iff_getElem?.mp hs
  exact ⟨_, mem_nodesFrom.mpr ⟨j, hj, rfl⟩⟩

theorem find?_nodes_none (h : (nodesFrom inserted k slots).find? (fun n => nodeName n = name) = none) :
    ∀ s ∈ slots, s.header.name ≠ name := by
  intro s hs
  obtain ⟨i, hi⟩ := exists_node hs inserted k
  exact fun heq => List.find?_eq_none.mp h _ hi (decide_eq_true heq)

theorem find?_nodes_some
    (h : (nodesFrom inserted k slots).find? (fun n => nodeName n = name) = some b) :
    ∃ newer older, slots = newer ++ b.2 :: older ∧ b.1 = wrappingSub (k + newer.length) inserted ∧
      b.2.header.name = name ∧ ∀ s ∈ older, s.header.name ≠ name := by
  obtain ⟨hname, as, bs, hsplit, has⟩ := List.find?_eq_some_iff_append.mp h
  obtain ⟨newer, older, hslots, hident, rfl, rfl⟩ := nodesFrom_split hsplit
  refine ⟨newer, older, hslots, hident, of_decide_eq_true hname, fun s hs => ?_⟩
  obtain ⟨i, hi⟩ := exists_node hs inserted (k + newer.length + 1)
  exact of_decide_eq_false (Bool.not_eq_true' _ ▸ has _ hi)

end

theorem Header.valueEq_iff {a b : Header} (h : a.name = b.name) : a.valueEq b = true ↔ a = b := by
  cases a <;> cases b <;> simp_all [Header.name, Header.valueEq]

namespace Table

variable {hash : Name → Nat} {t : Table} {slots newer older : List Slot} {slot c last : Slot} {k : Nat}

def link (t : Table) (k : Nat) (slot : Slot) : Table :=
  { t with
    inserted := wrappingAdd t.inserted 1
    slots := slot :: t.slots.modify k fun slot =>
      { slot with next := some (wrappingSub 0 (wrappingAdd t.inserted 1)) } }

theorem link_split (hslots : t.slots = newer ++ c :: older) (slot : Slot) :
    (t.link newer.length slot).slots = slot :: newer ++
      { c with next := some (wrappingSub 0 (wrappingAdd t.inserted 1)) } :: older := by
  rw [link, hslots, modify_append_cons]
  rfl

theorem headers_link (t : Table) (k : Nat) (slot : Slot) :
    (t.link k slot).headers = slot.header :: t.headers := by
  rw [headers, link, List.map_cons, headers]
  congr 1
  generalize t.slots = slots
  induction slots generalizing k with
  | nil => simp
  | cons s slots ih =>
    cases k with
    | zero => rfl
    | succ k => simpa using ih k

theorem Sound.append_link (h : t.Sound hash) (hslots : t.slots = newer ++ c :: older)
    (hnewer : ∀ s ∈ newer, s.header.name ≠ slot.header.name)
    (hname : c.header.name = slot.header.name) (hhash : slot.hash = hash slot.header.name)
    (hnext : slot.next = none) (hfew : t.slots.length < 2 ^ 60) (hroom : t.slots.length < t.capacity) :
    (t.link newer.length slot).Sound hash := by
  have hslots' := link_split hslots slot
  have hcount : (t.link newer.length slot).slots.length = t.slots.length + 1 := by
    rw [link, List.length_cons, List.length_modify]
  have hnodes : t.nodes = nodesFrom t.inserted (newer.length + 1) older ++
      (wrappingSub newer.length t.inserted, c) :: nodesFrom t.inserted 0 newer := by
    rw [nodes, hslots, nodesFrom_append, nodesFrom, Nat.zero_add, List.append_assoc]
    rfl
  have hnodes' : (t.link newer.length slot).nodes = nodesFrom t.inserted (newer.length + 1) older ++
      (wrappingSub newer.length t.inserted,
        { c with next := some (wrappingSub 0 (wrappingAdd t.inserted 1)) }) ::
      (nodesFrom t.inserted 0 newer ++ [(wrappingSub 0 (wrappingAdd t.inserted 1), slot)]) := by
    rw [nodes, hslots', List.cons_append, nodesFrom]
    change nodesFrom (wrappingAdd t.inserted 1) (0 + 1) _ ++ _ = _
    rw [nodesFrom_succ h.inserted, nodesFrom_append, nodesFrom, Nat.zero_add, List.append_assoc,
      List.append_assoc]
    rfl
  have hlinked := h.linked
  rw [hnodes] at hlinked
  refine ⟨Nat.mod_lt _ (by decide), by omega, by rw [hcount]; exact hroom, h.robin, ?_, ?_, ?_⟩
  · let linked : Slot := { c with next := some (wrappingSub 0 (wrappingAdd t.inserted 1)) }
    have hkey : nodeName (wrappingSub newer.length t.inserted, linked) =
        nodeName (wrappingSub newer.length t.inserted, c) := rfl
    have hpos : posOf (wrappingSub newer.length t.inserted, linked) =
        posOf (wrappingSub newer.length t.inserted, c) := rfl
    have hreplace := Chained.map_heads_replace hkey hpos (nodesFrom t.inserted (newer.length + 1) older)
      (nodesFrom t.inserted 0 newer) fun _ => true
    rw [List.filter_true, List.filter_true, ← hnodes] at hreplace
    rw [hnodes', ← List.cons_append, ← List.append_assoc, Chained.heads_append_old, hreplace]
    · exact h.heads
    · exact ⟨_, List.mem_append_right _ List.mem_cons_self, hname⟩
  · rw [hnodes']
    refine hlinked.append_link rfl rfl hname (fun n hn => ?_) rfl hnext
    obtain ⟨j, hj, -⟩ := mem_nodesFrom.mp hn
    exact hnewer n.2 (List.mem_of_getElem? hj)
  · intro s hs
    rw [hslots', List.cons_append, List.mem_cons, List.mem_append, List.mem_cons] at hs
    rcases hs with rfl | hs | rfl | hs
    · exact hhash
    · exact h.hashes s (by rw [hslots]; exact List.mem_append_left _ hs)
    · exact h.hashes c (by rw [hslots]; simp)
    · exact h.hashes s (by rw [hslots]; simp [hs])

/-- To evict an entry, where the one behind `prev_idx` gives way to the new slot, and then to insert
the slot is to insert it first. -/
theorem evict_link (h : (t.link k slot).Sound hash) (hslots : t.slots = slots ++ [last])
    (hlen : last.header.len ≤ t.size) (hinserted : t.inserted < 2 ^ 64) (hk : k < 2 ^ 60)
    (hfew : t.slots.length ≤ 2 ^ 60) (hend : ∀ s, t.slots[k]? = some s → s.next = none) :
    ∃ t', t.evict (some (wrappingSub k t.inserted)) = some t' ∧ t'.slots = slots ∧
      t'.inserted = t.inserted ∧ t'.maxSize = t.maxSize ∧ t'.size = t.size - last.header.len ∧
      (t.link k slot).evict none = some (t'.link k slot) ∧ (t'.link k slot).Sound hash := by
  have hcount : t.slots.length = slots.length + 1 := by rw [hslots, List.length_append]; rfl
  generalize hnew : wrappingSub 0 (wrappingAdd t.inserted 1) = new
  obtain ⟨last', hlast', hhash', hheader', hnext'⟩ : ∃ last', (t.link k slot).slots
      = (slot :: slots.modify k fun s => { s with next := some new }) ++ [last'] ∧
      last'.hash = last.hash ∧ last'.header = last.header ∧
      last'.next = if k = slots.length then some new else last.next := by
    rw [link, hslots, hnew]
    by_cases hlast : k = slots.length
    · subst hlast
      refine ⟨{ last with next := some new }, ?_, rfl, rfl, (if_pos rfl).symm⟩
      rw [modify_append_cons, List.modify_eq_self (Nat.le_refl _)]
      rfl
    · exact ⟨last, by rw [modify_concat _ _ hlast]; rfl, rfl, rfl, (if_neg hlast).symm⟩
  have hident : wrappingSub (slot :: slots.modify k fun s => { s with next := some new }).length
      (t.link k slot).inserted = wrappingSub slots.length t.inserted := by
    rw [List.length_cons, List.length_modify]
    exact wrappingSub_succ hinserted
  have hnodes := Sound.nodes_oldest hlast'
  obtain ⟨p, hposition, hcell⟩ := h.position_some (n := (wrappingSub slots.length t.inserted, last')) (by
    rw [hnodes, hident, Chained.heads]
    exact List.mem_cons_self)
  replace hposition : (t.link k slot).position (wrappingSub slots.length t.inserted)
      t.indices.length (desiredPos t.mask last.hash) = some (p % t.indices.length,
        ⟨wrappingSub slots.length t.inserted, last.hash⟩) := by
    rw [← hhash']
    exact hposition
  have hposition' : t.position (wrappingSub slots.length t.inserted) t.indices.length
      (desiredPos t.mask last.hash) = some (p % t.indices.length,
        ⟨wrappingSub slots.length t.inserted, last.hash⟩) := by
    rw [← hposition]
    apply position_congr
    rfl
  obtain ⟨indices, hevict, hsound, -⟩ := h.evict_some hlast' (by rw [hheader']; exact hlen)
  have hends : ∀ t', (t.link k slot).evict none = some (Table.link t' k slot) →
      (t.link k slot).evict none = some (Table.link t' k slot) ∧ (Table.link t' k slot).Sound hash :=
    fun t' hlinked => ⟨hlinked, Option.some.inj (hevict.symm.trans hlinked) ▸ hsound⟩
  have hrun := evict_eq hlast' (by rw [hheader']; exact hlen)
    (by rw [hident, hhash']; exact hposition) none
  have hrun' := evict_eq hslots hlen hposition' (some (wrappingSub k t.inserted))
  rw [hheader', hnext'] at hrun
  by_cases hlast : k = slots.length
  · have hnone : last.next = none := hend last (by rw [hslots, hlast]; simp)
    rw [hnone] at hrun'
    dsimp only at hrun'
    rw [if_pos (by rw [hlast])] at hrun'
    rw [if_pos hlast] at hrun
    refine ⟨_, hrun', rfl, rfl, rfl, rfl, hends _ (hrun.trans ?_)⟩
    subst hnew
    rfl
  · rw [if_neg hlast] at hrun
    rcases hnext : last.next with _ | idx
    · have hne : some (wrappingSub slots.length t.inserted) ≠ some (wrappingSub k t.inserted) :=
        fun heq => hlast (wrappingSub_inj (by omega) (by omega) hinserted (Option.some.inj heq)).symm
      rw [hnext] at hrun hrun'
      dsimp only at hrun hrun'
      rw [if_neg (fun hno => by cases hno), removePhaseTwo] at hrun
      rw [if_neg hne, removePhaseTwo] at hrun'
      obtain ⟨indices', hremove, -⟩ := Option.map_eq_some_iff.mp (hrun.symm.trans hevict)
      rw [hremove] at hrun
      change removeFrom t.mask (t.indices.set (p % t.indices.length) none).length (p % t.indices.length)
        (p % t.indices.length + 1) (t.indices.set (p % t.indices.length) none) = some indices' at hremove
      dsimp only at hrun'
      rw [hremove] at hrun'
      refine ⟨_, hrun', rfl, rfl, rfl, rfl, hends _ (hrun.trans ?_)⟩
      subst hnew
      rfl
    · rw [hnext] at hrun hrun'
      refine ⟨_, hrun', rfl, rfl, rfl, rfl, hends _ (hrun.trans ?_)⟩
      subst hnew
      rfl

theorem convergeFrom_link {rounds : Nat} (h : (t.link k slot).Sound hash)
    (hinserted : t.inserted < 2 ^ 64) (hk : k < 2 ^ 60) (hfew : t.slots.length ≤ 2 ^ 60)
    (hend : ∀ s, t.slots[k]? = some s → s.next = none)
    (hsize : t.size = total Header.len t.headers + slot.header.len)
    (hmax : slot.header.len ≤ t.maxSize) (hrounds : t.slots.length = rounds) :
    ∃ t', convergeFrom (some (wrappingSub k t.inserted)) rounds t = some t' ∧
      t'.inserted = t.inserted ∧ convergeFrom none rounds (t.link k slot) = some (t'.link k slot) := by
  induction rounds generalizing t with
  | zero =>
    rw [headers, List.eq_nil_of_length_eq_zero hrounds, List.map_nil, total_nil, Nat.zero_add] at hsize
    have hle : ¬t.size > t.maxSize := by omega
    exact ⟨t, if_neg hle, rfl, if_neg hle⟩
  | succ rounds ih =>
    rw [convergeFrom, convergeFrom]
    by_cases hover : t.size > t.maxSize
    · rw [if_pos hover, if_pos (show (t.link k slot).size > (t.link k slot).maxSize from hover)]
      have hne : t.slots ≠ [] := fun hnil => by rw [hnil] at hrounds; cases hrounds
      obtain ⟨slots, last, hslots⟩ : ∃ slots last, t.slots = slots ++ [last] :=
        ⟨_, _, (List.dropLast_concat_getLast hne).symm⟩
      have hlen : last.header.len ≤ t.size := by
        rw [headers, hslots, List.map_append, total_append, List.map_singleton, total_cons] at hsize
        omega
      obtain ⟨t₁, hevict, hslots₁, hinserted₁, hmax₁, hsize₁, hevict', hsound⟩ :=
        evict_link h hslots hlen hinserted hk hfew hend
      have hcount : t.slots.length = slots.length + 1 := by rw [hslots, List.length_append]; rfl
      obtain ⟨t', hrun, hinserted', hrun'⟩ := ih hsound (hinserted₁ ▸ hinserted) (by rw [hslots₁]; omega)
        (fun s hs => hend s (by
          rw [hslots₁] at hs
          rw [hslots, List.getElem?_append_left (List.getElem?_eq_some_iff.mp hs).1, hs]))
        (by
          rw [headers, hslots, List.map_append, total_append, List.map_singleton, total_cons] at hsize
          rw [headers, hslots₁, hsize₁, hsize, total_nil]
          omega)
        (hmax₁ ▸ hmax) (by rw [hslots₁]; omega)
      rw [hevict, hevict', Option.bind_some, Option.bind_some]
      rw [hinserted₁] at hrun hinserted'
      exact ⟨t', hrun, hinserted', hrun'⟩
    · rw [if_neg hover, if_neg (show ¬(t.link k slot).size > (t.link k slot).maxSize from hover)]
      exact ⟨t, rfl, rfl, rfl⟩

theorem insert_link (hinserted : t.inserted < 2 ^ 64) (hk : k < 2 ^ 60) (header : Header) (h : Nat) :
    (if wrappingAdd (wrappingSub k t.inserted) (t.insert header h).inserted < (t.insert header h).slots.length
      then { t.insert header h with
        slots := (t.insert header h).slots.modify
          (wrappingAdd (wrappingSub k t.inserted) (t.insert header h).inserted) fun slot =>
            { slot with next := some (wrappingSub 0 (t.insert header h).inserted) } }
      else t.insert header h) = t.link k ⟨h, header, none⟩ := by
  have hreal : wrappingAdd (wrappingSub k t.inserted) (t.insert header h).inserted = k + 1 := by
    simp only [insert, wrappingAdd, wrappingSub]
    omega
  rw [hreal]
  by_cases hlt : k + 1 < (t.insert header h).slots.length
  · rw [if_pos hlt]
    rfl
  · rw [if_neg hlt]
    have hle : t.slots.length ≤ k := by
      rw [insert, List.length_cons] at hlt
      omega
    rw [link, List.modify_eq_self hle]
    rfl

theorem chainFrom_some (h : t.Sound hash) {header : Header} {rounds : Nat}
    (hslots : t.slots = newer ++ c :: older) (hname : c.header.name = header.name)
    (hrounds : newer.length < rounds) :
    (∃ k, t.chainFrom header rounds (wrappingSub newer.length t.inserted) = some (.inl k) ∧
      t.headers[k]? = some header) ∨
    ∃ newer' c' older', t.chainFrom header rounds (wrappingSub newer.length t.inserted)
        = some (.inr (wrappingSub newer'.length t.inserted)) ∧
      t.slots = newer' ++ c' :: older' ∧ c'.header.name = header.name ∧ c'.next = none ∧
      (∀ s ∈ newer', s.header.name ≠ header.name) ∧ ∀ s ∈ newer ++ [c], s.header ≠ header := by
  induction rounds generalizing newer c older with
  | zero => cases hrounds
  | succ rounds ih =>
    have hfew := h.few
    have hcount : newer.length < t.slots.length := by simp [hslots]
    have hget : t.slots[newer.length]? = some c := by rw [hslots]; simp
    rw [chainFrom, wrappingAdd_wrappingSub (by omega) h.inserted, hget]
    simp only [Option.bind_eq_bind, Option.bind_some]
    by_cases heq : c.header.valueEq header = true
    · rw [if_pos heq]
      refine .inl ⟨_, rfl, ?_⟩
      rw [headers, List.getElem?_map, hget, Option.map_some, (Header.valueEq_iff hname).mp heq]
    rw [if_neg heq]
    have hne : c.header ≠ header := fun hc => heq ((Header.valueEq_iff hname).mpr hc)
    have hlinked := h.linked
    rw [nodes, hslots, nodesFrom_append, nodesFrom, List.append_assoc, List.singleton_append] at hlinked
    have hnext : c.next = ((nodesFrom t.inserted 0 newer).find?
      fun n => nodeName n = c.header.name).map Prod.fst := hlinked.next_eq
    rcases hfind : (nodesFrom t.inserted 0 newer).find? fun n => nodeName n = c.header.name with _ | b
    · rw [hfind, Option.map_none] at hnext
      rw [hnext]
      have hnewer : ∀ s ∈ newer, s.header.name ≠ header.name := hname ▸ find?_nodes_none hfind
      refine .inr ⟨newer, c, older, rfl, hslots, hname, hnext, hnewer, fun s hs => ?_⟩
      rcases List.mem_append.mp hs with hs | hs
      · exact fun heq => hnewer s hs (congrArg Header.name heq)
      · rw [List.mem_singleton.mp hs]
        exact hne
    · rw [hfind, Option.map_some] at hnext
      rw [hnext]
      obtain ⟨newer₂, older₂, hsplit, hident, hnameb, holder₂⟩ := find?_nodes_some hfind
      rw [hname] at hnameb holder₂
      rw [hident, Nat.zero_add]
      have hlen : newer.length = newer₂.length + (older₂.length + 1) := by rw [hsplit]; simp
      have hslots₂ : t.slots = newer₂ ++ b.2 :: (older₂ ++ c :: older) := by
        rw [hslots, hsplit]
        simp
      rcases ih hslots₂ hnameb (by omega) with hfound |
        ⟨newer', c', older', hrun, hslots', hname', hnext', hnewer', hnot⟩
      · exact .inl hfound
      · refine .inr ⟨newer', c', older', hrun, hslots', hname', hnext', hnewer', fun s hs => ?_⟩
        rw [hsplit, List.append_assoc, List.cons_append] at hs
        rcases List.mem_append.mp hs with hs | hs
        · exact hnot s (List.mem_append_left _ hs)
        rcases List.mem_cons.mp hs with rfl | hs
        · exact hnot _ (by simp)
        rcases List.mem_append.mp hs with hs | hs
        · exact fun heq => holder₂ s hs (congrArg Header.name heq)
        · rw [List.mem_singleton.mp hs]
          exact hne

inductive Literal (t : Table) (header : Header) : Option Nat → Index → Prop
  | static (n : Nat) : t.Literal header (some n) (.insertedValue n 0)
  | name {k : Nat} {e : Header} (hget : t.headers[k]? = some e) (hname : e.name = header.name) :
    t.Literal header none (.insertedValue (k + DYN_OFFSET) 0)
  | new : t.Literal header none (.inserted 0)

/-- What the table answers for a header that is looked up: an equal entry, or else the header is
inserted. -/
inductive Answers (t : Table) (header : Header) (statik : Option Nat) : Table → Index → Prop
  | found {t' : Table} {k : Nat} (hheaders : t'.headers = t.headers)
    (hget : t.headers[k]? = some header) : t.Answers header statik t' (.indexed (k + DYN_OFFSET) header)
  | added {t' : Table} {index : Index} (hnew : header ∉ t.headers)
    (hheaders : t'.headers = fit Header.len t.maxSize (header :: t.headers))
    (hindex : t.Literal header statik index) : t.Answers header statik t' index

theorem length_le_total (t : Table) : 32 * t.slots.length ≤ total Header.len t.headers := by
  rw [headers]
  induction t.slots with
  | nil => exact Nat.le_refl _
  | cons slot slots ih =>
    have := slot.header.len_ge
    rw [List.map_cons, total_cons, List.length_cons]
    omega

theorem Inv.few (h : t.Inv hash) : t.slots.length < 2 ^ 59 := by
  have hcount := t.length_le_total
  have hsize := h.size
  have hbound := h.bound
  have hmax := h.maxSize
  omega

theorem stored_fit {header : Header} (h : t.Inv hash) (hlookup : header.LookedUp) (max : Nat) :
    ∀ e ∈ fit Header.len max (header :: t.headers), e.LookedUp := by
  intro e he
  rcases List.mem_cons.mp ((fit_sublist _ _ _).subset he) with rfl | he
  · exact hlookup
  · exact h.stored e he

theorem notMem_headers {header : Header} (hslots : t.slots = newer ++ c :: older)
    (hnot : ∀ s ∈ newer ++ [c], s.header ≠ header) (holder : ∀ s ∈ older, s.header.name ≠ header.name) :
    header ∉ t.headers := by
  intro hin
  obtain ⟨s, hs, hheader⟩ := List.mem_map.mp hin
  rw [hslots] at hs
  rcases List.mem_append.mp hs with hs | hs
  · exact hnot s (List.mem_append_left _ hs) hheader
  rcases List.mem_cons.mp hs with rfl | hs
  · exact hnot _ (by simp) hheader
  · exact holder s hs (congrArg Header.name hheader)

/-- The table makes room for a header and then links its slot to the one of the same name, which is as if
it had linked the slot first. -/
theorem updateSize_link (h : t.Inv hash) {header : Header} (hlen : header.len ≤ t.maxSize)
    (hlookup : header.LookedUp) (hroom : t.slots.length < t.capacity)
    (hslots : t.slots = newer ++ c :: older) (hnewer : ∀ s ∈ newer, s.header.name ≠ header.name)
    (hname : c.header.name = header.name) (hend : c.next = none) :
    ∃ t₂ evicted, t.updateSize header.len (some (wrappingSub newer.length t.inserted))
        = some (t₂, evicted) ∧ t₂.inserted = t.inserted ∧
      (t₂.link newer.length ⟨hash header.name, header, none⟩).Inv hash ∧
      (t₂.link newer.length ⟨hash header.name, header, none⟩).maxSize = t.maxSize ∧
      (t₂.link newer.length ⟨hash header.name, header, none⟩).headers
        = fit Header.len t.maxSize (header :: t.headers) := by
  have hfew := h.few
  have hcount : newer.length < t.slots.length := by simp [hslots]
  generalize hgrown : ({ t with size := t.size + header.len } : Table) = t₁
  have hinserted₁ : t₁.inserted = t.inserted := hgrown ▸ rfl
  have hmax₁ : t₁.maxSize = t.maxSize := hgrown ▸ rfl
  have hheaders₁ : t₁.headers = t.headers := hgrown ▸ rfl
  have hslots₁ : t₁.slots = t.slots := hgrown ▸ rfl
  have hsize₁ : t₁.size = total Header.len t₁.headers + header.len := by
    rw [hheaders₁, ← h.size, ← hgrown]
  generalize hslot : (⟨hash header.name, header, none⟩ : Slot) = slot
  have hheader : slot.header = header := hslot ▸ rfl
  have hlinked : (t₁.link newer.length slot).Sound hash := by
    have hsound : (t.link newer.length slot).Sound hash := by
      subst hslot
      exact h.sound.append_link hslots hnewer hname rfl rfl (by omega) hroom
    rw [← hgrown]
    exact hsound.resized (t.size + header.len) t.maxSize
  obtain ⟨t₂, hconverge, hinserted₂, hconverge₂⟩ := convergeFrom_link hlinked
    (hinserted₁ ▸ h.sound.inserted) (by omega) (by rw [hslots₁]; omega)
    (fun s hs => by
      rw [hslots₁, hslots, List.getElem?_append_right (Nat.le_refl _), Nat.sub_self] at hs
      cases hs
      exact hend)
    (by rw [hheader]; exact hsize₁) (by rw [hheader, hmax₁]; exact hlen) rfl
  have hheaders₂ : (t₁.link newer.length slot).headers = header :: t.headers := by
    rw [headers_link, hheaders₁, hheader]
  have hsize₂ : (t₁.link newer.length slot).size
      = total Header.len (t₁.link newer.length slot).headers + 0 := by
    rw [hheaders₂, total_cons, ← hheaders₁]
    change t₁.size = _
    omega
  have hcount₂ : (t₁.link newer.length slot).slots.length = t₁.slots.length + 1 := by
    rw [link, List.length_cons, List.length_modify]
  have hmax₂ : (t₁.link newer.length slot).maxSize = t.maxSize := hmax₁
  obtain ⟨t₃, hrun₃, hsound₃, hleft₃, hsize₃, hle₃, hheaders₃, -⟩ := convergeFrom_some
    t₁.slots.length hlinked hsize₂ (by
      rw [hheaders₂, hcount₂, hmax₂, Nat.add_sub_cancel_left, List.take_succ_cons, List.take_zero,
        total_cons, total_nil]
      exact hlen)
  obtain rfl := Option.some.inj (hconverge₂.symm.trans hrun₃)
  have hmax₃ := hleft₃.maxSize.trans hmax₂
  rw [hmax₂, Nat.sub_zero, hheaders₂] at hheaders₃
  rw [hmax₂] at hle₃
  refine ⟨t₂, decide (t₁.size > t₁.maxSize), ?_, hinserted₂.trans hinserted₁,
    ⟨hsound₃, hsize₃, by rw [hmax₃]; exact hle₃, by rw [hmax₃]; exact h.maxSize, ?_⟩, hmax₃, hheaders₃⟩
  · rw [updateSize, hgrown, converge, ← hinserted₁, hconverge]
    rfl
  · rw [hheaders₃]
    exact stored_fit h hlookup _

theorem indexOccupied_some (h : t.Inv hash) {header : Header} (hlen : header.len ≤ t.maxSize)
    (hlookup : header.LookedUp) (hroom : t.slots.length < t.capacity) {index : Nat}
    (hfound : t.Found (hash header.name) header.name (.occupied index)) (statik : Option Nat) :
    ∃ t' idx, t.indexOccupied header (hash header.name) index statik = some (t', idx) ∧
      t'.Inv hash ∧ t'.maxSize = t.maxSize ∧ t.Answers header statik t' idx := by
  have hfew := h.few
  obtain ⟨p, pos, hcell, rfl, hhash, slot, hslot, hname⟩ := hfound
  have hmem : pos ∈ t.indices.reduceOption := by
    by_cases hpos : 0 < t.indices.length
    · exact mem_reduceOption_of_cellAt hpos hcell
    · rw [cellAt, List.getElem?_eq_none (by omega)] at hcell
      cases hcell
  obtain ⟨n, hn, rfl⟩ := h.sound.mem_iff.mp hmem
  obtain ⟨k, hk, -, hreal⟩ := h.sound.lookup ((Chained.heads_sublist _).subset hn)
  change t.slots[wrappingAdd n.1 t.inserted]? = _ at hslot
  rw [hreal, hk, Option.some.injEq] at hslot
  obtain ⟨newer, older, hslots, hident, -, holder⟩ := find?_nodes_some (Chained.mem_heads hn)
  rw [nodeName, hslot, hname] at holder
  rw [Nat.zero_add] at hident
  rw [hslot] at hslots
  have hcount : newer.length < t.slots.length := by simp [hslots]
  rw [indexOccupied, show (posOf n).index = wrappingSub newer.length t.inserted from hident]
  rcases chainFrom_some h.sound hslots hname hcount with ⟨j, hrun, hget⟩ |
    ⟨newer', c, older', hrun, hslots', hnamec, hend, hnewer', hnot⟩
  · rw [hrun]
    exact ⟨t, _, rfl, h, rfl, .found rfl hget⟩
  · rw [hrun]
    have hnew := notMem_headers hslots hnot holder
    have hcount' : newer'.length < t.slots.length := by simp [hslots']
    obtain ⟨t₂, evicted, hupdate, hinserted₂, hinv, hmax, hheaders⟩ :=
      updateSize_link h hlen hlookup hroom hslots' hnewer' hnamec hend
    refine ⟨t₂.link newer'.length ⟨hash header.name, header, none⟩,
      .insertedValue (statik.getD (newer'.length + DYN_OFFSET)) 0, ?_, hinv, hmax, ?_⟩
    · have hlink := insert_link (t := t₂) (k := newer'.length)
        (by rw [hinserted₂]; exact h.sound.inserted) (by omega) header (hash header.name)
      rw [hinserted₂] at hlink
      simp only [Option.bind_eq_bind, Option.bind_some, Header.isSensitive, Bool.false_eq_true,
        if_false, hupdate, hlink, wrappingAdd_wrappingSub (show newer'.length < 2 ^ 64 by omega)
          h.sound.inserted]
      cases statik <;> rfl
    · cases statik with
      | some n => exact .added hnew hheaders (.static n)
      | none =>
        refine .added hnew hheaders (.name (e := c.header) ?_ hnamec)
        rw [headers, hslots']
        simp

theorem Found.absent (h : t.Sound hash) {name : Name} {dist probe : Nat}
    (hfound : t.Found (hash name) name (.vacant dist probe)) : ∀ s ∈ t.slots, s.header.name ≠ name := by
  obtain ⟨-, -, hbehind, hpassed⟩ := hfound
  intro s hs heq
  rcases hfind : t.nodes.find? (fun n => nodeName n = name) with _ | b
  · exact find?_nodes_none hfind s hs heq
  -- the head of its chain would have been met
  have hb := Chained.find?_mem_heads hfind
  obtain ⟨newer, older, hslots, -, hname, -⟩ := find?_nodes_some hfind
  have hmem : posOf b ∈ t.indices.reduceOption := h.mem_iff.mpr ⟨b, hb, rfl⟩
  have hrobin := h.robin_of_mem hmem
  have hpos := hrobin.length_pos
  have hhash : b.2.hash = hash name := by
    rw [h.hashes b.2 (by rw [hslots]; simp), hname]
  have hhome : homeOf t.mask (posOf b) = desiredPos t.mask (hash name) := by
    rw [homeOf, posOf, hhash]
  obtain ⟨k, hk⟩ := exists_cellAt hmem
  by_cases hlt : disp t.indices.length (homeOf t.mask) k (posOf b) < dist
  · obtain ⟨a, ha, -, hnot⟩ := hpassed _ hlt
    rw [← hhome] at ha
    have hmod : homeOf t.mask (posOf b) + _ ≡ k [MOD t.indices.length] := home_add_disp hpos k (posOf b)
    have hsame := hrobin.ordered.congr hmod
    rw [ha, hk] at hsame
    cases hsame
    obtain ⟨j, hj, -, hreal⟩ := h.lookup ((Chained.heads_sublist _).subset hb)
    exact hnot ⟨hhash, b.2, by rw [posOf, hreal, hj], hname⟩
  · obtain ⟨a, ha, hle⟩ := hrobin.ordered.reach hpos hk (Nat.le_of_not_lt hlt)
    rw [hhome] at ha hle
    have := hbehind a ha
    omega

theorem Found.place {name : Name} {dist probe : Nat} {t' : Table} (hleft : t.Left t')
    (hrobin : Robin t'.mask t'.indices) (hfound : t.Found (hash name) name (.vacant dist probe))
    {evicted : Bool} (hevicted : evicted = false → t'.indices = t.indices) :
    ∃ dist' < t'.indices.length, (if evicted then t'.backFrom dist probe else some probe)
        = some ((desiredPos t'.mask (hash name) + dist') % t'.indices.length) ∧
      t'.Place (desiredPos t'.mask (hash name)) dist' := by
  obtain ⟨hlt, rfl, hbehind, hpassed⟩ := hfound
  obtain ⟨hlen, hshrinks⟩ := hleft.shrinks
  rw [← hleft.mask] at hbehind hpassed hshrinks ⊢
  rw [← hlen] at hlt hbehind hpassed hshrinks ⊢
  have hbehind' : ∀ b, cellAt t'.indices (desiredPos t'.mask (hash name) + dist) = some b →
      disp t'.indices.length (homeOf t'.mask) (desiredPos t'.mask (hash name) + dist) b < dist := by
    intro b hb
    obtain ⟨a, ha, hle⟩ := hshrinks _ b hb
    exact Nat.lt_of_le_of_lt hle (hbehind a ha)
  cases evicted with
  | true =>
    obtain ⟨dist', hle, hrun, hplace⟩ := backFrom_some hrobin hbehind'
    exact ⟨dist', by omega, hrun, hplace⟩
  | false =>
    refine ⟨dist, hlt, rfl, hbehind', fun e he => ?_⟩
    obtain ⟨b, hb, hle, -⟩ := hpassed e (by omega)
    rw [← hevicted rfl] at hb
    exact ⟨b, hb, by omega⟩

theorem Place.shift {home dist : Nat} (hrobin : Robin t.mask t.indices)
    (hroom : t.indices.reduceOption.length < t.indices.length) (hplace : t.Place home dist)
    (hdist : dist < t.indices.length) {pos : Pos} (hhome : homeOf t.mask pos = home) :
    ∃ indices, shiftFrom (t.indices.length + 1) pos ((home + dist) % t.indices.length) t.indices
        = some indices ∧ Robin t.mask indices ∧ indices.length = t.indices.length ∧
      indices.reduceOption.Perm (pos :: t.indices.reduceOption) := by
  have hn := hrobin.length_pos
  generalize hp : home + dist + (t.indices.length - 1) = p
  have hmod : p + 1 ≡ home + dist [MOD t.indices.length] := by
    rw [← hp, Nat.add_assoc, Nat.sub_add_cancel hn]
    exact Nat.add_mod_right _ _
  have hdisp : disp t.indices.length (homeOf t.mask) (p + 1) pos = dist := by
    rw [disp_congr hmod, ← hhome]
    exact disp_home_add hdist
  obtain ⟨z, hz, hempty⟩ := exists_empty_from hroom (p + 1)
  refine shiftFrom_some hrobin (k := p) ⟨Nat.le_of_lt (Nat.mod_lt _ hn), (Nat.mod_mod _ _).trans hmod.symm⟩
    ?_ (fun b hb => ?_) hempty hz (by omega)
  · rw [hdisp]
    intro hne
    obtain ⟨e, rfl⟩ := Nat.exists_eq_succ_of_ne_zero hne
    obtain ⟨b, hb, hle⟩ := hplace.after e rfl
    have hmod' : p ≡ home + e [MOD t.indices.length] := Nat.ModEq.add_right_cancel' 1 hmod
    exact ⟨b, by rw [cellAt_congr hmod', hb], by rw [disp_congr hmod']; exact hle⟩
  · rw [cellAt_congr hmod] at hb
    rw [hdisp, disp_congr hmod]
    exact Nat.le_of_lt (hplace.behind b hb)

omit [HeaderPlz] in
/-- The loop that shifts entries, with its first step before the loop. -/
theorem shiftFrom_first {indices : List (Option Pos)} {probe : Nat} (hlt : probe < indices.length)
    (pos : Pos) : (indices[probe]?.bind fun prev =>
      match prev with
      | some prev => shiftFrom indices.length prev (probe + 1) (indices.set probe (some pos))
      | none => some (indices.set probe (some pos)))
      = shiftFrom (indices.length + 1) pos probe indices := by
  rw [shiftFrom, wrapProbe, if_pos hlt]
  rcases indices[probe]? with _ | _ | prev <;> rfl

theorem Sound.append (h : t.Sound hash) {pos : Pos} {indices : List (Option Pos)}
    (hnew : ∀ s ∈ t.slots, s.header.name ≠ slot.header.name) (hhash : slot.hash = hash slot.header.name)
    (hnext : slot.next = none) (hfew : t.slots.length < 2 ^ 60)
    (hroom : t.slots.length < t.capacity) (hrobin : Robin t.mask indices)
    (hlen : indices.length = t.indices.length)
    (hpos : pos = ⟨wrappingSub 0 (wrappingAdd t.inserted 1), slot.hash⟩)
    (hperm : indices.reduceOption.Perm (pos :: t.indices.reduceOption)) :
    ({ t with
      inserted := wrappingAdd t.inserted 1, slots := slot :: t.slots,
      indices := indices } : Table).Sound hash := by
  have hnodes : nodesFrom (wrappingAdd t.inserted 1) 0 (slot :: t.slots)
      = t.nodes ++ [(wrappingSub 0 (wrappingAdd t.inserted 1), slot)] := by
    rw [nodesFrom, nodesFrom_succ h.inserted]
    rfl
  have hnew' : ∀ n ∈ t.nodes, nodeName n ≠ slot.header.name := fun n hn => by
    obtain ⟨k, hk, -⟩ := h.lookup hn
    exact hnew n.2 (List.mem_of_getElem? hk)
  refine ⟨Nat.mod_lt _ (by decide), hfew, ?_, .inr hrobin, ?_, ?_, fun s hs => ?_⟩
  · rw [capacity] at hroom ⊢
    dsimp only [List.length_cons]
    rw [hlen]
    exact hroom
  · change indices.reduceOption.Perm ((Chained.heads nodeName
      (nodesFrom (wrappingAdd t.inserted 1) 0 (slot :: t.slots))).map posOf)
    rw [hnodes, Chained.heads_append_new hnew', List.map_append]
    refine hperm.trans (.trans ?_ List.perm_append_comm)
    rw [hpos]
    exact h.heads.cons _
  · change Chained.Linked _ _ _ (nodesFrom (wrappingAdd t.inserted 1) 0 (slot :: t.slots))
    rw [hnodes]
    exact h.linked.append hnew' hnext
  · rcases List.mem_cons.mp hs with rfl | hs
    · exact hhash
    · exact h.hashes s hs

theorem indexVacant_eq {t₂ : Table} {header : Header} {h dist probe probe' : Nat} {evicted : Bool}
    {indices : List (Option Pos)} {statik : Option (Nat × Bool)}
    (hupdate : t.updateSize header.len none = some (t₂, evicted))
    (hback : (if evicted then t₂.backFrom dist probe else some probe) = some probe')
    (hlt : probe' < t₂.indices.length)
    (hshift : shiftFrom (t₂.indices.length + 1) ⟨wrappingSub 0 (wrappingAdd t₂.inserted 1), h⟩ probe'
      t₂.indices = some indices) :
    t.indexVacant header h dist probe statik = some ({ t₂.insert header h with indices := indices },
      match statik with
      | some (n, _) => .insertedValue n 0
      | none => .inserted 0) := by
  rw [← shiftFrom_first hlt] at hshift
  obtain ⟨prev, hprev, hshift⟩ := Option.bind_eq_some_iff.mp hshift
  rw [indexVacant, Header.isSensitive, if_neg Bool.false_ne_true, hupdate]
  have hlength : ∀ pos : Pos, (t₂.indices.set probe' (some pos)).length = t₂.indices.length :=
    fun _ => List.length_set
  cases evicted with
  | true =>
    rw [if_pos rfl] at hback
    rcases prev with _ | prev <;> rcases statik with _ | ⟨n, _⟩ <;>
      simp [hback, insert, hprev] at hshift ⊢ <;> simp [hshift]
  | false =>
    rw [if_neg Bool.false_ne_true, Option.some.injEq] at hback
    subst hback
    rcases prev with _ | prev <;> rcases statik with _ | ⟨n, _⟩ <;>
      simp [insert, hprev] at hshift ⊢ <;> simp [hshift]

theorem indexVacant_some (h : t.Inv hash) {header : Header} (hlen : header.len ≤ t.maxSize)
    (hlookup : header.LookedUp) (hroom : t.slots.length < t.capacity)
    (hrobin : Robin t.mask t.indices) {dist probe : Nat}
    (hfound : t.Found (hash header.name) header.name (.vacant dist probe))
    (statik : Option (Nat × Bool)) :
    ∃ t' idx, t.indexVacant header (hash header.name) dist probe statik = some (t', idx) ∧
      t'.Inv hash ∧ t'.maxSize = t.maxSize ∧ t.Answers header (statik.map Prod.fst) t' idx := by
  have hfew := h.few
  have habsent := hfound.absent h.sound
  generalize hgrown : ({ t with size := t.size + header.len } : Table) = t₁
  have hsound₁ : t₁.Sound hash := hgrown ▸ h.sound.resized (t.size + header.len) t.maxSize
  have hmax₁ : t₁.maxSize = t.maxSize := hgrown ▸ rfl
  have hheaders₁ : t₁.headers = t.headers := hgrown ▸ rfl
  have hslots₁ : t₁.slots = t.slots := hgrown ▸ rfl
  have hsize₁ : t₁.size = total Header.len t₁.headers + header.len := by
    rw [hheaders₁, ← h.size, ← hgrown]
  obtain ⟨t₂, hrun₂, hsound₂, hleft₂, hsize₂, hle₂, hheaders₂, hsame⟩ := convergeFrom_some
    t₁.slots.length hsound₁ hsize₁ (by simpa [hmax₁] using hlen)
  have hgrows : t.Left t₁ := by
    subst hgrown
    exact ⟨rfl, rfl, rfl, List.prefix_rfl, .refl _ _⟩
  have hleft : t.Left t₂ := hgrows.trans hleft₂
  have hlen₂ := hleft.shrinks.1
  have hrobin₂ : Robin t₂.mask t₂.indices := hsound₂.robin.resolve_left fun hnil => by
    have hn := hrobin.length_pos
    rw [hnil, List.length_nil] at hlen₂
    omega
  have hkept : decide (t₁.size > t₁.maxSize) = false → t₂.indices = t.indices := fun hnot => by
    rw [hsame (Nat.le_of_not_lt (of_decide_eq_false hnot)), ← hgrown]
  obtain ⟨dist', hdist', hback, hplace⟩ := hfound.place hleft hrobin₂ hkept
  obtain ⟨indices, hshift, hrobin₃, hlen₃, hperm₃⟩ := hplace.shift hrobin₂ (hsound₂.roomy hrobin₂) hdist'
    (rfl : homeOf t₂.mask ⟨wrappingSub 0 (wrappingAdd t₂.inserted 1), hash header.name⟩ = _)
  have hcount₂ := hleft.slots.length_le
  have hcap₂ : t₂.capacity = t.capacity := by rw [capacity, capacity, hlen₂]
  have hnew : ∀ s ∈ t₂.slots, s.header.name ≠ (⟨hash header.name, header, none⟩ : Slot).header.name :=
    fun s hs => habsent s (hleft.slots.subset hs)
  have hsound₃ := hsound₂.append hnew rfl rfl (by omega) (by omega) hrobin₃ hlen₃ rfl hperm₃
  generalize hdone : ({ t₂ with
    inserted := wrappingAdd t₂.inserted 1, slots := ⟨hash header.name, header, none⟩ :: t₂.slots,
    indices := indices } : Table) = t₃ at hsound₃
  have hmax₃ : t₃.maxSize = t.maxSize := by
    rw [← hdone]
    exact hleft.maxSize
  have hheaders₃ : t₃.headers = fit Header.len t.maxSize (header :: t.headers) := by
    rw [fit, if_pos hlen, ← hheaders₁, ← hmax₁, ← hheaders₂, ← hdone]
    rfl
  refine ⟨t₃, match statik with
    | some (n, _) => .insertedValue n 0
    | none => .inserted 0, ?_, ⟨hsound₃, ?_, ?_, by rw [hmax₃]; exact h.maxSize, ?_⟩, hmax₃, ?_⟩
  · have hupdate : t.updateSize header.len none = some (t₂, decide (t₁.size > t₁.maxSize)) := by
      rw [updateSize, hgrown, converge, hrun₂]
      rfl
    rw [indexVacant_eq hupdate hback (Nat.mod_lt _ hrobin₂.length_pos) hshift, ← hdone]
    rfl
  · rw [hheaders₃, fit, if_pos hlen, ← hheaders₁, ← hmax₁, ← hheaders₂, total_cons, ← hdone]
    dsimp only
    omega
  · rw [hmax₃, ← hmax₁, ← hdone]
    exact hle₂
  · rw [hheaders₃]
    exact stored_fit h hlookup _
  · have hnew : header ∉ t.headers := fun hin => by
      obtain ⟨s, hs, hheader⟩ := List.mem_map.mp hin
      exact habsent s hs (congrArg Header.name hheader)
    rcases statik with _ | ⟨n, _⟩
    · exact .added hnew hheaders₃ .new
    · exact .added hnew hheaders₃ (.static n)

theorem Answers.of_headers {t₁ t' : Table} {header : Header} {statik : Option Nat} {index : Index}
    (h : t₁.Answers header statik t' index) (hheaders : t₁.headers = t.headers)
    (hmax : t₁.maxSize = t.maxSize) : t.Answers header statik t' index := by
  cases h with
  | found hheaders' hget => exact .found (hheaders'.trans hheaders) (hheaders ▸ hget)
  | added hnew hheaders' hindex =>
    rw [hheaders] at hnew
    rw [hheaders, hmax] at hheaders'
    refine .added hnew hheaders' ?_
    cases hindex with
    | static n => exact .static n
    | name hget hname => exact .name (hheaders ▸ hget) hname
    | new => exact .new

theorem reserveOne_some (h : t.Inv hash) : ∃ t', t.reserveOne = some t' ∧ t'.Inv hash ∧
    t'.maxSize = t.maxSize ∧ t'.headers = t.headers ∧ t'.slots.length < t'.capacity ∧
    Robin t'.mask t'.indices := by
  have hroom := h.sound.room
  have hfew := h.few
  have hrobin : t.capacity ≠ 0 → Robin t.mask t.indices := fun hne =>
    h.sound.robin.resolve_left fun hnil => hne (by rw [capacity, hnil]; rfl)
  rw [reserveOne]
  split
  · rename_i hfull
    split
    · rename_i hzero
      have hslots := List.eq_nil_of_length_eq_zero hzero
      have hmasked : Masked 7 8 := ⟨⟨3, by decide, by decide, rfl⟩, rfl⟩
      have hempty : Sound hash ⟨7, List.replicate 8 none, [], t.inserted, t.size, t.maxSize⟩ :=
        .of_empty h.sound.inserted (.inr hmasked)
      rw [← hslots] at hempty
      refine ⟨_, rfl, ⟨hempty, h.size, h.bound, h.maxSize, h.stored⟩, rfl, rfl, ?_, .replicate hmasked⟩
      rw [hzero]
      exact (by decide : 0 < usableCapacity 8)
    · rename_i hne
      have hrobin := hrobin (by omega)
      have height := hrobin.masked.eight_le
      have hcap : t.indices.length - t.indices.length / 4 = t.slots.length := hfull.symm
      obtain ⟨mask, indices, hgrow, hrobin', hlen, hperm⟩ :=
        grow_some hrobin (h.sound.roomy hrobin) (by omega)
      have hlt : t.slots.length < usableCapacity indices.length := by
        rw [usableCapacity, hlen]
        omega
      refine ⟨_, hgrow, ⟨⟨h.sound.inserted, h.sound.few, Nat.le_of_lt hlt, .inr hrobin',
        hperm.trans h.sound.heads, h.sound.linked, h.sound.hashes⟩, h.size, h.bound, h.maxSize,
        h.stored⟩, rfl, rfl, hlt, hrobin'⟩
  · rename_i hne
    exact ⟨t, rfl, h, rfl, rfl, by omega, hrobin (by omega)⟩

theorem indexDynamic_some (h : t.Inv hash) {header : Header} (hlen : header.len ≤ t.maxSize)
    (hlookup : header.LookedUp) (statik : Option (Nat × Bool)) :
    ∃ t' idx, t.indexDynamic hash header statik = some (t', idx) ∧ t'.Inv hash ∧
      t'.maxSize = t.maxSize ∧ t.Answers header (statik.map Prod.fst) t' idx := by
  obtain ⟨t₁, hreserve, hinv, hmax, hheaders, hroom, hrobin⟩ := reserveOne_some h
  have hn := hrobin.length_pos
  obtain ⟨z, hz, hempty⟩ := exists_empty_from (hinv.sound.roomy hrobin)
    (desiredPos t₁.mask (hash header.name) + 0)
  have hdesired : desiredPos t₁.mask (hash header.name) ≤ t₁.indices.length := by
    rw [desiredPos, hrobin.masked.and_eq]
    exact Nat.le_of_lt (Nat.mod_lt _ hn)
  have hslots : ∀ k pos, cellAt t₁.indices k = some pos → pos.hash = hash header.name →
      ∃ slot, t₁.slots[wrappingAdd pos.index t₁.inserted]? = some slot := fun k pos hpos _ => by
    obtain ⟨n, hmem, rfl⟩ := hinv.sound.mem_iff.mp (mem_reduceOption_of_cellAt hn hpos)
    obtain ⟨j, hj, -, hreal⟩ := hinv.sound.lookup ((Chained.heads_sublist _).subset hmem)
    exact ⟨n.2, by rw [posOf, hreal, hj]⟩
  obtain ⟨found, hprobe, hfound⟩ := probeFrom_some hrobin hslots hempty
    (by omega) ⟨hdesired, rfl⟩ (fun _ hno => absurd hno (Nat.not_lt_zero _))
    (by omega : z < t₁.indices.length + 1)
  rw [← hmax] at hlen
  rw [indexDynamic, Header.isSensitive]
  simp only [Bool.not_false, Bool.or_true, if_true, hreserve, Option.bind_eq_bind, Option.bind_some]
  rw [if_neg (by simpa using List.length_pos_iff.mp hn), hprobe, ← hmax]
  cases found with
  | vacant dist probe =>
    obtain ⟨t', idx, hvacant, hinv', hmax', hanswers⟩ :=
      indexVacant_some hinv hlen hlookup hroom hrobin hfound statik
    exact ⟨t', idx, hvacant, hinv', hmax', hanswers.of_headers hheaders hmax⟩
  | occupied index =>
    obtain ⟨t', idx, hoccupied, hinv', hmax', hanswers⟩ :=
      indexOccupied_some hinv hlen hlookup hroom hfound (statik.map Prod.fst)
    exact ⟨t', idx, hoccupied, hinv', hmax', hanswers.of_headers hheaders hmax⟩

/-- What `index` does: a header is written as the static table has it, or it is looked up. -/
inductive Outcome (t : Table) (header : Header) : Table → Index → Prop
  | skipped (h : header.len * 4 > t.maxSize * 3 ∨ ¬header.LookedUp) :
    t.Outcome header t (Index.new (indexStatic header) header)
  | answered {t' : Table} {index : Index} (hlookup : header.LookedUp)
    (hlen : header.len * 4 ≤ t.maxSize * 3)
    (h : t.Answers header ((indexStatic header).map Prod.fst) t' index) : t.Outcome header t' index

def Fits (t : Table) (header : Header) : Prop := header.len * 4 < 2 ^ 64 ∧ t.maxSize * 3 < 2 ^ 64

theorem index_skipped {header : Header} (hskip : ¬header.LookedUp) :
    t.index hash header = some (t, Index.new (indexStatic header) header) := by
  rw [index]
  by_cases hvalue : header.skipValueIndex = true
  · rw [if_pos hvalue]
  · rw [if_neg hvalue]
    have hfull : ∃ n, indexStatic header = some (n, true) := by
      by_contra hno
      exact hskip ⟨Bool.not_eq_true _ ▸ hvalue, fun n hn => hno ⟨n, hn⟩⟩
    obtain ⟨n, hn⟩ := hfull
    rw [hn]
    rfl

theorem index_lookedUp {header : Header} (hlookup : header.LookedUp) :
    t.index hash header = (mulUsize header.len 4).bind fun len => (mulUsize t.maxSize 3).bind fun max =>
      if len > max then some (t, Index.new (indexStatic header) header)
      else t.indexDynamic hash header (indexStatic header) := by
  rw [index, if_neg (by rw [hlookup.1]; exact Bool.false_ne_true)]
  rcases hstatic : indexStatic header with _ | ⟨n, _ | _⟩
  · rfl
  · rfl
  · exact absurd hstatic (hlookup.2 n)

omit [HeaderPlz] in
theorem mulUsize_some {a b c : Nat} : mulUsize a b = some c ↔ a * b < 2 ^ 64 ∧ a * b = c := by
  rw [mulUsize, Option.ite_none_right_eq_some, Option.some.injEq]

/-- A call returns, unless one of its products overflows. -/
theorem index_some (h : t.Inv hash) {header : Header} (hfits : t.Fits header) :
    ∃ t' idx, t.index hash header = some (t', idx) ∧
      t'.Inv hash ∧ t'.maxSize = t.maxSize ∧ t.Outcome header t' idx := by
  by_cases hlookup : header.LookedUp
  · rw [index_lookedUp hlookup, mulUsize_some.mpr ⟨hfits.1, rfl⟩, mulUsize_some.mpr ⟨hfits.2, rfl⟩,
      Option.bind_some, Option.bind_some]
    split
    · rename_i hlarge
      exact ⟨t, _, rfl, h, rfl, .skipped (.inl hlarge)⟩
    · rename_i hsmall
      have hlen := Nat.le_of_not_lt hsmall
      obtain ⟨t', idx, hdynamic, hinv, hmax, hanswers⟩ :=
        indexDynamic_some h (by omega) hlookup (indexStatic header)
      exact ⟨t', idx, hdynamic, hinv, hmax, .answered hlookup hlen hanswers⟩
  · exact ⟨t, _, index_skipped hlookup, h, rfl, .skipped (.inr hlookup)⟩

theorem index_inv (h : t.Inv hash) {header : Header} {t' : Table} {idx : Index}
    (hindex : t.index hash header = some (t', idx)) : t'.Inv hash ∧ t'.maxSize = t.maxSize := by
  by_cases hlookup : header.LookedUp
  · have hproducts := (index_lookedUp hlookup).symm.trans hindex
    obtain ⟨len, hlen, hproducts⟩ := Option.bind_eq_some_iff.mp hproducts
    obtain ⟨max, hmax, -⟩ := Option.bind_eq_some_iff.mp hproducts
    obtain ⟨_, _, hrun, hinv, hsame, -⟩ := index_some h ⟨(mulUsize_some.mp hlen).1, (mulUsize_some.mp hmax).1⟩
    cases hrun.symm.trans hindex
    exact ⟨hinv, hsame⟩
  · cases (index_skipped hlookup).symm.trans hindex
    exact ⟨h, rfl⟩

end Table

end TwoPlz.Hpack
