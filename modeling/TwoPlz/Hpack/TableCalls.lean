import TwoPlz.Hpack.Indexing
import TwoPlz.Hpack.StaticIndex

/-! The table of the HPACK encoder over all its calls. -/

open RobinHood Budget

namespace TwoPlz.Hpack

section

variable [HeaderPlz]

theorem map_snd_nodesFrom (inserted k : Nat) (slots : List Slot) :
    (nodesFrom inserted k slots).map Prod.snd = slots.reverse := by
  induction slots generalizing k with
  | nil => rfl
  | cons slot slots ih => simp [nodesFrom, ih]

theorem map_fst_nodesFrom (inserted k : Nat) (slots : List Slot) : (nodesFrom inserted k slots).map Prod.fst
    = ((List.range slots.length).map fun j => wrappingSub (k + j) inserted).reverse := by
  induction slots generalizing k with
  | nil => rfl
  | cons slot slots ih =>
    rw [nodesFrom, List.map_append, ih, List.length_cons, List.range_succ_eq_map,
      List.map_cons (l := List.map _ _), List.map_map, List.reverse_cons, List.map_singleton]
    congr 3
    funext j
    rw [Function.comp_apply, Nat.add_assoc, Nat.add_comm 1 j]

omit [HeaderPlz] in
theorem place_unique {l : List (Option Pos)} {i j : Nat} {pos : Pos} (h : l.reduceOption.Nodup)
    (hi : l[i]? = some (some pos)) (hj : l[j]? = some (some pos)) : i = j := by
  by_contra hne
  have hnodup := (List.reduceOption_set_none hi).nodup_iff.mp h
  refine (List.nodup_cons.mp hnodup).1 (List.reduceOption_mem_iff.mpr (List.mem_of_getElem? (i := j) ?_))
  rw [List.getElem?_set_ne hne, hj]

inductive TableCall : Type
  | index (header : Header)
  | resize (size : Nat)

def Index.dynamic : Index → Option Nat
  | .indexed idx _ => if DYN_OFFSET ≤ idx then some (idx - DYN_OFFSET) else none
  | _ => none

def TableCall.Sized : TableCall → Prop
  | .index _ => True
  | .resize size => size < 2 ^ 64

def TableCall.Fits : TableCall → Prop
  | .index header => header.len * 4 < 2 ^ 64
  | .resize size => size * 3 < 2 ^ 64

namespace Table

def call (hash : Name → Nat) (t : Table) : TableCall → Option Table
  | .index header => (t.index hash header).map Prod.fst
  | .resize size => t.resize size

def calls (hash : Name → Nat) : Table → List TableCall → Option Table
  | t, [] => some t
  | t, c :: cs => (t.call hash c).bind fun t => calls hash t cs

/-- The state that `assert_valid_state` has been written to check. -/
structure Valid (hash : Name → Nat) (t : Table) : Prop where
  size : t.size = (t.slots.map fun slot => slot.header.len).sum
  bound : t.size ≤ t.maxSize
  /-- Each slot is referred to by one entry of `indices` or by one `next`, and nothing else is. -/
  refs : (t.indices.reduceOption.map Pos.index ++ t.slots.filterMap Slot.next).Perm
    ((List.range t.slots.length).map fun k => wrappingSub k t.inserted)
  /-- A `next` leads to a newer slot, with the same name. -/
  next : ∀ k slot idx, t.slots[k]? = some slot → slot.next = some idx →
    ∃ k' slot', k' < k ∧ t.slots[k']? = some slot' ∧ idx = wrappingSub k' t.inserted ∧
      slot'.header.name = slot.header.name
  /-- An entry has the hash of its slot, and the probe for it finds it. -/
  found : ∀ p pos, t.indices[p]? = some (some pos) →
    (∃ slot, t.slots[wrappingAdd pos.index t.inserted]? = some slot ∧ pos.hash = hash slot.header.name) ∧
      t.position pos.index t.indices.length (desiredPos t.mask pos.hash) = some (p, pos)
  /-- Behind an entry nobody is further away from the desired position than one more. -/
  ordered : ∀ p pos, t.indices[(p + 1) % t.indices.length]? = some (some pos) →
    probeDistance t.mask pos.hash ((p + 1) % t.indices.length) ≠ 0 →
    ∃ pos', t.indices[p % t.indices.length]? = some (some pos') ∧
      probeDistance t.mask pos.hash ((p + 1) % t.indices.length)
        ≤ probeDistance t.mask pos'.hash (p % t.indices.length) + 1
  empty : t.indices ≠ [] → none ∈ t.indices

variable {hash : Name → Nat} {t : Table}

theorem new_inv (hash : Name → Nat) {maxSize capacity : Nat} (hmax : maxSize < 2 ^ 64)
    (hcapacity : (new maxSize capacity).indices.length ≤ 2 ^ 62) :
    (new maxSize capacity).Inv hash := by
  rw [new] at hcapacity ⊢
  split
  · exact ⟨.of_empty (by decide) (.inl rfl), rfl, Nat.zero_le _, hmax, fun _ hno => by cases hno⟩
  · rename_i hne
    rw [if_neg hne] at hcapacity
    obtain ⟨e, he⟩ := Nat.isPowerOfTwo_nextPowerOfTwo (toRawCapacity capacity)
    have hpow : max (toRawCapacity capacity).nextPowerOfTwo 8 = 2 ^ max e 3 := by
      rw [he]
      rcases Nat.le_total e 3 with hle | hle
      · have hle' : 2 ^ e ≤ 8 := Nat.pow_le_pow_right (n := 2) (by decide) hle
        rw [Nat.max_eq_right hle, Nat.max_eq_right hle']
        rfl
      · have hle' : 8 ≤ 2 ^ e := Nat.pow_le_pow_right (n := 2) (by decide) hle
        rw [Nat.max_eq_left hle, Nat.max_eq_left hle']
    dsimp only at hcapacity ⊢
    rw [hpow] at hcapacity ⊢
    rw [List.length_replicate] at hcapacity
    have hexp := (Nat.pow_le_pow_iff_right (a := 2) (by decide)).mp hcapacity
    have hpos := Nat.two_pow_pos (max e 3)
    have hmasked : Masked (wrappingSub (2 ^ max e 3) 1) (2 ^ max e 3) :=
      ⟨⟨_, Nat.le_max_right _ _, hexp, rfl⟩, by rw [wrappingSub]; omega⟩
    exact ⟨.of_empty (by decide) (.inr hmasked), rfl, Nat.zero_le _, hmax, fun _ hno => by cases hno⟩

theorem calls_inv (h : t.Inv hash) {cs : List TableCall} (hcs : ∀ c ∈ cs, c.Sized) {t' : Table}
    (hcalls : t.calls hash cs = some t') : t'.Inv hash := by
  induction cs generalizing t with
  | nil =>
    cases hcalls
    exact h
  | cons c cs ih =>
    have hrest := fun c hc => hcs c (List.mem_cons_of_mem _ hc)
    obtain ⟨t₁, hcall, hrun⟩ := Option.bind_eq_some_iff.mp hcalls
    cases c with
    | index header =>
      obtain ⟨⟨_, idx⟩, hindex, rfl⟩ := Option.map_eq_some_iff.mp hcall
      exact ih (index_inv h hindex).1 hrest hrun
    | resize size =>
      obtain ⟨_, hresize, hinv, -⟩ := resize_some h (hcs _ List.mem_cons_self)
      cases hresize.symm.trans hcall
      exact ih hinv hrest hrun

theorem calls_fits (h : t.Inv hash) (hmax : t.maxSize * 3 < 2 ^ 64) (cs : List TableCall)
    (hcs : ∀ c ∈ cs, c.Fits) :
    ∃ t', t.calls hash cs = some t' ∧ t'.Inv hash ∧ t'.maxSize * 3 < 2 ^ 64 := by
  induction cs generalizing t with
  | nil => exact ⟨t, rfl, h, hmax⟩
  | cons c cs ih =>
    have hrest := fun c hc => hcs c (List.mem_cons_of_mem _ hc)
    have hfits := hcs c List.mem_cons_self
    cases c with
    | index header =>
      obtain ⟨t', idx, hindex, hinv, hsame, -⟩ := index_some h ⟨hfits, hmax⟩
      obtain ⟨t'', hcalls, hinv', hmax'⟩ := ih hinv (hsame ▸ hmax) hrest
      exact ⟨t'', by rw [calls, call, hindex]; exact hcalls, hinv', hmax'⟩
    | resize size =>
      have hsize : size * 3 < 2 ^ 64 := hfits
      obtain ⟨t', hresize, hinv, hsame, -⟩ := resize_some h (by omega : size < 2 ^ 64)
      obtain ⟨t'', hcalls, hinv', hmax'⟩ := ih hinv (hsame ▸ hsize) hrest
      exact ⟨t'', by rw [calls, call, hresize]; exact hcalls, hinv', hmax'⟩

theorem refs_perm (h : t.Sound hash) :
    (t.indices.reduceOption.map Pos.index ++ t.slots.filterMap Slot.next).Perm
      ((List.range t.slots.length).map fun k => wrappingSub k t.inserted) := by
  have hheads : (t.indices.reduceOption.map Pos.index).Perm
      ((Chained.heads nodeName t.nodes).map Prod.fst) := by
    refine (h.heads.map Pos.index).trans (.of_eq ?_)
    rw [List.map_map]
    rfl
  have hnexts : (t.nodes.filterMap fun n => n.2.next).Perm (t.slots.filterMap Slot.next) := by
    have hsnd := map_snd_nodesFrom t.inserted 0 t.slots
    have hmap : (t.nodes.filterMap fun n => n.2.next)
        = (t.nodes.map Prod.snd).filterMap Slot.next := by rw [List.filterMap_map]; rfl
    rw [hmap, nodes, hsnd]
    exact (List.reverse_perm _).filterMap _
  have hidents : (t.nodes.map Prod.fst).Perm
      ((List.range t.slots.length).map fun k => wrappingSub k t.inserted) := by
    rw [nodes, map_fst_nodesFrom]
    simp
  exact (hheads.append hnexts.symm).trans (h.linked.refs_perm.trans hidents)

theorem nodup_heads (h : t.Sound hash) : t.indices.reduceOption.Nodup := by
  have hnodup : ((List.range t.slots.length).map fun k => wrappingSub k t.inserted).Nodup := by
    refine List.Nodup.map_on (fun i hi j hj heq => ?_) List.nodup_range
    have hfew := h.few
    rw [List.mem_range] at hi hj
    exact wrappingSub_inj (by omega) (by omega) h.inserted heq
  exact ((refs_perm h).nodup_iff.mpr hnodup).of_append_left.of_map _

theorem Inv.valid (h : t.Inv hash) : t.Valid hash := by
  refine ⟨?_, h.bound, refs_perm h.sound, fun k slot idx hk hnext => ?_, fun p pos hp => ?_,
    fun p pos hp hne => ?_, fun hne => ?_⟩
  · rw [h.size, total, headers, List.map_map]
    rfl
  · obtain ⟨hlt, hget⟩ := List.getElem?_eq_some_iff.mp hk
    have hslots : t.slots = t.slots.take k ++ slot :: t.slots.drop (k + 1) := by
      rw [← hget, ← List.drop_eq_getElem_cons hlt, List.take_append_drop]
    have hlinked := h.sound.linked
    rw [nodes, hslots, nodesFrom_append, nodesFrom, List.append_assoc, List.singleton_append] at hlinked
    have heq : slot.next = ((nodesFrom t.inserted 0 (t.slots.take k)).find?
      fun n => nodeName n = slot.header.name).map Prod.fst := hlinked.next_eq
    obtain ⟨b, hfind, rfl⟩ := Option.map_eq_some_iff.mp (heq.symm.trans hnext)
    obtain ⟨newer, older, hnewer, hident, hname, -⟩ := find?_nodes_some hfind
    have hlen := congrArg List.length hnewer
    rw [List.length_take, List.length_append, List.length_cons] at hlen
    refine ⟨newer.length, b.2, by omega, ?_, by rw [hident, Nat.zero_add], hname⟩
    rw [hslots, List.getElem?_append_left (by rw [List.length_take]; omega), hnewer]
    simp
  · have hmem : pos ∈ t.indices.reduceOption := List.reduceOption_mem_iff.mpr (List.mem_of_getElem? hp)
    have hrobin := h.sound.robin_of_mem hmem
    obtain ⟨n, hn, rfl⟩ := h.sound.mem_iff.mp hmem
    obtain ⟨j, hj, -, hreal⟩ := h.sound.lookup ((Chained.heads_sublist _).subset hn)
    refine ⟨⟨n.2, by rw [posOf, hreal, hj], h.sound.hashes n.2 (List.mem_of_getElem? hj)⟩, ?_⟩
    obtain ⟨k, hposition, hcell⟩ := h.sound.position_some hn
    have hk : t.indices[k % t.indices.length]? = some (some (posOf n)) := by
      rw [getElem?_cellAt hrobin.length_pos, hcell]
    rw [place_unique (nodup_heads h.sound) hp hk]
    exact hposition
  · have hrobin := h.sound.robin_of_mem (List.reduceOption_mem_iff.mpr (List.mem_of_getElem? hp))
    have hn := hrobin.length_pos
    rw [getElem?_cellAt hn, Option.some.injEq] at hp
    rw [probeDistance_eq hrobin.masked, disp_congr (Nat.mod_modEq _ _)] at hne ⊢
    obtain ⟨pos', hpos', hle⟩ := hrobin.ordered.after p pos hp hne
    refine ⟨pos', by rw [getElem?_cellAt hn, hpos'], ?_⟩
    rw [probeDistance_eq hrobin.masked, disp_congr (k := p % t.indices.length) (Nat.mod_modEq _ _)]
    exact hle
  · have hrobin := h.sound.robin.resolve_left hne
    obtain ⟨z, hz, hempty⟩ := exists_empty (h.sound.roomy hrobin)
    have hat := getElem?_cellAt hrobin.length_pos z
    rw [hempty] at hat
    exact List.mem_of_getElem? hat

theorem Literal.not_dynamic {header : Header} {statik : Option Nat} {index : Index}
    (h : t.Literal header statik index) : index.dynamic = none := by
  cases h <;> rfl

theorem dynamic_static (header : Header) : (Index.new (indexStatic header) header).dynamic = none := by
  rcases hstatic : indexStatic header with _ | ⟨n, _ | _⟩
  · rfl
  · rfl
  · have hrange := indexStatic_range hstatic
    exact if_neg (by rw [DYN_OFFSET]; omega)

theorem Inv.index_dynamic (h : t.Inv hash) {header : Header} (hfits : t.Fits header) : ∃ t' idx,
    t.index hash header = some (t', idx) ∧ ((∃ k, idx.dynamic = some k) ↔
      header.len * 4 ≤ t.maxSize * 3 ∧ ∃ slot ∈ t.slots, slot.header = header) ∧
    ∀ k, idx.dynamic = some k → ∃ slot, t'.slots[k]? = some slot ∧ slot.header = header := by
  obtain ⟨t', idx, hindex, -, -, houtcome⟩ := index_some h hfits
  have hmem : (∃ slot ∈ t.slots, slot.header = header) ↔ header ∈ t.headers := List.mem_map.symm
  refine ⟨t', idx, hindex, ?_⟩
  rw [hmem]
  cases houtcome with
  | skipped hskipped =>
    rw [dynamic_static]
    refine ⟨⟨nofun, fun ⟨hlen, hin⟩ => ?_⟩, nofun⟩
    rcases hskipped with hlarge | hnot
    · omega
    · exact absurd (h.stored header hin) hnot
  | answered hlookup hlen hanswers =>
    cases hanswers with
    | found hheaders hget =>
      rename_i k
      have hdynamic : (Index.indexed (k + DYN_OFFSET) header).dynamic = some k := by
        rw [Index.dynamic, if_pos (Nat.le_add_left _ _), Nat.add_sub_cancel]
      rw [hdynamic]
      refine ⟨⟨fun _ => ⟨hlen, List.mem_of_getElem? hget⟩, fun _ => ⟨k, rfl⟩⟩, fun j hj => ?_⟩
      cases hj
      rw [← hheaders, headers, List.getElem?_map] at hget
      exact Option.map_eq_some_iff.mp hget
    | added hnew hheaders hindex =>
      rw [hindex.not_dynamic]
      exact ⟨⟨nofun, fun ⟨_, hin⟩ => absurd hin hnew⟩, nofun⟩

/-- The table is in order after each call, and no call panics, as long as the products in `index` do
not overflow. -/
theorem calls_valid (hash : Name → Nat) {maxSize capacity : Nat} (hmax : maxSize * 3 < 2 ^ 64)
    (hcapacity : (new maxSize capacity).indices.length ≤ 2 ^ 62) (cs : List TableCall)
    (hcs : ∀ c ∈ cs, c.Fits) :
    ∃ t, (new maxSize capacity).calls hash cs = some t ∧ t.Valid hash ∧
      ∀ header : Header, header.len * 4 < 2 ^ 64 → ∃ t' idx,
        t.index hash header = some (t', idx) ∧ ((∃ k, idx.dynamic = some k) ↔
          header.len * 4 ≤ t.maxSize * 3 ∧ ∃ slot ∈ t.slots, slot.header = header) ∧
        ∀ k, idx.dynamic = some k → ∃ slot, t'.slots[k]? = some slot ∧ slot.header = header := by
  have hnew : (new maxSize capacity).maxSize = maxSize := by
    rw [new]
    split <;> rfl
  obtain ⟨t, hcalls, hinv, hsmall⟩ :=
    calls_fits (new_inv hash (by omega) hcapacity) (hnew.symm ▸ hmax) cs hcs
  exact ⟨t, hcalls, hinv.valid, fun header hlen => hinv.index_dynamic ⟨hlen, hsmall⟩⟩

end Table

end

section

attribute [local instance] plain

def xHeader : Header := .field [120] (List.replicate 67 0)

theorem calls_valid_resized : ∃ t, (Table.new 4096 0).calls (fun _ => 0)
    [.index xHeader, .resize 4096, .resize 120] = some t ∧ t.Valid (fun _ => 0) ∧
      ∃ t' idx, t.index (fun _ => 0) xHeader = some (t', idx) ∧ ((∃ k, idx.dynamic = some k) ↔
        xHeader.len * 4 ≤ t.maxSize * 3 ∧ ∃ slot ∈ t.slots, slot.header = xHeader) := by
  obtain ⟨t, hcalls, hvalid, hindex⟩ := Table.calls_valid (fun _ => 0) (by decide : 4096 * 3 < 2 ^ 64)
    (by decide : (Table.new 4096 0).indices.length ≤ 2 ^ 62) [.index xHeader, .resize 4096, .resize 120] (by
      intro c hc
      simp only [List.mem_cons, List.not_mem_nil, or_false] at hc
      rcases hc with rfl | rfl | rfl
      · exact (by decide : xHeader.len * 4 < 2 ^ 64)
      · exact (by decide : 4096 * 3 < 2 ^ 64)
      · exact (by decide : 120 * 3 < 2 ^ 64))
  obtain ⟨t', idx, hrun, hdynamic, -⟩ := hindex xHeader (by decide)
  exact ⟨t, hcalls, hvalid, t', idx, hrun, hdynamic⟩

/-- After the table has become small, the entry that is left in it is not found again. -/
theorem index_not_found :
    (((Table.new 4096 0).calls (fun _ => 0) [.index xHeader, .resize 120]).map fun t =>
      (t.headers, (t.index (fun _ => 0) xHeader).map fun r => r.2.dynamic))
      = some ([xHeader], some none) := by decide +kernel

end

end TwoPlz.Hpack
