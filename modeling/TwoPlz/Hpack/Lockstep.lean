import TwoPlz.Hpack.TableCalls
import TwoPlz.Hpack.Written

/-! The encoder and the decoder keep the same table. -/

open Budget

namespace TwoPlz.Hpack

section

variable [HeaderPlz]

namespace DynamicTable

theorem consolidateFrom_fit (max : Nat) (l : List Header) :
    consolidateFrom max l.reverse (Budget.total Header.len l)
      = some ((fit Header.len max l).reverse, Budget.total Header.len (fit Header.len max l)) := by
  generalize hr : l.reverse = r
  induction r generalizing l with
  | nil =>
    rw [List.reverse_eq_nil_iff] at hr
    subst hr
    exact if_neg (Nat.not_lt_zero max)
  | cons last newer ih =>
    obtain rfl : l = newer.reverse ++ [last] := by rw [← List.reverse_reverse l, hr, List.reverse_cons]
    rw [consolidateFrom, Budget.total_append, Budget.total_cons, Budget.total_nil, Nat.add_zero]
    split
    · rename_i hover
      rw [if_pos (Nat.le_add_left _ _), Nat.add_sub_cancel, ih _ (List.reverse_reverse _),
        fit_append_singleton hover]
    · rename_i hfits
      rw [fit_of_total_le (by simpa using Nat.le_of_not_lt hfits)]
      simp

theorem reserveFrom_fit {max need : Nat} (hneed : need ≤ max) (l : List Header) :
    reserveFrom max need l.reverse (Budget.total Header.len l)
      = some ((fit Header.len (max - need) l).reverse,
        Budget.total Header.len (fit Header.len (max - need) l)) := by
  generalize hr : l.reverse = r
  induction r generalizing l with
  | nil =>
    rw [List.reverse_eq_nil_iff] at hr
    subst hr
    rfl
  | cons last newer ih =>
    obtain rfl : l = newer.reverse ++ [last] := by rw [← List.reverse_reverse l, hr, List.reverse_cons]
    rw [reserveFrom, Budget.total_append, Budget.total_cons, Budget.total_nil, Nat.add_zero]
    split
    · rename_i hover
      rw [if_pos (Nat.le_add_left _ _), Nat.add_sub_cancel, ih _ (List.reverse_reverse _),
        fit_append_singleton (by omega)]
    · rename_i hfits
      rw [fit_of_total_le (by simp; omega)]
      simp

theorem setMaxSize_fit (l : List Header) (max size : Nat) :
    (⟨l, Budget.total Header.len l, max⟩ : DynamicTable).setMaxSize size
      = some ⟨fit Header.len size l, Budget.total Header.len (fit Header.len size l), size⟩ := by
  rw [setMaxSize, consolidateFrom_fit, Option.map_some, List.reverse_reverse]

theorem insert_fit (l : List Header) {max : Nat} {entry : Header} (h : entry.len ≤ max) :
    (⟨l, Budget.total Header.len l, max⟩ : DynamicTable).insert entry
      = some ⟨fit Header.len max (entry :: l),
        Budget.total Header.len (fit Header.len max (entry :: l)), max⟩ := by
  have hle := total_fit_le Header.len (max - entry.len) l
  rw [insert, reserve, reserveFrom_fit h]
  simp only [Option.map_some, Option.bind_eq_bind, Option.bind_some, List.reverse_reverse]
  rw [if_pos (by omega), fit, if_pos h, Budget.total_cons, Nat.add_comm]

end DynamicTable

def Table.dynamic (t : Table) : DynamicTable := ⟨t.headers, t.size, t.maxSize⟩

namespace Table

variable {hash : Name → Nat} {t t' : Table}

theorem Inv.dynamic_eq (h : t.Inv hash) {l : List Header} (hheaders : t.headers = l) :
    t.dynamic = ⟨l, Budget.total Header.len l, t.maxSize⟩ := by
  rw [dynamic, h.size, hheaders]

theorem Inv.setMaxSize (h : t.Inv hash) (h' : t'.Inv hash)
    (hheaders : t'.headers = fit Header.len t'.maxSize t.headers) :
    t.dynamic.setMaxSize t'.maxSize = some t'.dynamic := by
  rw [h.dynamic_eq rfl, h'.dynamic_eq hheaders, DynamicTable.setMaxSize_fit]

theorem Inv.insert (h : t.Inv hash) (h' : t'.Inv hash) {header : Header} (hlen : header.len ≤ t.maxSize)
    (hmax : t'.maxSize = t.maxSize)
    (hheaders : t'.headers = fit Header.len t.maxSize (header :: t.headers)) :
    t.dynamic.insert header = some t'.dynamic := by
  rw [h.dynamic_eq rfl, h'.dynamic_eq hheaders, DynamicTable.insert_fit _ hlen, hmax]

end Table

namespace Table

variable {hash : Name → Nat} {t : Table}

theorem resizes_some (h : t.Inv hash) (sizes : List Nat) (hsizes : ∀ size ∈ sizes, size < 2 ^ 64) :
    ∃ t', sizes.foldlM resize t = some t' ∧ t'.Inv hash ∧
      t'.headers = fit Header.len (sizes.foldl min t.maxSize) t.headers ∧
      t'.maxSize = sizes.getLast?.getD t.maxSize ∧
      sizes.foldlM DynamicTable.setMaxSize t.dynamic = some t'.dynamic := by
  induction sizes generalizing t with
  | nil =>
    refine ⟨t, rfl, h, ?_, rfl, rfl⟩
    rw [List.foldl_nil, fit_of_total_le]
    rw [← h.size]
    exact h.bound
  | cons size sizes ih =>
    obtain ⟨t₁, hresize, hinv₁, hmax₁, hheaders₁⟩ := resize_some h (hsizes _ List.mem_cons_self)
    obtain ⟨t', hrun, hinv', hheaders', hmax', hdynamic⟩ :=
      ih hinv₁ fun size hsize => hsizes size (List.mem_cons_of_mem _ hsize)
    have hset := h.setMaxSize hinv₁ (by rw [hmax₁, hheaders₁])
    rw [hmax₁] at hset hheaders' hmax'
    refine ⟨t', ?_, hinv', ?_, ?_, ?_⟩
    · rw [List.foldlM_cons, hresize]
      exact hrun
    · have hfit : fit Header.len t.maxSize t.headers = t.headers :=
        fit_of_total_le (by rw [← h.size]; exact h.bound)
      have hassoc : ∀ a b : Nat, sizes.foldl min (min a b) = min (sizes.foldl min b) a := fun a b =>
        (@List.foldl_assoc Nat min inferInstance sizes a b).trans (Nat.min_comm _ _)
      have hlow := hassoc size size
      rw [Nat.min_self] at hlow
      rw [hheaders', hheaders₁, fit_fit, ← hlow, List.foldl_cons, hassoc, ← fit_fit, hfit]
    · rw [hmax', List.getLast?_cons]
      rfl
    · rw [List.foldlM_cons, hset]
      exact hdynamic

end Table

theorem Accepts.sizeUpdates {d d' : Decoder} {t : DynamicTable} {rest : Bytes} {out : List Header}
    {sizes : List Nat} (hsizes : ∀ size ∈ sizes, size < 2 ^ 28 + 31 ∧ size ≤ d.lastMaxUpdate)
    (hset : sizes.foldlM DynamicTable.setMaxSize d.table = some t)
    (h : Accepts true { d with table := t } rest out d') :
    Accepts true d (sizes.flatMap encodeSizeUpdate ++ rest) out d' := by
  induction sizes generalizing d with
  | nil =>
    cases hset
    exact h
  | cons size sizes ih =>
    obtain ⟨hsize, hlast⟩ := hsizes size List.mem_cons_self
    rw [List.foldlM_cons] at hset
    obtain ⟨t₁, ht₁, hset⟩ := Option.bind_eq_some_iff.mp hset
    rw [List.flatMap_cons, List.append_assoc]
    refine .sizeUpdate hsize hlast ht₁ (ih (fun size hsize => ?_) hset h)
    exact hsizes size (List.mem_cons_of_mem _ hsize)

namespace Encoder

variable {hash : Name → Nat} {e : Encoder}

theorem bound_updateMaxSize (e : Encoder) (val : Nat) :
    (e.updateMaxSize val).bound = e.bound.updateMaxSize val := by
  change (⟨e.bound.maxSize, (e.bound.updateMaxSize val).sizeUpdate⟩ : TableBound) = _
  rw [← e.bound.maxSize_updateMaxSize val]

theorem foldl_updateMaxSize (e : Encoder) (vals : List Nat) :
    (vals.foldl updateMaxSize e).table = e.table ∧
      (vals.foldl updateMaxSize e).bound = vals.foldl TableBound.updateMaxSize e.bound := by
  induction vals generalizing e with
  | nil => exact ⟨rfl, rfl⟩
  | cons val vals ih =>
    obtain ⟨htable, hbound⟩ := ih (e.updateMaxSize val)
    rw [List.foldl_cons, List.foldl_cons, htable, hbound, bound_updateMaxSize]
    exact ⟨rfl, rfl⟩

theorem encodeSizeUpdates_some (h : e.table.Inv hash) (hsizes : ∀ size ∈ e.bound.announced, size < 2 ^ 64)
    (dst : Bytes) :
    ∃ table, e.encodeSizeUpdates dst
        = some (⟨table, none⟩, dst ++ e.bound.announced.flatMap encodeSizeUpdate) ∧
      table.Inv hash ∧ table.headers = fit Header.len (e.bound.announced.foldl min e.table.maxSize) e.table.headers ∧
      table.maxSize = e.bound.announced.getLast?.getD e.table.maxSize ∧
      e.bound.announced.foldlM DynamicTable.setMaxSize e.table.dynamic = some table.dynamic := by
  obtain ⟨table, hrun, hinv, hheaders, hmax, hset⟩ := Table.resizes_some h _ hsizes
  refine ⟨table, ?_, hinv, hheaders, hmax, hset⟩
  rw [encodeSizeUpdates]
  obtain ⟨t, _ | ⟨val⟩ | ⟨low, val⟩⟩ := e
  · cases hrun
    simp [bound, TableBound.announced]
  · simp only [bound, TableBound.announced, List.foldlM_cons, List.foldlM_nil] at hrun ⊢
    obtain ⟨t₁, ht₁, hrun⟩ := Option.bind_eq_some_iff.mp hrun
    cases hrun
    simp [ht₁]
  · simp only [bound, TableBound.announced, List.foldlM_cons, List.foldlM_nil] at hrun ⊢
    obtain ⟨t₁, ht₁, hrun⟩ := Option.bind_eq_some_iff.mp hrun
    obtain ⟨t₂, ht₂, hrun⟩ := Option.bind_eq_some_iff.mp hrun
    cases hrun
    simp [ht₁, ht₂]

/-- The updates that are announced have the effect of all the updates that were queued, on the table
of the encoder and on that of the decoder. -/
theorem size_updates_coalesce (hash : Name → Nat) {maxSize capacity : Nat} {cs : List TableCall}
    (hmax : maxSize < 2 ^ 64) (hcapacity : (Table.new maxSize capacity).indices.length ≤ 2 ^ 62)
    (hcs : ∀ c ∈ cs, c.Sized) (hcalls : (Table.new maxSize capacity).calls hash cs = some e.table)
    (hqueue : e.sizeUpdate = none) {vals : List Nat} (hvals : ∀ val ∈ vals, val < 2 ^ 64)
    (dst : Bytes) :
    ∃ e' t' sizes, (vals.foldl updateMaxSize e).encodeSizeUpdates dst
        = some (e', dst ++ sizes.flatMap encodeSizeUpdate) ∧
      vals.foldlM Table.resize e.table = some t' ∧
      e'.table.headers = t'.headers ∧ e'.table.maxSize = t'.maxSize ∧
      sizes.length ≤ 2 ∧ (sizes = [] → ∀ val ∈ vals, val = e.table.maxSize) ∧
      (sizes ≠ [] → sizes.getLast? = vals.getLast?) ∧
      sizes.foldlM DynamicTable.setMaxSize e.table.dynamic = some e'.table.dynamic ∧
      ∀ d : Decoder, d.buffer = [] → d.table = e.table.dynamic →
        (∀ val ∈ vals, val < 2 ^ 28 + 31 ∧ val ≤ d.takeSizeUpdate.lastMaxUpdate) →
        d.decode (sizes.flatMap encodeSizeUpdate) = some (.ok (),
          ⟨{ d.takeSizeUpdate with table := e'.table.dynamic }, ⟨[], 0⟩, []⟩) := by
  have hinv := Table.calls_inv (Table.new_inv hash hmax hcapacity) hcs hcalls
  obtain ⟨htable, hbound⟩ := foldl_updateMaxSize e vals
  have hcoalesced := e.bound.coalesced hqueue vals
  change TableBound.Coalesced e.table.maxSize _ _ at hcoalesced
  rw [← hbound] at hcoalesced
  generalize vals.foldl updateMaxSize e = q at htable hcoalesced ⊢
  have hannounced := hcoalesced.announced
  rw [← htable] at hinv
  obtain ⟨table, hrun, hinv', hheaders, hmax', hset⟩ :=
    encodeSizeUpdates_some hinv (fun size hsize => hvals size (hannounced size hsize)) dst
  obtain ⟨t', hresizes, -, hheaders', hmaxt, -⟩ := Table.resizes_some hinv vals hvals
  rw [← htable] at hcoalesced ⊢
  refine ⟨⟨table, none⟩, t', q.bound.announced, hrun, hresizes, ?_, ?_, ?_, ?_, ?_, hset, ?_⟩
  · rw [hheaders, hheaders']
    exact congrArg (fun low => fit Header.len low q.table.headers) hcoalesced.lowest
  · rw [hmax', hmaxt]
    exact hcoalesced.getLast
  · exact q.bound.length_announced_le
  · exact fun hnil => hcoalesced.unchanged (TableBound.announced_eq_nil.mp hnil)
  · exact fun hne => hcoalesced.last fun hnone => hne (TableBound.announced_eq_nil.mpr hnone)
  · intro d hbuffer hd hd'
    have htake : d.takeSizeUpdate.table = d.table := by
      rw [Decoder.takeSizeUpdate]
      split <;> rfl
    rw [← hd, ← htake] at hset
    have hrest : ∀ d : Decoder, Accepts true d [] [] d := fun d => .done
    have haccepts := Accepts.sizeUpdates (fun size hsize => hd' size (hannounced size hsize)) hset (hrest _)
    rw [List.append_nil] at haccepts
    exact haccepts.decode hbuffer

end Encoder

end

section

attribute [local instance] plain

def shortField : Header := .field (ascii "a") (ascii "b")

/-- A header is indexed, then the table goes down to 30 and up to 8000: both sizes are announced, and
the decoder that allows them evicts the header as the encoder does. -/
theorem size_updates_coalesce_evicted : ∃ (e e' : Encoder) (t' : Table) (sizes : List Nat) (d : Decoder),
    (Table.new 4096 0).calls (fun _ => 0) [.index shortField] = some e.table ∧
      e.table.headers = [shortField] ∧
      ([30, 8000].foldl Encoder.updateMaxSize e).encodeSizeUpdates []
        = some (e', [] ++ sizes.flatMap encodeSizeUpdate) ∧
      [30, 8000].foldlM Table.resize e.table = some t' ∧
      e'.table.headers = t'.headers ∧ e'.table.maxSize = t'.maxSize ∧ t'.headers = [] ∧
      (Decoder.queueSizeUpdate ⟨none, 4096, e.table.dynamic, []⟩ 8000).decode
        (sizes.flatMap encodeSizeUpdate) = some (.ok (), ⟨d, ⟨[], 0⟩, []⟩) ∧ d.table = e'.table.dynamic := by
  have hindexed : ((Table.new 4096 0).calls (fun _ => 0) [.index shortField]).map Table.headers =
      some [shortField] := by decide +kernel
  have hevicted : (((Table.new 4096 0).calls (fun _ => 0) [.index shortField]).bind
      ([30, 8000].foldlM Table.resize ·)).map Table.headers = some [] := by decide +kernel
  obtain ⟨table, hcalls, hheaders⟩ := Option.map_eq_some_iff.mp hindexed
  rw [hcalls, Option.bind_some] at hevicted
  have hcs : ∀ c ∈ [TableCall.index shortField], c.Sized := by simp [TableCall.Sized]
  have hvals : ∀ val ∈ [30, 8000], val < 2 ^ 64 := by decide
  obtain ⟨e', t', sizes, hrun, hresizes, heq, hmax, -, -, -, -, hdecode⟩ :=
    Encoder.size_updates_coalesce (e := ⟨table, none⟩) (fun _ => 0) (by decide) (by decide) hcs hcalls rfl
      hvals []
  have hallowed : ∀ val ∈ [30, 8000], val < 2 ^ 28 + 31 ∧ val ≤ 8000 := by decide
  rw [hresizes] at hevicted
  exact ⟨⟨table, none⟩, e', t', sizes, _, hcalls, hheaders, hrun, hresizes, heq, hmax, Option.some.inj hevicted,
    hdecode _ rfl rfl hallowed, rfl⟩

end

end TwoPlz.Hpack
