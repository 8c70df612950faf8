import TwoPlz.Hpack.Scan

/-! The decoder returns on every input, and its table keeps to the announced sizes. -/

namespace TwoPlz.Hpack

variable [HeaderPlz]

namespace DynamicTable

def total (entries : List Header) : Nat := (entries.map Header.len).sum

@[simp] theorem total_cons (e : Header) (entries : List Header) :
    total (e :: entries) = e.len + total entries := by
  simp [total]

@[simp] theorem total_reverse (entries : List Header) : total entries.reverse = total entries := by
  simp [total, List.sum_reverse]

structure Fits (t : DynamicTable) : Prop where
  size : t.size = total t.entries
  bound : t.size ≤ t.maxSize

theorem new_fits (size : Nat) : (new size).Fits := ⟨rfl, Nat.zero_le _⟩

theorem reserveFrom_some (maxSize need : Nat) {size : Nat} {entries : List Header}
    (hsize : size = total entries) :
    ∃ entries' size', reserveFrom maxSize need entries size = some (entries', size') ∧
      size' = total entries' ∧ size' ≤ size := by
  induction entries generalizing size with
  | nil => exact ⟨[], size, rfl, hsize, Nat.le_refl _⟩
  | cons last newer ih =>
    rw [total_cons] at hsize
    rw [reserveFrom]
    split
    · rw [if_pos (by omega)]
      have hrest : size - last.len = total newer := by omega
      obtain ⟨entries', size', h, htotal, hle⟩ := ih hrest
      exact ⟨entries', size', h, htotal, by omega⟩
    · exact ⟨_, _, rfl, by rw [total_cons]; exact hsize, Nat.le_refl _⟩

theorem insert_some {t : DynamicTable} (ht : t.Fits) (entry : Header) :
    ∃ t', t.insert entry = some t' ∧ t'.Fits ∧ t'.maxSize = t.maxSize := by
  have htotal : t.size = total t.entries.reverse := by rw [total_reverse, ht.size]
  obtain ⟨entries', size', h, hsize', hle⟩ := reserveFrom_some t.maxSize entry.len htotal
  have hbound := ht.bound
  have hreserve : t.reserve entry.len =
      some { t with entries := entries'.reverse, size := size' } := by
    rw [reserve, h]
    rfl
  rw [insert, hreserve]
  simp only [Option.bind_eq_bind, Option.bind_some]
  split
  · rename_i hfits
    refine ⟨_, rfl, ⟨?_, hfits⟩, rfl⟩
    simp only [total_cons, total_reverse]
    omega
  · refine ⟨_, rfl, ⟨?_, ?_⟩, rfl⟩
    · simp only [total_reverse, hsize']
    · exact Nat.le_trans hle hbound

theorem consolidateFrom_some (maxSize : Nat) {size : Nat} {entries : List Header}
    (hsize : size = total entries) :
    ∃ entries' size', consolidateFrom maxSize entries size = some (entries', size') ∧
      size' = total entries' ∧ size' ≤ maxSize := by
  induction entries generalizing size with
  | nil =>
    obtain rfl : size = 0 := hsize
    exact ⟨[], 0, if_neg (Nat.not_lt_zero _), rfl, Nat.zero_le _⟩
  | cons last newer ih =>
    rw [total_cons] at hsize
    rw [consolidateFrom]
    split
    · rw [if_pos (by omega)]
      exact ih (by omega)
    · exact ⟨_, _, rfl, by rw [total_cons]; exact hsize, by omega⟩

theorem setMaxSize_some {t : DynamicTable} (ht : t.Fits) (size : Nat) :
    ∃ t', t.setMaxSize size = some t' ∧ t'.Fits ∧ t'.maxSize = size := by
  have htotal : t.size = total t.entries.reverse := by rw [total_reverse, ht.size]
  obtain ⟨entries', size', h, hsize', hle⟩ := consolidateFrom_some size htotal
  refine ⟨_, by rw [setMaxSize, h]; rfl, ⟨?_, hle⟩, rfl⟩
  simp only [total_reverse, hsize']

end DynamicTable

namespace Decoder

structure Bounded (limit : Nat) (d : Decoder) : Prop where
  table : d.table.Fits
  maxSize : d.table.maxSize ≤ limit
  last : d.lastMaxUpdate ≤ limit
  update : ∀ size, d.maxSizeUpdate = some size → size ≤ limit

variable {limit : Nat} {d : Decoder}

theorem takeSizeUpdate_bounded (h : d.Bounded limit) : d.takeSizeUpdate.Bounded limit := by
  unfold takeSizeUpdate
  split
  · rename_i size hsize
    exact ⟨h.table, h.maxSize, h.update size hsize, nofun⟩
  · exact h

theorem queueSizeUpdate_bounded (h : d.Bounded limit) (size : Nat) :
    (d.queueSizeUpdate size).Bounded (max limit size) := by
  have hlast := h.last
  have hmax := h.maxSize
  refine ⟨h.table, by simp only [queueSizeUpdate]; omega, by simp only [queueSizeUpdate]; omega, ?_⟩
  intro size' hsize'
  simp only [queueSizeUpdate] at hsize'
  split at hsize'
  · rename_i v hv
    have hle := h.update v hv
    cases hsize'
    omega
  · cases hsize'
    omega

end Decoder

theorem Rep.apply_some {limit : Nat} {d : Decoder} (h : d.Bounded limit) (rep : Rep) :
    ∃ r, rep.apply d = some r ∧ ∀ d' entries, r = .ok (d', entries) → d'.Bounded limit := by
  cases rep with
  | indexed entry =>
    refine ⟨_, rfl, ?_⟩
    intro d' entries heq
    cases heq
    exact h
  | literal name value index =>
    rw [Rep.apply]
    split
    · exact ⟨_, rfl, fun _ _ hno => by cases hno⟩
    · rename_i entry hentry
      split
      · obtain ⟨t, ht, hfits, hmax⟩ := DynamicTable.insert_some h.table entry
        refine ⟨_, by rw [ht]; rfl, ?_⟩
        intro d' entries heq
        cases heq
        exact ⟨hfits, hmax ▸ h.maxSize, h.last, h.update⟩
      · refine ⟨_, rfl, ?_⟩
        intro d' entries heq
        cases heq
        exact h
  | sizeUpdate newSize =>
    rw [Rep.apply]
    split
    · exact ⟨_, rfl, fun _ _ hno => by cases hno⟩
    · rename_i hlast
      obtain ⟨t, ht, hfits, hmax⟩ := DynamicTable.setMaxSize_some h.table newSize
      refine ⟨_, by rw [ht]; rfl, ?_⟩
      intro d' entries heq
      cases heq
      have hle := h.last
      exact ⟨hfits, by simp only [hmax]; omega, h.last, h.update⟩

theorem decodeLoop_some {limit rounds : Nat} {s : Decoding} {bs : Bytes} (hs : s.src.At bs)
    (hd : s.decoder.Bounded limit) (hrounds : bs.length ≤ rounds) (canResize : Bool) :
    ∃ r s', decodeLoop rounds canResize s = some (r, s') ∧ s'.decoder.Bounded limit := by
  induction rounds generalizing s bs canResize with
  | zero =>
    obtain rfl : bs = [] := List.eq_nil_of_length_eq_zero (by omega)
    refine ⟨.ok (), s, ?_, hd⟩
    have hsrc : DecodeM.src s = some (.ok s.src, s) := rfl
    rw [decodeLoop, DecodeM.bind_ok hsrc, Cursor.peekU8, hs.2]
    rfl
  | succ rounds ih =>
    have hsrc : DecodeM.src s = some (.ok s.src, s) := rfl
    rw [decodeLoop, DecodeM.bind_ok hsrc, Cursor.peekU8, hs.2]
    cases bs with
    | nil => exact ⟨.ok (), s, rfl, hd⟩
    | cons ty bs =>
      dsimp only [List.head?_cons]
      rcases decodeOne_ends hs canResize with ⟨rep, left, rest, hscan, hends⟩ | ⟨e, left, position, -, -, hone⟩
      · have hleft : Decoder.Bounded limit { s.decoder with buffer := left } :=
          ⟨hd.table, hd.maxSize, hd.last, hd.update⟩
        obtain ⟨r, hr, hbounded⟩ := rep.apply_some hleft
        rw [hr] at hends
        cases r with
        | error e =>
          obtain ⟨src, hone⟩ := hends
          exact ⟨_, _, DecodeM.bind_error hone, hleft⟩
        | ok out =>
          obtain ⟨d, entries⟩ := out
          obtain ⟨used, hused, hbs⟩ := scanOne_consumes _ _ _ hscan
          have hshort : rest.length ≤ rounds := by
            have hlen := congrArg List.length hbs
            have hpos := List.length_pos_iff.mpr hused
            rw [List.length_append] at hlen
            omega
          rw [DecodeM.bind_ok hends]
          exact ih (Cursor.at_zero rest) (hbounded d entries rfl) hshort rep.canResize
      · exact ⟨_, _, DecodeM.bind_error hone, ⟨hd.table, hd.maxSize, hd.last, hd.update⟩⟩

inductive DecoderCall : Type
  | decode (src : Bytes)
  | queueSizeUpdate (size : Nat)

namespace Decoder

def call (d : Decoder) : DecoderCall → Option Decoder
  | .decode src => (d.decode src).map fun r => r.2.decoder
  | .queueSizeUpdate size => some (d.queueSizeUpdate size)

def calls : Decoder → List DecoderCall → Option Decoder
  | d, [] => some d
  | d, c :: cs => (d.call c).bind fun d => calls d cs

def announced (limit : Nat) : List DecoderCall → Nat
  | [] => limit
  | .decode _ :: cs => announced limit cs
  | .queueSizeUpdate size :: cs => announced (max limit size) cs

theorem calls_some {limit : Nat} {d : Decoder} (hd : d.Bounded limit) (cs : List DecoderCall) :
    ∃ d', d.calls cs = some d' ∧ d'.Bounded (announced limit cs) := by
  induction cs generalizing d limit with
  | nil => exact ⟨d, rfl, hd⟩
  | cons c cs ih =>
    cases c with
    | decode src =>
      obtain ⟨r, s, hdecode, hs⟩ := decodeLoop_some (Cursor.at_zero src) (takeSizeUpdate_bounded hd)
        (s := ⟨d.takeSizeUpdate, ⟨src, 0⟩, []⟩) (Nat.le_refl _) true
      have hcall : d.call (.decode src) = some s.decoder := by
        rw [call, decode, hdecode]
        rfl
      rw [calls, hcall]
      exact ih hs
    | queueSizeUpdate size => exact ih (queueSizeUpdate_bounded hd size)

/-- Every sequence of calls returns, and the table keeps its invariant. -/
theorem calls_total (size : Nat) (cs : List DecoderCall) :
    ∃ d, (new size).calls cs = some d ∧ d.table.size = (d.table.entries.map Header.len).sum ∧
      d.table.size ≤ d.table.maxSize ∧ d.table.maxSize ≤ announced size cs := by
  have hnew : (new size).Bounded size :=
    ⟨DynamicTable.new_fits size, Nat.le_refl _, Nat.le_refl _, nofun⟩
  obtain ⟨d, hd, hbounded⟩ := calls_some hnew cs
  exact ⟨d, hd, hbounded.table.size, hbounded.table.bound, hbounded.maxSize⟩

end Decoder

end TwoPlz.Hpack
