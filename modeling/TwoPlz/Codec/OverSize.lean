import TwoPlz.Codec.Forwarding
import TwoPlz.Hpack.Strings

/-! When a header block is found to be larger than the header lists that are allowed. -/

namespace TwoPlz

open Hpack

section

variable [HeaderPlz]

def Hpack.Header.isField : Header → Bool
  | .field _ _ => true
  | _ => false

def Hpack.Header.isProtocol : Header → Bool
  | .protocol _ => true
  | _ => false

def Hpack.Header.listSize (h : Header) : Nat :=
  decodedHeaderSize h.name.asSlice.length h.valueSlice.length

def headerListSize (headers : List Header) : Nat := (headers.map Header.listSize).sum

/-- The part of it that `calculate_header_list_size` leaves out. -/
def protocolSize (headers : List Header) : Nat := headerListSize (headers.filter Header.isProtocol)

@[simp] theorem headerListSize_nil : headerListSize [] = 0 := rfl

@[simp] theorem headerListSize_cons (h : Header) (headers : List Header) :
    headerListSize (h :: headers) = h.listSize + headerListSize headers := by
  simp [headerListSize]

@[simp] theorem headerListSize_append (headers headers' : List Header) :
    headerListSize (headers ++ headers') = headerListSize headers + headerListSize headers' := by
  simp [headerListSize]

@[simp] theorem protocolSize_append (headers headers' : List Header) :
    protocolSize (headers ++ headers') = protocolSize headers + protocolSize headers' := by
  simp [protocolSize]

theorem protocolSize_singleton (h : Header) :
    protocolSize [h] = if h.isProtocol then h.listSize else 0 := by
  rw [protocolSize, List.filter_cons, List.filter_nil]
  split
  · rw [headerListSize_cons, headerListSize_nil, Nat.add_zero]
  · rfl

theorem protocolSize_eq_zero {headers : List Header} (h : ∀ header ∈ headers, header.isProtocol = false) :
    protocolSize headers = 0 := by
  have hnone : headers.filter Header.isProtocol = [] := by simpa using h
  rw [protocolSize, hnone, headerListSize_nil]

def Hpack.Header.Allowed : Header → Prop
  | .field name value => BlockLoad.isConnectionLevel name = false ∧
      (name = HeaderPlz.constHeader .te → eqIgnoreAsciiCase value (ascii "trailers") = true)
  | _ => True

/-- `b` may stand behind `a`: pseudo-headers come first, and each once. -/
def Hpack.Header.Before (a b : Header) : Prop :=
  b.isField = true ∨ a.isField = false ∧ a.name ≠ b.name

structure WellFormed (headers : List Header) : Prop where
  allowed : ∀ h ∈ headers, h.Allowed
  order : headers.Pairwise Header.Before

/-! ### One header -/

namespace HeaderBlock

def put (b : HeaderBlock) : Header → HeaderBlock
  | .field name value =>
    { b with
      fieldSize := b.fieldSize + decodedHeaderSize name.length value.length
      fields := HeaderPlz.mapInsert b.fields name value }
  | .authority v => { b with pseudo.authority := some v }
  | .method v => { b with pseudo.method := some v }
  | .scheme v => { b with pseudo.scheme := some v }
  | .path v => { b with pseudo.path := some v }
  | .protocol v => { b with pseudo.protocol := some v }
  | .status v => { b with pseudo.status := some v }

def Counts (b : HeaderBlock) (headers : List Header) : Prop :=
  b.calculateHeaderListSize + protocolSize headers = headerListSize headers

@[simp] theorem put_isOverSize (b : HeaderBlock) (h : Header) : (b.put h).isOverSize = b.isOverSize := by
  cases h <;> rfl

def has (b : HeaderBlock) : Header → Bool
  | .field _ _ => false
  | .authority _ => b.pseudo.authority.isSome
  | .method _ => b.pseudo.method.isSome
  | .scheme _ => b.pseudo.scheme.isSome
  | .path _ => b.pseudo.path.isSome
  | .protocol _ => b.pseudo.protocol.isSome
  | .status _ => b.pseudo.status.isSome

theorem exists_of_has {b : HeaderBlock} {h : Header} (hhas : b.has h = true) :
    ∃ h' ∈ b.pseudo.headers, h'.name = h.name := by
  have hmem : ∀ {α : Type} {slot : Option α} (make : α → Header), slot.isSome = true →
      (∀ v, slot = some v → make v ∈ b.pseudo.headers) → (∀ v, (make v).name = h.name) →
      ∃ h' ∈ b.pseudo.headers, h'.name = h.name := by
    intro α slot make hslot hheaders hname
    obtain ⟨v, hv⟩ := Option.isSome_iff_exists.mp hslot
    exact ⟨make v, hheaders v hv, hname v⟩
  cases h with
  | field name value => cases hhas
  | authority v => exact hmem .authority hhas (fun v hv => by simp [Pseudo.headers, hv]) fun _ => rfl
  | method v => exact hmem .method hhas (fun v hv => by simp [Pseudo.headers, hv]) fun _ => rfl
  | scheme v => exact hmem .scheme hhas (fun v hv => by simp [Pseudo.headers, hv]) fun _ => rfl
  | path v => exact hmem .path hhas (fun v hv => by simp [Pseudo.headers, hv]) fun _ => rfl
  | protocol v => exact hmem .protocol hhas (fun v hv => by simp [Pseudo.headers, hv]) fun _ => rfl
  | status v => exact hmem .status hhas (fun v hv => by simp [Pseudo.headers, hv]) fun _ => rfl

def slotSize {α : Type} (slot : Option α) (make : α → Header) : Nat :=
  (slot.map fun v => (make v).listSize).getD 0

theorem calculateHeaderListSize_eq (b : HeaderBlock) :
    b.calculateHeaderListSize = slotSize b.pseudo.method .method + slotSize b.pseudo.scheme .scheme
      + slotSize b.pseudo.status .status + slotSize b.pseudo.authority .authority
      + slotSize b.pseudo.path .path + b.fieldSize := by
  simp only [calculateHeaderListSize, Option.map_map]
  rfl

theorem put_counts {b : HeaderBlock} {headers : List Header} {h : Header} (hlacks : b.has h = false)
    (hb : b.Counts headers) : (b.put h).Counts (headers ++ [h]) := by
  have hsize : (b.put h).calculateHeaderListSize + protocolSize [h] = b.calculateHeaderListSize + h.listSize := by
    rw [protocolSize_singleton, calculateHeaderListSize_eq, calculateHeaderListSize_eq]
    cases h with
    | field name value => exact (Nat.add_assoc ..).symm
    | protocol v => rfl
    | _ v =>
      have hnone := Option.isNone_iff_eq_none.mp (Option.isSome_eq_false_iff.mp hlacks)
      simp only [put, slotSize, hnone, Option.map_some, Option.map_none, Option.getD_some, Option.getD_none,
        Header.isProtocol, Bool.false_eq_true, if_false]
      omega
  rw [Counts, protocolSize_append, headerListSize_append, headerListSize_cons, headerListSize_nil]
  rw [Counts] at hb
  omega

end HeaderBlock

namespace BlockLoad

variable {max : Nat} {l : BlockLoad}

def count (max : Nat) (l : BlockLoad) (h : Header) : BlockLoad :=
  { l with
    reg := l.reg || h.isField
    headersSize := l.headersSize + h.listSize
    block := if l.headersSize + h.listSize < max then l.block.put h else { l.block with isOverSize := true } }

theorem setPseudo_eq {h : Header} {name : String} {isSome : Bool} {len : Nat} {set : Pseudo → Pseudo}
    (hreg : l.reg = false) (hnone : isSome = false) (hfield : h.isField = false)
    (hname : h.name.asSlice.length = name.length + 1) (hlen : h.valueSlice.length = len)
    (hput : { l.block with pseudo := set l.block.pseudo } = l.block.put h) :
    l.setPseudo max name isSome len set = l.count max h := by
  have hsize : decodedHeaderSize (name.length + 1) len = h.listSize := by rw [Header.listSize, hname, hlen]
  rw [setPseudo, if_neg (by rw [hreg]; nofun), if_neg (by rw [hnone]; nofun)]
  simp only [hsize, hput, count, hfield, Bool.or_false]
  split <;> rfl

theorem load_eq {h : Header} (hallowed : h.Allowed) (hreg : h.isField = true ∨ l.reg = false)
    (hlacks : l.block.has h = false) : l.load max h = l.count max h := by
  cases h with
  | field name value =>
    have hte : (name == HeaderPlz.constHeader .te && !eqIgnoreAsciiCase value (ascii "trailers")) = false := by
      rw [Bool.and_eq_false_iff, Bool.not_eq_false']
      by_cases heq : name = HeaderPlz.constHeader .te
      · exact .inr (hallowed.2 heq)
      · exact .inl (beq_false_of_ne heq)
    simp only [load, hallowed.1, hte, count, Header.isField, Bool.or_true]
    have hsize : decodedHeaderSize name.length value.length = (Header.field name value).listSize := rfl
    simp only [hsize, Bool.false_eq_true, if_false]
    split <;> rfl
  | _ v =>
    rw [load]
    exact setPseudo_eq (hreg.resolve_left Bool.false_ne_true) hlacks rfl rfl rfl rfl

end BlockLoad

structure HeaderBlock.Within (b : HeaderBlock) (headers : List Header) : Prop where
  pseudo : ∀ h ∈ b.pseudo.headers, h ∈ headers
  fields : HeaderPlz.mapIsEmpty b.fields = false → ∃ h ∈ headers, h.isField = true

theorem HeaderBlock.Within.mono {b : HeaderBlock} {headers headers' : List Header} (hb : b.Within headers)
    (hsub : headers ⊆ headers') : b.Within headers' where
  pseudo h hh := hsub (hb.pseudo h hh)
  fields hfields := by
    obtain ⟨h, hh, hfield⟩ := hb.fields hfields
    exact ⟨h, hsub hh, hfield⟩

theorem HeaderBlock.Within.load {l : BlockLoad} {headers : List Header} (hl : l.block.Within headers) (max : Nat)
    (h : Header) : (l.load max h).block.Within (headers ++ [h]) where
  pseudo h' hh' := by
    rcases BlockLoad.load_pseudo max l h h' hh' with hold | ⟨rfl, -⟩
    · exact List.mem_append_left _ (hl.pseudo h' hold)
    · exact List.mem_append_right _ (List.mem_singleton.mpr rfl)
  fields hfields := by
    rcases BlockLoad.load_fields max l h with hsame | ⟨name, value, rfl, -, -⟩
    · rw [hsame] at hfields
      exact (hl.mono (List.subset_append_left _ _)).fields hfields
    · exact ⟨_, List.mem_append_right _ (List.mem_singleton.mpr rfl), rfl⟩

theorem HeaderBlock.Within.foldl {l : BlockLoad} {headers : List Header} (hl : l.block.Within headers) (max : Nat)
    (headers' : List Header) : (headers'.foldl (BlockLoad.load max) l).block.Within (headers ++ headers') := by
  induction headers' generalizing l headers with
  | nil => rwa [List.append_nil]
  | cons h headers' ih =>
    rw [← List.singleton_append, ← List.append_assoc]
    exact ih (hl.load max h)

/-- The closure after `now`, in a block of which `before` was loaded from the frames before. -/
structure Loading (max : Nat) (before now : List Header) (l : BlockLoad) : Prop where
  malformed : l.malformed = false
  reg : l.reg = true → ∃ h ∈ before ++ now, h.isField = true
  held : l.block.Within (before ++ now)
  size : l.headersSize + protocolSize before = headerListSize (before ++ now)
  overSize : l.block.isOverSize = true ↔ now ≠ [] ∧ max ≤ l.headersSize
  counts : l.block.isOverSize = false → l.block.Counts (before ++ now)

namespace WellFormed

variable {headers headers' : List Header} {h : Header}

theorem last (hwf : WellFormed (headers ++ [h])) : h.Allowed ∧ ∀ h' ∈ headers, h'.Before h :=
  ⟨hwf.allowed h (List.mem_append_right _ (List.mem_singleton.mpr rfl)),
    fun h' hh' => (List.pairwise_append.mp hwf.order).2.2 h' hh' h (List.mem_singleton.mpr rfl)⟩

theorem front (hwf : WellFormed (headers ++ headers')) : WellFormed headers :=
  ⟨fun h hh => hwf.allowed h (List.mem_append_left _ hh), (List.pairwise_append.mp hwf.order).1⟩

end WellFormed

namespace Loading

variable {max : Nat} {before now : List Header} {l : BlockLoad} {h : Header}

theorem load_eq (hl : Loading max before now l) (hwf : WellFormed (before ++ (now ++ [h]))) :
    l.load max h = l.count max h ∧ l.block.has h = false := by
  rw [← List.append_assoc] at hwf
  obtain ⟨hallowed, hbefore⟩ := hwf.last
  have hreg : h.isField = true ∨ l.reg = false := by
    rw [or_iff_not_imp_right, Bool.not_eq_false]
    intro hreg
    obtain ⟨h', hh', hfield⟩ := hl.reg hreg
    exact (hbefore h' hh').resolve_right fun hno => by rw [hfield] at hno; cases hno.1
  have hlacks : l.block.has h = false := by
    by_contra hhas
    rw [Bool.not_eq_false] at hhas
    obtain ⟨h', hh', hname⟩ := HeaderBlock.exists_of_has hhas
    rcases hbefore h' (hl.held.pseudo h' hh') with hfield | hno
    · cases h <;> cases hfield
      cases hhas
    · exact hno.2 hname
  exact ⟨BlockLoad.load_eq hallowed hreg hlacks, hlacks⟩

theorem step (hl : Loading max before now l) (hwf : WellFormed (before ++ (now ++ [h]))) :
    Loading max before (now ++ [h]) (l.load max h) := by
  obtain ⟨hload, hlacks⟩ := hl.load_eq hwf
  have hheld : (l.load max h).block.Within (before ++ (now ++ [h])) := by
    rw [← List.append_assoc]
    exact hl.held.load max h
  have hsize := hl.size
  rw [hload] at hheld ⊢
  refine ⟨hl.malformed, fun hr => ?_, hheld, ?_, ?_, ?_⟩
  · rw [← List.append_assoc]
    rcases Bool.or_eq_true_iff.mp hr with hr | hr
    · obtain ⟨h', hh', hfield⟩ := hl.reg hr
      exact ⟨h', List.mem_append_left _ hh', hfield⟩
    · exact ⟨h, List.mem_append_right _ (List.mem_singleton.mpr rfl), hr⟩
  · simp only [BlockLoad.count, headerListSize_append, headerListSize_cons, headerListSize_nil] at hsize ⊢
    omega
  · by_cases hfits : l.headersSize + h.listSize < max
    · have hunder : l.block.isOverSize = false := by
        rw [Bool.eq_false_iff]
        intro hover
        have := (hl.overSize.mp hover).2
        omega
      simp only [BlockLoad.count, if_pos hfits, HeaderBlock.put_isOverSize, hunder, Bool.false_eq_true, false_iff]
      omega
    · simp only [BlockLoad.count, if_neg hfits, true_iff]
      exact ⟨List.append_ne_nil_of_right_ne_nil _ (List.cons_ne_nil _ _), by omega⟩
  · by_cases hfits : l.headersSize + h.listSize < max
    · simp only [BlockLoad.count, if_pos hfits, HeaderBlock.put_isOverSize]
      intro hunder
      rw [← List.append_assoc]
      exact HeaderBlock.put_counts hlacks (hl.counts hunder)
    · simp only [BlockLoad.count, if_neg hfits]
      exact fun hno => by cases hno

theorem foldl {headers : List Header} (hl : Loading max before now l)
    (hwf : WellFormed (before ++ (now ++ headers))) :
    Loading max before (now ++ headers) (headers.foldl (BlockLoad.load max) l) := by
  induction headers generalizing now l with
  | nil => rwa [List.append_nil]
  | cons h headers ih =>
    have hassoc : now ++ h :: headers = (now ++ [h]) ++ headers := by rw [List.append_assoc]; rfl
    rw [hassoc, ← List.append_assoc] at hwf
    rw [hassoc]
    exact ih (hl.step hwf.front) (by rwa [List.append_assoc] at hwf)

end Loading

theorem BlockLoad.foldl_over (max : Nat) (headers : List Header) {l : BlockLoad} (h : l.block.isOverSize = true) :
    (headers.foldl (load max) l).block.isOverSize = true := by
  have hstep : ∀ (l : BlockLoad) (header : Header), l.block.isOverSize = true →
      (l.load max header).block.isOverSize = true := by
    have hpseudo : ∀ (l : BlockLoad) (name : String) (isSome : Bool) (len : Nat) (set : Pseudo → Pseudo),
        l.block.isOverSize = true → (l.setPseudo max name isSome len set).block.isOverSize = true := by
      intro l name isSome len set hover
      unfold setPseudo
      split
      · exact hover
      · split
        · exact hover
        · dsimp only
          split
          · exact hover
          · rfl
    intro l header hover
    cases header with
    | field name value =>
      simp only [load]
      split
      · exact hover
      · split
        · exact hover
        · split
          · exact hover
          · rfl
    | _ v => exact hpseudo _ _ _ _ _ hover
  induction headers generalizing l with
  | nil => exact h
  | cons header headers ih => exact ih (hstep l header h)

/-! ### One frame -/

/-- In some frame, the headers so far reach the limit, when a `:protocol` of the frames before is not
counted. -/
def Noticed (max : Nat) (parts : List (List Header)) : Prop :=
  ∃ before part after, parts = before ++ part :: after ∧ part ≠ [] ∧
    max + protocolSize before.flatten ≤ headerListSize (before.flatten ++ part)

/-- A block into which `parts` have been loaded, frame by frame. -/
structure InParts (max : Nat) (parts : List (List Header)) (b : HeaderBlock) : Prop where
  held : b.Within parts.flatten
  overSize : b.isOverSize = true ↔ Noticed max parts
  counts : b.isOverSize = false → b.Counts parts.flatten

theorem noticed_concat {max : Nat} {parts : List (List Header)} {part : List Header} :
    Noticed max (parts ++ [part]) ↔ Noticed max parts ∨
      part ≠ [] ∧ max + protocolSize parts.flatten ≤ headerListSize (parts.flatten ++ part) := by
  constructor
  · rintro ⟨before, p, after, hparts, hne, hle⟩
    rcases List.eq_nil_or_concat after with rfl | ⟨after, last, rfl⟩
    · obtain ⟨rfl, hlast⟩ := List.append_inj' hparts rfl
      cases hlast
      exact .inr ⟨hne, hle⟩
    · rw [List.concat_eq_append, ← List.cons_append, ← List.append_assoc] at hparts
      exact .inl ⟨before, p, after, (List.append_inj' hparts rfl).1, hne, hle⟩
  · rintro (⟨before, p, after, rfl, hne, hle⟩ | ⟨hne, hle⟩)
    · exact ⟨before, p, after ++ [part], by rw [List.append_assoc, List.cons_append], hne, hle⟩
    · exact ⟨parts, part, [], rfl, hne, hle⟩

theorem noticed_singleton {max : Nat} {part : List Header} :
    Noticed max [part] ↔ part ≠ [] ∧ max ≤ headerListSize part := by
  rw [show [part] = [] ++ [part] from rfl, noticed_concat, or_iff_right]
  · rfl
  · rintro ⟨before, part, after, hparts, -⟩
    cases before <;> cases hparts

theorem InParts.empty (hnew : HeaderPlz.mapIsEmpty HeaderPlz.mapNew = true) (max : Nat) :
    InParts max [] HeaderBlock.empty where
  held := ⟨fun h hh => absurd hh List.not_mem_nil, fun hno => absurd (hnew.symm.trans hno) Bool.noConfusion⟩
  overSize := by
    refine iff_of_false Bool.false_ne_true ?_
    rintro ⟨before, part, after, hparts, -⟩
    cases before <;> cases hparts
  counts _ := rfl

theorem InParts.loading {max : Nat} {parts : List (List Header)} {b : HeaderBlock} (hb : InParts max parts b)
    (hunder : b.isOverSize = false) :
    Loading max parts.flatten [] ⟨b, !HeaderPlz.mapIsEmpty b.fields, false, b.calculateHeaderListSize⟩ where
  malformed := rfl
  reg hreg := by
    rw [List.append_nil]
    exact hb.held.fields (by simpa using hreg)
  held := by
    rw [List.append_nil]
    exact hb.held
  size := by
    rw [List.append_nil]
    exact hb.counts hunder
  overSize := iff_of_false (by simp [hunder]) fun hno => hno.1 rfl
  counts _ := by
    rw [List.append_nil]
    exact hb.counts hunder

theorem InParts.load {max : Nat} {parts : List (List Header)} {b : HeaderBlock} (hb : InParts max parts b)
    (part : List Header) (hwf : WellFormed (parts.flatten ++ part)) :
    InParts max (parts ++ [part])
      (part.foldl (BlockLoad.load max) ⟨b, !HeaderPlz.mapIsEmpty b.fields, false,
        b.calculateHeaderListSize⟩).block := by
  have hheld : (part.foldl (BlockLoad.load max)
      ⟨b, !HeaderPlz.mapIsEmpty b.fields, false, b.calculateHeaderListSize⟩).block.Within
        (parts ++ [part]).flatten := by
    rw [List.flatten_concat]
    exact HeaderBlock.Within.foldl hb.held max part
  match hover : b.isOverSize with
  | true =>
    have hstays := BlockLoad.foldl_over max part
      (l := ⟨b, !HeaderPlz.mapIsEmpty b.fields, false, b.calculateHeaderListSize⟩) hover
    refine ⟨hheld, iff_of_true hstays (noticed_concat.mpr (.inl (hb.overSize.mp hover))), fun hno => ?_⟩
    rw [hstays] at hno
    cases hno
  | false =>
    have hl := (hb.loading hover).foldl hwf
    have hsize := hl.size
    rw [List.nil_append] at hl hsize
    refine ⟨hheld, hl.overSize.trans ?_, fun hunder => ?_⟩
    · rw [noticed_concat, or_iff_right (fun hyes => by rw [hb.overSize.mpr hyes] at hover; cases hover)]
      exact and_congr_right fun _ => by omega
    · rw [List.flatten_concat]
      exact hl.counts hunder

/-! ### The frames of a block -/

namespace Hpack.Decoder

def feedParts : Decoder → Bytes → List Bytes → Option (List (List Header))
  | _, _, [] => some []
  | d, left, fragment :: fragments => do
    let (_, s) ← d.decode (left ++ fragment)
    (feedParts s.decoder s.src.buf fragments).map (s.emitted :: ·)

end Hpack.Decoder

def Starts (bytes fragment : Bytes) : Prop :=
  ∃ head l, Head.parse bytes = some head ∧ head.kind = .headers ∧
    Headers.load head (bytes.drop HEADER_LEN) = .ok l ∧ l.2 = fragment

def Whole (bytes block : Bytes) : Prop :=
  ∃ head l, Head.parse bytes = some head ∧ head.kind = .headers ∧
    Headers.load head (bytes.drop HEADER_LEN) = .ok l ∧ l.2 = block ∧ l.1.isEndHeaders = true

def Continues (bytes fragment : Bytes) : Prop :=
  ∃ head, Head.parse bytes = some head ∧ head.kind = .continuation ∧ bytes.drop HEADER_LEN = fragment

namespace Codec.FramedRead

variable {max : Nat} {parts : List (List Header)} {r r' : FramedRead} {d' : Decoder} {out : List Header}

theorem loadHpack_part {head : Head} {frame : Continuable} {buf rest : Bytes} {count : Nat}
    {isEndHeaders : Bool} {done : Continuable → Frame} {x : Option Frame} (hbuffer : r.hpack.buffer = [])
    (hblock : InParts r.maxHeaderListSize parts frame.headerBlock)
    (haccepts : Accepts true r.hpack.takeSizeUpdate (buf ++ rest) out d')
    (hwf : WellFormed (parts.flatten ++ out))
    (h : r.loadHpack head frame buf count isEndHeaders done = some (.ok x, r')) :
    ∃ res s out' block, r.hpack.decode buf = some (res, s) ∧ out = s.emitted ++ out' ∧
      InParts r.maxHeaderListSize (parts ++ [s.emitted]) block ∧ s.decoder.buffer = [] ∧
      Accepts true s.decoder.takeSizeUpdate (s.src.buf ++ rest) out' d' ∧
      (x, r') = if isEndHeaders then (some (done (frame.setBlock block)), { r with hpack := s.decoder })
        else (none, { r with
          hpack := s.decoder
          partial' := some ⟨frame.setBlock block, s.src.buf, count⟩ }) := by
  obtain ⟨res, s, out', hdecode, hres, rfl, hrest, hsbuffer⟩ := Decoder.decode_part hbuffer haccepts
  have hload := hblock.load s.emitted (by
    rw [← List.append_assoc] at hwf
    exact hwf.front)
  refine ⟨res, s, out', _, hdecode, rfl, hload, hsbuffer, hrest, ?_⟩
  rw [loadHpack, HeaderBlock.load, hdecode] at h
  simp only [Option.bind_eq_bind, Option.bind_some, Option.some.injEq] at h
  rcases hres with rfl | ⟨n, rfl⟩
  · cases hmalformed : (s.emitted.foldl (BlockLoad.load r.maxHeaderListSize)
        ⟨frame.headerBlock, !HeaderPlz.mapIsEmpty frame.headerBlock.fields, false,
          frame.headerBlock.calculateHeaderListSize⟩).malformed with
    | true =>
      rw [hmalformed] at h
      cases h
    | false =>
      rw [hmalformed] at h
      cases isEndHeaders <;> cases h <;> rfl
  · cases isEndHeaders <;> cases h
    rfl

theorem pollNext_cons {bytes : Bytes} {frames : List Bytes} {f : Frame}
    (h : r.pollNext (bytes :: frames) = some (some (.ok f), r', [])) :
    ∃ x r₁, r.decodeFrame bytes = some (.ok x, r₁) ∧
      (x = none ∧ r₁.pollNext frames = some (some (.ok f), r', []) ∨
        x = some f ∧ r₁ = r' ∧ frames = []) := by
  obtain ⟨⟨res, r₁⟩, hdecode, h⟩ := Option.bind_eq_some_iff.mp h
  match res with
  | .error e => cases h
  | .ok none => exact ⟨none, r₁, hdecode, .inl ⟨rfl, h⟩⟩
  | .ok (some frame) =>
    cases h
    exact ⟨some f, r', hdecode, .inr ⟨rfl, rfl, rfl⟩⟩

theorem continuation_ok {p : Partial} {head : Head} {payload : Bytes} {x : Option Frame}
    (hp : r.partial' = some p) (h : r.continuation head payload = some (.ok x, r')) :
    ∃ count isEndHeaders, { r with partial' := none }.loadHpack head p.frame (p.buf ++ payload) count isEndHeaders
      Continuable.into = some (.ok x, r') := by
  simp only [continuation, hp] at h
  obtain ⟨-, heq⟩ | ⟨-, h⟩ := ite_eq_iff.mp h
  · cases heq
  obtain ⟨-, heq⟩ | ⟨-, h⟩ := ite_eq_iff.mp h
  · cases heq
  obtain ⟨-, heq⟩ | ⟨-, h⟩ := ite_eq_iff.mp h
  · cases heq
  exact ⟨_, _, h⟩

theorem decodeFrame_continues {p : Partial} {bytes fragment : Bytes} {res : Except ProtoError (Option Frame)}
    (hp : r.partial' = some p) (hbytes : Continues bytes fragment) (h : r.decodeFrame bytes = some (res, r')) :
    ∃ head, r.continuation head fragment = some (res, r') := by
  obtain ⟨head, hparse, hkind, rfl⟩ := hbytes
  simp only [decodeFrame, hparse, hkind, Option.bind_eq_bind, Option.bind_some] at h
  refine ⟨head, ?_⟩
  simpa [hp] using h

theorem pollNext_continues {p : Partial} {frames fragments : List Bytes} {f : Frame}
    (hframes : List.Forall₂ Continues frames fragments) (hp : r.partial' = some p) (hbuffer : r.hpack.buffer = [])
    (hblock : InParts r.maxHeaderListSize parts p.frame.headerBlock)
    (haccepts : Accepts true r.hpack.takeSizeUpdate (p.buf ++ fragments.flatten) out d')
    (hwf : WellFormed (parts.flatten ++ out)) (h : r.pollNext frames = some (some (.ok f), r', [])) :
    ∃ parts' c, r.hpack.feedParts p.buf fragments = some parts' ∧ parts'.flatten = out ∧
      f = Continuable.into c ∧ InParts r.maxHeaderListSize (parts ++ parts') c.headerBlock := by
  induction hframes generalizing r p parts out with
  | nil => cases h
  | @cons bytes fragment frames fragments hbytes hframes ih =>
    obtain ⟨x, r₁, hdecode, hrest⟩ := pollNext_cons h
    obtain ⟨head, hcont⟩ := decodeFrame_continues hp hbytes hdecode
    obtain ⟨count, isEndHeaders, hload⟩ := continuation_ok hp hcont
    rw [List.flatten_cons, ← List.append_assoc] at haccepts
    obtain ⟨res, s, out', block, hfragment, rfl, hin, hsbuffer, hrestaccepts, hx⟩ :=
      loadHpack_part (r := { r with partial' := none }) hbuffer hblock haccepts hwf hload
    have hset : (p.frame.setBlock block).headerBlock = block := by cases p.frame <;> rfl
    rcases hrest with ⟨rfl, hpoll⟩ | ⟨rfl, rfl, rfl⟩
    · cases isEndHeaders with
      | true => cases hx
      | false =>
        cases hx
        rw [← List.append_assoc] at hwf
        have hset' : InParts r.maxHeaderListSize (parts ++ [s.emitted]) (p.frame.setBlock block).headerBlock := by
          rwa [hset]
        obtain ⟨parts', c, hparts, rfl, hf, hc⟩ := ih
          (r := { r with
            hpack := s.decoder
            partial' := some ⟨p.frame.setBlock block, s.src.buf, count⟩ })
          rfl hsbuffer hset' hrestaccepts (by rwa [List.flatten_concat]) hpoll
        refine ⟨s.emitted :: parts', c, ?_, rfl, hf, ?_⟩
        · simp only [Decoder.feedParts, hfragment, Option.bind_eq_bind, Option.bind_some]
          rw [hparts, Option.map_some]
        · rwa [List.append_assoc] at hc
    · cases isEndHeaders with
      | true =>
        cases hx
        cases hframes
        rw [List.flatten_nil, List.append_nil] at haccepts
        have hall := haccepts.decode hbuffer
        rw [hfragment] at hall
        refine ⟨[s.emitted], p.frame.setBlock block, ?_, ?_, rfl, by rwa [hset]⟩
        · simp [Decoder.feedParts, hfragment]
        · rw [List.flatten_singleton]
          exact congrArg (fun o => (Option.map (·.2.emitted) o).getD []) hall
      | false => cases hx

theorem pollNext_starts (hnew : HeaderPlz.mapIsEmpty HeaderPlz.mapNew = true) {first fragment : Bytes}
    {frames fragments : List Bytes} {f : Frame}
    (hfirst : Starts first fragment) (hframes : List.Forall₂ Continues frames fragments)
    (hidle : r.partial' = none) (hbuffer : r.hpack.buffer = [])
    (haccepts : Accepts true r.hpack.takeSizeUpdate (fragment ++ fragments.flatten) out d') (hwf : WellFormed out)
    (h : r.pollNext (first :: frames) = some (some (.ok f), r', [])) :
    ∃ parts c, r.hpack.feedParts [] (fragment :: fragments) = some parts ∧ parts.flatten = out ∧
      (f = Continuable.frame c ∨ f = Continuable.into c) ∧ InParts r.maxHeaderListSize parts c.headerBlock := by
  obtain ⟨x, r₁, hdecode, hrest⟩ := pollNext_cons h
  obtain ⟨head, ⟨v, part⟩, hparse, hkind, hload, rfl⟩ := hfirst
  simp only [decodeFrame, hparse, hkind, hload, hidle, Option.bind_eq_bind, Option.bind_some, Option.isSome_none,
    Bool.false_and, Bool.false_eq_true, if_false, Except.map, headerBlock] at hdecode
  have hempty : InParts r.maxHeaderListSize [] (Continuable.headers v).headerBlock := by
    change InParts _ _ v.headerBlock
    rw [Headers.load_empty hload]
    exact .empty hnew _
  obtain ⟨res, s, out', block, hfragment, rfl, hin, hsbuffer, hrestaccepts, hx⟩ :=
    loadHpack_part hbuffer hempty haccepts hwf hdecode
  have hset : ((Continuable.headers v).setBlock block).headerBlock = block := rfl
  cases hend : (Continuable.headers v).isEndHeaders with
  | true =>
    rw [hend] at hx
    rcases hrest with ⟨rfl, -⟩ | ⟨rfl, rfl, rfl⟩
    · cases hx
    · cases hx
      cases hframes
      have hall := haccepts.decode hbuffer
      rw [List.flatten_nil, List.append_nil, hfragment] at hall
      refine ⟨[s.emitted], (Continuable.headers v).setBlock block, ?_, ?_, .inl rfl, hin⟩
      · simp [Decoder.feedParts, hfragment]
      · rw [List.flatten_singleton]
        exact congrArg (fun o => (Option.map (·.2.emitted) o).getD []) hall
  | false =>
    rw [hend] at hx
    rcases hrest with ⟨rfl, hpoll⟩ | ⟨rfl, -⟩
    · cases hx
      obtain ⟨parts, c, hparts, rfl, hf, hc⟩ := pollNext_continues
        (r := { r with
          hpack := s.decoder
          partial' := some ⟨(Continuable.headers v).setBlock block, s.src.buf, 0⟩ }) hframes rfl hsbuffer hin
            hrestaccepts
        (by rwa [List.flatten_concat, List.flatten_nil, List.nil_append]) hpoll
      refine ⟨s.emitted :: parts, c, ?_, rfl, .inr hf, hc⟩
      simp only [Decoder.feedParts, List.nil_append, hfragment, Option.bind_eq_bind, Option.bind_some]
      rw [hparts, Option.map_some]
    · cases hx

theorem pollNext_whole (hnew : HeaderPlz.mapIsEmpty HeaderPlz.mapNew = true) {whole block : Bytes}
    {s : Decoding} (hwhole : Whole whole block)
    (hidle : r.partial' = none) (hdecode : r.hpack.decode block = some (.ok (), s)) (hwf : WellFormed s.emitted) :
    ∃ u r', r.pollNext [whole] = some (some (.ok (.headers u)), r', []) ∧
      InParts r.maxHeaderListSize [s.emitted] u.headerBlock := by
  obtain ⟨head, ⟨v, block⟩, hparse, hkind, hload, rfl, hend⟩ := hwhole
  have hempty : v.headerBlock = HeaderBlock.empty := Headers.load_empty hload
  have hin : InParts r.maxHeaderListSize [] v.headerBlock := hempty.symm ▸ .empty hnew _
  have hmalformed := ((hin.loading (congrArg HeaderBlock.isOverSize hempty)).foldl hwf).malformed
  have hloaded := hin.load s.emitted hwf
  generalize hl : s.emitted.foldl (BlockLoad.load r.maxHeaderListSize)
    ⟨v.headerBlock, !HeaderPlz.mapIsEmpty v.headerBlock.fields, false, v.headerBlock.calculateHeaderListSize⟩ = l
    at hmalformed hloaded
  have hblock : v.headerBlock.load block r.maxHeaderListSize r.hpack =
      some (.ok (), l.block, s.src.buf, s.decoder) := by
    simp [HeaderBlock.load, hdecode, hl, hmalformed]
  refine ⟨{ v with headerBlock := l.block }, { r with hpack := s.decoder }, ?_, hloaded⟩
  have hframe : r.decodeFrame whole =
      some (.ok (some (.headers { v with headerBlock := l.block })), { r with hpack := s.decoder }) := by
    simp [decodeFrame, hparse, hkind, hload, hidle, Except.map, headerBlock, loadHpack, Continuable.headerBlock,
      hblock, Continuable.isEndHeaders, hend, Continuable.setBlock, Continuable.frame]
  simp [pollNext, hframe]

inductive Open : FramedRead → Prop
  | new (maxFrameLength : Nat) : Open (new maxFrameLength)
  | decodeFrame {r r' : FramedRead} {bytes : Bytes} {res : Except ProtoError (Option Frame)} (hr : Open r)
      (h : r.decodeFrame bytes = some (res, r'))
      (hopen : ∀ e, res = .error e → ∃ id reason initiator, e = .reset id reason initiator) : Open r'
  | setMaxFrameSize {r r' : FramedRead} {val : Nat} (hr : Open r) (h : r.setMaxFrameSize val = some r') : Open r'
  | setMaxHeaderListSize {r : FramedRead} (maxFrameSize val : Nat) (hr : Open r) :
      Open (r.setMaxHeaderListSize maxFrameSize val)
  | setHeaderTableSize {r : FramedRead} (val : Nat) (hr : Open r) : Open (r.setHeaderTableSize val)

theorem decodeFrame_cases {bytes : Bytes} {res : Except ProtoError (Option Frame)}
    (h : r.decodeFrame bytes = some (res, r')) :
    r'.hpack = r.hpack ∨ ∃ (r₁ : FramedRead) (head : Head) (frame : Continuable) (buf : Bytes) (count : Nat)
      (isEndHeaders : Bool) (done : Continuable → Frame), r₁.hpack = r.hpack ∧
      r₁.loadHpack head frame buf count isEndHeaders done = some (res, r') := by
  have hsame : ∀ {x : Except ProtoError (Option Frame)}, some (x, r) = some (res, r') → r'.hpack = r.hpack := by
    intro x heq
    cases heq
    rfl
  have hblock : ∀ {head : Head} {loaded : Except FrameError (Continuable × Bytes)},
      r.headerBlock head loaded = some (res, r') → r'.hpack = r.hpack ∨ ∃ (r₁ : FramedRead) (head : Head)
        (frame : Continuable) (buf : Bytes) (count : Nat) (isEndHeaders : Bool) (done : Continuable → Frame),
        r₁.hpack = r.hpack ∧ r₁.loadHpack head frame buf count isEndHeaders done = some (res, r') := by
    intro head loaded h
    unfold headerBlock at h
    split at h
    · exact .inl (hsame h)
    · exact .inl (hsame h)
    · exact .inr ⟨r, _, _, _, _, _, _, rfl, h⟩
  have hload : ∀ {α : Type} {into : α → Frame} {loaded : Except FrameError α},
      r.ofLoad into loaded = some (res, r') → r'.hpack = r.hpack := by
    intro α into loaded h
    unfold ofLoad at h
    split at h <;> exact hsame h
  simp only [decodeFrame, Option.bind_eq_bind, Option.bind_eq_some_iff] at h
  obtain ⟨head, -, h⟩ := h
  obtain ⟨-, heq⟩ | ⟨-, h⟩ := ite_eq_iff.mp h
  · exact .inl (hsame heq)
  cases hkind : head.kind <;> simp only [hkind] at h
  case settings | ping | windowUpdate | reset | goAway => exact .inl (hload h)
  case data => split at h <;> exact .inl (hsame h)
  case headers | pushPromise => exact hblock h
  case priority =>
    obtain ⟨-, heq⟩ | ⟨-, h⟩ := ite_eq_iff.mp h
    · exact .inl (hsame heq)
    split at h <;> exact .inl (hsame h)
  case continuation =>
    simp only [continuation] at h
    split at h
    · exact .inl (hsame h)
    · obtain ⟨-, heq⟩ | ⟨-, h⟩ := ite_eq_iff.mp h
      · cases heq
        exact .inl rfl
      obtain ⟨-, heq⟩ | ⟨-, h⟩ := ite_eq_iff.mp h
      · cases heq
        exact .inl rfl
      obtain ⟨-, heq⟩ | ⟨-, h⟩ := ite_eq_iff.mp h
      · cases heq
        exact .inl rfl
      exact .inr ⟨{ r with partial' := none }, _, _, _, _, _, _, rfl, h⟩
  case unknown => exact .inl (hsame h)

theorem loadHpack_running {head : Head} {frame : Continuable} {buf : Bytes} {count : Nat} {isEndHeaders : Bool}
    {done : Continuable → Frame} {res : Except ProtoError (Option Frame)} (hr : r.hpack.Running)
    (h : r.loadHpack head frame buf count isEndHeaders done = some (res, r'))
    (hopen : ∀ e, res = .error e → ∃ id reason initiator, e = .reset id reason initiator) : r'.hpack.Running := by
  obtain ⟨⟨out, block, left, hpack⟩, hload, h⟩ := Option.bind_eq_some_iff.mp h
  obtain ⟨⟨res', s⟩, hdecode, hload⟩ := Option.bind_eq_some_iff.mp hload
  have hmore : ∀ e, res' = .error e → e.IsNeedMore := by
    rintro e rfl
    cases e with
    | needMore n => exact ⟨n, rfl⟩
    | _ =>
      cases hload
      cases h
      obtain ⟨id, reason, initiator, hno⟩ := hopen _ rfl
      cases hno
  have hs := hr.decode hdecode hmore
  cases hload
  have h := Option.some.inj h
  split at h
  · split at h <;> cases h <;> exact hs
  · split at h
    · split at h <;> cases h <;> exact hs
    · cases h
      exact hs
  · cases h
    exact hs
  · cases h
    exact hs

theorem Open.running (h : r.Open) : r.hpack.Running := by
  induction h with
  | new => exact .new _
  | decodeFrame _ h hopen ih =>
    rcases decodeFrame_cases h with heq | ⟨r₁, head, frame, buf, count, isEndHeaders, done, heq, hload⟩
    · rwa [heq]
    · exact loadHpack_running (heq ▸ ih) hload hopen
  | setMaxFrameSize _ h ih =>
    obtain ⟨-, heq⟩ := Option.ite_none_right_eq_some.mp h
    cases heq
    exact ih
  | setMaxHeaderListSize _ _ _ ih => exact ih
  | setHeaderTableSize _ _ ih => exact ih.queueSizeUpdate _

end Codec.FramedRead

/-! ### The verdict -/

theorem WellFormed.protocol_once {front rear : List Header} {v : Bytes}
    (hwf : WellFormed (front ++ .protocol v :: rear)) : protocolSize front = 0 ∧ protocolSize rear = 0 := by
  obtain ⟨-, hrear, hcross⟩ := List.pairwise_append.mp hwf.order
  refine ⟨protocolSize_eq_zero fun h hh => ?_, protocolSize_eq_zero fun h hh => ?_⟩
  · have hbefore := hcross h hh _ List.mem_cons_self
    cases h with
    | protocol v => exact absurd rfl (hbefore.resolve_left Bool.false_ne_true).2
    | _ => rfl
  · have hbehind := (List.pairwise_cons.mp hrear).1 h hh
    cases h with
    | protocol v => exact absurd rfl (hbehind.resolve_left Bool.false_ne_true).2
    | _ => rfl

/-- The verdict does not miss the `:protocol`: a block that reaches the limit does so by the frame with it,
or without it. -/
structure ProtocolCounted (max : Nat) (parts : List (List Header)) : Prop where
  /-- Where nothing at all is allowed, there is a header. -/
  nonempty : max = 0 → parts.flatten ≠ []
  counted : max ≤ headerListSize parts.flatten → ∀ before part after v, parts = before ++ part :: after →
    .protocol v ∈ part → max ≤ headerListSize (before.flatten ++ part) ∨
      max + (Header.protocol v).listSize ≤ headerListSize parts.flatten

theorem Noticed.reaches {max : Nat} {parts : List (List Header)} (h : Noticed max parts) :
    parts.flatten ≠ [] ∧ max ≤ headerListSize parts.flatten := by
  obtain ⟨before, part, after, rfl, hne, hle⟩ := h
  rw [List.flatten_append, List.flatten_cons]
  refine ⟨fun hnil => hne ?_, ?_⟩
  · exact (List.append_eq_nil_iff.mp (List.append_eq_nil_iff.mp hnil).2).1
  · simp only [headerListSize_append] at hle ⊢
    omega

theorem exists_last {parts : List (List Header)} (hne : parts.flatten ≠ []) :
    ∃ before part after, parts = before ++ part :: after ∧ part ≠ [] ∧ after.flatten = [] := by
  induction parts with
  | nil => exact absurd rfl hne
  | cons part parts ih =>
    by_cases hrest : parts.flatten = []
    · rw [List.flatten_cons, hrest, List.append_nil] at hne
      exact ⟨[], part, parts, rfl, hne, hrest⟩
    · obtain ⟨before, last, after, rfl, hlast, hafter⟩ := ih hrest
      exact ⟨part :: before, last, after, rfl, hlast, hafter⟩

theorem Noticed.counted {max : Nat} {parts : List (List Header)} (hwf : WellFormed parts.flatten)
    (h : Noticed max parts) : ProtocolCounted max parts where
  nonempty _ := h.reaches.1
  counted _ before part after v hparts hv := by
    obtain ⟨before', part', after', hparts', -, hle⟩ := h
    rw [hparts, List.flatten_append, List.flatten_cons]
    rw [hparts] at hparts' hwf
    simp only [headerListSize_append] at hle ⊢
    rcases List.append_eq_append_iff.mp hparts' with ⟨mid, rfl, hmid⟩ | ⟨mid, rfl, hmid⟩
    · cases mid with
      | nil =>
        cases hmid
        rw [List.append_nil] at hle
        exact .inl (by omega)
      | cons _ mid =>
        rw [List.cons_append] at hmid
        obtain ⟨rfl, rfl⟩ := List.cons.inj hmid
        -- the frames before the one that is noticed have the `:protocol`
        obtain ⟨front, rear, rfl⟩ := List.append_of_mem hv
        have hsize : protocolSize (front ++ Header.protocol v :: rear) ≥ (Header.protocol v).listSize := by
          rw [← List.singleton_append, protocolSize_append, protocolSize_append, protocolSize_singleton]
          simp only [Header.isProtocol, if_true]
          omega
        simp only [List.flatten_append, List.flatten_cons, protocolSize_append, headerListSize_append] at hle hsize ⊢
        exact .inr (by omega)
    · cases mid with
      | nil =>
        cases hmid
        rw [List.append_nil]
        exact .inl (by omega)
      | cons _ mid =>
        rw [List.cons_append] at hmid
        obtain ⟨rfl, rfl⟩ := List.cons.inj hmid
        simp only [List.flatten_append, List.flatten_cons, headerListSize_append]
        exact .inl (by omega)

theorem ProtocolCounted.noticed {max : Nat} {parts : List (List Header)} (hwf : WellFormed parts.flatten)
    (h : ProtocolCounted max parts) (hle : max ≤ headerListSize parts.flatten) : Noticed max parts := by
  have hne : parts.flatten ≠ [] := by
    intro hnil
    rw [hnil, headerListSize_nil] at hle
    exact h.nonempty (Nat.le_zero.mp hle) hnil
  obtain ⟨before, part, after, rfl, hpart, hafter⟩ := exists_last hne
  have hflat : (before ++ part :: after).flatten = before.flatten ++ part := by
    rw [List.flatten_append, List.flatten_cons, hafter, List.append_nil]
  rw [hflat] at hwf hle
  by_cases hprotocol : ∃ v, Header.protocol v ∈ before.flatten
  · obtain ⟨v, hv⟩ := hprotocol
    obtain ⟨part', hpart', hv'⟩ := List.mem_flatten.mp hv
    obtain ⟨front, rear, rfl⟩ := List.append_of_mem hpart'
    obtain ⟨xs, ys, rfl⟩ := List.append_of_mem hv'
    -- it stands there once
    have honce : protocolSize (front.flatten ++ xs) = 0 ∧ protocolSize (ys ++ (rear.flatten ++ part)) = 0 :=
      WellFormed.protocol_once (v := v) (by simpa [List.flatten_append] using hwf)
    rcases h.counted (by rwa [hflat]) front _ (rear ++ part :: after) v (by simp) hv' with hfront | hrest
    · refine ⟨front, xs ++ Header.protocol v :: ys, rear ++ part :: after,
        by simp, List.append_ne_nil_of_right_ne_nil _ (List.cons_ne_nil _ _), ?_⟩
      rw [protocolSize_append] at honce
      omega
    · refine ⟨front ++ (xs ++ Header.protocol v :: ys) :: rear, part, after, by simp, hpart, ?_⟩
      rw [hflat] at hrest
      have hsize : protocolSize (front ++ (xs ++ Header.protocol v :: ys) :: rear).flatten =
          (Header.protocol v).listSize := by
        rw [List.flatten_append, List.flatten_cons, ← List.singleton_append (l := ys)]
        simp only [protocolSize_append, protocolSize_singleton, Header.isProtocol, if_true] at honce ⊢
        omega
      omega
  · have hnone : protocolSize before.flatten = 0 := by
      refine protocolSize_eq_zero fun h hh => ?_
      cases h with
      | protocol v => exact absurd ⟨v, hh⟩ hprotocol
      | _ => rfl
    exact ⟨before, part, after, rfl, hpart, by omega⟩

/-- A block that is delivered in several frames gets the verdict of its size just when its `:protocol` is
counted. -/
theorem Codec.FramedRead.over_size_iff (hnew : HeaderPlz.mapIsEmpty HeaderPlz.mapNew = true) {r r' : FramedRead}
    (hr : r.Open) {whole first block fragment : Bytes} {frames fragments : List Bytes}
    (hwhole : Whole whole block) (hfirst : Starts first fragment)
    (hframes : List.Forall₂ Continues frames fragments) (hsplit : fragment ++ fragments.flatten = block)
    {s : Decoding} (hdecode : r.hpack.decode block = some (.ok (), s)) (hwf : WellFormed s.emitted) {g : Headers}
    (h : r.pollNext (first :: frames) = some (some (.ok (.headers g)), r', [])) :
    ∃ u r₁ parts, r.pollNext [whole] = some (some (.ok (.headers u)), r₁, []) ∧
      r.hpack.feedParts [] (fragment :: fragments) = some parts ∧ parts.flatten = s.emitted ∧
      ((g.headerBlock.isOverSize = u.headerBlock.isOverSize ∧
          (g.headerBlock.isOverSize = true ↔ r.maxHeaderListSize ≤ headerListSize s.emitted)) ↔
        ProtocolCounted r.maxHeaderListSize parts) := by
  have hbuffer := hr.running.buffer
  have hidle : r.partial' = none := by
    obtain ⟨x, r₁, hdecode, -⟩ := pollNext_cons h
    obtain ⟨head, l, hparse, hkind, -⟩ := hfirst
    match hp : r.partial' with
    | none => rfl
    | some p =>
      simp [decodeFrame, hparse, hkind, hp] at hdecode
  obtain ⟨out, haccepts, hout⟩ := Accepts.of_decodeLoop (Decoder.takeSizeUpdate_idle hbuffer).1 hdecode
  obtain rfl : s.emitted = out := hout
  rw [← hsplit] at haccepts
  obtain ⟨u, r₁, hu, huin⟩ := pollNext_whole hnew hwhole hidle hdecode hwf
  obtain ⟨parts, c, hparts, hflat, hc, hin⟩ := pollNext_starts hnew hfirst hframes hidle hbuffer haccepts hwf h
  refine ⟨u, r₁, parts, hu, hparts, hflat, ?_⟩
  obtain hblock : g.headerBlock = c.headerBlock := by
    cases c with
    | headers v => rcases hc with hc | hc <;> cases hc <;> rfl
    | pushPromise v => rcases hc with hc | hc <;> cases hc
  rw [hblock, Bool.eq_iff_iff, hin.overSize, huin.overSize, noticed_singleton, ← hflat]
  rw [← hflat] at hwf
  constructor
  · rintro ⟨-, hverdict⟩
    refine ⟨fun hmax => ?_, fun hle => ((hverdict.mpr hle).counted hwf).counted hle⟩
    exact (hverdict.mpr (hmax.symm ▸ Nat.zero_le _)).reaches.1
  · intro hcounted
    exact ⟨⟨Noticed.reaches, fun hover => hcounted.noticed hwf hover.2⟩,
      fun hnoticed => hnoticed.reaches.2, hcounted.noticed hwf⟩

end

section

attribute [local instance] plainCodes

def strictReader : Codec.FramedRead := (Codec.FramedRead.new 16384).setMaxHeaderListSize 16384 50

def protocolFragment : Bytes := [0x00, 0x09] ++ ascii ":protocol" ++ [0x01, 0x61]

def fieldFragment : Bytes := [0x00, 0x01, 0x61, 0x00]

def verdict : Option (Option (Except ProtoError Codec.Frame) × Codec.FramedRead × List Bytes) → Option Bool
  | some (some (.ok (.headers f)), _, []) => some f.headerBlock.isOverSize
  | _ => none

def wholeFrame : Bytes := [0, 0, 17, 1, 4, 0, 0, 0, 1] ++ (protocolFragment ++ fieldFragment)

def protocolFrame : Bytes := [0, 0, 13, 1, 0, 0, 0, 0, 1] ++ protocolFragment

def fieldFrame : Bytes := [0, 0, 4, 9, 4, 0, 0, 0, 1] ++ fieldFragment

/-- In one frame the headers are too many; in two they are not. -/
theorem protocol_forgotten : verdict (strictReader.pollNext [wholeFrame]) = some true ∧
    verdict (strictReader.pollNext [protocolFrame, fieldFrame]) = some false := by
  decide +kernel

theorem over_size_strict : ∃ s g r' u r₁ parts,
    strictReader.pollNext [protocolFrame, fieldFrame] = some (some (.ok (.headers g)), r', []) ∧
      strictReader.pollNext [wholeFrame] = some (some (.ok (.headers u)), r₁, []) ∧
      strictReader.hpack.decode (protocolFragment ++ fieldFragment) = some (.ok (), s) ∧
      strictReader.hpack.feedParts [] [protocolFragment, fieldFragment] = some parts ∧
      ((g.headerBlock.isOverSize = u.headerBlock.isOverSize ∧
          (g.headerBlock.isOverSize = true ↔ strictReader.maxHeaderListSize ≤ headerListSize s.emitted)) ↔
        ProtocolCounted strictReader.maxHeaderListSize parts) := by
  have hrun : (strictReader.hpack.decode (protocolFragment ++ fieldFragment)).map
      (fun r => (r.1.toBool, r.2.emitted)) = some (true, [.protocol [0x61], .field [0x61] []]) := by
    decide +kernel
  obtain ⟨⟨r, s⟩, hdecode, hr⟩ := Option.map_eq_some_iff.mp hrun
  obtain ⟨hok, hemitted⟩ := Prod.mk.inj hr
  have hwf : WellFormed s.emitted := by
    rw [show s.emitted = _ from hemitted]
    refine ⟨fun h hh => ?_, ?_⟩
    · rcases List.mem_cons.mp hh with rfl | hh
      · trivial
      · obtain rfl := List.mem_singleton.mp hh
        exact ⟨by decide +kernel, fun hno => absurd hno (by decide +kernel)⟩
    · exact List.pairwise_pair.mpr (.inl rfl)
  cases r with
  | error e => cases hok
  | ok _ =>
    have hsome := protocol_forgotten.2
    unfold verdict at hsome
    split at hsome
    · rename_i g r' hpoll
      have hwhole : Whole wholeFrame (protocolFragment ++ fieldFragment) :=
        ⟨⟨.headers, END_HEADERS, 1⟩, ⟨⟨1, none, HeaderBlock.empty, END_HEADERS⟩, protocolFragment ++ fieldFragment⟩,
          rfl, rfl, rfl, rfl, rfl⟩
      have hfirst : Starts protocolFrame protocolFragment :=
        ⟨⟨.headers, 0, 1⟩, ⟨⟨1, none, HeaderBlock.empty, 0⟩, protocolFragment⟩, rfl, rfl, rfl, rfl⟩
      have hframes : List.Forall₂ Continues [fieldFrame] [fieldFragment] := .cons ⟨_, rfl, rfl, rfl⟩ .nil
      obtain ⟨u, r₁, parts, hu, hparts, -, hiff⟩ := Codec.FramedRead.over_size_iff rfl
        (.setMaxHeaderListSize 16384 50 (.new 16384)) hwhole hfirst hframes rfl hdecode hwf hpoll
      exact ⟨s, g, r', u, r₁, parts, hpoll, hu, hdecode, hparts, hiff⟩
    · cases hsome

end

end TwoPlz
