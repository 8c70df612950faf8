import TwoPlz.Codec.HeaderFrames
import TwoPlz.Codec.OverSize

/-! Both ends of a connection: the frames that the peer reads are those that were buffered. -/

namespace TwoPlz

open Hpack

theorem Framed.eq_of_append_isPrefix {bytes rest tail : Bytes} {raw : RawFrame} (hbytes : Framed bytes)
    (hraw : raw.payload.length < 2 ^ 24) (h : bytes ++ rest <+: raw.bytes ++ tail) : bytes = raw.bytes := by
  have hframed := RawFrame.framed hraw
  obtain ⟨more, hmore⟩ := h
  have htake : bytes.take 3 = raw.bytes.take 3 := by
    have hall := congrArg (List.take 3) hmore
    rwa [List.append_assoc, List.take_append_of_le_length (by rw [hbytes, HEADER_LEN]; omega),
      List.take_append_of_le_length (by rw [hframed, HEADER_LEN]; omega)] at hall
  have hlength : bytes.length = raw.bytes.length := by rw [hbytes, hframed, htake]
  rw [List.append_assoc] at hmore
  exact List.append_inj_left hmore hlength

/-- What the framing of the connection can cut the bytes of some frames into. -/
theorem frames_of_isPrefix {frames : List Bytes} {raws : List RawFrame} (hframed : ∀ bytes ∈ frames, Framed bytes)
    (hraws : ∀ raw ∈ raws, raw.payload.length < 2 ^ 24) (h : frames.flatten <+: wire raws) :
    ∃ k, k ≤ raws.length ∧ frames = (raws.take k).map RawFrame.bytes := by
  induction frames generalizing raws with
  | nil => exact ⟨0, Nat.zero_le _, rfl⟩
  | cons bytes frames ih =>
    obtain ⟨hbytes, hframes⟩ := List.forall_mem_cons.mp hframed
    cases raws with
    | nil =>
      have hlength := List.IsPrefix.length_le h
      rw [List.flatten_cons, List.length_append, hbytes, HEADER_LEN, wire_nil, List.length_nil] at hlength
      omega
    | cons raw raws =>
      obtain ⟨hraw, hrest⟩ := List.forall_mem_cons.mp hraws
      rw [List.flatten_cons, wire_cons] at h
      obtain rfl := hbytes.eq_of_append_isPrefix hraw h
      obtain ⟨k, hk, rfl⟩ := ih hframes hrest ((List.prefix_append_right_inj _).mp h)
      exact ⟨k + 1, Nat.succ_le_succ hk, rfl⟩

section

variable [HeaderPlz]

/-! ### Frames without a header block -/

/-- A header block that comes out of the decoder of the peer, when the peer allows header lists of less than
`limit` bytes. -/
structure Headers.Conveyable (limit : Nat) (v : Headers) : Prop where
  streamId : 0 < v.streamId ∧ v.streamId < 2 ^ 31
  streamDep : v.streamDep = none
  endHeaders : v.flags &&& END_HEADERS = END_HEADERS
  unpadded : v.flags &&& PADDED ≠ PADDED
  unprioritized : v.flags &&& PRIORITY ≠ PRIORITY
  allowed : headerListSize v.headerBlock.headers < limit
  utf8 : v.headerBlock.IsUtf8
  headers : ∀ h ∈ v.headerBlock.headers, h.Sendable ∧ h.Allowed ∧ ¬OtherCase h

/-- What the fields of a frame have to be for the frame to be in the format at all. -/
def Codec.Frame.Conveyable (limit : Nat) : Codec.Frame → Prop
  | .data v => (0 < v.streamId ∧ v.streamId < 2 ^ 31) ∧ v.padLen = none ∧ v.flags &&& END_STREAM = v.flags ∧
      v.data.length < 2 ^ 24
  | .headers v => v.Conveyable limit
  | .settings v => v.Valid ∧ (v.isAck = true → v = Settings.ack)
  | .ping _ => True
  | .goAway v => v.lastStreamId < 2 ^ 31 ∧ v.errorCode < 2 ^ 32 ∧ 8 + v.debugData.length < 2 ^ 24
  | .windowUpdate v => v.streamId < 2 ^ 31 ∧ v.sizeIncrement ≠ 0 ∧ v.sizeIncrement < 2 ^ 31
  | .reset v => v.streamId < 2 ^ 31 ∧ v.errorCode < 2 ^ 32
  | .priority _ => False
  | .pushPromise _ => False

omit [HeaderPlz] in
theorem Data.load_chunk {v : Data} (hid : v.streamId ≠ 0) (hpad : v.padLen = none)
    (hflags : v.flags &&& END_STREAM = v.flags) : Data.load v.streamId v.flags v.data = some v := by
  obtain ⟨id, data, flags, pad⟩ := v
  obtain rfl : pad = none := hpad
  have hflags : flags &&& END_STREAM = flags := hflags
  have hmask : flags &&& (END_STREAM ||| PADDED) = flags := by
    rw [← hflags, UInt8.and_assoc]
    rfl
  have hunpadded : flags &&& PADDED ≠ PADDED := by
    rw [← hflags, UInt8.and_assoc, show END_STREAM &&& PADDED = 0 from rfl, UInt8.and_zero]
    decide
  simp only [load, hmask, if_neg hid, beq_iff_eq, if_neg hunpadded]

namespace Codec.Frame

variable {limit : Nat} {f : Frame} {raw : RawFrame}

theorem Conveyable.loads (h : f.Conveyable limit) (hraw : f.raw = some raw) :
    f.Loads raw.head raw.payload ∧ raw.head.streamId < 2 ^ 31 ∧ raw.payload.length < 2 ^ 24 := by
  cases f with
  | data v =>
    cases hraw
    obtain ⟨hid, hpad, hflags, hlen⟩ := h
    exact ⟨⟨rfl, Data.load_chunk (Nat.pos_iff_ne_zero.mp hid.1) hpad hflags⟩, hid.2, hlen⟩
  | settings v =>
    cases hraw
    refine ⟨⟨rfl, ?_⟩, by simp [Settings.head], Nat.lt_of_le_of_lt v.length_payload_le (by decide)⟩
    cases hack : v.isAck with
    | false => exact h.1.load_payload hack
    | true =>
      obtain rfl := h.2 hack
      rfl
  | ping v =>
    cases hraw
    exact ⟨⟨rfl, v.load_payload⟩, by simp [Ping.head], by simp⟩
  | goAway v =>
    cases hraw
    exact ⟨⟨rfl, GoAway.load_payload_of_lt h.1 h.2.1⟩, by simp [GoAway.head], v.length_payload.symm ▸ h.2.2⟩
  | windowUpdate v =>
    cases hraw
    exact ⟨⟨rfl, WindowUpdate.load_payload_of_lt h.2.1 h.2.2⟩, h.1, by simp⟩
  | reset v =>
    cases hraw
    exact ⟨⟨rfl, Reset.load_payload_of_lt h.2⟩, h.1, by simp⟩
  | headers v => cases hraw
  | priority v => cases hraw
  | pushPromise v => cases hraw

end Codec.Frame

/-! ### The block of a HEADERS frame -/

namespace HeaderBlock

theorem foldl_toList {α : Type} (o : Option α) (make : α → Header) (set : Option α → HeaderBlock)
    (h : ∀ v, (set none).put (make v) = set (some v)) : (o.map make).toList.foldl put (set none) = set o := by
  cases o with
  | none => rfl
  | some v => exact h v

theorem foldl_pseudo (p : Pseudo) : p.headers.foldl put empty = { empty with pseudo := p } := by
  obtain ⟨method, scheme, authority, path, protocol, status⟩ := p
  have hmethod := foldl_toList method .method ({ empty with pseudo := ⟨·, none, none, none, none, none⟩ }) fun _ => rfl
  have hscheme := foldl_toList scheme .scheme ({ empty with pseudo := ⟨method, ·, none, none, none, none⟩ })
    fun _ => rfl
  have hauthority := foldl_toList authority .authority
    ({ empty with pseudo := ⟨method, scheme, ·, none, none, none⟩ }) fun _ => rfl
  have hpath := foldl_toList path .path ({ empty with pseudo := ⟨method, scheme, authority, ·, none, none⟩ })
    fun _ => rfl
  have hprotocol := foldl_toList protocol .protocol
    ({ empty with pseudo := ⟨method, scheme, authority, path, ·, none⟩ }) fun _ => rfl
  have hstatus := foldl_toList status .status
    ({ empty with pseudo := ⟨method, scheme, authority, path, protocol, ·⟩ }) fun _ => rfl
  have hempty : empty = { empty with pseudo := ⟨none, none, none, none, none, none⟩ } := rfl
  simp only [Pseudo.headers, List.foldl_append]
  rw [hempty, hmethod, hscheme, hauthority, hpath, hprotocol, hstatus]

theorem foldl_fields {storedName : Bytes → Bytes} (hmaps : HeaderMaps storedName) (fields : List (Bytes × Bytes))
    (b : HeaderBlock) :
    let b' := (fields.map fun h => Header.field h.1 h.2).foldl put b
    b'.pseudo = b.pseudo ∧ b'.isOverSize = b.isOverSize ∧
      HeaderMap.entries b'.fields = HeaderMap.entries b.fields ++ fields.map fun h => (storedName h.1, h.2) := by
  induction fields generalizing b with
  | nil => exact ⟨rfl, rfl, (List.append_nil _).symm⟩
  | cons field fields ih =>
    obtain ⟨hpseudo, hover, hentries⟩ := ih (b.put (.field field.1 field.2))
    refine ⟨hpseudo, hover, hentries.trans ?_⟩
    rw [put, hmaps.insert, List.append_assoc]
    rfl

/-- What is read of a block: its pseudo-headers, and its fields under the names that the map makes of theirs. -/
structure Arrives (storedName : Bytes → Bytes) (b b' : HeaderBlock) : Prop where
  pseudo : b'.pseudo = b.pseudo
  fields : HeaderMap.entries b'.fields = (HeaderMap.entries b.fields).map fun h => (storedName h.1, h.2)
  underSize : b'.isOverSize = false

theorem arrives_foldl {storedName : Bytes → Bytes} (hmaps : HeaderMaps storedName) (b : HeaderBlock) :
    b.Arrives storedName (b.headers.foldl put empty) := by
  rw [headers, List.foldl_append, foldl_pseudo]
  obtain ⟨hpseudo, hover, hentries⟩ := foldl_fields hmaps (HeaderMap.entries b.fields) { empty with pseudo := b.pseudo }
  exact ⟨hpseudo, hentries.trans (by rw [empty, hmaps.new, List.nil_append]), hover⟩

theorem headers_order (b : HeaderBlock) : b.headers.Pairwise Header.Before := by
  have hone : ∀ {α : Type} (o : Option α) (make : α → Header) (name : Name), (∀ v, (make v).name = name) →
      ((o.map make).toList.map Header.name).Sublist [name] := by
    intro α o make name hname
    cases o with
    | none => exact List.nil_sublist _
    | some v =>
      simp only [Option.map_some, Option.toList_some, List.map_cons, List.map_nil, hname]
      exact .refl _
  have hnames : (b.pseudo.headers.map Header.name).Sublist
      ([.method] ++ [.scheme] ++ [.authority] ++ [.path] ++ [.protocol] ++ [.status]) := by
    simp only [Pseudo.headers, List.map_append]
    exact (((((hone _ .method .method fun _ => rfl).append (hone _ .scheme .scheme fun _ => rfl)).append
      (hone _ .authority .authority fun _ => rfl)).append (hone _ .path .path fun _ => rfl)).append
      (hone _ .protocol .protocol fun _ => rfl)).append (hone _ .status .status fun _ => rfl)
  have hdistinct : (b.pseudo.headers.map Header.name).Nodup := hnames.nodup (by decide)
  have hpseudo : ∀ h ∈ b.pseudo.headers, h.isField = false := by
    intro h hh
    cases h with
    | field name value => simp [Pseudo.headers] at hh
    | _ => rfl
  refine List.pairwise_append.mpr ⟨?_, ?_, ?_⟩
  · refine (List.pairwise_map.mp hdistinct).imp_of_mem fun ha _ hne => ?_
    exact .inr ⟨hpseudo _ ha, hne⟩
  · refine List.pairwise_map.mpr (List.pairwise_of_forall fun _ _ => .inl rfl)
  · intro a _ h hh
    obtain ⟨field, -, rfl⟩ := List.mem_map.mp hh
    exact .inl rfl

end HeaderBlock

theorem Loading.foldl_put {max : Nat} {before now headers : List Header} {l : BlockLoad}
    (hl : Loading max before now l) (hwf : WellFormed (before ++ (now ++ headers)))
    (hfits : headerListSize (before ++ (now ++ headers)) < max) :
    (headers.foldl (BlockLoad.load max) l).block = headers.foldl HeaderBlock.put l.block := by
  induction headers generalizing now l with
  | nil => rfl
  | cons h headers ih =>
    have hassoc : now ++ h :: headers = (now ++ [h]) ++ headers := by rw [List.append_assoc]; rfl
    rw [hassoc] at hwf hfits
    have hfront : WellFormed (before ++ (now ++ [h])) := by
      rw [← List.append_assoc] at hwf
      exact hwf.front
    obtain ⟨hload, -⟩ := hl.load_eq hfront
    have hunder : l.headersSize + h.listSize < max := by
      have hsize := hl.size
      simp only [headerListSize_append, headerListSize_cons, headerListSize_nil] at hsize hfits
      omega
    rw [List.foldl_cons, List.foldl_cons, ih (hl.step hfront) hwf hfits, hload, BlockLoad.count, if_pos hunder]

theorem InParts.underSize {max : Nat} {parts : List (List Header)} {b : HeaderBlock} (hb : InParts max parts b)
    (hfits : headerListSize parts.flatten < max) : b.isOverSize = false := by
  rw [Bool.eq_false_iff]
  intro hover
  exact absurd (hb.overSize.mp hover).reaches.2 (Nat.not_le.mpr hfits)

theorem InParts.load_put {max : Nat} {parts : List (List Header)} {b : HeaderBlock} (hb : InParts max parts b)
    {part : List Header} (hwf : WellFormed (parts.flatten ++ part))
    (hfits : headerListSize (parts.flatten ++ part) < max) :
    (part.foldl (BlockLoad.load max) ⟨b, !HeaderPlz.mapIsEmpty b.fields, false,
      b.calculateHeaderListSize⟩).malformed = false ∧
      (part.foldl (BlockLoad.load max) ⟨b, !HeaderPlz.mapIsEmpty b.fields, false, b.calculateHeaderListSize⟩).block =
        part.foldl HeaderBlock.put b ∧ InParts max (parts ++ [part]) (part.foldl HeaderBlock.put b) := by
  have hunder : b.isOverSize = false := by
    apply hb.underSize
    rw [headerListSize_append] at hfits
    omega
  have hl := hb.loading hunder
  have hblock := hl.foldl_put hwf hfits
  exact ⟨(hl.foldl hwf).malformed, hblock, hblock ▸ hb.load part hwf⟩

theorem Headers.Conveyable.wellFormed {limit : Nat} {v : Headers} (h : v.Conveyable limit) :
    WellFormed v.headerBlock.headers :=
  ⟨fun header hh => (h.headers header hh).2.1, v.headerBlock.headers_order⟩

/-! ### The frames of a block -/

inductive Fragments (max : Nat) : Head → Bytes → List RawFrame → Prop
  | last {head : Head} {payload : Bytes} (hfits : payload.length ≤ max) : Fragments max head payload [⟨head, payload⟩]
  | cons {head : Head} {part payload : Bytes} {raws : List RawFrame} (hfits : part.length ≤ max)
      (hrest : Fragments max ⟨.continuation, END_HEADERS, head.streamId⟩ payload raws) :
    Fragments max head (part ++ payload) (⟨{ head with flag := head.flag - END_HEADERS }, part⟩ :: raws)

section

omit [HeaderPlz]

variable {max : Nat}

theorem Continuation.frames_fragments (hmax : FrameSize max) {k : Nat} {c : Continuation} {raws : List RawFrame}
    (h : c.frames (writeLimit max) k = some raws) :
    Fragments max ⟨.continuation, END_HEADERS, c.streamId⟩ c.hpack raws := by
  induction k generalizing c raws with
  | zero => cases h
  | succ k ih =>
    rw [frames, frame_eq hmax] at h
    split at h
    · obtain ⟨rest, hrest, rfl⟩ := Option.map_eq_some_iff.mp h
      have hcons : Fragments max ⟨.continuation, END_HEADERS, c.streamId⟩ (c.hpack.take max ++ c.hpack.drop max)
          (⟨⟨.continuation, END_HEADERS - END_HEADERS, c.streamId⟩, c.hpack.take max⟩ :: rest) :=
        .cons (List.length_take_le max c.hpack) (ih (c := ⟨c.streamId, c.hpack.drop max⟩) hrest)
      rwa [List.take_append_drop, show END_HEADERS - END_HEADERS = 0 by decide] at hcons
    · rename_i hlong
      cases h
      exact .last (Nat.not_lt.mp hlong)

theorem blockFrames_fragments (hmax : FrameSize max) {head : Head} {hpack : Bytes}
    {out : RawFrame × Option Continuation} {raws : List RawFrame}
    (hout : encodeBlock hpack head (writeLimit max) [] = some out)
    (hraws : blockFrames (writeLimit max) out = some raws) : Fragments max head hpack raws := by
  have hlimit : writeLimit max - HEADER_LEN = max := Nat.add_sub_cancel ..
  unfold encodeBlock at hout
  simp only [List.length_nil, Nat.sub_zero, hlimit, List.nil_append] at hout
  obtain ⟨-, heq⟩ | ⟨-, hout⟩ := ite_eq_iff.mp hout
  · cases heq
  obtain ⟨-, heq⟩ | ⟨-, hout⟩ := ite_eq_iff.mp hout
  · cases heq
  obtain ⟨-, hout⟩ | ⟨hlong, hout⟩ := ite_eq_iff.mp hout
  · obtain ⟨-, heq⟩ := Option.ite_none_right_eq_some.mp hout
    cases heq
    obtain ⟨rest, hrest, rfl⟩ := Option.map_eq_some_iff.mp hraws
    have hcons := Fragments.cons (List.length_take_le max hpack) (Continuation.frames_fragments hmax hrest)
    rwa [List.take_append_drop] at hcons
  · cases hout
    cases hraws
    rw [List.take_of_length_le (Nat.not_lt.mp hlong)]
    exact .last (Nat.not_lt.mp hlong)

theorem Fragments.fits {head : Head} {payload : Bytes} {raws : List RawFrame} (h : Fragments max head payload raws) :
    ∀ raw ∈ raws, raw.payload.length ≤ max := by
  induction h with
  | last hfits =>
    intro raw hraw
    obtain rfl := List.mem_singleton.mp hraw
    exact hfits
  | cons hfits _ ih => exact List.forall_mem_cons.mpr ⟨hfits, ih⟩

end

namespace Continuable

@[simp] theorem headerBlock_setBlock (c : Continuable) (block : HeaderBlock) :
    (c.setBlock block).headerBlock = block := by
  cases c <;> rfl

@[simp] theorem streamId_setBlock (c : Continuable) (block : HeaderBlock) :
    (c.setBlock block).streamId = c.streamId := by
  cases c <;> rfl

@[simp] theorem setBlock_setBlock (c : Continuable) (block block' : HeaderBlock) :
    (c.setBlock block).setBlock block' = c.setBlock block' := by
  cases c <;> rfl

end Continuable

/-! What `encode` takes off the flags of a frame that does not end its block. -/

section

omit [HeaderPlz]

theorem sub_endHeaders_and {flag mask : UInt8} (h : flag &&& END_HEADERS = END_HEADERS)
    (hmask : ~~~END_HEADERS &&& mask = mask) : (flag - END_HEADERS) &&& mask = flag &&& mask := by
  have cleared : ∀ b : BitVec 8, b &&& 4 = 4 → b - 4 = b &&& ~~~4 := by decide
  have hsub : flag - END_HEADERS = flag &&& ~~~END_HEADERS := by
    apply UInt8.toBitVec_inj.mp
    exact cleared flag.toBitVec (congrArg UInt8.toBitVec h)
  rw [hsub, UInt8.and_assoc, hmask]

theorem sub_endHeaders_or {flag : UInt8} (h : flag &&& END_HEADERS = END_HEADERS) :
    (flag - END_HEADERS) ||| END_HEADERS = flag := by
  have restored : ∀ b : BitVec 8, b &&& 4 = 4 → (b - 4) ||| 4 = b := by decide
  apply UInt8.toBitVec_inj.mp
  exact restored flag.toBitVec (congrArg UInt8.toBitVec h)

end

namespace Codec.FramedRead

variable {r : FramedRead} {parts : List (List Header)} {buf rest : Bytes} {out : List Header} {d' : Decoder}

theorem loadHpack_more (head : Head) (frame : Continuable) (count : Nat) (done : Continuable → Frame)
    (hbuffer : r.hpack.buffer = [])
    (hblock : InParts r.maxHeaderListSize parts frame.headerBlock)
    (haccepts : Accepts true r.hpack.takeSizeUpdate (buf ++ rest) out d')
    (hwf : WellFormed (parts.flatten ++ out)) (hfits : headerListSize (parts.flatten ++ out) < r.maxHeaderListSize) :
    ∃ (s : Decoding) (out' : List Header), out = s.emitted ++ out' ∧ s.decoder.buffer = [] ∧
      Accepts true s.decoder.takeSizeUpdate (s.src.buf ++ rest) out' d' ∧
      InParts r.maxHeaderListSize (parts ++ [s.emitted]) (s.emitted.foldl HeaderBlock.put frame.headerBlock) ∧
      r.loadHpack head frame buf count false done = some (.ok none, { r with
        hpack := s.decoder
        partial' := some ⟨frame.setBlock (s.emitted.foldl HeaderBlock.put frame.headerBlock), s.src.buf, count⟩ }) := by
  obtain ⟨res, s, out', hdecode, hres, rfl, hrest, hsbuffer⟩ := Decoder.decode_part hbuffer haccepts
  rw [← List.append_assoc] at hwf hfits
  have hfront : headerListSize (parts.flatten ++ s.emitted) < r.maxHeaderListSize := by
    rw [headerListSize_append] at hfits
    omega
  obtain ⟨hmalformed, hput, hin⟩ := hblock.load_put hwf.front hfront
  refine ⟨s, out', rfl, hsbuffer, hrest, hin, ?_⟩
  rw [loadHpack, HeaderBlock.load, hdecode]
  rcases hres with rfl | ⟨n, rfl⟩
  · simp [hmalformed, hput]
  · simp [hput]

theorem loadHpack_last (head : Head) (frame : Continuable) (count : Nat) (done : Continuable → Frame)
    (hbuffer : r.hpack.buffer = [])
    (hblock : InParts r.maxHeaderListSize parts frame.headerBlock)
    (haccepts : Accepts true r.hpack.takeSizeUpdate buf out d')
    (hwf : WellFormed (parts.flatten ++ out)) (hfits : headerListSize (parts.flatten ++ out) < r.maxHeaderListSize) :
    r.loadHpack head frame buf count true done =
      some (.ok (some (done (frame.setBlock (out.foldl HeaderBlock.put frame.headerBlock)))),
        { r with hpack := d' }) := by
  obtain ⟨hmalformed, hput, -⟩ := hblock.load_put hwf hfits
  rw [loadHpack, HeaderBlock.load, haccepts.decode hbuffer]
  simp [hmalformed, hput]

/-- The reader returns `f` once all of `raws` have arrived, and nothing before. -/
structure Conveys (r : FramedRead) (raws : List RawFrame) (f : Frame) (r' : FramedRead) : Prop where
  all : ∀ more, r.pollNext (raws.map RawFrame.bytes ++ more) = some (some (.ok f), r', more)
  part : ∀ k, k < raws.length → ∃ r₁, r.pollNext ((raws.take k).map RawFrame.bytes) = some (none, r₁, [])

theorem Conveys.single {r' : FramedRead} {raw : RawFrame} {f : Frame}
    (h : r.decodeFrame raw.bytes = some (.ok (some f), r')) : r.Conveys [raw] f r' where
  all more := by simp [pollNext, h]
  part k hk := by
    obtain rfl : k = 0 := Nat.lt_one_iff.mp hk
    exact ⟨r, rfl⟩

theorem Conveys.cons {r₁ r' : FramedRead} {raw : RawFrame} {raws : List RawFrame} {f : Frame}
    (h : r.decodeFrame raw.bytes = some (.ok none, r₁)) (hrest : r₁.Conveys raws f r') :
    r.Conveys (raw :: raws) f r' where
  all more := by
    rw [List.map_cons, List.cons_append, pollNext, h]
    exact hrest.all more
  part k hk := by
    cases k with
    | zero => exact ⟨r, rfl⟩
    | succ k =>
      obtain ⟨r₂, hpoll⟩ := hrest.part k (Nat.lt_of_succ_lt_succ hk)
      refine ⟨r₂, ?_⟩
      rw [List.take_succ_cons, List.map_cons, pollNext, h]
      exact hpoll

theorem decodeFrame_continuation {p : Partial} (raw : RawFrame) (isEndHeaders : Bool) (hid : raw.head.streamId < 2 ^ 31)
    (hkind : raw.head.kind = .continuation) (hp : r.partial' = some p) (hpid : p.frame.streamId = raw.head.streamId)
    (hunder : p.frame.isOverSize = false)
    (hend : (raw.head.flag &&& END_HEADERS == END_HEADERS) = isEndHeaders)
    (hcount : isEndHeaders = false → p.continuationFramesCount + 1 ≤ r.maxContinuationFrames) :
    r.decodeFrame raw.bytes = { r with partial' := none }.loadHpack raw.head p.frame (p.buf ++ raw.payload)
      (if isEndHeaders then 0 else p.continuationFramesCount + 1) isEndHeaders Continuable.into := by
  have hparse : Head.parse raw.bytes = some raw.head := Head.parse_encode hid _ _
  have hdrop : raw.bytes.drop HEADER_LEN = raw.payload := Head.drop_encode _ _ _
  simp only [decodeFrame, hparse, hdrop, Option.bind_eq_bind, Option.bind_some, hkind, bne_self_eq_false,
    Bool.and_false, Bool.false_eq_true, if_false, continuation, hp, hpid, ne_eq, not_true, hend, hunder, Bool.false_and]
  cases isEndHeaders with
  | true => rfl
  | false =>
    have hlimit : ¬p.continuationFramesCount + 1 > r.maxContinuationFrames := Nat.not_lt.mpr (hcount rfl)
    simp [hlimit]

theorem conveys_continuations {max : Nat} {head : Head} {payload : Bytes} {raws : List RawFrame} {p : Partial}
    (parts : List (List Header)) (h : Fragments max head payload raws) (hkind : head.kind = .continuation)
    (hflag : head.flag = END_HEADERS)
    (hid : head.streamId < 2 ^ 31) (hp : r.partial' = some p) (hpid : p.frame.streamId = head.streamId)
    (hbuffer : r.hpack.buffer = []) (hblock : InParts r.maxHeaderListSize parts p.frame.headerBlock)
    (haccepts : Accepts true r.hpack.takeSizeUpdate (p.buf ++ payload) out d')
    (hwf : WellFormed (parts.flatten ++ out)) (hfits : headerListSize (parts.flatten ++ out) < r.maxHeaderListSize)
    (hcount : p.continuationFramesCount + raws.length ≤ r.maxContinuationFrames + 1) :
    r.Conveys raws (p.frame.setBlock (out.foldl HeaderBlock.put p.frame.headerBlock)).into
      { r with
        hpack := d'
        partial' := none } := by
  have hunder : p.frame.isOverSize = false := by
    apply hblock.underSize
    rw [headerListSize_append] at hfits
    omega
  induction h generalizing r p parts out with
  | @last head payload _ =>
    apply Conveys.single
    rw [decodeFrame_continuation ⟨head, payload⟩ true hid hkind hp hpid hunder
      (by rw [hflag]; decide) (fun hno => by cases hno)]
    exact loadHpack_last (r := { r with partial' := none }) _ _ _ _ hbuffer hblock haccepts hwf hfits
  | @cons head part payload raws _ hrest ih =>
    rw [← List.append_assoc] at haccepts
    obtain ⟨s, out', rfl, hsbuffer, hsrest, hin, hload⟩ :=
      loadHpack_more (r := { r with partial' := none }) ⟨head.kind, head.flag - END_HEADERS, head.streamId⟩
        p.frame (p.continuationFramesCount + 1) Continuable.into hbuffer hblock haccepts hwf hfits
    rw [List.length_cons] at hcount
    have hpos : 0 < raws.length := by cases hrest <;> exact Nat.succ_pos _
    have hcleared : ((END_HEADERS - END_HEADERS) &&& END_HEADERS == END_HEADERS) = false := by decide
    have hframe := decodeFrame_continuation ⟨⟨head.kind, head.flag - END_HEADERS, head.streamId⟩, part⟩ false hid
      hkind hp hpid hunder (by rw [hflag]; exact hcleared) (fun _ => by omega)
    rw [← List.append_assoc] at hwf hfits
    rw [← List.flatten_concat] at hwf hfits
    have hunder' : (s.emitted.foldl HeaderBlock.put p.frame.headerBlock).isOverSize = false := by
      have hin : InParts r.maxHeaderListSize (parts ++ [s.emitted]) _ := hin
      apply hin.underSize
      rw [headerListSize_append] at hfits
      omega
    have hconveys := ih (parts ++ [s.emitted]) rfl rfl hid (r := { r with
        hpack := s.decoder
        partial' := some ⟨p.frame.setBlock (s.emitted.foldl HeaderBlock.put p.frame.headerBlock), s.src.buf,
          p.continuationFramesCount + 1⟩ }) rfl (by simpa using hpid) hsbuffer
      (by simpa using hin) hsrest hwf hfits (by simp only; omega)
      (by simpa [Continuable.isOverSize] using hunder')
    rw [List.foldl_append]
    simp only [Continuable.setBlock_setBlock, Continuable.headerBlock_setBlock] at hconveys
    exact .cons (hframe.trans hload) hconveys

theorem decodeFrame_headers (raw : RawFrame) (isEndHeaders : Bool) (hidle : r.partial' = none)
    (hkind : raw.head.kind = .headers)
    (hid : 0 < raw.head.streamId ∧ raw.head.streamId < 2 ^ 31) (hpad : raw.head.flag &&& PADDED ≠ PADDED)
    (hpriority : raw.head.flag &&& PRIORITY ≠ PRIORITY)
    (hend : (raw.head.flag &&& END_HEADERS == END_HEADERS) = isEndHeaders) :
    r.decodeFrame raw.bytes = r.loadHpack raw.head
      (.headers ⟨raw.head.streamId, none, HeaderBlock.empty, raw.head.flag⟩) raw.payload 0 isEndHeaders
        Continuable.frame := by
  have hparse : Head.parse raw.bytes = some raw.head := Head.parse_encode hid.2 _ _
  have hdrop : raw.bytes.drop HEADER_LEN = raw.payload := Head.drop_encode _ _ _
  have hload : Headers.load raw.head raw.payload =
      .ok (⟨raw.head.streamId, none, HeaderBlock.empty, raw.head.flag⟩, raw.payload) := by
    have hpos := Nat.pos_iff_ne_zero.mp hid.1
    simp [Headers.load, padLen, dropPadding, hpos, hpad, hpriority, bind, Except.bind]
  simp [decodeFrame, hparse, hdrop, hkind, hidle, hload, Except.map, headerBlock, Continuable.isEndHeaders,
    Headers.isEndHeaders, hend]

theorem conveys_headers (hnew : HeaderPlz.mapIsEmpty HeaderPlz.mapNew = true) {max : Nat} {v : Headers}
    {block : Bytes} {raws : List RawFrame}
    (hv : v.Conveyable r.maxHeaderListSize) (h : Fragments max ⟨.headers, v.flags, v.streamId⟩ block raws)
    (hidle : r.partial' = none) (hbuffer : r.hpack.buffer = [])
    (haccepts : Accepts true r.hpack.takeSizeUpdate block v.headerBlock.headers d')
    (hcount : raws.length ≤ r.maxContinuationFrames + 2) :
    r.Conveys raws (.headers { v with headerBlock := v.headerBlock.headers.foldl HeaderBlock.put HeaderBlock.empty })
      { r with hpack := d' } := by
  have hwf : WellFormed (([] : List (List Header)).flatten ++ v.headerBlock.headers) := hv.wellFormed
  have hfits : headerListSize (([] : List (List Header)).flatten ++ v.headerBlock.headers) < r.maxHeaderListSize :=
    hv.allowed
  have hempty : InParts r.maxHeaderListSize [] HeaderBlock.empty := .empty hnew _
  generalize hblock : v.headerBlock.headers.foldl HeaderBlock.put HeaderBlock.empty = arrived
  have hframe : Headers.mk v.streamId none arrived v.flags = { v with headerBlock := arrived } := by rw [← hv.streamDep]
  cases h with
  | last _ =>
    apply Conveys.single
    rw [decodeFrame_headers ⟨⟨.headers, v.flags, v.streamId⟩, block⟩ true hidle rfl hv.streamId hv.unpadded
      hv.unprioritized (beq_iff_eq.mpr hv.endHeaders),
      loadHpack_last _ (.headers ⟨v.streamId, none, HeaderBlock.empty, v.flags⟩) _ _ hbuffer hempty haccepts hwf hfits]
    simp only [Continuable.headerBlock, Continuable.setBlock, Continuable.frame, hblock, hframe]
  | @cons _ part payload raws _ hrest =>
    obtain ⟨s, out', hout, hsbuffer, hsrest, hin, hload⟩ :=
      loadHpack_more ⟨.headers, v.flags - END_HEADERS, v.streamId⟩
        (.headers ⟨v.streamId, none, HeaderBlock.empty, v.flags - END_HEADERS⟩) 0 Continuable.frame hbuffer hempty
        haccepts hwf hfits
    have hpad : (v.flags - END_HEADERS) &&& PADDED ≠ PADDED := by
      rw [sub_endHeaders_and hv.endHeaders (by decide)]
      exact hv.unpadded
    have hpriority : (v.flags - END_HEADERS) &&& PRIORITY ≠ PRIORITY := by
      rw [sub_endHeaders_and hv.endHeaders (by decide)]
      exact hv.unprioritized
    have hcleared : ((v.flags - END_HEADERS) &&& END_HEADERS == END_HEADERS) = false := by
      rw [sub_endHeaders hv.endHeaders]
      decide
    have hfirst := decodeFrame_headers ⟨⟨.headers, v.flags - END_HEADERS, v.streamId⟩, part⟩ false hidle rfl
      hv.streamId hpad hpriority hcleared
    rw [hout] at hwf hfits hblock
    have hconveys := conveys_continuations (r := { r with
        hpack := s.decoder
        partial' := some ⟨.headers ⟨v.streamId, none, s.emitted.foldl HeaderBlock.put HeaderBlock.empty,
          v.flags - END_HEADERS⟩, s.src.buf, 0⟩ }) ([] ++ [s.emitted]) hrest rfl rfl hv.streamId.2 rfl rfl
      hsbuffer hin hsrest (by simpa using hwf) (by simpa using hfits)
      (by rw [List.length_cons] at hcount; simp only; omega)
    have hall : (Continuable.headers ⟨v.streamId, none, s.emitted.foldl HeaderBlock.put HeaderBlock.empty,
        v.flags - END_HEADERS⟩).setBlock (out'.foldl HeaderBlock.put
          (s.emitted.foldl HeaderBlock.put HeaderBlock.empty)) =
        .headers ⟨v.streamId, none, arrived, v.flags - END_HEADERS⟩ := by
      rw [← List.foldl_append, hblock]
      rfl
    have hinto : (Continuable.headers ⟨v.streamId, none, arrived, v.flags - END_HEADERS⟩).into =
        .headers { v with headerBlock := arrived } := by
      simp only [Continuable.into, Headers.setEndHeaders, sub_endHeaders_or hv.endHeaders, hframe]
    simp only [Continuable.headerBlock] at hconveys
    rw [hall, hinto] at hconveys
    have hdone := Conveys.cons (hfirst.trans hload) hconveys
    rwa [← hidle] at hdone

/-- The calls of `poll_next` until nothing that has arrived is left: the frames that they return, and the
reader. -/
inductive Reads : FramedRead → List Bytes → List Frame → FramedRead → Prop
  | pending {r r' : FramedRead} {frames : List Bytes} (h : r.pollNext frames = some (none, r', [])) :
    Reads r frames [] r'
  | next {r r₁ r' : FramedRead} {frames rest : List Bytes} {f : Frame} {out : List Frame}
      (h : r.pollNext frames = some (some (.ok f), r₁, rest)) (hrest : Reads r₁ rest out r') :
    Reads r frames (f :: out) r'

end Codec.FramedRead

/-! ### Both ends -/

section

variable [NameHash]

attribute [local instance] NameHash.encoder

open Codec (Frame FramedRead)

/-- No header block takes more frames than `limit` continuations and the two frames beside them. -/
def Codec.Frame.Paced (max limit : Nat) : Hpack.Encoder → List Frame → Prop
  | _, [] => True
  | hpack, f :: fs => ∀ raws hpack', f.encode max hpack = some (raws, hpack') →
      raws.length ≤ limit + 2 ∧ Paced max limit hpack' fs

variable {max : Nat} {hpack hpack' : Hpack.Encoder} {r : FramedRead} {f : Frame} {raws : List RawFrame}

theorem Headers.Conveyable.accepts (hc : Constants) (hconv : Conversions) {limit : Nat} {v : Headers}
    {d : Decoder} {block : Bytes} (hv : v.Conveyable limit) (hstep : (Peers.mk hpack d).InStep NameHash.hash)
    (hblock : HpackEncoder.encode hpack v.headerBlock = some (block, hpack')) :
    ∃ d', (Peers.mk hpack' d').InStep NameHash.hash ∧
      Accepts true d.takeSizeUpdate block v.headerBlock.headers d' := by
  have hsend := HeaderBlock.sendableFrom_of (fun header hh => (hv.headers header hh).1) none
  obtain ⟨p', out, hrun, hinv, hout⟩ :=
    hstep.step_unchanged hc hconv (s := .encode (v.headerBlock.headers.map .ok)) hsend
  obtain ⟨⟨e, b⟩, hencode, hrun⟩ := Option.bind_eq_some_iff.mp hrun
  obtain ⟨⟨res, s⟩, hdecode, hrun⟩ := Option.bind_eq_some_iff.mp hrun
  have hinto : v.headerBlock.intoEncoding NameHash.hash hpack = some (e, b) := by
    rw [HeaderBlock.intoEncoding, HeaderBlock.iter_eq hv.utf8]
    exact hencode
  have hswap : (v.headerBlock.intoEncoding NameHash.hash hpack).map Prod.swap = some (block, hpack') := hblock
  rw [hinto] at hswap
  cases hswap
  cases res with
  | error e => cases hrun
  | ok u =>
    cases hrun
    obtain ⟨out, haccepts, hemitted⟩ := Accepts.of_decodeLoop (Decoder.takeSizeUpdate_idle hstep.buffer).1 hdecode
    have hsame : s.emitted = v.headerBlock.headers :=
      (hout _ rfl).2 _ rfl fun header hh => (hv.headers header hh).2.2
    obtain rfl : v.headerBlock.headers = out := hsame.symm.trans hemitted
    exact ⟨s.decoder, hinv, haccepts⟩

theorem Codec.Frame.encode_raw {raw : RawFrame} (h : f.raw = some raw) : f.encode max hpack = some ([raw], hpack) := by
  cases f <;> cases h <;> rfl

inductive Codec.Frame.Arrives (storedName : Bytes → Bytes) : Frame → Frame → Prop
  | headers {v : Headers} {block : HeaderBlock} (h : v.headerBlock.Arrives storedName block) :
    Arrives storedName (.headers v) (.headers { v with headerBlock := block })
  | same {f : Frame} (h : ∀ v, f ≠ .headers v) : Arrives storedName f f

theorem Codec.Frame.Conveyable.conveys (hc : Constants) (hconv : Conversions) {storedName : Bytes → Bytes}
    (hmaps : HeaderMaps storedName) (hmax : FrameSize max)
    (hf : f.Conveyable r.maxHeaderListSize) (hidle : r.partial' = none)
    (hstep : (Peers.mk hpack r.hpack).InStep NameHash.hash) (h : f.encode max hpack = some (raws, hpack'))
    (hcount : raws.length ≤ r.maxContinuationFrames + 2) :
    (∀ raw ∈ raws, raw.payload.length < 2 ^ 24) ∧ ∃ d' f', (Peers.mk hpack' d').InStep NameHash.hash ∧
      f.Arrives storedName f' ∧ r.Conveys raws f' { r with hpack := d' } := by
  cases hraw : f.raw with
  | some raw =>
    rw [encode_raw hraw] at h
    cases h
    obtain ⟨hloads, hid, hlen⟩ := hf.loads hraw
    refine ⟨List.forall_mem_singleton.mpr hlen, r.hpack, f, hstep, .same ?_, .single ?_⟩
    · rintro v rfl
      cases hraw
    have hdrop : raw.bytes.drop HEADER_LEN = raw.payload := Head.drop_encode _ _ _
    have hparse : Head.parse raw.bytes = some raw.head := Head.parse_encode hid _ _
    apply FramedRead.decodeFrame_loads hidle hparse
    rwa [hdrop]
  | none =>
    cases f with
    | headers v =>
      obtain ⟨⟨out, e⟩, hencode, h⟩ := Option.bind_eq_some_iff.mp h
      obtain ⟨raws', hraws, heq⟩ := Option.map_eq_some_iff.mp h
      cases heq
      obtain ⟨-, hencode⟩ := Option.ite_none_right_eq_some.mp hencode
      obtain ⟨⟨block, e⟩, hblock, hencode⟩ := Option.bind_eq_some_iff.mp hencode
      obtain ⟨out', hout, heq⟩ := Option.bind_eq_some_iff.mp hencode
      cases heq
      have hfragments := blockFrames_fragments hmax hout hraws
      obtain ⟨d', hinv, haccepts⟩ := Headers.Conveyable.accepts hc hconv hf hstep hblock
      have hsmall : max < 2 ^ 24 := Nat.lt_of_le_of_lt hmax.most (by decide)
      have hnew : HeaderPlz.mapIsEmpty HeaderPlz.mapNew = true := by rw [hmaps.isEmpty, hmaps.new, List.isEmpty_nil]
      exact ⟨fun raw hraw => Nat.lt_of_le_of_lt (hfragments.fits raw hraw) hsmall, d', _, hinv,
        .headers (HeaderBlock.arrives_foldl hmaps v.headerBlock),
        FramedRead.conveys_headers hnew hf hfragments hidle hstep.buffer haccepts hcount⟩
    | priority v => cases hf
    | pushPromise v => cases hf
    | _ v => cases hraw

/-- However much of the frames has arrived, what is read of them is a prefix of what was sent. -/
theorem Codec.Frame.reads_take (hc : Constants) (hconv : Conversions) {storedName : Bytes → Bytes}
    (hmaps : HeaderMaps storedName) (hmax : FrameSize max) {fs : List Frame}
    (hf : ∀ f ∈ fs, f.Conveyable r.maxHeaderListSize) (hpaced : Frame.Paced max r.maxContinuationFrames hpack fs)
    (hidle : r.partial' = none) (hstep : (Peers.mk hpack r.hpack).InStep NameHash.hash)
    (h : Frame.encodeAll max hpack fs = some (raws, hpack')) :
    (∀ raw ∈ raws, raw.payload.length < 2 ^ 24) ∧ ∀ k, ∃ out r', r.Reads ((raws.take k).map RawFrame.bytes) out r' ∧
      ∃ n, List.Forall₂ (Frame.Arrives storedName) (fs.take n) out ∧ (raws.length ≤ k → fs.length ≤ n) := by
  induction fs generalizing r hpack raws with
  | nil =>
    cases h
    exact ⟨fun raw hraw => absurd hraw List.not_mem_nil, fun k => ⟨[], r, .pending (by simp [FramedRead.pollNext]),
      0, .nil, fun _ => Nat.le_refl 0⟩⟩
  | cons f fs ih =>
    obtain ⟨⟨first, hpack₁⟩, hfirst, h⟩ := Option.bind_eq_some_iff.mp h
    obtain ⟨⟨rest, hpack₂⟩, hrest, heq⟩ := Option.bind_eq_some_iff.mp h
    cases heq
    obtain ⟨hconveyable, hall⟩ := List.forall_mem_cons.mp hf
    obtain ⟨hcount, hpaced'⟩ := hpaced first hpack₁ hfirst
    obtain ⟨hlen, d', f', hinv, harrives, hconveys⟩ :=
      hconveyable.conveys hc hconv hmaps hmax hidle hstep hfirst hcount
    obtain ⟨hlen', hreads⟩ := ih (r := { r with hpack := d' }) hall hpaced' hidle hinv hrest
    refine ⟨fun raw hraw => (List.mem_append.mp hraw).elim (hlen raw) (hlen' raw), fun k => ?_⟩
    by_cases hk : k < first.length
    · obtain ⟨r₁, hpoll⟩ := hconveys.part k hk
      rw [List.take_append_of_le_length (Nat.le_of_lt hk)]
      refine ⟨[], r₁, .pending hpoll, 0, .nil, fun hle => ?_⟩
      rw [List.length_append] at hle
      omega
    · obtain ⟨out, r', hout, n, hrestArrives, hdone⟩ := hreads (k - first.length)
      rw [List.take_append, List.take_of_length_le (Nat.not_lt.mp hk), List.map_append]
      refine ⟨f' :: out, r', .next (hconveys.all _) hout, n + 1, .cons harrives hrestArrives, fun hle => ?_⟩
      rw [List.length_append] at hle
      exact Nat.succ_le_succ (hdone (by omega))

end

end

section

attribute [local instance] plainCodes

attribute [local instance] plainHash NameHash.encoder

def fieldHeaders : Headers :=
  Headers.new 1 { Pseudo.default with method := some HeaderPlz.GET } [(ascii "a", ascii "b")]

def fieldCalls : List Codec.Call :=
  [.pollReady 16384 16384 ⟨[], .ready⟩, .buffer (.headers fieldHeaders),
    .pollReady 16384 16384 ⟨[.accepted 3], .ready⟩, .buffer (.data (Data.new 1 [7]))]

def fieldFrames : List Bytes :=
  [[0, 0, 6, 1, 4, 0, 0, 0, 1, 0x82, 0x40, 0x81, 0x1f, 0x81, 0x8f], [0, 0, 1, 0, 0, 0, 0, 0, 1, 7]]

theorem fieldHeaders_conveyable : fieldHeaders.Conveyable (2 ^ 24) where
  streamId := by decide
  streamDep := rfl
  endHeaders := by decide
  unpadded := by decide
  unprioritized := by decide
  allowed := by decide +kernel
  utf8 h hh := by
    obtain rfl := List.mem_singleton.mp hh
    decide +kernel
  headers h hh := by
    rcases List.mem_cons.mp hh with rfl | hh
    · refine ⟨⟨trivial, by decide +kernel, trivial⟩, trivial, ?_⟩
      rintro ⟨value, hno, -⟩
      cases hno
    · obtain rfl := List.mem_singleton.mp hh
      refine ⟨⟨⟨by decide +kernel, by decide +kernel, by decide +kernel⟩, by decide +kernel, trivial⟩,
        ⟨by decide +kernel, fun hno => absurd hno (by decide +kernel)⟩, ?_⟩
      rintro ⟨value, hno, -⟩
      exact absurd (Hpack.Header.field.inj hno).1 (by decide +kernel)

end

end TwoPlz
