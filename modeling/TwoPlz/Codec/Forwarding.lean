import TwoPlz.Codec.FramedRead
import TwoPlz.Hpack.Peers
import TwoPlz.Hpack.Stored

/-! Headers that were received are sent again, as a proxy does. -/

namespace TwoPlz

open Hpack

section

variable [HeaderPlz]

/-- What is relied on of the names in a map: they are strings, no name becomes that of a pseudo-header, and
a byte becomes three at most. -/
structure StoredNames (storedName : Bytes → Bytes) : Prop where
  utf8 : ∀ name, validUtf8 (storedName name) = true
  proper : ∀ name, (Name.field name).Proper → (Name.field (storedName name)).Proper
  length_le : ∀ name, (storedName name).length ≤ 3 * name.length

def Pseudo.headers (p : Pseudo) : List Header :=
  (p.method.map .method).toList ++ (p.scheme.map .scheme).toList ++ (p.authority.map .authority).toList
    ++ (p.path.map .path).toList ++ (p.protocol.map .protocol).toList ++ (p.status.map .status).toList

/-- A field of `Iter::next`; `none` is the `unwrap` of what is no string. -/
def fieldHeader (h : Bytes × Bytes) : Option Header :=
  if validUtf8 h.1 && validUtf8 h.2 then some (.field h.1 h.2) else none

namespace HeaderBlock

def iter (b : HeaderBlock) : Option (List Header) :=
  (b.fields.entries.mapM fieldHeader).map (b.pseudo.headers ++ ·)

def intoEncoding (hash : Name → Nat) (e : Hpack.Encoder) (b : HeaderBlock) : Option (Hpack.Encoder × Bytes) := do
  let headers ← b.iter
  e.encode hash (headers.map .ok) []

def headers (b : HeaderBlock) : List Header :=
  b.pseudo.headers ++ b.fields.entries.map fun h => .field h.1 h.2

def IsUtf8 (b : HeaderBlock) : Prop := ∀ h ∈ b.fields.entries, validUtf8 h.1 = true ∧ validUtf8 h.2 = true

def Utf8Values (b : HeaderBlock) : Prop := ∀ h ∈ b.fields.entries, validUtf8 h.2 = true

def Short (limit : Nat) (b : HeaderBlock) : Prop :=
  ∀ h ∈ b.headers, h.name.asSlice.length + h.valueSlice.length < limit

structure Loaded (storedName : Bytes → Bytes) (limit : Nat) (b : HeaderBlock) : Prop where
  pseudo : ∀ h ∈ b.pseudo.headers, h.Stored ∧ h.name.asSlice.length + h.valueSlice.length < limit
  fields : ∀ h ∈ b.fields.entries, ∃ name, h.1 = storedName name ∧ (Header.field name h.2).Stored ∧
    name.length + h.2.length < limit

/-- Both ends of a connection take the block: nothing panics, and all of it is decoded. -/
def Forwards (hash : Name → Nat) (b : HeaderBlock) (p : Peers) : Prop :=
  ∃ e block s, b.intoEncoding hash p.encoder = some (e, block) ∧
    p.decoder.decode block = some (.ok (), s) ∧ Hpack.Received none (b.headers.map .ok) s.emitted

theorem mapM_fieldHeader {fields : List (Bytes × Bytes)} {headers : List Header}
    (h : fields.mapM fieldHeader = some headers) :
    headers = (fields.map fun h => .field h.1 h.2) ∧
      ∀ h ∈ fields, validUtf8 h.1 = true ∧ validUtf8 h.2 = true := by
  induction fields generalizing headers with
  | nil =>
    cases h
    exact ⟨rfl, nofun⟩
  | cons field fields ih =>
    rw [List.mapM_cons] at h
    obtain ⟨header, hfield, h⟩ := Option.bind_eq_some_iff.mp h
    obtain ⟨headers', hrest, h⟩ := Option.bind_eq_some_iff.mp h
    cases h
    obtain ⟨hutf8, heq⟩ := Option.ite_none_right_eq_some.mp hfield
    cases heq
    obtain ⟨rfl, hall⟩ := ih hrest
    rw [Bool.and_eq_true] at hutf8
    exact ⟨rfl, List.forall_mem_cons.mpr ⟨hutf8, hall⟩⟩

theorem iter_eq {b : HeaderBlock} (h : b.IsUtf8) : b.iter = some b.headers := by
  have hfields : ∀ fields : List (Bytes × Bytes), (∀ h ∈ fields, validUtf8 h.1 = true ∧ validUtf8 h.2 = true) →
      fields.mapM fieldHeader = some (fields.map fun h => Header.field h.1 h.2) := by
    intro fields hall
    induction fields with
    | nil => rfl
    | cons field fields ih =>
      obtain ⟨hfield, hrest⟩ := List.forall_mem_cons.mp hall
      rw [List.mapM_cons, ih hrest, fieldHeader, hfield.1, hfield.2]
      rfl
  rw [iter, hfields b.fields.entries h]
  rfl

theorem Forwards.utf8Values {hash : Name → Nat} {b : HeaderBlock} {p : Peers} (h : b.Forwards hash p) :
    b.Utf8Values := by
  obtain ⟨e, block, s, hencode, -⟩ := h
  obtain ⟨headers, hiter, -⟩ := Option.bind_eq_some_iff.mp hencode
  obtain ⟨fields, hfields, -⟩ := Option.map_eq_some_iff.mp hiter
  exact fun h hh => ((mapM_fieldHeader hfields).2 h hh).2

theorem sendableFrom_of {headers : List Header} (h : ∀ header ∈ headers, header.Sendable) (last : Option Name) :
    SendableFrom last (headers.map .ok) := by
  induction headers generalizing last with
  | nil => trivial
  | cons header headers ih =>
    obtain ⟨hheader, hrest⟩ := List.forall_mem_cons.mp h
    exact ⟨hheader, ih hrest _⟩

section

variable {storedName : Bytes → Bytes} {limit : Nat} {b : HeaderBlock}

theorem Loaded.isUtf8 (hnames : StoredNames storedName) (h : b.Loaded storedName limit) (hvalues : b.Utf8Values) :
    b.IsUtf8 := by
  intro field hfield
  obtain ⟨name, hname, -, -⟩ := h.fields field hfield
  exact ⟨hname ▸ hnames.utf8 name, hvalues field hfield⟩

theorem Loaded.stored (hnames : StoredNames storedName) (h : b.Loaded storedName limit) :
    ∀ header ∈ b.headers, header.Stored := by
  intro header hheader
  rcases List.mem_append.mp hheader with hpseudo | hfield
  · exact (h.pseudo header hpseudo).1
  · obtain ⟨field, hmem, rfl⟩ := List.mem_map.mp hfield
    obtain ⟨name, hname, hstored, -⟩ := h.fields field hmem
    exact ⟨hname ▸ hnames.proper name hstored.name, trivial⟩

theorem Loaded.short (hnames : StoredNames storedName) (h : b.Loaded storedName limit) : b.Short (3 * limit) := by
  intro header hheader
  rcases List.mem_append.mp hheader with hpseudo | hfield
  · have hlen := (h.pseudo header hpseudo).2
    omega
  · obtain ⟨field, hmem, rfl⟩ := List.mem_map.mp hfield
    obtain ⟨name, hname, -, hlen⟩ := h.fields field hmem
    have hgrown := hnames.length_le name
    simp only [Header.name, Name.asSlice, Header.valueSlice, hname]
    omega

theorem Loaded.sendable (hnames : StoredNames storedName) (h : b.Loaded storedName limit)
    (hshort : b.Short (2 ^ 26)) : ∀ header ∈ b.headers, header.Sendable := by
  intro header hheader
  obtain ⟨hproper, hutf8⟩ := h.stored hnames header hheader
  have hlen := hshort header hheader
  refine ⟨?_, by omega, hutf8⟩
  cases header with
  | field name value => exact ⟨hproper.1, hproper.2, by simp only [Header.name, Name.asSlice] at hlen; omega⟩
  | _ => trivial

theorem Loaded.forwards {hash : Name → Nat} (hc : Constants) (hconv : Conversions)
    (hnames : StoredNames storedName) (h : b.Loaded storedName limit) (hvalues : b.Utf8Values)
    (hshort : b.Short (2 ^ 26)) {p : Peers} (hp : p.InStep hash) : b.Forwards hash p := by
  have hsend := sendableFrom_of (h.sendable hnames hshort) none
  obtain ⟨p', out, hstep, -, hreceived⟩ := hp.step hc hconv (s := .encode (b.headers.map .ok)) hsend
  obtain ⟨⟨e, block⟩, hencode, hdecode⟩ := Option.bind_eq_some_iff.mp hstep
  obtain ⟨⟨res, s⟩, hblock, hdecode⟩ := Option.bind_eq_some_iff.mp hdecode
  cases res with
  | error e => cases hdecode
  | ok u =>
    cases hdecode
    refine ⟨e, block, s, ?_, hblock, hreceived _ rfl⟩
    rw [intoEncoding, iter_eq (h.isUtf8 hnames hvalues)]
    exact hencode

end

end HeaderBlock

/-! What is loaded. -/

theorem BlockLoad.setPseudo_fields (max : Nat) (l : BlockLoad) (name : String) (isSome : Bool) (len : Nat)
    (set : Pseudo → Pseudo) : (l.setPseudo max name isSome len set).block.fields = l.block.fields := by
  unfold setPseudo
  split
  · rfl
  · split
    · rfl
    · dsimp only
      split <;> rfl

theorem BlockLoad.setPseudo_headers {max : Nat} {l : BlockLoad} {name : String} {isSome : Bool} {len : Nat}
    {set : Pseudo → Pseudo} {header : Header}
    (hset : ∀ h ∈ (set l.block.pseudo).headers, h ∈ l.block.pseudo.headers ∨ h = header)
    (hname : header.name.asSlice.length = name.length + 1) (hlen : header.valueSlice.length = len) :
    ∀ h ∈ (l.setPseudo max name isSome len set).block.pseudo.headers, h ∈ l.block.pseudo.headers ∨
      h = header ∧ h.name.asSlice.length + h.valueSlice.length < max := by
  intro h hh
  unfold setPseudo at hh
  split at hh
  · exact Or.inl hh
  · split at hh
    · exact Or.inl hh
    · dsimp only at hh
      split at hh
      · rename_i hsize
        refine (hset h hh).imp_right ?_
        rintro rfl
        refine ⟨rfl, ?_⟩
        rw [hname, hlen]
        unfold decodedHeaderSize at hsize
        omega
      · exact Or.inl hh

theorem BlockLoad.load_pseudo (max : Nat) (l : BlockLoad) (header : Header) :
    ∀ h ∈ (l.load max header).block.pseudo.headers, h ∈ l.block.pseudo.headers ∨
      h = header ∧ h.name.asSlice.length + h.valueSlice.length < max := by
  cases header with
  | field name value =>
    intro h hh
    simp only [load] at hh
    split at hh
    · exact Or.inl hh
    · split at hh
      · exact Or.inl hh
      · split at hh <;> exact Or.inl hh
  | _ =>
    refine setPseudo_headers (fun h hh => ?_) (by rfl) rfl
    simp only [Pseudo.headers, Option.map_some, Option.toList_some, List.mem_append, List.mem_singleton] at hh ⊢
    tauto

theorem BlockLoad.load_fields (max : Nat) (l : BlockLoad) (header : Header) :
    (l.load max header).block.fields = l.block.fields ∨ ∃ name value, header = .field name value ∧
      name.length + value.length < max ∧
        (l.load max header).block.fields = HeaderPlz.mapInsert l.block.fields name value := by
  cases header with
  | field name value =>
    simp only [load]
    split
    · exact Or.inl rfl
    · split
      · exact Or.inl rfl
      · split
        · rename_i hsize
          refine Or.inr ⟨name, value, rfl, ?_, rfl⟩
          unfold decodedHeaderSize at hsize
          omega
        · exact Or.inl rfl
  | _ => exact Or.inl (setPseudo_fields ..)

section

variable {storedName : Bytes → Bytes}

theorem BlockLoad.load_loaded (hmaps : HeaderMaps storedName) {limit max : Nat} (hmax : max ≤ limit)
    {l : BlockLoad} (hl : l.block.Loaded storedName limit) {header : Header} (hheader : header.Stored) :
    (l.load max header).block.Loaded storedName limit where
  pseudo h hh := by
    rcases load_pseudo max l header h hh with hold | ⟨rfl, hsize⟩
    · exact hl.pseudo h hold
    · exact ⟨hheader, Nat.lt_of_lt_of_le hsize hmax⟩
  fields h hh := by
    rcases load_fields max l header with hsame | ⟨name, value, rfl, hsize, hinsert⟩
    · exact hl.fields h (hsame ▸ hh)
    · rw [hinsert, hmaps.insert, List.mem_append] at hh
      rcases hh with hold | hnew
      · exact hl.fields h hold
      · obtain rfl := List.mem_singleton.mp hnew
        exact ⟨name, rfl, hheader, Nat.lt_of_lt_of_le hsize hmax⟩

theorem HeaderBlock.empty_loaded (hmaps : HeaderMaps storedName) (limit : Nat) :
    HeaderBlock.empty.Loaded storedName limit where
  pseudo h hh := absurd hh List.not_mem_nil
  fields h hh := by
    rw [empty, hmaps.new] at hh
    cases hh

theorem HeaderBlock.load_loaded {limit max : Nat} (hmaps : HeaderMaps storedName) (hnames : StaticNames)
    {b b' : HeaderBlock} {src left : Bytes} {res : Except BlockError Unit} {d d' : Hpack.Decoder}
    (hd : ∀ e ∈ d.table.entries, e.Stored) (hb : b.Loaded storedName limit) (hmax : max ≤ limit)
    (h : b.load src max d = some (res, b', left, d')) :
    b'.Loaded storedName limit ∧ ∀ e ∈ d'.table.entries, e.Stored := by
  obtain ⟨⟨res', s⟩, hdecode, h⟩ := Option.bind_eq_some_iff.mp h
  have hs := Hpack.Decoder.decode_stored hnames hd hdecode
  have hfold : ∀ (emitted : List Header) (l : BlockLoad), (∀ e ∈ emitted, e.Stored) →
      l.block.Loaded storedName limit →
      (emitted.foldl (BlockLoad.load max) l).block.Loaded storedName limit := by
    intro emitted
    induction emitted with
    | nil => exact fun l _ hl => hl
    | cons e emitted ih =>
      intro l hemitted hl
      obtain ⟨he, hrest⟩ := List.forall_mem_cons.mp hemitted
      exact ih _ hrest (BlockLoad.load_loaded hmaps hmax hl he)
  cases h
  exact ⟨hfold s.emitted _ hs.emitted hb, hs.table⟩

end

omit [HeaderPlz] in
theorem Except.bind_eq_ok {ε α β : Type} {x : Except ε α} {f : α → Except ε β} {b : β}
    (h : (x >>= f) = .ok b) : ∃ a, x = .ok a ∧ f a = .ok b := by
  cases x with
  | error e => cases h
  | ok a => exact ⟨a, rfl, h⟩

omit [HeaderPlz] in
theorem Except.map_eq_ok {ε α β : Type} {x : Except ε α} {f : α → β} {b : β} (h : x.map f = .ok b) :
    ∃ a, x = .ok a ∧ f a = b := by
  cases x with
  | error e => cases h
  | ok a => exact ⟨a, rfl, Except.ok.inj h⟩

theorem Headers.load_empty {head : Head} {src : Bytes} {l : Headers × Bytes}
    (h : Headers.load head src = .ok l) : l.1.headerBlock = HeaderBlock.empty := by
  unfold Headers.load at h
  split at h
  · cases h
  · obtain ⟨⟨pad, src⟩, -, h⟩ := Except.bind_eq_ok h
    dsimp only at h
    split at h
    · split at h
      · cases h
      · obtain ⟨dep, -, h⟩ := Except.bind_eq_ok h
        split at h
        · cases h
        · obtain ⟨_, -, h⟩ := Except.bind_eq_ok h
          obtain ⟨_, -, h⟩ := Except.bind_eq_ok h
          cases h
          rfl
    · obtain ⟨_, -, h⟩ := Except.bind_eq_ok h
      obtain ⟨_, -, h⟩ := Except.bind_eq_ok h
      cases h
      rfl

theorem PushPromise.load_empty {head : Head} {src : Bytes} {l : PushPromise × Bytes}
    (h : PushPromise.load head src = .ok l) : l.1.headerBlock = HeaderBlock.empty := by
  unfold PushPromise.load at h
  split at h
  · cases h
  · obtain ⟨⟨pad, src⟩, -, h⟩ := Except.bind_eq_ok h
    dsimp only at h
    split at h
    · cases h
    · obtain ⟨_, -, h⟩ := Except.bind_eq_ok h
      cases h
      rfl

namespace Codec.FramedRead

inductive Reaches (limit : Nat) : FramedRead → Prop
  | new (maxFrameLength : Nat) (h : 2 ^ 24 ≤ limit) : Reaches limit (new maxFrameLength)
  | decodeFrame {r r' : FramedRead} {bytes : Bytes} {res : Except ProtoError (Option Frame)} (hr : Reaches limit r)
      (h : r.decodeFrame bytes = some (res, r')) : Reaches limit r'
  | setMaxFrameSize {r r' : FramedRead} {val : Nat} (hr : Reaches limit r)
      (h : r.setMaxFrameSize val = some r') : Reaches limit r'
  | setMaxHeaderListSize {r : FramedRead} (maxFrameSize val : Nat) (hr : Reaches limit r) (h : val ≤ limit) :
      Reaches limit (r.setMaxHeaderListSize maxFrameSize val)
  | setHeaderTableSize {r : FramedRead} (val : Nat) (hr : Reaches limit r) :
      Reaches limit (r.setHeaderTableSize val)

structure Keeps (storedName : Bytes → Bytes) (limit : Nat) (r : FramedRead) : Prop where
  table : ∀ e ∈ r.hpack.table.entries, e.Stored
  max : r.maxHeaderListSize ≤ limit
  part : ∀ p, r.partial' = some p → p.frame.headerBlock.Loaded storedName limit

section

variable {storedName : Bytes → Bytes} {limit : Nat} {r r' : FramedRead} {res : Except ProtoError (Option Frame)}

def Returns (storedName : Bytes → Bytes) (limit : Nat) (res : Except ProtoError (Option Frame)) : Prop :=
  ∀ f : Headers, res = .ok (some (.headers f)) → f.headerBlock.Loaded storedName limit

theorem returns_error (e : ProtoError) : Returns storedName limit (.error e) := fun _ h => by cases h

theorem returns_none : Returns storedName limit (.ok none) := fun _ h => by cases h

theorem loadHpack_keeps (hmaps : HeaderMaps storedName) (hnames : StaticNames) (hr : r.Keeps storedName limit)
    {head : Head} {frame : Continuable}
    {buf : Bytes} {count : Nat} {isEndHeaders : Bool} {done : Continuable → Frame}
    (hdone : ∀ c f, done c = .headers f → f.headerBlock = c.headerBlock)
    (hframe : frame.headerBlock.Loaded storedName limit)
    (h : r.loadHpack head frame buf count isEndHeaders done = some (res, r')) :
    r'.Keeps storedName limit ∧ Returns storedName limit res := by
  obtain ⟨⟨out, block, left, hpack⟩, hload, h⟩ := Option.bind_eq_some_iff.mp h
  obtain ⟨hblock, htable⟩ := HeaderBlock.load_loaded hmaps hnames hr.table hframe hr.max hload
  have hset : (frame.setBlock block).headerBlock = block := by cases frame <;> rfl
  have hstays : ({ r with hpack := hpack } : FramedRead).Keeps storedName limit := ⟨htable, hr.max, hr.part⟩
  have hends : ∀ {x : Except ProtoError (Option Frame) × FramedRead},
      (if isEndHeaders then (.ok (some (done (frame.setBlock block))), { r with hpack := hpack })
        else (.ok none, { r with hpack := hpack, partial' := some ⟨frame.setBlock block, left, count⟩ })) = x →
        x.2.Keeps storedName limit ∧ Returns storedName limit x.1 := by
    rintro _ rfl
    split
    · refine ⟨hstays, fun f hf => ?_⟩
      rw [hdone _ f (Option.some.inj (Except.ok.inj hf)), hset]
      exact hblock
    · refine ⟨⟨htable, hr.max, ?_⟩, returns_none⟩
      rintro p ⟨⟩
      exact hset.symm ▸ hblock
  have h := Option.some.inj h
  split at h
  · exact hends h
  · split at h
    · exact hends h
    · cases h
      exact ⟨hstays, returns_error _⟩
  · cases h
    exact ⟨hstays, returns_error _⟩
  · cases h
    exact ⟨hstays, returns_error _⟩

theorem headerBlock_keeps (hmaps : HeaderMaps storedName) (hnames : StaticNames)
    (hr : r.Keeps storedName limit) {head : Head}
    {loaded : Except FrameError (Continuable × Bytes)}
    (hempty : ∀ c, loaded = .ok c → c.1.headerBlock = HeaderBlock.empty)
    (h : r.headerBlock head loaded = some (res, r')) : r'.Keeps storedName limit ∧ Returns storedName limit res := by
  unfold headerBlock at h
  split at h
  · cases h
    exact ⟨hr, returns_error _⟩
  · cases h
    exact ⟨hr, returns_error _⟩
  · rename_i frame payload
    refine loadHpack_keeps hmaps hnames hr (fun c f hc => ?_) ?_ h
    · cases c with
      | headers v =>
        cases hc
        rfl
      | pushPromise v => cases hc
    · rw [hempty _ rfl]
      exact HeaderBlock.empty_loaded hmaps limit

theorem continuation_keeps (hmaps : HeaderMaps storedName) (hnames : StaticNames)
    (hr : r.Keeps storedName limit) {head : Head} {payload : Bytes}
    (h : r.continuation head payload = some (res, r')) : r'.Keeps storedName limit ∧ Returns storedName limit res := by
  unfold continuation at h
  dsimp only at h
  split at h
  · cases h
    exact ⟨hr, returns_error _⟩
  · rename_i p hpart
    have hrest : ({ r with partial' := none } : FramedRead).Keeps storedName limit :=
      ⟨hr.table, hr.max, fun _ hno => by cases hno⟩
    obtain ⟨-, heq⟩ | ⟨-, h⟩ := ite_eq_iff.mp h
    · cases heq
      exact ⟨hrest, returns_error _⟩
    obtain ⟨-, heq⟩ | ⟨-, h⟩ := ite_eq_iff.mp h
    · cases heq
      exact ⟨hrest, returns_error _⟩
    obtain ⟨-, heq⟩ | ⟨-, h⟩ := ite_eq_iff.mp h
    · cases heq
      exact ⟨hrest, returns_error _⟩
    refine loadHpack_keeps hmaps hnames hrest (fun c f hc => ?_) (hr.part p hpart) h
    cases c with
    | headers v =>
      cases hc
      rfl
    | pushPromise v => cases hc

theorem ofLoad_keeps {α : Type} {into : α → Frame} {loaded : Except FrameError α} (hr : r.Keeps storedName limit)
    (hinto : ∀ a f, into a ≠ .headers f) (h : r.ofLoad into loaded = some (res, r')) :
    r'.Keeps storedName limit ∧ Returns storedName limit res := by
  unfold ofLoad at h
  split at h
  · cases h
    exact ⟨hr, fun f hf => absurd (Option.some.inj (Except.ok.inj hf)) (hinto _ _)⟩
  · cases h
    exact ⟨hr, returns_error _⟩

theorem decodeFrame_keeps (hmaps : HeaderMaps storedName) (hnames : StaticNames)
    (hr : r.Keeps storedName limit) {bytes : Bytes}
    (h : r.decodeFrame bytes = some (res, r')) : r'.Keeps storedName limit ∧ Returns storedName limit res := by
  simp only [decodeFrame, Option.bind_eq_bind, Option.bind_eq_some_iff] at h
  obtain ⟨head, -, h⟩ := h
  obtain ⟨-, heq⟩ | ⟨-, h⟩ := ite_eq_iff.mp h
  · cases heq
    exact ⟨hr, returns_error _⟩
  cases hkind : head.kind <;> simp only [hkind] at h
  case settings | ping | windowUpdate | reset | goAway => exact ofLoad_keeps hr (fun _ _ heq => by cases heq) h
  case data =>
    split at h <;> cases h
    · exact ⟨hr, fun f hf => by cases hf⟩
    · exact ⟨hr, returns_error _⟩
  case headers =>
    refine headerBlock_keeps hmaps hnames hr (fun c hc => ?_) h
    obtain ⟨l, hl, rfl⟩ := Except.map_eq_ok hc
    exact Headers.load_empty hl
  case pushPromise =>
    refine headerBlock_keeps hmaps hnames hr (fun c hc => ?_) h
    obtain ⟨l, hl, rfl⟩ := Except.map_eq_ok hc
    exact PushPromise.load_empty hl
  case priority =>
    obtain ⟨-, heq⟩ | ⟨-, h⟩ := ite_eq_iff.mp h
    · cases heq
      exact ⟨hr, returns_error _⟩
    split at h <;> cases h
    · exact ⟨hr, fun f hf => by cases hf⟩
    · exact ⟨hr, returns_error _⟩
    · exact ⟨hr, returns_error _⟩
  case continuation => exact continuation_keeps hmaps hnames hr h
  case unknown =>
    cases h
    exact ⟨hr, returns_none⟩

theorem Reaches.keeps (hmaps : HeaderMaps storedName) (hnames : StaticNames) (h : Reaches limit r) :
    r.Keeps storedName limit := by
  induction h with
  | new maxFrameLength h => exact ⟨fun e he => absurd he List.not_mem_nil, h, fun _ hno => by cases hno⟩
  | decodeFrame _ h ih => exact (decodeFrame_keeps hmaps hnames ih h).1
  | setMaxFrameSize _ h ih =>
    obtain ⟨-, heq⟩ := Option.ite_none_right_eq_some.mp h
    cases heq
    exact ⟨ih.table, ih.max, ih.part⟩
  | setMaxHeaderListSize _ val _ h ih => exact ⟨ih.table, h, ih.part⟩
  | setHeaderTableSize val _ ih => exact ⟨ih.table, ih.max, ih.part⟩

/-- A HEADERS frame that was received can be sent on just when the values of its fields are strings. -/
theorem forwards_iff (hc : Constants) (hconv : Conversions) (hmaps : HeaderMaps storedName)
    (hstored : StoredNames storedName) (hnames : StaticNames) (hash : Name → Nat)
    (hr : Reaches limit r) {bytes : Bytes} {f : Headers}
    (h : r.decodeFrame bytes = some (.ok (some (.headers f)), r')) {maxSize capacity : Nat} {p : Peers}
    (hmax : maxSize < 2 ^ 32) (hcapacity : (Table.new maxSize capacity).indices.length ≤ 2 ^ 62)
    (hp : (Peers.new maxSize capacity).Reaches hash p) :
    (f.headerBlock.Forwards hash p → f.headerBlock.Utf8Values) ∧
      (f.headerBlock.Utf8Values → f.headerBlock.Short (2 ^ 26) → f.headerBlock.Forwards hash p) ∧
        (3 * limit ≤ 2 ^ 26 → f.headerBlock.Short (2 ^ 26)) := by
  have hloaded := (decodeFrame_keeps hmaps hnames (hr.keeps hmaps hnames) h).2 f rfl
  refine ⟨HeaderBlock.Forwards.utf8Values, fun hvalues hshort => ?_, fun hlimit header hheader => ?_⟩
  · exact hloaded.forwards hc hconv hstored hvalues hshort (hp.inStep hc hconv (Peers.new_inStep hmax hcapacity))
  · exact Nat.lt_of_lt_of_le (hloaded.short hstored header hheader) hlimit

end

end Codec.FramedRead

end

section

attribute [local instance] plainCodes

theorem plainCodes_names : StaticNames := by
  intro c
  cases c <;> (simp only [Name.Proper]; decide +kernel)

theorem plainCodes_stored : StoredNames plainName where
  utf8 name := by
    unfold plainName
    split
    · rename_i hutf8
      exact validUtf8_map_plainLower hutf8
    · exact validUtf8_lossy name
  proper name hname := by
    obtain ⟨hne, hcolon⟩ := hname
    cases name with
    | nil => exact absurd rfl hne
    | cons c rest =>
      have hlower : plainLower c ≠ 0x3a := fun h => hcolon (congrArg some (plainLower_eq_colon h))
      unfold plainName
      split
      · exact ⟨List.cons_ne_nil _ _, fun h => hlower (Option.some.inj h)⟩
      · rw [List.flatMap_cons, plainLossy]
        split
        · exact ⟨List.cons_ne_nil _ _, fun h => hlower (Option.some.inj h)⟩
        · exact ⟨List.cons_ne_nil _ _, fun h => by cases h⟩
  length_le name := by
    unfold plainName
    split
    · rw [List.length_map]
      omega
    · exact lossy_length_le name

def byteFieldFrame : Bytes :=
  [0, 0, 5, 1, 4, 0, 0, 0, 1, 0x00, 0x01, 0x61, 0x01, 0xff]

/-- The field is received, and the encoder panics on it. -/
theorem byte_field_panics :
    ((Codec.FramedRead.new 16384).decodeFrame byteFieldFrame).any (fun out =>
      match out.1 with
      | .ok (some (.headers f)) =>
        decide (f.headerBlock.fields.entries = [([0x61], [0xff])]) &&
          (f.headerBlock.intoEncoding (fun _ => 0) (Hpack.Encoder.new 4096 0)).isNone
      | _ => false) = true := by
  decide +kernel

def textFieldFrame : Bytes :=
  [0, 0, 5, 1, 4, 0, 0, 0, 1, 0x00, 0x01, 0x61, 0x01, 0x62]

theorem forwards_text : ∃ f r', (Codec.FramedRead.new 16384).decodeFrame textFieldFrame =
    some (.ok (some (.headers f)), r') ∧ f.headerBlock.Forwards (fun _ => 0) (Peers.new 4096 0) := by
  have hrun : ((Codec.FramedRead.new 16384).decodeFrame textFieldFrame).any (fun out =>
      match out.1 with
      | .ok (some (.headers f)) => f.headerBlock.fields.entries.all fun h => validUtf8 h.2
      | _ => false) = true := by decide +kernel
  obtain ⟨⟨res, r'⟩, hdecode, hres⟩ := (Option.any_eq_true _ _).mp hrun
  dsimp only at hres
  split at hres
  · rename_i f
    have hreader : (Codec.FramedRead.new 16384).Reaches (2 ^ 24) := .new 16384 (Nat.le_refl _)
    have hpeers : (Peers.new 4096 0).Reaches (fun _ => 0) (Peers.new 4096 0) := .refl
    obtain ⟨-, hforwards, hshort⟩ := Codec.FramedRead.forwards_iff plainCodes_constants plainCodes_conversions
      plainCodes_maps plainCodes_stored plainCodes_names (fun _ => 0) hreader hdecode (by decide) (by decide) hpeers
    refine ⟨f, r', hdecode, hforwards (fun h hh => ?_) (hshort (by decide))⟩
    exact List.all_eq_true.mp hres h hh
  · cases hres

end

end TwoPlz
