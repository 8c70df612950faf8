import TwoPlz.Hpack.HeaderBlocks

/-! An encoder and the decoder at the other end of the connection. -/

namespace TwoPlz.Hpack

section

variable [HeaderPlz]

structure Peers where
  encoder : Encoder
  decoder : Decoder

inductive PeersStep : Type
  /-- `Encoder::update_max_size` -/
  | updateMaxSize (val : Nat)
  /-- `Decoder::queue_size_update` -/
  | queueSizeUpdate (size : Nat)
  /-- `Encoder::encode`, and `Decoder::decode` of the block -/
  | encode (headers : List (Except Bytes Header))

namespace Peers

def new (maxSize capacity : Nat) : Peers := ⟨Encoder.new maxSize capacity, Decoder.new maxSize⟩

def allowed (p : Peers) : Nat := p.decoder.takeSizeUpdate.lastMaxUpdate

/-- A step, with the headers that it decodes.  Neither a panic nor an error of the decoder is a
step. -/
def step (hash : Name → Nat) (p : Peers) : PeersStep → Option (Peers × List Header)
  | .updateMaxSize val => some ({ p with encoder := p.encoder.updateMaxSize val }, [])
  | .queueSizeUpdate size => some ({ p with decoder := p.decoder.queueSizeUpdate size }, [])
  | .encode headers => do
    let (encoder, block) ← p.encoder.encode hash headers []
    match ← p.decoder.decode block with
    | (.ok (), s) => some (⟨encoder, s.decoder⟩, s.emitted)
    | (.error _, _) => none

/-- The steps of two peers that keep to the protocol: no size is queued above the one that the decoder
has been told to allow, and the headers of a block can be sent. -/
def Admits (p : Peers) : PeersStep → Prop
  | .updateMaxSize val => val < 2 ^ 28 + 31 ∧ val ≤ p.allowed
  | .queueSizeUpdate size => ∀ val ∈ p.encoder.bound.announced,
    val ≤ (p.decoder.queueSizeUpdate size).takeSizeUpdate.lastMaxUpdate
  | .encode headers => SendableFrom none headers

inductive Reaches (hash : Name → Nat) (p : Peers) : Peers → Prop
  | refl : Reaches hash p p
  | step {q q' : Peers} {s : PeersStep} {out : List Header} : Reaches hash p q → q.Admits s →
    q.step hash s = some (q', out) → Reaches hash p q'

/-- The invariant: the tables are the same, and the decoder allows what is queued. -/
structure InStep (hash : Name → Nat) (p : Peers) : Prop where
  inv : p.encoder.table.Inv hash
  small : p.encoder.table.maxSize < 2 ^ 32
  table : p.decoder.table = p.encoder.table.dynamic
  buffer : p.decoder.buffer = []
  queued : ∀ val ∈ p.encoder.bound.announced, val < 2 ^ 28 + 31 ∧ val ≤ p.allowed

variable {hash : Name → Nat} {p : Peers}

theorem new_inStep {maxSize capacity : Nat} (hmax : maxSize < 2 ^ 32)
    (hcapacity : (Table.new maxSize capacity).indices.length ≤ 2 ^ 62) :
    (new maxSize capacity).InStep hash := by
  have hinv := Table.new_inv hash (Nat.lt_trans hmax (by decide)) hcapacity
  have hnew : (Table.new maxSize capacity).headers = [] ∧ (Table.new maxSize capacity).size = 0 ∧
      (Table.new maxSize capacity).maxSize = maxSize := by
    rw [Table.new]
    split <;> exact ⟨rfl, rfl, rfl⟩
  refine ⟨hinv, ?_, ?_, rfl, fun _ hno => by cases hno⟩
  · change (Table.new maxSize capacity).maxSize < _
    rw [hnew.2.2]
    exact hmax
  · change DynamicTable.new maxSize = (Table.new maxSize capacity).dynamic
    rw [Table.dynamic, hnew.1, hnew.2.1, hnew.2.2]
    rfl

theorem InStep.step_unchanged (hc : Constants) (hconv : Conversions) (h : p.InStep hash) {s : PeersStep}
    (hs : p.Admits s) : ∃ p' out, p.step hash s = some (p', out) ∧ p'.InStep hash ∧
      ∀ headers, s = .encode headers → Received none headers out ∧ Unchanged headers out := by
  cases s with
  | updateMaxSize val =>
    refine ⟨_, [], rfl, ⟨h.inv, h.small, h.table, h.buffer, fun size hsize => ?_⟩, fun _ hno => by cases hno⟩
    rw [Encoder.bound_updateMaxSize] at hsize
    rcases TableBound.mem_announced_updateMaxSize hsize with rfl | hsize
    · exact hs
    · exact h.queued size hsize
  | queueSizeUpdate size =>
    exact ⟨_, [], rfl, ⟨h.inv, h.small, h.table, h.buffer,
      fun val hval => ⟨(h.queued val hval).1, hs val hval⟩⟩, fun _ hno => by cases hno⟩
  | encode headers =>
    obtain ⟨e', block, emitted, hencode, hqueue, hinv, hsmall, hreceived, hunchanged, hdecode⟩ :=
      Encoder.encode_decode hc hconv h.inv h.small (fun size hsize => (h.queued size hsize).1) hs
    have hblock := hdecode p.decoder h.buffer h.table fun size hsize => (h.queued size hsize).2
    have hrun : p.step hash (.encode headers) =
        some (⟨e', { p.decoder.takeSizeUpdate with table := e'.table.dynamic }⟩, emitted) := by
      rw [Peers.step, hencode]
      simp only [Option.bind_eq_bind, Option.bind_some]
      rw [hblock]
      rfl
    refine ⟨_, emitted, hrun, ⟨hinv, hsmall, rfl, ?_, ?_⟩, ?_⟩
    · change p.decoder.takeSizeUpdate.buffer = []
      rw [Decoder.takeSizeUpdate]
      split <;> exact h.buffer
    · change ∀ val ∈ e'.bound.announced, _
      rw [TableBound.announced_eq_nil.mpr hqueue]
      exact fun _ hno => by cases hno
    · intro headers' heq
      cases heq
      exact ⟨hreceived, hunchanged⟩

theorem InStep.step (hc : Constants) (hconv : Conversions) (h : p.InStep hash) {s : PeersStep}
    (hs : p.Admits s) : ∃ p' out, p.step hash s = some (p', out) ∧ p'.InStep hash ∧
      ∀ headers, s = .encode headers → Received none headers out := by
  obtain ⟨p', out, hstep, hinv, hout⟩ := h.step_unchanged hc hconv hs
  exact ⟨p', out, hstep, hinv, fun headers heq => (hout headers heq).1⟩

theorem Reaches.inStep (hc : Constants) (hconv : Conversions) {q : Peers} (h : p.InStep hash)
    (hq : p.Reaches hash q) : q.InStep hash := by
  induction hq with
  | refl => exact h
  | step _ hs hstep ih =>
    obtain ⟨q', out, hrun, hinv, -⟩ := ih.step hc hconv hs
    cases hrun.symm.trans hstep
    exact hinv

/-- In every run the decoder accepts each block, and its table is that of the encoder. -/
theorem lockstep (hc : Constants) (hconv : Conversions) (hash : Name → Nat) {maxSize capacity : Nat}
    (hmax : maxSize < 2 ^ 32) (hcapacity : (Table.new maxSize capacity).indices.length ≤ 2 ^ 62)
    (hp : (new maxSize capacity).Reaches hash p) {s : PeersStep} (hs : p.Admits s) :
    ∃ p' out, p.step hash s = some (p', out) ∧
      p'.decoder.table.entries = p'.encoder.table.slots.map Slot.header ∧
      p'.decoder.table.size = p'.encoder.table.size ∧
      p'.decoder.table.maxSize = p'.encoder.table.maxSize ∧
      ∀ headers, s = .encode headers → Received none headers out := by
  obtain ⟨p', out, hstep, hinv, hreceived⟩ :=
    (hp.inStep hc hconv (new_inStep hmax hcapacity)).step hc hconv hs
  have htable := hinv.table
  exact ⟨p', out, hstep, by rw [htable]; rfl, by rw [htable]; rfl, by rw [htable]; rfl, hreceived⟩

end Peers

end

section

attribute [local instance] plainCodes

theorem plainCodes_constants : Constants :=
  ⟨by decide +kernel, fun a b h => Subtype.ext h, rfl, rfl, rfl, rfl, rfl, rfl, rfl⟩

theorem plainCodes_conversions : Conversions where
  methodFrom _ := rfl
  statusFromBytes := by
    rintro ⟨code, hlow, hhigh⟩
    have hcode : ∀ code < 1000, 100 ≤ code → plainStatus (plainStatusStr code) = some code := by
      decide +kernel
    change (plainStatus (plainStatusStr code)).bind _ = _
    rw [hcode code hhigh hlow, Option.bind_some, dif_pos ⟨hlow, hhigh⟩]

def firstBlock : List (Except Bytes Header) := [.ok (.path (ascii "/")), .ok (.field (ascii "a") (ascii "b"))]

def laterBlock : List (Except Bytes Header) :=
  [.ok (.path (ascii "/")), .ok (.field (ascii "a") [0xff]), .error [1]]

/-- A header is indexed in the first block, and a size update is queued before the second. -/
theorem lockstep_resized : ∃ p p' out, (Peers.new 4096 0).Reaches (fun _ => 0) p ∧
    p.encoder.sizeUpdate = some (.one 100) ∧ p.encoder.table.slots.length = 1 ∧
    p.step (fun _ => 0) (.encode laterBlock) = some (p', out) ∧
    p'.decoder.table.entries = p'.encoder.table.slots.map Slot.header ∧
    p'.decoder.table.maxSize = p'.encoder.table.maxSize ∧ Received none laterBlock out := by
  have hfirst : ((Peers.new 4096 0).step (fun _ => 0) (.encode firstBlock)).map
      (fun q => (q.1.allowed, q.1.encoder.sizeUpdate, q.1.encoder.table.maxSize, q.1.encoder.table.slots.length)) =
        some (4096, none, 4096, 1) := by decide +kernel
  obtain ⟨⟨q, out₁⟩, hstep₁, heq⟩ := Option.map_eq_some_iff.mp hfirst
  simp only [Prod.mk.injEq] at heq
  obtain ⟨hallowed, hnone, hmax, hslots⟩ := heq
  have hsendable : SendableFrom none firstBlock :=
    ⟨⟨trivial, by decide +kernel, (by decide +kernel : validUtf8 (ascii "/") = true)⟩,
      ⟨⟨by decide +kernel, by decide +kernel, by decide +kernel⟩, by decide +kernel, trivial⟩, trivial⟩
  have hadmits : q.Admits (.updateMaxSize 100) := ⟨by decide, by rw [hallowed]; decide⟩
  have hreaches : (Peers.new 4096 0).Reaches (fun _ => 0) { q with encoder := q.encoder.updateMaxSize 100 } :=
    .step (.step (s := .encode firstBlock) .refl hsendable hstep₁) hadmits rfl
  obtain ⟨p', out, hstep, htable, -, hsize, hreceived⟩ := Peers.lockstep plainCodes_constants
    plainCodes_conversions (fun _ => 0) (by decide) (by decide) hreaches (s := .encode laterBlock)
    ⟨⟨trivial, by decide +kernel, (by decide +kernel : validUtf8 (ascii "/") = true)⟩,
      ⟨⟨by decide +kernel, by decide +kernel, by decide +kernel⟩, by decide +kernel, trivial⟩,
      by decide, ⟨_, rfl, _, rfl⟩, trivial⟩
  refine ⟨_, p', out, hreaches, ?_, hslots, hstep, htable, hsize, hreceived _ rfl⟩
  change (q.encoder.bound.updateMaxSize 100).sizeUpdate = _
  simp [Encoder.bound, TableBound.updateMaxSize, hnone, hmax]

end

end TwoPlz.Hpack
