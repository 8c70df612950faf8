import TwoPlz.Hpack.Huffman

/-! The HPACK decoder (`hpack/decoder.rs`).  A panic, which includes a subtraction that underflows,
is `none`. -/

namespace TwoPlz.Hpack

inductive Representation : Type
  | indexed | literalWithIndexing | literalWithoutIndexing | literalNeverIndexed | sizeUpdate
  deriving DecidableEq

def Representation.load (byte : UInt8) : Except DecoderError Representation :=
  if byte &&& 0b10000000 == 0b10000000 then .ok .indexed
  else if byte &&& 0b01000000 == 0b01000000 then .ok .literalWithIndexing
  else if byte &&& 0b11110000 == 0 then .ok .literalWithoutIndexing
  else if byte &&& 0b11110000 == 0b00010000 then .ok .literalNeverIndexed
  else if byte &&& 0b11100000 == 0b00100000 then .ok .sizeUpdate
  else .error .invalidRepresentation

def MAX_BYTES : Nat := 5

def decodeVarint : Nat → Nat → Nat → Bytes → Except DecoderError (Nat × Bytes)
  | _, _, _, [] => .error (.needMore .integerUnderflow)
  | bytes, ret, shift, b :: buf =>
    let bytes := bytes + 1
    let ret := ret + (b &&& 0b01111111).toNat <<< shift
    if b &&& 0b10000000 == 0 then .ok (ret, buf)
    else if bytes = MAX_BYTES then .error .integerOverflow
    else decodeVarint bytes ret (shift + 7) buf

/-- The buffer is what remains to be read of it. -/
def decodeInt (prefixSize : Nat) (buf : Bytes) : Except DecoderError (Nat × Bytes) :=
  if ¬(1 ≤ prefixSize ∧ prefixSize ≤ 8) then .error .invalidIntegerPrefix
  else
    match buf with
    | [] => .error (.needMore .integerUnderflow)
    | b :: buf =>
      let mask := UInt8.ofNat (2 ^ prefixSize - 1)
      let ret := (b &&& mask).toNat
      if ret < mask.toNat then .ok (ret, buf) else decodeVarint 1 ret 0 buf

structure Cursor where
  buf : Bytes
  position : Nat

namespace Cursor

def chunk (c : Cursor) : Bytes := c.buf.drop c.position

def remaining (c : Cursor) : Nat := c.buf.length - c.position

def peekU8 (c : Cursor) : Option UInt8 := c.chunk.head?

def advance (c : Cursor) (n : Nat) : Option Cursor :=
  if n ≤ c.remaining then some { c with position := c.position + n } else none

def take (c : Cursor) (n : Nat) : Option (Bytes × Cursor) :=
  if c.position + n ≤ c.buf.length then
    some ((c.buf.take (c.position + n)).drop c.position, ⟨c.buf.drop (c.position + n), 0⟩)
  else none

def consume (c : Cursor) : Option Cursor := (c.take 0).map Prod.snd

end Cursor

structure StringMarker where
  offset : Nat
  len : Nat
  string : Option Bytes

variable [HeaderPlz]

/-- `decoder::Table`; the newest entry comes first. -/
structure DynamicTable where
  entries : List Header
  size : Nat
  maxSize : Nat
  deriving DecidableEq

namespace DynamicTable

def new (maxSize : Nat) : DynamicTable := ⟨[], 0, maxSize⟩

def get (t : DynamicTable) (index : Nat) : Option (Except DecoderError Header) :=
  if index = 0 then some (.error .invalidTableIndex)
  else if index ≤ 61 then (getStatic index).map .ok
  else
    match t.entries[index - 62]? with
    | some e => some (.ok e)
    | none => some (.error .invalidTableIndex)

def reserveFrom (maxSize need : Nat) : List Header → Nat → Option (List Header × Nat)
  | [], size => some ([], size)
  | last :: newer, size =>
    if size + need > maxSize then
      if last.len ≤ size then reserveFrom maxSize need newer (size - last.len) else none
    else some (last :: newer, size)

def reserve (t : DynamicTable) (need : Nat) : Option DynamicTable :=
  (reserveFrom t.maxSize need t.entries.reverse t.size).map fun r =>
    { t with entries := r.1.reverse, size := r.2 }

def insert (t : DynamicTable) (entry : Header) : Option DynamicTable := do
  let t ← t.reserve entry.len
  some <|
    if t.size + entry.len ≤ t.maxSize then
      { t with size := t.size + entry.len, entries := entry :: t.entries }
    else t

/-- The loop of `consolidate`; without entries it panics. -/
def consolidateFrom (maxSize : Nat) : List Header → Nat → Option (List Header × Nat)
  | [], size => if size > maxSize then none else some ([], size)
  | last :: newer, size =>
    if size > maxSize then
      if last.len ≤ size then consolidateFrom maxSize newer (size - last.len) else none
    else some (last :: newer, size)

def setMaxSize (t : DynamicTable) (size : Nat) : Option DynamicTable :=
  (consolidateFrom size t.entries.reverse t.size).map fun r => ⟨r.1.reverse, r.2, size⟩

end DynamicTable

/-- `buffer` is the scratch space for Huffman strings. -/
structure Decoder where
  maxSizeUpdate : Option Nat
  lastMaxUpdate : Nat
  table : DynamicTable
  buffer : Bytes
  deriving DecidableEq

structure Decoding where
  decoder : Decoder
  src : Cursor
  emitted : List Header

/-- An error keeps the state.  The position of the cursor is not looked at after one. -/
def DecodeM (α : Type) : Type := Decoding → Option (Except DecoderError α × Decoding)

namespace DecodeM

instance : Monad DecodeM where
  pure a s := some (.ok a, s)
  bind m f s := (m s).bind fun r =>
    match r with
    | (.ok a, s) => f a s
    | (.error e, s) => some (.error e, s)

def throw {α : Type} (e : DecoderError) : DecodeM α := fun s => some (.error e, s)

def ofOption {α : Type} (o : Option α) : DecodeM α := fun s => o.map fun a => (.ok a, s)

def ofExcept {α : Type} (r : Except DecoderError α) : DecodeM α := fun s => some (r, s)

def src : DecodeM Cursor := fun s => some (.ok s.src, s)

def setPosition (position : Nat) : DecodeM Unit := fun s => some (.ok (), { s with src.position := position })

def advance (n : Nat) : DecodeM Unit := fun s =>
  (s.src.advance n).map fun src => (.ok (), { s with src := src })

def take (n : Nat) : DecodeM Bytes := fun s =>
  (s.src.take n).map fun r => (.ok r.1, { s with src := r.2 })

def consume : DecodeM Unit := fun s => s.src.consume.map fun src => (.ok (), { s with src := src })

def decodeInt (prefixSize : Nat) : DecodeM Nat := fun s =>
  match Hpack.decodeInt prefixSize s.src.chunk with
  | .ok (val, rest) => some (.ok val, { s with src.position := s.src.buf.length - rest.length })
  | .error e => some (.error e, s)

def huffmanDecode (raw : Bytes) : DecodeM Bytes := fun s =>
  (Huffman.decode raw s.decoder.buffer).map fun r => (r.1, { s with decoder.buffer := r.2 })

def emit (entry : Header) : DecodeM Unit := fun s =>
  some (.ok (), { s with emitted := s.emitted ++ [entry] })

def tableGet (index : Nat) : DecodeM Header := fun s =>
  (s.decoder.table.get index).map fun r => (r, s)

def insert (entry : Header) : DecodeM Unit := fun s =>
  (s.decoder.table.insert entry).map fun t => (.ok (), { s with decoder.table := t })

def setMaxSize (newSize : Nat) : DecodeM Unit := fun s =>
  if newSize > s.decoder.lastMaxUpdate then some (.error .invalidMaxDynamicSize, s)
  else (s.decoder.table.setMaxSize newSize).map fun t => (.ok (), { s with decoder.table := t })

end DecodeM

open DecodeM

def HUFF_FLAG : UInt8 := 0b10000000

def tryDecodeString : DecodeM StringMarker := do
  let old ← src
  match old.peekU8 with
  | none => throw (.needMore .unexpectedEndOfStream)
  | some hdr => do
    let len ← DecodeM.decodeInt 7
    let src ← src
    if len > src.remaining then throw (.needMore .stringUnderflow)
    else do
      let offset := src.position - old.position
      if hdr &&& HUFF_FLAG == HUFF_FLAG then do
        let string ← huffmanDecode (src.chunk.take len)
        advance len
        pure ⟨offset, len, some string⟩
      else do
        advance len
        pure ⟨offset, len, none⟩

def StringMarker.consume (marker : StringMarker) : DecodeM Bytes := do
  advance marker.offset
  match marker.string with
  | some string => do
    advance marker.len
    pure string
  | none => take marker.len

def decodeString : DecodeM Bytes := do
  let old ← src
  let marker ← tryDecodeString
  setPosition old.position
  marker.consume

def decodeIndexed : DecodeM Header := do
  let index ← DecodeM.decodeInt 7
  tableGet index

def decodeLiteral (index : Bool) : DecodeM Header := do
  let tableIdx ← DecodeM.decodeInt (if index then 6 else 4)
  if tableIdx = 0 then do
    let old ← src
    let nameMarker ← tryDecodeString
    let valueMarker ← tryDecodeString
    setPosition old.position
    let name ← nameMarker.consume
    let value ← valueMarker.consume
    ofExcept (Header.new name value)
  else do
    let e ← tableGet tableIdx
    let value ← decodeString
    ofExcept (e.name.intoEntry value)

def processSizeUpdate : DecodeM Unit := do
  let newSize ← DecodeM.decodeInt 5
  setMaxSize newSize

/-- One round of the loop in `decode`; the value is `can_resize` after it. -/
def decodeOne (ty : UInt8) (canResize : Bool) : DecodeM Bool := do
  match ← ofExcept (Representation.load ty) with
  | .indexed => do
    let entry ← decodeIndexed
    consume
    emit entry
    pure false
  | .literalWithIndexing => do
    let entry ← decodeLiteral true
    insert entry
    consume
    emit entry
    pure false
  | .literalWithoutIndexing => do
    let entry ← decodeLiteral false
    consume
    emit entry
    pure false
  | .literalNeverIndexed => do
    let entry ← decodeLiteral false
    consume
    emit entry
    pure false
  | .sizeUpdate =>
    if !canResize then throw .invalidMaxDynamicSize
    else do
      processSizeUpdate
      consume
      pure canResize

/-- At most `rounds` rounds; `none` when they do not suffice. -/
def decodeLoop : Nat → Bool → DecodeM Unit
  | 0, _ => do
    match (← src).peekU8 with
    | none => pure ()
    | some _ => ofOption none
  | rounds + 1, canResize => do
    match (← src).peekU8 with
    | none => pure ()
    | some ty => do
      let canResize ← decodeOne ty canResize
      decodeLoop rounds canResize

namespace Decoder

def new (size : Nat) : Decoder := ⟨none, size, DynamicTable.new size, []⟩

def queueSizeUpdate (d : Decoder) (size : Nat) : Decoder :=
  let size :=
    match d.maxSizeUpdate with
    | some v => max v size
    | none => size
  { d with maxSizeUpdate := some size }

def takeSizeUpdate (d : Decoder) : Decoder :=
  match d.maxSizeUpdate with
  | some size => { d with maxSizeUpdate := none, lastMaxUpdate := size }
  | none => d

/-- What is left in the buffer of the cursor has not been decoded.  A round for each byte is enough,
see `decodeLoop_some`. -/
def decode (d : Decoder) (src : Bytes) : Option (Except DecoderError Unit × Decoding) :=
  decodeLoop src.length true ⟨d.takeSizeUpdate, ⟨src, 0⟩, []⟩

end Decoder

end TwoPlz.Hpack
