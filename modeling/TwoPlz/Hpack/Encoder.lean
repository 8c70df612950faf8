import TwoPlz.Hpack.Huffman
import TwoPlz.Hpack.SizeUpdate
import TwoPlz.Hpack.Table

/-! The HPACK encoder (`hpack/encoder.rs`).  The functions append to what is given to them as
`dst`; a panic is `none`. -/

namespace TwoPlz.Hpack

def encodeIntOneByte (value prefixBits : Nat) : Bool := value < (1 <<< prefixBits) - 1

/-- The loop of `encode_int`; a round for each unit of the value is more than enough. -/
def encodeVarint : Nat → Nat → Bytes
  | 0, value => [UInt8.ofNat value]
  | rounds + 1, value =>
    if value ≥ 128 then (0b10000000 ||| UInt8.ofNat value) :: encodeVarint rounds (value >>> 7)
    else [UInt8.ofNat value]

def encodeInt (value prefixBits : Nat) (firstByte : UInt8) : Bytes :=
  if encodeIntOneByte value prefixBits then [firstByte ||| UInt8.ofNat value]
  else
    let low := (1 <<< prefixBits) - 1
    (firstByte ||| UInt8.ofNat low) :: encodeVarint (value - low) (value - low)

def writeAt (dst : Bytes) (i : Nat) (b : UInt8) : Option Bytes :=
  if i < dst.length then some (dst.set i b) else none

/-- The string behind `idx` moves forward to make room for its head, from its last byte on. -/
def moveString (idx headLen huffLen : Nat) (dst : Bytes) : Option Bytes :=
  (List.range huffLen).foldlM (fun (dst : Bytes) i => do
    let srcI := idx + 1 + (huffLen - (i + 1))
    let dstI := idx + headLen + (huffLen - (i + 1))
    writeAt dst dstI (← dst[srcI]?)) dst

def copyHead (idx : Nat) (head dst : Bytes) : Option Bytes :=
  (List.range head.length).foldlM (fun (dst : Bytes) i => do writeAt dst (idx + i) (← head[i]?)) dst

def PLACEHOLDER_LEN : Nat := 8

def encodeStr (val dst : Bytes) : Option Bytes :=
  if val.isEmpty then some (dst ++ [0])
  else do
    let idx := dst.length
    let dst ← Huffman.encode val (dst ++ [0])
    let huffLen := dst.length - (idx + 1)
    if encodeIntOneByte huffLen 7 then writeAt dst idx (0x80 ||| UInt8.ofNat huffLen)
    else
      let head := encodeInt huffLen 7 0x80
      if head.length ≤ PLACEHOLDER_LEN then do
        let dst ← moveString idx head.length huffLen (dst ++ head.tail)
        copyHead idx head dst
      else none

def encodeSizeUpdate (val : Nat) : Bytes := encodeInt val 5 0b00100000

def encodeNotIndexed (name : Nat) (value : Bytes) (sensitive : Bool) (dst : Bytes) : Option Bytes :=
  encodeStr value (dst ++ encodeInt name 4 (if sensitive then 0b10000 else 0))

def encodeNotIndexed2 (name value : Bytes) (sensitive : Bool) (dst : Bytes) : Option Bytes := do
  let dst ← encodeStr name (dst ++ [if sensitive then 0b10000 else 0])
  encodeStr value dst

variable [HeaderPlz]

def Header.valueSlice : Header → Bytes
  | .field _ value => value
  | .authority v => v
  | .method v => HeaderPlz.methodAsRef v
  | .scheme v => v
  | .path v => v
  | .protocol v => v
  | .status v => HeaderPlz.statusAsStr v

def Name.asSlice : Name → Bytes
  | .field name => name
  | .authority => ascii ":authority"
  | .method => ascii ":method"
  | .scheme => ascii ":scheme"
  | .path => ascii ":path"
  | .protocol => ascii ":protocol"
  | .status => ascii ":status"

structure Encoder where
  table : Table
  sizeUpdate : Option SizeUpdate
  deriving DecidableEq

namespace Encoder

def new (maxSize capacity : Nat) : Encoder := ⟨Table.new maxSize capacity, none⟩

def default : Encoder := new 4096 0

def bound (e : Encoder) : TableBound := ⟨e.table.maxSize, e.sizeUpdate⟩

def updateMaxSize (e : Encoder) (val : Nat) : Encoder :=
  { e with sizeUpdate := (e.bound.updateMaxSize val).sizeUpdate }

def encodeSizeUpdates (e : Encoder) (dst : Bytes) : Option (Encoder × Bytes) :=
  match e.sizeUpdate with
  | some (.one val) => do
    let table ← e.table.resize val
    some (⟨table, none⟩, dst ++ encodeSizeUpdate val)
  | some (.two min max) => do
    let table ← e.table.resize min
    let table ← table.resize max
    some (⟨table, none⟩, dst ++ encodeSizeUpdate min ++ encodeSizeUpdate max)
  | none => some (e, dst)

def encodeHeader (t : Table) (index : Index) (dst : Bytes) : Option Bytes := do
  match index with
  | .indexed idx _ => some (dst ++ encodeInt idx 7 0x80)
  | .name idx _ =>
    let header ← t.resolve index
    encodeNotIndexed idx header.valueSlice header.isSensitive dst
  | .inserted _ =>
    let header ← t.resolve index
    if header.isSensitive then none
    else
      let dst ← encodeStr header.name.asSlice (dst ++ [0b01000000])
      encodeStr header.valueSlice dst
  | .insertedValue idx _ =>
    let header ← t.resolve index
    if header.isSensitive then none
    else encodeStr header.valueSlice (dst ++ encodeInt idx 6 0b01000000)
  | .notIndexed _ =>
    let header ← t.resolve index
    encodeNotIndexed2 header.name.asSlice header.valueSlice header.isSensitive dst

def encodeHeaderWithoutName (t : Table) (last : Index) (value dst : Bytes) : Option Bytes := do
  match last with
  | .notIndexed _ =>
    let last ← t.resolve last
    encodeNotIndexed2 last.name.asSlice value false dst
  | _ =>
    let idx ← Table.resolveIdx last
    encodeNotIndexed idx value false dst

/-- The loop of `encode`, over the headers as `reify` returns them: a header or, after one with a
name, only a value. -/
def encodeHeaders (hash : Name → Nat) :
    List (Except Bytes Header) → Table → Option Index → Bytes → Option (Table × Bytes)
  | [], t, _, dst => some (t, dst)
  | .ok header :: headers, t, _, dst => do
    let (t, index) ← t.index hash header
    let dst ← encodeHeader t index dst
    encodeHeaders hash headers t (some index) dst
  | .error value :: headers, t, lastIndex, dst => do
    let dst ← encodeHeaderWithoutName t (← lastIndex) value dst
    encodeHeaders hash headers t lastIndex dst

def encode (hash : Name → Nat) (e : Encoder) (headers : List (Except Bytes Header)) (dst : Bytes) :
    Option (Encoder × Bytes) := do
  let (e, dst) ← e.encodeSizeUpdates dst
  let (table, dst) ← encodeHeaders hash headers e.table none dst
  some ({ e with table := table }, dst)

end Encoder

end TwoPlz.Hpack
