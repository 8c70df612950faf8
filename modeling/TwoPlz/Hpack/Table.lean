import TwoPlz.Hpack.Header

/-! The table of the HPACK encoder (`hpack/table.rs`).  A `usize` has 64 bits; the arithmetic that
wraps is written out.  A panic, the overflow checks of a debug build included, or a probe that never
ends is `none`. -/

namespace TwoPlz.Hpack

def wrappingAdd (a b : Nat) : Nat := (a + b) % 2 ^ 64

def wrappingSub (a b : Nat) : Nat := (a + 2 ^ 64 - b) % 2 ^ 64

def mulUsize (a b : Nat) : Option Nat := if a * b < 2 ^ 64 then some (a * b) else none

def DYN_OFFSET : Nat := 62

structure Pos where
  index : Nat
  hash : Nat
  deriving DecidableEq

def usableCapacity (cap : Nat) : Nat := cap - cap / 4

def toRawCapacity (n : Nat) : Nat := n + n / 3

def desiredPos (mask hash : Nat) : Nat := hash &&& mask

def probeDistance (mask hash current : Nat) : Nat :=
  wrappingSub current (desiredPos mask hash) &&& mask

def wrapProbe (len probe : Nat) : Nat := if probe < len then probe else 0

variable [HeaderPlz]

def isGzipDeflate (value : Bytes) : Bool := eqIgnoreAsciiCase value (ascii "gzip, deflate")

def staticFields : List (ConstHeader × Nat) :=
  [(.acceptCharset, 15), (.acceptEncoding, 16), (.acceptLanguage, 17), (.acceptRanges, 18),
    (.accept, 19), (.accessControlAllowOrigin, 20), (.age, 21), (.allow, 22), (.authorization, 23),
    (.cacheControl, 24), (.contentDisposition, 25), (.contentEncoding, 26), (.contentLanguage, 27),
    (.contentLength, 28), (.contentLocation, 29), (.contentRange, 30), (.contentType, 31),
    (.cookie, 32), (.date, 33), (.etag, 34), (.expect, 35), (.expires, 36), (.from, 37),
    (.host, 38), (.ifMatch, 39), (.ifModifiedSince, 40), (.ifNoneMatch, 41), (.ifRange, 42),
    (.ifUnmodifiedSince, 43), (.lastModified, 44), (.link, 45), (.location, 46), (.maxForwards, 47),
    (.proxyAuthenticate, 48), (.proxyAuthorization, 49), (.range, 50), (.referer, 51),
    (.refresh, 52), (.retryAfter, 53), (.server, 54), (.setCookie, 55),
    (.strictTransportSecurity, 56), (.transferEncoding, 57), (.userAgent, 58), (.vary, 59),
    (.via, 60), (.wwwAuthenticate, 61)]

def indexStatic : Header → Option (Nat × Bool)
  | .field name value =>
    (staticFields.find? fun arm => HeaderPlz.constHeader arm.1 == name).map fun arm =>
      (arm.2, arm.1 == .acceptEncoding && isGzipDeflate value)
  | .authority _ => some (1, false)
  | .method v =>
    if v = HeaderPlz.GET then some (2, true)
    else if v = HeaderPlz.POST then some (3, true)
    else some (2, false)
  | .scheme v =>
    if v = ascii "http" then some (6, true)
    else if v = ascii "https" then some (7, true)
    else some (6, false)
  | .path v =>
    if v = ascii "/" then some (4, true)
    else if v = ascii "/index.html" then some (5, true)
    else some (4, false)
  | .protocol _ => none
  | .status v =>
    match HeaderPlz.statusToU16 v with
    | 200 => some (8, true)
    | 204 => some (9, true)
    | 206 => some (10, true)
    | 304 => some (11, true)
    | 400 => some (12, true)
    | 404 => some (13, true)
    | 500 => some (14, true)
    | _ => some (8, false)

def Header.skipValueIndex : Header → Bool
  | .field name _ =>
    [ConstHeader.contentLength, .age, .authorization, .etag, .ifModifiedSince, .ifNoneMatch,
      .location, .cookie, .setCookie].any fun c => HeaderPlz.constHeader c == name
  | .path _ => true
  | _ => false

def Header.valueEq : Header → Header → Bool
  | .field _ a, .field _ b => a == b
  | .authority a, .authority b => a == b
  | .method a, .method b => a = b
  | .scheme a, .scheme b => a == b
  | .path a, .path b => a == b
  | .protocol a, .protocol b => a == b
  | .status a, .status b => a = b
  | _, _ => false

def Header.isSensitive : Header → Bool := fun _ => false

inductive Index : Type
  | indexed (idx : Nat) (header : Header)
  | name (idx : Nat) (header : Header)
  | inserted (idx : Nat)
  | insertedValue (nameIdx slotIdx : Nat)
  | notIndexed (header : Header)

def Index.new (v : Option (Nat × Bool)) (e : Header) : Index :=
  match v with
  | none => .notIndexed e
  | some (n, true) => .indexed n e
  | some (n, false) => .name n e

structure Slot where
  hash : Nat
  header : Header
  next : Option Nat
  deriving DecidableEq

/-- The front of `slots` is the newest one. -/
structure Table where
  mask : Nat
  indices : List (Option Pos)
  slots : List Slot
  inserted : Nat
  size : Nat
  maxSize : Nat
  deriving DecidableEq

namespace Table

def new (maxSize capacity : Nat) : Table :=
  if capacity = 0 then ⟨0, [], [], 0, 0, maxSize⟩
  else
    let capacity := max (toRawCapacity capacity).nextPowerOfTwo 8
    ⟨wrappingSub capacity 1, List.replicate capacity none, [], 0, 0, maxSize⟩

def capacity (t : Table) : Nat := usableCapacity t.indices.length

def resolve (t : Table) : Index → Option Header
  | .indexed _ h => some h
  | .name _ h => some h
  | .inserted idx => t.slots[idx]?.map Slot.header
  | .insertedValue _ idx => t.slots[idx]?.map Slot.header
  | .notIndexed h => some h

def resolveIdx : Index → Option Nat
  | .indexed idx _ => some idx
  | .name idx _ => some idx
  | .inserted idx => some (idx + DYN_OFFSET)
  | .insertedValue _ slotIdx => some (slotIdx + DYN_OFFSET)
  | .notIndexed _ => none

omit [HeaderPlz] in
def reinsertFrom (pos : Pos) : Nat → Nat → List (Option Pos) → Option (List (Option Pos))
  | 0, _, _ => none
  | rounds + 1, probe, indices =>
    let probe := wrapProbe indices.length probe
    match indices[probe]? with
    | none => none
    | some none => some (indices.set probe (some pos))
    | some (some _) => reinsertFrom pos rounds (probe + 1) indices

omit [HeaderPlz] in
def reinsertEntryInOrder (mask : Nat) (indices : List (Option Pos)) (pos : Option Pos) :
    Option (List (Option Pos)) :=
  match pos with
  | none => some indices
  | some pos => reinsertFrom pos indices.length (desiredPos mask pos.hash) indices

/-- The first entry that is where it wants to be, or else the first position. -/
def firstIdeal (t : Table) : Nat :=
  (t.indices.zipIdx.find? fun p =>
    p.1.any fun pos => probeDistance t.mask pos.hash p.2 == 0).elim 0 Prod.snd

def grow (t : Table) (newRawCap : Nat) : Option Table := do
  let mask := wrappingSub newRawCap 1
  let firstIdeal := t.firstIdeal
  let indices ← (t.indices.drop firstIdeal ++ t.indices.take firstIdeal).foldlM
    (reinsertEntryInOrder mask) (List.replicate newRawCap none)
  some { t with indices := indices, mask := mask }

def reserveOne (t : Table) : Option Table :=
  if t.slots.length = t.capacity then
    if t.slots.length = 0 then some { t with mask := 8 - 1, indices := List.replicate 8 none }
    else t.grow (t.indices.length <<< 1)
  else some t

def insert (t : Table) (header : Header) (hash : Nat) : Table :=
  { t with
    inserted := wrappingAdd t.inserted 1
    slots := ⟨hash, header, none⟩ :: t.slots }

omit [HeaderPlz] in
def removeFrom (mask : Nat) : Nat → Nat → Nat → List (Option Pos) → Option (List (Option Pos))
  | 0, _, _, _ => none
  | rounds + 1, lastProbe, probe, indices =>
    let probe := wrapProbe indices.length probe
    match indices[probe]? with
    | none => none
    | some none => some indices
    | some (some pos) =>
      if probeDistance mask pos.hash probe > 0 then
        removeFrom mask rounds probe (probe + 1) ((indices.set probe none).set lastProbe (some pos))
      else some indices

def removePhaseTwo (t : Table) (probe : Nat) : Option Table :=
  (removeFrom t.mask t.indices.length probe (probe + 1) t.indices).map fun indices =>
    { t with indices := indices }

def position (t : Table) (posIdx : Nat) : Nat → Nat → Option (Nat × Pos)
  | 0, _ => none
  | rounds + 1, probe =>
    let probe := wrapProbe t.indices.length probe
    match t.indices[probe]? with
    | some (some pos) =>
      if pos.index = posIdx then some (probe, pos) else t.position posIdx rounds (probe + 1)
    | _ => none

def evict (t : Table) (prevIdx : Option Nat) : Option Table := do
  let slot ← t.slots.getLast?
  let posIdx := wrappingSub (t.slots.length - 1) t.inserted
  if slot.header.len ≤ t.size then
    let t := { t with slots := t.slots.dropLast, size := t.size - slot.header.len }
    let (probe, pos) ← t.position posIdx t.indices.length (desiredPos t.mask slot.hash)
    match slot.next with
    | some idx =>
      some { t with indices := t.indices.set probe (some { pos with index := idx }) }
    | none =>
      if some pos.index = prevIdx then
        let index := wrappingSub 0 (wrappingAdd t.inserted 1)
        some { t with indices := t.indices.set probe (some { pos with index := index }) }
      else removePhaseTwo { t with indices := t.indices.set probe none } probe
  else none

def convergeFrom (prevIdx : Option Nat) : Nat → Table → Option Table
  | 0, t => if t.size > t.maxSize then none else some t
  | rounds + 1, t =>
    if t.size > t.maxSize then (t.evict prevIdx).bind (convergeFrom prevIdx rounds) else some t

/-- Also whether an entry has been evicted. -/
def converge (t : Table) (prevIdx : Option Nat) : Option (Table × Bool) :=
  (convergeFrom prevIdx t.slots.length t).map fun t' => (t', decide (t.size > t.maxSize))

def updateSize (t : Table) (len : Nat) (prevIdx : Option Nat) : Option (Table × Bool) :=
  { t with size := t.size + len }.converge prevIdx

def resize (t : Table) (size : Nat) : Option Table :=
  if size = 0 then
    some { t with
      maxSize := 0, size := 0, indices := t.indices.map fun _ => none, slots := [], inserted := 0 }
  else ({ t with maxSize := size }.converge none).map Prod.fst

/-- The walk along `next` in `index_occupied`: the place of an equal value, or else the index of
the last slot. -/
def chainFrom (t : Table) (header : Header) : Nat → Nat → Option (Nat ⊕ Nat)
  | 0, _ => none
  | rounds + 1, index => do
    let realIdx := wrappingAdd index t.inserted
    let slot ← t.slots[realIdx]?
    if slot.header.valueEq header then some (.inl realIdx)
    else
      match slot.next with
      | some next => t.chainFrom header rounds next
      | none => some (.inr index)

def indexOccupied (t : Table) (header : Header) (hash index : Nat) (statik : Option Nat) :
    Option (Table × Index) := do
  match ← t.chainFrom header t.slots.length index with
  | .inl realIdx => some (t, .indexed (realIdx + DYN_OFFSET) header)
  | .inr index =>
    let realIdx := wrappingAdd index t.inserted
    if header.isSensitive then some (t, .name (realIdx + DYN_OFFSET) header)
    else
      let (t, _) ← t.updateSize header.len (some index)
      let t := t.insert header hash
      let newRealIdx := wrappingAdd index t.inserted
      let t :=
        if newRealIdx < t.slots.length then
          { t with slots := t.slots.modify newRealIdx fun slot =>
              { slot with next := some (wrappingSub 0 t.inserted) } }
        else t
      match statik with
      | some n => some (t, .insertedValue n 0)
      | none => some (t, .insertedValue (realIdx + DYN_OFFSET) 0)

/-- The loop of `index_vacant` that goes back as far as evictions have made room. -/
def backFrom (t : Table) : Nat → Nat → Option Nat
  | 0, probe => some probe
  | dist + 1, probe =>
    let back := wrappingSub probe 1 &&& t.mask
    match t.indices[back]? with
    | none => none
    | some none => t.backFrom dist back
    | some (some pos) =>
      if probeDistance t.mask pos.hash back < dist then t.backFrom dist back else some probe

omit [HeaderPlz] in
/-- The loop of `index_vacant` that shifts entries forward to the next empty position. -/
def shiftFrom : Nat → Pos → Nat → List (Option Pos) → Option (List (Option Pos))
  | 0, _, _, _ => none
  | rounds + 1, prev, probe, indices =>
    let probe := wrapProbe indices.length probe
    match indices[probe]? with
    | none => none
    | some none => some (indices.set probe (some prev))
    | some (some pos) => shiftFrom rounds pos (probe + 1) (indices.set probe (some prev))

def indexVacant (t : Table) (header : Header) (hash dist probe : Nat)
    (statik : Option (Nat × Bool)) : Option (Table × Index) :=
  if header.isSensitive then some (t, Index.new statik header)
  else do
    let (t, evicted) ← t.updateSize header.len none
    let probe ← if evicted then t.backFrom dist probe else some probe
    let t := t.insert header hash
    let pos : Pos := ⟨wrappingSub 0 t.inserted, hash⟩
    let prev ← t.indices[probe]?
    let indices := t.indices.set probe (some pos)
    let indices ←
      match prev with
      | some prev => shiftFrom indices.length prev (probe + 1) indices
      | none => some indices
    let t := { t with indices := indices }
    match statik with
    | some (n, _) => some (t, .insertedValue n 0)
    | none => some (t, .inserted 0)

inductive Probed : Type
  | vacant (dist probe : Nat)
  | occupied (index : Nat)

def probeFrom (t : Table) (header : Header) (hash : Nat) : Nat → Nat → Nat → Option Probed
  | 0, _, _ => none
  | rounds + 1, probe, dist =>
    let probe := wrapProbe t.indices.length probe
    match t.indices[probe]? with
    | none => none
    | some none => some (.vacant dist probe)
    | some (some pos) =>
      if probeDistance t.mask pos.hash probe < dist then some (.vacant dist probe)
      else if pos.hash = hash then do
        let slot ← t.slots[wrappingAdd pos.index t.inserted]?
        if slot.header.name = header.name then some (.occupied pos.index)
        else t.probeFrom header hash rounds (probe + 1) (dist + 1)
      else t.probeFrom header hash rounds (probe + 1) (dist + 1)

/-- `hash` is `hash_header`, which looks at the name only. -/
def indexDynamic (hash : Name → Nat) (t : Table) (header : Header) (statik : Option (Nat × Bool)) :
    Option (Table × Index) := do
  let t ←
    if header.len + t.size < t.maxSize || !header.isSensitive then t.reserveOne else some t
  if t.indices.isEmpty then some (t, Index.new statik header)
  else
    let hash := hash header.name
    match ← t.probeFrom header hash (t.indices.length + 1) (desiredPos t.mask hash) 0 with
    | .vacant dist probe => t.indexVacant header hash dist probe statik
    | .occupied index => t.indexOccupied header hash index (statik.map Prod.fst)

def index (hash : Name → Nat) (t : Table) (header : Header) : Option (Table × Index) :=
  let statik := indexStatic header
  if header.skipValueIndex then some (t, Index.new statik header)
  else
    match statik with
    | some (n, true) => some (t, .indexed n header)
    | _ => do
      let len ← mulUsize header.len 4
      let max ← mulUsize t.maxSize 3
      if len > max then some (t, Index.new statik header)
      else t.indexDynamic hash header statik

end Table

end TwoPlz.Hpack
