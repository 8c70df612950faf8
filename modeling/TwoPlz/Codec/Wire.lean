import TwoPlz.Frame
import TwoPlz.Lib.BigEndian

/-! The bytes of frames (`frame/*.rs`): how each kind is loaded and how it is encoded. -/

namespace TwoPlz

def HEADER_LEN : Nat := 9

inductive Codec.Kind : Type
  | data | headers | priority | reset | settings | pushPromise | ping | goAway | windowUpdate
  | continuation | unknown
  deriving DecidableEq

namespace Codec.Kind

def new (byte : UInt8) : Kind :=
  match byte.toNat with
  | 0 => .data
  | 1 => .headers
  | 2 => .priority
  | 3 => .reset
  | 4 => .settings
  | 5 => .pushPromise
  | 6 => .ping
  | 7 => .goAway
  | 8 => .windowUpdate
  | 9 => .continuation
  | _ => .unknown

def toByte : Kind → UInt8
  | .data => 0
  | .headers => 1
  | .priority => 2
  | .reset => 3
  | .settings => 4
  | .pushPromise => 5
  | .ping => 6
  | .goAway => 7
  | .windowUpdate => 8
  | .continuation => 9
  | .unknown => 10

@[simp] theorem new_toByte (kind : Kind) : new kind.toByte = kind := by
  cases kind <;> rfl

end Codec.Kind

/-- `none` is the failed slice of a buffer that is too short.  The most significant bit is
cleared and returned beside the id. -/
def StreamId.parse (buf : Bytes) : Option (Nat × Bool) :=
  if buf.length < 4 then none
  else
    let unpacked := BigEndian.value (buf.take 4)
    some (unpacked % 2 ^ 31, 2 ^ 31 ≤ unpacked)

structure Head where
  kind : Codec.Kind
  flag : UInt8
  streamId : Nat
  deriving DecidableEq

namespace Head

def parse (header : Bytes) : Option Head := do
  let (streamId, _) ← StreamId.parse (header.drop 5)
  let kind ← header[3]?
  let flag ← header[4]?
  some ⟨Codec.Kind.new kind, flag, streamId⟩

def encode (head : Head) (payloadLen : Nat) : Bytes :=
  BigEndian.bytes 3 payloadLen ++ [head.kind.toByte, head.flag] ++ BigEndian.bytes 4 head.streamId

@[simp] theorem length_encode (head : Head) (n : Nat) : (head.encode n).length = HEADER_LEN := by
  simp [encode, HEADER_LEN]

end Head

inductive FrameError : Type
  | badFrameSize | tooMuchPadding | invalidSettingValue | invalidWindowUpdateValue
  | invalidPayloadLength | invalidPayloadAckSettings | invalidStreamId | malformedMessage
  | invalidDependencyId
  deriving DecidableEq

def ACK : UInt8 := 0x1

def MAX_INITIAL_WINDOW_SIZE : Nat := 2 ^ 31 - 1

namespace Data

def head (d : Data) : Head := ⟨.data, d.flags, d.streamId⟩

def encodeChunk (d : Data) : Bytes := d.head.encode d.data.length ++ d.data

end Data

inductive Setting : Type
  | headerTableSize (val : Nat)
  | enablePush (val : Nat)
  | maxConcurrentStreams (val : Nat)
  | initialWindowSize (val : Nat)
  | maxFrameSize (val : Nat)
  | maxHeaderListSize (val : Nat)
  | enableConnectProtocol (val : Nat)

namespace Setting

def fromId (id val : Nat) : Option Setting :=
  match id with
  | 1 => some (.headerTableSize val)
  | 2 => some (.enablePush val)
  | 3 => some (.maxConcurrentStreams val)
  | 4 => some (.initialWindowSize val)
  | 5 => some (.maxFrameSize val)
  | 6 => some (.maxHeaderListSize val)
  | 8 => some (.enableConnectProtocol val)
  | _ => none

def load (raw : Bytes) : Option Setting :=
  fromId (BigEndian.value (raw.take 2)) (BigEndian.value ((raw.drop 2).take 4))

def id : Setting → Nat
  | .headerTableSize _ => 1
  | .enablePush _ => 2
  | .maxConcurrentStreams _ => 3
  | .initialWindowSize _ => 4
  | .maxFrameSize _ => 5
  | .maxHeaderListSize _ => 6
  | .enableConnectProtocol _ => 8

def val : Setting → Nat
  | .headerTableSize v => v
  | .enablePush v => v
  | .maxConcurrentStreams v => v
  | .initialWindowSize v => v
  | .maxFrameSize v => v
  | .maxHeaderListSize v => v
  | .enableConnectProtocol v => v

def encode (s : Setting) : Bytes := BigEndian.bytes 2 s.id ++ BigEndian.bytes 4 s.val

@[simp] theorem length_encode (s : Setting) : s.encode.length = 6 := by
  simp [encode]

end Setting

namespace Settings

def ack : Settings := { Settings.default with isAck := true }

def apply (settings : Settings) : Option Setting → Except FrameError Settings
  | some (.headerTableSize val) => .ok { settings with headerTableSize := some val }
  | some (.enablePush val) =>
    if val ≤ 1 then .ok { settings with enablePush := some val } else .error .invalidSettingValue
  | some (.maxConcurrentStreams val) => .ok { settings with maxConcurrentStreams := some val }
  | some (.initialWindowSize val) =>
    if val > MAX_INITIAL_WINDOW_SIZE then .error .invalidSettingValue
    else .ok { settings with initialWindowSize := some val }
  | some (.maxFrameSize val) =>
    if DEFAULT_MAX_FRAME_SIZE ≤ val ∧ val ≤ MAX_MAX_FRAME_SIZE then
      .ok { settings with maxFrameSize := some val }
    else .error .invalidSettingValue
  | some (.maxHeaderListSize val) => .ok { settings with maxHeaderListSize := some val }
  | some (.enableConnectProtocol val) =>
    if val ≤ 1 then .ok { settings with enableConnectProtocol := some val }
    else .error .invalidSettingValue
  | none => .ok settings

/-- `payload.chunks(6)`; the length of the payload is a multiple of six. -/
def loadChunks (settings : Settings) : Bytes → Except FrameError Settings
  | a :: b :: c :: d :: e :: f :: rest => do
    let settings ← settings.apply (Setting.load [a, b, c, d, e, f])
    loadChunks settings rest
  | _ => .ok settings

def load (head : Head) (payload : Bytes) : Except FrameError Settings :=
  if head.streamId ≠ 0 then .error .invalidStreamId
  else if head.flag &&& ACK == ACK then
    if !payload.isEmpty then .error .invalidPayloadLength else .ok ack
  else if payload.length % 6 ≠ 0 then .error .invalidPayloadAckSettings
  else loadChunks Settings.default payload

def settings (s : Settings) : List Setting :=
  (s.headerTableSize.map .headerTableSize).toList
    ++ (s.enablePush.map .enablePush).toList
    ++ (s.maxConcurrentStreams.map .maxConcurrentStreams).toList
    ++ (s.initialWindowSize.map .initialWindowSize).toList
    ++ (s.maxFrameSize.map .maxFrameSize).toList
    ++ (s.maxHeaderListSize.map .maxHeaderListSize).toList
    ++ (s.enableConnectProtocol.map .enableConnectProtocol).toList

def payloadLen (s : Settings) : Nat := (s.settings.map fun _ => 6).sum

def head (s : Settings) : Head := ⟨.settings, if s.isAck then ACK else 0, 0⟩

def payload (s : Settings) : Bytes := s.settings.flatMap Setting.encode

def encode (s : Settings) : Bytes := s.head.encode s.payloadLen ++ s.payload

@[simp] theorem length_payload (s : Settings) : s.payload.length = s.payloadLen := by
  simp [payload, payloadLen, List.length_flatMap]

end Settings

namespace Ping

def load (head : Head) (bytes : Bytes) : Except FrameError Ping :=
  if head.streamId ≠ 0 then .error .invalidStreamId
  else if h : bytes.toArray.size = 8 then .ok ⟨head.flag &&& ACK != 0, ⟨bytes.toArray, h⟩⟩
  else .error .badFrameSize

def head (p : Ping) : Head := ⟨.ping, if p.ack then ACK else 0, 0⟩

def encode (p : Ping) : Bytes := p.head.encode p.payload.toList.length ++ p.payload.toList

end Ping

namespace GoAway

def load (payload : Bytes) : Except FrameError GoAway :=
  if payload.length < 8 then .error .badFrameSize
  else
    .ok ⟨BigEndian.value (payload.take 4) % 2 ^ 31, BigEndian.value ((payload.drop 4).take 4),
      payload.drop 8⟩

def head (_ : GoAway) : Head := ⟨.goAway, 0, 0⟩

def payload (g : GoAway) : Bytes :=
  BigEndian.bytes 4 g.lastStreamId ++ BigEndian.bytes 4 g.errorCode ++ g.debugData

def encode (g : GoAway) : Bytes := g.head.encode (8 + g.debugData.length) ++ g.payload

@[simp] theorem length_payload (g : GoAway) : g.payload.length = 8 + g.debugData.length := by
  simp [payload]
  omega

end GoAway

namespace WindowUpdate

def load (head : Head) (payload : Bytes) : Except FrameError WindowUpdate :=
  if payload.length ≠ 4 then .error .badFrameSize
  else
    -- the most significant bit is cleared
    let sizeIncrement := BigEndian.value payload % 2 ^ 31
    if sizeIncrement = 0 then .error .invalidWindowUpdateValue else .ok ⟨head.streamId, sizeIncrement⟩

def head (w : WindowUpdate) : Head := ⟨.windowUpdate, 0, w.streamId⟩

def encode (w : WindowUpdate) : Bytes := w.head.encode 4 ++ BigEndian.bytes 4 w.sizeIncrement

end WindowUpdate

namespace Reset

def load (head : Head) (payload : Bytes) : Except FrameError Reset :=
  if payload.length ≠ 4 then .error .invalidPayloadLength
  else .ok ⟨head.streamId, BigEndian.value payload⟩

def head (r : Reset) : Head := ⟨.reset, 0, r.streamId⟩

def encode (r : Reset) : Bytes := r.head.encode 4 ++ BigEndian.bytes 4 r.errorCode

end Reset

end TwoPlz
