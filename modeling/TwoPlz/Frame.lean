import TwoPlz.HeaderPlz

namespace TwoPlz

/-! Stream identifiers, reasons and window sizes are `u32` in the source and `Nat` here, so that
the arithmetic procedures see them. -/

def StreamId.max : Nat := 2 ^ 31 - 1

def StreamId.isClientInitiated (id : Nat) : Bool := id != 0 && id % 2 == 1

def StreamId.isServerInitiated (id : Nat) : Bool := id != 0 && id % 2 == 0

/-- `None` is the `StreamIdOverflow` of the source. -/
def StreamId.nextId (id : Nat) : Option Nat :=
  if id + 2 > StreamId.max then none else some (id + 2)

namespace Reason

def NO_ERROR : Nat := 0
def PROTOCOL_ERROR : Nat := 1
def INTERNAL_ERROR : Nat := 2
def FLOW_CONTROL_ERROR : Nat := 3
def STREAM_CLOSED : Nat := 5
def FRAME_SIZE_ERROR : Nat := 6
def REFUSED_STREAM : Nat := 7
def CANCEL : Nat := 8
def COMPRESSION_ERROR : Nat := 9
def ENHANCE_YOUR_CALM : Nat := 11

end Reason

def MAX_WINDOW_SIZE : Nat := 2 ^ 31 - 1

def DEFAULT_INITIAL_WINDOW_SIZE : Nat := 65535

def DEFAULT_MAX_FRAME_SIZE : Nat := 16384

def MAX_MAX_FRAME_SIZE : Nat := 2 ^ 24 - 1

inductive Initiator : Type
  | user | library | remote
  deriving DecidableEq

def Initiator.isLocal : Initiator → Bool
  | .user => true
  | .library => true
  | .remote => false

def Initiator.isLibrary : Initiator → Bool
  | .library => true
  | _ => false

inductive IoErrorKind : Type
  | brokenPipe | unexpectedEof | invalidData | other
  deriving DecidableEq

inductive ProtoError : Type
  | reset (id : Nat) (reason : Nat) (initiator : Initiator)
  | goAway (debugData : Bytes) (reason : Nat) (initiator : Initiator)
  | io (kind : IoErrorKind) (inner : Option String)
  deriving DecidableEq

namespace ProtoError

def isLocal : ProtoError → Bool
  | .reset _ _ i => i.isLocal
  | .goAway _ _ i => i.isLocal
  | .io _ _ => true

def libraryReset (id : Nat) (reason : Nat) : ProtoError := .reset id reason .library

def libraryGoAway (reason : Nat) : ProtoError := .goAway [] reason .library

def libraryGoAwayData (reason : Nat) (data : Bytes) : ProtoError := .goAway data reason .library

def remoteReset (id : Nat) (reason : Nat) : ProtoError := .reset id reason .remote

def remoteGoAway (data : Bytes) (reason : Nat) : ProtoError := .goAway data reason .remote

def userGoAway (reason : Nat) : ProtoError := .goAway [] reason .user

end ProtoError

inductive UserError : Type
  | inactiveStreamId | unexpectedFrameType | overflowedStreamId | malformedHeaders
  | bufferLimitExceeded | payloadTooBig
  deriving DecidableEq

inductive Role : Type
  | client | server
  deriving DecidableEq

def Role.isServer : Role → Bool
  | .server => true
  | .client => false

def Role.isClient : Role → Bool
  | .server => false
  | .client => true

/-- The source asserts that `id` is not zero; see `Inner.isLocalInit`. -/
def Role.isLocalInit (role : Role) (id : Nat) : Bool :=
  role.isServer == StreamId.isServerInitiated id

/-! Frames. -/

def END_STREAM : UInt8 := 0x1
def END_HEADERS : UInt8 := 0x4
def PADDED : UInt8 := 0x8
def PRIORITY : UInt8 := 0x20

structure Data where
  streamId : Nat
  data : Bytes
  flags : UInt8
  padLen : Option UInt8
  deriving DecidableEq

namespace Data

def new (id : Nat) (payload : Bytes) : Data := ⟨id, payload, 0, none⟩

/-- `util::strip_padding`: the data and the length of the padding, `none` if there is too much. -/
def stripPadding (payload : Bytes) : Option (Bytes × UInt8) :=
  match payload with
  | [] => none
  | padLen :: rest =>
    if padLen.toNat ≥ payload.length then none
    else some (rest.take (payload.length - padLen.toNat - 1), padLen)

/-- `none` is an error of the frame, which the codec answers with a GOAWAY. -/
def load (id : Nat) (flags : UInt8) (payload : Bytes) : Option Data :=
  let flags := flags &&& (END_STREAM ||| PADDED)
  if id = 0 then none
  else if flags &&& PADDED == PADDED then
    (stripPadding payload).map fun r => ⟨id, r.1, flags, some r.2⟩
  else some ⟨id, payload, flags, none⟩

def isEndStream (d : Data) : Bool := d.flags &&& END_STREAM == END_STREAM

def setEndStream (d : Data) (val : Bool) : Data :=
  if val then { d with flags := d.flags ||| END_STREAM }
  else { d with flags := d.flags &&& ~~~END_STREAM }

@[simp] theorem setEndStream_streamId (d : Data) (val : Bool) :
    (d.setEndStream val).streamId = d.streamId := by
  cases val <;> rfl

end Data

section Headers

variable [HeaderPlz]

structure Pseudo where
  method : Option HeaderPlz.Method
  scheme : Option Bytes
  authority : Option Bytes
  path : Option Bytes
  protocol : Option Bytes
  status : Option HeaderPlz.StatusCode
  deriving DecidableEq

def Pseudo.default : Pseudo := ⟨none, none, none, none, none, none⟩

def Pseudo.response (status : HeaderPlz.StatusCode) : Pseudo := { Pseudo.default with status := some status }

def Pseudo.isInformational (p : Pseudo) : Bool := p.status.any HeaderPlz.statusIsInformational

structure StreamDependency where
  dependencyId : Nat
  weight : UInt8
  isExclusive : Bool
  deriving DecidableEq

structure HeaderBlock where
  fields : HeaderMap
  fieldSize : Nat
  isOverSize : Bool
  pseudo : Pseudo
  deriving DecidableEq

structure Headers where
  streamId : Nat
  streamDep : Option StreamDependency
  headerBlock : HeaderBlock
  flags : UInt8
  deriving DecidableEq

def decodedHeaderSize (name value : Nat) : Nat := name + value + 32

def calculateHeadermapSize (map : HeaderMap) : Nat :=
  ((HeaderPlz.mapIter map).map fun h => HeaderPlz.headerLen h + 32).sum

namespace Headers

def new (id : Nat) (pseudo : Pseudo) (fields : HeaderMap) : Headers :=
  ⟨id, none, ⟨fields, calculateHeadermapSize fields, false, pseudo⟩, END_HEADERS⟩

def trailers (id : Nat) (fields : HeaderMap) : Headers :=
  ⟨id, none, ⟨fields, calculateHeadermapSize fields, false, Pseudo.default⟩,
    END_HEADERS ||| END_STREAM⟩

def isEndHeaders (h : Headers) : Bool := h.flags &&& END_HEADERS == END_HEADERS

def setEndHeaders (h : Headers) : Headers := { h with flags := h.flags ||| END_HEADERS }

def isEndStream (h : Headers) : Bool := h.flags &&& END_STREAM == END_STREAM

def setEndStream (h : Headers) : Headers := { h with flags := h.flags ||| END_STREAM }

def unsetEndStream (h : Headers) : Headers := { h with flags := h.flags &&& ~~~END_STREAM }

def isOverSize (h : Headers) : Bool := h.headerBlock.isOverSize

def pseudo (h : Headers) : Pseudo := h.headerBlock.pseudo

def fields (h : Headers) : HeaderMap := h.headerBlock.fields

def isInformational (h : Headers) : Bool := h.pseudo.isInformational

end Headers

structure PushPromise where
  streamId : Nat
  promisedId : Nat
  headerBlock : HeaderBlock
  flags : UInt8
  deriving DecidableEq

structure Priority where
  streamId : Nat
  dependency : StreamDependency
  deriving DecidableEq

structure Reset where
  streamId : Nat
  errorCode : Nat
  deriving DecidableEq

structure GoAway where
  lastStreamId : Nat
  errorCode : Nat
  debugData : Bytes
  deriving DecidableEq

structure WindowUpdate where
  streamId : Nat
  sizeIncrement : Nat
  deriving DecidableEq

structure Settings where
  isAck : Bool
  headerTableSize : Option Nat
  enablePush : Option Nat
  maxConcurrentStreams : Option Nat
  initialWindowSize : Option Nat
  maxFrameSize : Option Nat
  maxHeaderListSize : Option Nat
  enableConnectProtocol : Option Nat
  deriving DecidableEq

def Settings.default : Settings := ⟨false, none, none, none, none, none, none, none⟩

def Settings.isPushEnabled (s : Settings) : Option Bool := s.enablePush.map (· != 0)

def Settings.isExtendedConnectProtocolEnabled (s : Settings) : Option Bool :=
  s.enableConnectProtocol.map (· != 0)

abbrev PingPayload := Vector UInt8 8

structure Ping where
  ack : Bool
  payload : PingPayload
  deriving DecidableEq

def Ping.SHUTDOWN : PingPayload := #v[0x0b, 0x7b, 0xa2, 0xf0, 0x8b, 0x9b, 0xfe, 0x54]

inductive Frame : Type
  | data (frame : Data)
  | headers (frame : Headers)
  | reset (frame : Reset)
  deriving DecidableEq

def Frame.isData : Frame → Bool
  | .data _ => true
  | _ => false

def Frame.isHeaders : Frame → Bool
  | .headers _ => true
  | _ => false

def Frame.streamId : Frame → Nat
  | .data d => d.streamId
  | .headers h => h.streamId
  | .reset r => r.streamId

end Headers

end TwoPlz
