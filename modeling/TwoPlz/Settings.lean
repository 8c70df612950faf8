import TwoPlz.ConnectionFrames
import TwoPlz.Hpack.SizeUpdate

/-! SETTINGS from the peer (`settings.rs`), with the parts of the codec that they reach: the limit
on frames in `framed_write.rs` and the pending size update of the HPACK encoder. -/

namespace TwoPlz

structure FramedWrite where
  hpack : TableBound
  maxFrameSize : Nat
  deriving DecidableEq

namespace FramedWrite

def setHeaderTableSize (w : FramedWrite) (val : Nat) : FramedWrite :=
  { w with hpack := w.hpack.updateMaxSize val }

def setMaxFrameSize (w : FramedWrite) (val : Nat) : Option FramedWrite :=
  if val ≤ MAX_MAX_FRAME_SIZE then some { w with maxFrameSize := val } else none

def applyRemoteSettings (w : FramedWrite) (settings : Settings) : Option FramedWrite :=
  let w :=
    match settings.headerTableSize with
    | some val => w.setHeaderTableSize val
    | none => w
  match settings.maxFrameSize with
  | some val => w.setMaxFrameSize val
  | none => some w

end FramedWrite

inductive Local : Type
  | toSend (settings : Settings)
  | waitingAck (settings : Settings)
  | synced
  deriving DecidableEq

structure SettingsHandler where
  local' : Local
  remote : Option Settings
  deriving DecidableEq

inductive SettingsAction : Type
  | ok
  | applyLocal (settings : Settings)
  deriving DecidableEq

namespace SettingsHandler

def new (settings : Settings) : SettingsHandler := ⟨.waitingAck settings, none⟩

def recv (h : SettingsHandler) (frame : Settings) : Except ProtoError (SettingsAction × SettingsHandler) :=
  if frame.isAck then
    match h.local' with
    | .waitingAck settings => .ok (.applyLocal settings, { h with local' := .synced })
    | _ => .error (ProtoError.libraryGoAway Reason.PROTOCOL_ERROR)
  else .ok (.ok, { h with remote := some frame })

end SettingsHandler

variable [HeaderPlz] [StoreCrates]

/-- A connection with its settings handler and the writing half of its codec. -/
structure Endpoint where
  connection : Connection
  settings : SettingsHandler
  codec : FramedWrite

inductive Input : Type
  /-- An event of the connection other than the application of SETTINGS. -/
  | event (e : Event)
  | recvSettings (frame : Settings)
  /-- `poll_remote_settings`, with what `poll_ready` of the codec returns. -/
  | pollRemoteSettings (ready : Bool)
  /-- A header block is encoded. -/
  | encode

namespace Endpoint

/-- The connection after the handshake, with the codec that `apply_peer_settings` set up. -/
def new (role : Role) (config : ConnectionConfig) (codec : FramedWrite) (debugAssertions : Bool) :
    Endpoint where
  connection := Connection.new role config debugAssertions
  settings := SettingsHandler.new config.localSettings
  codec := codec

def recvSettings (p : Endpoint) (frame : Settings) : Option Endpoint :=
  match p.settings.recv frame with
  | .error e => (p.connection.next (.recvError e)).map fun c => { p with connection := c }
  | .ok (.ok, settings) => some { p with settings := settings }
  | .ok (.applyLocal local', settings) =>
    (p.connection.next (.applyLocalSettings local')).map fun c =>
      { p with connection := c, settings := settings }

/-- An error of the streams layer leaves the frame in the handler and the codec as it was. -/
def pollRemoteSettings (p : Endpoint) (ready : Bool) : Option Endpoint :=
  match p.settings.remote with
  | none => some p
  | some settings =>
    if !ready then some p
    else do
      let connection ← p.connection.next (.applyRemoteSettings settings)
      if connection.result.isSome then some { p with connection := connection }
      else do
        let codec ← p.codec.applyRemoteSettings settings
        some { p with connection := connection, settings.remote := none, codec := codec }

/-- SETTINGS are read only after those before them were applied. -/
def next (p : Endpoint) : Input → Option Endpoint
  | .event (.applyRemoteSettings _) => none
  | .event (.applyLocalSettings _) => none
  | .event e => (p.connection.next e).map fun c => { p with connection := c }
  | .recvSettings frame =>
    if p.connection.canRecv && p.settings.remote.isNone then p.recvSettings frame else none
  | .pollRemoteSettings ready => p.pollRemoteSettings ready
  | .encode => some { p with codec.hpack := p.codec.hpack.encodeSizeUpdates }

end Endpoint

end TwoPlz
