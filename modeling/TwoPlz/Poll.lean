import TwoPlz.Settings

/-! PING (`ping_pong.rs`, the modes of `spa.rs`) and the loop of `poll2` (`connection.rs`), which
answers the control frames before it reads the next frame. -/

namespace TwoPlz

structure PendingPing where
  payload : PingPayload
  sent : Bool
  deriving DecidableEq

structure PingHandler where
  pendingPing : Option PendingPing
  pendingPong : Option PingPayload
  deriving DecidableEq

inductive PingAction : Type
  | mustAck | unknown | shutdown
  deriving DecidableEq

namespace PingHandler

def new : PingHandler := ⟨none, none⟩

/-- Neither the payload of the acknowledgement nor `sent` is looked at. -/
def handle (h : PingHandler) (ping : Ping) : PingAction × PingHandler :=
  if !ping.ack then (.mustAck, { h with pendingPong := some ping.payload })
  else
    match h.pendingPing with
    | some pending =>
      if pending.payload = Ping.SHUTDOWN then (.shutdown, { h with pendingPing := none })
      else (.unknown, h)
    | none => (.unknown, h)

/-- `none` is the failed assertion. -/
def pingShutdown (h : PingHandler) : Option PingHandler :=
  if h.pendingPing.isSome then none else some { h with pendingPing := some ⟨Ping.SHUTDOWN, false⟩ }

def sendPing (h : PingHandler) (payload : PingPayload) : PingHandler :=
  { h with pendingPing := some ⟨payload, false⟩ }

def pendingPingPayload (h : PingHandler) : Option PingPayload × PingHandler :=
  (h.pendingPing.map (·.payload), { h with pendingPing := none })

end PingHandler

inductive PingState : Type
  | init | firstSent | secondToSend | secondSent | fin
  deriving DecidableEq

inductive Mode : Type
  | native
  | ping (sent : Option (PingPayload × Bool))
  | enhancedPing (state : PingState) (payload : Option PingPayload)
  deriving DecidableEq

namespace Mode

def addFirstPing (m : Mode) (h : PingHandler) (payload : PingPayload) : Mode × PingHandler :=
  match m with
  | .enhancedPing _ _ => (.enhancedPing .firstSent (some payload), h.sendPing payload)
  | m => (m, h)

def recvdPing (m : Mode) (payload : PingPayload) : Mode :=
  match m with
  | .ping (some (sent, _)) => if sent = payload then .ping (some (sent, true)) else m
  | .enhancedPing .firstSent sent => if sent = some payload then .enhancedPing .secondToSend none else m
  | .enhancedPing .secondSent sent => if sent = some payload then .enhancedPing .fin none else m
  | m => m

def isDue : Mode → Bool
  | .native => true
  | .ping (some (_, true)) => true
  | .enhancedPing .fin _ => true
  | _ => false

def poll (m : Mode) (h : PingHandler) (payload : PingPayload) : Mode × PingHandler :=
  match m with
  | .ping none => (.ping (some (payload, false)), h.sendPing payload)
  | .enhancedPing .secondToSend _ => (.enhancedPing .secondSent (some payload), h.sendPing payload)
  | m => (m, h)

end Mode

section

variable [HeaderPlz] [StoreCrates]

inductive Incoming : Type
  | data (frame : Data)
  | headers (frame : Headers)
  | priority
  | reset (frame : Reset)
  | settings (frame : Settings)
  | pushPromise
  | ping (frame : Ping)
  | goAway (frame : GoAway)
  | windowUpdate (frame : WindowUpdate)
  | error (e : ProtoError)
  | eof

inductive Control : Type
  | goAway (frame : GoAway)
  | ping (frame : Ping)
  | settingsAck
  | settings (frame : Settings)
  | reset (frame : Reset)
  | windowUpdate (frame : WindowUpdate)

inductive Stage : Type
  | goAway | pong | ping | remoteSettings | localSettings | refusal | windowUpdate | read
  deriving DecidableEq

/-- `mode` is that of the `SpaTracker`. -/
structure Poller where
  endpoint : Endpoint
  ping : PingHandler
  mode : Option Mode
  stage : Stage

inductive PollInput : Type
  /-- A call on a handle, or by the owner of the connection, or a part of `poll` outside `poll2`. -/
  | event (e : Event)
  | gracefulShutdown
  /-- `poll_spa`, with the payload of `build_ping_payload`. -/
  | pollSpa (payload : PingPayload) (flushed : Bool)
  /-- The current stage, with what the codec's `poll_ready` returns when it is called first and
  second. -/
  | serve (ready ready' : Bool)
  | recv (frame : Incoming)

def Event.isOwner : Event → Bool
  | .accept | .abruptShutdown _ | .dropConnection => true
  | .clearExpiredResetStreams | .pollComplete _ | .parkTask _ | .goAwayIfIdle | .handleResult => true
  | _ => false

def Event.isHandle : Event → Bool
  | .sendRequest _ | .sendResponse _ _ | .sendReset _ _ | .cloneRef _ | .dropRef _ => true
  | .pollResponse _ _ | .takePartialResponse _ | .cloneStreams | .dropStreams | .tick _ => true
  | _ => false

namespace Poller

def new (role : Role) (config : ConnectionConfig) (mode : Option Mode) (payload : PingPayload)
    (codec : FramedWrite) (debugAssertions : Bool) : Poller :=
  let mode := if role.isServer then none else mode
  let config := { config with spaTracker := mode.map fun _ => ⟨[], none⟩ }
  { endpoint := Endpoint.new role config codec debugAssertions
    ping := (mode.map fun m => (m.addFirstPing .new payload).2).getD .new
    mode := mode.map fun m => (m.addFirstPing .new payload).1
    stage := .goAway }

def restart (p : Poller) : Poller := { p with stage := .goAway }

def recvPing (p : Poller) (ping : Ping) : Option Poller :=
  let c := p.endpoint.connection
  match p.ping.handle ping with
  | (.mustAck, h) => some { p with ping := h }
  | (.unknown, h) =>
    if c.isSpa then
      match h.pendingPingPayload with
      | (some payload, h) => some { p with ping := h, mode := p.mode.map (·.recvdPing payload) }
      | (none, h) => some { p with ping := h }
    else some { p with ping := h }
  | (.shutdown, h) =>
    (c.goAwayGraceful c.streams.recv.lastProcessedId).map fun c =>
      { p with endpoint.connection := { c with shutdownPing := false }, ping := h }

def run (p : Poller) (e : Event) : Option Poller :=
  (p.endpoint.connection.next e).map fun c => { p with endpoint.connection := c }

/-- `recv_frame`, with the end of the stream and the errors of the codec; PRIORITY and PUSH_PROMISE
are `todo!()`. -/
def recvFrame (p : Poller) : Incoming → Option Poller
  | .data frame => p.run (.recvData frame)
  | .headers frame => p.run (.recvHeaders frame)
  | .priority => none
  | .reset frame => p.run (.recvReset frame)
  | .settings frame => (p.endpoint.recvSettings frame).map fun e => { p with endpoint := e }
  | .pushPromise => none
  | .ping frame => p.recvPing frame
  | .goAway frame => p.run (.recvGoAway frame)
  | .windowUpdate frame => p.run (.recvWindowUpdate frame)
  | .error e => p.run (.recvError e)
  | .eof => p.run .recvEof

/-- `poll_window_update`: `ready` and `ready'` are what the codec says for the first and for the
second frame. -/
def pollWindowUpdate (p : Poller) (ready ready' : Bool) : Option (Poller × List Control) :=
  let c := p.endpoint.connection
  let s := c.streams
  let size := if s.recv.checkConnectionWindowUpdate then s.recv.flow.shouldSendWindowUpdate else none
  if size.isSome && !ready then some (p.restart, [])
  else
    (Inner.pollWindowUpdate (if size.isSome then ready' else ready) s).map fun r =>
      ({ p with
        endpoint.connection := { c with streams := r.2 }
        stage := if r.2.recv.checkConnectionWindowUpdate then .goAway else .read },
        (r.1.1.map fun size => Control.windowUpdate ⟨0, size⟩).toList ++
          (r.1.2.map Control.windowUpdate).toList)

/-- One stage of `poll2`, with the control frames that it buffers. -/
def serve (p : Poller) (ready ready' : Bool) : Option (Poller × List Control) :=
  let c := p.endpoint.connection
  match p.stage with
  | .goAway =>
    if c.goAway.pending.isSome && !ready then some (p, [])
    else
      c.sendPendingGoAway.map fun c' =>
        ({ p with
          endpoint.connection := c'
          stage := if c'.result.isSome then .goAway else .pong },
          c.goAway.pending.toList.map .goAway)
  | .pong =>
    match p.ping.pendingPong with
    | none => some ({ p with stage := .ping }, [])
    | some payload =>
      if ready then some ({ p with ping.pendingPong := none, stage := .ping }, [.ping ⟨true, payload⟩])
      else some (p.restart, [])
  | .ping =>
    match p.ping.pendingPing with
    | some ⟨payload, false⟩ =>
      if ready then
        some ({ p with ping.pendingPing := some ⟨payload, true⟩, stage := .remoteSettings },
          [.ping ⟨false, payload⟩])
      else some (p.restart, [])
    | _ => some ({ p with stage := .remoteSettings }, [])
  | .remoteSettings =>
    match p.endpoint.settings.remote with
    | none => some ({ p with stage := .localSettings }, [])
    | some _ =>
      if ready then
        (p.endpoint.pollRemoteSettings true).map fun e =>
          ({ p with
            endpoint := e
            stage := if e.connection.result.isSome then .goAway else .localSettings }, [.settingsAck])
      else some (p.restart, [])
  | .localSettings =>
    match p.endpoint.settings.local' with
    | .toSend settings =>
      if ready then
        some ({ p with endpoint.settings.local' := .waitingAck settings, stage := .refusal },
          [.settings settings])
      else some (p.restart, [])
    | _ => some ({ p with stage := .refusal }, [])
  | .refusal =>
    match c.streams.recv.refused with
    | none => some ({ p with stage := .windowUpdate }, [])
    | some id =>
      if ready then
        some ({ p with
          endpoint.connection := { c with streams.recv.refused := none }
          stage := .windowUpdate }, [.reset ⟨id, Reason.REFUSED_STREAM⟩])
      else some (p.restart, [])
  | .windowUpdate => p.pollWindowUpdate ready ready'
  | .read => some (p.restart, [])

/-- `poll_spa`: the frames are filled, or a ping of the mode is queued. -/
def pollSpa (p : Poller) (payload : PingPayload) (flushed : Bool) : Option Poller :=
  let s := p.endpoint.connection.streams
  match p.mode, s.send.spaTracker with
  | some mode, some spa =>
    if spa.pendingStreamWindowUpdate.isSome || !s.send.pendingSend.isEmpty
        || !s.send.pendingCapacity.isEmpty || !s.send.pendingOpen.isEmpty then some p
    else if mode.isDue then
      (p.run (.fillFrames flushed)).map fun p => if flushed then { p with mode := none } else p
    else
      let r := mode.poll p.ping payload
      some { p with mode := some r.1, ping := r.2 }
  | _, _ => some p

def gracefulShutdown (p : Poller) : Option Poller :=
  if p.endpoint.connection.goAway.goingAway.isSome then some p
  else do
    let p ← p.run .gracefulShutdown
    let h ← p.ping.pingShutdown
    some { p with ping := h }

/-- The state after an input with the control frames that were buffered; `none` for an input that is
not possible now, and for a panic. -/
def step (p : Poller) : PollInput → Option (Poller × List Control)
  | .event e =>
    if e.isHandle || e.isOwner && p.stage == .goAway then (p.run e).map (·, []) else none
  | .gracefulShutdown =>
    let c := p.endpoint.connection
    if p.stage == .goAway && !c.isDone && c.streams.counts.role.isServer then
      p.gracefulShutdown.map (·, [])
    else none
  | .pollSpa payload flushed =>
    if p.stage == .goAway && p.endpoint.connection.isPolling then (p.pollSpa payload flushed).map (·, [])
    else none
  | .serve ready ready' => if p.endpoint.connection.isPolling then p.serve ready ready' else none
  | .recv frame =>
    if p.stage == .read && p.endpoint.connection.canRecv then
      (p.recvFrame frame).map fun p => (p.restart, [])
    else none

def next (p : Poller) (input : PollInput) : Option Poller := (p.step input).map (·.1)

def emits (p : Poller) (input : PollInput) : List Control := (p.step input).elim [] (·.2)

def after (p : Poller) (inputs : List PollInput) : Option Poller := inputs.foldlM next p

def collect {α : Type} (f : Poller → PollInput → List α) (p : Poller) : List PollInput → List α
  | [] => []
  | input :: inputs => f p input ++ ((p.next input).elim [] fun p' => p'.collect f inputs)

end Poller

end

end TwoPlz
