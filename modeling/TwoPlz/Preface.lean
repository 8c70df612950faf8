import TwoPlz.Codec.LengthDelimited
import TwoPlz.Codec.Reading
import TwoPlz.Settings

/-! The handshake before a connection (`preface/mod.rs`). -/

namespace TwoPlz

def PREFACE : Bytes := ascii "PRI * HTTP/2.0\r\n\r\nSM\r\n\r\n"

section

variable [HeaderPlz]

def Codec.Frame.kind : Codec.Frame → Codec.Kind
  | .data _ => .data
  | .headers _ => .headers
  | .priority _ => .priority
  | .pushPromise _ => .pushPromise
  | .settings _ => .settings
  | .ping _ => .ping
  | .goAway _ => .goAway
  | .windowUpdate _ => .windowUpdate
  | .reset _ => .reset

inductive PrefaceError : Type
  | invalidPreface
  | io (context : String) (source : IoErrorKind)
  | proto (context : String) (source : ProtoError)
  | eof
  | wrongFrame (kind : Codec.Kind)
  deriving DecidableEq

/-- Where `handshake` waits: for the transport to take what is written, or for bytes. -/
inductive PrefaceConn.Stage : Type
  | start
  | writePreface
  | flushLocalSettings
  | readPreface
  | readPeerSettings
  | flushGoaway (reason : Nat)
  | flushAck (remote : Settings)
  | done (remote : Settings)
  | failed (e : PrefaceError)
  | panicked
  deriving DecidableEq

/-- `input` has arrived and is not read yet, and nothing more comes when it is `ended`.  The transport has
taken `output`, and not yet the `pending` bytes. -/
structure PrefaceConn where
  role : Role
  localSettings : Settings
  stage : PrefaceConn.Stage
  input : Bytes
  ended : Bool
  output : Bytes
  pending : Bytes
  reader : Codec.FramedRead
  writer : FramedWrite

namespace PrefaceConn

def handshake (role : Role) (localSettings : Settings) : PrefaceConn where
  role := role
  localSettings := localSettings
  stage := .start
  input := []
  ended := false
  output := []
  pending := []
  reader := Codec.FramedRead.new DEFAULT_MAX_FRAME_SIZE
  writer := ⟨⟨4096, none⟩, DEFAULT_MAX_FRAME_SIZE⟩

/-- `write_all`, or `buffer` and `flush`, which return when all is written. -/
def write (c : PrefaceConn) (bytes : Bytes) (stage : Stage) : PrefaceConn :=
  { c with
    pending := c.pending ++ bytes
    stage := stage }

def flushed (c : PrefaceConn) (next : PrefaceConn) : Option PrefaceConn := if c.pending = [] then some next else none

def fail (c : PrefaceConn) (e : PrefaceError) : PrefaceConn := { c with stage := .failed e }

def sendGoawayResponse (c : PrefaceConn) (reason : Nat) : PrefaceConn :=
  c.write (GoAway.encode ⟨0, reason, []⟩) (.flushGoaway reason)

def protoError (c : PrefaceConn) : ProtoError → PrefaceConn
  | .goAway _ reason _ => c.sendGoawayResponse reason
  | e => c.fail (.proto "decode settings frame" e)

def applyPeerSettings (c : PrefaceConn) (settings : Settings) : PrefaceConn :=
  match c.writer.applyRemoteSettings settings with
  | some writer => { c with writer := writer }.write Settings.ack.encode (.flushAck settings)
  | none => { c with stage := .panicked }

def readFrame (c : PrefaceConn) (bytes : Bytes) : PrefaceConn :=
  match c.reader.decodeFrame bytes with
  | none => { c with stage := .panicked }
  | some (res, reader) =>
    let c := { c with reader := reader }
    match res with
    | .ok none => c
    | .ok (some (.settings settings)) => c.applyPeerSettings settings
    | .ok (some other) => c.fail (.wrongFrame other.kind)
    | .error e => c.protoError e

variable [LengthDelimited]

def nextFrame (c : PrefaceConn) : Option (Except DelimitError (Bytes × Bytes)) :=
  if c.ended then LengthDelimited.decodeEof DEFAULT_MAX_FRAME_SIZE c.input
  else LengthDelimited.decode DEFAULT_MAX_FRAME_SIZE c.input

def readPeerSettings (c : PrefaceConn) : Option PrefaceConn :=
  match c.nextFrame with
  | none => if c.ended then some (c.fail .eof) else none
  | some (.error e) => some (c.protoError e.mapErr)
  | some (.ok (bytes, rest)) => some ({ c with input := rest }.readFrame bytes)

def readPreface (c : PrefaceConn) : Option PrefaceConn :=
  if c.input.length < PREFACE.length then
    if c.ended then some (c.fail (.io "read preface" .unexpectedEof)) else none
  else
    let preface := c.input.take PREFACE.length
    let c := { c with input := c.input.drop PREFACE.length }
    if preface ≠ PREFACE then some (c.fail .invalidPreface) else some { c with stage := .readPeerSettings }

/-- The handshake of the role up to the next time that it waits; `none` waits, or is over. -/
def step (c : PrefaceConn) : Option PrefaceConn :=
  match c.stage with
  | .start =>
    match c.role with
    | .client => some (c.write PREFACE .writePreface)
    | .server => some (c.write c.localSettings.encode .flushLocalSettings)
  | .writePreface => c.flushed (c.write c.localSettings.encode .flushLocalSettings)
  | .flushLocalSettings =>
    match c.role with
    | .client => c.flushed { c with stage := .readPeerSettings }
    | .server => c.flushed { c with stage := .readPreface }
  | .readPreface => c.readPreface
  | .readPeerSettings => c.readPeerSettings
  | .flushGoaway reason => c.flushed (c.fail (.proto "peer sent GOAWAY" (ProtoError.libraryGoAway reason)))
  | .flushAck remote => c.flushed { c with stage := .done remote }
  | .done _ => none
  | .failed _ => none
  | .panicked => none

def accept (c : PrefaceConn) (n : Nat) : Option PrefaceConn :=
  if 0 < n ∧ n ≤ c.pending.length then
    some { c with
      output := c.output ++ c.pending.take n
      pending := c.pending.drop n }
  else none

def writeContext : Stage → Option String
  | .writePreface => some "write preface"
  | .flushLocalSettings => some "flush local settings"
  | .flushGoaway _ => some "flush GOAWAY response"
  | .flushAck _ => some "flush settings ack"
  | _ => none

def writeError (c : PrefaceConn) (kind : IoErrorKind) : Option PrefaceConn :=
  (writeContext c.stage).map fun context => c.fail (.io context kind)

def readError (c : PrefaceConn) (kind : IoErrorKind) (inner : Option String) : Option PrefaceConn :=
  match c.stage with
  | .readPreface => some (c.fail (.io "read preface" kind))
  | .readPeerSettings => some (c.protoError (DelimitError.mapErr (.io kind inner)))
  | _ => none

inductive Event : Type
  | step
  | arrive (bytes : Bytes)
  | ends
  | accept (n : Nat)
  | writeError (kind : IoErrorKind)
  | readError (kind : IoErrorKind) (inner : Option String)
  deriving DecidableEq

/-- `none` where the event is not possible. -/
def next (c : PrefaceConn) : Event → Option PrefaceConn
  | .step => c.step
  | .arrive bytes => if c.ended then none else some { c with input := c.input ++ bytes }
  | .ends => some { c with ended := true }
  | .accept n => c.accept n
  | .writeError kind => c.writeError kind
  | .readError kind inner => c.readError kind inner

/-! ### What is written -/

omit [LengthDelimited]

def peer : Role → Role
  | .client => .server
  | .server => .client

def opening : Role → Bytes
  | .client => PREFACE
  | .server => []

def full (role : Role) (settings : Settings) : Bytes :=
  opening role ++ (settings.encode ++ Settings.ack.encode)

/-- What a role has written at each stage, where nothing has gone wrong. -/
def written (role : Role) (settings : Settings) : Stage → Option Bytes
  | .start => some []
  | .writePreface => some (opening role)
  | .flushLocalSettings | .readPreface | .readPeerSettings => some (opening role ++ settings.encode)
  | .flushAck _ | .done _ => some (full role settings)
  | .flushGoaway _ | .failed _ | .panicked => none

def Stage.IsFlushed : Stage → Prop
  | .start | .readPreface | .readPeerSettings | .done _ => True
  | _ => False

structure Writes (role : Role) (mine : Settings) (c : PrefaceConn) : Prop where
  hrole : c.role = role
  hmine : c.localSettings = mine
  written : ∀ bytes, written role mine c.stage = some bytes → c.output ++ c.pending = bytes
  flushed : c.stage.IsFlushed → c.pending = []

variable {role : Role} {mine theirs : Settings} {c c' : PrefaceConn}

theorem flushed_some {next : PrefaceConn} (h : c.flushed next = some c') : c.pending = [] ∧ next = c' := by
  obtain ⟨hpending, heq⟩ := Option.ite_none_right_eq_some.mp h
  exact ⟨hpending, Option.some.inj heq⟩

namespace Writes

theorem handshake (role : Role) (settings : Settings) : (handshake role settings).Writes role settings where
  hrole := rfl
  hmine := rfl
  written _ h := Option.some.inj h
  flushed _ := rfl

theorem of_wrong (hrole : c.role = role) (hmine : c.localSettings = mine)
    (hwrong : PrefaceConn.written role mine c.stage = none) : c.Writes role mine where
  hrole := hrole
  hmine := hmine
  written _ h := by
    rw [hwrong] at h
    cases h
  flushed h := by
    cases hstage : c.stage <;> simp [hstage, Stage.IsFlushed, PrefaceConn.written] at h hwrong

theorem write {before bytes : Bytes} {stage : Stage} (h : c.Writes role mine)
    (hbefore : PrefaceConn.written role mine c.stage = some before)
    (hafter : PrefaceConn.written role mine stage = some (before ++ bytes)) (hflush : ¬stage.IsFlushed) :
    (c.write bytes stage).Writes role mine where
  hrole := h.hrole
  hmine := h.hmine
  written after hsome := by
    obtain rfl := Option.some.inj (hafter.symm.trans hsome)
    rw [← h.written before hbefore, List.append_assoc]
    rfl
  flushed hno := absurd hno hflush

theorem setStage {stage : Stage} (h : c.Writes role mine) (hpending : c.pending = [])
    (hsame : PrefaceConn.written role mine stage = PrefaceConn.written role mine c.stage) :
    ({ c with stage := stage } : PrefaceConn).Writes role mine where
  hrole := h.hrole
  hmine := h.hmine
  written bytes hsome := h.written bytes (hsame ▸ hsome)
  flushed _ := hpending

theorem fail (h : c.Writes role mine) (e : PrefaceError) : (c.fail e).Writes role mine := .of_wrong h.hrole h.hmine rfl

theorem protoError (h : c.Writes role mine) (e : ProtoError) : (c.protoError e).Writes role mine := by
  cases e <;> exact .of_wrong h.hrole h.hmine rfl

theorem readFrame (h : c.Writes role mine) (hstage : c.stage = .readPeerSettings) (bytes : Bytes) :
    (c.readFrame bytes).Writes role mine := by
  unfold PrefaceConn.readFrame
  split
  · exact .of_wrong h.hrole h.hmine rfl
  · rename_i res reader _
    have hreader : ({ c with reader := reader } : PrefaceConn).Writes role mine :=
      ⟨h.hrole, h.hmine, h.written, h.flushed⟩
    dsimp only
    split
    · exact hreader
    · rename_i settings
      unfold applyPeerSettings
      split
      · rename_i writer _
        have hwriter : ({ c with reader := reader, writer := writer } : PrefaceConn).Writes role mine :=
          ⟨h.hrole, h.hmine, h.written, h.flushed⟩
        have hbefore : PrefaceConn.written role mine c.stage = some (opening role ++ mine.encode) := by
          rw [hstage]
          rfl
        refine hwriter.write hbefore ?_ id
        rw [List.append_assoc]
        rfl
      · exact .of_wrong h.hrole h.hmine rfl
    · exact hreader.fail _
    · exact hreader.protoError _

theorem setInput (h : c.Writes role mine) (input : Bytes) :
    ({ c with input := input } : PrefaceConn).Writes role mine :=
  ⟨h.hrole, h.hmine, h.written, h.flushed⟩

theorem readPreface (h : c.Writes role mine) (hstage : c.stage = .readPreface) (hstep : c.readPreface = some c') :
    c'.Writes role mine := by
  have hpending : c.pending = [] := h.flushed (by rw [hstage]; trivial)
  have hinput := h.setInput (c.input.drop PREFACE.length)
  unfold PrefaceConn.readPreface at hstep
  split at hstep
  · obtain ⟨-, heq⟩ := Option.ite_none_right_eq_some.mp hstep
    cases heq
    exact h.fail _
  · obtain ⟨-, heq⟩ | ⟨-, heq⟩ := ite_eq_iff.mp hstep <;> cases heq
    · exact hinput.fail _
    · refine hinput.setStage hpending ?_
      dsimp only
      rw [hstage]
      rfl

variable [LengthDelimited]

theorem readPeerSettings (h : c.Writes role mine) (hstage : c.stage = .readPeerSettings)
    (hstep : c.readPeerSettings = some c') : c'.Writes role mine := by
  unfold PrefaceConn.readPeerSettings at hstep
  split at hstep
  · obtain ⟨-, heq⟩ := Option.ite_none_right_eq_some.mp hstep
    cases heq
    exact h.fail _
  · cases hstep
    exact h.protoError _
  · rename_i bytes rest _
    cases hstep
    exact (h.setInput rest).readFrame hstage bytes

theorem step (h : c.Writes role mine) (hstep : c.step = some c') : c'.Writes role mine := by
  cases hstage : c.stage with
  | start =>
    have hbefore : PrefaceConn.written role mine c.stage = some [] := by
      rw [hstage]
      rfl
    cases hrole : c.role <;> simp only [PrefaceConn.step, hstage, hrole] at hstep <;> cases hstep
    · obtain rfl := hrole.symm.trans h.hrole
      exact h.write hbefore rfl id
    · obtain rfl := hrole.symm.trans h.hrole
      obtain rfl := h.hmine
      exact h.write hbefore rfl id
  | writePreface =>
    simp only [PrefaceConn.step, hstage] at hstep
    obtain ⟨-, rfl⟩ := flushed_some hstep
    obtain rfl := h.hmine
    have hbefore : PrefaceConn.written role c.localSettings c.stage = some (opening role) := by
      rw [hstage]
      rfl
    exact h.write hbefore rfl id
  | flushLocalSettings =>
    simp only [PrefaceConn.step, hstage] at hstep
    split at hstep
    all_goals
      obtain ⟨hpending, rfl⟩ := flushed_some hstep
      refine h.setStage hpending ?_
      rw [hstage]
      rfl
  | readPreface =>
    simp only [PrefaceConn.step, hstage] at hstep
    exact h.readPreface hstage hstep
  | readPeerSettings =>
    simp only [PrefaceConn.step, hstage] at hstep
    exact h.readPeerSettings hstage hstep
  | flushGoaway reason =>
    simp only [PrefaceConn.step, hstage] at hstep
    obtain ⟨-, rfl⟩ := flushed_some hstep
    exact h.fail _
  | flushAck remote =>
    simp only [PrefaceConn.step, hstage] at hstep
    obtain ⟨hpending, rfl⟩ := flushed_some hstep
    refine h.setStage hpending ?_
    rw [hstage]
    rfl
  | done | failed | panicked =>
    simp only [PrefaceConn.step, hstage] at hstep
    cases hstep

omit [LengthDelimited] in
theorem accept {n : Nat} (h : c.Writes role mine) (haccept : c.accept n = some c') :
    c'.Writes role mine ∧ c'.stage = c.stage ∧ c.output <+: c'.output ∧ c'.output.length = c.output.length + n := by
  obtain ⟨⟨hpos, hle⟩, heq⟩ := Option.ite_none_right_eq_some.mp haccept
  cases heq
  refine ⟨⟨h.hrole, h.hmine, fun bytes hsome => ?_, fun hflush => ?_⟩, rfl, List.prefix_append _ _, ?_⟩
  · rw [← h.written bytes hsome, List.append_assoc, List.take_append_drop]
  · have hpending := congrArg List.length (h.flushed hflush)
    rw [List.length_nil] at hpending
    omega
  · rw [List.length_append, List.length_take, Nat.min_eq_left hle]

theorem next (h : c.Writes role mine) {event : Event} (hnext : c.next event = some c') : c'.Writes role mine := by
  cases event with
  | step => exact h.step hnext
  | arrive bytes =>
    obtain ⟨-, heq⟩ := Option.ite_none_left_eq_some.mp hnext
    cases heq
    exact ⟨h.hrole, h.hmine, h.written, h.flushed⟩
  | ends =>
    cases hnext
    exact ⟨h.hrole, h.hmine, h.written, h.flushed⟩
  | accept n => exact (h.accept hnext).1
  | writeError kind =>
    obtain ⟨context, -, rfl⟩ := Option.map_eq_some_iff.mp hnext
    exact h.fail _
  | readError kind inner =>
    simp only [PrefaceConn.next, readError] at hnext
    split at hnext <;> cases hnext
    · exact h.fail _
    · exact h.protoError _

end Writes

end PrefaceConn

/-! ### Any peer -/

omit [HeaderPlz] in
theorem Settings.load_valid {head : Head} {payload : Bytes} {s : Settings} (h : Settings.load head payload = .ok s) :
    s.Valid := by
  obtain ⟨-, hno⟩ | ⟨-, h⟩ := ite_eq_iff.mp h
  · cases hno
  obtain ⟨-, h⟩ | ⟨-, h⟩ := ite_eq_iff.mp h
  · obtain ⟨-, hno⟩ | ⟨-, heq⟩ := ite_eq_iff.mp h
    · cases hno
    cases heq
    constructor <;> simp [ack, default]
  · obtain ⟨-, hno⟩ | ⟨-, h⟩ := ite_eq_iff.mp h
    · cases hno
    exact (loadChunks_valid default_valid h).1

namespace Codec.FramedRead

variable {r r' : FramedRead}

theorem loadHpack_none {head : Head} {frame : Continuable} {buf : Bytes} {count : Nat} {isEndHeaders : Bool}
    {done : Continuable → Frame} (h : r.loadHpack head frame buf count isEndHeaders done = some (.ok none, r')) :
    r'.partial' ≠ none := by
  obtain ⟨⟨out, block, left, hpack⟩, -, h⟩ := Option.bind_eq_some_iff.mp h
  have h := Option.some.inj h
  intro hno
  split at h
  · cases isEndHeaders <;> cases h
    cases hno
  · cases isEndHeaders <;> cases h
    cases hno
  · cases h
  · cases h

theorem decodeFrame_none {bytes : Bytes} (h : r.decodeFrame bytes = some (.ok none, r')) (hidle : r'.partial' = none) :
    r.partial' = none ∧ ∃ head, Head.parse bytes = some head ∧ head.kind = .unknown := by
  simp only [decodeFrame, Option.bind_eq_bind, Option.bind_eq_some_iff] at h
  obtain ⟨head, hhead, h⟩ := h
  obtain ⟨-, heq⟩ | ⟨hopen, h⟩ := ite_eq_iff.mp h
  · cases heq
  have hload : ∀ {α : Type} {into : α → Frame} {loaded : Except FrameError α} {P : Prop},
      r.ofLoad into loaded = some (.ok none, r') → P := by
    intro α into loaded P h
    cases loaded <;> cases h
  have hblock : ∀ {loaded : Except FrameError (Continuable × Bytes)} {P : Prop},
      r.headerBlock head loaded = some (.ok none, r') → P := by
    intro loaded P h
    unfold headerBlock at h
    split at h
    · cases h
    · cases h
    · exact absurd hidle (loadHpack_none h)
  cases hkind : head.kind <;> simp only [hkind] at h
  case settings | ping | windowUpdate | reset | goAway => exact hload h
  case data => split at h <;> cases h
  case headers | pushPromise => exact hblock h
  case priority =>
    obtain ⟨-, heq⟩ | ⟨-, h⟩ := ite_eq_iff.mp h
    · cases heq
    split at h <;> cases h
  case continuation =>
    simp only [continuation] at h
    split at h
    · cases h
    obtain ⟨-, heq⟩ | ⟨-, h⟩ := ite_eq_iff.mp h
    · cases heq
    obtain ⟨-, heq⟩ | ⟨-, h⟩ := ite_eq_iff.mp h
    · cases heq
    obtain ⟨-, heq⟩ | ⟨-, h⟩ := ite_eq_iff.mp h
    · cases heq
    exact absurd hidle (loadHpack_none h)
  case unknown => exact ⟨by simpa [hkind] using hopen, head, hhead, hkind⟩

end Codec.FramedRead

namespace PrefaceConn

omit [HeaderPlz] in
theorem applyRemoteSettings_some {s : Settings} (hs : s.Valid) (w : FramedWrite) :
    ∃ w', w.applyRemoteSettings s = some w' := by
  rw [FramedWrite.applyRemoteSettings]
  cases hsize : s.maxFrameSize with
  | none => exact ⟨_, rfl⟩
  | some val => exact ⟨_, if_pos (hs.maxFrameSize val hsize).2⟩

def Event.arrived : Event → Bytes
  | .arrive bytes => bytes
  | _ => []

inductive Reaches [LengthDelimited] (role : Role) (settings : Settings) : Bytes → PrefaceConn → Prop
  | handshake : Reaches role settings [] (handshake role settings)
  | next {arrived : Bytes} {c c' : PrefaceConn} {event : Event} (h : Reaches role settings arrived c)
      (hnext : c.next event = some c') : Reaches role settings (arrived ++ event.arrived) c'

def Skipped (bytes : Bytes) : Prop := ∃ head, Head.parse bytes = some head ∧ head.kind = .unknown

def Loads (remote : Settings) (bytes : Bytes) : Prop :=
  ∃ head, Head.parse bytes = some head ∧ head.kind = .settings ∧
    Settings.load head (bytes.drop HEADER_LEN) = .ok remote

/-- `remote` stands behind the preface and the frames that are skipped, and in front of `input`. -/
def Accepted (role : Role) (arrived input : Bytes) (remote : Settings) : Prop :=
  remote.Valid ∧ ∃ (frames : List Bytes) (bytes : Bytes),
    arrived = opening (peer role) ++ (frames.flatten ++ (bytes ++ input)) ∧
      (∀ bytes ∈ frames, Framed bytes ∧ Skipped bytes) ∧ Framed bytes ∧ Loads remote bytes

def Read (role : Role) (arrived : Bytes) (reader : Codec.FramedRead) (input : Bytes) : Stage → Prop
  | .start | .writePreface | .flushLocalSettings => input = arrived
  | .readPreface => role = .server ∧ input = arrived
  | .readPeerSettings => ∃ frames : List Bytes, arrived = opening (peer role) ++ (frames.flatten ++ input) ∧
      (∀ bytes ∈ frames, Framed bytes) ∧ (reader.partial' = none → ∀ bytes ∈ frames, Skipped bytes)
  | .flushAck remote | .done remote => Accepted role arrived input remote
  | .flushGoaway _ | .failed _ => True
  | .panicked => False

structure Reads (role : Role) (arrived : Bytes) (c : PrefaceConn) : Prop where
  hrole : c.role = role
  reader : c.reader.Reaches (2 ^ 24)
  read : Read role arrived c.reader c.input c.stage

variable {role : Role} {arrived : Bytes} {c c' : PrefaceConn}

omit [HeaderPlz] in
theorem Accepted.append {input : Bytes} {remote : Settings} (h : Accepted role arrived input remote) (more : Bytes) :
    Accepted role (arrived ++ more) (input ++ more) remote := by
  obtain ⟨hvalid, frames, bytes, rfl, hread⟩ := h
  refine ⟨hvalid, frames, bytes, ?_, hread⟩
  simp only [List.append_assoc]

theorem Read.append {reader : Codec.FramedRead} {input : Bytes} {stage : Stage}
    (h : Read role arrived reader input stage) (more : Bytes) :
    Read role (arrived ++ more) reader (input ++ more) stage := by
  cases stage with
  | start | writePreface | flushLocalSettings => exact congrArg (· ++ more) h
  | readPreface => exact ⟨h.1, congrArg (· ++ more) h.2⟩
  | readPeerSettings =>
    obtain ⟨frames, rfl, hframes⟩ := h
    refine ⟨frames, ?_, hframes⟩
    simp only [List.append_assoc]
  | flushAck remote => exact Accepted.append h more
  | done remote => exact Accepted.append h more
  | flushGoaway | failed => trivial
  | panicked => exact h

namespace Reads

theorem fail (hrole : c.role = role) (hreader : c.reader.Reaches (2 ^ 24)) (e : PrefaceError) :
    Reads role arrived (c.fail e) := ⟨hrole, hreader, trivial⟩

theorem protoError (hrole : c.role = role) (hreader : c.reader.Reaches (2 ^ 24)) (e : ProtoError) :
    Reads role arrived (c.protoError e) := by
  cases e <;> exact ⟨hrole, hreader, trivial⟩

/-- A frame that is read is skipped, or it holds the settings, or the handshake fails. -/
theorem readFrame {bytes : Bytes} {frames : List Bytes} (hrole : c.role = role) (hreader : c.reader.Reaches (2 ^ 24))
    (hstage : c.stage = .readPeerSettings)
    (harrived : arrived = opening (peer role) ++ (frames.flatten ++ (bytes ++ c.input)))
    (hframed : ∀ bytes ∈ frames, Framed bytes)
    (hskipped : c.reader.partial' = none → ∀ bytes ∈ frames, Skipped bytes) (hbytes : Framed bytes) :
    Reads role arrived (c.readFrame bytes) := by
  obtain ⟨size, hsize⟩ := hreader.bounded
  obtain ⟨res, reader, hdecode⟩ := Codec.FramedRead.decodeFrame_some hsize (hbytes ▸ Nat.le_add_right _ _)
  have hreader' := hreader.decodeFrame hdecode
  simp only [PrefaceConn.readFrame, hdecode]
  cases res with
  | error e => exact .protoError (c := { c with reader := reader }) hrole hreader' e
  | ok x =>
    cases x with
    | none =>
      refine ⟨hrole, hreader', ?_⟩
      dsimp only
      rw [hstage]
      refine ⟨frames ++ [bytes], ?_, ?_, fun hidle => ?_⟩
      · rw [harrived, List.flatten_append, List.flatten_singleton, List.append_assoc]
      · exact List.forall_mem_append.mpr ⟨hframed, List.forall_mem_singleton.mpr hbytes⟩
      · obtain ⟨hidle', hunknown⟩ := Codec.FramedRead.decodeFrame_none hdecode hidle
        exact List.forall_mem_append.mpr ⟨hskipped hidle', List.forall_mem_singleton.mpr hunknown⟩
    | some f =>
      cases f with
      | settings settings =>
        obtain ⟨-, head, hhead, hkind, hload⟩ := Codec.FramedRead.decodeFrame_ok rfl hdecode
        have hidle : c.reader.partial' = none := by
          cases (Codec.FramedRead.decodeFrame_taken hhead hdecode).1 with
          | whole hidle => exact hidle
          | opens hidle => exact hidle
          | continues _ _ hno | ends _ _ hno =>
            rw [hkind] at hno
            cases hno
        have hvalid := Settings.load_valid hload
        obtain ⟨w, hw⟩ := applyRemoteSettings_some hvalid c.writer
        simp only [applyPeerSettings, hw]
        exact ⟨hrole, hreader', hvalid, frames, bytes, harrived,
          fun bytes hmem => ⟨hframed bytes hmem, hskipped hidle bytes hmem⟩, hbytes, head, hhead, hkind, hload⟩
      | _ => exact .fail (c := { c with reader := reader }) hrole hreader' _

variable [LengthDelimited]

theorem readPeerSettings (hd : LengthDelimited.Documented) (h : Reads role arrived c)
    (hstage : c.stage = .readPeerSettings) (hstep : c.readPeerSettings = some c') : Reads role arrived c' := by
  obtain ⟨hrole, hreader, hread⟩ := h
  rw [hstage] at hread
  obtain ⟨frames, harrived, hframed, hskipped⟩ := hread
  unfold PrefaceConn.readPeerSettings at hstep
  split at hstep
  · obtain ⟨-, heq⟩ := Option.ite_none_right_eq_some.mp hstep
    cases heq
    exact .fail hrole hreader _
  · cases hstep
    exact .protoError hrole hreader _
  · rename_i bytes rest hframe
    cases hstep
    obtain ⟨hinput, hbytes⟩ : c.input = bytes ++ rest ∧ Framed bytes := by
      unfold nextFrame at hframe
      split at hframe
      · exact hd.soundEof hframe
      · exact hd.sound hframe
    rw [hinput] at harrived
    exact .readFrame (c := { c with input := rest }) hrole hreader hstage harrived hframed hskipped hbytes

omit [LengthDelimited] in
theorem readPreface (h : Reads role arrived c) (hstage : c.stage = .readPreface) (hstep : c.readPreface = some c') :
    Reads role arrived c' := by
  obtain ⟨hrole, hreader, hread⟩ := h
  rw [hstage] at hread
  obtain ⟨rfl, hinput⟩ := hread
  unfold PrefaceConn.readPreface at hstep
  split at hstep
  · obtain ⟨-, heq⟩ := Option.ite_none_right_eq_some.mp hstep
    cases heq
    exact .fail hrole hreader _
  · obtain ⟨-, heq⟩ | ⟨htake, heq⟩ := ite_eq_iff.mp hstep <;> cases heq
    · exact ⟨hrole, hreader, trivial⟩
    · refine ⟨hrole, hreader, [], ?_, List.forall_mem_nil _, fun _ => List.forall_mem_nil _⟩
      have hsplit := List.take_append_drop PREFACE.length c.input
      rw [not_not.mp htake] at hsplit
      exact (hsplit.trans hinput).symm

theorem step (hd : LengthDelimited.Documented) (h : Reads role arrived c) (hstep : c.step = some c') :
    Reads role arrived c' := by
  have hread := h.read
  cases hstage : c.stage with
  | start =>
    rw [hstage] at hread
    simp only [PrefaceConn.step, hstage] at hstep
    split at hstep <;> cases hstep <;> exact ⟨h.hrole, h.reader, hread⟩
  | writePreface =>
    rw [hstage] at hread
    simp only [PrefaceConn.step, hstage] at hstep
    obtain ⟨-, rfl⟩ := flushed_some hstep
    exact ⟨h.hrole, h.reader, hread⟩
  | flushLocalSettings =>
    rw [hstage] at hread
    simp only [PrefaceConn.step, hstage] at hstep
    split at hstep
    case h_1 hrole =>
      obtain ⟨-, rfl⟩ := flushed_some hstep
      obtain rfl := hrole.symm.trans h.hrole
      exact ⟨h.hrole, h.reader, [], hread.symm, List.forall_mem_nil _, fun _ => List.forall_mem_nil _⟩
    case h_2 hrole =>
      obtain ⟨-, rfl⟩ := flushed_some hstep
      exact ⟨h.hrole, h.reader, h.hrole.symm.trans hrole, hread⟩
  | readPreface =>
    simp only [PrefaceConn.step, hstage] at hstep
    exact h.readPreface hstage hstep
  | readPeerSettings =>
    simp only [PrefaceConn.step, hstage] at hstep
    exact h.readPeerSettings hd hstage hstep
  | flushGoaway reason =>
    simp only [PrefaceConn.step, hstage] at hstep
    obtain ⟨-, rfl⟩ := flushed_some hstep
    exact .fail h.hrole h.reader _
  | flushAck remote =>
    rw [hstage] at hread
    simp only [PrefaceConn.step, hstage] at hstep
    obtain ⟨-, rfl⟩ := flushed_some hstep
    exact ⟨h.hrole, h.reader, hread⟩
  | done | failed | panicked =>
    simp only [PrefaceConn.step, hstage] at hstep
    cases hstep

theorem next (hd : LengthDelimited.Documented) (h : Reads role arrived c) {event : Event}
    (hnext : c.next event = some c') : Reads role (arrived ++ event.arrived) c' := by
  cases event with
  | arrive bytes =>
    obtain ⟨-, heq⟩ := Option.ite_none_left_eq_some.mp hnext
    cases heq
    exact ⟨h.hrole, h.reader, h.read.append bytes⟩
  | step =>
    change Reads role (arrived ++ []) c'
    rw [List.append_nil]
    exact h.step hd hnext
  | ends =>
    change Reads role (arrived ++ []) c'
    rw [List.append_nil]
    cases hnext
    exact ⟨h.hrole, h.reader, h.read⟩
  | accept n =>
    change Reads role (arrived ++ []) c'
    rw [List.append_nil]
    obtain ⟨-, heq⟩ := Option.ite_none_right_eq_some.mp hnext
    cases heq
    exact ⟨h.hrole, h.reader, h.read⟩
  | writeError kind =>
    obtain ⟨context, -, rfl⟩ := Option.map_eq_some_iff.mp hnext
    exact .fail h.hrole h.reader _
  | readError kind inner =>
    simp only [PrefaceConn.next, readError] at hnext
    split at hnext <;> cases hnext
    · exact .fail h.hrole h.reader _
    · exact .protoError h.hrole h.reader _

end Reads

/-- Whatever a peer sends, however it arrives and wherever the transport fails, the handshake does not panic.
It is done only with valid settings, which stand in the first SETTINGS frame behind the preface; what is
behind them is left for the connection, and all that the end has to say is written. -/
theorem handshake_sound [LengthDelimited] (hd : LengthDelimited.Documented) {settings : Settings}
    (h : Reaches role settings arrived c) :
    c.stage ≠ .panicked ∧ ∀ remote, c.stage = .done remote → Accepted role arrived c.input remote ∧
      c.output = full role settings := by
  have hends : Reads role arrived c ∧ c.Writes role settings := by
    induction h with
    | handshake => exact ⟨⟨rfl, .new _ (Nat.le_refl _), rfl⟩, .handshake role settings⟩
    | next _ hnext ih => exact ⟨ih.1.next hd hnext, ih.2.next hnext⟩
  obtain ⟨hreads, hwrites⟩ := hends
  have hread := hreads.read
  refine ⟨fun hno => ?_, fun remote hdone => ?_⟩
  · rw [hno] at hread
    exact hread
  · rw [hdone] at hread
    have hall := hwrites.written (full role settings) (by rw [hdone]; rfl)
    rw [hwrites.flushed (by rw [hdone]; trivial), List.append_nil] at hall
    exact ⟨hread, hall⟩

end PrefaceConn

end

section

attribute [local instance] plainCodes plainDelimited

def clientSettings : Settings := { Settings.default with initialWindowSize := some 131072 }

def serverSettings : Settings := { Settings.default with maxConcurrentStreams := some 100 }

def PrefaceConn.run (c : PrefaceConn) (events : List PrefaceConn.Event) : Option PrefaceConn :=
  events.foldlM PrefaceConn.next c

theorem PrefaceConn.Reaches.run {role : Role} {settings : Settings} {arrived : Bytes} {c c' : PrefaceConn}
    {events : List PrefaceConn.Event} (h : Reaches role settings arrived c) (hrun : c.run events = some c') :
    Reaches role settings (arrived ++ events.flatMap Event.arrived) c' := by
  induction events generalizing c arrived with
  | nil =>
    cases hrun
    rwa [List.flatMap_nil, List.append_nil]
  | cons event events ih =>
    obtain ⟨c₁, hnext, hrest⟩ := Option.bind_eq_some_iff.mp hrun
    rw [List.flatMap_cons, ← List.append_assoc]
    exact ih (h.next hnext) hrest

def serverEvents : List PrefaceConn.Event :=
  [.step, .accept 10, .arrive (PREFACE.take 20), .accept 5, .step, .arrive (PREFACE.drop 20), .step,
    .arrive clientSettings.encode, .step, .accept 9, .step]

theorem handshake_sound_server : ∃ c, (PrefaceConn.handshake .server serverSettings).run serverEvents = some c ∧
    c.stage = .done clientSettings ∧
    PrefaceConn.Accepted .server (PREFACE ++ clientSettings.encode) c.input clientSettings ∧
    c.output = PrefaceConn.full .server serverSettings := by
  have hrun : ((PrefaceConn.handshake .server serverSettings).run serverEvents).map PrefaceConn.stage =
      some (.done clientSettings) := by
    decide +kernel
  obtain ⟨c, hrun, hdone⟩ := Option.map_eq_some_iff.mp hrun
  have hreaches := PrefaceConn.Reaches.handshake.run hrun
  exact ⟨c, hrun, hdone, (PrefaceConn.handshake_sound plainDelimited_documented hreaches).2 _ hdone⟩

end

end TwoPlz
