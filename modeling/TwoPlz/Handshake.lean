import TwoPlz.Preface

/-! A client and a server that make the handshake with each other. -/

namespace TwoPlz

section

variable [HeaderPlz]

namespace PrefaceConn

def consumed (role : Role) (settings : Settings) : Stage → Bytes
  | .start | .writePreface | .flushLocalSettings | .readPreface => []
  | .readPeerSettings => opening role
  | _ => opening role ++ settings.encode

def Allowed (role : Role) (theirs : Settings) : Stage → Prop
  | .writePreface => role = .client
  | .readPreface => role = .server
  | .start | .flushLocalSettings | .readPeerSettings => True
  | .flushAck remote | .done remote => remote = theirs
  | .flushGoaway _ | .failed _ | .panicked => False

def rank : Stage → Nat
  | .start => 6
  | .writePreface => 5
  | .flushLocalSettings => 4
  | .readPreface => 3
  | .readPeerSettings => 2
  | .flushAck _ => 1
  | _ => 0

/-- An end of a handshake without an error, after `arrived` has come from the other end. -/
structure Follows (role : Role) (mine theirs : Settings) (arrived : Bytes) (c : PrefaceConn) : Prop where
  writes : c.Writes role mine
  isOpen : c.ended = false
  allowed : Allowed role theirs c.stage
  input : consumed (peer role) theirs c.stage ++ c.input = arrived
  reader : c.reader = Codec.FramedRead.new DEFAULT_MAX_FRAME_SIZE

omit [HeaderPlz] in
theorem written_isPrefix {role : Role} {settings : Settings} {stage : Stage} {bytes : Bytes}
    (h : written role settings stage = some bytes) : bytes <+: full role settings := by
  cases stage with
  | start =>
    cases h
    exact List.nil_prefix
  | writePreface =>
    cases h
    exact ⟨_, rfl⟩
  | flushLocalSettings | readPreface | readPeerSettings =>
    cases h
    exact ⟨Settings.ack.encode, List.append_assoc _ _ _⟩
  | flushAck | done =>
    cases h
    exact List.prefix_rfl
  | flushGoaway | failed | panicked => cases h

omit [HeaderPlz] in
theorem Allowed.written {role : Role} {theirs : Settings} {stage : Stage} (h : Allowed role theirs stage)
    (mine : Settings) : ∃ bytes, PrefaceConn.written role mine stage = some bytes := by
  cases stage with
  | flushGoaway | failed | panicked => exact h.elim
  | _ => exact ⟨_, rfl⟩

omit [HeaderPlz] in
theorem take_of_isPrefix {bytes front rest : Bytes} (h : bytes <+: front ++ rest)
    (hlen : front.length ≤ bytes.length) : bytes.take front.length = front :=
  (List.prefix_iff_eq_take.mp (List.prefix_of_prefix_length_le (List.prefix_append front rest) h hlen)).symm

omit [HeaderPlz] in
theorem bytes_settings (s : Settings) : RawFrame.bytes ⟨s.head, s.payload⟩ = s.encode := by
  rw [RawFrame.bytes, Settings.length_payload, Settings.encode]

theorem decodeFrame_settings {s : Settings} (hs : s.Valid) (hack : s.isAck = false) {r : Codec.FramedRead}
    (hr : r.partial' = none) : r.decodeFrame s.encode = some (.ok (some (.settings s)), r) := by
  rw [Settings.encode]
  refine Codec.FramedRead.decodeFrame_loads hr (Head.parse_encode (by simp [Settings.head]) _ _) ⟨rfl, ?_⟩
  rw [Head.drop_encode]
  exact hs.load_payload hack

variable [LengthDelimited]

theorem nextFrame_settings (hd : LengthDelimited.Documented) {c : PrefaceConn} {s : Settings} {rest : Bytes}
    (hopen : c.ended = false) (h : c.input <+: s.encode ++ rest) :
    c.nextFrame = if c.input.length < s.encode.length then none
      else some (.ok (s.encode, c.input.drop s.encode.length)) := by
  have hsmall := s.length_payload_le
  have hframed : Framed s.encode := by
    rw [← bytes_settings]
    exact RawFrame.framed (Nat.lt_of_le_of_lt hsmall (by decide))
  have hmax : s.encode.length ≤ HEADER_LEN + DEFAULT_MAX_FRAME_SIZE := by
    rw [Settings.encode, List.length_append, Head.length_encode, DEFAULT_MAX_FRAME_SIZE]
    omega
  rw [nextFrame, hopen, if_neg Bool.false_ne_true]
  split
  · rename_i hshort
    obtain ⟨more, hmore⟩ := List.prefix_of_prefix_length_le h (List.prefix_append _ _) (Nat.le_of_lt hshort)
    rw [← hmore] at hframed hmax
    refine hd.waits hframed hmax fun hnil => ?_
    rw [← hmore, hnil, List.append_nil] at hshort
    exact Nat.lt_irrefl _ hshort
  · rename_i hlong
    have hsplit := List.take_append_drop s.encode.length c.input
    rw [take_of_isPrefix h (Nat.not_lt.mp hlong)] at hsplit
    calc LengthDelimited.decode DEFAULT_MAX_FRAME_SIZE c.input
        = LengthDelimited.decode DEFAULT_MAX_FRAME_SIZE (s.encode ++ c.input.drop s.encode.length) := by rw [hsplit]
      _ = some (.ok (s.encode, c.input.drop s.encode.length)) := hd.frame _ hframed hmax

namespace Follows

variable {role : Role} {mine theirs : Settings} {arrived : Bytes} {c c' : PrefaceConn}

omit [LengthDelimited] in
theorem output_isPrefix (h : Follows role mine theirs arrived c) : c.output <+: full role mine := by
  obtain ⟨bytes, hbytes⟩ := h.allowed.written mine
  refine List.IsPrefix.trans ?_ (written_isPrefix hbytes)
  rw [← h.writes.written bytes hbytes]
  exact List.prefix_append _ _

omit [LengthDelimited] in
theorem new (role : Role) (mine theirs : Settings) : Follows role mine theirs [] (handshake role mine) where
  writes := .handshake role mine
  isOpen := rfl
  allowed := trivial
  input := rfl
  reader := rfl

omit [LengthDelimited] in
theorem arrive (h : Follows role mine theirs arrived c) (bytes : Bytes) :
    Follows role mine theirs (arrived ++ bytes) { c with input := c.input ++ bytes } where
  writes := h.writes.setInput _
  isOpen := h.isOpen
  allowed := h.allowed
  input := by rw [← List.append_assoc, h.input]
  reader := h.reader

omit [LengthDelimited] in
theorem accept {n : Nat} (h : Follows role mine theirs arrived c) (haccept : c.accept n = some c') :
    Follows role mine theirs arrived c' ∧ c.output <+: c'.output ∧ c'.output.length = c.output.length + n ∧
      c'.stage = c.stage := by
  obtain ⟨hwrites, hstage, houtput, hlength⟩ := h.writes.accept haccept
  refine ⟨⟨hwrites, ?_, hstage ▸ h.allowed, ?_, ?_⟩, houtput, hlength, hstage⟩
  all_goals
    obtain ⟨-, heq⟩ := Option.ite_none_right_eq_some.mp haccept
    cases heq
  · exact h.isOpen
  · exact h.input
  · exact h.reader

omit [LengthDelimited] in
theorem readPreface (h : Follows role mine theirs arrived c) (hstage : c.stage = .readPreface)
    (harrived : arrived <+: full (peer role) theirs) (hstep : c.readPreface = some c') :
    c'.stage = .readPeerSettings ∧ consumed (peer role) theirs c'.stage ++ c'.input = arrived ∧
      c'.output = c.output ∧ c'.ended = c.ended ∧ c'.reader = c.reader := by
  obtain rfl : role = .server := by
    have hrole := h.allowed
    rwa [hstage] at hrole
  have hinput : c.input = arrived := by
    have hread := h.input
    rwa [hstage] at hread
  obtain rfl := hinput
  unfold PrefaceConn.readPreface at hstep
  obtain ⟨-, hno⟩ | ⟨hlong, hstep⟩ := ite_eq_iff.mp hstep
  · rw [h.isOpen] at hno
    cases hno
  have htake : c.input.take PREFACE.length = PREFACE := take_of_isPrefix harrived (Nat.not_lt.mp hlong)
  obtain ⟨hne, -⟩ | ⟨-, heq⟩ := ite_eq_iff.mp hstep
  · exact absurd htake hne
  cases heq
  refine ⟨rfl, ?_, rfl, rfl, rfl⟩
  exact (congrArg (· ++ c.input.drop PREFACE.length) htake.symm).trans (List.take_append_drop _ _)

theorem readPeerSettings (hd : LengthDelimited.Documented) (h : Follows role mine theirs arrived c)
    (hstage : c.stage = .readPeerSettings) (hvalid : theirs.Valid) (hack : theirs.isAck = false)
    (harrived : arrived <+: full (peer role) theirs) (hstep : c.readPeerSettings = some c') :
    c'.stage = .flushAck theirs ∧ consumed (peer role) theirs c'.stage ++ c'.input = arrived ∧
      c'.output = c.output ∧ c'.ended = c.ended ∧ c'.reader = c.reader := by
  have hread : opening (peer role) ++ c.input = arrived := by
    have hread := h.input
    rwa [hstage] at hread
  have hin : c.input <+: theirs.encode ++ Settings.ack.encode := by
    rw [← hread] at harrived
    exact (List.prefix_append_right_inj _).mp harrived
  rw [PrefaceConn.readPeerSettings, nextFrame_settings hd h.isOpen hin] at hstep
  by_cases hwait : c.input.length < theirs.encode.length
  · simp [hwait, h.isOpen] at hstep
  · have htake := take_of_isPrefix hin (Nat.not_lt.mp hwait)
    have hidle : c.reader.partial' = none := by
      rw [h.reader]
      rfl
    obtain ⟨w, hw⟩ := applyRemoteSettings_some hvalid c.writer
    simp only [hwait, if_false, readFrame, decodeFrame_settings hvalid hack hidle, applyPeerSettings, hw] at hstep
    cases hstep
    refine ⟨rfl, ?_, rfl, rfl, rfl⟩
    have hsplit := List.take_append_drop theirs.encode.length c.input
    rw [htake] at hsplit
    exact ((List.append_assoc _ _ _).trans (congrArg (opening (peer role) ++ ·) hsplit)).trans hread

theorem step (hd : LengthDelimited.Documented) (h : Follows role mine theirs arrived c) (hvalid : theirs.Valid)
    (hack : theirs.isAck = false) (harrived : arrived <+: full (peer role) theirs) (hstep : c.step = some c') :
    Follows role mine theirs arrived c' ∧ c'.output = c.output ∧ rank c'.stage < rank c.stage := by
  have hwrites := h.writes.step hstep
  have hallowed := h.allowed
  have hread := h.input
  cases hstage : c.stage with
  | start =>
    rw [hstage] at hread
    simp only [PrefaceConn.step, hstage] at hstep
    split at hstep
    case h_1 hrole =>
      cases hstep
      exact ⟨⟨hwrites, h.isOpen, h.writes.hrole.symm.trans hrole, hread, h.reader⟩, rfl, Nat.lt_succ_self 5⟩
    case h_2 hrole =>
      cases hstep
      exact ⟨⟨hwrites, h.isOpen, trivial, hread, h.reader⟩, rfl, show 4 < 6 by decide⟩
  | writePreface =>
    rw [hstage] at hread
    simp only [PrefaceConn.step, hstage] at hstep
    obtain ⟨-, rfl⟩ := flushed_some hstep
    exact ⟨⟨hwrites, h.isOpen, trivial, hread, h.reader⟩, rfl, Nat.lt_succ_self 4⟩
  | flushLocalSettings =>
    rw [hstage] at hread
    simp only [PrefaceConn.step, hstage] at hstep
    split at hstep
    case h_1 hrole =>
      obtain ⟨-, rfl⟩ := flushed_some hstep
      obtain rfl := h.writes.hrole.symm.trans hrole
      exact ⟨⟨hwrites, h.isOpen, trivial, hread, h.reader⟩, rfl, show 2 < 4 by decide⟩
    case h_2 hrole =>
      obtain ⟨-, rfl⟩ := flushed_some hstep
      exact ⟨⟨hwrites, h.isOpen, h.writes.hrole.symm.trans hrole, hread, h.reader⟩, rfl, Nat.lt_succ_self 3⟩
  | readPreface =>
    simp only [PrefaceConn.step, hstage] at hstep
    obtain ⟨hnext, hinput, houtput, hended, hreader⟩ := h.readPreface hstage harrived hstep
    refine ⟨⟨hwrites, hended.trans h.isOpen, ?_, hinput, hreader.trans h.reader⟩, houtput, ?_⟩
    · rw [hnext]
      trivial
    · rw [hnext]
      exact Nat.lt_succ_self 2
  | readPeerSettings =>
    simp only [PrefaceConn.step, hstage] at hstep
    obtain ⟨hnext, hinput, houtput, hended, hreader⟩ := h.readPeerSettings hd hstage hvalid hack harrived hstep
    refine ⟨⟨hwrites, hended.trans h.isOpen, ?_, hinput, hreader.trans h.reader⟩, houtput, ?_⟩
    · rw [hnext]
      rfl
    · rw [hnext]
      exact Nat.lt_succ_self 1
  | flushAck remote =>
    rw [hstage] at hread hallowed
    simp only [PrefaceConn.step, hstage] at hstep
    obtain ⟨-, rfl⟩ := flushed_some hstep
    exact ⟨⟨hwrites, h.isOpen, hallowed, hread, h.reader⟩, rfl, Nat.zero_lt_one⟩
  | flushGoaway | failed | panicked =>
    rw [hstage] at hallowed
    exact hallowed.elim
  | done =>
    simp only [PrefaceConn.step, hstage] at hstep
    cases hstep

theorem begun (h : Follows role mine theirs arrived c) (hpending : c.pending = []) (hstuck : ¬∃ c', c.step = some c') :
    opening role ++ mine.encode <+: c.output := by
  have hflushed : ∀ next : PrefaceConn, c.flushed next = some next := fun next => if_pos hpending
  have hwritten := h.writes.written
  rw [hpending, List.append_nil] at hwritten
  cases hstage : c.stage with
  | start =>
    refine absurd ?_ hstuck
    simp only [PrefaceConn.step, hstage]
    split <;> exact ⟨_, rfl⟩
  | writePreface =>
    refine absurd ?_ hstuck
    simp only [PrefaceConn.step, hstage]
    exact ⟨_, hflushed _⟩
  | flushLocalSettings =>
    refine absurd ?_ hstuck
    simp only [PrefaceConn.step, hstage]
    split <;> exact ⟨_, hflushed _⟩
  | readPreface | readPeerSettings =>
    rw [hwritten _ (by rw [hstage]; rfl)]
  | flushAck | done =>
    rw [hwritten (full role mine) (by rw [hstage]; rfl)]
    exact ⟨Settings.ack.encode, List.append_assoc _ _ _⟩
  | flushGoaway | failed | panicked =>
    have hallowed := h.allowed
    rw [hstage] at hallowed
    exact hallowed.elim

/-- An end only waits for what the other end writes before it waits itself. -/
theorem progress (hd : LengthDelimited.Documented) (h : Follows role mine theirs arrived c)
    (harrived : arrived <+: full (peer role) theirs) (hpending : c.pending = [])
    (hfirst : opening (peer role) ++ theirs.encode <+: arrived) (hstuck : ¬∃ c', c.step = some c') :
    c.stage = .done theirs := by
  have hallowed := h.allowed
  have hread := h.input
  have hlong := hfirst.length_le
  cases hstage : c.stage with
  | start | writePreface | flushLocalSettings =>
    have hflushed : ∀ next : PrefaceConn, c.flushed next = some next := fun next => if_pos hpending
    refine absurd ?_ hstuck
    simp only [PrefaceConn.step, hstage]
    first
      | exact ⟨_, hflushed _⟩
      | split <;> first | exact ⟨_, rfl⟩ | exact ⟨_, hflushed _⟩
  | readPreface =>
    rw [hstage] at hread hallowed
    obtain rfl : role = .server := hallowed
    obtain rfl : c.input = arrived := hread
    have hlong : ¬c.input.length < PREFACE.length := by
      simp only [peer, opening, List.length_append] at hlong
      omega
    refine absurd ?_ hstuck
    simp only [PrefaceConn.step, hstage, PrefaceConn.readPreface, if_neg hlong]
    split <;> exact ⟨_, rfl⟩
  | readPeerSettings =>
    rw [hstage] at hread
    obtain rfl : opening (peer role) ++ c.input = arrived := hread
    have hin : c.input <+: theirs.encode ++ Settings.ack.encode := (List.prefix_append_right_inj _).mp harrived
    have hlong : ¬c.input.length < theirs.encode.length := by
      simp only [List.length_append] at hlong
      omega
    refine absurd ?_ hstuck
    simp only [PrefaceConn.step, hstage, PrefaceConn.readPeerSettings, nextFrame_settings hd h.isOpen hin, if_neg hlong]
    exact ⟨_, rfl⟩
  | flushAck remote =>
    refine absurd ?_ hstuck
    simp only [PrefaceConn.step, hstage]
    exact ⟨_, if_pos hpending⟩
  | done remote =>
    rw [hstage] at hallowed
    exact congrArg Stage.done hallowed
  | flushGoaway | failed | panicked =>
    rw [hstage] at hallowed
    exact hallowed.elim

end Follows

end PrefaceConn

/-- Both ends; `toServer` and `toClient` count the bytes that have arrived there. -/
structure Handshake where
  client : PrefaceConn
  server : PrefaceConn
  toServer : Nat
  toClient : Nat

namespace Handshake

def new (client server : Settings) : Handshake :=
  ⟨.handshake .client client, .handshake .server server, 0, 0⟩

inductive Move : Type
  | client
  | server
  | clientWrites (n : Nat)
  | serverWrites (n : Nat)
  | toServer (n : Nat)
  | toClient (n : Nat)

variable [LengthDelimited]

def move (s : Handshake) : Move → Option Handshake
  | .client => s.client.step.map fun c => { s with client := c }
  | .server => s.server.step.map fun c => { s with server := c }
  | .clientWrites n => (s.client.accept n).map fun c => { s with client := c }
  | .serverWrites n => (s.server.accept n).map fun c => { s with server := c }
  | .toServer n =>
    if 0 < n ∧ s.toServer + n ≤ s.client.output.length then
      some { s with
        server.input := s.server.input ++ (s.client.output.drop s.toServer).take n
        toServer := s.toServer + n }
    else none
  | .toClient n =>
    if 0 < n ∧ s.toClient + n ≤ s.server.output.length then
      some { s with
        client.input := s.client.input ++ (s.server.output.drop s.toClient).take n
        toClient := s.toClient + n }
    else none

def run (s : Handshake) (moves : List Move) : Option Handshake := moves.foldlM move s

open PrefaceConn (full rank)

variable {client server : Settings} {s t : Handshake}

omit [LengthDelimited]

structure Follows (client server : Settings) (s : Handshake) : Prop where
  clientEnd : s.client.Follows .client client server (s.server.output.take s.toClient)
  serverEnd : s.server.Follows .server server client (s.client.output.take s.toServer)
  toClient : s.toClient ≤ s.server.output.length
  toServer : s.toServer ≤ s.client.output.length

def measure (client server : Settings) (s : Handshake) : Nat :=
  rank s.client.stage + rank s.server.stage +
    ((full .client client).length - s.client.output.length) + ((full .client client).length - s.toServer) +
    ((full .server server).length - s.server.output.length) + ((full .server server).length - s.toClient)

theorem follows_new (client server : Settings) : (new client server).Follows client server where
  clientEnd := .new .client client server
  serverEnd := .new .server server client
  toClient := Nat.le_refl 0
  toServer := Nat.le_refl 0

omit [HeaderPlz] in
theorem take_of_output {output output' : Bytes} {n : Nat} (h : output <+: output') (hn : n ≤ output.length) :
    output'.take n = output.take n := by
  obtain ⟨more, rfl⟩ := h
  exact List.take_append_of_le_length hn

namespace Follows

theorem arrived (h : s.Follows client server) :
    s.server.output.take s.toClient <+: full .server server ∧
      s.client.output.take s.toServer <+: full .client client :=
  ⟨(List.take_prefix _ _).trans h.serverEnd.output_isPrefix, (List.take_prefix _ _).trans h.clientEnd.output_isPrefix⟩

theorem setClient {c : PrefaceConn} (h : s.Follows client server)
    (hclient : c.Follows .client client server (s.server.output.take s.toClient))
    (houtput : s.client.output <+: c.output) : ({ s with client := c } : Handshake).Follows client server where
  clientEnd := hclient
  serverEnd := by
    dsimp only
    rw [take_of_output houtput h.toServer]
    exact h.serverEnd
  toClient := h.toClient
  toServer := h.toServer.trans houtput.length_le

theorem setServer {c : PrefaceConn} (h : s.Follows client server)
    (hserver : c.Follows .server server client (s.client.output.take s.toServer))
    (houtput : s.server.output <+: c.output) : ({ s with server := c } : Handshake).Follows client server where
  clientEnd := by
    dsimp only
    rw [take_of_output houtput h.toClient]
    exact h.clientEnd
  serverEnd := hserver
  toClient := h.toClient.trans houtput.length_le
  toServer := h.toServer

variable [LengthDelimited]

theorem next (hd : LengthDelimited.Documented) (h : s.Follows client server) (hclient : client.Valid)
    (hserver : server.Valid) (hack : client.isAck = false) (hack' : server.isAck = false) {m : Move}
    (hmove : s.move m = some t) : t.Follows client server ∧ t.measure client server < s.measure client server := by
  obtain ⟨harrived, harrived'⟩ := h.arrived
  have hfull := h.clientEnd.output_isPrefix.length_le
  have hfull' := h.serverEnd.output_isPrefix.length_le
  cases m with
  | client =>
    obtain ⟨c, hstep, rfl⟩ := Option.map_eq_some_iff.mp hmove
    obtain ⟨hfollows, houtput, hrank⟩ := h.clientEnd.step hd hserver hack' harrived hstep
    refine ⟨h.setClient hfollows (by rw [houtput]), ?_⟩
    simp only [measure, houtput]
    omega
  | server =>
    obtain ⟨c, hstep, rfl⟩ := Option.map_eq_some_iff.mp hmove
    obtain ⟨hfollows, houtput, hrank⟩ := h.serverEnd.step hd hclient hack harrived' hstep
    refine ⟨h.setServer hfollows (by rw [houtput]), ?_⟩
    simp only [measure, houtput]
    omega
  | clientWrites n =>
    obtain ⟨c, haccept, rfl⟩ := Option.map_eq_some_iff.mp hmove
    obtain ⟨hfollows, houtput, hlength, hstage⟩ := h.clientEnd.accept haccept
    have hmore := hfollows.output_isPrefix.length_le
    obtain ⟨⟨hpos, -⟩, -⟩ := Option.ite_none_right_eq_some.mp haccept
    refine ⟨h.setClient hfollows houtput, ?_⟩
    simp only [measure, hstage]
    omega
  | serverWrites n =>
    obtain ⟨c, haccept, rfl⟩ := Option.map_eq_some_iff.mp hmove
    obtain ⟨hfollows, houtput, hlength, hstage⟩ := h.serverEnd.accept haccept
    have hmore := hfollows.output_isPrefix.length_le
    obtain ⟨⟨hpos, -⟩, -⟩ := Option.ite_none_right_eq_some.mp haccept
    refine ⟨h.setServer hfollows houtput, ?_⟩
    simp only [measure, hstage]
    omega
  | toServer n =>
    obtain ⟨⟨hn, hle⟩, heq⟩ := Option.ite_none_right_eq_some.mp hmove
    cases heq
    refine ⟨⟨h.clientEnd, ?_, h.toClient, hle⟩, ?_⟩
    · dsimp only
      rw [List.take_add]
      exact h.serverEnd.arrive _
    · simp only [measure]
      omega
  | toClient n =>
    obtain ⟨⟨hn, hle⟩, heq⟩ := Option.ite_none_right_eq_some.mp hmove
    cases heq
    refine ⟨⟨?_, h.serverEnd, hle, h.toServer⟩, ?_⟩
    · dsimp only
      rw [List.take_add]
      exact h.clientEnd.arrive _
    · simp only [measure]
      omega

theorem run (hd : LengthDelimited.Documented) (h : s.Follows client server) (hclient : client.Valid)
    (hserver : server.Valid) (hack : client.isAck = false) (hack' : server.isAck = false) {moves : List Move}
    (hrun : s.run moves = some t) :
    t.Follows client server ∧ moves.length + t.measure client server ≤ s.measure client server := by
  induction moves generalizing s with
  | nil =>
    cases hrun
    exact ⟨h, (Nat.zero_add _).le⟩
  | cons m moves ih =>
    obtain ⟨u, hmove, hrest⟩ := Option.bind_eq_some_iff.mp hrun
    obtain ⟨hnext, hlt⟩ := h.next hd hclient hserver hack hack' hmove
    obtain ⟨hfollows, hle⟩ := ih hnext hrest
    refine ⟨hfollows, ?_⟩
    rw [List.length_cons]
    omega

omit [LengthDelimited] in
theorem acknowledged {role : Role} {mine theirs : Settings} {c : PrefaceConn}
    (h : c.Follows role mine theirs (full (PrefaceConn.peer role) theirs)) (hdone : c.stage = .done theirs) :
    c.input = Settings.ack.encode := by
  have hinput := h.input
  rw [hdone, full, ← List.append_assoc] at hinput
  exact List.append_cancel_left hinput

omit [LengthDelimited] in
theorem output_done {role : Role} {mine theirs remote : Settings} {arrived : Bytes} {c : PrefaceConn}
    (h : c.Follows role mine theirs arrived) (hdone : c.stage = .done remote) : c.output = full role mine := by
  have hall := h.writes.written (full role mine) (by rw [hdone]; rfl)
  rwa [h.writes.flushed (by rw [hdone]; trivial), List.append_nil] at hall

theorem progress (hd : LengthDelimited.Documented) (h : s.Follows client server)
    (hstuck : ¬∃ m t, s.move m = some t) :
    s.client.stage = .done server ∧ s.server.stage = .done client ∧ s.client.input = Settings.ack.encode ∧
      s.server.input = Settings.ack.encode := by
  obtain ⟨harrived, harrived'⟩ := h.arrived
  have hc : ¬∃ c, s.client.step = some c := fun ⟨_, hc⟩ => hstuck ⟨.client, _, Option.map_eq_some_iff.mpr ⟨_, hc, rfl⟩⟩
  have hs : ¬∃ c, s.server.step = some c := fun ⟨_, hs⟩ => hstuck ⟨.server, _, Option.map_eq_some_iff.mpr ⟨_, hs, rfl⟩⟩
  -- all that is pending is taken
  have htaken : ∀ {c : PrefaceConn}, (¬∃ c', c.accept 1 = some c') → c.pending = [] := by
    intro c hno
    by_contra hne
    exact hno ⟨_, if_pos ⟨Nat.one_pos, List.length_pos_iff.mpr hne⟩⟩
  have hpending := htaken fun ⟨_, hc⟩ => hstuck ⟨.clientWrites 1, _, Option.map_eq_some_iff.mpr ⟨_, hc, rfl⟩⟩
  have hpending' := htaken fun ⟨_, hs⟩ => hstuck ⟨.serverWrites 1, _, Option.map_eq_some_iff.mpr ⟨_, hs, rfl⟩⟩
  -- all that was written has arrived
  have hall : s.server.output.take s.toClient = s.server.output := by
    refine List.take_of_length_le (Nat.not_lt.mp fun hlt => hstuck ⟨.toClient 1, _, if_pos ⟨Nat.one_pos, hlt⟩⟩)
  have hall' : s.client.output.take s.toServer = s.client.output := by
    refine List.take_of_length_le (Nat.not_lt.mp fun hlt => hstuck ⟨.toServer 1, _, if_pos ⟨Nat.one_pos, hlt⟩⟩)
  have hdone := h.clientEnd.progress hd harrived hpending (hall.symm ▸ h.serverEnd.begun hpending' hs) hc
  have hdone' := h.serverEnd.progress hd harrived' hpending' (hall'.symm ▸ h.clientEnd.begun hpending hc) hs
  have hread := h.clientEnd
  have hread' := h.serverEnd
  rw [hall, output_done h.serverEnd hdone'] at hread
  rw [hall', output_done h.clientEnd hdone] at hread'
  exact ⟨hdone, hdone', acknowledged hread hdone, acknowledged hread' hdone'⟩

end Follows

variable [LengthDelimited]

/-- A client and a server that make the handshake with each other always come to its end, whatever the
order of their steps and however their bytes are taken and arrive: no end ever fails or panics, an end that
is done has the settings of the other one, and when nothing is left to do both are done, with the
acknowledgement of the other one still to read. -/
theorem agree (hd : LengthDelimited.Documented) (hclient : client.Valid) (hserver : server.Valid)
    (hack : client.isAck = false) (hack' : server.isAck = false) {moves : List Move}
    (h : (new client server).run moves = some t) :
    moves.length ≤ 12 + 2 * ((full .client client).length + (full .server server).length) ∧
      PrefaceConn.Allowed .client server t.client.stage ∧ PrefaceConn.Allowed .server client t.server.stage ∧
      ((∃ m u, t.move m = some u) ∨ t.client.stage = .done server ∧ t.server.stage = .done client ∧
        t.client.input = Settings.ack.encode ∧ t.server.input = Settings.ack.encode) := by
  obtain ⟨hfollows, hmeasure⟩ := (follows_new client server).run hd hclient hserver hack hack' h
  refine ⟨?_, hfollows.clientEnd.allowed, hfollows.serverEnd.allowed, ?_⟩
  · have hstart : (new client server).measure client server =
        12 + (full .client client).length + (full .client client).length + (full .server server).length +
          (full .server server).length := rfl
    omega
  · exact (Classical.em (∃ m u, t.move m = some u)).imp_right (hfollows.progress hd)

end Handshake

end

section

attribute [local instance] plainCodes plainDelimited

def bothMoves : List Handshake.Move :=
  [.client, .server, .clientWrites 20, .toServer 7, .serverWrites 15, .server, .toServer 13, .clientWrites 4, .client,
    .clientWrites 15, .client, .toServer 19, .server, .server, .serverWrites 9, .server, .toClient 24, .client,
    .clientWrites 9, .client, .toServer 9]

theorem agree_both : ∃ t, (Handshake.new clientSettings serverSettings).run bothMoves = some t ∧
    bothMoves.length ≤ 12 + 2 * ((PrefaceConn.full .client clientSettings).length +
      (PrefaceConn.full .server serverSettings).length) ∧
    PrefaceConn.Allowed .client serverSettings t.client.stage ∧
    PrefaceConn.Allowed .server clientSettings t.server.stage ∧
    t.client.stage = .done serverSettings ∧ t.server.stage = .done clientSettings ∧
    t.client.input = Settings.ack.encode ∧ t.server.input = Settings.ack.encode := by
  have hclient : clientSettings.Valid := by
    constructor <;> simp [clientSettings, Settings.default, MAX_INITIAL_WINDOW_SIZE]
  have hserver : serverSettings.Valid := by
    constructor <;> simp [serverSettings, Settings.default]
  have hends : ((Handshake.new clientSettings serverSettings).run bothMoves).map
      (fun t => (t.client.stage, t.server.stage, t.client.input, t.server.input)) =
        some (.done serverSettings, .done clientSettings, Settings.ack.encode, Settings.ack.encode) := by
    decide +kernel
  obtain ⟨t, hrun, hends⟩ := Option.map_eq_some_iff.mp hends
  simp only [Prod.mk.injEq] at hends
  obtain ⟨hlength, hallowed, hallowed', -⟩ := Handshake.agree plainDelimited_documented hclient hserver rfl rfl hrun
  exact ⟨t, hrun, hlength, hallowed, hallowed', hends⟩

end

end TwoPlz
