import TwoPlz.Codec.FramedRead
import TwoPlz.Plain

/-! Frames without a header block, there and back. -/

namespace TwoPlz

theorem StreamId.parse_bytes {id : Nat} (h : id < 2 ^ 31) (rest : Bytes) :
    StreamId.parse (BigEndian.bytes 4 id ++ rest) = some (id, false) := by
  have hvalue : BigEndian.value (BigEndian.bytes 4 id) = id := BigEndian.value_bytes_of_lt (by omega)
  have htake : (BigEndian.bytes 4 id ++ rest).take 4 = BigEndian.bytes 4 id := by
    simp
  rw [StreamId.parse, if_neg (by simp), htake, hvalue]
  simp only [Nat.mod_eq_of_lt h, Option.some.injEq, Prod.mk.injEq, decide_eq_false_iff_not, not_le,
    true_and]
  exact h

theorem StreamId.parse_lt {buf : Bytes} {id : Nat} {flag : Bool}
    (h : StreamId.parse buf = some (id, flag)) : id < 2 ^ 31 := by
  simp only [StreamId.parse, Option.ite_none_left_eq_some, Option.some.injEq, Prod.mk.injEq] at h
  rw [← h.2.1]
  exact Nat.mod_lt _ (by decide)

namespace Head

theorem encode_eq (head : Head) (n : Nat) (rest : Bytes) :
    ∃ a b c, head.encode n ++ rest =
      a :: b :: c :: head.kind.toByte :: head.flag :: (BigEndian.bytes 4 head.streamId ++ rest) :=
  ⟨_, _, _, rfl⟩

theorem parse_encode {head : Head} (h : head.streamId < 2 ^ 31) (n : Nat) (rest : Bytes) :
    parse (head.encode n ++ rest) = some head := by
  obtain ⟨a, b, c, heq⟩ := head.encode_eq n rest
  rw [heq]
  simp [parse, StreamId.parse_bytes h]

theorem parse_streamId_lt {bytes : Bytes} {head : Head} (h : parse bytes = some head) :
    head.streamId < 2 ^ 31 := by
  simp only [parse, Option.bind_eq_bind, Option.bind_eq_some_iff, Option.some.injEq] at h
  obtain ⟨⟨id, flag⟩, hid, _, -, _, -, rfl⟩ := h
  exact StreamId.parse_lt hid

theorem drop_encode (head : Head) (n : Nat) (rest : Bytes) :
    (head.encode n ++ rest).drop HEADER_LEN = rest :=
  List.drop_left' (head.length_encode n)

end Head

/-- What the length-delimited framing of the connection hands to `decode_frame`: the length field
counts the bytes behind the head. -/
def Framed (bytes : Bytes) : Prop := bytes.length = HEADER_LEN + BigEndian.value (bytes.take 3)

instance (bytes : Bytes) : Decidable (Framed bytes) :=
  inferInstanceAs (Decidable (_ = _))

theorem Framed.length_drop_lt {bytes : Bytes} (h : Framed bytes) :
    (bytes.drop HEADER_LEN).length < 2 ^ 24 := by
  have hlt := BigEndian.value_take_lt 3 bytes
  rw [List.length_drop, h]
  omega

theorem RawFrame.framed {r : RawFrame} (h : r.payload.length < 2 ^ 24) : Framed r.bytes := by
  have htake : r.bytes.take 3 = BigEndian.bytes 3 r.payload.length := by
    rw [RawFrame.bytes, Head.encode, List.append_assoc, List.append_assoc]
    exact List.take_left' (BigEndian.length_bytes _ _)
  rw [Framed, htake, BigEndian.value_bytes_of_lt (by omega), RawFrame.bytes, List.length_append,
    Head.length_encode]

/-! SETTINGS. -/

namespace Setting

theorem load_encode {s : Setting} (h : s.val < 2 ^ 32) : load s.encode = some s := by
  have hid : BigEndian.value (s.encode.take 2) = s.id := by
    rw [encode, List.take_left' (BigEndian.length_bytes _ _)]
    exact BigEndian.value_bytes_of_lt (by cases s <;> simp [id])
  have hval : BigEndian.value ((s.encode.drop 2).take 4) = s.val := by
    rw [encode, List.drop_left' (BigEndian.length_bytes _ _),
      List.take_of_length_le (by simp)]
    exact BigEndian.value_bytes_of_lt (by omega)
  rw [load, hid, hval]
  cases s <;> rfl

theorem load_val_lt {raw : Bytes} {s : Setting} (h : load raw = some s) : s.val < 2 ^ 32 := by
  have hval : s.val = BigEndian.value ((raw.drop 2).take 4) := by
    unfold load fromId at h
    split at h <;> first | (obtain rfl := Option.some.inj h; rfl) | cases h
  rw [hval]
  exact BigEndian.value_take_lt 4 _

end Setting

namespace Settings

structure Valid (s : Settings) : Prop where
  headerTableSize : ∀ v ∈ s.headerTableSize, v < 2 ^ 32
  enablePush : ∀ v ∈ s.enablePush, v ≤ 1
  maxConcurrentStreams : ∀ v ∈ s.maxConcurrentStreams, v < 2 ^ 32
  initialWindowSize : ∀ v ∈ s.initialWindowSize, v ≤ MAX_INITIAL_WINDOW_SIZE
  maxFrameSize : ∀ v ∈ s.maxFrameSize, DEFAULT_MAX_FRAME_SIZE ≤ v ∧ v ≤ MAX_MAX_FRAME_SIZE
  maxHeaderListSize : ∀ v ∈ s.maxHeaderListSize, v < 2 ^ 32
  enableConnectProtocol : ∀ v ∈ s.enableConnectProtocol, v ≤ 1

theorem default_valid : Settings.default.Valid := by
  constructor <;> simp [Settings.default]

theorem apply_valid {s s' : Settings} {setting : Option Setting} (h : s.Valid)
    (hval : ∀ x, setting = some x → x.val < 2 ^ 32) (happly : s.apply setting = .ok s') :
    s'.Valid ∧ s'.isAck = s.isAck := by
  cases setting with
  | none =>
    cases happly
    exact ⟨h, rfl⟩
  | some x =>
    have hx : x.val < 2 ^ 32 := hval x rfl
    cases x with
    | headerTableSize v =>
      cases happly
      exact ⟨{ h with headerTableSize := by simpa [Setting.val] using hx }, rfl⟩
    | enablePush v =>
      obtain ⟨hv, heq⟩ | ⟨-, heq⟩ := ite_eq_iff.mp happly <;> cases heq
      exact ⟨{ h with enablePush := by simpa using hv }, rfl⟩
    | maxConcurrentStreams v =>
      cases happly
      exact ⟨{ h with maxConcurrentStreams := by simpa [Setting.val] using hx }, rfl⟩
    | initialWindowSize v =>
      obtain ⟨-, heq⟩ | ⟨hv, heq⟩ := ite_eq_iff.mp happly <;> cases heq
      exact ⟨{ h with initialWindowSize := by simpa using hv }, rfl⟩
    | maxFrameSize v =>
      obtain ⟨hv, heq⟩ | ⟨-, heq⟩ := ite_eq_iff.mp happly <;> cases heq
      exact ⟨{ h with maxFrameSize := by simpa using hv }, rfl⟩
    | maxHeaderListSize v =>
      cases happly
      exact ⟨{ h with maxHeaderListSize := by simpa [Setting.val] using hx }, rfl⟩
    | enableConnectProtocol v =>
      obtain ⟨hv, heq⟩ | ⟨-, heq⟩ := ite_eq_iff.mp happly <;> cases heq
      exact ⟨{ h with enableConnectProtocol := by simpa using hv }, rfl⟩

theorem loadChunks_valid {s s' : Settings} {payload : Bytes} (h : s.Valid)
    (hload : s.loadChunks payload = .ok s') : s'.Valid ∧ s'.isAck = s.isAck := by
  fun_induction loadChunks s payload with
  | case1 s a b c d e f rest ih =>
    cases happly : s.apply (Setting.load [a, b, c, d, e, f]) with
    | error e => simp [happly, bind, Except.bind] at hload
    | ok t =>
      have ht := apply_valid h (fun x hx => Setting.load_val_lt hx) happly
      have hs := ih t ht.1 (by simpa [happly, bind, Except.bind] using hload)
      exact ⟨hs.1, hs.2.trans ht.2⟩
  | case2 s payload =>
    cases hload
    exact ⟨h, rfl⟩

theorem Valid.val_lt {s : Settings} (h : s.Valid) {x : Setting} (hx : x ∈ s.settings) :
    x.val < 2 ^ 32 := by
  simp only [settings, List.mem_append, Option.mem_toList, Option.map_eq_some_iff] at hx
  obtain ((((((⟨v, hv, rfl⟩ | ⟨v, hv, rfl⟩) | ⟨v, hv, rfl⟩) | ⟨v, hv, rfl⟩) | ⟨v, hv, rfl⟩) |
    ⟨v, hv, rfl⟩) | ⟨v, hv, rfl⟩) := hx
  · exact h.headerTableSize v hv
  · exact Nat.lt_of_le_of_lt (h.enablePush v hv) (by decide)
  · exact h.maxConcurrentStreams v hv
  · exact Nat.lt_of_le_of_lt (h.initialWindowSize v hv) (by decide)
  · exact Nat.lt_of_le_of_lt (h.maxFrameSize v hv).2 (by decide)
  · exact h.maxHeaderListSize v hv
  · exact Nat.lt_of_le_of_lt (h.enableConnectProtocol v hv) (by decide)

theorem loadChunks_flatMap {list : List Setting} (h : ∀ x ∈ list, x.val < 2 ^ 32) (s : Settings) :
    s.loadChunks (list.flatMap Setting.encode) = list.foldlM (fun s x => s.apply (some x)) s := by
  induction list generalizing s with
  | nil => rfl
  | cons x xs ih =>
    obtain ⟨a, b, c, d, e, f, henc⟩ : ∃ a b c d e f, x.encode = [a, b, c, d, e, f] :=
      ⟨_, _, _, _, _, _, rfl⟩
    have hload : Setting.load [a, b, c, d, e, f] = some x :=
      henc ▸ Setting.load_encode (h x List.mem_cons_self)
    rw [List.flatMap_cons, henc]
    simp only [List.cons_append, List.nil_append, loadChunks, hload, List.foldlM_cons]
    congr 1
    funext s
    exact ih (fun y hy => h y (List.mem_cons_of_mem _ hy)) s

theorem foldlM_toList (o : Option Nat) (mk : Nat → Setting) (set : Option Nat → Settings)
    (h : ∀ v ∈ o, (set none).apply (some (mk v)) = .ok (set (some v))) :
    (o.map mk).toList.foldlM (fun s x => s.apply (some x)) (set none) = .ok (set o) := by
  cases o with
  | none => rfl
  | some v => simpa using h v rfl

theorem foldlM_settings {s : Settings} (h : s.Valid) (hack : s.isAck = false) :
    s.settings.foldlM (fun s x => s.apply (some x)) Settings.default = .ok s := by
  obtain ⟨ack, table, push, streams, window, frame, list, connect⟩ := s
  obtain rfl : ack = false := hack
  have htable := foldlM_toList table .headerTableSize
    (⟨false, ·, none, none, none, none, none, none⟩) fun v _ => rfl
  have hpush := foldlM_toList push .enablePush
    (⟨false, table, ·, none, none, none, none, none⟩) fun v hv => if_pos (h.enablePush v hv)
  have hstreams := foldlM_toList streams .maxConcurrentStreams
    (⟨false, table, push, ·, none, none, none, none⟩) fun v _ => rfl
  have hwindow := foldlM_toList window .initialWindowSize
    (⟨false, table, push, streams, ·, none, none, none⟩)
    fun v hv => if_neg (Nat.not_lt.mpr (h.initialWindowSize v hv))
  have hframe := foldlM_toList frame .maxFrameSize
    (⟨false, table, push, streams, window, ·, none, none⟩) fun v hv => if_pos (h.maxFrameSize v hv)
  have hlist := foldlM_toList list .maxHeaderListSize
    (⟨false, table, push, streams, window, frame, ·, none⟩) fun v _ => rfl
  have hconnect := foldlM_toList connect .enableConnectProtocol
    (⟨false, table, push, streams, window, frame, list, ·⟩)
    fun v hv => if_pos (h.enableConnectProtocol v hv)
  simp only [settings, Settings.default, List.foldlM_append, htable, hpush, hstreams, hwindow,
    hframe, hlist, hconnect, bind, Except.bind]

theorem payloadLen_eq (s : Settings) : s.payloadLen = 6 * s.settings.length := by
  simp [payloadLen, Nat.mul_comm]

theorem Valid.load_payload {s : Settings} (h : s.Valid) (hack : s.isAck = false) :
    load s.head s.payload = .ok s := by
  have hhead : s.head.flag = 0 := by
    rw [Settings.head, hack]
    rfl
  have hlen : s.payload.length % 6 = 0 := by
    rw [length_payload, payloadLen_eq]
    exact Nat.mul_mod_right 6 _
  rw [load, if_neg (by simp [Settings.head]), hhead, if_neg (by decide),
    if_neg (by simpa using hlen), Settings.payload, loadChunks_flatMap (fun x hx => h.val_lt hx)]
  exact foldlM_settings h hack

theorem load_payload {head : Head} {payload : Bytes} {s : Settings}
    (h : load head payload = .ok s) : load s.head s.payload = .ok s := by
  simp only [load] at h
  split at h
  · cases h
  split at h
  · split at h
    · cases h
    · cases h
      rfl
  split at h
  · cases h
  obtain ⟨hvalid, hack⟩ := loadChunks_valid default_valid h
  exact hvalid.load_payload hack

theorem length_payload_le (s : Settings) : s.payload.length ≤ 42 := by
  have hone (o : Option Nat) (mk : Nat → Setting) : (o.map mk).toList.length ≤ 1 := by
    cases o <;> simp
  have h₁ := hone s.headerTableSize .headerTableSize
  have h₂ := hone s.enablePush .enablePush
  have h₃ := hone s.maxConcurrentStreams .maxConcurrentStreams
  have h₄ := hone s.initialWindowSize .initialWindowSize
  have h₅ := hone s.maxFrameSize .maxFrameSize
  have h₆ := hone s.maxHeaderListSize .maxHeaderListSize
  have h₇ := hone s.enableConnectProtocol .enableConnectProtocol
  have hlen : s.settings.length ≤ 7 := by
    simp only [settings, List.length_append]
    omega
  rw [length_payload, payloadLen_eq]
  omega

end Settings

/-! The frames of a fixed layout. -/

theorem Ping.load_payload (p : Ping) : load p.head p.payload.toList = .ok p := by
  have hflag : (p.head.flag &&& ACK != 0) = p.ack := by
    rw [Ping.head]
    cases p.ack <;> rfl
  rw [load, if_neg (by simp [Ping.head]), dif_pos (by simp), hflag]
  rfl

theorem GoAway.load_payload_of_lt {g : GoAway} (hid : g.lastStreamId < 2 ^ 31) (hcode : g.errorCode < 256 ^ 4) :
    load g.payload = .ok g := by
  obtain ⟨id, code, data⟩ := g
  have htake (n : Nat) (rest : Bytes) : (BigEndian.bytes 4 n ++ rest).take 4 = BigEndian.bytes 4 n :=
    List.take_left' (BigEndian.length_bytes _ _)
  have hdrop (n : Nat) (rest : Bytes) : (BigEndian.bytes 4 n ++ rest).drop 4 = rest :=
    List.drop_left' (BigEndian.length_bytes _ _)
  have hdrop8 (rest : Bytes) :
      (BigEndian.bytes 4 id ++ (BigEndian.bytes 4 code ++ rest)).drop 8 = rest := by
    rw [← List.drop_drop (i := 4) (j := 4), hdrop, hdrop]
  have hvalue : BigEndian.value (BigEndian.bytes 4 id) = id :=
    BigEndian.value_bytes_of_lt (Nat.lt_trans hid (by decide))
  rw [load, if_neg (by rw [GoAway.length_payload]; omega), GoAway.payload]
  simp only [List.append_assoc, htake, hdrop, hdrop8, hvalue, Nat.mod_eq_of_lt hid,
    BigEndian.value_bytes_of_lt hcode]

theorem GoAway.load_payload {payload : Bytes} {g : GoAway} (h : load payload = .ok g) :
    load g.payload = .ok g := by
  obtain ⟨-, heq⟩ | ⟨-, heq⟩ := ite_eq_iff.mp h <;> cases heq
  exact load_payload_of_lt (Nat.mod_lt _ (by decide)) (BigEndian.value_take_lt 4 _)

theorem GoAway.length_payload_load {payload : Bytes} {g : GoAway} (h : load payload = .ok g) :
    g.payload.length = payload.length := by
  obtain ⟨-, heq⟩ | ⟨hlen, heq⟩ := ite_eq_iff.mp h <;> cases heq
  rw [GoAway.length_payload, List.length_drop]
  omega

theorem WindowUpdate.load_payload_of_lt {w : WindowUpdate} (hpos : w.sizeIncrement ≠ 0)
    (hsize : w.sizeIncrement < 2 ^ 31) : load w.head (BigEndian.bytes 4 w.sizeIncrement) = .ok w := by
  have hvalue : BigEndian.value (BigEndian.bytes 4 w.sizeIncrement) = w.sizeIncrement :=
    BigEndian.value_bytes_of_lt (Nat.lt_trans hsize (by decide))
  rw [load, if_neg (by simp)]
  simp only [hvalue, Nat.mod_eq_of_lt hsize, if_neg hpos]
  rfl

theorem WindowUpdate.load_payload {head : Head} {payload : Bytes} {w : WindowUpdate}
    (h : load head payload = .ok w) :
    load w.head (BigEndian.bytes 4 w.sizeIncrement) = .ok w := by
  obtain ⟨-, heq⟩ | ⟨hlen, heq⟩ := ite_eq_iff.mp h
  · cases heq
  obtain ⟨-, heq⟩ | ⟨hpos, heq⟩ := ite_eq_iff.mp heq <;> cases heq
  exact load_payload_of_lt hpos (Nat.mod_lt _ (by decide))

theorem WindowUpdate.load_streamId {head : Head} {payload : Bytes} {w : WindowUpdate}
    (h : load head payload = .ok w) : w.streamId = head.streamId := by
  obtain ⟨-, heq⟩ | ⟨-, heq⟩ := ite_eq_iff.mp h
  · cases heq
  obtain ⟨-, heq⟩ | ⟨-, heq⟩ := ite_eq_iff.mp heq <;> cases heq
  rfl

theorem Reset.load_payload_of_lt {r : Reset} (hcode : r.errorCode < 256 ^ 4) :
    load r.head (BigEndian.bytes 4 r.errorCode) = .ok r := by
  rw [load, if_neg (by simp), BigEndian.value_bytes_of_lt hcode]
  rfl

theorem Reset.load_payload {head : Head} {payload : Bytes} {r : Reset}
    (h : load head payload = .ok r) : load r.head (BigEndian.bytes 4 r.errorCode) = .ok r := by
  obtain ⟨-, heq⟩ | ⟨hlen, heq⟩ := ite_eq_iff.mp h <;> cases heq
  have hcode : BigEndian.value payload < 256 ^ 4 := by
    have hlt := BigEndian.value_lt payload
    rwa [not_not.mp hlen] at hlt
  exact load_payload_of_lt hcode

theorem Reset.load_streamId {head : Head} {payload : Bytes} {r : Reset}
    (h : load head payload = .ok r) : r.streamId = head.streamId := by
  obtain ⟨-, heq⟩ | ⟨-, heq⟩ := ite_eq_iff.mp h <;> cases heq
  rfl

/-! DATA. -/

namespace Data

theorem load_streamId {id : Nat} {flags : UInt8} {payload : Bytes} {d : Data}
    (h : load id flags payload = some d) : d.streamId = id := by
  simp only [load, Option.ite_none_left_eq_some] at h
  obtain ⟨-, h⟩ := h
  obtain ⟨-, h⟩ | ⟨-, h⟩ := ite_eq_iff.mp h
  · obtain ⟨r, -, rfl⟩ := Option.map_eq_some_iff.mp h
    rfl
  · cases h
    rfl

theorem stripPadding_length {payload data : Bytes} {pad : UInt8}
    (h : stripPadding payload = some (data, pad)) : data.length < payload.length := by
  cases payload with
  | nil => cases h
  | cons b rest =>
    simp only [stripPadding, Option.ite_none_left_eq_some, Option.some.injEq, Prod.mk.injEq] at h
    rw [← h.2.1, List.length_take, List.length_cons]
    omega

theorem and_mask_padded (flags : UInt8) :
    flags &&& (END_STREAM ||| PADDED) &&& PADDED = flags &&& PADDED := by
  rw [UInt8.and_assoc]
  rfl

theorem load_unpadded {id : Nat} {flags : UInt8} {payload : Bytes} {d : Data}
    (hpad : flags &&& PADDED ≠ PADDED) (h : load id flags payload = some d) :
    d.data = payload ∧ load d.streamId d.flags d.data = some d := by
  have hmask := and_mask_padded flags
  simp only [load, hmask, beq_iff_eq, if_neg hpad, Option.ite_none_left_eq_some, Option.some.injEq]
    at h
  obtain ⟨hid, rfl⟩ := h
  refine ⟨rfl, ?_⟩
  simp only [load, UInt8.and_assoc, UInt8.and_self, beq_iff_eq, if_neg hid]
  rw [if_neg (by simpa [UInt8.and_assoc] using hmask ▸ hpad)]

/-- The padding of a frame that had some is not in `data`, and the flag still says it is. -/
theorem load_padded {id : Nat} {flags : UInt8} {payload : Bytes} {d : Data}
    (hpad : flags &&& PADDED = PADDED) (h : load id flags payload = some d) :
    load d.streamId d.flags d.data ≠ some d := by
  have hmask := (and_mask_padded flags).trans hpad
  simp only [load, hmask, beq_self_eq_true, if_true, Option.ite_none_left_eq_some,
    Option.map_eq_some_iff] at h
  obtain ⟨hid, r, -, rfl⟩ := h
  intro hload
  simp only [load, UInt8.and_assoc, UInt8.and_self, if_neg hid] at hload
  simp only [← UInt8.and_assoc, hmask, beq_self_eq_true, if_true, Option.map_eq_some_iff] at hload
  obtain ⟨r', hstrip, heq⟩ := hload
  have hlt := stripPadding_length hstrip
  have hdata : r'.1 = r.1 := congrArg Data.data heq
  rw [hdata] at hlt
  exact Nat.lt_irrefl _ hlt

end Data

section

variable [HeaderPlz]

namespace Codec.Frame

/-- The head and the payload of a frame without a header block; PRIORITY frames are not sent. -/
def raw : Frame → Option RawFrame
  | .data v => some ⟨v.head, v.data⟩
  | .settings v => some ⟨v.head, v.payload⟩
  | .ping v => some ⟨v.head, v.payload.toList⟩
  | .goAway v => some ⟨v.head, v.payload⟩
  | .windowUpdate v => some ⟨v.head, BigEndian.bytes 4 v.sizeIncrement⟩
  | .reset v => some ⟨v.head, BigEndian.bytes 4 v.errorCode⟩
  | .headers _ => none
  | .priority _ => none
  | .pushPromise _ => none

def encoded : Frame → Option Bytes
  | .data v => some v.encodeChunk
  | .settings v => some v.encode
  | .ping v => some v.encode
  | .goAway v => some v.encode
  | .windowUpdate v => some v.encode
  | .reset v => some v.encode
  | .headers _ => none
  | .priority _ => none
  | .pushPromise _ => none

theorem encoded_eq (f : Frame) : f.encoded = f.raw.map RawFrame.bytes := by
  cases f with
  | settings v => simp [encoded, raw, RawFrame.bytes, Settings.encode]
  | goAway v => simp [encoded, raw, RawFrame.bytes, GoAway.encode]
  | windowUpdate v => simp [encoded, raw, RawFrame.bytes, WindowUpdate.encode]
  | reset v => simp [encoded, raw, RawFrame.bytes, Reset.encode]
  | _ => rfl

def Loads (head : Head) (payload : Bytes) : Frame → Prop
  | .data v => head.kind = .data ∧ Data.load head.streamId head.flag payload = some v
  | .settings v => head.kind = .settings ∧ Settings.load head payload = .ok v
  | .ping v => head.kind = .ping ∧ Ping.load head payload = .ok v
  | .goAway v => head.kind = .goAway ∧ GoAway.load payload = .ok v
  | .windowUpdate v => head.kind = .windowUpdate ∧ WindowUpdate.load head payload = .ok v
  | .reset v => head.kind = .reset ∧ Reset.load head payload = .ok v
  | .headers _ => False
  | .priority _ => False
  | .pushPromise _ => False

def PaddedData (head : Head) : Prop := head.kind = .data ∧ head.flag &&& PADDED = PADDED

theorem Loads.again {f : Frame} {head : Head} {payload : Bytes} {raw : RawFrame}
    (h : f.Loads head payload) (hraw : f.raw = some raw) (hpad : ¬ PaddedData head)
    (hid : head.streamId < 2 ^ 31) (hlen : payload.length < 2 ^ 24) :
    f.Loads raw.head raw.payload ∧ raw.head.streamId < 2 ^ 31 ∧ raw.payload.length < 2 ^ 24 := by
  cases f with
  | data v =>
    cases hraw
    obtain ⟨hdata, hload⟩ := Data.load_unpadded (fun hflag => hpad ⟨h.1, hflag⟩) h.2
    exact ⟨⟨rfl, hload⟩, (Data.load_streamId h.2).trans_lt hid, hdata.symm ▸ hlen⟩
  | settings v =>
    cases hraw
    have hle := v.length_payload_le
    exact ⟨⟨rfl, Settings.load_payload h.2⟩, by simp [Settings.head],
      Nat.lt_of_le_of_lt hle (by decide)⟩
  | ping v =>
    cases hraw
    exact ⟨⟨rfl, v.load_payload⟩, by simp [Ping.head], by simp⟩
  | goAway v =>
    cases hraw
    exact ⟨⟨rfl, GoAway.load_payload h.2⟩, by simp [GoAway.head],
      (GoAway.length_payload_load h.2).symm ▸ hlen⟩
  | windowUpdate v =>
    cases hraw
    exact ⟨⟨rfl, WindowUpdate.load_payload h.2⟩, (WindowUpdate.load_streamId h.2).trans_lt hid,
      by simp⟩
  | reset v =>
    cases hraw
    exact ⟨⟨rfl, Reset.load_payload h.2⟩, (Reset.load_streamId h.2).trans_lt hid, by simp⟩
  | headers v => cases h
  | priority v => cases h
  | pushPromise v => cases h

theorem Loads.not_again {f : Frame} {head head' : Head} {payload : Bytes} {raw : RawFrame}
    (h : f.Loads head payload) (hraw : f.raw = some raw) (hpad : PaddedData head)
    (hid : head.streamId < 2 ^ 31) (hparse : Head.parse raw.bytes = some head') :
    ¬ f.Loads head' raw.payload := by
  intro hagain
  cases f with
  | data v =>
    cases hraw
    have hparse' : Head.parse (RawFrame.bytes ⟨v.head, v.data⟩) = some v.head :=
      Head.parse_encode ((Data.load_streamId h.2).trans_lt hid) _ _
    obtain rfl : v.head = head' := Option.some.inj (hparse'.symm.trans hparse)
    exact Data.load_padded hpad.2 h.2 hagain.2
  | headers v => cases h
  | priority v => cases h
  | pushPromise v => cases h
  | _ v => cases h.1.symm.trans hpad.1

end Codec.Frame

namespace Codec.FramedRead

theorem ofLoad_ok {α : Type} {r r' : FramedRead} {into : α → Frame} {res : Except FrameError α}
    {f : Frame} (h : r.ofLoad into res = some (.ok (some f), r')) :
    r' = r ∧ ∃ v, f = into v ∧ res = .ok v := by
  cases res with
  | error e => simp [ofLoad] at h
  | ok v =>
    simp only [ofLoad, Option.some.injEq, Prod.mk.injEq, Except.ok.injEq] at h
    exact ⟨h.2.symm, v, h.1.symm, rfl⟩

theorem loadHpack_raw {r r' : FramedRead} {head : Head} {frame : Continuable} {buf : Bytes}
    {count : Nat} {isEndHeaders : Bool} {done : Continuable → Frame} {f : Frame}
    (hdone : ∀ c, (done c).raw = none)
    (h : r.loadHpack head frame buf count isEndHeaders done = some (.ok (some f), r')) :
    f.raw = none := by
  simp only [loadHpack, Option.bind_eq_bind, Option.bind_eq_some_iff, Option.some.injEq] at h
  obtain ⟨⟨res, block, left, hpack⟩, -, h⟩ := h
  have hloaded {a : Frame} {b : FramedRead}
      (h : (if isEndHeaders then
          (Except.ok (some (done (frame.setBlock block))), { r with hpack := hpack })
        else (Except.ok none, { r with hpack, partial' := some ⟨frame.setBlock block, left, count⟩ }) :
          Except ProtoError (Option Frame) × FramedRead) = (.ok (some a), b)) : a.raw = none := by
    obtain ⟨-, heq⟩ | ⟨-, heq⟩ := ite_eq_iff.mp h <;> cases heq
    exact hdone _
  split at h
  · exact hloaded h
  · obtain ⟨-, heq⟩ | ⟨-, heq⟩ := ite_eq_iff.mp h
    · exact hloaded heq
    · cases heq
  · cases h
  · cases h

theorem headerBlock_raw {r r' : FramedRead} {head : Head}
    {loaded : Except FrameError (Continuable × Bytes)} {f : Frame}
    (h : r.headerBlock head loaded = some (.ok (some f), r')) : f.raw = none := by
  unfold headerBlock at h
  split at h
  · cases h
  · cases h
  · exact loadHpack_raw (fun c => by cases c <;> rfl) h

theorem continuation_raw {r r' : FramedRead} {head : Head} {payload : Bytes} {f : Frame}
    (h : r.continuation head payload = some (.ok (some f), r')) : f.raw = none := by
  simp only [continuation] at h
  split at h
  · cases h
  obtain ⟨-, heq⟩ | ⟨-, h⟩ := ite_eq_iff.mp h
  · cases heq
  obtain ⟨-, heq⟩ | ⟨-, h⟩ := ite_eq_iff.mp h
  · cases heq
  obtain ⟨-, heq⟩ | ⟨-, h⟩ := ite_eq_iff.mp h
  · cases heq
  exact loadHpack_raw (fun c => by cases c <;> rfl) h

theorem decodeFrame_ok {r r' : FramedRead} {bytes : Bytes} {f : Frame} {raw : RawFrame}
    (hraw : f.raw = some raw) (h : r.decodeFrame bytes = some (.ok (some f), r')) :
    r' = r ∧ ∃ head, Head.parse bytes = some head ∧ f.Loads head (bytes.drop HEADER_LEN) := by
  simp only [decodeFrame, Option.bind_eq_bind, Option.bind_eq_some_iff] at h
  obtain ⟨head, hhead, h⟩ := h
  obtain ⟨-, heq⟩ | ⟨-, h⟩ := ite_eq_iff.mp h
  · cases heq
  have hnone {α : Prop} (h : f.raw = none) : α := by
    rw [hraw] at h
    cases h
  suffices hloads : r' = r ∧ f.Loads head (bytes.drop HEADER_LEN) from
    ⟨hloads.1, head, hhead, hloads.2⟩
  cases hkind : head.kind <;> simp only [hkind] at h
  case settings | ping | windowUpdate | reset | goAway =>
    obtain ⟨hr, v, rfl, hv⟩ := ofLoad_ok h
    exact ⟨hr, hkind, hv⟩
  case data =>
    split at h <;> cases h
    exact ⟨rfl, hkind, by assumption⟩
  case headers | pushPromise => exact hnone (headerBlock_raw h)
  case priority =>
    obtain ⟨-, heq⟩ | ⟨-, h⟩ := ite_eq_iff.mp h
    · cases heq
    split at h <;> cases h
    exact hnone rfl
  case continuation => exact hnone (continuation_raw h)
  case unknown => cases h

theorem decodeFrame_loads {r : FramedRead} (hrest : r.partial' = none) {bytes : Bytes}
    {head : Head} {f : Frame} (hhead : Head.parse bytes = some head)
    (h : f.Loads head (bytes.drop HEADER_LEN)) :
    r.decodeFrame bytes = some (.ok (some f), r) := by
  cases f with
  | headers v => cases h
  | priority v => cases h
  | pushPromise v => cases h
  | _ v => simp [decodeFrame, hhead, hrest, h.1, h.2, ofLoad]

/-- A frame without a header block that was read is read again from what `encode` writes for it,
unless it is a DATA frame that came with padding. -/
theorem decodeFrame_encoded (r r' : FramedRead) (bytes : Bytes) (f : Frame) (out : Bytes)
    (hframed : Framed bytes) (h : r.decodeFrame bytes = some (.ok (some f), r'))
    (hout : f.encoded = some out) :
    ((∀ q : FramedRead, q.partial' = none → q.decodeFrame out = some (.ok (some f), q)) ∧
        Framed out) ↔
      ∀ head, Head.parse bytes = some head → ¬ Frame.PaddedData head := by
  rw [Frame.encoded_eq, Option.map_eq_some_iff] at hout
  obtain ⟨raw, hraw, rfl⟩ := hout
  obtain ⟨-, head, hhead, hloads⟩ := decodeFrame_ok hraw h
  have hid := Head.parse_streamId_lt hhead
  have hdrop : raw.bytes.drop HEADER_LEN = raw.payload := Head.drop_encode _ _ _
  constructor
  · rintro ⟨hdecode, -⟩ head' hhead' hpad
    obtain rfl : head' = head := Option.some.inj (hhead'.symm.trans hhead)
    obtain ⟨-, head, hparse, hagain⟩ := decodeFrame_ok hraw (hdecode { r with partial' := none } rfl)
    exact hloads.not_again hraw hpad hid hparse (hdrop ▸ hagain)
  · intro hpad
    obtain ⟨hagain, hid', hlen⟩ := hloads.again hraw (hpad head hhead) hid hframed.length_drop_lt
    refine ⟨fun q hq => decodeFrame_loads hq (Head.parse_encode hid' _ _) ?_, RawFrame.framed hlen⟩
    exact hdrop.symm ▸ hagain

end Codec.FramedRead

end

section

attribute [local instance] plain

open Codec

theorem decodeFrame_encoded_settings :
    ∃ f out, Framed [0, 0, 6, 4, 0, 0, 0, 0, 0, 0, 4, 0, 1, 0, 0] ∧
      (FramedRead.new 16384).decodeFrame [0, 0, 6, 4, 0, 0, 0, 0, 0, 0, 4, 0, 1, 0, 0] =
        some (.ok (some f), FramedRead.new 16384) ∧
      f.encoded = some out ∧ Framed out ∧
      (FramedRead.new 16384).decodeFrame out = some (.ok (some f), FramedRead.new 16384) := by
  let f : Codec.Frame := .settings { Settings.default with initialWindowSize := some 65536 }
  have hframed : Framed [0, 0, 6, 4, 0, 0, 0, 0, 0, 0, 4, 0, 1, 0, 0] := by decide
  have hdecode : (FramedRead.new 16384).decodeFrame [0, 0, 6, 4, 0, 0, 0, 0, 0, 0, 4, 0, 1, 0, 0] =
      some (.ok (some f), FramedRead.new 16384) :=
    FramedRead.decodeFrame_loads rfl rfl ⟨rfl, by decide +kernel⟩
  have hpad : ∀ head, Head.parse [0, 0, 6, 4, 0, 0, 0, 0, 0, 0, 4, 0, 1, 0, 0] = some head →
      ¬ Codec.Frame.PaddedData head := by
    rintro head hhead ⟨hkind, -⟩
    cases hhead
    cases hkind
  obtain ⟨hagain, hout⟩ := (FramedRead.decodeFrame_encoded _ _ _ f _ hframed hdecode rfl).mpr hpad
  exact ⟨f, _, hframed, hdecode, rfl, hout, hagain _ rfl⟩

/-- One byte of data with padding of length zero: the flag is kept and the length of the padding is
not, so that the byte is read as the length of a padding that is not there. -/
theorem decodeFrame_encoded_padded :
    ∃ f out, Framed [0, 0, 2, 0, 8, 0, 0, 0, 1, 0, 7] ∧
      (FramedRead.new 16384).decodeFrame [0, 0, 2, 0, 8, 0, 0, 0, 1, 0, 7] =
        some (.ok (some f), FramedRead.new 16384) ∧
      f.encoded = some out ∧
      (FramedRead.new 16384).decodeFrame out =
        some (.error (ProtoError.libraryGoAway Reason.PROTOCOL_ERROR), FramedRead.new 16384) :=
  ⟨.data ⟨1, [7], 8, some 0⟩, [0, 0, 1, 0, 8, 0, 0, 0, 1, 7], by decide, rfl, rfl, rfl⟩

end

end TwoPlz
