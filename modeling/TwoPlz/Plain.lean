import TwoPlz.Connection

/-! An instance of the external crates to run the model with: methods are their bytes, status codes
their three digits and header maps lists. -/

namespace TwoPlz

def plainStatus : Bytes → Option Nat
  | [a, b, c] =>
    if [a, b, c].all (fun d => 48 ≤ d && d ≤ 57) && 49 ≤ a then
      some (100 * (a.toNat - 48) + 10 * (b.toNat - 48) + (c.toNat - 48))
    else none
  | _ => none

def plainStatusStr (n : Nat) : Bytes :=
  [UInt8.ofNat (n / 100 % 10 + 48), UInt8.ofNat (n / 10 % 10 + 48), UInt8.ofNat (n % 10 + 48)]

def plainConst : ConstHeader → String
  | .acceptCharset => "accept-charset" | .acceptEncoding => "accept-encoding"
  | .acceptLanguage => "accept-language" | .acceptRanges => "accept-ranges" | .accept => "accept"
  | .accessControlAllowOrigin => "access-control-allow-origin" | .age => "age" | .allow => "allow"
  | .authorization => "authorization" | .cacheControl => "cache-control"
  | .contentDisposition => "content-disposition" | .contentEncoding => "content-encoding"
  | .contentLanguage => "content-language" | .contentLength => "content-length"
  | .contentLocation => "content-location" | .contentRange => "content-range"
  | .contentType => "content-type" | .cookie => "cookie" | .date => "date" | .etag => "etag"
  | .expect => "expect" | .expires => "expires" | .from => "from" | .host => "host"
  | .ifMatch => "if-match" | .ifModifiedSince => "if-modified-since"
  | .ifNoneMatch => "if-none-match" | .ifRange => "if-range"
  | .ifUnmodifiedSince => "if-unmodified-since" | .lastModified => "last-modified"
  | .link => "link" | .location => "location" | .maxForwards => "max-forwards"
  | .proxyAuthenticate => "proxy-authenticate" | .proxyAuthorization => "proxy-authorization"
  | .range => "range" | .referer => "referer" | .refresh => "refresh"
  | .retryAfter => "retry-after" | .server => "server" | .setCookie => "set-cookie"
  | .strictTransportSecurity => "strict-transport-security"
  | .transferEncoding => "transfer-encoding" | .userAgent => "user-agent" | .vary => "vary"
  | .via => "via" | .wwwAuthenticate => "www-authenticate" | .connection => "connection"
  | .upgrade => "upgrade" | .te => "te"

def plainLower (c : UInt8) : UInt8 := if 0x41 ≤ c && c ≤ 0x5a then c + 0x20 else c

def plainReplacement : Bytes := [0xEF, 0xBF, 0xBD]

def plainLossy (c : UInt8) : Bytes := if c ≤ 0x7F then [plainLower c] else plainReplacement

def plainName (name : Bytes) : Bytes :=
  if validUtf8 name then name.map plainLower else name.flatMap plainLossy

theorem plainLower_of_lt {c : UInt8} (h : ¬c ≤ 0x7F) : plainLower c = c := by
  unfold plainLower
  split
  · rename_i hletter
    simp only [Bool.and_eq_true, decide_eq_true_eq, UInt8.le_iff_toNat_le] at *
    exact absurd (Nat.le_trans hletter.2 (by decide)) h
  · rfl

theorem plainLower_le {c : UInt8} (h : c ≤ 0x7F) : plainLower c ≤ 0x7F := by
  unfold plainLower
  split
  · rename_i hletter
    simp only [Bool.and_eq_true, decide_eq_true_eq, UInt8.le_iff_toNat_le, UInt8.toNat_add] at *
    have h2 : c.toNat ≤ 0x5a := hletter.2
    change (c.toNat + 32) % 256 ≤ 127
    omega
  · exact h

theorem plainLower_eq_colon {c : UInt8} (h : plainLower c = 0x3a) : c = 0x3a := by
  unfold plainLower at h
  split at h
  · rename_i hletter
    simp only [Bool.and_eq_true, decide_eq_true_eq, UInt8.le_iff_toNat_le] at hletter
    have hnat := congrArg UInt8.toNat h
    rw [UInt8.toNat_add] at hnat
    change (c.toNat + 32) % 256 = 58 at hnat
    change 65 ≤ c.toNat ∧ c.toNat ≤ 90 at hletter
    omega
  · exact h

theorem lossy_length_le (bytes : Bytes) : (bytes.flatMap plainLossy).length ≤ 3 * bytes.length := by
  induction bytes with
  | nil => exact Nat.le_refl 0
  | cons c bytes ih =>
    have hc : (plainLossy c).length ≤ 3 := by
      unfold plainLossy
      split
      · exact Nat.le_add_left 1 2
      · exact Nat.le_refl 3
    rw [List.flatMap_cons, List.length_append, List.length_cons]
    omega

theorem not_le_of_between {b lo hi : UInt8} (hlo : 0x80 ≤ lo) (h : (lo ≤ b && b ≤ hi) = true) :
    ¬b ≤ 0x7F := by
  simp only [Bool.and_eq_true, decide_eq_true_eq, UInt8.le_iff_toNat_le] at *
  change ¬b.toNat ≤ 127
  change 128 ≤ lo.toNat at hlo
  omega

theorem validUtf8_map_plainLower {bytes : Bytes} (h : validUtf8 bytes = true) :
    validUtf8 (bytes.map plainLower) = true := by
  have second : ∀ {a b x lo hi lo' hi' : UInt8} {y : UInt8}, 0x80 ≤ lo → 0x80 ≤ lo' →
      (if a == x then decide (lo ≤ b) && decide (b ≤ hi)
        else if a == y then decide (lo' ≤ b) && decide (b ≤ hi') else isCont b) = true → ¬b ≤ 0x7F := by
    intro a b x lo hi lo' hi' y hlo hlo' hb
    split at hb
    · exact not_le_of_between hlo hb
    · split at hb
      · exact not_le_of_between hlo' hb
      · exact not_le_of_between (by decide) hb
  fun_induction validUtf8 bytes with
  | case1 => rfl
  | case2 a bs ha ih =>
    unfold validUtf8
    simpa [plainLower_le ha] using ih h
  | case3 a ha b cs htwo ih =>
    rw [Bool.and_eq_true] at h
    have hb := not_le_of_between (by decide) h.1
    unfold validUtf8
    simpa [plainLower_of_lt ha, plainLower_of_lt hb, ha, htwo] using ⟨h.1, ih h.2⟩
  | case4 a ha b htwo c ds hthree ih =>
    obtain ⟨hbc, hds⟩ := (Bool.and_eq_true ..).mp h
    obtain ⟨hb, hc⟩ := (Bool.and_eq_true ..).mp hbc
    have hb' := second (by decide) (by decide) hb
    have hc' := not_le_of_between (by decide) hc
    unfold validUtf8
    simp only [List.map_cons, plainLower_of_lt ha, plainLower_of_lt hb', plainLower_of_lt hc', if_neg ha,
      if_neg htwo, if_pos hthree, hb, hc, ih hds, Bool.and_self]
  | case5 a ha b htwo c hthree d es hfour ih =>
    obtain ⟨hbcd, hes⟩ := (Bool.and_eq_true ..).mp h
    obtain ⟨hbc, hd⟩ := (Bool.and_eq_true ..).mp hbcd
    obtain ⟨hb, hc⟩ := (Bool.and_eq_true ..).mp hbc
    have hb' := second (by decide) (by decide) hb
    have hc' := not_le_of_between (by decide) hc
    have hd' := not_le_of_between (by decide) hd
    unfold validUtf8
    simp only [List.map_cons, plainLower_of_lt ha, plainLower_of_lt hb', plainLower_of_lt hc', plainLower_of_lt hd',
      if_neg ha, if_neg htwo, if_neg hthree, if_pos hfour, hb, hc, hd, ih hes, Bool.and_self]
  | case6 | case7 | case8 | case9 => cases h

theorem validUtf8_lossy (bytes : Bytes) : validUtf8 (bytes.flatMap plainLossy) = true := by
  induction bytes with
  | nil => rfl
  | cons c bytes ih =>
    rw [List.flatMap_cons, plainLossy]
    split
    · rename_i hc
      unfold validUtf8
      simpa [plainLower_le hc] using ih
    · unfold validUtf8
      exact ih

def plainUriByte (c : UInt8) : Bool := 0x21 ≤ c && c ≤ 0x7E

@[reducible] def plain : HeaderPlz where
  Method := Bytes
  decEqMethod := inferInstance
  methodFrom := id
  methodAsRef := id
  GET := ascii "GET"
  POST := ascii "POST"
  HEAD := ascii "HEAD"
  OPTIONS := ascii "OPTIONS"
  CONNECT := ascii "CONNECT"
  StatusCode := Nat
  decEqStatusCode := inferInstance
  statusFromBytes := plainStatus
  statusAsStr := plainStatusStr
  statusToU16 := id
  statusIsInformational n := decide (100 ≤ n) && decide (n < 200)
  OK := 200
  NO_CONTENT := 204
  PARTIAL_CONTENT := 206
  NOT_MODIFIED := 304
  BAD_REQUEST := 400
  NOT_FOUND := 404
  INTERNAL_SERVER_ERROR := 500
  REQUEST_HEADER_FIELDS_TOO_LARGE := 431
  Scheme := Bytes
  schemeTryFrom s := some s
  schemeAsStr := id
  HTTP := ascii "http"
  Uri := Option Bytes × Option Bytes × Option Bytes
  uriBuild authority scheme path :=
    if (authority.getD []).all plainUriByte && (path.getD []).all plainUriByte then
      some (authority, scheme, path)
    else none
  uriScheme u := u.2.1
  uriAuthority u := u.1
  uriPathAndQuery u := u.2.2.getD []
  responseBuild _ := true
  constHeader c := ascii (plainConst c)
  HeaderMap := List (Bytes × Bytes)
  decEqHeaderMap := inferInstance
  MapHeader := Bytes × Bytes
  mapNew := []
  mapIsEmpty fields := fields.isEmpty
  mapInsert fields name value := fields ++ [(plainName name, value)]
  mapIter fields := fields
  headerLen header := header.1.length + header.2.length
  headerIntoInner header := header
  hasKey fields name := fields.any (·.1 == name)
  valueOfKey fields name := (fields.find? (·.1 == name)).map (·.2)

/-- The same with the status codes of three digits only. -/
@[reducible] def plainCodes : HeaderPlz where
  __ := plain
  StatusCode := {code : Nat // 100 ≤ code ∧ code < 1000}
  decEqStatusCode := inferInstance
  statusFromBytes bytes := (plainStatus bytes).bind fun code =>
    if h : 100 ≤ code ∧ code < 1000 then some ⟨code, h⟩ else none
  statusAsStr code := plainStatusStr code.1
  statusToU16 code := code.1
  statusIsInformational code := decide (code.1 < 200)
  OK := ⟨200, by decide⟩
  NO_CONTENT := ⟨204, by decide⟩
  PARTIAL_CONTENT := ⟨206, by decide⟩
  NOT_MODIFIED := ⟨304, by decide⟩
  BAD_REQUEST := ⟨400, by decide⟩
  NOT_FOUND := ⟨404, by decide⟩
  INTERNAL_SERVER_ERROR := ⟨500, by decide⟩
  REQUEST_HEADER_FIELDS_TOO_LARGE := ⟨431, by decide⟩
  responseBuild _ := true

section

attribute [local instance] plainCodes

@[simp] theorem plainCodes_entries (map : HeaderMap) : map.entries = map := List.map_id map

theorem plainCodes_maps : HeaderMaps plainName where
  new := rfl
  isEmpty map := by
    rw [plainCodes_entries]
    rfl
  insert map name value := by
    rw [plainCodes_entries, plainCodes_entries]
    rfl

end

section

attribute [local instance] plain

def plainRequest (body : Option Bytes) : Request where
  method := HeaderPlz.POST
  protocol := none
  uri := (some (ascii "a"), some (ascii "http"), some (ascii "/"))
  headers := []
  body := body
  trailers := none

def plainHeaders (id : Nat) : Headers :=
  Headers.new id (plainRequest none).intoPseudo []

def plainConfig : ConnectionConfig where
  initialConnectionWindowSize := none
  localMaxErrorResetStreams := none
  localResetStreamMax := 10
  remoteResetStreamMax := 10
  resetStreamDuration := 30
  localSettings := Settings.default
  peerSettings := Settings.default
  maxRecvBufferSize := 1000
  spaTracker := none

end

end TwoPlz
