import TwoPlz.Frame

/-! The headers of HPACK (`hpack/header.rs`) and the static table of its decoder. -/

namespace TwoPlz.Hpack

inductive NeedMore : Type
  | unexpectedEndOfStream | integerUnderflow | stringUnderflow
  deriving DecidableEq

inductive DecoderError : Type
  | invalidRepresentation | invalidIntegerPrefix | invalidTableIndex | invalidHuffmanCode
  | invalidUtf8 | invalidStatusCode | invalidPseudoheader | invalidMaxDynamicSize | integerOverflow
  | needMore (n : NeedMore)
  deriving DecidableEq

variable [HeaderPlz]

inductive Header : Type
  | field (name value : Bytes)
  | authority (value : Bytes)
  | method (value : HeaderPlz.Method)
  | scheme (value : Bytes)
  | path (value : Bytes)
  | protocol (value : Bytes)
  | status (value : HeaderPlz.StatusCode)
  deriving DecidableEq

inductive Name : Type
  | field (name : Bytes)
  | authority | method | scheme | path | protocol | status
  deriving DecidableEq

omit [HeaderPlz] in
def tryFrom (value : Bytes) : Except DecoderError Bytes :=
  if validUtf8 value then .ok value else .error .invalidUtf8

namespace Header

def new (name value : Bytes) : Except DecoderError Header :=
  match name with
  | [] => .error (.needMore .unexpectedEndOfStream)
  | first :: rest =>
    -- a colon
    if first == 0x3a then
      if rest = ascii "authority" then (tryFrom value).map .authority
      else if rest = ascii "method" then .ok (.method (HeaderPlz.methodFrom value))
      else if rest = ascii "scheme" then (tryFrom value).map .scheme
      else if rest = ascii "path" then (tryFrom value).map .path
      else if rest = ascii "protocol" then (tryFrom value).map .protocol
      else if rest = ascii "status" then
        match HeaderPlz.statusFromBytes value with
        | some code => .ok (.status code)
        | none => .error .invalidUtf8
      else .error .invalidPseudoheader
    else .ok (.field name value)

def len : Header → Nat
  | .field name value => 32 + name.length + value.length
  | .authority v => 32 + 10 + v.length
  | .method v => 32 + 7 + (HeaderPlz.methodAsRef v).length
  | .scheme v => 32 + 7 + v.length
  | .path v => 32 + 5 + v.length
  | .protocol v => 32 + 9 + v.length
  | .status _ => 32 + 7 + 3

def name : Header → Name
  | .field name _ => .field name
  | .authority _ => .authority
  | .method _ => .method
  | .scheme _ => .scheme
  | .path _ => .path
  | .protocol _ => .protocol
  | .status _ => .status

end Header

def Name.intoEntry (name : Name) (value : Bytes) : Except DecoderError Header :=
  match name with
  | .field name => .ok (.field name value)
  | .authority => (tryFrom value).map .authority
  | .method => .ok (.method (HeaderPlz.methodFrom value))
  | .scheme => (tryFrom value).map .scheme
  | .path => (tryFrom value).map .path
  | .protocol => (tryFrom value).map .protocol
  | .status =>
    match HeaderPlz.statusFromBytes value with
    | some code => .ok (.status code)
    | none => .error .invalidStatusCode

def staticNames : List ConstHeader :=
  [.acceptCharset, .acceptEncoding, .acceptLanguage, .acceptRanges, .accept,
    .accessControlAllowOrigin, .age, .allow, .authorization, .cacheControl, .contentDisposition,
    .contentEncoding, .contentLanguage, .contentLength, .contentLocation, .contentRange, .contentType,
    .cookie, .date, .etag, .expect, .expires, .from, .host, .ifMatch, .ifModifiedSince, .ifNoneMatch,
    .ifRange, .ifUnmodifiedSince, .lastModified, .link, .location, .maxForwards, .proxyAuthenticate,
    .proxyAuthorization, .range, .referer, .refresh, .retryAfter, .server, .setCookie,
    .strictTransportSecurity, .transferEncoding, .userAgent, .vary, .via, .wwwAuthenticate]

/-- `none` is the `unreachable!`. -/
def getStatic (idx : Nat) : Option Header :=
  match idx with
  | 0 => none
  | 1 => some (.authority [])
  | 2 => some (.method HeaderPlz.GET)
  | 3 => some (.method HeaderPlz.POST)
  | 4 => some (.path (ascii "/"))
  | 5 => some (.path (ascii "/index.html"))
  | 6 => some (.scheme (ascii "http"))
  | 7 => some (.scheme (ascii "https"))
  | 8 => some (.status HeaderPlz.OK)
  | 9 => some (.status HeaderPlz.NO_CONTENT)
  | 10 => some (.status HeaderPlz.PARTIAL_CONTENT)
  | 11 => some (.status HeaderPlz.NOT_MODIFIED)
  | 12 => some (.status HeaderPlz.BAD_REQUEST)
  | 13 => some (.status HeaderPlz.NOT_FOUND)
  | 14 => some (.status HeaderPlz.INTERNAL_SERVER_ERROR)
  | n + 15 =>
    staticNames[n]?.map fun name =>
      .field (HeaderPlz.constHeader name) (if name = .acceptEncoding then ascii "gzip, deflate" else [])

theorem getStatic_isSome {idx : Nat} (hpos : idx ≠ 0) (hmax : idx ≤ 61) :
    ∃ h, getStatic idx = some h := by
  match idx with
  | 0 => exact absurd rfl hpos
  | 1 | 2 | 3 | 4 | 5 | 6 | 7 | 8 | 9 | 10 | 11 | 12 | 13 | 14 => exact ⟨_, rfl⟩
  | n + 15 =>
    have hn : n < staticNames.length := by
      rw [show staticNames.length = 47 from rfl]
      omega
    exact ⟨_, by rw [getStatic, List.getElem?_eq_getElem hn]; rfl⟩

end TwoPlz.Hpack
