import Mathlib

/-! What this crate uses of `header_plz` and `http_plz`.  Their sources are not part of the
repository, so they are a parameter of the model. -/

namespace TwoPlz

abbrev Bytes := List UInt8

def ascii (s : String) : Bytes := s.toList.map fun c => UInt8.ofNat c.toNat

def eqIgnoreAsciiCase (a b : Bytes) : Bool :=
  let lower (c : UInt8) : UInt8 := if 0x41 ≤ c && c ≤ 0x5a then c + 0x20 else c
  a.map lower == b.map lower

def isCont (b : UInt8) : Bool := 0x80 ≤ b && b ≤ 0xBF

/-- `std::str::from_utf8(bytes).is_ok()`, by the table of well-formed byte sequences. -/
def validUtf8 : Bytes → Bool
  | [] => true
  | a :: bs =>
    if a ≤ 0x7F then validUtf8 bs
    else
      match bs with
      | b :: cs =>
        if 0xC2 ≤ a && a ≤ 0xDF then isCont b && validUtf8 cs
        else
          match cs with
          | c :: ds =>
            if 0xE0 ≤ a && a ≤ 0xEF then
              (if a == 0xE0 then 0xA0 ≤ b && b ≤ 0xBF
               else if a == 0xED then 0x80 ≤ b && b ≤ 0x9F else isCont b)
                && isCont c && validUtf8 ds
            else
              match ds with
              | d :: es =>
                if 0xF0 ≤ a && a ≤ 0xF4 then
                  (if a == 0xF0 then 0x90 ≤ b && b ≤ 0xBF
                   else if a == 0xF4 then 0x80 ≤ b && b ≤ 0x8F else isCont b)
                    && isCont c && isCont d && validUtf8 es
                else false
              | [] => false
          | [] => false
      | [] => false

inductive ConstHeader : Type
  | acceptCharset | acceptEncoding | acceptLanguage | acceptRanges | accept
  | accessControlAllowOrigin | age | allow | authorization | cacheControl
  | contentDisposition | contentEncoding | contentLanguage | contentLength | contentLocation
  | contentRange | contentType | cookie | date | etag | expect | expires | from | host | ifMatch
  | ifModifiedSince | ifNoneMatch | ifRange | ifUnmodifiedSince | lastModified | link | location
  | maxForwards | proxyAuthenticate | proxyAuthorization | range | referer | refresh | retryAfter
  | server | setCookie | strictTransportSecurity | transferEncoding | userAgent | vary | via
  | wwwAuthenticate | connection | upgrade | te
  deriving DecidableEq

class HeaderPlz where
  Method : Type
  decEqMethod : DecidableEq Method
  methodFrom : Bytes → Method
  methodAsRef : Method → Bytes
  GET : Method
  POST : Method
  HEAD : Method
  OPTIONS : Method
  CONNECT : Method
  StatusCode : Type
  decEqStatusCode : DecidableEq StatusCode
  statusFromBytes : Bytes → Option StatusCode
  statusAsStr : StatusCode → Bytes
  statusToU16 : StatusCode → Nat
  statusIsInformational : StatusCode → Bool
  OK : StatusCode
  NO_CONTENT : StatusCode
  PARTIAL_CONTENT : StatusCode
  NOT_MODIFIED : StatusCode
  BAD_REQUEST : StatusCode
  NOT_FOUND : StatusCode
  INTERNAL_SERVER_ERROR : StatusCode
  REQUEST_HEADER_FIELDS_TOO_LARGE : StatusCode
  Scheme : Type
  schemeTryFrom : Bytes → Option Scheme
  schemeAsStr : Scheme → Bytes
  HTTP : Scheme
  Uri : Type
  uriBuild : Option Bytes → Option Scheme → Option Bytes → Option Uri
  uriScheme : Uri → Option Scheme
  uriAuthority : Uri → Option Bytes
  uriPathAndQuery : Uri → Bytes
  /-- Whether `Response::builder().build()` succeeds for this `:status`. -/
  responseBuild : Option StatusCode → Bool
  constHeader : ConstHeader → Bytes
  HeaderMap : Type
  decEqHeaderMap : DecidableEq HeaderMap
  /-- `Header`, of which a map consists. -/
  MapHeader : Type
  mapNew : HeaderMap
  mapIsEmpty : HeaderMap → Bool
  mapInsert : HeaderMap → Bytes → Bytes → HeaderMap
  mapIter : HeaderMap → List MapHeader
  headerLen : MapHeader → Nat
  headerIntoInner : MapHeader → Bytes × Bytes
  hasKey : HeaderMap → Bytes → Bool
  valueOfKey : HeaderMap → Bytes → Option Bytes

instance [HeaderPlz] : DecidableEq HeaderPlz.Method := HeaderPlz.decEqMethod

instance [HeaderPlz] : DecidableEq HeaderPlz.StatusCode := HeaderPlz.decEqStatusCode

instance [HeaderPlz] : DecidableEq HeaderPlz.HeaderMap := HeaderPlz.decEqHeaderMap

section

variable [HeaderPlz]

abbrev HeaderMap : Type := HeaderPlz.HeaderMap

/-- The names and the values in a map, as `into_inner` returns them. -/
def HeaderMap.entries (map : HeaderMap) : List (Bytes × Bytes) :=
  (HeaderPlz.mapIter map).map HeaderPlz.headerIntoInner

/-- What is relied on of a map: an insertion puts the value, as it is, under what `storedName` makes of
the name, behind the fields that are there. -/
structure HeaderMaps (storedName : Bytes → Bytes) : Prop where
  new : HeaderMap.entries HeaderPlz.mapNew = []
  isEmpty : ∀ map : HeaderMap, HeaderPlz.mapIsEmpty map = map.entries.isEmpty
  insert : ∀ (map : HeaderMap) (name value : Bytes),
    HeaderMap.entries (HeaderPlz.mapInsert map name value)
      = map.entries ++ [(storedName name, value)]

end

end TwoPlz
