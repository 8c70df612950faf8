import TwoPlz.Frame

namespace TwoPlz

variable [HeaderPlz]

structure Request where
  method : HeaderPlz.Method
  protocol : Option Bytes
  uri : HeaderPlz.Uri
  headers : HeaderMap
  body : Option Bytes
  trailers : Option HeaderMap

structure Response where
  status : Option HeaderPlz.StatusCode
  headers : HeaderMap
  body : Option Bytes
  trailers : Option HeaderMap

inductive PollMessage : Type
  | client (response : Response)
  | server (request : Request)

def Pseudo.setScheme (p : Pseudo) (scheme : HeaderPlz.Scheme) : Pseudo :=
  { p with scheme := some (HeaderPlz.schemeAsStr scheme) }

def Pseudo.request (method : HeaderPlz.Method) (uri : HeaderPlz.Uri) (protocol : Option Bytes) :
    Pseudo :=
  let plainConnect := decide (method = HeaderPlz.CONNECT) && protocol.isNone
  let path := HeaderPlz.uriPathAndQuery uri
  { method := some method
    scheme := if plainConnect then none else (HeaderPlz.uriScheme uri).map HeaderPlz.schemeAsStr
    authority := HeaderPlz.uriAuthority uri
    path :=
      if plainConnect then none
      else if !path.isEmpty then some path
      else if method = HeaderPlz.OPTIONS then some (ascii "*") else some (ascii "/")
    protocol := protocol
    status := none }

def Request.intoPseudo (r : Request) : Pseudo :=
  let pseudo := Pseudo.request r.method r.uri (r.protocol.filter validUtf8)
  if pseudo.scheme.isNone && !decide (r.method = HeaderPlz.CONNECT) then
    pseudo.setScheme HeaderPlz.HTTP
  else pseudo

def Response.intoPseudo (r : Response) : Pseudo := { Pseudo.default with status := r.status }

structure TwoTwoFrame where
  header : Headers
  data : Option Data
  trailer : Option Headers

def TwoTwoFrame.from (streamId : Nat) (pseudo : Pseudo) (headers : HeaderMap)
    (body : Option Bytes) (trailers : Option HeaderMap) : TwoTwoFrame :=
  let header := Headers.new streamId pseudo headers
  if body.isNone && trailers.isNone then ⟨header.setEndStream, none, none⟩
  else
    { header := header
      data := body.map fun b => (Data.new streamId b).setEndStream trailers.isNone
      trailer := trailers.map (Headers.trailers streamId) }

/-- `none` is a panic: `Scheme::try_from` and the URI builder are unwrapped. -/
def framesToRequest (pseudo : Pseudo) (headers : HeaderMap) (streamId : Nat) :
    Option (Except ProtoError Request) :=
  let malformed := some (.error (ProtoError.libraryReset streamId Reason.PROTOCOL_ERROR))
  if pseudo.status.isSome then malformed
  else
    match pseudo.method with
    | none => malformed
    | some method =>
      let isConnect := decide (method = HeaderPlz.CONNECT)
      let hasProtocol := pseudo.protocol.isSome
      if hasProtocol && !isConnect then malformed
      else if pseudo.scheme.isSome && (isConnect && !hasProtocol) then malformed
      else do
        let scheme ←
          match pseudo.scheme with
          | some s => (HeaderPlz.schemeTryFrom s).map some
          | none => some none
        if pseudo.scheme.isNone && (!isConnect || hasProtocol) then malformed
        else if pseudo.path.isSome && (isConnect && !hasProtocol) then malformed
        else if pseudo.path.any (·.isEmpty) then malformed
        else if pseudo.path.isNone && (isConnect && hasProtocol) then malformed
        else do
          let uri ← HeaderPlz.uriBuild pseudo.authority
            (if pseudo.authority.isSome then scheme else none) pseudo.path
          some (.ok ⟨method, pseudo.protocol, uri, headers, none, none⟩)

theorem framesToRequest_error {pseudo : Pseudo} {headers : HeaderMap} {streamId : Nat} {e : ProtoError}
    (h : framesToRequest pseudo headers streamId = some (.error e)) :
    e = ProtoError.libraryReset streamId Reason.PROTOCOL_ERROR := by
  have hmalformed : some (.error (ProtoError.libraryReset streamId Reason.PROTOCOL_ERROR)) =
      some (.error e : Except ProtoError Request) → e = ProtoError.libraryReset streamId Reason.PROTOCOL_ERROR := by
    intro hr
    cases hr
    rfl
  simp only [framesToRequest] at h
  split at h
  · exact hmalformed h
  split at h
  · exact hmalformed h
  split at h
  · exact hmalformed h
  split at h
  · exact hmalformed h
  split at h
  all_goals
    obtain ⟨scheme, -, h⟩ := Option.bind_eq_some_iff.mp h
    split at h
    · exact hmalformed h
    split at h
    · exact hmalformed h
    split at h
    · exact hmalformed h
    split at h
    · exact hmalformed h
    obtain ⟨uri, -, h⟩ := Option.bind_eq_some_iff.mp h
    cases h

/-- `none` is the `expect` on the response builder. -/
def framesToResponse (pseudo : Pseudo) (headers : HeaderMap) : Option (Except ProtoError Response) :=
  if HeaderPlz.responseBuild pseudo.status then some (.ok ⟨pseudo.status, headers, none, none⟩)
  else none

namespace Role

/-- `ensure_can_open` for `Open::Headers`. -/
def ensureCanOpen (role : Role) (id : Nat) : Except ProtoError Unit :=
  match role with
  | .server =>
    if !StreamId.isClientInitiated id then .error (ProtoError.libraryGoAway Reason.PROTOCOL_ERROR)
    else .ok ()
  | .client => .error (ProtoError.libraryGoAway Reason.PROTOCOL_ERROR)

def convertPollMessage (role : Role) (pseudo : Pseudo) (fields : HeaderMap) (streamId : Nat) :
    Option (Except ProtoError PollMessage) :=
  match role with
  | .server => (framesToRequest pseudo fields streamId).map fun r => r.map .server
  | .client => (framesToResponse pseudo fields).map fun r => r.map .client

theorem convertPollMessage_error {role : Role} {pseudo : Pseudo} {fields : HeaderMap} {streamId : Nat}
    {e : ProtoError} (h : role.convertPollMessage pseudo fields streamId = some (.error e)) :
    e = ProtoError.libraryReset streamId Reason.PROTOCOL_ERROR := by
  cases role with
  | server =>
    obtain ⟨res, hres, hmap⟩ := Option.map_eq_some_iff.mp h
    cases res with
    | ok request => cases hmap
    | error e' =>
      cases hmap
      exact framesToRequest_error hres
  | client =>
    obtain ⟨res, hres, hmap⟩ := Option.map_eq_some_iff.mp h
    unfold framesToResponse at hres
    split at hres <;> cases hres
    cases hmap

end Role

end TwoPlz
