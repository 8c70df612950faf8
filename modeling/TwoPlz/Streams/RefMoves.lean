import TwoPlz.Streams.ActionMoves

/-! The handles as moves. -/

namespace TwoPlz

variable [HeaderPlz] [StoreCrates]

namespace Moves

open M

variable {K : Scope} {s : Inner} {k : Key} {st : Stream}

theorem newRef (hK : K.refs k) (awake : ∀ st, s.get? k = some st → st.state ≠ .idle)
    (own : s.counts.role.isServer = true → s.counts.role.isLocalInit k.streamId = false) :
    KeepsAt (Moves K) s (TwoPlz.newRef k) := by
  refine chains.modify_bind (aside (.of_beside rfl)) (Chains.resolve_bind fun st hk => Chains.assert_bind fun _ => ?_)
  intro u s' h
  obtain ⟨st', hst', rfl⟩ := update_some.mp h
  cases hk.symm.trans hst'
  exact turn hk (.refInc hK (awake st hk) own)

theorem newRef_ends (hk : s.get? k = some st) :
    Ends s (TwoPlz.newRef k) fun _ s' => s'.get? k = some { st with refCount := st.refCount + 1 } := by
  refine Ends.modify_bind (Ends.resolve_bind fun _ hst => Ends.assert_bind fun _ u s' h => ?_)
  obtain ⟨st', hst', rfl⟩ := update_some.mp h
  cases hk.symm.trans hst'
  exact Inner.get?_put hk _ rfl

theorem refDec (hK : K.refs k) : Keeps (Moves K) (TwoPlz.refDec k) := by
  intro s
  refine Chains.resolve_bind fun st hk a s' h => ?_
  obtain ⟨_, _, hassert, h⟩ := bind_eq_some h
  obtain ⟨hpos, rfl⟩ := assert_some.mp hassert
  obtain ⟨st', hst', rfl⟩ := update_some.mp h
  cases hk.symm.trans hst'
  exact turn hk (.refDec hK (by simpa using hpos))

structure Ready (st : Stream) (eos : Bool) : Prop where
  sent : st.state.isSent = true
  body : st.isSendingTrailer = false
  dry : st.hasData = false
  streaming : eos = false → st.state.isSendStreaming = true

theorem queueBody (hK : K.send k) (hk : s.get? k = some st) (hst : Ready st false) (frame : Data)
    (own : frame.streamId = k.streamId) :
    Ends s (do
      M.update k fun st => { st with remainingDataLen := some frame.data.length }
      M.pushBackSend k (.data frame)) fun _ s' => Moves K s s' ∧ s'.get? k = some { st with
        remainingDataLen := some frame.data.length, pendingSend := st.pendingSend ++ [.data frame] } := by
  intro u s' h
  obtain ⟨_, s₁, hhold, hpush⟩ := bind_eq_some h
  obtain ⟨st', hst', rfl⟩ := update_some.mp hhold
  cases hk.symm.trans hst'
  have hk₁ := Inner.get?_put hk { st with remainingDataLen := some frame.data.length } rfl
  refine ⟨?_, pushBackSend_some hpush hk₁⟩
  obtain ⟨_, s₂, hup, hmodify⟩ := bind_eq_some hpush
  cases hmodify
  obtain ⟨st₂, hst₂, rfl⟩ := update_some.mp hup
  cases hk₁.symm.trans hst₂
  have hqueue : Moves K s _ := turn hk (.queue hK (.data frame) (some frame.data.length) hst.sent hst.body
    (Stream.trailers_of_dry hst.dry) (fun _ => ⟨hst.streaming rfl, hst.dry⟩) (Or.inl ⟨frame, rfl, rfl⟩)
    (own.trans (Store.get_id hk).symm))
  simp only [Inner.put, Store.set_set hk] at hqueue ⊢
  exact hqueue.trans (aside (.of_beside rfl))

theorem queueBodyTrailer (hK : K.send k) {data : Option Data} {trailer : Option Headers} {eos : Bool}
    (hs : ∀ st, s.get? k = some st → Ready st eos) (hdata : data.isSome = true → eos = false)
    (own : (∀ frame, data = some frame → frame.streamId = k.streamId) ∧
      ∀ frame, trailer = some frame → frame.streamId = k.streamId) :
    KeepsAt (Moves K) s (TwoPlz.queueBodyTrailer k data trailer) := by
  have htrailer : ∀ s₁ : Inner, (∀ st, s₁.get? k = some st → st.state.isSent = true ∧
      st.isSendingTrailer = false ∧ st.trailers = []) →
      KeepsAt (Moves K) s₁ (M.whenSome trailer fun frame => M.pushBackSend k (.headers frame)) := by
    intro s₁ hsent u s' h
    rcases whenSome_some.mp h with ⟨frame, hframe, h⟩ | ⟨-, rfl⟩
    · obtain ⟨_, _, hup, -⟩ := bind_eq_some h
      obtain ⟨st₁, hk₁, -⟩ := update_some.mp hup
      obtain ⟨hsent₁, hbody₁, hlast₁⟩ := hsent st₁ hk₁
      have hown : frame.streamId = st₁.id := (own.2 frame hframe).trans (Store.get_id hk₁).symm
      exact pushBackSend hK hk₁ (.headers frame) hown hsent₁ hbody₁ hlast₁ rfl _ _ h
    · exact .refl _
  refine chains.step fun u s₁ h => ?_
  rcases whenSome_some.mp h with ⟨frame, rfl, h⟩ | ⟨-, rfl⟩
  · have hfound : ∃ st, s.get? k = some st := by
      obtain ⟨_, _, hhold, -⟩ := bind_eq_some h
      obtain ⟨st, hk, -⟩ := update_some.mp hhold
      exact ⟨st, hk⟩
    obtain ⟨st, hk⟩ := hfound
    have hready := hs st hk
    obtain ⟨hmoves, hk₁⟩ := queueBody hK hk (hdata rfl ▸ hready) frame (own.1 frame rfl) _ _ h
    refine ⟨hmoves, htrailer s₁ fun st₁ hst₁ => ?_⟩
    cases hk₁.symm.trans hst₁
    refine ⟨hready.sent, hready.body, ?_⟩
    have hall : ∀ frame ∈ st.pendingSend, (!frame.isData) = true := by
      simpa [Stream.hasData] using hready.dry
    unfold Stream.trailers
    rw [List.dropWhile_append_of_pos hall]
    rfl
  · exact ⟨.refl _, htrailer _ fun st hk =>
      ⟨(hs st hk).sent, (hs st hk).body, Stream.trailers_of_dry (hs st hk).dry⟩⟩

theorem sendHeaders_ready (frame : Headers) (hk : s.get? k = some st) (hst : st.Shaped) :
    Ends s (Send.sendHeaders frame k) fun res s' => res = .ok () →
      ∀ st', s'.get? k = some st' → Ready st' frame.isEndStream := by
  intro res s' h hres st' hk'
  subst hres
  obtain ⟨state, hopen, hcore⟩ := sendHeaders_ends frame hk _ _ h
  have hcore := hcore st' hk'
  simp only [Stream.core, Prod.mk.injEq] at hcore
  obtain ⟨hempty, htrailer⟩ := hst.unsent (State.isUnsent_of_sendOpen hopen)
  obtain ⟨hstate, hqueue, htrailer', -⟩ := hcore
  obtain ⟨hsent, hstreaming⟩ := State.isSent_sendOpen hopen
  rw [hempty, List.nil_append] at hqueue
  refine ⟨hstate ▸ hsent, htrailer'.trans htrailer, ?_, fun heos => hstate ▸ hstreaming heos⟩
  simp [Stream.hasData, hqueue, Frame.isData]

theorem ready {s' : Inner} {st' : Stream} {eos : Bool} (h : Moves .none s s') (hk : s.get? k = some st)
    (hst : Ready st eos) (hk' : s'.get? k = some st') : Ready st' eos := by
  have hcore := h.core hk hk'
  simp only [Stream.core, Prod.mk.injEq] at hcore
  obtain ⟨hstate, hqueue, htrailer, -⟩ := hcore
  refine ⟨hstate ▸ hst.sent, htrailer ▸ hst.body, ?_, fun heos => hstate ▸ hst.streaming heos⟩
  rw [Stream.hasData, hqueue]
  exact hst.dry

structure Scope.Requests (K : Scope) (k : Key) : Prop where
  born : K.born k
  send : K.send k
  opens : K.opens k
  refs : K.refs k

theorem insertRequest {id initSend initRecv : Nat} {head : Prop} [Decidable head]
    (hK : K.born (s.freshKey id)) (hfind : s.store.find id = none) (known : s.Known id) :
    KeepsAt (Moves K) s (Inner.insertStream id
      (if head then { Stream.new id initSend initRecv with contentLength := .head }
        else Stream.new id initSend initRecv)) := by
  split
  · exact insertStream ⟨.head, nofun⟩ hK hfind known rfl
  · exact insertStream ⟨.omitted, nofun⟩ hK hfind known rfl

theorem insertRequest_ends {id initSend initRecv : Nat} {head : Prop} [Decidable head] :
    Ends s (Inner.insertStream id
      (if head then { Stream.new id initSend initRecv with contentLength := .head }
        else Stream.new id initSend initRecv)) fun k s' =>
      k = s.freshKey id ∧ s'.counts.role = s.counts.role ∧ ∃ len,
        s'.get? k = some { Stream.new id initSend initRecv with contentLength := len } := by
  intro k s' h
  obtain ⟨rfl, rfl⟩ := insertStream_some h
  refine ⟨rfl, rfl, ?_⟩
  split
  · exact ⟨_, Store.get_insert_self _ { Stream.new id _ _ with contentLength := .head }⟩
  · exact ⟨_, Store.get_insert_self _ (Stream.new id _ _)⟩

omit [StoreCrates] in
theorem body_of_from {id : Nat} {pseudo : Pseudo} {headers : HeaderMap} {body : Option Bytes}
    {trailers : Option HeaderMap}
    (h : (TwoTwoFrame.from id pseudo headers body trailers).data.isSome = true) :
    (TwoTwoFrame.from id pseudo headers body trailers).header.isEndStream = false := by
  unfold TwoTwoFrame.from at h ⊢
  dsimp only at h ⊢
  split
  · rename_i hnone
    rw [if_pos hnone] at h
    cases h
  · exact (by decide : (END_HEADERS &&& END_STREAM == END_STREAM) = false)

structure Owned (frames : TwoTwoFrame) (id : Nat) : Prop where
  header : frames.header.streamId = id
  data : ∀ frame, frames.data = some frame → frame.streamId = id
  trailer : ∀ frame, frames.trailer = some frame → frame.streamId = id

section

omit [StoreCrates]

theorem owned_from (id : Nat) (pseudo : Pseudo) (headers : HeaderMap) (body : Option Bytes)
    (trailers : Option HeaderMap) : Owned (TwoTwoFrame.from id pseudo headers body trailers) id := by
  unfold TwoTwoFrame.from
  dsimp only
  split
  · exact ⟨rfl, nofun, nofun⟩
  · refine ⟨rfl, fun frame h => ?_, fun frame h => ?_⟩
    · obtain ⟨b, -, rfl⟩ := Option.map_eq_some_iff.mp h
      exact Data.setEndStream_streamId _ _
    · obtain ⟨t, -, rfl⟩ := Option.map_eq_some_iff.mp h
      rfl

theorem flags_from (id : Nat) (pseudo : Pseudo) (headers : HeaderMap) (body : Option Bytes)
    (trailers : Option HeaderMap) :
    (TwoTwoFrame.from id pseudo headers body trailers).header.unsetEndStream.isEndStream = false := by
  unfold TwoTwoFrame.from
  dsimp only
  split
  · exact (by decide :
      ((END_HEADERS ||| END_STREAM) &&& ~~~END_STREAM &&& END_STREAM == END_STREAM) = false)
  · exact (by decide : (END_HEADERS &&& ~~~END_STREAM &&& END_STREAM == END_STREAM) = false)

theorem requestFrames_body {id : Nat} {request : Request} {isSpa : Bool}
    (h : (Streams.requestFrames id request isSpa).data.isSome = true) :
    (Streams.requestFrames id request isSpa).header.isEndStream = false := by
  unfold Streams.requestFrames at h ⊢
  dsimp only at h ⊢
  split
  · exact flags_from _ _ _ _ _
  · rename_i hno
    rw [if_neg hno] at h
    exact body_of_from h

theorem requestFrames_owned (id : Nat) (request : Request) (isSpa : Bool) :
    Owned (Streams.requestFrames id request isSpa) id := by
  unfold Streams.requestFrames
  dsimp only
  have hfrom := owned_from id request.intoPseudo request.headers request.body request.trailers
  split
  · refine ⟨hfrom.header, fun frame h => ?_, hfrom.trailer⟩
    cases h
    rfl
  · exact hfrom

end

theorem startRequest {id : Nat} (hK : Scope.Requests K (s.freshKey id)) (known : s.Known id)
    (hclient : s.counts.role.isServer = false) (request : Request) (isSpa : Bool) :
    KeepsAt (Moves K) s (Streams.startRequest id request isSpa) := by
  refine .get_bind ?_
  dsimp only
  refine Chains.assert_bind fun hfind => ?_
  have hfind := Option.isNone_iff_eq_none.mp hfind
  refine chains.step fun k s₁ hinsert => ⟨insertRequest hK.born hfind known _ _ hinsert, ?_⟩
  obtain ⟨rfl, hrole, len, hk⟩ := insertRequest_ends _ _ hinsert
  have hsend : KeepsAt (Moves K) s₁
      (Send.sendHeaders (Streams.requestFrames id request isSpa).header (s.freshKey id)) := by
    refine sendHeaders hK.send (requestFrames_owned _ _ _).header.symm (fun _ _ _ => hK.opens) (fun st hst _ => ?_)
      fun st hst _ => ⟨⟨hK.opens, hK.refs⟩, ?_⟩
    · cases hk.symm.trans hst
      exact ⟨rfl, rfl⟩
    · cases hk.symm.trans hst
      rfl
  refine chains.step fun res s₂ hheaders => ⟨hsend _ _ hheaders, ?_⟩
  have hends := sendHeaders_ends _ hk _ _ hheaders
  cases res with
  | error e =>
    obtain rfl : s₂ = s₁ := hends
    intro a s' h
    obtain ⟨_, s₃, hunlink, h⟩ := bind_eq_some h
    obtain ⟨_, s₄, hremove, h⟩ := bind_eq_some h
    cases h
    cases hunlink
    obtain ⟨store, hstore, heq⟩ := Option.map_eq_some_iff.mp hremove
    cases heq
    obtain rfl := Store.remove_eq_some hstore
    exact .single (.discard hK.opens hk rfl (fun n => by cases n <;> rfl) rfl rfl)
  | ok u =>
    have hready := sendHeaders_ready _ hk (.new _ _ _ _) _ _ hheaders rfl
    have hqueue : ∀ K : Scope, K.send (s.freshKey id) → KeepsAt (Moves K) s₂ (TwoPlz.queueBodyTrailer
        (s.freshKey id) (Streams.requestFrames id request isSpa).data
        (Streams.requestFrames id request isSpa).trailer) :=
      fun K hK => queueBodyTrailer hK hready requestFrames_body
        ⟨(requestFrames_owned _ _ _).data, (requestFrames_owned _ _ _).trailer⟩
    refine chains.step fun u s₃ hqueued => ⟨hqueue K hK.send _ _ hqueued, ?_⟩
    refine Chains.resolve_bind fun st₃ hk₃ => .read_bind (fun a s' h => (debugAssert_some.mp h).2.symm)
      fun _ => ?_
    refine .bind chains.trans (newRef hK.refs ?_ fun hserver => ?_) fun _ => chains.pure _
    · refine (hqueue .unborn trivial _ _ hqueued).awake fun st hk hidle => ?_
      have hsent := (hready st hk).sent
      rw [hidle] at hsent
      cases hsent
    · rw [(hqueue K hK.send _ _ hqueued).role, (hsend _ _ hheaders).role, hrole, hclient] at hserver
      cases hserver

theorem open_ends : Ends s Send.open' fun res s' => Aside s s' ∧ ∀ id, res = .ok id →
    s.send.nextStreamId = some id ∧ s'.send.nextStreamId = StreamId.nextId id := by
  refine Ends.get_bind ?_
  cases hnext : s.send.nextStreamId with
  | none =>
    simp only [Send.ensureNextStreamId, hnext]
    exact Ends.pure ⟨.refl _, by simp⟩
  | some next =>
    simp only [Send.ensureNextStreamId, hnext]
    refine Ends.set_bind (Ends.pure ⟨{ Aside.refl s with nextSend := ?_, parity := fun _ hodd => ?_ },
      fun id hid => ?_⟩)
    · exact hnext ▸ nextLe_nextId (Nat.le_refl _)
    · exact StreamId.nextId_odd (hodd next hnext)
    · cases hid
      exact ⟨rfl, rfl⟩

omit [HeaderPlz] [StoreCrates] in
theorem isLocalInit_of_odd {role : Role} {id : Nat} (hclient : role.isServer = false)
    (hodd : id % 2 = 1) : role.isLocalInit id = true := by
  simp [Role.isLocalInit, hclient, StreamId.isServerInitiated, hodd]

theorem sendRequest
    (hK : ∀ id, s.counts.role.isServer = false → s.send.nextStreamId = some id →
      Scope.Requests K (s.freshKey id) ∧ id % 2 = 1) (request : Request)
    (isSpa : Bool) : KeepsAt (Moves K) s (Streams.sendRequest request isSpa) := by
  refine .get_bind ?_
  split
  · exact chains.pure _ s
  · split
    · exact chains.pure _ s
    · split
      · exact chains.pure _ s
      · rename_i hrole
        have hclient : s.counts.role.isServer = false := by simpa using hrole
        refine chains.step fun res s₁ hopen => ?_
        obtain ⟨haside, hopened⟩ := open_ends _ _ hopen
        refine ⟨aside haside, ?_⟩
        split
        · exact chains.pure _ _
        · rename_i id
          obtain ⟨hid, hnext⟩ := hopened id rfl
          obtain ⟨hrequest, hodd⟩ := hK id hclient hid
          have hkey : s₁.freshKey id = s.freshKey id := by simp only [Inner.freshKey, haside.store]
          refine startRequest (hkey ▸ hrequest) (fun next hsome => ?_) (haside.role ▸ hclient) _ _
          rw [haside.role, isLocalInit_of_odd hclient hodd, if_pos rfl, hnext] at hsome
          exact StreamId.lt_nextId hsome

/-- What `next_accept` returns is the head of its queue; the counter of the streams that the peer took
back moves with the queue. -/
theorem accept_ends
    (hK : ∀ k tail, s.recv.pendingAccept.indices = some ⟨k, tail⟩ → (K.turn k ∧ K.takes k) ∧ K.refs k)
    (awake : ∀ k st tail, s.recv.pendingAccept.indices = some ⟨k, tail⟩ → s.get? k = some st →
      st.state ≠ .idle)
    (own : ∀ k tail, s.recv.pendingAccept.indices = some ⟨k, tail⟩ → s.counts.role.isServer = true →
      s.counts.role.isLocalInit k.streamId = false) :
    Ends s Streams.accept fun o s' => (o = none ∧ s' = s) ∨
      ∃ k request s₁ counts, o = some (k, request) ∧ M.pop .accept s = some (some k, s₁) ∧
        Move K s { s₁ with counts := counts } ∧ Moves K { s₁ with counts := counts } s' := by
  refine Ends.bind fun o s₁ hpop => ?_
  split
  · rcases pop_some hpop with ⟨-, -, rfl⟩ | ⟨_, _, _, hno, -⟩
    · exact Ends.pure (Or.inl ⟨rfl, rfl⟩)
    · cases hno
  · rename_i k
    intro o s' h
    rcases pop_some hpop with ⟨hno, -⟩ | ⟨_, st, tail, hsome, hk, hqueued, hf⟩
    · cases hno
    cases hsome
    obtain ⟨key, hk₁⟩ := hf.get_self hk
    obtain ⟨_, _, hresolve, h⟩ := bind_eq_some h
    obtain ⟨hst, rfl⟩ := resolve_some.mp hresolve
    cases hk₁.symm.trans hst
    obtain ⟨_, s₂, hdec, h⟩ := bind_eq_some h
    have hpopped : ∃ counts, s₂ = { s₁ with counts := counts } ∧ Move K s s₂ := by
      rcases when_some.mp hdec with ⟨hreset, hdec⟩ | ⟨hlive, rfl⟩
      · obtain ⟨_, _, hget, hdec⟩ := bind_eq_some hdec
        obtain ⟨rfl, rfl⟩ := get_some.mp hget
        obtain ⟨_, _, hassert, hdec⟩ := bind_eq_some hdec
        obtain ⟨hpos, rfl⟩ := assert_some.mp hassert
        obtain rfl := set_some.mp hdec
        rw [pop_counts hpop] at hpos ⊢
        exact ⟨_, rfl, .pop hpop hk nofun (.acceptReset hreset (of_decide_eq_true hpos))⟩
      · have hmove : Move K s { s₁ with counts := s.counts } := .pop hpop hk nofun (.accept (Or.inl hlive))
        rw [← pop_counts hpop] at hmove
        exact ⟨_, rfl, hmove⟩
    obtain ⟨counts, rfl, hmove⟩ := hpopped
    obtain ⟨htakes, hrefs⟩ := hK k tail hqueued
    have hrest : Moves K { s₁ with counts := counts } s' := by
      refine KeepsAt.bind chains.trans (newRef hrefs (fun st₁ hst₁ => ?_) fun hserver => ?_) (fun _ =>
        chains.bind (takeRequest htakes) fun _ => chains.pure _) _ _ h
      · cases hk₁.symm.trans hst₁
        exact awake k st tail hqueued hk
      · have hrole := hmove.role
        rw [hrole] at hserver ⊢
        exact own k tail hqueued hserver
    obtain ⟨_, _, -, h⟩ := bind_eq_some h
    obtain ⟨request, _, -, h⟩ := bind_eq_some h
    cases h
    exact Or.inr ⟨k, request, s₁, counts, rfl, hpop, hmove, hrest⟩

theorem applyRemoteSettings (hK : ∀ k, K.closes k) (settings : Settings) :
    Keeps (Moves K) (Streams.applyRemoteSettings settings) := by
  refine chains.bind (modified fun _ =>
    .of_beside (by rfl)) fun _ => chains.bind (modified fun _ => .of_beside (by rfl)) fun _ => ?_
  split
  · exact .get_bind fun s => .bind chains.trans (.set (aside (.of_beside (by rfl)))) fun _ => adjustWindows hK _ _
  · exact chains.pure _

theorem sendResponse (hK : K.send k) (response : Response) (hk : s.get? k = some st)
    (hst : st.Shaped) (awake : st.state ≠ .idle)
    (remote : s.counts.role.isLocalInit k.streamId = false) :
    KeepsAt (Moves K) s (StreamRef.sendResponse k response) := by
  refine Chains.resolve_bind fun _ hst' => ?_
  cases hk.symm.trans hst'
  split
  · exact chains.bind wake (fun _ => chains.pure _) s
  · refine Chains.resolve_bind fun _ hst' => ?_
    cases hk.symm.trans hst'
    dsimp only
    have hown := owned_from st.id response.intoPseudo response.headers response.body response.trailers
    have hbody := @body_of_from _ st.id response.intoPseudo response.headers response.body response.trailers
    generalize TwoTwoFrame.from st.id response.intoPseudo response.headers response.body
      response.trailers = frames at hown hbody ⊢
    have hsend : ∀ K : Scope, K.send k → KeepsAt (Moves K) s (Send.sendHeaders frames.header k) := by
      intro K hK
      refine sendHeaders hK (hown.header.symm ▸ (Store.get_id hk).symm) (fun st' hst' hidle => ?_)
        (fun st' hst' hun => ?_) fun _ _ hlocal => ?_
      · cases hk.symm.trans hst'
        exact absurd hidle awake
      · cases hk.symm.trans hst'
        exact hst.unsent hun
      · rw [remote] at hlocal
        cases hlocal
    refine chains.step fun res s₁ htrans => ⟨transition _ (hsend K.lasting hK) _ _ htrans, ?_⟩
    split
    · exact chains.pure _ _
    · have hid := Store.get_id hk
      refine .bind chains.trans (queueBodyTrailer hK (fun st₁ hk₁ => ?_) hbody
        ⟨hid ▸ hown.data, hid ▸ hown.trailer⟩) fun _ => chains.pure _
      obtain ⟨st₀, _, hresolve, htrans⟩ := bind_eq_some htrans
      obtain ⟨hst₀, rfl⟩ := resolve_some.mp hresolve
      obtain ⟨_, s₂, hheaders, htrans⟩ := bind_eq_some htrans
      obtain ⟨_, s₃, hafter, hpure⟩ := bind_eq_some htrans
      obtain ⟨rfl, rfl⟩ := pure_some.mp hpure
      obtain ⟨st₂, _, hresolve₂, -⟩ := bind_eq_some hafter
      have hk₂ := (resolve_some.mp hresolve₂).1
      have hready := sendHeaders_ready _ hk hst _ _ hheaders rfl st₂ hk₂
      have hbeside : Moves .none s₂ s₃ := by
        refine transitionAfter (fun hpending => (hsend K.lasting hK _ _ hheaders).lingers fun st' hst' => ?_)
          _ _ hafter
        cases hst₀.symm.trans hst'
        exact hpending
      exact ready hbeside hk₂ hready hk₁

theorem refSendReset (hturn : K.turn k) (hK : K.closes k) (reason : Nat) :
    Keeps (Moves K) (StreamRef.sendReset k reason) := by
  refine chains.bind (actionsSendReset hturn hK _ (by decide)) fun res => ?_
  split
  · exact chains.pure _
  · exact Chains.abort

theorem maybeCancel (hK : K.cancels k) (hs : ∀ st, s.get? k = some st → st.Shaped) :
    KeepsAt (Moves K) s (OpaqueStreamRef.maybeCancel k) := by
  refine Chains.resolve_bind fun st hk => .get_bind fun a s' h => ?_
  rcases when_some.mp h with ⟨hcancel, h⟩ | ⟨-, rfl⟩
  · have hunheld : st.refCount = 0 := by
      simp only [Stream.isCanceledInterest, Bool.and_eq_true, beq_iff_eq] at hcancel
      exact hcancel.1.1
    refine KeepsAt.bind chains.trans (scheduleImplicitReset hK _ (fun st' hst' => ?_) fun hreason st' hst' hlive => ?_)
      (fun _ => enqueueResetExpiration _) _ _ h
    · cases hk.symm.trans hst'
      exact Or.inl hunheld
    · cases hk.symm.trans hst'
      have hsendClosed : st.state.isSendClosed = true := by
        by_contra hno
        exact hreason (if_neg (by simp [hno]))
      refine ⟨?_, Or.inr hsendClosed⟩
      by_contra hdata
      rcases ((hs st hk).data (by simpa using hdata)).2 with hstreaming | ⟨hclosed, -⟩
      · cases hstate : st.state <;> rw [hstate] at hstreaming hsendClosed <;>
          first | cases hstreaming | cases hsendClosed
      · rw [hlive] at hclosed
        cases hclosed
  · exact .refl _

theorem drop_ends (hK : K.turn k) (htakes : K.takes k) (hcancels : K.cancels k)
    (hs : s.Each fun _ st => st.Shaped) :
    Ends s (OpaqueStreamRef.drop k) fun _ s' => ∃ s₁,
      TwoPlz.refDec k { s with refs := s.refs - 1 } = some ((), s₁) ∧ Moves K s₁ s' := by
  refine Ends.get_bind (Ends.assert_bind fun _ => Ends.set_bind fun u s' h => ?_)
  obtain ⟨_, s₂, hdec, h⟩ := bind_eq_some h
  obtain ⟨st, _, hresolve, h⟩ := bind_eq_some h
  obtain ⟨-, rfl⟩ := resolve_some.mp hresolve
  obtain ⟨_, s₃, hwake, h⟩ := bind_eq_some h
  obtain ⟨_, s₄, hwindow, h⟩ := bind_eq_some h
  obtain ⟨_, s₅, hclear, h⟩ := bind_eq_some h
  have hmoves : Moves K s₂ s₅ := by
    have hwindow' : Moves K s₃ s₄ :=
      chains.when _ (chains.bind (recvConnectionWindowUpdate _) fun _ => chains.pure _) _ _ _ hwindow
    exact (chains.when _ wake _ _ _ hwake).trans
      (hwindow'.trans (recvClearStreamQueue hK htakes _ _ _ hclear))
  have hshaped : s₂.Each fun _ st => st.Shaped :=
    ((aside (.of_beside rfl)).trans (refDec (K := .unborn) trivial _ _ _ hdec)).shaped hs
  have hcancels : K.lasting.cancels k := hcancels
  refine ⟨s₂, hdec, hmoves.trans (transition _ (maybeCancel hcancels ?_) _ _ h)⟩
  exact fun st hk => hmoves.shaped hshaped k st hk

theorem drop (hK : K.turn k) (htakes : K.takes k) (hrefs : K.refs k) (hcancels : K.cancels k)
    (hs : s.Each fun _ st => st.Shaped) : KeepsAt (Moves K) s (OpaqueStreamRef.drop k) := by
  intro u s' h
  obtain ⟨s₁, hdec, hmoves⟩ := drop_ends hK htakes hcancels hs _ _ h
  exact (aside (.of_beside (by rfl))).trans ((refDec hrefs _ _ _ hdec).trans hmoves)

end Moves

end TwoPlz
