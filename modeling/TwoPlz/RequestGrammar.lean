import TwoPlz.Plain

namespace TwoPlz

section

variable [HeaderPlz] [StoreCrates]

namespace Pseudo

/-- The parts that `frames_to_request` hands to the URI builder: without an authority the scheme
is dropped. -/
def uriParts (p : Pseudo) (scheme : Option HeaderPlz.Scheme) : Option HeaderPlz.Uri :=
  HeaderPlz.uriBuild p.authority (if p.authority.isSome then scheme else none) p.path

/-- A CONNECT request without the extension of `:protocol`. -/
def PlainConnect (p : Pseudo) : Prop := p.method = some HeaderPlz.CONNECT ∧ p.protocol = none

structure Named (p : Pseudo) : Prop where
  method : p.method.isSome
  status : p.status = none
  protocol : p.protocol.isSome → p.method = some HeaderPlz.CONNECT

def Target (p : Pseudo) : Prop :=
  ∃ s scheme path, p.scheme = some s ∧ p.path = some path ∧ path ≠ []
    ∧ HeaderPlz.schemeTryFrom s = some scheme ∧ (p.uriParts (some scheme)).isSome

structure Grammar (p : Pseudo) : Prop extends p.Named where
  connect : p.PlainConnect → p.scheme = none ∧ p.path = none
  target : ¬p.PlainConnect → p.Target

/-- The parsers accept what reaches them, and a request other than CONNECT has a path. -/
structure Parses (p : Pseudo) : Prop where
  connect : p.PlainConnect → p.scheme = none → p.path = none → (p.uriParts none).isSome
  scheme : ¬p.PlainConnect → ∀ s, p.scheme = some s →
    ∃ scheme, HeaderPlz.schemeTryFrom s = some scheme
      ∧ ∀ path, p.path = some path → path ≠ [] → (p.uriParts (some scheme)).isSome
  path : ¬p.PlainConnect → p.scheme.isSome → p.path = none →
    p.method = some HeaderPlz.CONNECT

end Pseudo

abbrev malformed (streamId : Nat) : Option (Except ProtoError Request) :=
  some (.error (ProtoError.libraryReset streamId Reason.PROTOCOL_ERROR))

/-- The request is accepted exactly when it follows the grammar, and rejected otherwise. -/
structure Judged (p : Pseudo) (headers : HeaderMap) (streamId : Nat) : Prop where
  accepted : p.Grammar → ∃ request, framesToRequest p headers streamId = some (.ok request)
  rejected : ¬p.Grammar → framesToRequest p headers streamId = malformed streamId

section

variable {p : Pseudo} {headers : HeaderMap} {streamId : Nat}

section

omit [StoreCrates]

theorem Judged.malformed_iff (h : framesToRequest p headers streamId = malformed streamId) :
    Judged p headers streamId ↔ ¬p.Grammar := by
  refine ⟨fun judged g => ?_, fun hg => ⟨fun g => absurd g hg, fun _ => h⟩⟩
  obtain ⟨request, hok⟩ := judged.accepted g
  cases h.symm.trans hok

theorem Judged.ok_iff {request : Request}
    (h : framesToRequest p headers streamId = some (.ok request)) :
    Judged p headers streamId ↔ p.Grammar := by
  refine ⟨fun judged => ?_, fun g => ⟨fun _ => ⟨request, h⟩, fun hg => absurd g hg⟩⟩
  by_contra hg
  cases h.symm.trans (judged.rejected hg)

theorem Judged.not_panic (h : framesToRequest p headers streamId = none) :
    ¬Judged p headers streamId := by
  intro judged
  by_cases g : p.Grammar
  · obtain ⟨request, hok⟩ := judged.accepted g
    cases h.symm.trans hok
  · cases h.symm.trans (judged.rejected g)

theorem framesToRequest_unnamed (h : ¬p.Named) :
    framesToRequest p headers streamId = malformed streamId := by
  rcases hs : p.status with _ | status
  · rcases hm : p.method with _ | method
    · simp [framesToRequest, hs, hm]
    · have hp : p.protocol.isSome ∧ method ≠ HeaderPlz.CONNECT := by
        by_contra hc
        refine h ⟨by simp [hm], hs, fun hp => ?_⟩
        rw [hm, not_not.mp fun hne => hc ⟨hp, hne⟩]
      simp [framesToRequest, hs, hm, hp]
  · simp [framesToRequest, hs]

theorem framesToRequest_connect (headers : HeaderMap) (streamId : Nat) (h : p.Named) (hc : p.PlainConnect) :
    framesToRequest p headers streamId =
      if p.scheme.isSome || p.path.isSome then malformed streamId
      else (p.uriParts none).map fun uri =>
        .ok ⟨HeaderPlz.CONNECT, p.protocol, uri, headers, none, none⟩ := by
  obtain ⟨hm, hp⟩ := hc
  rcases hs : p.scheme with _ | s <;> rcases hpath : p.path with _ | path
  · simp [framesToRequest, h.status, hm, hp, hs, hpath, Pseudo.uriParts, Option.map_eq_bind]
  all_goals simp [framesToRequest, h.status, hm, hp, hs, hpath]

theorem framesToRequest_target (headers : HeaderMap) (streamId : Nat) (h : p.Named) (hc : ¬p.PlainConnect) :
    framesToRequest p headers streamId =
      match p.scheme with
      | none => malformed streamId
      | some s => (HeaderPlz.schemeTryFrom s).bind fun scheme =>
        if p.path = some [] ∨ (p.path = none ∧ p.method = some HeaderPlz.CONNECT) then
          malformed streamId
        else (p.uriParts (some scheme)).map fun uri =>
          .ok ⟨p.method.getD HeaderPlz.CONNECT, p.protocol, uri, headers, none, none⟩ := by
  obtain ⟨method, hm⟩ := Option.isSome_iff_exists.mp h.method
  have hext : method = HeaderPlz.CONNECT ∧ p.protocol.isSome
      ∨ method ≠ HeaderPlz.CONNECT ∧ p.protocol = none := by
    by_cases hmc : method = HeaderPlz.CONNECT
    · refine .inl ⟨hmc, Option.isSome_iff_ne_none.mpr fun hp => hc ⟨?_, hp⟩⟩
      rw [hm, hmc]
    · refine .inr ⟨hmc, Option.not_isSome_iff_eq_none.mp fun hp => hmc ?_⟩
      exact Option.some.inj (hm.symm.trans (h.protocol hp))
  rcases hs : p.scheme with _ | s
  · rcases hext with ⟨hmc, hp⟩ | ⟨hmc, hp⟩
    all_goals simp [framesToRequest, h.status, hm, hs, hmc, hp]
  · rcases hpath : p.path with _ | path <;> rcases hext with ⟨hmc, hp⟩ | ⟨hmc, hp⟩
    all_goals
      simp [framesToRequest, h.status, hm, hs, hmc, hp, hpath, Pseudo.uriParts, Option.map_eq_bind]
      rcases HeaderPlz.schemeTryFrom s with _ | scheme <;> rfl

theorem framesToRequest_judged_connect (h : p.Named) (hc : p.PlainConnect) :
    Judged p headers streamId ↔ p.Parses := by
  have hgrammar : p.Grammar ↔ p.scheme = none ∧ p.path = none :=
    ⟨fun g => g.connect hc, fun hn => ⟨h, fun _ => hn, fun hn => absurd hc hn⟩⟩
  have hparses : p.Parses ↔ (p.scheme = none → p.path = none → (p.uriParts none).isSome) :=
    ⟨fun hp => hp.connect hc, fun hp =>
      ⟨fun _ => hp, fun hn => absurd hc hn, fun hn => absurd hc hn⟩⟩
  have hrequest := framesToRequest_connect headers streamId h hc
  rw [hparses]
  by_cases hn : p.scheme = none ∧ p.path = none
  · rw [if_neg (by simp [hn])] at hrequest
    rcases huri : p.uriParts none with _ | uri
    · rw [huri] at hrequest
      refine iff_of_false (Judged.not_panic hrequest) fun hp => ?_
      cases hp hn.1 hn.2
    · rw [huri] at hrequest
      rw [Judged.ok_iff hrequest, hgrammar]
      exact iff_of_true hn fun _ _ => rfl
  · rw [if_pos (by simpa [Option.isSome_iff_ne_none, or_iff_not_imp_left] using hn)] at hrequest
    rw [Judged.malformed_iff hrequest, hgrammar]
    exact iff_of_true hn fun hs hpath => absurd ⟨hs, hpath⟩ hn

theorem framesToRequest_judged_target (h : p.Named) (hc : ¬p.PlainConnect) :
    Judged p headers streamId ↔ p.Parses := by
  have hgrammar : p.Grammar ↔ p.Target :=
    ⟨fun g => g.target hc, fun ht => ⟨h, fun hn => absurd hn hc, fun _ => ht⟩⟩
  have hrequest := framesToRequest_target headers streamId h hc
  rcases hs : p.scheme with _ | s
  · rw [hs] at hrequest
    rw [Judged.malformed_iff hrequest, hgrammar]
    refine iff_of_true (fun ⟨s, _, _, hsome, _⟩ => ?_)
      ⟨fun hn => absurd hn hc, fun _ s hsome => ?_, fun _ hsome => ?_⟩
    · cases hs.symm.trans hsome
    · cases hs.symm.trans hsome
    · cases hs ▸ hsome
  rw [hs] at hrequest
  dsimp only at hrequest
  rcases hscheme : HeaderPlz.schemeTryFrom s with _ | scheme
  · rw [hscheme] at hrequest
    refine iff_of_false (Judged.not_panic hrequest) fun hp => ?_
    obtain ⟨scheme, hsome, _⟩ := hp.scheme hc s hs
    cases hscheme.symm.trans hsome
  rw [hscheme, Option.bind_some] at hrequest
  by_cases hpath : p.path = some [] ∨ (p.path = none ∧ p.method = some HeaderPlz.CONNECT)
  · rw [if_pos hpath] at hrequest
    rw [Judged.malformed_iff hrequest, hgrammar]
    refine iff_of_true (fun ⟨_, _, path, _, hsome, hne, _⟩ => ?_)
      ⟨fun hn => absurd hn hc, fun _ s' hs' => ?_, fun _ _ hnone => ?_⟩
    · rcases hpath with hpath | ⟨hpath, _⟩
      · exact hne (Option.some.inj (hsome.symm.trans hpath))
      · cases hpath.symm.trans hsome
    · cases hs.symm.trans hs'
      refine ⟨scheme, hscheme, fun path hsome hne => ?_⟩
      rcases hpath with hpath | ⟨hpath, _⟩
      · exact absurd (Option.some.inj (hsome.symm.trans hpath)) hne
      · cases hpath.symm.trans hsome
    · rcases hpath with hpath | ⟨_, hmethod⟩
      · cases hpath.symm.trans hnone
      · exact hmethod
  rw [if_neg hpath] at hrequest
  rcases hp : p.path with _ | path
  · -- without a path the request is built or panics, and it should be rejected
    refine iff_of_false (fun judged => ?_) fun hparses => ?_
    · have hg : ¬p.Grammar := fun g => by
        obtain ⟨_, _, _, _, hsome, _⟩ := hgrammar.mp g
        cases hp.symm.trans hsome
      rw [judged.rejected hg] at hrequest
      rcases huri : p.uriParts (some scheme) with _ | uri
      all_goals rw [huri] at hrequest; cases hrequest
    · exact hpath (.inr ⟨hp, hparses.path hc (hs ▸ rfl) hp⟩)
  have hne : path ≠ [] := fun he => hpath (.inl (he ▸ hp))
  rcases huri : p.uriParts (some scheme) with _ | uri
  · rw [huri] at hrequest
    refine iff_of_false (Judged.not_panic hrequest) fun hparses => ?_
    obtain ⟨scheme', hsome, hbuild⟩ := hparses.scheme hc s hs
    cases hscheme.symm.trans hsome
    have hisSome := hbuild path hp hne
    rw [huri] at hisSome
    cases hisSome
  · rw [huri] at hrequest
    rw [Judged.ok_iff hrequest, hgrammar]
    refine iff_of_true ⟨s, scheme, path, hs, hp, hne, hscheme, huri ▸ rfl⟩
      ⟨fun hn => absurd hn hc, fun _ s' hs' => ?_, fun _ _ hnone => ?_⟩
    · cases hs.symm.trans hs'
      exact ⟨scheme, hscheme, fun _ _ _ => huri ▸ rfl⟩
    · cases hp.symm.trans hnone

end

end

omit [StoreCrates] in
/-- `frames_to_request` follows the grammar exactly when the parsers accept what reaches them and
a request other than CONNECT that has a scheme has a path. -/
theorem framesToRequest_judged_iff (p : Pseudo) (headers : HeaderMap) (streamId : Nat) :
    Judged p headers streamId ↔ (p.Named → p.Parses) := by
  by_cases h : p.Named
  · rw [forall_prop_of_true h]
    by_cases hc : p.PlainConnect
    · exact framesToRequest_judged_connect h hc
    · exact framesToRequest_judged_target h hc
  · rw [forall_prop_of_false h, iff_true]
    exact ⟨fun g => absurd g.toNamed h, fun _ => framesToRequest_unnamed h⟩

end

section

attribute [local instance] plain plainCrates

def unparsedPseudo : Pseudo :=
  { Pseudo.default with
    method := some HeaderPlz.GET
    scheme := some (ascii "http")
    path := some (ascii "/ a") }

/-- The server panics on it instead of resetting the stream. -/
theorem framesToRequest_judged_path :
    framesToRequest unparsedPseudo [] 1 = none ∧ ¬Judged unparsedPseudo [] 1 := by
  have hnone : framesToRequest unparsedPseudo [] 1 = none := by
    have h : (framesToRequest unparsedPseudo [] 1).isNone := by decide +kernel
    exact Option.isNone_iff_eq_none.mp h
  exact ⟨hnone, Judged.not_panic hnone⟩

end

end TwoPlz
