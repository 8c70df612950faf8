import TwoPlz.Hpack.Written

/-! The static table of the encoder beside that of the decoder. -/

namespace TwoPlz.Hpack

section

variable [HeaderPlz]

/-- The constants of `header_plz`: the numbers of the status codes, and two names that differ. -/
structure Constants : Prop where
  acceptEncoding : HeaderPlz.constHeader .acceptCharset ≠ HeaderPlz.constHeader .acceptEncoding
  statusToU16 : Function.Injective HeaderPlz.statusToU16
  ok : HeaderPlz.statusToU16 HeaderPlz.OK = 200
  noContent : HeaderPlz.statusToU16 HeaderPlz.NO_CONTENT = 204
  partialContent : HeaderPlz.statusToU16 HeaderPlz.PARTIAL_CONTENT = 206
  notModified : HeaderPlz.statusToU16 HeaderPlz.NOT_MODIFIED = 304
  badRequest : HeaderPlz.statusToU16 HeaderPlz.BAD_REQUEST = 400
  notFound : HeaderPlz.statusToU16 HeaderPlz.NOT_FOUND = 404
  internalServerError : HeaderPlz.statusToU16 HeaderPlz.INTERNAL_SERVER_ERROR = 500

/-- What the static tables have to agree on for a header: a full match is the entry of the decoder,
which decodes it unchanged, and a match of the name has its name. -/
structure StaticExact (h : Header) : Prop where
  full : ∀ n, indexStatic h = some (n, true) → getStatic n = some h
  name : ∀ n, indexStatic h = some (n, false) → ∃ e, getStatic n = some e ∧ e.name = h.name
  decoded : ∀ n, indexStatic h = some (n, true) → ∀ d : Decoder, d.buffer = [] →
    d.decode (encodeInt n 7 0x80) = some (.ok (), ⟨d.takeSizeUpdate, ⟨[], 0⟩, [h]⟩)

/-- An `accept-encoding` whose value differs from the one in the table in the case of letters. -/
def OtherCase (h : Header) : Prop :=
  ∃ value, h = .field (HeaderPlz.constHeader .acceptEncoding) value
    ∧ isGzipDeflate value ∧ value ≠ ascii "gzip, deflate"

omit [HeaderPlz] in
theorem staticFields_get :
    ∀ arm ∈ staticFields, 15 ≤ arm.2 ∧ arm.2 ≤ 61 ∧ staticNames[arm.2 - 15]? = some arm.1 := by
  decide +kernel

theorem getStatic_arm {arm : ConstHeader × Nat} (h : arm ∈ staticFields) :
    getStatic arm.2 = some (.field (HeaderPlz.constHeader arm.1)
      (if arm.1 = .acceptEncoding then ascii "gzip, deflate" else [])) := by
  obtain ⟨hlow, -, hget⟩ := staticFields_get arm h
  obtain ⟨n, hn⟩ : ∃ n, arm.2 = n + 15 := ⟨arm.2 - 15, by omega⟩
  rw [hn, Nat.add_sub_cancel] at hget
  rw [hn, getStatic, hget, Option.map_some]

theorem indexStatic_field {name value : Bytes} {n : Nat} {full : Bool}
    (h : indexStatic (.field name value) = some (n, full)) :
    ∃ arm ∈ staticFields, HeaderPlz.constHeader arm.1 = name ∧ arm.2 = n
      ∧ full = (arm.1 == .acceptEncoding && isGzipDeflate value) := by
  rw [indexStatic] at h
  obtain ⟨arm, hfind, heq⟩ := Option.map_eq_some_iff.mp h
  have hname := List.find?_some hfind
  cases heq
  exact ⟨arm, List.mem_of_find?_eq_some hfind, beq_iff_eq.mp hname, rfl, rfl⟩

theorem indexStatic_range {h : Header} {n : Nat} {full : Bool} (hs : indexStatic h = some (n, full)) :
    n ≠ 0 ∧ n ≤ 61 := by
  cases h with
  | field name value =>
    obtain ⟨arm, harm, -, rfl, -⟩ := indexStatic_field hs
    obtain ⟨hlow, hhigh, -⟩ := staticFields_get arm harm
    omega
  | _ =>
    simp only [indexStatic] at hs
    repeat' split at hs
    all_goals
      cases hs
    all_goals omega

theorem indexStatic_method {v : HeaderPlz.Method} {n : Nat} {full : Bool}
    (hs : indexStatic (.method v) = some (n, full)) :
    ∃ e, getStatic n = some e ∧ e.name = .method ∧ (full = true → e = .method v) := by
  rw [indexStatic] at hs
  split at hs
  · rename_i hget
    cases hs
    exact ⟨_, rfl, rfl, fun _ => by rw [hget]⟩
  split at hs
  · rename_i hpost
    cases hs
    exact ⟨_, rfl, rfl, fun _ => by rw [hpost]⟩
  · cases hs
    exact ⟨_, rfl, rfl, fun h => by cases h⟩

theorem indexStatic_scheme {v : Bytes} {n : Nat} {full : Bool}
    (hs : indexStatic (.scheme v) = some (n, full)) :
    ∃ e, getStatic n = some e ∧ e.name = .scheme ∧ (full = true → e = .scheme v) := by
  rw [indexStatic] at hs
  split at hs
  · rename_i hhttp
    cases hs
    exact ⟨_, rfl, rfl, fun _ => by rw [hhttp]⟩
  split at hs
  · rename_i hhttps
    cases hs
    exact ⟨_, rfl, rfl, fun _ => by rw [hhttps]⟩
  · cases hs
    exact ⟨_, rfl, rfl, fun h => by cases h⟩

theorem indexStatic_path {v : Bytes} {n : Nat} {full : Bool}
    (hs : indexStatic (.path v) = some (n, full)) :
    ∃ e, getStatic n = some e ∧ e.name = .path ∧ (full = true → e = .path v) := by
  rw [indexStatic] at hs
  split at hs
  · rename_i hroot
    cases hs
    exact ⟨_, rfl, rfl, fun _ => by rw [hroot]⟩
  split at hs
  · rename_i hindex
    cases hs
    exact ⟨_, rfl, rfl, fun _ => by rw [hindex]⟩
  · cases hs
    exact ⟨_, rfl, rfl, fun h => by cases h⟩

theorem indexStatic_status (hc : Constants) {v : HeaderPlz.StatusCode} {n : Nat} {full : Bool}
    (hs : indexStatic (.status v) = some (n, full)) :
    ∃ e, getStatic n = some e ∧ e.name = .status ∧ (full = true → e = .status v) := by
  have hcode : ∀ {code : HeaderPlz.StatusCode} {number : Nat}, HeaderPlz.statusToU16 code = number →
      HeaderPlz.statusToU16 v = number → Header.status code = Header.status v := by
    intro code number hcode hv
    rw [hc.statusToU16 (hcode.trans hv.symm)]
  simp only [indexStatic] at hs
  split at hs
  · rename_i hv
    cases hs
    exact ⟨_, rfl, rfl, fun _ => hcode hc.ok hv⟩
  · rename_i hv
    cases hs
    exact ⟨_, rfl, rfl, fun _ => hcode hc.noContent hv⟩
  · rename_i hv
    cases hs
    exact ⟨_, rfl, rfl, fun _ => hcode hc.partialContent hv⟩
  · rename_i hv
    cases hs
    exact ⟨_, rfl, rfl, fun _ => hcode hc.notModified hv⟩
  · rename_i hv
    cases hs
    exact ⟨_, rfl, rfl, fun _ => hcode hc.badRequest hv⟩
  · rename_i hv
    cases hs
    exact ⟨_, rfl, rfl, fun _ => hcode hc.notFound hv⟩
  · rename_i hv
    cases hs
    exact ⟨_, rfl, rfl, fun _ => hcode hc.internalServerError hv⟩
  · cases hs
    exact ⟨_, rfl, rfl, fun h => by cases h⟩

theorem indexStatic_get (hc : Constants) {h : Header} {n : Nat} {full : Bool}
    (hs : indexStatic h = some (n, full)) :
    ∃ e, getStatic n = some e ∧ e.name = h.name ∧ (full = true → e = h ∨ OtherCase h) := by
  have hexact : (∃ e, getStatic n = some e ∧ e.name = h.name ∧ (full = true → e = h)) →
      ∃ e, getStatic n = some e ∧ e.name = h.name ∧ (full = true → e = h ∨ OtherCase h) :=
    fun ⟨e, hget, hname, he⟩ => ⟨e, hget, hname, fun hfull => .inl (he hfull)⟩
  cases h with
  | field name value =>
    obtain ⟨arm, harm, rfl, rfl, hfull⟩ := indexStatic_field hs
    refine ⟨_, getStatic_arm harm, rfl, fun htrue => ?_⟩
    rw [htrue, eq_comm, Bool.and_eq_true, beq_iff_eq] at hfull
    rw [if_pos hfull.1]
    by_cases hvalue : value = ascii "gzip, deflate"
    · exact .inl (by rw [hvalue])
    · exact .inr ⟨value, by rw [hfull.1], hfull.2, hvalue⟩
  | authority v =>
    cases hs
    exact hexact ⟨_, rfl, rfl, fun h => by cases h⟩
  | method v => exact hexact (indexStatic_method hs)
  | scheme v => exact hexact (indexStatic_scheme hs)
  | path v => exact hexact (indexStatic_path hs)
  | protocol v => cases hs
  | status v => exact hexact (indexStatic_status hc hs)

theorem staticExact_of (h : Header)
    (hget : ∀ n full, indexStatic h = some (n, full) →
      ∃ e, getStatic n = some e ∧ e.name = h.name ∧ (full = true → e = h)) : StaticExact h := by
  have hfull : ∀ n, indexStatic h = some (n, true) → getStatic n = some h := by
    intro n hn
    obtain ⟨e, hget, -, he⟩ := hget n true hn
    rw [hget, he rfl]
  refine ⟨hfull, fun n hn => ?_, fun n hn d hbuffer => ?_⟩
  · obtain ⟨e, hget, hname, -⟩ := hget n false hn
    exact ⟨e, hget, hname⟩
  · obtain ⟨hpos, hmax⟩ := indexStatic_range hn
    have htable : d.takeSizeUpdate.table.get n = some (.ok h) := by
      rw [DynamicTable.get, if_neg hpos, if_pos hmax, hfull n hn, Option.map_some]
    have hrest : Accepts false d.takeSizeUpdate [] [] d.takeSizeUpdate := .done
    have haccepts : Accepts true _ _ _ _ := Accepts.indexed (by omega) htable hrest
    rw [List.append_nil] at haccepts
    exact haccepts.decode hbuffer

theorem indexStatic_acceptEncoding (hc : Constants) {value : Bytes} (h : isGzipDeflate value) :
    indexStatic (.field (HeaderPlz.constHeader .acceptEncoding) value) = some (16, true) := by
  rw [indexStatic, staticFields, List.find?_cons_of_neg (by simpa using hc.acceptEncoding),
    List.find?_cons_of_pos (by simp), Option.map_some, h]
  rfl

/-- The static tables agree on a header unless it is an `accept-encoding` in other case. -/
theorem staticExact_iff (hc : Constants) (h : Header) : StaticExact h ↔ ¬OtherCase h := by
  constructor
  · rintro hexact ⟨value, rfl, hgzip, hne⟩
    have hfull := hexact.full 16 (indexStatic_acceptEncoding hc hgzip)
    have hget : getStatic 16 = some (.field (HeaderPlz.constHeader .acceptEncoding)
        (ascii "gzip, deflate")) := @getStatic_arm _ (.acceptEncoding, 16) (by decide)
    cases hget.symm.trans hfull
    exact hne rfl
  · intro hcase
    refine staticExact_of h fun n full hs => ?_
    obtain ⟨e, hget, hname, he⟩ := indexStatic_get hc hs
    exact ⟨e, hget, hname, fun hfull => (he hfull).resolve_right hcase⟩

end

section

attribute [local instance] plain

theorem staticExact_path : StaticExact (.path (ascii "/")) :=
  have hc : Constants :=
    ⟨by decide +kernel, fun _ _ h => h, rfl, rfl, rfl, rfl, rfl, rfl, rfl⟩
  (staticExact_iff hc (.path (ascii "/"))).mpr fun ⟨_, h, _⟩ => by cases h

/-- The peer is sent `GZIP, deflate` and reads `gzip, deflate`. -/
theorem staticExact_upperCase :
    indexStatic (.field (ascii "accept-encoding") (ascii "GZIP, deflate")) = some (16, true) ∧
      getStatic 16 = some (.field (ascii "accept-encoding") (ascii "gzip, deflate")) ∧
      ¬StaticExact (.field (ascii "accept-encoding") (ascii "GZIP, deflate")) := by
  have hindex : indexStatic (.field (ascii "accept-encoding") (ascii "GZIP, deflate"))
      = some (16, true) := by decide +kernel
  have hget : getStatic 16 = some (.field (ascii "accept-encoding") (ascii "gzip, deflate")) := by
    decide +kernel
  refine ⟨hindex, hget, fun hexact => ?_⟩
  have hne : (Header.field (ascii "accept-encoding") (ascii "gzip, deflate"))
      ≠ .field (ascii "accept-encoding") (ascii "GZIP, deflate") := by decide +kernel
  exact hne (Option.some.inj (hget.symm.trans (hexact.full 16 hindex)))

end

end TwoPlz.Hpack
