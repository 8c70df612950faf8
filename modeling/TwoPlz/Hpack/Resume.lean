import TwoPlz.Hpack.Scan
import TwoPlz.Plain

/-! Decoding a header block in parts. -/

namespace TwoPlz.Hpack

section

variable [HeaderPlz]

/-- The rounds of a decoder on a block that it accepts, with the headers that they emit. -/
inductive Accepts : Bool → Decoder → Bytes → List Header → Decoder → Prop
  | done {canResize : Bool} {d : Decoder} : Accepts canResize d [] [] d
  | round {canResize : Bool} {d d₁ d' : Decoder} {ty : UInt8} {bs rest : Bytes} {rep : Rep}
      {entries out : List Header} :
      scanOne d.table [] canResize (ty :: bs) = .ok ((rep, []), rest) →
      rep.apply d = some (.ok (d₁, entries)) → Accepts rep.canResize d₁ rest out d' →
      Accepts canResize d (ty :: bs) (entries ++ out) d'

theorem Rep.apply_keeps {rep : Rep} {d d' : Decoder} {entries : List Header}
    (h : rep.apply d = some (.ok (d', entries))) :
    d'.buffer = d.buffer ∧ d'.maxSizeUpdate = d.maxSizeUpdate := by
  cases rep with
  | indexed entry =>
    cases h
    exact ⟨rfl, rfl⟩
  | literal name value index =>
    rw [Rep.apply] at h
    split at h
    · cases h
    · split at h
      · obtain ⟨t, -, heq⟩ := Option.map_eq_some_iff.mp h
        cases heq
        exact ⟨rfl, rfl⟩
      · cases h
        exact ⟨rfl, rfl⟩
  | sizeUpdate newSize =>
    rw [Rep.apply] at h
    split at h
    · cases h
    · obtain ⟨t, -, heq⟩ := Option.map_eq_some_iff.mp h
      cases heq
      exact ⟨rfl, rfl⟩

theorem scanOne_true {t : DynamicTable} {buffer bs : Bytes} {canResize : Bool} {r : (Rep × Bytes) × Bytes}
    (h : scanOne t buffer canResize bs = .ok r) : scanOne t buffer true bs = .ok r := by
  cases canResize with
  | true => exact h
  | false =>
    unfold scanOne at h ⊢
    split at h
    · cases h
    · split at h
      · cases h
      · exact h
      · exact h
      · exact h
      · exact h
      · rw [if_pos (show (!false) = true from rfl)] at h
        cases h

theorem Accepts.resize {canResize : Bool} {d d' : Decoder} {bs : Bytes} {out : List Header}
    (h : Accepts canResize d bs out d') : Accepts true d bs out d' := by
  cases h with
  | done => exact .done
  | round hscan happly hrest => exact .round (scanOne_true hscan) happly hrest

variable {canResize : Bool} {d d' : Decoder} {bs : Bytes} {out emitted : List Header} {rounds : Nat}

theorem decodeLoop_nil : decodeLoop rounds canResize ⟨d, ⟨[], 0⟩, emitted⟩ =
    some (.ok (), ⟨d, ⟨[], 0⟩, emitted⟩) := by
  cases rounds <;> rfl

theorem decodeLoop_cons {ty : UInt8} : decodeLoop (rounds + 1) canResize ⟨d, ⟨ty :: bs, 0⟩, emitted⟩ =
    (decodeOne ty canResize >>= decodeLoop rounds) ⟨d, ⟨ty :: bs, 0⟩, emitted⟩ := rfl

theorem decodeOne_cases (hbuffer : d.buffer = []) (ty : UInt8) (emitted : List Header) :
    (∃ rep rest, scanOne d.table [] canResize (ty :: bs) = .ok ((rep, []), rest) ∧
      match rep.apply d with
      | none => decodeOne ty canResize ⟨d, ⟨ty :: bs, 0⟩, emitted⟩ = none
      | some (.error e) =>
        ∃ src, decodeOne ty canResize ⟨d, ⟨ty :: bs, 0⟩, emitted⟩ = some (.error e, ⟨d, src, emitted⟩)
      | some (.ok (d₁, entries)) =>
        decodeOne ty canResize ⟨d, ⟨ty :: bs, 0⟩, emitted⟩ =
          some (.ok rep.canResize, ⟨d₁, ⟨rest, 0⟩, emitted ++ entries⟩)) ∨
    ∃ e left position, scanOne d.table [] canResize (ty :: bs) = .error e ∧ (e.IsNeedMore → left = []) ∧
      decodeOne ty canResize ⟨d, ⟨ty :: bs, 0⟩, emitted⟩ =
        some (.error e, ⟨{ d with buffer := left }, ⟨ty :: bs, position⟩, emitted⟩) := by
  have hempty : { d with buffer := [] } = d := by rw [← hbuffer]
  have hends := decodeOne_ends (s := ⟨d, ⟨ty :: bs, 0⟩, emitted⟩) (Cursor.at_zero _) canResize
  rw [show (⟨d, ⟨ty :: bs, 0⟩, emitted⟩ : Decoding).decoder.buffer = [] from hbuffer] at hends
  rcases hends with ⟨rep, left, rest, hscan, hone⟩ | ⟨e, left, position, hscan, hmore, hone⟩
  · obtain rfl := scanOne_left hscan
    simp only [hempty] at hone
    exact .inl ⟨rep, rest, hscan, hone⟩
  · exact .inr ⟨e, left, position, hscan, fun hneed => hmore hneed hbuffer, hone⟩

theorem decodeLoop_round (hbuffer : d.buffer = []) {ty : UInt8} {rest : Bytes} {rep : Rep}
    {d₁ : Decoder} {entries : List Header}
    (hscan : scanOne d.table [] canResize (ty :: bs) = .ok ((rep, []), rest))
    (happly : rep.apply d = some (.ok (d₁, entries))) :
    decodeLoop (rounds + 1) canResize ⟨d, ⟨ty :: bs, 0⟩, emitted⟩ =
      decodeLoop rounds rep.canResize ⟨d₁, ⟨rest, 0⟩, emitted ++ entries⟩ := by
  rcases decodeOne_cases hbuffer ty emitted with ⟨rep', rest', hscan', hone⟩ | ⟨e, left, position, hscan', -, -⟩
  · rw [hscan] at hscan'
    cases hscan'
    rw [happly] at hone
    rw [decodeLoop_cons, DecodeM.bind_ok hone]
  · rw [hscan] at hscan'
    cases hscan'

theorem Accepts.decodeLoop (h : Accepts canResize d bs out d') (hbuffer : d.buffer = [])
    (hrounds : bs.length ≤ rounds) :
    decodeLoop rounds canResize ⟨d, ⟨bs, 0⟩, emitted⟩ = some (.ok (), ⟨d', ⟨[], 0⟩, emitted ++ out⟩) := by
  induction h generalizing emitted rounds with
  | done => rw [decodeLoop_nil, List.append_nil]
  | round hscan happly hrest ih =>
    obtain ⟨used, hused, hbs⟩ := scanOne_consumes _ _ _ hscan
    obtain ⟨rounds, rfl⟩ : ∃ n, rounds = n + 1 := ⟨rounds - 1, by rw [List.length_cons] at hrounds; omega⟩
    have hlen := congrArg List.length hbs
    have hpos := List.length_pos_iff.mpr hused
    rw [List.length_append] at hlen
    rw [decodeLoop_round hbuffer hscan happly,
      ih ((Rep.apply_keeps happly).1.trans hbuffer) (by omega), List.append_assoc]

theorem Accepts.of_decodeLoop {s : Decoding} (hbuffer : d.buffer = [])
    (h : Hpack.decodeLoop rounds canResize ⟨d, ⟨bs, 0⟩, emitted⟩ = some (.ok (), s)) :
    ∃ out, Accepts canResize d bs out s.decoder ∧ s.emitted = emitted ++ out := by
  induction rounds generalizing canResize d bs emitted with
  | zero =>
    cases bs with
    | nil =>
      rw [decodeLoop_nil] at h
      cases h
      exact ⟨[], .done, (List.append_nil _).symm⟩
    | cons ty bs => cases h
  | succ rounds ih =>
    cases bs with
    | nil =>
      rw [decodeLoop_nil] at h
      cases h
      exact ⟨[], .done, (List.append_nil _).symm⟩
    | cons ty bs =>
      rw [decodeLoop_cons] at h
      rcases decodeOne_cases hbuffer ty emitted with ⟨rep, rest, hscan, hone⟩ | ⟨e, left, position, -, -, hone⟩
      · match happly : rep.apply d with
        | none =>
          rw [happly] at hone
          rw [DecodeM.bind_none hone] at h
          cases h
        | some (.error e) =>
          rw [happly] at hone
          obtain ⟨src, hone⟩ := hone
          rw [DecodeM.bind_error hone] at h
          cases h
        | some (.ok (d₁, entries)) =>
          rw [happly] at hone
          rw [DecodeM.bind_ok hone] at h
          obtain ⟨out, haccepts, hout⟩ := ih ((Rep.apply_keeps happly).1.trans hbuffer) h
          exact ⟨entries ++ out, .round hscan happly haccepts, by rw [hout, List.append_assoc]⟩
      · rw [DecodeM.bind_error hone] at h
        cases h

/-- A first part of a block that is accepted: what is left of it together with the rest of the block
is accepted as well. -/
theorem Accepts.part {ys : Bytes} (h : Accepts canResize d (bs ++ ys) out d') (hbuffer : d.buffer = [])
    (hrounds : bs.length ≤ rounds) (emitted : List Header) :
    ∃ r s out₁ out₂, Hpack.decodeLoop rounds canResize ⟨d, ⟨bs, 0⟩, emitted⟩ = some (r, s) ∧
      (r = .ok () ∨ ∃ n, r = .error (.needMore n)) ∧ s.emitted = emitted ++ out₁ ∧
      out = out₁ ++ out₂ ∧ Accepts true s.decoder (s.src.buf ++ ys) out₂ d' ∧
      s.decoder.buffer = [] ∧ s.decoder.maxSizeUpdate = d.maxSizeUpdate := by
  generalize hzs : bs ++ ys = zs at h
  induction h generalizing bs emitted rounds with
  | @done canResize d =>
    obtain ⟨rfl, rfl⟩ := List.append_eq_nil_iff.mp hzs
    exact ⟨_, _, [], [], decodeLoop_nil, .inl rfl, (List.append_nil _).symm, rfl, .done, hbuffer, rfl⟩
  | @round canResize d d₁ d' ty tail rest rep entries out hscan happly hrest ih =>
    cases bs with
    | nil =>
      have hagain := (Accepts.round hscan happly hrest).resize
      rw [← hzs] at hagain
      exact ⟨_, _, [], _, decodeLoop_nil, .inl rfl, (List.append_nil _).symm, rfl, hagain, hbuffer, rfl⟩
    | cons b bs =>
      obtain ⟨rfl, rfl⟩ := List.cons.inj hzs
      obtain ⟨rounds, rfl⟩ : ∃ n, rounds = n + 1 :=
        ⟨rounds - 1, by rw [List.length_cons] at hrounds; omega⟩
      change scanOne d.table [] canResize ((b :: bs) ++ ys) = _ at hscan
      rcases scanOne_resumable _ _ _ hscan with ⟨rest', rfl, hscan'⟩ | ⟨e, hneed, hscan'⟩
      · obtain ⟨used, hused, hbs⟩ := scanOne_consumes _ _ _ hscan'
        have hlen := congrArg List.length hbs
        have hpos := List.length_pos_iff.mpr hused
        rw [List.length_append] at hlen
        have hshort : rest'.length ≤ rounds := by
          rw [List.length_cons] at hlen hrounds
          omega
        obtain ⟨hbuffer₁, hupdate₁⟩ := Rep.apply_keeps happly
        obtain ⟨r, s, out₁, out₂, hloop, hr, hemitted, hout, haccepts, hsbuffer, hsupdate⟩ :=
          ih (hbuffer₁.trans hbuffer) hshort (emitted ++ entries) rfl
        refine ⟨r, s, entries ++ out₁, out₂, ?_, hr, ?_, ?_, haccepts, hsbuffer, hsupdate.trans hupdate₁⟩
        · rw [decodeLoop_round hbuffer hscan' happly, hloop]
        · rw [hemitted, List.append_assoc]
        · rw [hout, List.append_assoc]
      · rcases decodeOne_cases hbuffer b emitted with
          ⟨rep', rest', hscan'', -⟩ | ⟨e', left, position, hscan'', hmore, hone⟩
        · rw [hscan'] at hscan''
          cases hscan''
        · rw [hscan'] at hscan''
          cases hscan''
          obtain ⟨n, rfl⟩ := hneed
          have hagain := (Accepts.round hscan happly hrest).resize
          have hempty : { d with buffer := left } = d := by rw [hmore ⟨n, rfl⟩, ← hbuffer]
          rw [hempty] at hone
          have hloop : Hpack.decodeLoop (rounds + 1) canResize ⟨d, ⟨b :: bs, 0⟩, emitted⟩ =
              some (.error (.needMore n), ⟨d, ⟨b :: bs, position⟩, emitted⟩) := by
            rw [decodeLoop_cons, DecodeM.bind_error hone]
          exact ⟨_, _, [], _, hloop, .inr ⟨n, rfl⟩, (List.append_nil _).symm, rfl, hagain, hbuffer, rfl⟩

namespace Decoder

/-- The fragments of a block one after the other, each behind the bytes that were left of those
before it, as the arm for CONTINUATION in `decode_frame` does it.  The results of the calls, the
decoder, the bytes that are left and the headers that were emitted. -/
def feed : Decoder → Bytes → List Bytes →
    Option (List (Except DecoderError Unit) × Decoder × Bytes × List Header)
  | d, left, [] => some ([], d, left, [])
  | d, left, fragment :: fragments => do
    let (r, s) ← d.decode (left ++ fragment)
    let (rs, d, left, out) ← feed s.decoder s.src.buf fragments
    some (r :: rs, d, left, s.emitted ++ out)

theorem takeSizeUpdate_idle {d : Decoder} (hbuffer : d.buffer = []) :
    d.takeSizeUpdate.buffer = [] ∧ d.takeSizeUpdate.maxSizeUpdate = none := by
  unfold takeSizeUpdate
  split
  · exact ⟨hbuffer, rfl⟩
  · rename_i hnone
    exact ⟨hbuffer, hnone⟩

theorem decode_part {d d' : Decoder} {part ys : Bytes} {out : List Header} (hbuffer : d.buffer = [])
    (h : Accepts true d.takeSizeUpdate (part ++ ys) out d') :
    ∃ r s out', d.decode part = some (r, s) ∧ (r = .ok () ∨ ∃ n, r = .error (.needMore n)) ∧
      out = s.emitted ++ out' ∧ Accepts true s.decoder.takeSizeUpdate (s.src.buf ++ ys) out' d' ∧
      s.decoder.buffer = [] := by
  obtain ⟨htake, hnone⟩ := takeSizeUpdate_idle hbuffer
  obtain ⟨r, s, out₁, out₂, hloop, hr, hemitted, rfl, haccepts, hsbuffer, hsupdate⟩ :=
    h.part htake (Nat.le_refl _) []
  have hstake : s.decoder.takeSizeUpdate = s.decoder := by
    rw [takeSizeUpdate, hsupdate, hnone]
  exact ⟨r, s, out₂, hloop, hr, by rw [hemitted, List.nil_append], hstake.symm ▸ haccepts, hsbuffer⟩

theorem feed_accepts {left : Bytes} {fragments : List Bytes} (hne : fragments ≠ [])
    (h : Accepts true d.takeSizeUpdate (left ++ fragments.flatten) out d') (hbuffer : d.buffer = []) :
    ∃ rs, d.feed left fragments = some (rs, d', [], out) ∧ rs.getLast? = some (.ok ()) ∧
      ∀ r ∈ rs.dropLast, r = .ok () ∨ ∃ n, r = .error (.needMore n) := by
  induction fragments generalizing d left out with
  | nil => exact absurd rfl hne
  | cons fragment fragments ih =>
    rw [List.flatten_cons, ← List.append_assoc] at h
    cases fragments with
    | nil =>
      rw [List.flatten_nil, List.append_nil] at h
      have hdecode : d.decode (left ++ fragment) = some (.ok (), ⟨d', ⟨[], 0⟩, out⟩) := by
        rw [decode, h.decodeLoop (takeSizeUpdate_idle hbuffer).1 (Nat.le_refl _), List.nil_append]
      refine ⟨[.ok ()], ?_, rfl, nofun⟩
      simp [feed, hdecode]
    | cons next fragments =>
      obtain ⟨r, s, out', hdecode, hr, rfl, haccepts, hsbuffer⟩ := decode_part hbuffer h
      obtain ⟨rs, hfeed, hlast, hall⟩ := ih (List.cons_ne_nil _ _) haccepts hsbuffer
      have hne' : rs ≠ [] := by
        rintro rfl
        cases hlast
      refine ⟨r :: rs, ?_, ?_, ?_⟩
      · rw [feed, hdecode]
        simp only [Option.bind_eq_bind, Option.bind_some, hfeed]
      · rw [List.getLast?_cons_of_ne_nil hne', hlast]
      · rw [List.dropLast_cons_of_ne_nil hne']
        intro r' hr'
        rcases List.mem_cons.mp hr' with rfl | hr'
        · exact hr
        · exact hall r' hr'

/-- A block in fragments is decoded as the block, by a decoder in which no Huffman string has
failed. -/
theorem feed_eq_decode (d : Decoder) (hbuffer : d.buffer = []) (block : Bytes) (s : Decoding)
    (h : d.decode block = some (.ok (), s)) (fragments : List Bytes) (hne : fragments ≠ [])
    (hblock : fragments.flatten = block) :
    ∃ rs, d.feed [] fragments = some (rs, s.decoder, [], s.emitted) ∧
      rs.getLast? = some (.ok ()) ∧ ∀ r ∈ rs.dropLast, r = .ok () ∨ ∃ n, r = .error (.needMore n) := by
  obtain ⟨out, haccepts, hout⟩ := Accepts.of_decodeLoop (takeSizeUpdate_idle hbuffer).1 h
  rw [List.nil_append] at hout
  rw [hout]
  rw [← hblock] at haccepts
  exact feed_accepts hne haccepts hbuffer

end Decoder

end

section

attribute [local instance] plain

def literalBlock : Bytes := [0x00, 0x81, 0x1f, 0x00]

theorem feed_eq_decode_literal :
    ∃ s rs, (Decoder.new 4096).decode literalBlock = some (.ok (), s) ∧
      (Decoder.new 4096).feed [] [[0x00, 0x81], [0x1f], [0x00]] = some (rs, s.decoder, [], s.emitted) ∧
      s.emitted = [.field [0x61] []] := by
  have hdecode : ((Decoder.new 4096).decode literalBlock).map (fun r => (r.1.toBool, r.2.emitted)) =
      some (true, [.field [0x61] []]) := by decide +kernel
  obtain ⟨⟨r, s⟩, hs, hr⟩ := Option.map_eq_some_iff.mp hdecode
  cases r with
  | error e => cases congrArg Prod.fst hr
  | ok _ =>
    obtain ⟨rs, hfeed, -⟩ := Decoder.feed_eq_decode (Decoder.new 4096) rfl literalBlock s hs
      [[0x00, 0x81], [0x1f], [0x00]] (List.cons_ne_nil _ _) rfl
    exact ⟨s, rs, hs, hfeed, congrArg Prod.snd hr⟩

/-- A Huffman string that fails after its first symbol leaves that in the buffer of the decoder.  It
is put before the next Huffman string, or lost with a fragment. -/
theorem feed_after_error :
    ∃ d s rs d' left out, ((Decoder.new 4096).decode [0x00, 0x81, 0x18]).map (·.2.decoder) = some d ∧
      d.decode literalBlock = some (.ok (), s) ∧
      d.feed [] [[0x00, 0x81, 0x1f], [0x00]] = some (rs, d', left, out) ∧ out ≠ s.emitted := by
  let d : Decoder := { Decoder.new 4096 with buffer := [0x61] }
  have herror : ((Decoder.new 4096).decode [0x00, 0x81, 0x18]).map (·.2.decoder) = some d := by
    decide +kernel
  have hdecode : (d.decode literalBlock).map (fun r => (r.1.toBool, r.2.emitted)) =
      some (true, [.field [0x61, 0x61] []]) := by decide +kernel
  have hfeed : (d.feed [] [[0x00, 0x81, 0x1f], [0x00]]).map (·.2.2.2) = some [.field [0x61] []] := by
    decide +kernel
  obtain ⟨⟨r, s⟩, hs, hr⟩ := Option.map_eq_some_iff.mp hdecode
  obtain ⟨⟨rs, d', left, out⟩, hf, hout⟩ := Option.map_eq_some_iff.mp hfeed
  cases r with
  | error e => cases congrArg Prod.fst hr
  | ok _ =>
    refine ⟨d, s, rs, d', left, out, herror, hs, hf, ?_⟩
    rw [show s.emitted = _ from congrArg Prod.snd hr, show out = _ from hout]
    decide

end

end TwoPlz.Hpack
