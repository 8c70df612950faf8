import TwoPlz.Hpack.Lockstep

/-! What the encoder writes for a list of headers is decoded to that list. -/

open Budget

namespace TwoPlz.Hpack

theorem Huffman.length_wordsOf_le (str : Bytes) : (wordsOf str).length ≤ 30 * str.length := by
  induction str with
  | nil => exact Nat.le_refl _
  | cons b str ih =>
    have hword : (code.word (some b)).length ≤ 30 := by
      have hwidth := encodeTable_width _ (List.mem_of_getElem? (getElem?_wordOf (some b)))
      change (Bits.ofNat _ _).length ≤ 30
      rw [Bits.length_ofNat]
      exact hwidth.2
    have hcons : wordsOf (b :: str) = code.word (some b) ++ wordsOf str := rfl
    rw [hcons, List.length_append, List.length_cons]
    omega

theorem huffmanLen_lt {val : Bytes} (h : val.length < 2 ^ 26) : huffmanLen val < 2 ^ 28 + 127 := by
  have hle := Huffman.length_wordsOf_le val
  rw [huffmanLen]
  omega

section

variable [HeaderPlz]

/-- The conversions of `header_plz` between values and their bytes. -/
structure Conversions : Prop where
  methodFrom : ∀ m, HeaderPlz.methodFrom (HeaderPlz.methodAsRef m) = m
  statusFromBytes : ∀ s, HeaderPlz.statusFromBytes (HeaderPlz.statusAsStr s) = some s

def Name.Sendable : Name → Prop
  | .field name => name ≠ [] ∧ name.head? ≠ some 0x3a ∧ name.length < 2 ^ 26
  | _ => True

def Header.Utf8 : Header → Prop
  | .authority v => validUtf8 v = true
  | .scheme v => validUtf8 v = true
  | .path v => validUtf8 v = true
  | .protocol v => validUtf8 v = true
  | _ => True

structure Header.Sendable (header : Header) : Prop where
  name : header.name.Sendable
  value : header.valueSlice.length < 2 ^ 26
  utf8 : header.Utf8

theorem tryFrom_map {v : Bytes} (h : validUtf8 v = true) (f : Bytes → Header) :
    (tryFrom v).map f = .ok (f v) := by
  rw [tryFrom, if_pos h]
  rfl

theorem Header.intoEntry_eq (hc : Conversions) {header : Header} (h : header.Utf8) :
    header.name.intoEntry header.valueSlice = .ok header := by
  cases header with
  | field name value => rfl
  | authority v => exact tryFrom_map h .authority
  | method v => simp only [Header.name, Name.intoEntry, valueSlice, hc.methodFrom]
  | scheme v => exact tryFrom_map h .scheme
  | path v => exact tryFrom_map h .path
  | protocol v => exact tryFrom_map h .protocol
  | status v => simp only [Header.name, Name.intoEntry, valueSlice, hc.statusFromBytes]

theorem Name.new_of_intoEntry {name : Name} (hname : name.Sendable) {value : Bytes} {e : Header}
    (h : name.intoEntry value = .ok e) : Header.new name.asSlice value = .ok e := by
  cases name with
  | field name =>
    obtain ⟨hne, hcolon, -⟩ := hname
    cases name with
    | nil => exact absurd rfl hne
    | cons first rest =>
      have hfirst : ¬(first == 0x3a) = true := fun heq => hcolon (by rw [beq_iff_eq.mp heq]; rfl)
      simp only [Name.asSlice, Header.new]
      rw [if_neg hfirst]
      exact h
  | authority => exact h
  | method => exact h
  | scheme => exact h
  | path => exact h
  | protocol => exact h
  | status =>
    rw [Name.intoEntry] at h
    rcases hcode : HeaderPlz.statusFromBytes value with _ | code
    · rw [hcode] at h
      cases h
    · rw [hcode] at h
      simp only [Name.asSlice, Header.new, hcode]
      exact h

omit [HeaderPlz] in
theorem Name.length_asSlice {name : Name} (h : name.Sendable) : name.asSlice.length < 2 ^ 26 := by
  cases name with
  | field name => exact h.2.2
  | _ => decide

theorem Header.Sendable.len_lt {header : Header} (h : header.Sendable) : header.len * 4 < 2 ^ 64 := by
  have hvalue := h.value
  cases header with
  | field name value =>
    have hname := h.name.2.2
    simp only [len, valueSlice] at hvalue ⊢
    omega
  | status code => exact (by decide : (32 + 7 + 3) * 4 < 2 ^ 64)
  | _ =>
    simp only [len, valueSlice] at hvalue ⊢
    omega

/-- To decode `out` is to emit a header and to go on with the table `t'`. -/
def Emits (t t' : Table) (out : Bytes) (header : Header) : Prop :=
  ∀ {canResize : Bool} {d d' : Decoder} {rest : Bytes} {outs : List Header},
    d.table = t.dynamic → Accepts false { d with table := t'.dynamic } rest outs d' →
    Accepts canResize d (out ++ rest) (header :: outs) d'

namespace Table

variable {t t' : Table} {k n : Nat} {e : Header}

theorem dynamic_get_static (hn : n ≠ 0 ∧ n ≤ 61) (hget : getStatic n = some e) :
    t.dynamic.get n = some (.ok e) := by
  rw [DynamicTable.get, if_neg hn.1, if_pos hn.2, hget]
  rfl

theorem dynamic_get (hget : t.headers[k]? = some e) : t.dynamic.get (k + DYN_OFFSET) = some (.ok e) := by
  have hentry : t.dynamic.entries[k + DYN_OFFSET - 62]? = some e := by
    rw [DYN_OFFSET, Nat.add_sub_cancel]
    exact hget
  rw [DynamicTable.get, if_neg (by rw [DYN_OFFSET]; omega), if_neg (by rw [DYN_OFFSET]; omega), hentry]

theorem Inv.index_lt {hash : Name → Nat} (h : t.Inv hash) (hsmall : t.maxSize < 2 ^ 32)
    (hget : t.headers[k]? = some e) : k + DYN_OFFSET < 2 ^ 28 := by
  have hcount := t.length_le_total
  have hsize := h.size
  have hbound := h.bound
  obtain ⟨hlt, -⟩ := List.getElem?_eq_some_iff.mp hget
  rw [headers, List.length_map] at hlt
  rw [DYN_OFFSET]
  omega

/-- What an index says about the name of the next header that comes without one. -/
def Refers (t : Table) (name : Name) (index : Index) : Prop :=
  (∃ header, index = .notIndexed header ∧ header.name = name) ∨
    (∀ header, index ≠ .notIndexed header) ∧ ∃ n e, resolveIdx index = some n ∧ n ≠ 0 ∧ n < 2 ^ 28 ∧
      t.dynamic.get n = some (.ok e) ∧ e.name = name

end Table

section

variable {t t' : Table} {n : Nat} {e header : Header} {name : Name} {value dst str : Bytes}

theorem emits_indexed (hn : n < 2 ^ 28) (hget : t.dynamic.get n = some (.ok e))
    (htable : t'.dynamic = t.dynamic) : Emits t t' (encodeInt n 7 0x80) e := by
  intro canResize d d' rest outs hd hrest
  rw [htable, ← hd] at hrest
  exact .indexed (by omega) (hd ▸ hget) hrest

theorem emits_literal (index : Bool) (hpos : n ≠ 0) (hn : n < 2 ^ 28)
    (hget : t.dynamic.get n = some (.ok e))
    (hvalue : ∀ rest, scanString [] (str ++ rest) = .ok ((value, []), rest))
    (hentry : e.name.intoEntry value = .ok header)
    (hinsert : if index then t.dynamic.insert header = some t'.dynamic else t.dynamic = t'.dynamic) :
    Emits t t' (literalHead index n ++ str) header := by
  intro canResize d d' rest outs hd hrest
  rw [List.append_assoc]
  exact .literalIndexedName hpos hn (hd ▸ hget) hvalue hentry (by rw [hd]; exact hinsert) hrest

theorem emits_literal_name (index : Bool) {str' : Bytes} (hname : name.Sendable)
    (hstr : ∀ rest, scanString [] (str ++ rest) = .ok ((name.asSlice, []), rest))
    (hvalue : ∀ rest, scanString [] (str' ++ rest) = .ok ((value, []), rest))
    (hentry : name.intoEntry value = .ok header)
    (hinsert : if index then t.dynamic.insert header = some t'.dynamic else t.dynamic = t'.dynamic) :
    Emits t t' (literalHead index 0 ++ (str ++ str')) header := by
  intro canResize d d' rest outs hd hrest
  rw [List.append_assoc, List.append_assoc]
  exact .literalNewName hstr hvalue (Name.new_of_intoEntry hname hentry) (by rw [hd]; exact hinsert) hrest

theorem encodeNotIndexed_emits (hpos : n ≠ 0) (hn : n < 2 ^ 28) (hget : t.dynamic.get n = some (.ok e))
    (hvalue : value.length < 2 ^ 26) (hentry : e.name.intoEntry value = .ok header) (dst : Bytes) :
    ∃ out, encodeNotIndexed n value false dst = some (dst ++ out) ∧ Emits t t out header := by
  obtain ⟨str, hstr, hscan⟩ := encodeStr_scan value (dst ++ encodeInt n 4 0) (huffmanLen_lt hvalue)
  refine ⟨literalHead false n ++ str, ?_, emits_literal false hpos hn hget hscan hentry rfl⟩
  rw [encodeNotIndexed, if_neg Bool.false_ne_true, hstr, List.append_assoc]
  rfl

theorem encodeNotIndexed2_emits (hname : name.Sendable) (hvalue : value.length < 2 ^ 26)
    (hentry : name.intoEntry value = .ok header) (dst : Bytes) :
    ∃ out, encodeNotIndexed2 name.asSlice value false dst = some (dst ++ out) ∧ Emits t t out header := by
  obtain ⟨str, hstr, hscan⟩ := encodeStr_scan name.asSlice (dst ++ [0])
    (huffmanLen_lt (Name.length_asSlice hname))
  obtain ⟨str', hstr', hscan'⟩ := encodeStr_scan value (dst ++ [0] ++ str) (huffmanLen_lt hvalue)
  refine ⟨literalHead false 0 ++ (str ++ str'), ?_, emits_literal_name false hname hscan hscan' hentry rfl⟩
  rw [encodeNotIndexed2, if_neg Bool.false_ne_true, hstr]
  simp only [Option.bind_eq_bind, Option.bind_some]
  rw [hstr', List.append_assoc, List.append_assoc]
  rfl

theorem encodeHeaderWithoutName_emits {index : Index} (h : t.Refers name index) (hname : name.Sendable)
    (hvalue : value.length < 2 ^ 26) (hentry : name.intoEntry value = .ok header) (dst : Bytes) :
    ∃ out, Encoder.encodeHeaderWithoutName t index value dst = some (dst ++ out) ∧ Emits t t out header := by
  rcases h with ⟨last, rfl, rfl⟩ | ⟨hnot, n, e, hresolve, hpos, hn, hget, rfl⟩
  · exact encodeNotIndexed2_emits hname hvalue hentry dst
  · obtain ⟨out, hrun, hemits⟩ := encodeNotIndexed_emits hpos hn hget hvalue hentry dst
    refine ⟨out, ?_, hemits⟩
    rw [Encoder.encodeHeaderWithoutName.eq_def]
    split
    · exact absurd rfl (hnot _)
    · rw [hresolve]
      exact hrun

/-- What a header is decoded to: to itself, unless it is written as an entry of the static table. -/
def Header.Written (header header' : Header) : Prop :=
  header'.name = header.name ∧ (header' = header ∨ ∃ n, indexStatic header = some (n, true))

theorem Header.Written.refl (header : Header) : header.Written header := ⟨rfl, .inl rfl⟩

variable {hash : Name → Nat}

theorem encodeHeader_new (hc : Constants) (hconv : Conversions) (hs : header.Sendable) :
    ∃ header', header.Written header' ∧ (¬OtherCase header → header' = header) ∧
      t.Refers header.name (Index.new (indexStatic header) header) ∧
      ∀ dst, ∃ out, Encoder.encodeHeader t (Index.new (indexStatic header) header) dst = some (dst ++ out) ∧
        Emits t t out header' := by
  have hentry := Header.intoEntry_eq hconv hs.utf8
  rcases hstatic : indexStatic header with _ | ⟨n, full⟩
  · refine ⟨header, .refl _, fun _ => rfl, .inl ⟨header, rfl, rfl⟩, fun dst => ?_⟩
    exact encodeNotIndexed2_emits hs.name hs.value hentry dst
  · have hrange := indexStatic_range hstatic
    obtain ⟨e, hget, hname, hexact⟩ := indexStatic_get hc hstatic
    have hdynamic : t.dynamic.get n = some (.ok e) := Table.dynamic_get_static hrange hget
    cases full with
    | false =>
      refine ⟨header, .refl _, fun _ => rfl, .inr ⟨nofun, n, e, rfl, hrange.1, by omega, hdynamic, hname⟩,
        fun dst => ?_⟩
      exact encodeNotIndexed_emits hrange.1 (by omega) hdynamic hs.value (hname ▸ hentry) dst
    | true =>
      refine ⟨e, ⟨hname, .inr ⟨n, hstatic⟩⟩, (hexact rfl).resolve_right,
        .inr ⟨nofun, n, e, rfl, hrange.1, by omega, hdynamic, hname⟩,
        fun dst => ⟨_, rfl, emits_indexed (by omega) hdynamic rfl⟩⟩

theorem encodeHeader_added (hc : Constants) (hconv : Conversions) (h : t.Inv hash) (h' : t'.Inv hash)
    (hsmall : t.maxSize < 2 ^ 32) (hs : header.Sendable)
    (hlen : header.len ≤ t.maxSize) (hmax : t'.maxSize = t.maxSize)
    (hheaders : t'.headers = fit Header.len t.maxSize (header :: t.headers)) {index : Index}
    (hindex : t.Literal header ((indexStatic header).map Prod.fst) index) :
    t'.Refers header.name index ∧ ∀ dst, ∃ out,
      Encoder.encodeHeader t' index dst = some (dst ++ out) ∧ Emits t t' out header := by
  have hentry := Header.intoEntry_eq hconv hs.utf8
  have hinsert := h.insert h' hlen hmax hheaders
  have hfirst : t'.headers[0]? = some header := by rw [hheaders, fit, if_pos hlen]; rfl
  have hresolve : t'.slots[0]?.map Slot.header = some header := by
    rw [← List.getElem?_map]
    exact hfirst
  have hget' := Table.dynamic_get hfirst
  have hrefers : ∀ {index : Index}, (∀ e, index ≠ .notIndexed e) →
      Table.resolveIdx index = some (0 + DYN_OFFSET) → t'.Refers header.name index := fun hnot hidx =>
    .inr ⟨hnot, _, header, hidx, by decide, by decide, hget', rfl⟩
  have hvalue : ∀ {n : Nat} {e : Header}, n ≠ 0 → n < 2 ^ 28 → t.dynamic.get n = some (.ok e) →
      e.name = header.name → ∀ dst, ∃ out,
      Encoder.encodeHeader t' (.insertedValue n 0) dst = some (dst ++ out) ∧ Emits t t' out header := by
    intro n e hpos hn hget hname dst
    obtain ⟨str, hstr, hscan⟩ := encodeStr_scan header.valueSlice (dst ++ encodeInt n 6 0b01000000)
      (huffmanLen_lt hs.value)
    refine ⟨literalHead true n ++ str, ?_, emits_literal true hpos hn hget hscan
      (hname ▸ hentry) hinsert⟩
    rw [Encoder.encodeHeader, Table.resolve, hresolve]
    simp only [Option.bind_eq_bind, Option.bind_some, Header.isSensitive, Bool.false_eq_true, if_false]
    rw [hstr, List.append_assoc]
    rfl
  generalize hstatik : (indexStatic header).map Prod.fst = statik at hindex
  cases hindex with
  | static n =>
    obtain ⟨⟨n', full⟩, hstatic, hn⟩ := Option.map_eq_some_iff.mp hstatik
    obtain rfl : n' = n := hn
    have hrange := indexStatic_range hstatic
    obtain ⟨e, hget, hname, -⟩ := indexStatic_get hc hstatic
    exact ⟨hrefers (fun _ hno => by cases hno) rfl,
      hvalue hrange.1 (by omega) (Table.dynamic_get_static hrange hget) hname⟩
  | name hget hname =>
    exact ⟨hrefers (fun _ hno => by cases hno) rfl, hvalue (by rw [DYN_OFFSET]; omega) (h.index_lt hsmall hget)
      (Table.dynamic_get hget) hname⟩
  | new =>
    refine ⟨hrefers (fun _ hno => by cases hno) rfl, fun dst => ?_⟩
    obtain ⟨str, hstr, hscan⟩ := encodeStr_scan header.name.asSlice (dst ++ [0b01000000])
      (huffmanLen_lt (Name.length_asSlice hs.name))
    obtain ⟨str', hstr', hscan'⟩ := encodeStr_scan header.valueSlice (dst ++ [0b01000000] ++ str)
      (huffmanLen_lt hs.value)
    refine ⟨literalHead true 0 ++ (str ++ str'), ?_,
      emits_literal_name true hs.name hscan hscan' hentry hinsert⟩
    rw [Encoder.encodeHeader, Table.resolve, hresolve]
    simp only [Option.bind_eq_bind, Option.bind_some, Header.isSensitive, Bool.false_eq_true, if_false]
    rw [hstr, Option.bind_some, hstr', List.append_assoc, List.append_assoc]
    rfl

theorem encodeHeader_emits (hc : Constants) (hconv : Conversions) (h : t.Inv hash)
    (hsmall : t.maxSize < 2 ^ 32) (hs : header.Sendable) :
    ∃ t' index header', t.index hash header = some (t', index) ∧ t'.Inv hash ∧
      t'.maxSize = t.maxSize ∧ header.Written header' ∧ (¬OtherCase header → header' = header) ∧
      t'.Refers header.name index ∧ ∀ dst, ∃ out, Encoder.encodeHeader t' index dst = some (dst ++ out) ∧
        Emits t t' out header' := by
  obtain ⟨t', index, hindex, hinv, hmax, houtcome⟩ := Table.index_some h ⟨hs.len_lt, by omega⟩
  cases houtcome with
  | skipped =>
    obtain ⟨header', hwritten, hexact, hrefers, hemits⟩ := encodeHeader_new (t := t) hc hconv hs
    exact ⟨t, _, header', hindex, hinv, hmax, hwritten, hexact, hrefers, hemits⟩
  | answered hlookup hlen hanswers =>
    cases hanswers with
    | found hheaders hget =>
      have hdynamic : t'.dynamic = t.dynamic := by
        rw [hinv.dynamic_eq hheaders, h.dynamic_eq rfl, hmax]
      have hlt := h.index_lt hsmall hget
      have hget' := Table.dynamic_get hget
      refine ⟨t', _, header, hindex, hinv, hmax, .refl _, fun _ => rfl,
        .inr ⟨nofun, _, header, rfl, ?_, hlt, ?_, rfl⟩, fun dst => ⟨_, rfl, emits_indexed hlt hget' hdynamic⟩⟩
      · rw [DYN_OFFSET]
        omega
      · rw [hdynamic, hget']
    | added hnew hheaders hliteral =>
      obtain ⟨hrefers, hemits⟩ := encodeHeader_added hc hconv h hinv hsmall hs (by omega) hmax
        hheaders hliteral
      exact ⟨t', index, header, hindex, hinv, hmax, .refl _, fun _ => rfl, hrefers, hemits⟩

end

/-- Headers that can be sent: one without a name comes after one that has a name, for which its
value is allowed. -/
def SendableFrom : Option Name → List (Except Bytes Header) → Prop
  | _, [] => True
  | _, .ok header :: headers => header.Sendable ∧ SendableFrom (some header.name) headers
  | last, .error value :: headers => value.length < 2 ^ 26 ∧
    (∃ name, last = some name ∧ ∃ e, name.intoEntry value = .ok e) ∧ SendableFrom last headers

inductive Received : Option Name → List (Except Bytes Header) → List Header → Prop
  | nil {last : Option Name} : Received last [] []
  | named {last : Option Name} {header header' : Header} {headers : List (Except Bytes Header)}
      {out : List Header} (h : header.Written header') (hrest : Received (some header.name) headers out) :
    Received last (.ok header :: headers) (header' :: out)
  | nameless {name : Name} {value : Bytes} {e : Header} {headers : List (Except Bytes Header)}
      {out : List Header} (h : name.intoEntry value = .ok e) (hrest : Received (some name) headers out) :
    Received (some name) (.error value :: headers) (e :: out)

def Unchanged (headers : List (Except Bytes Header)) (out : List Header) : Prop :=
  ∀ sent, headers = sent.map .ok → (∀ header ∈ sent, ¬OtherCase header) → out = sent

theorem Unchanged.cons {header header' : Header} {headers : List (Except Bytes Header)} {out : List Header}
    (h : ¬OtherCase header → header' = header) (hrest : Unchanged headers out) :
    Unchanged (.ok header :: headers) (header' :: out) := by
  intro sent hsent hexact
  cases sent with
  | nil => cases hsent
  | cons first sent =>
    obtain ⟨hfirst, hheaders⟩ := List.cons.inj hsent
    cases hfirst
    obtain ⟨hcase, hcases⟩ := List.forall_mem_cons.mp hexact
    rw [h hcase, hrest sent hheaders hcases]

section

variable {hash : Name → Nat} {t : Table}

theorem encodeHeaders_accepts (hc : Constants) (hconv : Conversions) (h : t.Inv hash)
    (hsmall : t.maxSize < 2 ^ 32) {headers : List (Except Bytes Header)} {last : Option Name}
    {lastIndex : Option Index} (hlast : ∀ name, last = some name →
      name.Sendable ∧ ∃ index, lastIndex = some index ∧ t.Refers name index)
    (hs : SendableFrom last headers) (dst : Bytes) :
    ∃ t' out emitted, Encoder.encodeHeaders hash headers t lastIndex dst = some (t', dst ++ out) ∧
      t'.Inv hash ∧ t'.maxSize = t.maxSize ∧ Received last headers emitted ∧ Unchanged headers emitted ∧
      ∀ canResize, ∀ d : Decoder, d.table = t.dynamic →
        Accepts canResize d out emitted { d with table := t'.dynamic } := by
  induction headers generalizing t last lastIndex dst with
  | nil =>
    refine ⟨t, [], [], by rw [List.append_nil]; rfl, h, rfl, .nil, fun sent hsent _ => ?_,
      fun canResize d hd => ?_⟩
    · exact (List.map_eq_nil_iff.mp hsent.symm).symm
    · rw [← hd]
      exact .done
  | cons header headers ih =>
    cases header with
    | ok header =>
      obtain ⟨hheader, hrest⟩ := hs
      obtain ⟨t₁, index, header', hindex, hinv₁, hmax₁, hwritten, hexact, hrefers, hencode⟩ :=
        encodeHeader_emits hc hconv h hsmall hheader
      obtain ⟨out, hout, hemits⟩ := hencode dst
      have hlast' : ∀ name, some header.name = some name →
          name.Sendable ∧ ∃ i, some index = some i ∧ t₁.Refers name i := by
        rintro name ⟨⟩
        exact ⟨hheader.name, index, rfl, hrefers⟩
      obtain ⟨t', out', emitted, hrun, hinv', hmax', hreceived, hunchanged, haccepts⟩ :=
        ih hinv₁ (hmax₁ ▸ hsmall) hlast' hrest (dst ++ out)
      refine ⟨t', out ++ out', header' :: emitted, ?_, hinv', hmax'.trans hmax₁, .named hwritten hreceived,
        .cons hexact hunchanged, fun canResize d hd => hemits hd (haccepts false { d with table := t₁.dynamic } rfl)⟩
      rw [Encoder.encodeHeaders, hindex]
      simp only [Option.bind_eq_bind, Option.bind_some]
      rw [hout, Option.bind_some, hrun, List.append_assoc]
    | error value =>
      obtain ⟨hvalue, ⟨name, rfl, e, he⟩, hrest⟩ := hs
      obtain ⟨hname, index, rfl, hrefers⟩ := hlast name rfl
      obtain ⟨out, hout, hemits⟩ := encodeHeaderWithoutName_emits hrefers hname hvalue he dst
      obtain ⟨t', out', emitted, hrun, hinv', hmax', hreceived, -, haccepts⟩ :=
        ih h hsmall hlast hrest (dst ++ out)
      refine ⟨t', out ++ out', e :: emitted, ?_, hinv', hmax', .nameless he hreceived, fun sent hsent _ => ?_,
        fun canResize d hd => hemits hd (haccepts false { d with table := t.dynamic } rfl)⟩
      · rw [Encoder.encodeHeaders]
        simp only [Option.bind_eq_bind, Option.bind_some]
        rw [hout, Option.bind_some, hrun, List.append_assoc]
      · -- a header without a name is none of those
        cases sent with
        | nil => cases hsent
        | cons first sent => cases (List.cons.inj hsent).1

/-- A block is decoded to the headers that it is for, and the tables stay the same. -/
theorem Encoder.encode_decode (hc : Constants) (hconv : Conversions) {e : Encoder}
    (h : e.table.Inv hash) (hsmall : e.table.maxSize < 2 ^ 32)
    (hsizes : ∀ size ∈ e.bound.announced, size < 2 ^ 28 + 31)
    {headers : List (Except Bytes Header)} (hs : SendableFrom none headers) :
    ∃ e' block emitted, e.encode hash headers [] = some (e', block) ∧ e'.sizeUpdate = none ∧
      e'.table.Inv hash ∧ e'.table.maxSize < 2 ^ 32 ∧ Received none headers emitted ∧
      Unchanged headers emitted ∧ ∀ d : Decoder, d.buffer = [] → d.table = e.table.dynamic →
        (∀ size ∈ e.bound.announced, size ≤ d.takeSizeUpdate.lastMaxUpdate) →
        d.decode block = some (.ok (),
          ⟨{ d.takeSizeUpdate with table := e'.table.dynamic }, ⟨[], 0⟩, emitted⟩) := by
  obtain ⟨t, hrun, hinv, -, hmax, hset⟩ := encodeSizeUpdates_some h (fun size hsize =>
    Nat.lt_trans (hsizes size hsize) (by decide)) []
  have hsmall' : t.maxSize < 2 ^ 32 := by
    rw [hmax]
    rcases hlast : e.bound.announced.getLast? with _ | size
    · exact hsmall
    · exact Nat.lt_trans (hsizes size (List.mem_of_getLast? hlast)) (by decide)
  have hlast : ∀ name, none = some name →
      name.Sendable ∧ ∃ index, (none : Option Index) = some index ∧ t.Refers name index := nofun
  obtain ⟨t', out, emitted, hheaders, hinv', hmax', hreceived, hunchanged, haccepts⟩ :=
    encodeHeaders_accepts hc hconv hinv hsmall' hlast hs
      ([] ++ e.bound.announced.flatMap encodeSizeUpdate)
  refine ⟨⟨t', none⟩, e.bound.announced.flatMap encodeSizeUpdate ++ out, emitted, ?_, rfl, hinv',
    hmax' ▸ hsmall', hreceived, hunchanged, fun d hbuffer hd hallowed => ?_⟩
  · rw [encode, hrun]
    simp only [Option.bind_eq_bind, Option.bind_some]
    rw [hheaders, List.nil_append]
    rfl
  · have htake : d.takeSizeUpdate.table = d.table := by
      rw [Decoder.takeSizeUpdate]
      split <;> rfl
    rw [← hd, ← htake] at hset
    have hblock := Accepts.sizeUpdates
      (fun size hsize => ⟨hsizes size hsize, hallowed size hsize⟩) hset
      (haccepts true { d.takeSizeUpdate with table := t.dynamic } rfl)
    exact hblock.decode hbuffer

end

end

end TwoPlz.Hpack
