import TwoPlz.Hpack.HeaderBlocks

/-! Every header that the decoder emits or keeps has a name of its kind, and a string where one is
asked for. -/

namespace TwoPlz.Hpack

variable [HeaderPlz]

def Name.Proper : Name → Prop
  | .field name => name ≠ [] ∧ name.head? ≠ some 0x3a
  | _ => True

structure Header.Stored (h : Header) : Prop where
  name : h.name.Proper
  utf8 : h.Utf8

def StaticNames : Prop := ∀ c, (Name.field (HeaderPlz.constHeader c)).Proper

theorem getStatic_stored (hnames : StaticNames) {n : Nat} {e : Header} (h : getStatic n = some e) :
    e.Stored := by
  match n with
  | 0 => cases h
  | 1 | 2 | 3 | 4 | 5 | 6 | 7 | 8 | 9 | 10 | 11 | 12 | 13 | 14 =>
    cases h
    refine ⟨trivial, ?_⟩
    first | exact trivial | (change validUtf8 _ = true; decide +kernel)
  | n + 15 =>
    obtain ⟨c, -, rfl⟩ := Option.map_eq_some_iff.mp h
    exact ⟨hnames c, trivial⟩

theorem tryFrom_stored {value : Bytes} {make : Bytes → Header} {e : Header}
    (h : (tryFrom value).map make = .ok e) (hmake : ∀ v, validUtf8 v = true → (make v).Stored) : e.Stored := by
  unfold tryFrom at h
  split at h
  · rename_i hutf8
    cases h
    exact hmake value hutf8
  · cases h

theorem Name.intoEntry_stored {name : Name} (hname : name.Proper) {value : Bytes} {e : Header}
    (h : name.intoEntry value = .ok e) : e.Stored := by
  cases name with
  | field name =>
    cases h
    exact ⟨hname, trivial⟩
  | method =>
    cases h
    exact ⟨trivial, trivial⟩
  | status =>
    simp only [Name.intoEntry] at h
    split at h
    · cases h
      exact ⟨trivial, trivial⟩
    · cases h
  | authority => exact tryFrom_stored h fun v hv => ⟨trivial, hv⟩
  | scheme => exact tryFrom_stored h fun v hv => ⟨trivial, hv⟩
  | path => exact tryFrom_stored h fun v hv => ⟨trivial, hv⟩
  | protocol => exact tryFrom_stored h fun v hv => ⟨trivial, hv⟩

theorem Header.new_stored {name value : Bytes} {e : Header} (h : Header.new name value = .ok e) : e.Stored := by
  unfold Header.new at h
  split at h
  · cases h
  · rename_i first rest
    split at h
    · split at h
      · exact tryFrom_stored h fun v hv => ⟨trivial, hv⟩
      · split at h
        · cases h
          exact ⟨trivial, trivial⟩
        · split at h
          · exact tryFrom_stored h fun v hv => ⟨trivial, hv⟩
          · split at h
            · exact tryFrom_stored h fun v hv => ⟨trivial, hv⟩
            · split at h
              · exact tryFrom_stored h fun v hv => ⟨trivial, hv⟩
              · split at h
                · split at h
                  · cases h
                    exact ⟨trivial, trivial⟩
                  · cases h
                · cases h
    · rename_i hcolon
      cases h
      exact ⟨⟨List.cons_ne_nil _ _, fun heq => hcolon (by rw [Option.some.inj heq]; rfl)⟩, trivial⟩

structure Decoding.Stored (s : Decoding) : Prop where
  table : ∀ e ∈ s.decoder.table.entries, e.Stored
  emitted : ∀ e ∈ s.emitted, e.Stored

namespace DynamicTable

theorem mem_reserveFrom {max need : Nat} {l l' : List Header} {size size' : Nat}
    (h : reserveFrom max need l size = some (l', size')) : ∀ e ∈ l', e ∈ l := by
  induction l generalizing size with
  | nil =>
    cases h
    exact fun e he => he
  | cons last newer ih =>
    unfold reserveFrom at h
    split at h
    · split at h
      · exact fun e he => List.mem_cons_of_mem _ (ih h e he)
      · cases h
    · cases h
      exact fun e he => he

theorem mem_consolidateFrom {max : Nat} {l l' : List Header} {size size' : Nat}
    (h : consolidateFrom max l size = some (l', size')) : ∀ e ∈ l', e ∈ l := by
  induction l generalizing size with
  | nil =>
    unfold consolidateFrom at h
    split at h
    · cases h
    · cases h
      exact fun e he => he
  | cons last newer ih =>
    unfold consolidateFrom at h
    split at h
    · split at h
      · exact fun e he => List.mem_cons_of_mem _ (ih h e he)
      · cases h
    · cases h
      exact fun e he => he

theorem mem_insert {t t' : DynamicTable} {entry : Header} (h : t.insert entry = some t') :
    ∀ e ∈ t'.entries, e = entry ∨ e ∈ t.entries := by
  obtain ⟨t₁, hreserve, h⟩ := Option.bind_eq_some_iff.mp h
  obtain ⟨⟨l, size⟩, hfrom, rfl⟩ := Option.map_eq_some_iff.mp hreserve
  have hold : ∀ e ∈ l.reverse, e ∈ t.entries := fun e he =>
    List.mem_reverse.mp (mem_reserveFrom hfrom e (List.mem_reverse.mp he))
  intro e he
  cases h
  split at he
  · exact (List.mem_cons.mp he).imp_right (hold e)
  · exact Or.inr (hold e he)

theorem mem_setMaxSize {t t' : DynamicTable} {size : Nat} (h : t.setMaxSize size = some t') :
    ∀ e ∈ t'.entries, e ∈ t.entries := by
  obtain ⟨⟨l, size'⟩, hfrom, rfl⟩ := Option.map_eq_some_iff.mp h
  exact fun e he => List.mem_reverse.mp (mem_consolidateFrom hfrom e (List.mem_reverse.mp he))

end DynamicTable

/-- A step of the decoder stores what can be stored, and its value is as `Q` says. -/
def DecodeM.Stores {α : Type} (m : DecodeM α) (Q : α → Prop) : Prop :=
  ∀ s r s', s.Stored → m s = some (r, s') → s'.Stored ∧ ∀ a, r = .ok a → Q a

namespace DecodeM.Stores

variable {α β : Type} {Q : α → Prop} {R : β → Prop}

theorem bind {m : DecodeM α} {f : α → DecodeM β} (hm : m.Stores Q) (hf : ∀ a, Q a → (f a).Stores R) :
    (m >>= f).Stores R := by
  intro s r s' hs h
  obtain ⟨⟨ra, s₁⟩, hrun, h⟩ := Option.bind_eq_some_iff.mp h
  obtain ⟨hs₁, hQ⟩ := hm s ra s₁ hs hrun
  cases ra with
  | ok a => exact hf a (hQ a rfl) s₁ r s' hs₁ h
  | error e =>
    cases h
    exact ⟨hs₁, nofun⟩

theorem pure {a : α} (h : Q a) : (Pure.pure a : DecodeM α).Stores Q := by
  intro s r s' hs hrun
  cases hrun
  refine ⟨hs, ?_⟩
  rintro a ⟨⟩
  exact h

theorem throw (e : DecoderError) : (DecodeM.throw e : DecodeM α).Stores Q := by
  intro s r s' hs hrun
  cases hrun
  exact ⟨hs, nofun⟩

theorem ofExcept {r : Except DecoderError α} (h : ∀ a, r = .ok a → Q a) : (DecodeM.ofExcept r).Stores Q := by
  intro s r' s' hs hrun
  cases hrun
  exact ⟨hs, h⟩

theorem beside {m : DecodeM α} (h : ∀ s r s', m s = some (r, s') →
    s'.decoder.table = s.decoder.table ∧ s'.emitted = s.emitted) : m.Stores fun _ => True := by
  intro s r s' hs hrun
  obtain ⟨htable, hemitted⟩ := h s r s' hrun
  exact ⟨⟨htable ▸ hs.table, hemitted ▸ hs.emitted⟩, fun _ _ => trivial⟩

theorem src : DecodeM.src.Stores fun _ => True := .beside fun _ _ _ h => by cases h; exact ⟨rfl, rfl⟩

theorem setPosition (n : Nat) : (DecodeM.setPosition n).Stores fun _ => True :=
  .beside fun _ _ _ h => by cases h; exact ⟨rfl, rfl⟩

theorem advance (n : Nat) : (DecodeM.advance n).Stores fun _ => True := .beside fun _ _ _ h => by
  obtain ⟨_, -, heq⟩ := Option.map_eq_some_iff.mp h
  cases heq
  exact ⟨rfl, rfl⟩

theorem take (n : Nat) : (DecodeM.take n).Stores fun _ => True := .beside fun _ _ _ h => by
  obtain ⟨_, -, heq⟩ := Option.map_eq_some_iff.mp h
  cases heq
  exact ⟨rfl, rfl⟩

theorem consume : DecodeM.consume.Stores fun _ => True := .beside fun _ _ _ h => by
  obtain ⟨_, -, heq⟩ := Option.map_eq_some_iff.mp h
  cases heq
  exact ⟨rfl, rfl⟩

theorem decodeInt (n : Nat) : (DecodeM.decodeInt n).Stores fun _ => True := .beside fun _ _ _ h => by
  unfold DecodeM.decodeInt at h
  split at h <;> cases h <;> exact ⟨rfl, rfl⟩

theorem huffmanDecode (raw : Bytes) : (DecodeM.huffmanDecode raw).Stores fun _ => True :=
  .beside fun _ _ _ h => by
    obtain ⟨_, -, heq⟩ := Option.map_eq_some_iff.mp h
    cases heq
    exact ⟨rfl, rfl⟩

theorem emit {entry : Header} (h : entry.Stored) : (DecodeM.emit entry).Stores fun _ => True := by
  intro s r s' hs hrun
  cases hrun
  refine ⟨⟨hs.table, fun e he => ?_⟩, fun _ _ => trivial⟩
  rcases List.mem_append.mp he with he | he
  · exact hs.emitted e he
  · obtain rfl := List.mem_singleton.mp he
    exact h

theorem insert {entry : Header} (h : entry.Stored) : (DecodeM.insert entry).Stores fun _ => True := by
  intro s r s' hs hrun
  obtain ⟨t, hinsert, heq⟩ := Option.map_eq_some_iff.mp hrun
  cases heq
  refine ⟨⟨fun e he => ?_, hs.emitted⟩, fun _ _ => trivial⟩
  rcases DynamicTable.mem_insert hinsert e he with rfl | he
  · exact h
  · exact hs.table e he

theorem setMaxSize (n : Nat) : (DecodeM.setMaxSize n).Stores fun _ => True := by
  intro s r s' hs hrun
  unfold DecodeM.setMaxSize at hrun
  split at hrun
  · cases hrun
    exact ⟨hs, nofun⟩
  · obtain ⟨t, hset, heq⟩ := Option.map_eq_some_iff.mp hrun
    cases heq
    exact ⟨⟨fun e he => hs.table e (DynamicTable.mem_setMaxSize hset e he), hs.emitted⟩, fun _ _ => trivial⟩

theorem tableGet (hnames : StaticNames) (n : Nat) : (DecodeM.tableGet n).Stores Header.Stored := by
  intro s r s' hs hrun
  obtain ⟨r', hget, heq⟩ := Option.map_eq_some_iff.mp hrun
  cases heq
  refine ⟨hs, ?_⟩
  rintro e rfl
  unfold DynamicTable.get at hget
  split at hget
  · cases hget
  · split at hget
    · obtain ⟨e', hstatic, heq⟩ := Option.map_eq_some_iff.mp hget
      cases heq
      exact getStatic_stored hnames hstatic
    · split at hget
      · rename_i e' hentry
        cases hget
        exact hs.table _ (List.mem_of_getElem? hentry)
      · cases hget

theorem tryDecodeString : Hpack.tryDecodeString.Stores fun _ => True := by
  refine .bind .src fun old _ => ?_
  split
  · exact .throw _
  · refine .bind (.decodeInt 7) fun len _ => .bind .src fun src _ => ?_
    split
    · exact .throw _
    · dsimp only
      split
      · exact .bind (.huffmanDecode _) fun _ _ => .bind (.advance _) fun _ _ => .pure trivial
      · exact .bind (.advance _) fun _ _ => .pure trivial

theorem consumeMarker (marker : StringMarker) : marker.consume.Stores fun _ => True := by
  refine .bind (.advance _) fun _ _ => ?_
  split
  · exact .bind (.advance _) fun _ _ => .pure trivial
  · exact .take _

theorem decodeString : Hpack.decodeString.Stores fun _ => True :=
  .bind .src fun _ _ => .bind .tryDecodeString fun marker _ => .bind (.setPosition _) fun _ _ =>
    .consumeMarker marker

theorem decodeLiteral (hnames : StaticNames) (index : Bool) : (Hpack.decodeLiteral index).Stores Header.Stored := by
  refine .bind (.decodeInt _) fun n _ => ?_
  split
  · refine .bind .src fun _ _ => .bind .tryDecodeString fun nameMarker _ => .bind .tryDecodeString
      fun valueMarker _ => .bind (.setPosition _) fun _ _ => .bind (.consumeMarker nameMarker) fun name _ =>
        .bind (.consumeMarker valueMarker) fun value _ => .ofExcept fun e he => Header.new_stored he
  · exact .bind (.tableGet hnames n) fun e he => .bind .decodeString fun value _ =>
      .ofExcept fun e' he' => Name.intoEntry_stored he.name he'

theorem decodeOne (hnames : StaticNames) (ty : UInt8) (canResize : Bool) :
    (Hpack.decodeOne ty canResize).Stores fun _ => True := by
  refine .bind (.ofExcept fun _ _ => trivial) fun rep _ => ?_
  cases rep with
  | indexed =>
    exact .bind (.bind (.decodeInt 7) fun n _ => .tableGet hnames n) fun e he =>
      .bind .consume fun _ _ => .bind (.emit he) fun _ _ => .pure trivial
  | literalWithIndexing =>
    exact .bind (.decodeLiteral hnames true) fun e he => .bind (.insert he) fun _ _ =>
      .bind .consume fun _ _ => .bind (.emit he) fun _ _ => .pure trivial
  | literalWithoutIndexing =>
    exact .bind (.decodeLiteral hnames false) fun e he =>
      .bind .consume fun _ _ => .bind (.emit he) fun _ _ => .pure trivial
  | literalNeverIndexed =>
    exact .bind (.decodeLiteral hnames false) fun e he =>
      .bind .consume fun _ _ => .bind (.emit he) fun _ _ => .pure trivial
  | sizeUpdate =>
    dsimp only
    split
    · exact .throw _
    · exact .bind (.bind (.decodeInt 5) fun n _ => .setMaxSize n) fun _ _ =>
        .bind .consume fun _ _ => .pure trivial

theorem decodeLoop (hnames : StaticNames) (rounds : Nat) (canResize : Bool) :
    (Hpack.decodeLoop rounds canResize).Stores fun _ => True := by
  induction rounds generalizing canResize with
  | zero =>
    refine .bind .src fun src _ => ?_
    split
    · exact .pure trivial
    · intro s r s' _ h
      cases h
  | succ rounds ih =>
    refine .bind .src fun src _ => ?_
    split
    · exact .pure trivial
    · exact .bind (.decodeOne hnames _ _) fun canResize _ => ih canResize

end DecodeM.Stores

theorem Decoder.decode_stored (hnames : StaticNames) {d : Decoder} {src : Bytes}
    {res : Except DecoderError Unit} {s : Decoding} (hd : ∀ e ∈ d.table.entries, e.Stored)
    (h : d.decode src = some (res, s)) : s.Stored := by
  have htake : d.takeSizeUpdate.table = d.table := by
    unfold takeSizeUpdate
    split <;> rfl
  refine (DecodeM.Stores.decodeLoop hnames src.length true _ _ _ ⟨?_, fun e he => absurd he List.not_mem_nil⟩ h).1
  rw [htake]
  exact hd

end TwoPlz.Hpack
