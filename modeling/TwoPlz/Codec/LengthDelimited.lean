import TwoPlz.Codec.RoundTrip

/-! The framing of a connection (`Codec::with_max_recv_frame_size`): `LengthDelimitedCodec` of `tokio_util`,
which is not part of the repository, so that it is a parameter of the model. -/

namespace TwoPlz

inductive DelimitError : Type
  | codec
  | io (kind : IoErrorKind) (inner : Option String)
  deriving DecidableEq

def DelimitError.mapErr : DelimitError → ProtoError
  | .codec => ProtoError.libraryGoAway Reason.FRAME_SIZE_ERROR
  | .io kind inner => .io kind inner

/-- A frame and what is behind it; `decode` returns `none` to wait for more bytes, and `decode_eof` at the
end of the stream. -/
class LengthDelimited where
  decode : (maxFrameLength : Nat) → Bytes → Option (Except DelimitError (Bytes × Bytes))
  decodeEof : (maxFrameLength : Nat) → Bytes → Option (Except DelimitError (Bytes × Bytes))

/-- The documented behaviour with a length of three bytes, big endian, adjusted by the nine of the head. -/
structure LengthDelimited.Documented [LengthDelimited] : Prop where
  frame : ∀ {max : Nat} {bytes : Bytes} (rest : Bytes), Framed bytes → bytes.length ≤ HEADER_LEN + max →
    decode max (bytes ++ rest) = some (.ok (bytes, rest))
  waits : ∀ {max : Nat} {bytes more : Bytes}, Framed (bytes ++ more) → (bytes ++ more).length ≤ HEADER_LEN + max →
    more ≠ [] → decode max bytes = none
  sound : ∀ {max : Nat} {input bytes rest : Bytes}, decode max input = some (.ok (bytes, rest)) →
    input = bytes ++ rest ∧ Framed bytes
  soundEof : ∀ {max : Nat} {input bytes rest : Bytes}, decodeEof max input = some (.ok (bytes, rest)) →
    input = bytes ++ rest ∧ Framed bytes

/-! The codec as its documentation has it. -/

def plainDecode (max : Nat) (input : Bytes) : Option (Except DelimitError (Bytes × Bytes)) :=
  if input.length < 3 then none
  else
    let n := BigEndian.value (input.take 3)
    if n > max then some (.error .codec)
    else if input.length < HEADER_LEN + n then none
    else some (.ok (input.take (HEADER_LEN + n), input.drop (HEADER_LEN + n)))

def plainDecodeEof (max : Nat) (input : Bytes) : Option (Except DelimitError (Bytes × Bytes)) :=
  match plainDecode max input with
  | some res => some res
  | none => if input = [] then none else some (.error (.io .other (some "bytes remaining on stream")))

@[reducible] def plainDelimited : LengthDelimited := ⟨plainDecode, plainDecodeEof⟩

theorem plainDecode_ok {max : Nat} {input bytes rest : Bytes} (h : plainDecode max input = some (.ok (bytes, rest))) :
    input = bytes ++ rest ∧ Framed bytes := by
  obtain ⟨-, hno⟩ | ⟨hthree, h⟩ := ite_eq_iff.mp h
  · cases hno
  obtain ⟨-, hno⟩ | ⟨-, h⟩ := ite_eq_iff.mp h
  · cases hno
  obtain ⟨-, hno⟩ | ⟨hlong, heq⟩ := ite_eq_iff.mp h
  · cases hno
  cases heq
  refine ⟨(List.take_append_drop _ _).symm, ?_⟩
  have htake : (input.take (HEADER_LEN + BigEndian.value (input.take 3))).take 3 = input.take 3 := by
    rw [List.take_take, Nat.min_eq_left (by rw [HEADER_LEN]; omega)]
  rw [Framed, htake, List.length_take, Nat.min_eq_left (Nat.not_lt.mp hlong)]

/-- The head is enough to see whether all of the frame is there. -/
theorem plainDecode_eq {max : Nat} {input more bytes rest : Bytes} (hframed : Framed bytes)
    (hmax : bytes.length ≤ HEADER_LEN + max) (h : input ++ more = bytes ++ rest) :
    plainDecode max input = if input.length < bytes.length then none
      else some (.ok (bytes, input.drop bytes.length)) := by
  have hlength := hframed
  rw [Framed] at hlength
  rw [plainDecode]
  by_cases hshort : input.length < 3
  · rw [if_pos hshort, if_pos (by rw [hlength, HEADER_LEN]; omega)]
  have htake : input.take 3 = bytes.take 3 := by
    have hthree := congrArg (List.take 3) h
    rwa [List.take_append_of_le_length (Nat.not_lt.mp hshort),
      List.take_append_of_le_length (by rw [hlength, HEADER_LEN]; omega)] at hthree
  rw [if_neg hshort]
  simp only [htake]
  rw [if_neg (by omega), ← hlength]
  by_cases hwait : input.length < bytes.length
  · rw [if_pos hwait, if_pos hwait]
  · have hall := congrArg (List.take bytes.length) h
    rw [List.take_append_of_le_length (Nat.not_lt.mp hwait), List.take_left] at hall
    rw [if_neg hwait, if_neg hwait, hall]

section

attribute [local instance] plainDelimited

theorem plainDelimited_documented : LengthDelimited.Documented where
  frame {max bytes} rest hframed hmax := by
    change plainDecode max (bytes ++ rest) = _
    have hall : bytes ++ rest ++ [] = bytes ++ rest := List.append_nil _
    rw [plainDecode_eq hframed hmax hall, if_neg (by rw [List.length_append]; omega), List.drop_left]
  waits {max bytes more} hframed hmax hmore := by
    change plainDecode max bytes = _
    have hpos := List.length_pos_iff.mpr hmore
    have hall : bytes ++ more = bytes ++ more ++ [] := (List.append_nil _).symm
    rw [plainDecode_eq hframed hmax hall, if_pos (by rw [List.length_append]; omega)]
  sound := plainDecode_ok
  soundEof {max input bytes rest} h := by
    change plainDecodeEof max input = _ at h
    unfold plainDecodeEof at h
    split at h
    · rename_i res hres
      exact plainDecode_ok (hres.trans h)
    · split at h <;> cases h

end

end TwoPlz
