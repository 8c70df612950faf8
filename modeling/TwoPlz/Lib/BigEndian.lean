import Mathlib

/-! Natural numbers as big-endian bytes of a fixed width. -/

namespace BigEndian

/-- The low `w` bytes of `n`, the most significant one first. -/
def bytes : Nat → Nat → List UInt8
  | 0, _ => []
  | w + 1, n => UInt8.ofNat (n / 256 ^ w) :: bytes w n

def value : List UInt8 → Nat
  | [] => 0
  | b :: bs => b.toNat * 256 ^ bs.length + value bs

@[simp] theorem length_bytes (w n : Nat) : (bytes w n).length = w := by
  induction w with
  | zero => rfl
  | succ w ih => simp [bytes, ih]

theorem value_lt (bs : List UInt8) : value bs < 256 ^ bs.length := by
  induction bs with
  | nil => simp [value]
  | cons b bs ih =>
    have hb : b.toNat ≤ 255 := Nat.lt_succ_iff.mp b.toNat_lt
    calc value (b :: bs)
      _ = b.toNat * 256 ^ bs.length + value bs := rfl
      _ < b.toNat * 256 ^ bs.length + 256 ^ bs.length := Nat.add_lt_add_left ih _
      _ ≤ 255 * 256 ^ bs.length + 256 ^ bs.length :=
        Nat.add_le_add_right (Nat.mul_le_mul_right _ hb) _
      _ = 256 ^ (b :: bs).length := by rw [List.length_cons, Nat.pow_succ]; omega

theorem value_take_lt (w : Nat) (bs : List UInt8) : value (bs.take w) < 256 ^ w :=
  Nat.lt_of_lt_of_le (value_lt _) (Nat.pow_le_pow_right (by decide) (List.length_take_le w bs))

theorem value_bytes (w n : Nat) : value (bytes w n) = n % 256 ^ w := by
  induction w with
  | zero => simp [bytes, value, Nat.mod_one]
  | succ w ih =>
    simp only [bytes, value, length_bytes, ih, UInt8.toNat_ofNat']
    rw [show 2 ^ 8 = 256 from rfl, Nat.pow_succ 256 w, Nat.mod_mul, Nat.mul_comm (256 ^ w),
      Nat.add_comm]

theorem value_bytes_of_lt {w n : Nat} (h : n < 256 ^ w) : value (bytes w n) = n := by
  rw [value_bytes, Nat.mod_eq_of_lt h]

end BigEndian
