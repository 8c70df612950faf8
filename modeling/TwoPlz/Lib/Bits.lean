import Mathlib

/-! Natural numbers as bit strings of a fixed width, the most significant bit first. -/

namespace Bits

def ofNat : Nat → Nat → List Bool
  | 0, _ => []
  | w + 1, n => n.testBit w :: ofNat w n

def value : List Bool → Nat
  | [] => 0
  | b :: bs => b.toNat * 2 ^ bs.length + value bs

@[simp] theorem length_ofNat (w n : Nat) : (ofNat w n).length = w := by
  induction w with
  | zero => rfl
  | succ w ih => simp [ofNat, ih]

theorem value_lt (bs : List Bool) : value bs < 2 ^ bs.length := by
  induction bs with
  | nil => simp [value]
  | cons b bs ih =>
    have hb : b.toNat * 2 ^ bs.length ≤ 1 * 2 ^ bs.length := Nat.mul_le_mul_right _ b.toNat_le
    simp only [value, List.length_cons, Nat.pow_succ]
    omega

theorem value_append (as bs : List Bool) :
    value (as ++ bs) = value as * 2 ^ bs.length + value bs := by
  induction as with
  | nil => simp [value]
  | cons a as ih =>
    simp only [List.cons_append, value, ih, List.length_append, Nat.pow_add, Nat.add_mul]
    rw [Nat.mul_assoc, Nat.add_assoc]

theorem value_ofNat (w n : Nat) : value (ofNat w n) = n % 2 ^ w := by
  induction w with
  | zero => simp [ofNat, value, Nat.mod_one]
  | succ w ih =>
    simp only [ofNat, value, length_ofNat, ih]
    rw [Nat.testBit_eq_decide_div_mod_eq, Nat.pow_succ, Nat.mod_mul]
    have h : (decide (n / 2 ^ w % 2 = 1)).toNat = n / 2 ^ w % 2 := by
      have := Nat.mod_two_eq_zero_or_one (n / 2 ^ w)
      rcases this with h | h <;> rw [h] <;> rfl
    rw [h, Nat.mul_comm, Nat.add_comm]

theorem value_injective {as bs : List Bool} (hlen : as.length = bs.length)
    (h : value as = value bs) : as = bs := by
  induction as generalizing bs with
  | nil => exact (List.eq_nil_of_length_eq_zero hlen.symm).symm
  | cons a as ih =>
    obtain _ | ⟨b, bs⟩ := bs
    · cases hlen
    have hlen' : as.length = bs.length := Nat.succ.inj hlen
    have ha := value_lt as
    have hb := value_lt bs
    simp only [value, hlen'] at h ha
    have hab : a = b := by
      cases a <;> cases b <;> simp at h ⊢ <;> omega
    subst hab
    rw [ih hlen' (Nat.add_left_cancel h)]

theorem ofNat_value (bs : List Bool) : ofNat bs.length (value bs) = bs :=
  value_injective (length_ofNat _ _) (by rw [value_ofNat, Nat.mod_eq_of_lt (value_lt bs)])

theorem ofNat_add (v w n : Nat) : ofNat (v + w) n = ofNat v (n / 2 ^ w) ++ ofNat w n := by
  refine value_injective (by simp) ?_
  rw [value_append, value_ofNat, value_ofNat, value_ofNat, length_ofNat, Nat.add_comm v w,
    Nat.pow_add, Nat.mod_mul, Nat.add_comm, Nat.mul_comm]

@[simp] theorem value_replicate_true (n : Nat) : value (List.replicate n true) + 1 = 2 ^ n := by
  induction n with
  | zero => rfl
  | succ n ih =>
    simp only [List.replicate_succ, value, List.length_replicate, Bool.toNat_true, Nat.pow_succ]
    omega

def ofBytes (bs : List UInt8) : List Bool := bs.flatMap fun b => ofNat 8 b.toNat

@[simp] theorem ofBytes_nil : ofBytes [] = [] := rfl

@[simp] theorem ofBytes_cons (b : UInt8) (bs : List UInt8) :
    ofBytes (b :: bs) = ofNat 8 b.toNat ++ ofBytes bs := rfl

@[simp] theorem ofBytes_append (as bs : List UInt8) :
    ofBytes (as ++ bs) = ofBytes as ++ ofBytes bs := by
  simp [ofBytes]

end Bits
