import TwoPlz.Frame

namespace TwoPlz

def asI32 (n : Nat) : Int :=
  if n % 2 ^ 32 < 2 ^ 31 then (n % 2 ^ 32 : Nat) else (n % 2 ^ 32 : Nat) - 2 ^ 32

def I32_MAX : Int := 2 ^ 31 - 1

def I32_MIN : Int := -2 ^ 31

structure FlowControl where
  window : Int
  capacity : Int
  deriving DecidableEq

namespace FlowControl

def new (initWindowSz : Nat) : FlowControl := ⟨asI32 initWindowSz, asI32 initWindowSz⟩

/-- `Window::as_size`: a negative window counts as 0. -/
def windowSize (f : FlowControl) : Nat := f.window.toNat

def available (f : FlowControl) : Nat := f.window.toNat

def decWindow (f : FlowControl) (sz : Nat) : Except Nat FlowControl :=
  let v := f.window - asI32 sz
  if v < I32_MIN ∨ I32_MAX < v then .error Reason.FLOW_CONTROL_ERROR else .ok { f with window := v }

def incWindow (f : FlowControl) (sz : Nat) : Except Nat FlowControl :=
  let v := f.window + asI32 sz
  if (v < I32_MIN ∨ I32_MAX < v) ∨ v > MAX_WINDOW_SIZE then .error Reason.FLOW_CONTROL_ERROR
  else .ok { f with window := v }

/-- `let _ = flow.dec_window(sz)`: an error leaves the window as it is. -/
def decWindowOrKeep (f : FlowControl) (sz : Nat) : FlowControl :=
  match f.decWindow sz with
  | .ok f' => f'
  | .error _ => f

def incWindowOrKeep (f : FlowControl) (sz : Nat) : FlowControl :=
  match f.incWindow sz with
  | .ok f' => f'
  | .error _ => f

def shouldSendWindowUpdate (f : FlowControl) : Option Nat :=
  if f.window ≥ f.capacity then none
  else
    let unclaimed := f.capacity - f.window
    let threshold := f.capacity.tdiv 2 * 1
    if unclaimed < threshold then none else some unclaimed.toNat

end FlowControl

theorem asI32_of_lt {n : Nat} (h : n < 2 ^ 31) : asI32 n = n := by
  have hmod : n % 2 ^ 32 = n := Nat.mod_eq_of_lt (by omega)
  rw [asI32, hmod, if_pos h]

theorem asI32_lt (n : Nat) : asI32 n < 2 ^ 31 := by
  have hmod : n % 2 ^ 32 < 2 ^ 32 := Nat.mod_lt _ (by norm_num)
  unfold asI32
  split <;> omega

namespace FlowControl

def InRange (f : FlowControl) : Prop := I32_MIN ≤ f.window ∧ f.window ≤ I32_MAX

theorem new_inRange (n : Nat) : (new n).InRange := by
  have hlt := asI32_lt n
  have hge : I32_MIN ≤ asI32 n := by
    unfold asI32 I32_MIN
    split <;> omega
  exact ⟨hge, by simp only [new, I32_MAX]; omega⟩

theorem incWindow_ok {f f' : FlowControl} {sz : Nat} (h : f.incWindow sz = .ok f') :
    f'.window = f.window + asI32 sz ∧ f'.window ≤ MAX_WINDOW_SIZE ∧ I32_MIN ≤ f'.window := by
  simp only [incWindow] at h
  split at h
  · cases h
  · rename_i hin
    cases h
    simp only [not_or, not_lt] at hin
    exact ⟨rfl, hin.2, hin.1.1⟩

theorem decWindow_ok {f f' : FlowControl} {sz : Nat} (h : f.decWindow sz = .ok f') :
    f'.window = f.window - asI32 sz ∧ I32_MIN ≤ f'.window := by
  simp only [decWindow] at h
  split at h
  · cases h
  · rename_i hin
    cases h
    simp only [not_or, not_lt] at hin
    exact ⟨rfl, hin.1⟩

theorem inRange_incWindow {f f' : FlowControl} {sz : Nat} (h : f.incWindow sz = .ok f') : f'.InRange := by
  obtain ⟨-, hle, hge⟩ := incWindow_ok h
  exact ⟨hge, by simpa [I32_MAX, MAX_WINDOW_SIZE] using hle⟩

theorem inRange_decWindow {f f' : FlowControl} {sz : Nat} (h : f.decWindow sz = .ok f') : f'.InRange := by
  simp only [decWindow] at h
  split at h
  · cases h
  · rename_i hin
    cases h
    simp only [not_or, not_lt] at hin
    exact hin

theorem inRange_incWindowOrKeep {f : FlowControl} (h : f.InRange) (sz : Nat) :
    (f.incWindowOrKeep sz).InRange := by
  unfold incWindowOrKeep
  split
  · rename_i hinc
    exact inRange_incWindow hinc
  · exact h

theorem decWindow_isOk {f : FlowControl} {sz : Nat} (hf : f.InRange) (h : sz ≤ f.windowSize)
    (hsz : sz < 2 ^ 31) : ∃ f', f.decWindow sz = .ok f' := by
  have hasI32 : asI32 sz = sz := asI32_of_lt hsz
  obtain ⟨hge, hle⟩ := hf
  simp only [windowSize] at h
  simp only [decWindow, hasI32]
  rw [if_neg (by simp only [I32_MIN, I32_MAX] at *; omega)]
  exact ⟨_, rfl⟩

end FlowControl

end TwoPlz
