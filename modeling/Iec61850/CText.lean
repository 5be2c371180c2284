import Iec61850.GoText
import Mathlib.Data.Int.Basic
import Mathlib.Data.List.TakeWhile

/-!
# Values handed to C

What arrives in C of a Go string and of a Go integer.
-/

namespace Iec61850.Go

/-- `C.CString`, as C reads it: up to the first NUL. -/
def cString (s : Str) : Str := s.takeWhile (· ≠ Char.ofNat 0)

theorem cString_eq_self_iff (s : Str) : cString s = s ↔ Char.ofNat 0 ∉ s := by
  unfold cString
  rw [List.takeWhile_eq_self_iff]
  constructor
  · intro h hmem
    simpa using h _ hmem
  · intro h c hc
    have hne : c ≠ Char.ofNat 0 := fun hc0 => h (hc0 ▸ hc)
    simpa using hne

theorem cString_cString (s : Str) : cString (cString s) = cString s := List.takeWhile_idem ..

/-- `C.int` of a 64-bit integer. -/
def cInt (n : ℤ) : ℤ := n.bmod (2 ^ 32)

/-- `C.uint32_t` of a 64-bit integer. -/
def cUint32 (n : ℤ) : BitVec 32 := BitVec.ofInt 32 n

theorem toNat_cUint32_eq_iff (n : ℤ) : ((cUint32 n).toNat : ℤ) = n ↔ 0 ≤ n ∧ n < 2 ^ 32 := by
  unfold cUint32
  rw [BitVec.toNat_ofInt]
  omega

end Iec61850.Go
