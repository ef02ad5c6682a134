/-
# `Lib.Hex` — bytes as hexadecimal digits

The digits as ASCII characters: `hexDigit` writes upper-case ones,
`hexValue` reads both cases.  A byte is written as two digits, the high
half first (`hexByte`).
-/
import Mathlib.Data.Nat.Notation

namespace Lib

/-- The upper-case digit of a value below 16. -/
def hexDigit (n : Nat) : UInt8 :=
  if n < 10 then UInt8.ofNat (0x30 + n) else UInt8.ofNat (0x41 + (n - 10))

/-- The value of a digit of either case. -/
def hexValue (c : UInt8) : Option Nat :=
  if 0x30 ≤ c ∧ c ≤ 0x39 then some (c.toNat - 0x30)
  else if 0x41 ≤ c ∧ c ≤ 0x46 then some (c.toNat - 0x41 + 10)
  else if 0x61 ≤ c ∧ c ≤ 0x66 then some (c.toNat - 0x61 + 10)
  else none

def hexByte (b : UInt8) : List UInt8 := [hexDigit (b.toNat / 16), hexDigit (b.toNat % 16)]

theorem hexValue_hexDigit : ∀ n, n < 16 → hexValue (hexDigit n) = some n := by decide

theorem hexValue_high (b : UInt8) : hexValue (hexDigit (b.toNat / 16)) = some (b.toNat / 16) := by
  have := b.toNat_lt
  exact hexValue_hexDigit _ (by omega)

theorem hexValue_low (b : UInt8) : hexValue (hexDigit (b.toNat % 16)) = some (b.toNat % 16) :=
  hexValue_hexDigit _ (Nat.mod_lt _ (by decide))

/-- What is no digit does not occur in the digits of a byte. -/
theorem not_mem_hexByte {c : UInt8} (h : hexValue c = none) (b : UInt8) : c ∉ hexByte b := by
  intro hmem
  rcases List.mem_cons.mp hmem with rfl | hmem
  · exact absurd (h.symm.trans (hexValue_high b)) (by simp)
  · rw [List.mem_singleton.mp hmem] at h
    exact absurd (h.symm.trans (hexValue_low b)) (by simp)

end Lib
