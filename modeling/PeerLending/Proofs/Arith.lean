import PeerLending.FixedPoint

/-!
# Word arithmetic that does not wrap

The accounting adds and subtracts words with the machine's wrapping `+` and `-`. Most of those
operations never leave the range: an amount minus the part of it already moved, a balance plus
an amount bounded by the word's room. This module says when `+` and `-` mean the plain `Nat`
sum and difference, and how `Word.min` compares, so that proofs about the accounting move to
`Nat` once and close there with `omega`.
-/

set_option autoImplicit false

namespace PeerLending

namespace Word

/-- Subtracting a smaller word never wraps. -/
theorem val_sub_of_le {a b : Word} (h : b ≤ a) : (a - b).val = a.val - b.val := by
  rw [val_sub]
  have hb : b.val ≤ a.val := h
  have ha := a.isLt
  rw [show a.val + (wordSize - b.val) = (a.val - b.val) + wordSize by omega, Nat.add_mod_right]
  exact Nat.mod_eq_of_lt (by omega)

/-- Adding two words whose sum fits never wraps. -/
theorem val_add_of_lt {a b : Word} (h : a.val + b.val < wordSize) : (a + b).val = a.val + b.val := by
  rw [val_add, Nat.mod_eq_of_lt h]

theorem add_comm (a b : Word) : a + b = b + a := by
  apply ext
  rw [val_add, val_add, Nat.add_comm]

theorem not_lt_of_le {a b : Word} (h : a ≤ b) : ¬b < a := Nat.not_lt_of_le h

theorem sub_le_self {a b : Word} (h : b ≤ a) : a - b ≤ a := by
  rw [le_iff_val_le, val_sub_of_le h]
  exact Nat.sub_le _ _

theorem min_le_left (a b : Word) : min a b ≤ a := by
  rw [le_iff_val_le, val_min]
  split <;> omega

theorem min_le_right (a b : Word) : min a b ≤ b := by
  rw [le_iff_val_le, val_min]
  split <;> omega

end Word

end PeerLending
