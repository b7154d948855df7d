import PeerLending.Word.Text

/-!
# Decimals for display

A `Decimal` is a mantissa below `2^96`, a scale (the number of digits after the point, at most
twenty-eight) and a sign: its value is `±mantissa / 10^scale`. The scale is part of the value's
text, so `1.5` and `1.500000` are different decimals of equal value.

The sum of two non-negative decimals follows three rules:

* a zero operand gives the other operand back unchanged, scale and all;
* otherwise both are brought to the larger scale and added exactly, if the exact mantissa fits;
* otherwise the fewest digits are dropped from the end for which the sum, rounded to the nearest
  with ties to the even neighbour, fits; the scale shrinks by as many digits.

The text of a decimal has all `scale` digits after the point, a `0` before a point that would
otherwise lead, and a `-` in front of a negative value.
-/

set_option autoImplicit false

namespace PeerLending

/-- A decimal number `±mantissa / 10^scale`. -/
structure Decimal where
  /-- The digits of the value, without its point. -/
  mantissa : Nat
  /-- How many of those digits stand after the point. -/
  scale : Nat
  /-- Whether the value carries a minus sign. -/
  negative : Bool
deriving DecidableEq, Repr

namespace Decimal

/-- Mantissas stay below `2^96`. -/
def mantissaBound : Nat := Nat.pow 2 96

/-- The largest decimal, `2^96 - 1` with no digit after the point. -/
def maxValue : Decimal := ⟨mantissaBound - 1, 0, false⟩

/-- A whole number as a decimal with no digit after the point. -/
def ofNat (n : Nat) : Decimal := ⟨n, 0, false⟩

/-- The decimal with the opposite sign. -/
def neg (d : Decimal) : Decimal := { d with negative := !d.negative }

/-- `n / q` rounded to the nearest whole number, a tie going to the even neighbour. -/
def divRoundHalfEven (n q : Nat) : Nat :=
  let f := n / q
  let r := n % q
  if q < 2 * r ∨ (2 * r = q ∧ f % 2 = 1) then f + 1 else f

/-- The decimal `m / 10^s` with the fewest digits dropped from its end for which the
half-even rounded mantissa fits; `none` when even dropping every digit after the point
leaves too large a mantissa. -/
def fit (m s : Nat) : Option Decimal :=
  ((List.range (s + 1)).find? fun k => divRoundHalfEven m (Nat.pow 10 k) < mantissaBound).map
    fun k => ⟨divRoundHalfEven m (Nat.pow 10 k), s - k, false⟩

/-- The sum of two non-negative decimals, by the three rules of the module header; `none` when
the sum does not fit at any scale. -/
def add? (a b : Decimal) : Option Decimal :=
  if a.mantissa = 0 then some b
  else if b.mantissa = 0 then some a
  else
    let s := Nat.max a.scale b.scale
    fit (a.mantissa * Nat.pow 10 (s - a.scale) + b.mantissa * Nat.pow 10 (s - b.scale)) s

/-- The text of a decimal: every digit after the point, a leading `0` before a leading point,
and a `-` for a negative value. -/
def toText (d : Decimal) : String :=
  let digits := Digits.decimal d.mantissa
  let body :=
    if d.scale = 0 then digits
    else
      let padded := List.replicate (d.scale + 1 - digits.length) '0' ++ digits
      let whole := padded.length - d.scale
      padded.take whole ++ '.' :: padded.drop whole
  String.ofList ((if d.negative then ['-'] else []) ++ body)

theorem add?_zero_left (a b : Decimal) (h : a.mantissa = 0) : add? a b = some b := by
  simp [add?, h]

theorem add?_zero_right (a b : Decimal) (ha : a.mantissa ≠ 0) (h : b.mantissa = 0) :
    add? a b = some a := by
  simp [add?, h, ha]

end Decimal

end PeerLending
