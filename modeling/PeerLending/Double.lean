/-!
# Doubles as exact fractions

A finite double is a sign and the value `mantissa · 2^exponent`, where the mantissa has at most
fifty-three bits and the exponent lies in `[-1074, 971]`. Every operation here is computed on
exact fractions of natural numbers and then rounded once (`Double.round`): the result is the
double nearest the exact value, a tie going to the even mantissa, and a value at or beyond the
midpoint between the largest double and `2^1024` has no double (it would be infinite).

Nothing here depends on a machine's floating-point unit, so a statement about these functions
is a statement about fractions.
-/

set_option autoImplicit false

namespace PeerLending

/-- A finite double: a sign and the value `mantissa · 2^exponent`. -/
structure Double where
  negative : Bool
  mantissa : Nat
  exponent : Int
deriving DecidableEq, Repr

namespace Double

/-- The least exponent: that of the subnormal doubles. -/
def minExponent : Int := -1074

/-- The greatest exponent of a fifty-three-bit mantissa below `2^1024`. -/
def maxExponent : Int := 971

/-- Zero with a sign. -/
def zero (negative : Bool) : Double := ⟨negative, 0, minExponent⟩

/-- `n · 2^e` as a fraction of natural numbers. -/
def scaled (n : Nat) (e : Int) : Nat × Nat :=
  if 0 ≤ e then (n * Nat.pow 2 e.toNat, 1) else (n, Nat.pow 2 (-e).toNat)

/-- The magnitude as a fraction of natural numbers. -/
def ratio (d : Double) : Nat × Nat := scaled d.mantissa d.exponent

/-- `n / d` rounded to a whole number, a tie going to the even one. -/
def roundDiv (n d : Nat) : Nat :=
  let q := n / d
  let r := n % d
  if d < 2 * r ∨ (2 * r = d ∧ q % 2 = 1) then q + 1 else q

/-- The greatest `E` with `2^E ≤ num / den`, for positive `num` and `den`. -/
def log2Ratio (num den : Nat) : Int :=
  let e : Int := (Nat.log2 num : Int) - (Nat.log2 den : Int)
  let (a, b) := if 0 ≤ e then (num, den * Nat.pow 2 e.toNat) else (num * Nat.pow 2 (-e).toNat, den)
  if a < b then e - 1 else e

/-- The double nearest `num / den`, with the given sign; `none` when it rounds to infinity. The
mantissa keeps fifty-three bits where the exponent allows, fewer below `2^-1022`. -/
def round (negative : Bool) (num den : Nat) : Option Double :=
  if num = 0 then some (zero negative)
  else
    let e := max (log2Ratio num den - 52) minExponent
    let m := if 0 ≤ e then roundDiv num (den * Nat.pow 2 e.toNat) else roundDiv (num * Nat.pow 2 (-e).toNat) den
    let (m, e) := if m = Nat.pow 2 53 then (Nat.pow 2 52, e + 1) else (m, e)
    if maxExponent < e then none else some ⟨negative, m, e⟩

/-- The double nearest a natural number. -/
def ofNat (n : Nat) : Option Double := round false n 1

/-- The double nearest `10^k`. -/
def pow10 (k : Nat) : Option Double := round false (Nat.pow 10 k) 1

/-- The double nearest the product. -/
def mul (a b : Double) : Option Double :=
  let (n₁, d₁) := a.ratio
  let (n₂, d₂) := b.ratio
  round (a.negative != b.negative) (n₁ * n₂) (d₁ * d₂)

/-- The double nearest the quotient by a non-zero double. -/
def div (a b : Double) : Option Double :=
  let (n₁, d₁) := a.ratio
  let (n₂, d₂) := b.ratio
  round (a.negative != b.negative) (n₁ * d₂) (d₁ * n₂)

/-- The double nearest the sum; an exact zero sum is a positive zero. -/
def add (a b : Double) : Option Double :=
  let (n₁, d₁) := a.ratio
  let (n₂, d₂) := b.ratio
  let x := n₁ * d₂
  let y := n₂ * d₁
  if a.negative == b.negative then round a.negative (x + y) (d₁ * d₂)
  else if x = y then some (zero false)
  else if y < x then round a.negative (x - y) (d₁ * d₂)
  else round b.negative (y - x) (d₁ * d₂)

/-- The value as a signed fraction. -/
def signedRatio (d : Double) : Int × Nat :=
  let (n, den) := d.ratio
  (if d.negative then -(n : Int) else n, den)

/-- Compares the values; the two zeros are equal. -/
def compareValue (a b : Double) : Ordering :=
  let (n₁, d₁) := a.signedRatio
  let (n₂, d₂) := b.signedRatio
  compare (n₁ * d₂) (n₂ * d₁)

/-- The same magnitude with the other sign. -/
def neg (d : Double) : Double := { d with negative := !d.negative }

/-- Whether the value is zero, of either sign. -/
def isZero (d : Double) : Bool := d.mantissa == 0

end Double

end PeerLending
