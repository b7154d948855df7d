import PeerLending.Decimal
import PeerLending.FixedPoint
import PeerLending.Word.Signed

/-!
# Words shown as decimals

Fixed-point words become decimals for display:

* `ofPercent` reads a percent-base word as a fraction with four digits after the point
  (`10000` is `1.0000`); a word above `2^63 - 1` (such as the "unbounded" sentinel) is shown
  as the largest decimal;
* `ofSignedPercent` does the same for a signed word and puts its sign back;
* `ofScaled v d` reads `v` as a number with `d` implied decimals: the whole part, and at most
  twelve digits of the fraction (the rest truncated), joined by the decimal sum of
  `PeerLending.Decimal`. A whole part above `2^64 - 1` is shown as the largest decimal.
  `ofWad` is `ofScaled` with eighteen decimals. `ofScaledWith` is the same conversion with the
  decimal sum as a parameter.

Since the whole part stays below `2^64` and the kept fraction below `10^12`, the sum always
fits at scale zero, so the fallback to the largest decimal in `ofScaled` is never taken.
-/

set_option autoImplicit false

namespace PeerLending

namespace Decimal

/-- A percent-base word as a fraction with four digits after the point, or the largest decimal
above `2^63 - 1`. -/
def ofPercent (v : Word) : Decimal :=
  if v.val > Nat.pow 2 63 - 1 then maxValue else ⟨v.val, 4, false⟩

/-- A signed percent-base word as a signed fraction with four digits after the point. -/
def ofSignedPercent (v : SignedWord) : Decimal :=
  let magnitude := ofPercent v.natAbs
  if v.isNegative then magnitude.neg else magnitude

/-- The most digits of the fraction that are kept. -/
def keptFractionDigits : Nat := 12

/-- A word with `d` implied decimals: the whole part plus at most twelve digits of the fraction,
truncated, joined by the decimal sum `sum`. A whole part above `2^64 - 1` gives the largest
decimal. -/
def ofScaledWith (sum : Decimal → Decimal → Option Decimal) (v : Word) (d : Nat) : Decimal :=
  let unit := pow10 d
  let whole := v / unit
  if whole.val > Nat.pow 2 64 - 1 then maxValue
  else
    let kept := Nat.min d keptFractionDigits
    let fraction := v % unit / pow10 (d - kept)
    match sum (ofNat whole.val) ⟨fraction.val, kept, false⟩ with
    | some total => total
    | none => maxValue

/-- A word with `d` implied decimals, joined by the decimal sum `add?`. -/
def ofScaled (v : Word) (d : Nat) : Decimal := ofScaledWith add? v d

/-- A wad-base word as a decimal. -/
def ofWad (v : Word) : Decimal := ofScaled v 18

end Decimal

end PeerLending
