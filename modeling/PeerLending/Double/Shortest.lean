import PeerLending.Double
import PeerLending.Word.Text

/-!
# The shortest decimal of a double

Every double stands for the interval of reals that round to it: half a last place on either
side, a quarter below where the mantissa is the least of its binade (the gap to the double
below is half as wide there), with both ends in the interval exactly when the mantissa is even,
as a tie goes to the even mantissa.

`Double.shortest` picks, among the decimals `c · 10^k` in that interval, one with the fewest
significant digits: for one digit, two, and so on up to seventeen (which always suffice), it
tries the two neighbours of the value on the grid of that many digits, and the first grid with
one of them inside wins. When both are inside, the nearer is taken, and of two equally near
the even one. The digits come without zeros at their end.
-/

set_option autoImplicit false

namespace PeerLending

namespace Double

/-- The greatest `L` with `10^L ≤ num / den`, for positive `num` and `den`. -/
def log10Ratio (num den : Nat) : Int :=
  let t : Int := ((Digits.decimal num).length : Int) - ((Digits.decimal den).length : Int)
  let (a, b) := if 0 ≤ t then (num, den * Nat.pow 10 t.toNat) else (num * Nat.pow 10 (-t).toNat, den)
  if a < b then t - 1 else t

/-- Compares `c · 10^k` with `x · 2^e`. -/
def compareScaled (c : Nat) (k : Int) (x : Nat) (e : Int) : Ordering :=
  compare (c * Nat.pow 10 k.toNat * Nat.pow 2 (-e).toNat) (x * Nat.pow 2 e.toNat * Nat.pow 10 (-k).toNat)

/-- The ends of the interval that rounds to a double, in quarters of its last place: the
value itself is `4 · mantissa` of them. -/
def roundingEnds (d : Double) : Nat × Nat :=
  let below := if d.mantissa = Nat.pow 2 52 ∧ minExponent < d.exponent then 1 else 2
  (4 * d.mantissa - below, 4 * d.mantissa + 2)

/-- Whether `c · 10^k` rounds to the double. -/
def roundsTo (d : Double) (c : Nat) (k : Int) : Bool :=
  let (lo, hi) := d.roundingEnds
  let q := d.exponent - 2
  let inclusive := d.mantissa % 2 == 0
  let aboveLow := match compareScaled c k lo q with
    | .lt => false
    | .eq => inclusive
    | .gt => true
  let belowHigh := match compareScaled c k hi q with
    | .lt => true
    | .eq => inclusive
    | .gt => false
  aboveLow && belowHigh

/-- The decimal on the grid `10^k` that rounds to the double, if one of the value's two
neighbours there does: the nearer of two, of two equally near the even one. -/
def onGrid (d : Double) (k : Int) : Option Nat :=
  let (num, den) := d.ratio
  let low := if 0 ≤ k then num / (den * Nat.pow 10 k.toNat) else num * Nat.pow 10 (-k).toNat / den
  match d.roundsTo low k, d.roundsTo (low + 1) k with
  | true, true =>
    -- the midpoint of the two neighbours against the value
    match compareScaled (2 * low + 1) k (2 * d.mantissa) d.exponent with
    | .gt => some low
    | .lt => some (low + 1)
    | .eq => some (if low % 2 = 0 then low else low + 1)
  | true, false => some low
  | false, true => some (low + 1)
  | false, false => none

/-- Drops the zeros at the end of `c`, raising the power of ten for each. -/
def dropZeros : Nat → Nat → Int → Nat × Int
  | 0, c, k => (c, k)
  | fuel + 1, c, k => if c ≠ 0 ∧ c % 10 = 0 then dropZeros fuel (c / 10) (k + 1) else (c, k)

/-- The shortest decimal `c · 10^k` that rounds to a positive double, as `(c, k)`; zero is
`(0, 0)`. -/
def shortest (d : Double) : Nat × Int :=
  if d.mantissa = 0 then (0, 0)
  else
    let (num, den) := d.ratio
    let top := log10Ratio num den
    let grids : List Int := (List.range 17).map fun (i : Nat) => top - (i : Int)
    match grids.findSome? fun k => (d.onGrid k).map fun c => (c, k) with
    | some (c, k) => dropZeros 20 c k
    -- not reached: seventeen digits always suffice
    | none => (0, 0)

end Double

end PeerLending
