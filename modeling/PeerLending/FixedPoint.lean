import PeerLending.Word

/-!
# Fixed-point arithmetic

Three bases are used, and a value of one base meets a value of another only through an explicit
conversion:

| base | one is | used for |
|---|---|---|
| ray | `10^27` | indexes, growth factors, yearly rates |
| wad | `10^18` | USD values, the health factor |
| percent | `10^4` (so `10000` is 100%) | factors, cursors, shares, APYs |

Every product-then-quotient goes through `mulDiv`, whose product stops at the largest word
instead of wrapping, and which rounds down, up, or to the nearest with halves up. A zero
divisor gives zero; callers that need a sentinel for an empty denominator (`usage`,
the health factor) test for it first.

Main statements: `val_mulDiv_down`, `val_mulDiv_up` and `val_mulDiv_halfUp` give the value of
each rounding in `Nat`, so that every later bound is a statement about natural numbers.
-/

set_option autoImplicit false

namespace PeerLending

/-! ## Bases and constants -/

/-- One in ray base, `10^27`. -/
def ray : Word := 1000000000000000000000000000

/-- One in wad base, `10^18`. -/
def wad : Word := 1000000000000000000

/-- One hundred percent in percent base. -/
def percent : Word := 10000

/-- Fifty percent in percent base. -/
def halfPercent : Word := 5000

/-- One percent unit in ray base, `10^27 / 10^4`. -/
def rayPerPercent : Word := 100000000000000000000000

/-- Seconds in a year of 365 days. -/
def secondsPerYear : Nat := 31536000

/-- The smallest liquidation threshold of a listed asset, 10% in percent base. Collateral is
discounted by `(ltLowerBound - 1) / ltLowerBound` before any factor applies. -/
def ltLowerBound : Word := 1000

/-- Oracle prices carry eight decimals. -/
def priceUnit : Word := 100000000

/-! ## Rounding -/

/-- The direction in which a quotient is rounded. -/
inductive Rounding where
  /-- Toward zero. -/
  | down
  /-- Away from zero. -/
  | up
  /-- To the nearest, a half away from zero. -/
  | halfUp
deriving DecidableEq, Repr

/-- `x * y / d` in the given rounding, with the product stopping at the largest word; zero
when `d` is zero. -/
def mulDiv (x y d : Word) (r : Rounding) : Word :=
  if d.val = 0 then 0
  else
    let p := x.satMul y
    match r with
    | .down => p / d
    | .up => if (p % d).val = 0 then p / d else p / d + 1
    -- the constant half stands on the left: a sum with a symbolic right operand stops
    -- unfolding at once, where `p + 5·10^26` would unfold one unit at a time
    | .halfUp => (d / 2).satAdd p / d

/-- `x * y / d`, rounded down. -/
def mulDivDown (x y d : Word) : Word := mulDiv x y d .down

/-- `x * y / d`, rounded up. -/
def mulDivUp (x y d : Word) : Word := mulDiv x y d .up

/-- `x * y` in ray base, half up. -/
def rayMul (x y : Word) : Word := mulDiv x y ray .halfUp

/-- `x / y` in ray base, half up. -/
def rayDiv (x y : Word) : Word := mulDiv x ray y .halfUp

/-- `x / y` in ray base, rounded up. -/
def rayDivUp (x y : Word) : Word := mulDivUp x ray y

/-- `x / y` in wad base, rounded down. -/
def wadDivDown (x y : Word) : Word := mulDivDown x wad y

/-- `x` times the percentage `p`, half up. -/
def percentMul (x p : Word) : Word := mulDiv x p percent .halfUp

/-- `x` times the percentage `p`, rounded down. -/
def percentMulDown (x p : Word) : Word := mulDivDown x p percent

/-- `x` divided by the percentage `p`, half up. -/
def percentDiv (x p : Word) : Word := mulDiv x percent p .halfUp

/-- `x` divided by the percentage `p`, rounded down. -/
def percentDivDown (x p : Word) : Word := mulDivDown x percent p

/-- The weighted average `x * (1 - p) + y * p` for a percentage `p` clamped to one hundred
percent, half up; every step stops at the largest word. -/
def percentAvg (x y p : Word) : Word :=
  let p := Word.min p percent
  halfPercent.satAdd ((x.satMul (percent - p)).satAdd (y.satMul p)) / percent

/-- A ray-base value in percent base, half up. -/
def rayToPercent (x : Word) : Word := (rayPerPercent / 2).satAdd x / rayPerPercent

/-- `x - y`, stopping at zero. -/
def zeroFloorSub (x y : Word) : Word := x.satSub y

/-- `10^d`, wrapping around modulo `2^256` once `d` reaches 78. -/
def pow10 (d : Nat) : Word := Word.ofNat (Nat.pow 10 d)

/-- The share of `part` in `total`, in percent base, half up; zero for an empty total. -/
def percentShare (part total : Word) : Word :=
  if total.val = 0 then 0 else percentDiv part total

/-- How much of `available` is `used`, in percent base: zero when both are zero, and the
largest word when only `available` is. -/
def usage (used available : Word) : Word :=
  if available.val = 0 then (if used.val = 0 then 0 else Word.maxValue)
  else percentDiv used available

/-! ## Values of the roundings -/

theorem val_zero : (0 : Word).val = 0 := rfl

theorem mulDiv_zero_divisor (x y : Word) (r : Rounding) : mulDiv x y 0 r = 0 := rfl

/-- The product that `mulDiv` divides: `x * y`, stopping at `2^256 - 1`. -/
def satProduct (x y : Nat) : Nat := if x * y < wordSize then x * y else wordSize - 1

theorem satProduct_lt (x y : Nat) : satProduct x y < wordSize := by
  have h : 0 < wordSize := Nat.two_pow_pos 256
  unfold satProduct; split <;> omega

theorem val_satMul_eq (x y : Word) : (x.satMul y).val = satProduct x.val y.val :=
  Word.val_satMul x y

theorem val_mulDiv_down (x y d : Word) (hd : d.val ≠ 0) :
    (mulDiv x y d .down).val = satProduct x.val y.val / d.val := by
  simp only [mulDiv, hd, if_false, Word.val_div, val_satMul_eq]

theorem val_mulDiv_up (x y d : Word) (hd : d.val ≠ 0) :
    (mulDiv x y d .up).val =
      satProduct x.val y.val / d.val + (if satProduct x.val y.val % d.val = 0 then 0 else 1) := by
  simp only [mulDiv, hd, if_false, Word.val_mod, val_satMul_eq]
  split
  · next h => simp [Word.val_div, val_satMul_eq]
  · next h =>
    rw [Word.val_add, Word.val_div, val_satMul_eq]
    have hq : satProduct x.val y.val / d.val + 1 < wordSize := by
      have h1 := satProduct_lt x.val y.val
      have hW : 2 ≤ wordSize := Nat.le_self_pow (by decide) 2
      have h2 : 2 ≤ d.val := by
        rcases Nat.lt_or_ge d.val 2 with h3 | h3
        · have : d.val = 1 := by omega
          rw [this, Nat.mod_one] at h; exact absurd rfl h
        · exact h3
      have h3 : satProduct x.val y.val / d.val ≤ satProduct x.val y.val / 2 :=
        Nat.div_le_div_left h2 (by decide)
      omega
    exact Nat.mod_eq_of_lt hq

theorem val_mulDiv_halfUp (x y d : Word) (hd : d.val ≠ 0) :
    (mulDiv x y d .halfUp).val =
      (if satProduct x.val y.val + d.val / 2 < wordSize then satProduct x.val y.val + d.val / 2
        else wordSize - 1) / d.val := by
  simp only [mulDiv, hd, if_false, Word.val_div, Word.val_satAdd, val_satMul_eq]
  rw [Nat.add_comm]
  rfl

end PeerLending
