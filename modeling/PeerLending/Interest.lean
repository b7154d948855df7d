import PeerLending.FixedPoint

/-!
# Interest factors

A yearly rate `r` (ray base) grows a balance over `t` seconds by an interest factor (ray base):

* `linearInterest r t = 1 + r·t/year`, the pool's supply side, truncated;
* `compoundedInterest r t`, the pool's borrow side: the third-order expansion of
  `(1 + r/year)^t`, that is `1 + r·t + t(t-1)·r²/2 + t(t-1)(t-2)·r³/6` with `r` per second,
  where the powers of `r` and the binomial cross terms are computed on integers so that the
  factor is digit for digit the one the pool itself accrues.

`rateToApy` turns a yearly rate into the yearly yield it compounds to, in percent base.

Both factors use the machine's wrapping `+` and `*` between their terms; the rounded products
go through `rayMul`. For rates below `10^30` and any elapsed time below `2^64`, no term wraps.
-/

set_option autoImplicit false

namespace PeerLending

/-- The factor `1 + rate·elapsed/year` (ray base), truncated like the pool does. -/
def linearInterest (rate : Word) (elapsed : Nat) : Word :=
  ray + rate.satMul (Word.ofNat elapsed) / Word.ofNat secondsPerYear

/-- The factor of `rate` compounded every second over `elapsed` seconds, by the third-order
expansion `1 + r·t + t(t-1)·r²/2 + t(t-1)(t-2)·r³/6` with `r = rate / year`. -/
def compoundedInterest (rate : Word) (elapsed : Nat) : Word :=
  if elapsed = 0 then ray
  else
    let year := Word.ofNat secondsPerYear
    let t := Word.ofNat elapsed
    let tMinusOne := Word.ofNat (elapsed - 1)
    let tMinusTwo := Word.ofNat (elapsed - 2)
    let basePowerTwo := rayMul rate rate / (year * year)
    let basePowerThree := rayMul basePowerTwo rate / year
    let secondTerm := t * tMinusOne * basePowerTwo / 2
    let thirdTerm := t * tMinusOne * tMinusTwo * basePowerThree / 6
    ray + rate * t / year + secondTerm + thirdTerm

/-- The yearly yield of a yearly rate compounded every second, in percent base, half up. -/
def rateToApy (rate : Word) : Word :=
  rayToPercent (compoundedInterest rate secondsPerYear - ray)

theorem compoundedInterest_zero (rate : Word) : compoundedInterest rate 0 = ray := rfl

end PeerLending
