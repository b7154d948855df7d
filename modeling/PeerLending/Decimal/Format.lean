import PeerLending.Decimal

/-!
# Decimal arithmetic for reports

What reports do with decimals:

* compare two of them by value (the scale does not matter);
* multiply them, exactly when the mantissa fits, else with the fewest digits dropped, rounding
  half to even (`mul?`; none when no scale fits);
* divide by a power of ten, which only moves the point (`shiftPoint`);
* round to a number of digits after the point, half to even, keeping a value that already has no
  more digits unchanged (`roundDp`);
* write with a fixed number of digits after the point: the kept digits, cut or padded with zeros
  (`toFixed`).

A mantissa of zero carries no sign: rounding to zero drops the minus sign.
-/

set_option autoImplicit false

namespace PeerLending

namespace Decimal

/-- The value as a signed fraction `numerator / 10^scale`, for comparison. -/
def numerator (d : Decimal) : Int := if d.negative then -(d.mantissa : Int) else d.mantissa

/-- Whether `a ≤ b` as numbers: both brought to the larger scale. -/
def le (a b : Decimal) : Bool :=
  let s := Nat.max a.scale b.scale
  decide (a.numerator * Nat.pow 10 (s - a.scale) ≤ b.numerator * Nat.pow 10 (s - b.scale))

/-- The product of two decimals: exact when the mantissa fits, else with the fewest digits
dropped (half to even); none when even scale zero does not fit. -/
def mul? (a b : Decimal) : Option Decimal :=
  (fit (a.mantissa * b.mantissa) (a.scale + b.scale)).map fun d =>
    { d with negative := (a.negative != b.negative) && d.mantissa != 0 }

/-- One hundred. -/
def hundred : Decimal := ofNat 100

/-- The decimal divided by `10^k`: the same digits with the point moved left. -/
def shiftPoint (d : Decimal) (k : Nat) : Decimal := { d with scale := d.scale + k }

/-- Rounded to `dp` digits after the point, half to even; unchanged when it has no more digits. -/
def roundDp (d : Decimal) (dp : Nat) : Decimal :=
  if d.scale ≤ dp then d
  else
    let m := divRoundHalfEven d.mantissa (Nat.pow 10 (d.scale - dp))
    ⟨m, dp, d.negative && m != 0⟩

/-- The text with exactly `prec` digits after the point: the mantissa's digits, cut after `prec`
or padded with zeros, a `0` before a leading point, and the sign. -/
def toFixed (d : Decimal) (prec : Nat) : String :=
  let digits := Digits.decimal d.mantissa
  let digits := if d.mantissa = 0 then [] else digits
  let padded := List.replicate (d.scale - digits.length) '0' ++ digits
  let whole := padded.take (padded.length - d.scale)
  let fraction := padded.drop (padded.length - d.scale)
  let fraction := (fraction ++ List.replicate prec '0').take prec
  let whole := if whole.isEmpty then ['0'] else whole
  let body := if prec = 0 then whole else whole ++ '.' :: fraction
  String.ofList ((if d.negative then ['-'] else []) ++ body)

end Decimal

end PeerLending
