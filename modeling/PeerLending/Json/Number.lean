import PeerLending.Double.Shortest
import PeerLending.Json

/-!
# The double a number literal reads as

A JSON number literal `-I.FeX` is read in one pass, digit by digit:

* the digits of `I` go into a significand while it fits sixty-four bits; from the first digit
  that would not fit, every further digit of `I` only raises a power of ten by one;
* the digits of `F` go on into the significand while it fits, each lowering the power of ten
  by one; from the first that would not fit, the rest of `F` is dropped;
* `X` is added to (or subtracted from) the power of ten, the sum held to thirty-two signed bits.
  A written exponent that does not fit thirty-one bits makes the value zero, unless it is
  positive and the significand is not zero: then the literal is too large.

The value is then the significand as the nearest double, scaled once by the nearest double to
`10^|p|` (a product or a quotient) when `|p| ≤ 308`. A smaller power first divides by the double
nearest `10^308` until it is in reach or the value is zero; a larger one, or a product that
rounds to infinity, makes the literal too large. The sign is put on last, so `-0` is a negative
zero.

The second half of the module writes such a double in messages (`Double.shown`): the shortest
decimal that reads back (`Double.shortest`), positional when its leading digit's power of ten is
between `-5` and `15` (with `.0` after a whole number), and otherwise as `d.ddde+X` or
`d.ddde-X`. The same text is how a JSON value whose numbers are held as sixty-four-bit whole
numbers and doubles is written back (`Json.withDoubles`).
-/

set_option autoImplicit false

namespace PeerLending

namespace Double

/-- The greatest significand: sixty-four bits. -/
def significandLimit : Nat := Nat.pow 2 64 - 1

/-- The greatest written exponent: thirty-one bits. -/
def exponentLimit : Nat := Nat.pow 2 31 - 1

/-- The value of a decimal digit. -/
def digitOf (c : Char) : Nat := c.toNat - '0'.toNat

/-- Reads the digits before the point into `(significand, power of ten)`: a digit is taken
while the significand fits, and once one is not, every later digit raises the power. -/
def wholeDigits : List Char → Nat → Bool → Int → Nat × Int
  | [], s, _, p => (s, p)
  | c :: cs, s, full, p =>
    if full ∨ significandLimit < s * 10 + digitOf c then wholeDigits cs s true (p + 1)
    else wholeDigits cs (s * 10 + digitOf c) false p

/-- Reads the digits after the point: a digit is taken while the significand fits, lowering the
power; the first that does not fit ends the reading. -/
def fractionDigits : List Char → Nat → Int → Nat × Int
  | [], s, p => (s, p)
  | c :: cs, s, p =>
    if significandLimit < s * 10 + digitOf c then (s, p)
    else fractionDigits cs (s * 10 + digitOf c) (p - 1)

/-- Reads a written exponent's digits. When a digit after the first takes it past
`exponentLimit`, the result is how many digits were read up to that one. -/
def exponentDigits : List Char → Nat → Nat → Except Nat Nat
  | [], x, _ => .ok x
  | c :: cs, x, read =>
    if 0 < read ∧ exponentLimit < x * 10 + digitOf c then .error (read + 1)
    else exponentDigits cs (x * 10 + digitOf c) (read + 1)

/-- A power of ten held to thirty-two signed bits. -/
def clampPower (p : Int) : Int := max (-(Int.pow 2 31)) (min p (Int.pow 2 31 - 1))

/-- `f · 10^p` as the reader scales it; `none` when it is too large. -/
def scaleByPower (f : Double) (p : Int) : Nat → Option Double
  | 0 => some f
  | fuel + 1 =>
    if p.natAbs ≤ 308 then
      if 0 ≤ p then (pow10 p.toNat).bind f.mul else (pow10 p.natAbs).bind f.div
    else if f.isZero then some f
    else if 0 ≤ p then none
    else ((pow10 308).bind f.div).bind fun g => scaleByPower g (p + 308) fuel

/-- The double `significand · 10^p` reads as, with the sign; `none` when it is too large. Four
quotients by `10^308` bring every significand to zero, so eight steps are enough. -/
def ofParts (negative : Bool) (significand : Nat) (p : Int) : Option Double :=
  ((ofNat significand).bind fun f => scaleByPower f p 8).map fun f =>
    if negative then f.neg else f

/-- The double a number literal reads as. A literal that is too large is refused with the
number of its characters read when that became known: all of them, or those up to the digit of
the exponent that passed `exponentLimit`. -/
def ofLiteral (cs : List Char) : Except Nat Double :=
  let (negative, body) := match cs with
    | '-' :: rest => (true, rest)
    | _ => (false, cs)
  let signLength := cs.length - body.length
  let whole := body.takeWhile Char.isDigit
  let (s, p) := wholeDigits whole 0 false 0
  let afterWhole := body.dropWhile Char.isDigit
  let (s, p, afterFraction) := match afterWhole with
    | '.' :: rest =>
      let (s', p') := fractionDigits (rest.takeWhile Char.isDigit) s p
      (s', p', rest.dropWhile Char.isDigit)
    | _ => (s, p, afterWhole)
  let tooLarge := Except.error cs.length
  let finish (p : Int) : Except Nat Double :=
    match ofParts negative s p with
    | some d => .ok d
    | none => tooLarge
  match afterFraction with
  | mark :: rest =>
    if mark = 'e' ∨ mark = 'E' then
      let (up, digits) := match rest with
        | '-' :: ds => (false, ds)
        | '+' :: ds => (true, ds)
        | ds => (true, ds)
      match exponentDigits digits 0 0 with
      | .ok x => finish (clampPower (if up then p + x else p - x))
      | .error read =>
        if s ≠ 0 ∧ up then
          .error (signLength + (body.length - afterFraction.length) + 1 +
            (rest.length - digits.length) + read)
        else .ok (zero negative)
    else finish p
  | [] => finish p

/-- How a double is written in messages: the shortest decimal that reads back, positional when
the power of ten of its leading digit is between `-5` and `15`, with `.0` after a whole number,
and otherwise one digit, the rest after a point, and the exponent with its sign (`1e+16`,
`1.5e-7`). Zero is `0.0`, with its sign. -/
def shown (d : Double) : String :=
  let sign := if d.negative then "-" else ""
  let (c, k) := d.shortest
  if c = 0 then sign ++ "0.0"
  else
    let ds := Digits.decimal c
    let length : Int := ds.length
    let top := length + k
    let zeros (n : Int) : List Char := List.replicate n.toNat '0'
    let exponent (e : Int) : List Char :=
      (if e < 0 then '-' else '+') :: Digits.decimal e.natAbs
    let body :=
      if 0 ≤ k ∧ top ≤ 16 then ds ++ zeros k ++ ['.', '0']
      else if 0 < top ∧ top ≤ 16 then
        ds.take top.toNat ++ '.' :: ds.drop top.toNat
      else if -5 < top ∧ top ≤ 0 then '0' :: '.' :: (zeros (-top) ++ ds)
      else if ds.length = 1 then ds ++ 'e' :: exponent (top - 1)
      else ds.take 1 ++ '.' :: ds.drop 1 ++ 'e' :: exponent (top - 1)
    sign ++ String.ofList body

end Double

namespace Json

/-- A number as it is written back by a reader that holds a whole number in sixty-four bits when
it fits (below `2^64`, or from `-2^63` when negative) and every other number as a double: such a
whole number stays as it is, any other number is the double it reads as, written as
`Double.shown` writes it. A minus zero is the double `-0.0`. -/
def heldNumber (n : JsonNumber) : JsonNumber :=
  let asDouble (cs : List Char) : JsonNumber :=
    match Double.ofLiteral cs with
    | .ok d => .float d.shown
    | .error _ => n
  match n with
  | .nat k => if k < Nat.pow 2 64 then n else asDouble (Digits.decimal k)
  | .negInt k => if 0 < k ∧ k ≤ Nat.pow 2 63 then n else asDouble ('-' :: Digits.decimal k)
  | .float t => asDouble t.toList

mutual

/-- The value with every number as `heldNumber` writes it back. -/
def withDoubles : Json → Json
  | .number n => .number (heldNumber n)
  | .array items => .array (withDoublesItems items)
  | .object members => .object (withDoublesMembers members)
  | v => v

/-- Items with every number as `heldNumber` writes it back. -/
def withDoublesItems : List Json → List Json
  | [] => []
  | v :: rest => withDoubles v :: withDoublesItems rest

/-- Members with every number as `heldNumber` writes it back. -/
def withDoublesMembers : List (String × Json) → List (String × Json)
  | [] => []
  | (k, v) :: rest => (k, withDoubles v) :: withDoublesMembers rest

end

end Json

end PeerLending
