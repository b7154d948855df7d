import PeerLending.Operation
import PeerLending.Address.Hex

/-!
# Operations and amounts as typed on a command line

An operation is written `kind:market:amount`, or `kind:market:amount:unwrap` to be paid out in
the chain's coin. The kind is read leniently (`OperationKind.parse?`), the market as a hexadecimal
address, and the amount is `max` in any case or a non-empty string of digits and points.

Amounts are in human units and become native units once the market's decimals are known
(`parseAmount`): digits after the point beyond the decimals are cut, missing ones are zeros.
-/

set_option autoImplicit false

namespace PeerLending

/-- The amount of an operation before the market's decimals are known. -/
inductive AmountArg where
  /-- As much as allowed. -/
  | max
  /-- Digits and points, in human units. -/
  | units (text : String)
deriving DecidableEq

/-- An operation as typed. -/
structure OperationArg where
  kind : OperationKind
  market : Address
  amount : AmountArg
  unwrap : Bool
deriving DecidableEq

/-- Whether every character is an ASCII digit or a point. -/
def digitsAndPoints (s : String) : Bool := s.toList.all fun c => c.isDigit || c == '.'

/-- Whether the text is `max` in any ASCII case. -/
def isMaxWord (s : String) : Bool := s.toList.map Char.toLower == ['m', 'a', 'x']

/-- Reads an amount: `max` in any case, or a non-empty string of digits and points. -/
def AmountArg.parse? (s : String) : Option AmountArg :=
  if isMaxWord s then some .max
  else if !s.isEmpty && digitsAndPoints s then some (.units s)
  else none

/-- Reads `kind:market:amount` or `kind:market:amount:unwrap`; the failure is a message. -/
def OperationArg.parse (s : String) : Except String OperationArg :=
  let shape : Option (String × String × String × Bool) :=
    match s.splitOn ":" with
    | [k, m, a] => some (k, m, a, false)
    | [k, m, a, "unwrap"] => some (k, m, a, true)
    | _ => none
  match shape with
  | none => .error ("Invalid operation: " ++ s ++ " (expected kind:market:amount[:unwrap])")
  | some (k, m, a, unwrap) =>
    match OperationKind.parse? k with
    | none => .error (OperationKind.parseFailure k)
    | some kind =>
      match Address.parse m with
      | .error e => .error ("Invalid market address " ++ m ++ ": " ++ e.message)
      | .ok market =>
        match AmountArg.parse? a with
        | none => .error ("Invalid amount: " ++ a)
        | some amount => .ok ⟨kind, market, amount, unwrap⟩

/-- Why a string of digits is not a word. -/
inductive NumeralError where
  /-- A character that is not a digit or letter. -/
  | invalidCharacter (c : Char)
  /-- A letter, whose digit value is ten or more. -/
  | digitOutOfRange (digit : Nat)
  /-- A value of `2^256` or more. -/
  | overflow
deriving DecidableEq

/-- The causes of a numeral error, outermost first. -/
def NumeralError.causes : NumeralError → List String
  | .invalidCharacter c => ["invalid digit: " ++ String.singleton c]
  | .digitOutOfRange d =>
    let m := "digit " ++ toString d ++ " is out of range for base 10"
    [m, m]
  | .overflow =>
    let m := "the value is too large to fit the target type"
    [m, m]

/-- The value of a digit or letter (letters count from ten), none for anything else. -/
def digitValue? (c : Char) : Option Nat :=
  if c.isDigit then some (c.toNat - '0'.toNat)
  else if 'a' ≤ c ∧ c ≤ 'z' then some (c.toNat - 'a'.toNat + 10)
  else if 'A' ≤ c ∧ c ≤ 'Z' then some (c.toNat - 'A'.toNat + 10)
  else none

/-- Reads a base-ten numeral from the left, skipping underscores and stopping at the first
failure. -/
def readDecimal : List Char → Nat → Except NumeralError Nat
  | [], acc => .ok acc
  | '_' :: rest, acc => readDecimal rest acc
  | c :: rest, acc =>
    match digitValue? c with
    | none => .error (.invalidCharacter c)
    | some d =>
      if 10 ≤ d then .error (.digitOutOfRange d)
      else if Nat.pow 2 256 ≤ acc * 10 + d then .error .overflow
      else readDecimal rest (acc * 10 + d)

/-- Why an amount could not be read. -/
inductive AmountError where
  /-- More than one point. -/
  | format
  /-- The digits do not make a word. -/
  | numeral (e : NumeralError)
deriving DecidableEq

/-- The causes of an amount error, outermost first. -/
def AmountError.causes (text : String) : AmountError → List String
  | .format => ["Invalid amount format: " ++ text]
  | .numeral e => ("Failed to parse amount: " ++ text) :: e.causes

/-- The native amount of a human amount with `decimals` decimals: the whole part and the
fraction, cut or padded with zeros to `decimals` digits, read together as one numeral. -/
def parseAmount (text : String) (decimals : Nat) : Except AmountError Word :=
  let parts : Option (String × String) :=
    match text.splitOn "." with
    | [whole] => some (whole, "")
    | [whole, fraction] => some (whole, fraction)
    | _ => none
  match parts with
  | none => .error .format
  | some (whole, fraction) =>
    let kept := fraction.toList.take decimals
    let padded := kept ++ List.replicate (decimals - kept.length) '0'
    let combined := (whole.toList ++ padded).dropWhile (· = '0')
    if combined.isEmpty then .ok 0
    else
      match readDecimal combined 0 with
      | .ok n => .ok (Word.ofNat n)
      | .error e => .error (.numeral e)

end PeerLending
