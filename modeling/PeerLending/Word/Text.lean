import PeerLending.Word

/-!
# Text forms of words

A word is written as `0x` followed by its lowercase hexadecimal digits without leading zeros,
so zero is `0x0`. It is read from a numeral: an optional base mark (`0x` or `0X` for sixteen,
`0o` or `0O` for eight, `0b` or `0B` for two, none for ten) followed by digits of that base in
either case, where underscores are skipped as separators. A numeral whose value does not fit
in 256 bits, or that holds a character that is no digit of its base, is refused.

`Digits.read?` is the one reader; `Word.ofNumeral?` adds the base mark and the range check.
-/

set_option autoImplicit false

namespace PeerLending

namespace Digits

/-- The value of a digit character in bases up to thirty-six, letters in either case. -/
def value? (c : Char) : Option Nat :=
  if '0' ≤ c ∧ c ≤ '9' then some (c.toNat - '0'.toNat)
  else if 'a' ≤ c ∧ c ≤ 'z' then some (c.toNat - 'a'.toNat + 10)
  else if 'A' ≤ c ∧ c ≤ 'Z' then some (c.toNat - 'A'.toNat + 10)
  else none

/-- Reads the digits of `base`, most significant first, skipping underscores. The empty
numeral reads as zero. -/
def read? (base : Nat) (cs : List Char) : Option Nat :=
  cs.foldl (fun acc c =>
    acc.bind fun n =>
      if c = '_' then some n
      else match value? c with
        | some d => if d < base then some (n * base + d) else none
        | none => none) (some 0)

/-- The lowercase hexadecimal digits of a number, without leading zeros (zero is `0`). -/
def hex (n : Nat) : List Char := Nat.toDigits 16 n

/-- The decimal digits of a number, without leading zeros (zero is `0`). -/
def decimal (n : Nat) : List Char := Nat.toDigits 10 n

/-- The hexadecimal digits of a number padded with zeros on the left to `width` digits. -/
def hexPadded (width n : Nat) : List Char :=
  let ds := hex n
  List.replicate (width - ds.length) '0' ++ ds

end Digits

namespace Word

/-- `0x` and the lowercase hexadecimal digits of the word, `0x0` for zero. -/
def toHex (w : Word) : String := String.ofList ('0' :: 'x' :: Digits.hex w.val)

/-- The decimal digits of the word. -/
def toDecimal (w : Word) : String := String.ofList (Digits.decimal w.val)

/-- The base a numeral's leading mark selects, and the digits after the mark. -/
def numeralBase : List Char → Nat × List Char
  | '0' :: 'x' :: rest => (16, rest)
  | '0' :: 'X' :: rest => (16, rest)
  | '0' :: 'o' :: rest => (8, rest)
  | '0' :: 'O' :: rest => (8, rest)
  | '0' :: 'b' :: rest => (2, rest)
  | '0' :: 'B' :: rest => (2, rest)
  | cs => (10, cs)

/-- Reads a word from a numeral; `none` for a stray character or a value of 2^256 or more. -/
def ofNumeral? (s : String) : Option Word :=
  let (base, digits) := numeralBase s.toList
  match Digits.read? base digits with
  | some n => if h : n < wordSize then some ⟨n, h⟩ else none
  | none => none

end Word

end PeerLending
