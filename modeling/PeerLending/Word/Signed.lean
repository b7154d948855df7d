import PeerLending.Word.Text

/-!
# Signed words

A signed 256-bit word is an integer in `[-2^255, 2^255)`. Sums, differences and quotients are
computed on `Int` and then checked against that range: an operation whose exact result leaves
it has no value (`none`), because the machine that the accounting runs on stops there instead
of wrapping around. The quotient truncates toward zero.

`ofWordSaturating` reads an unsigned word as a signed one, stopping at the largest signed word;
`natAbs` gives the magnitude back as an unsigned word.
-/

set_option autoImplicit false

namespace PeerLending

/-- Half the number of words: signed words lie in `[-2^255, 2^255)`. -/
abbrev signedHalf : Int := Int.pow 2 255

/-- A signed 256-bit word, kept as its integer value. -/
structure SignedWord where
  /-- The value of the word. -/
  val : Int
  /-- The value is at least `-2^255`. -/
  le_val : -signedHalf ≤ val
  /-- The value is below `2^255`. -/
  val_lt : val < signedHalf
deriving DecidableEq

namespace SignedWord

/-- The signed word of an integer, when the integer is in range. -/
def ofInt? (i : Int) : Option SignedWord :=
  if h : -signedHalf ≤ i ∧ i < signedHalf then some ⟨i, h.1, h.2⟩ else none

/-- Zero. -/
def zero : SignedWord := ⟨0, by decide, by decide⟩

/-- The largest signed word, `2^255 - 1`. -/
def maxValue : SignedWord := ⟨signedHalf - 1, by decide, by decide⟩

/-- An unsigned word read as signed, stopping at the largest signed word. -/
def ofWordSaturating (w : Word) : SignedWord :=
  if h : (w.val : Int) < signedHalf then ⟨w.val, by omega, h⟩ else maxValue

/-- Sum, or `none` when it leaves the range. -/
def add? (a b : SignedWord) : Option SignedWord := ofInt? (a.val + b.val)

/-- Difference, or `none` when it leaves the range. -/
def sub? (a b : SignedWord) : Option SignedWord := ofInt? (a.val - b.val)

/-- Quotient truncated toward zero, or `none` for a zero divisor or a quotient out of range. -/
def div? (a b : SignedWord) : Option SignedWord :=
  if b.val = 0 then none else ofInt? (a.val.tdiv b.val)

/-- The magnitude as an unsigned word. -/
def natAbs (a : SignedWord) : Word := Word.ofNat a.val.natAbs

/-- Whether the word is below zero. -/
def isNegative (a : SignedWord) : Bool := decide (a.val < 0)

/-- The decimal text of the value, with `-` in front of a negative one. -/
def toDecimal (a : SignedWord) : String :=
  String.ofList ((if a.val < 0 then ['-'] else []) ++ Digits.decimal a.val.natAbs)

/-- A signed word from a sign mark and a magnitude. -/
def ofSignAndMagnitude? (negative : Bool) (m : Nat) : Option SignedWord :=
  ofInt? (if negative then -(m : Int) else m)

/-- Splits an optional leading `+` or `-` off a numeral. -/
def signMark : List Char → Bool × List Char
  | '-' :: rest => (true, rest)
  | '+' :: rest => (false, rest)
  | cs => (false, cs)

/-- Reads a signed word from text: an optional `+` or `-`, then a numeral as a word reads it
(`Word.ofNumeral?`: a base mark, digits, underscores skipped); a magnitude out of range is
refused. -/
def ofNumeral? (s : String) : Option SignedWord :=
  let (negative, rest) := signMark s.toList
  (Word.ofNumeral? (String.ofList rest)).bind fun m => ofSignAndMagnitude? negative m.val

theorem val_ofInt? {i : Int} {w : SignedWord} (h : ofInt? i = some w) : w.val = i := by
  unfold ofInt? at h
  split at h
  · cases h; rfl
  · cases h

theorem ofInt?_eq_none_iff (i : Int) : ofInt? i = none ↔ ¬(-signedHalf ≤ i ∧ i < signedHalf) := by
  unfold ofInt?
  split
  · rename_i h
    exact iff_of_false (Option.some_ne_none _) (not_not_intro h)
  · rename_i h
    exact iff_of_true rfl h

end SignedWord

end PeerLending
