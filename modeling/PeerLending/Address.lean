import PeerLending.Keccak
import PeerLending.Word.Text

/-!
# Addresses

An address is twenty bytes, kept as the number they spell big-endian, so that the order of
addresses is the order of those numbers (and of their byte strings).

It has two spellings:

* `toHex`: `0x` and forty lowercase hexadecimal digits, the form used in data;
* `checksummed`: the mixed-case form used in messages, where a letter digit is written in
  uppercase exactly when the matching half-byte of the Keccak-256 digest of the lowercase digits
  is eight or more.

`ofHex?` reads either spelling (any case), with or without the `0x` (or `0X`) mark, and refuses
any other number of digits.
-/

set_option autoImplicit false

namespace PeerLending

/-- Twenty bytes, as the number they spell big-endian. -/
structure Address where
  /-- The number the bytes spell. -/
  val : Nat
  /-- Twenty bytes lie below `2^160`. -/
  isLt : val < Nat.pow 2 160
deriving DecidableEq, Repr

namespace Address

/-- The address of all zero bytes. -/
def zero : Address := ⟨0, by decide⟩

instance : Inhabited Address := ⟨zero⟩

instance : LT Address := ⟨fun a b => a.val < b.val⟩

instance (a b : Address) : Decidable (a < b) := inferInstanceAs (Decidable (a.val < b.val))

/-- Whether the address is all zero bytes. -/
def isZero (a : Address) : Bool := a.val == 0

/-- The address of a number, wrapping modulo `2^160`. -/
def ofNat (n : Nat) : Address := ⟨n % Nat.pow 2 160, Nat.mod_lt _ (Nat.two_pow_pos 160)⟩

/-- The forty lowercase hexadecimal digits. -/
def digits (a : Address) : List Char := Digits.hexPadded 40 a.val

/-- `0x` and forty lowercase hexadecimal digits. -/
def toHex (a : Address) : String := String.ofList ('0' :: 'x' :: a.digits)

/-- The half-bytes of a digest, high half first. -/
def nibbles (bs : List UInt8) : List Nat := bs.flatMap fun b => [b.toNat / 16, b.toNat % 16]

/-- The mixed-case spelling: a letter digit is uppercase when the matching half-byte of the
digest of the lowercase digits is eight or more. -/
def checksummed (a : Address) : String :=
  let ds := a.digits
  let hash := nibbles (Keccak.digest (ds.map fun c => c.toNat.toUInt8))
  let mixed := (ds.zip hash).map fun (c, h) => if h ≥ 8 then c.toUpper else c
  String.ofList ('0' :: 'x' :: mixed)

/-- Reads forty hexadecimal digits, in any case, after an optional `0x` or `0X`. -/
def ofHex? (s : String) : Option Address :=
  let ds := match s.toList with
    | '0' :: 'x' :: rest => rest
    | '0' :: 'X' :: rest => rest
    | cs => cs
  if ds.length = 40 ∧ ds.all (fun c => c.isDigit ∨ ('a' ≤ c ∧ c ≤ 'f') ∨ ('A' ≤ c ∧ c ≤ 'F')) then
    match Digits.read? 16 ds with
    | some n => if h : n < Nat.pow 2 160 then some ⟨n, h⟩ else none
    | none => none
  else none

end Address

end PeerLending
