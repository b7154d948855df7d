import PeerLending.Address
import PeerLending.Text.Quoted

/-!
# Reading an address with a reason for refusing it

`Address.parse` reads the text of an address strictly, checking three things in this order:

1. the text has an even number of bytes (the `0x` mark included);
2. after an optional `0x` or `0X`, exactly forty bytes are left;
3. each of those is a hexadecimal digit; the first that is not is reported with its byte offset.

The reported character is the *byte* at that offset read as a code point below 256: for a
character of several bytes, its first byte. It is written as a character literal in single
quotes, escaped as `Text.charLiteral` says.

It accepts the same texts as `Address.ofHex?`; a refusal here also says why.
-/

set_option autoImplicit false

namespace PeerLending

/-- A code point below 256 as a character literal in single quotes (`Text.charLiteral`). -/
def byteLiteral (b : Nat) : String := Text.charLiteral (Char.ofNat b)

/-- The first byte of a character in UTF-8. -/
def firstByte (c : Char) : Nat :=
  let n := c.toNat
  if n < 0x80 then n
  else if n < 0x800 then 0xC0 + n / 0x40
  else if n < 0x10000 then 0xE0 + n / 0x1000
  else 0xF0 + n / 0x40000

/-- Why a text is not an address. -/
inductive AddressError where
  | oddLength
  | invalidLength
  /-- A byte that is not a hexadecimal digit, and its offset after the mark. -/
  | invalidCharacter (byte : Nat) (index : Nat)
deriving DecidableEq

/-- The words of an address error. -/
def AddressError.message : AddressError → String
  | .oddLength => "odd number of digits"
  | .invalidLength => "invalid string length"
  | .invalidCharacter b index =>
    "invalid character " ++ byteLiteral b ++ " at position " ++ toString index

/-- Whether a character is a hexadecimal digit, in either case. -/
def isHexDigit (c : Char) : Bool :=
  c.isDigit || ('a' ≤ c && c ≤ 'f') || ('A' ≤ c && c ≤ 'F')

/-- The first character that is not a hexadecimal digit: its first byte and its byte offset. -/
def firstNonHex : List Char → Nat → Option (Nat × Nat)
  | [], _ => none
  | c :: rest, offset =>
    if isHexDigit c then firstNonHex rest (offset + c.utf8Size)
    else some (firstByte c, offset)

/-- Reads an address: an even number of bytes, then an optional `0x` or `0X`, then exactly
forty hexadecimal digits. -/
def Address.parse (s : String) : Except AddressError Address :=
  if s.utf8ByteSize % 2 ≠ 0 then .error .oddLength
  else
    let digits := match s.toList with
      | '0' :: 'x' :: rest => rest
      | '0' :: 'X' :: rest => rest
      | cs => cs
    if (String.ofList digits).utf8ByteSize ≠ 40 then .error .invalidLength
    else match firstNonHex digits 0 with
      | some (b, index) => .error (.invalidCharacter b index)
      | none =>
        match Address.ofHex? (String.ofList digits) with
        | some a => .ok a
        | none => .error .invalidLength

end PeerLending
