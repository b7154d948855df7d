import PeerLending.Text.GraphemeExtend
import PeerLending.Text.Printable
import PeerLending.Word.Text

/-!
# Quoted text in messages

Messages show a text in double quotes and a single character in single quotes, escaped so that
what stands between the quotes can be read back character by character:

* NUL, tab, carriage return and line feed as `\0 \t \r \n`, the backslash as `\\`, and the quote
  mark in use behind a backslash (the other quote mark stands as it is);
* an extending character (`isGraphemeExtend`), which would merge with what stands before it, and
  a character that is not printable (`isPrintable`), as `\u{…}` with its code in lowercase
  hexadecimal and no leading zeros;
* every other character as it is.
-/

set_option autoImplicit false

namespace PeerLending

namespace Text

/-- The code of a character written as `\u{…}`. -/
def codeEscape (c : Char) : List Char := '\\' :: 'u' :: '\x7b' :: (Digits.hex c.toNat ++ ['\x7d'])

/-- A character as it is written between quotes of the mark `quote`. -/
def escapeIn (quote : Char) (c : Char) : List Char :=
  if c.toNat = 0 then ['\\', '0']
  else if c = '\t' then ['\\', 't']
  else if c = '\r' then ['\\', 'r']
  else if c = '\n' then ['\\', 'n']
  else if c = '\\' then ['\\', '\\']
  else if c = quote then ['\\', quote]
  else if isGraphemeExtend c || !isPrintable c then codeEscape c
  else [c]

/-- A text in double quotes, each character escaped. -/
def quoted (s : String) : String :=
  String.ofList ('"' :: (s.toList.flatMap (escapeIn '"') ++ ['"']))

/-- The single quote mark. -/
def singleQuote : Char := Char.ofNat 39

/-- A character in single quotes, escaped. -/
def charLiteral (c : Char) : String :=
  String.ofList (singleQuote :: (escapeIn singleQuote c ++ [singleQuote]))

end Text

end PeerLending
