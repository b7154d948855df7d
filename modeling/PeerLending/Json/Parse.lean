import PeerLending.Json
import PeerLending.Json.Number

/-!
# Reading JSON text

`Json.parse` reads one JSON value from text, with blanks (space, tab, line feed, carriage
return) around it, and refuses anything after it. The reader follows the JSON grammar
strictly: `true`, `false` and `null` in lowercase, numbers without a leading `+` or leading
zeros, strings without raw control characters and with the escapes `\" \\ \/ \b \f \n \r \t`
and `\uXXXX` (a surrogate pair joined into one character), and no trailing commas. A number whose
value is too large for a double (`Double.ofLiteral`) is refused, where that became known.

A failure names what went wrong and where: the line (from one) and the column (the number of
bytes read on that line), as `… at line L column C`. A failure on a character is placed after its
first byte, and a failure in the four digits of a `\u` escape after all four bytes. Containers
nest at most 128 deep.

The reader walks a list of characters; every step consumes at least one character, so a
budget of one step per character (plus one) is always enough, and `parse` supplies it.
-/

set_option autoImplicit false

namespace PeerLending

namespace Json

/-- What a reader failed on. -/
inductive SyntaxError where
  | eofWhileParsingValue
  | eofWhileParsingList
  | eofWhileParsingObject
  | eofWhileParsingString
  | expectedColon
  | expectedListCommaOrEnd
  | expectedObjectCommaOrEnd
  | expectedSomeIdent
  | expectedSomeValue
  | invalidEscape
  | invalidNumber
  | invalidUnicodeCodePoint
  | controlCharacterWhileParsingString
  | keyMustBeAString
  | loneLeadingSurrogateInHexEscape
  | trailingComma
  | trailingCharacters
  | unexpectedEndOfHexEscape
  | recursionLimitExceeded
  | numberOutOfRange
deriving DecidableEq, Repr

/-- The words that describe a reading failure. -/
def SyntaxError.describe : SyntaxError → String
  | .eofWhileParsingValue => "EOF while parsing a value"
  | .eofWhileParsingList => "EOF while parsing a list"
  | .eofWhileParsingObject => "EOF while parsing an object"
  | .eofWhileParsingString => "EOF while parsing a string"
  | .expectedColon => "expected `:`"
  | .expectedListCommaOrEnd => "expected `,` or `]`"
  | .expectedObjectCommaOrEnd => "expected `,` or `\x7d`"
  | .expectedSomeIdent => "expected ident"
  | .expectedSomeValue => "expected value"
  | .invalidEscape => "invalid escape"
  | .invalidNumber => "invalid number"
  | .invalidUnicodeCodePoint => "invalid unicode code point"
  | .controlCharacterWhileParsingString =>
    "control character (\\u0000-\\u001F) found while parsing a string"
  | .keyMustBeAString => "key must be a string"
  | .loneLeadingSurrogateInHexEscape => "lone leading surrogate in hex escape"
  | .trailingComma => "trailing comma"
  | .trailingCharacters => "trailing characters"
  | .unexpectedEndOfHexEscape => "unexpected end of hex escape"
  | .recursionLimitExceeded => "recursion limit exceeded"
  | .numberOutOfRange => "number out of range"

/-- A place in the text: the line, counted from one, and the bytes read on it. -/
structure Position where
  line : Nat
  column : Nat
deriving DecidableEq, Repr

/-- A reading failure and where it was noticed. -/
structure ParseFailure where
  error : SyntaxError
  position : Position
deriving DecidableEq, Repr

/-- The message of a reading failure: what, then `at line L column C`. -/
def ParseFailure.message (f : ParseFailure) : String :=
  f.error.describe ++ " at line " ++ String.ofList (Digits.decimal f.position.line) ++
    " column " ++ String.ofList (Digits.decimal f.position.column)

/-- The unread text and the place where it starts. -/
structure Cursor where
  rest : List Char
  line : Nat
  column : Nat

namespace Cursor

/-- The place after everything read so far. -/
def here (c : Cursor) : Position := ⟨c.line, c.column⟩

/-- The place after the first byte of the next character, which is where a failure on that
character is reported. -/
def next (c : Cursor) : Position :=
  match c.rest with
  | '\n' :: _ => ⟨c.line + 1, 0⟩
  | _ :: _ => ⟨c.line, c.column + 1⟩
  | [] => ⟨c.line, c.column⟩

/-- The place after the next `k` bytes, or after the text when it has fewer; a character that
the `k` bytes end inside counts the bytes of it that they take. -/
def afterBytes (c : Cursor) (k : Nat) : Position :=
  go c.rest k c.line c.column
where
  /-- Walks the characters while bytes are left to take. -/
  go : List Char → Nat → Nat → Nat → Position
    | [], _, line, column => ⟨line, column⟩
    | _, 0, line, column => ⟨line, column⟩
    | ch :: rest, k + 1, line, column =>
      if ch = '\n' then go rest k (line + 1) 0
      else if ch.utf8Size ≤ k + 1 then go rest (k + 1 - ch.utf8Size) line (column + ch.utf8Size)
      else ⟨line, column + (k + 1)⟩

/-- The number of bytes left. -/
def bytesLeft (c : Cursor) : Nat := c.rest.foldr (fun ch n => ch.utf8Size + n) 0

/-- The cursor after one character. -/
def advance (c : Cursor) : Cursor :=
  match c.rest with
  | '\n' :: rest => ⟨rest, c.line + 1, 0⟩
  | ch :: rest => ⟨rest, c.line, c.column + ch.utf8Size⟩
  | [] => c

/-- The cursor after the blanks at its start. -/
def skipBlanks (c : Cursor) : Cursor :=
  let blanks := c.rest.takeWhile fun ch => ch = ' ' ∨ ch = '\t' ∨ ch = '\n' ∨ ch = '\r'
  blanks.foldl (fun cur _ => cur.advance) c

/-- The next character, if any. -/
def peek (c : Cursor) : Option Char := c.rest.head?

end Cursor

/-- A reading step: the value read and the cursor after it, or a failure. -/
abbrev Step (α : Type) := Except ParseFailure (α × Cursor)

/-- Fails at the place after the next character. -/
def failNext {α : Type} (c : Cursor) (e : SyntaxError) : Step α := .error ⟨e, c.next⟩

/-- Fails at the place after everything read. -/
def failHere {α : Type} (c : Cursor) (e : SyntaxError) : Step α := .error ⟨e, c.here⟩

/-- Reads the letters of a keyword after its first letter. -/
def expectWord (c : Cursor) : List Char → Step Unit
  | [] => .ok ((), c)
  | w :: ws =>
    match c.peek with
    | none => failHere c .eofWhileParsingValue
    | some ch => if ch = w then expectWord c.advance ws else failNext c .expectedSomeIdent

/-- Reads a run of decimal digits, with their value and count. -/
def readDigits (c : Cursor) : Nat × Nat × Cursor :=
  let ds := c.rest.takeWhile Char.isDigit
  let value := ds.foldl (fun n d => n * 10 + (d.toNat - '0'.toNat)) 0
  (value, ds.length, ds.foldl (fun cur _ => cur.advance) c)

/-- Reads a number whose sign, if any, is already read. A number with a fraction or an
exponent keeps its text. -/
def readNumber (c : Cursor) (negative : Bool) : Step JsonNumber :=
  let start := c.rest
  match c.peek with
  | some '0' =>
    let c1 := c.advance
    match c1.peek with
    | some d => if d.isDigit then failNext c1 .invalidNumber else readTail c1 start 0
    | none => readTail c1 start 0
  | some d =>
    if d.isDigit then
      let (value, _, c1) := readDigits c
      readTail c1 start value
    else failNext c .invalidNumber
  | none => failHere c .eofWhileParsingValue
where
  /-- Reads an optional fraction and exponent after the whole part. -/
  readTail (c1 : Cursor) (start : List Char) (whole : Nat) : Step JsonNumber :=
    let afterFraction : Except ParseFailure (Bool × Cursor) :=
      match c1.peek with
      | some '.' =>
        let c2 := c1.advance
        let (_, count, c3) := readDigits c2
        if count = 0 then
          match c2.peek with
          | some _ => .error ⟨.invalidNumber, c2.next⟩
          | none => .error ⟨.eofWhileParsingValue, c2.here⟩
        else .ok (true, c3)
      | _ => .ok (false, c1)
    match afterFraction with
    | .error e => .error e
    | .ok (hasFraction, c3) =>
      let afterExponent : Except ParseFailure (Bool × Cursor) :=
        match c3.peek with
        | some 'e' | some 'E' =>
          let c4 := c3.advance
          let c5 := match c4.peek with
            | some '+' | some '-' => c4.advance
            | _ => c4
          let (_, count, c6) := readDigits c5
          if count = 0 then
            match c5.peek with
            | some _ => .error ⟨.invalidNumber, c5.next⟩
            | none => .error ⟨.eofWhileParsingValue, c5.here⟩
          else .ok (true, c6)
        | _ => .ok (false, c3)
      match afterExponent with
      | .error e => .error e
      | .ok (hasExponent, c6) =>
        let used := start.length - c6.rest.length
        let chars := (if negative then ['-'] else []) ++ start.take used
        let tooLarge : Option Nat :=
          if hasFraction || hasExponent || Nat.pow 2 64 ≤ whole then
            match Double.ofLiteral chars with
            | .error read => some read
            | .ok _ => none
          else none
        if let some read := tooLarge then
          .error ⟨.numberOutOfRange, ⟨c6.line, c6.column - (chars.length - read)⟩⟩
        else if hasFraction || hasExponent then .ok (.float (String.ofList chars), c6)
        else if negative then .ok (.negInt whole, c6)
        else .ok (.nat whole, c6)

/-- The value of a hexadecimal digit. -/
def hexValue? (ch : Char) : Option Nat :=
  if '0' ≤ ch ∧ ch ≤ '9' then some (ch.toNat - '0'.toNat)
  else if 'a' ≤ ch ∧ ch ≤ 'f' then some (ch.toNat - 'a'.toNat + 10)
  else if 'A' ≤ ch ∧ ch ≤ 'F' then some (ch.toNat - 'A'.toNat + 10)
  else none

/-- Reads the four bytes of a `\u` escape as hexadecimal digits. With fewer than four bytes
left the string ends too early; otherwise four bytes that are not all digits fail after the
fourth. -/
def readHex4 (c : Cursor) : Step Nat :=
  if c.bytesLeft < 4 then .error ⟨.eofWhileParsingString, c.afterBytes c.bytesLeft⟩
  else
    match c.rest with
    | a :: b :: d :: e :: rest =>
      match hexValue? a, hexValue? b, hexValue? d, hexValue? e with
      | some va, some vb, some vd, some ve =>
        .ok (((va * 16 + vb) * 16 + vd) * 16 + ve, ⟨rest, c.line, c.column + 4⟩)
      | _, _, _, _ => .error ⟨.invalidEscape, c.afterBytes 4⟩
    | _ => .error ⟨.invalidEscape, c.afterBytes 4⟩

/-- Reads the rest of a string after its opening quote, collecting its characters in reverse.
The budget bounds the number of characters read. -/
def readString : Nat → Cursor → List Char → Step String
  | 0, c, _ => failHere c .eofWhileParsingString
  | fuel + 1, c, acc =>
    match c.peek with
    | none => failHere c .eofWhileParsingString
    | some '"' => .ok (String.ofList acc.reverse, c.advance)
    | some '\\' =>
      let c1 := c.advance
      match c1.peek with
      | none => failHere c1 .eofWhileParsingString
      | some e =>
        let simple : Option Char :=
          if e = '"' then some '"' else if e = '\\' then some '\\'
          else if e = '/' then some '/' else if e = 'b' then some (Char.ofNat 8)
          else if e = 'f' then some (Char.ofNat 12) else if e = 'n' then some '\n'
          else if e = 'r' then some '\r' else if e = 't' then some '\t' else none
        match simple with
        | some ch => readString fuel c1.advance (ch :: acc)
        | none =>
          if e = 'u' then
            match readHex4 c1.advance with
            | .error f => .error f
            | .ok (u, c2) =>
              if 0xDC00 ≤ u ∧ u ≤ 0xDFFF then failHere c2 .loneLeadingSurrogateInHexEscape
              else if 0xD800 ≤ u ∧ u ≤ 0xDBFF then
                match c2.rest with
                | '\\' :: _ =>
                  let c3 := c2.advance
                  match c3.rest with
                  | 'u' :: _ =>
                    match readHex4 c3.advance with
                    | .error f => .error f
                    | .ok (low, c4) =>
                      if 0xDC00 ≤ low ∧ low ≤ 0xDFFF then
                        let code := 0x10000 + (u - 0xD800) * 0x400 + (low - 0xDC00)
                        readString fuel c4 (Char.ofNat code :: acc)
                      else failHere c4 .loneLeadingSurrogateInHexEscape
                  | [] => failHere c3 .eofWhileParsingString
                  | _ => failNext c3 .unexpectedEndOfHexEscape
                | [] => failHere c2 .eofWhileParsingString
                | _ => failNext c2 .unexpectedEndOfHexEscape
              else readString fuel c2 (Char.ofNat u :: acc)
          else failNext c1 .invalidEscape
    | some ch =>
      if ch.toNat < 32 then failNext c .controlCharacterWhileParsingString
      else readString fuel c.advance (ch :: acc)

/-- The nesting limit: a container that would be the `depthLimit`-th one open is refused, so at
most 127 containers nest. -/
def depthLimit : Nat := 128

mutual

/-- Reads one value after blanks. The budget bounds the steps taken; `depth` counts the open
containers. -/
def readValue : Nat → Nat → Cursor → Step Json
  | 0, _, c => failHere c .eofWhileParsingValue
  | fuel + 1, depth, c0 =>
    let c := c0.skipBlanks
    match c.peek with
    | none => failNext c .eofWhileParsingValue
    | some 'n' => (expectWord c.advance ['u', 'l', 'l']).map fun (_, c1) => (.null, c1)
    | some 't' => (expectWord c.advance ['r', 'u', 'e']).map fun (_, c1) => (.bool true, c1)
    | some 'f' =>
      (expectWord c.advance ['a', 'l', 's', 'e']).map fun (_, c1) => (.bool false, c1)
    | some '-' => (readNumber c.advance true).map fun (n, c1) => (.number n, c1)
    | some '"' => (readString (c.rest.length + 1) c.advance []).map fun (s, c1) => (.string s, c1)
    | some '[' =>
      if depthLimit ≤ depth + 1 then failNext c .recursionLimitExceeded
      else readItems fuel (depth + 1) c.advance true []
    | some '{' =>
      if depthLimit ≤ depth + 1 then failNext c .recursionLimitExceeded
      else readMembers fuel (depth + 1) c.advance true []
    | some ch =>
      if ch.isDigit then (readNumber c false).map fun (n, c1) => (.number n, c1)
      else failNext c .expectedSomeValue

/-- Reads the items of an array after `[` or after an item, collecting them in reverse. -/
def readItems : Nat → Nat → Cursor → Bool → List Json → Step Json
  | 0, _, c, _, _ => failHere c .eofWhileParsingList
  | fuel + 1, depth, c0, first, acc =>
    let c := c0.skipBlanks
    match c.peek with
    | none => failNext c .eofWhileParsingList
    | some ']' => .ok (.array acc.reverse, c.advance)
    | some ',' =>
      if first then failNext c .expectedSomeValue
      else
        let c1 := c.advance.skipBlanks
        match c1.peek with
        | some ']' => failNext c1 .trailingComma
        | none => failNext c1 .eofWhileParsingValue
        | some _ =>
          match readValue fuel depth c1 with
          | .error f => .error f
          | .ok (v, c2) => readItems fuel depth c2 false (v :: acc)
    | some _ =>
      if first then
        match readValue fuel depth c with
        | .error f => .error f
        | .ok (v, c2) => readItems fuel depth c2 false (v :: acc)
      else failNext c .expectedListCommaOrEnd

/-- Reads the members of an object after `{` or after a member, collecting them in reverse. -/
def readMembers : Nat → Nat → Cursor → Bool → List (String × Json) → Step Json
  | 0, _, c, _, _ => failHere c .eofWhileParsingObject
  | fuel + 1, depth, c0, first, acc =>
    let c := c0.skipBlanks
    match c.peek with
    | none => failNext c .eofWhileParsingObject
    | some '}' => .ok (.object acc.reverse, c.advance)
    | some ',' =>
      if first then failNext c .keyMustBeAString
      else
        let c1 := c.advance.skipBlanks
        match c1.peek with
        | some '}' => failNext c1 .trailingComma
        | none => failNext c1 .eofWhileParsingValue
        | some '"' => readMember fuel depth c1 acc
        | some _ => failNext c1 .keyMustBeAString
    | some '"' => if first then readMember fuel depth c acc else failNext c .expectedObjectCommaOrEnd
    | some _ => if first then failNext c .keyMustBeAString else failNext c .expectedObjectCommaOrEnd

/-- Reads one member whose key starts at the cursor, then the members after it. -/
def readMember : Nat → Nat → Cursor → List (String × Json) → Step Json
  | 0, _, c, _ => failHere c .eofWhileParsingObject
  | fuel + 1, depth, c, acc =>
    match readString (c.rest.length + 1) c.advance [] with
    | .error f => .error f
    | .ok (key, c1) =>
      let c2 := c1.skipBlanks
      match c2.peek with
      | some ':' =>
        match readValue fuel depth c2.advance with
        | .error f => .error f
        | .ok (v, c3) => readMembers fuel depth c3 false ((key, v) :: acc)
      | some _ => failNext c2 .expectedColon
      | none => failNext c2 .eofWhileParsingObject

end

/-- Reads one JSON value from text, blanks allowed around it and nothing else after it. -/
def parse (s : String) : Except ParseFailure Json :=
  let c : Cursor := ⟨s.toList, 1, 0⟩
  match readValue (2 * s.length + 2) 0 c with
  | .error f => .error f
  | .ok (v, c1) =>
    let c2 := c1.skipBlanks
    match c2.peek with
    | none => .ok v
    | some _ => .error ⟨.trailingCharacters, c2.next⟩

end Json

end PeerLending
