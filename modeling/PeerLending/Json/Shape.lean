import PeerLending.Json.Parse
import PeerLending.Json.Decode
import PeerLending.Address.Hex

/-!
# Reading text against a shape

`Shape.readText` reads JSON text as a value of a known shape in one pass from the left, and a
failure says what went wrong and where (`… at line L column C`). The value it returns keeps only
what the shape names, so that the decoders of `PeerLending.Json.Decode` then read it without
failing.

What the reader checks, and where it places a failure:

* a scalar of the wrong kind is read to its end, and the failure is placed after it; an array or
  object of the wrong kind is refused where it opens;
* a word, a bounded number, a string or an address that does not read is refused after its text;
* a record is an object or an array. In an object, members are taken in the order written, an
  unknown name is skipped with its value, a field named twice is refused after the second name,
  and after the closing brace the first absent field without a default (in declaration order)
  is refused. In an array, items fill the fields in order; a missing item is refused (after the
  closing bracket) unless its field has a default, and an item beyond the fields is trailing text;
* an address may be an array of twenty bytes; a twenty-first item that reads as a byte is
  refused, and one that does not is let pass;
* the keys of an address map must read as addresses; a key given twice keeps its last value;
* a value that is skipped is only checked for its grammar, with a few differences from the full
  reader: a comma before a closing bracket or brace, or a raw control character in a string, is
  refused as something else or at another place, lone surrogate escapes pass, and nesting has no
  limit.

A failure inside a value is placed where it was found. A failure that a whole array or object
decides (a length, an absent or repeated field, an address key) is placed after the blanks that
follow, and after a closing bracket or brace there.
-/

set_option autoImplicit false

namespace PeerLending

namespace Json

/-- What a reader expects at a place in the text. -/
inductive Shape where
  /-- A 256-bit word: a numeral in a string, or a whole number below `2^64`. -/
  | word
  /-- A whole number below a bound, named in messages. -/
  | natBelow (bound : Nat) (name : String)
  /-- `true` or `false`. -/
  | boolean
  /-- A string. -/
  | text
  /-- An address: its hexadecimal digits in a string, or twenty bytes in an array. -/
  | address
  /-- `null`, or a value of the inner shape. -/
  | nullable (inner : Shape)
  /-- A record: its name, and its fields in order, each with whether it has a default. -/
  | record (name : String) (fields : List (String × Bool × Shape))
  /-- An object keyed by address. -/
  | addrMap (value : Shape)

/-- Whether `null` is a value of the shape, so that a record may leave the field out. -/
def Shape.isNullable : Shape → Bool
  | .nullable _ => true
  | _ => false

/-- A reading failure: its words and where it was noticed. -/
structure ReadFailure where
  message : String
  position : Position

/-- The words of a failure and its place, as `… at line L column C`. -/
def ReadFailure.render (f : ReadFailure) : String :=
  f.message ++ " at line " ++ String.ofList (Digits.decimal f.position.line) ++ " column " ++
    String.ofList (Digits.decimal f.position.column)

/-- A reading step against a shape. -/
abbrev Reading (α : Type) := Except ReadFailure (α × Cursor)

/-- Fails on a grammar error at a place. -/
def syntaxAt {α : Type} (e : SyntaxError) (p : Position) : Except ReadFailure α :=
  .error ⟨e.describe, p⟩

/-- Fails on a decoding error at a place. -/
def refuseAt {α : Type} (e : DecodeError) (p : Position) : Except ReadFailure α :=
  .error ⟨e.describe, p⟩

/-- A step of the grammar reader as a reading step. -/
def lift {α : Type} (r : Step α) : Reading α :=
  match r with
  | .ok v => .ok v
  | .error f => syntaxAt f.error f.position

namespace Cursor

/-- Where a failure that an array decides is placed: after the blanks that follow, and after a
closing bracket, or after a comma and its blanks. -/
def closingList (c : Cursor) : Position :=
  let c1 := c.skipBlanks
  match c1.peek with
  | some ']' => c1.advance.here
  | some ',' => c1.advance.skipBlanks.here
  | _ => c1.here

/-- Where a failure that an object decides is placed: after the blanks that follow, and after a
closing brace. -/
def closingObject (c : Cursor) : Position :=
  let c1 := c.skipBlanks
  match c1.peek with
  | some '}' => c1.advance.here
  | _ => c1.here

end Cursor

/-- Ends an array whose items are all read: a closing bracket, after blanks. -/
def closeList (c : Cursor) : Except ReadFailure Cursor :=
  let c1 := c.skipBlanks
  match c1.peek with
  | some ']' => .ok c1.advance
  | some ',' =>
    let c2 := c1.advance.skipBlanks
    match c2.peek with
    | some ']' => syntaxAt .trailingComma c2.next
    | _ => syntaxAt .trailingCharacters c2.next
  | some _ => syntaxAt .trailingCharacters c1.next
  | none => syntaxAt .eofWhileParsingList c1.next

/-- Whether another item follows in an array (`first` before the first item); the cursor is then
at it, or at the closing bracket. -/
def nextItem (c0 : Cursor) (first : Bool) : Except ReadFailure (Bool × Cursor) :=
  let c := c0.skipBlanks
  match c.peek with
  | none => syntaxAt .eofWhileParsingList c.next
  | some ']' => .ok (false, c)
  | some ',' =>
    if first then .ok (true, c)
    else
      let c1 := c.advance.skipBlanks
      match c1.peek with
      | some ']' => syntaxAt .trailingComma c1.next
      | some _ => .ok (true, c1)
      | none => syntaxAt .eofWhileParsingValue c1.next
  | some _ => if first then .ok (true, c) else syntaxAt .expectedListCommaOrEnd c.next

/-- Reads a key at the cursor. -/
def keyAt (c : Cursor) : Except ReadFailure (Option String × Cursor) :=
  match c.peek with
  | some '"' =>
    match readString (c.rest.length + 1) c.advance [] with
    | .ok (key, c1) => .ok (some key, c1)
    | .error f => syntaxAt f.error f.position
  | some '}' => syntaxAt .trailingComma c.next
  | some _ => syntaxAt .keyMustBeAString c.next
  | none => syntaxAt .eofWhileParsingValue c.next

/-- The next key of an object (`first` before the first member), or none at the closing brace;
the cursor is then after the key, or at the brace. -/
def nextKey (c0 : Cursor) (first : Bool) : Except ReadFailure (Option String × Cursor) :=
  let c := c0.skipBlanks
  match c.peek with
  | some '}' => .ok (none, c)
  | none => syntaxAt .eofWhileParsingObject c.next
  | some ch =>
    if ch = ',' ∧ !first then keyAt c.advance.skipBlanks
    else if first then keyAt c
    else syntaxAt .expectedObjectCommaOrEnd c.next

/-- Reads the colon after a key. -/
def colon (c0 : Cursor) : Except ReadFailure Cursor :=
  let c := c0.skipBlanks
  match c.peek with
  | some ':' => .ok c.advance
  | some _ => syntaxAt .expectedColon c.next
  | none => syntaxAt .eofWhileParsingObject c.next

/-! ## Skipping a value -/

/-- Skips the rest of a string after its quote, checking its escapes. -/
def skipString : Nat → Cursor → Except ReadFailure Cursor
  | 0, c => syntaxAt .eofWhileParsingString c.here
  | fuel + 1, c =>
    match c.peek with
    | none => syntaxAt .eofWhileParsingString c.here
    | some '"' => .ok c.advance
    | some '\\' =>
      let c1 := c.advance
      match c1.peek with
      | none => syntaxAt .eofWhileParsingString c1.here
      | some e =>
        if e = 'u' then
          match readHex4 c1.advance with
          | .ok (_, c2) => skipString fuel c2
          | .error f => syntaxAt f.error f.position
        else if e ∈ ['"', '\\', '/', 'b', 'f', 'n', 'r', 't'] then skipString fuel c1.advance
        else syntaxAt .invalidEscape c1.next
    | some ch =>
      if ch.toNat < 32 then syntaxAt .controlCharacterWhileParsingString c.here
      else skipString fuel c.advance

/-- Skips the exponent of a number after its `e`. -/
def skipExponent (c : Cursor) : Except ReadFailure Cursor :=
  let c1 := match c.peek with
    | some '+' | some '-' => c.advance
    | _ => c
  match c1.peek with
  | some d => if d.isDigit then .ok (readDigits c1).2.2 else syntaxAt .invalidNumber c1.next
  | none => syntaxAt .invalidNumber c1.here

/-- Skips the fraction of a number after its point, and an exponent after it. -/
def skipFraction (c : Cursor) : Except ReadFailure Cursor :=
  let (_, count, c1) := readDigits c
  if count = 0 then syntaxAt .invalidNumber c.next
  else
    match c1.peek with
    | some 'e' | some 'E' => skipExponent c1.advance
    | _ => .ok c1

/-- Skips a number whose sign, if any, is already read. -/
def skipNumber (c : Cursor) : Except ReadFailure Cursor :=
  let whole : Except ReadFailure Cursor :=
    match c.peek with
    | some '0' =>
      let c1 := c.advance
      match c1.peek with
      | some d => if d.isDigit then syntaxAt .invalidNumber c1.next else .ok c1
      | none => .ok c1
    | some d => if d.isDigit then .ok (readDigits c).2.2 else syntaxAt .invalidNumber c.next
    | none => syntaxAt .invalidNumber c.here
  match whole with
  | .error e => .error e
  | .ok c1 =>
    match c1.peek with
    | some '.' => skipFraction c1.advance
    | some 'e' | some 'E' => skipExponent c1.advance
    | _ => .ok c1

/-- Skips a keyword after its first letter. -/
def skipWord (c : Cursor) (rest : List Char) : Except ReadFailure Cursor :=
  match expectWord c rest with
  | .ok (_, c1) => .ok c1
  | .error f => syntaxAt f.error f.position

mutual

/-- Skips one value after blanks, checking only its grammar. -/
def skipValue : Nat → Cursor → Except ReadFailure Cursor
  | 0, c => syntaxAt .eofWhileParsingValue c.here
  | fuel + 1, c0 =>
    let c := c0.skipBlanks
    match c.peek with
    | none => syntaxAt .eofWhileParsingValue c.next
    | some 'n' => skipWord c.advance ['u', 'l', 'l']
    | some 't' => skipWord c.advance ['r', 'u', 'e']
    | some 'f' => skipWord c.advance ['a', 'l', 's', 'e']
    | some '-' => skipNumber c.advance
    | some '"' => skipString (c.rest.length + 1) c.advance
    | some '[' => skipItems fuel c.advance true
    | some '{' => skipMembers fuel c.advance true
    | some ch => if ch.isDigit then skipNumber c else syntaxAt .expectedSomeValue c.next

/-- Skips the items of an array after its bracket or an item. -/
def skipItems : Nat → Cursor → Bool → Except ReadFailure Cursor
  | 0, c, _ => syntaxAt .eofWhileParsingList c.here
  | fuel + 1, c0, first =>
    let c := c0.skipBlanks
    match c.peek with
    | none => syntaxAt .eofWhileParsingList c.next
    | some ']' => .ok c.advance
    | some ch =>
      let start : Except ReadFailure Cursor :=
        if first then .ok c
        else if ch = ',' then .ok c.advance
        else syntaxAt .expectedListCommaOrEnd c.next
      match start with
      | .error e => .error e
      | .ok c1 =>
        match skipValue fuel c1 with
        | .error e => .error e
        | .ok c2 => skipItems fuel c2 false

/-- Skips the members of an object after its brace or a member. -/
def skipMembers : Nat → Cursor → Bool → Except ReadFailure Cursor
  | 0, c, _ => syntaxAt .eofWhileParsingObject c.here
  | fuel + 1, c0, first =>
    let c := c0.skipBlanks
    match c.peek with
    | none => syntaxAt .eofWhileParsingObject c.next
    | some '}' => .ok c.advance
    | some ch =>
      let start : Except ReadFailure Cursor :=
        if first then .ok c
        else if ch = ',' then .ok c.advance.skipBlanks
        else syntaxAt .expectedObjectCommaOrEnd c.next
      match start with
      | .error e => .error e
      | .ok c1 =>
        let afterKey : Except ReadFailure Cursor :=
          match c1.peek with
          | some '"' => skipString (c1.rest.length + 1) c1.advance
          | some _ => syntaxAt .keyMustBeAString c1.next
          | none => syntaxAt .eofWhileParsingObject c1.next
        match afterKey with
        | .error e => .error e
        | .ok c2 =>
          match colon c2 with
          | .error e => .error e
          | .ok c3 =>
            match skipValue fuel c3 with
            | .error e => .error e
            | .ok c4 => skipMembers fuel c4 false

end

/-! ## Reading scalars -/

/-- Whether a character can start a scalar. -/
def startsScalar (ch : Char) : Bool :=
  ch = 'n' || ch = 't' || ch = 'f' || ch = '-' || ch = '"' || ch.isDigit

/-- Reads a scalar at the cursor. -/
def scalarAt (c : Cursor) : Reading Json :=
  match c.peek with
  | none => syntaxAt .eofWhileParsingValue c.next
  | some ch =>
    if startsScalar ch then lift (readValue (c.rest.length + 2) 0 c)
    else syntaxAt .expectedSomeValue c.next

/-- Refuses the value at the cursor as not of the `expected` kind: a scalar is read first and
refused after its text, an array or object where it opens. -/
def refuseKind {α : Type} (c : Cursor) (expected : String) : Except ReadFailure α :=
  match c.peek with
  | some '[' => refuseAt (.invalidType "sequence" expected) c.here
  | some '{' => refuseAt (.invalidType "map" expected) c.here
  | _ =>
    match scalarAt c with
    | .error e => .error e
    | .ok (v, c1) => refuseAt (.invalidType (unexpected v) expected) c1.here

/-- Reads a scalar and decodes it, refusing it after its text. -/
def decodedAt {α : Type} (c : Cursor) (dec : Json → Decoded α) : Reading Json :=
  match scalarAt c with
  | .error e => .error e
  | .ok (v, c1) =>
    match dec v with
    | .ok _ => .ok (v, c1)
    | .error e => refuseAt e c1.here

/-- Reads a word; an array or object is refused after it is closed or at its first item. -/
def readWord (c : Cursor) : Reading Json :=
  match c.peek with
  | some '[' => refuseAt (.invalidType "sequence" wordExpected) c.advance.closingList
  | some '{' => refuseAt (.invalidType "map" wordExpected) c.advance.closingObject
  | _ => decodedAt c asWord

/-- Reads a whole number below a bound. -/
def readBounded (bound : Nat) (name : String) (c : Cursor) : Reading Json :=
  match c.peek with
  | some ch => if ch = '-' ∨ ch.isDigit then decodedAt c (asNatBelow bound name) else refuseKind c name
  | none => syntaxAt .eofWhileParsingValue c.next

/-- Reads a value that must start with one of `starts`, refusing any other as not `expected`. -/
def readKind (starts : List Char) (expected : String) (c : Cursor) : Reading Json :=
  match c.peek with
  | some ch => if ch ∈ starts then scalarAt c else refuseKind c expected
  | none => syntaxAt .eofWhileParsingValue c.next

/-- Reads an address in a string, or refuses a value of another kind. -/
def readAddressText (c : Cursor) : Reading Json :=
  match c.peek with
  | some '{' => refuseAt (.invalidType "map" addressExpected) c.advance.closingObject
  | _ =>
    match scalarAt c with
    | .error e => .error e
    | .ok (.string s, c1) =>
      match Address.parse s with
      | .ok _ => .ok (.string s, c1)
      | .error e => .error ⟨e.message, c1.here⟩
    | .ok (v, c1) => refuseAt (.invalidType (unexpected v) addressExpected) c1.here

namespace Cursor

/-- The cursor moved on to the first place at or after `p`, or to the end of the text. -/
def seekTo (c : Cursor) (p : Position) : Cursor :=
  go c.rest.length c
where
  /-- One character at a time, at most `fuel` of them. -/
  go : Nat → Cursor → Cursor
    | 0, c => c
    | fuel + 1, c =>
      if p.line < c.line ∨ (p.line = c.line ∧ p.column ≤ c.column) then c else go fuel c.advance

/-- Where the grammar of a number whose sign is already read ends, or where it breaks: a digit
after a leading zero, and whatever follows a point in place of a digit, stay unread; any other
character that breaks the number is read with it. -/
def numberEnd (c : Cursor) : Cursor :=
  match c.peek with
  | none => c
  | some '0' =>
    let c1 := c.advance
    match c1.peek with
    | some d => if d.isDigit then c1 else fractionEnd c1
    | none => c1
  | some d => if d.isDigit then fractionEnd (readDigits c).2.2 else c.advance
where
  /-- After the whole part: an optional fraction, then an optional exponent. -/
  fractionEnd (c : Cursor) : Cursor :=
    match c.peek with
    | some '.' =>
      let (_, count, c2) := readDigits c.advance
      if count = 0 then c.advance else exponentEnd c2
    | _ => exponentEnd c
  /-- After the fraction: an optional exponent, whose first digit is read even when it is not
  one. -/
  exponentEnd (c : Cursor) : Cursor :=
    match c.peek with
    | some 'e' | some 'E' =>
      let c1 := c.advance
      let c2 := match c1.peek with
        | some '+' | some '-' => c1.advance
        | _ => c1
      match c2.peek with
      | none => c2
      | some d => if d.isDigit then (readDigits c2).2.2 else c2.advance
    | _ => c

/-- Where reading a number whose sign is already read stops: after it when it reads, at the
exponent digit that makes it too large, or where its grammar breaks. -/
def numberStop (c : Cursor) (negative : Bool) : Cursor :=
  match readNumber c negative with
  | .ok (_, c1) => c1
  | .error ⟨.numberOutOfRange, p⟩ => c.seekTo p
  | .error _ => numberEnd c

/-- Where a look at a value as a byte stops, whether it reads or not: a number as
`numberStop` says; a keyword after its letters, or after the first letter that differs; a
string after its closing quote or where it fails; an array, an object or anything else before
its first character. -/
def byteLookStop (c : Cursor) : Cursor :=
  let afterFailure {α : Type} (r : Step α) : Cursor :=
    match r with
    | .ok (_, c1) => c1
    | .error f => c.seekTo f.position
  match c.peek with
  | some '-' => numberStop c.advance true
  | some '"' => afterFailure (readString (c.rest.length + 1) c.advance [])
  | some 'n' => afterFailure (expectWord c.advance ['u', 'l', 'l'])
  | some 't' => afterFailure (expectWord c.advance ['r', 'u', 'e'])
  | some 'f' => afterFailure (expectWord c.advance ['a', 'l', 's', 'e'])
  | some d => if d.isDigit then numberStop c false else c
  | none => c

end Cursor

/-- Where a look for a twenty-first byte of an address leaves the cursor, and whether it found
one that reads as a byte. A failure of that look is let pass: the cursor stays where the look
stopped (`Cursor.byteLookStop`). -/
def probeExtraByte (c0 : Cursor) : Bool × Cursor :=
  let c := c0.skipBlanks
  match c.peek with
  | some ',' =>
    let c1 := c.advance.skipBlanks
    match c1.peek with
    | some ']' | none => (false, c1)
    | some _ =>
      match readBounded 256 "u8" c1 with
      | .ok (_, c2) => (true, c2)
      | .error _ => (false, c1.byteLookStop)
  | _ => (false, c)

/-- Reads the bytes of an address after its bracket, `left` more of them. -/
def readAddressBytes : Nat → Cursor → Bool → List Json → Reading Json
  | 0, c, _, acc =>
    match probeExtraByte c with
    | (true, c1) => refuseAt (.invalidLength 21 "exactly 20 bytes") c1.closingList
    | (false, c1) =>
      match closeList c1 with
      | .ok c2 => .ok (.array acc.reverse, c2)
      | .error e => .error e
  | left + 1, c, first, acc =>
    match nextItem c first with
    | .error e => .error e
    | .ok (false, c1) => refuseAt (.invalidLength acc.length "exactly 20 bytes") c1.closingList
    | .ok (true, c1) =>
      match readBounded 256 "u8" c1 with
      | .error e => .error e
      | .ok (v, c2) => readAddressBytes left c2 false (v :: acc)

/-! ## Reading a shape -/

/-- The failure for a record given as an array with too few items. -/
def tooFewItems (name : String) (count index : Nat) : DecodeError :=
  .invalidLength index ("struct " ++ name ++ " with " ++ String.ofList (Digits.decimal count) ++
    " elements")

mutual

/-- Reads a value of a shape after blanks. -/
def readShape : Nat → Shape → Cursor → Reading Json
  | 0, _, c => syntaxAt .eofWhileParsingValue c.here
  | fuel + 1, shape, c0 =>
    let c := c0.skipBlanks
    match c.peek, shape with
    | none, _ => syntaxAt .eofWhileParsingValue c.next
    | some 'n', .nullable _ => lift ((expectWord c.advance ['u', 'l', 'l']).map fun (_, c1) => (.null, c1))
    | some _, .nullable inner => readShape fuel inner c
    | some _, .word => readWord c
    | some _, .natBelow bound name => readBounded bound name c
    | some _, .boolean => readKind ['t', 'f'] "a boolean" c
    | some _, .text => readKind ['"'] "a string" c
    | some '[', .address => readAddressBytes 20 c.advance true []
    | some _, .address => readAddressText c
    | some '[', .record name fields => readFieldItems fuel name fields.length fields 0 c.advance true []
    | some '{', .record _ fields => readFieldMembers fuel fields c.advance true []
    | some _, .record name _ => refuseKind c ("struct " ++ name)
    | some '{', .addrMap value => readMapEntries fuel value c.advance true []
    | some _, .addrMap _ => refuseKind c "a map"

/-- Reads the fields of a record given as an array, from field number `index` on. -/
def readFieldItems : Nat → String → Nat → List (String × Bool × Shape) → Nat → Cursor → Bool →
    List Json → Reading Json
  | 0, _, _, _, _, c, _, _ => syntaxAt .eofWhileParsingList c.here
  | _ + 1, _, _, [], _, c, _, acc =>
    match closeList c with
    | .ok c1 => .ok (.array acc.reverse, c1)
    | .error e => .error e
  | fuel + 1, name, count, (_, hasDefault, shape) :: rest, index, c, first, acc =>
    match nextItem c first with
    | .error e => .error e
    | .ok (false, c1) =>
      if hasDefault then readFieldItems fuel name count rest (index + 1) c1 first acc
      else refuseAt (tooFewItems name count index) c1.closingList
    | .ok (true, c1) =>
      match readShape fuel shape c1 with
      | .error e => .error e
      | .ok (v, c2) => readFieldItems fuel name count rest (index + 1) c2 false (v :: acc)

/-- Reads the members of a record given as an object, after its brace or a member; `acc` holds
the fields read so far, last first. -/
def readFieldMembers : Nat → List (String × Bool × Shape) → Cursor → Bool → List (String × Json) →
    Reading Json
  | 0, _, c, _, _ => syntaxAt .eofWhileParsingObject c.here
  | fuel + 1, fields, c, first, acc =>
    match nextKey c first with
    | .error e => .error e
    | .ok (none, c1) =>
      let missing := fields.find? fun (f, hasDefault, shape) =>
        !hasDefault && !shape.isNullable && !acc.any (·.1 == f)
      match missing with
      | some (f, _, _) => refuseAt (.missingField f) c1.closingObject
      | none => .ok (.object acc.reverse, c1.advance)
    | .ok (some key, c1) =>
      match fields.find? (·.1 == key) with
      | some (_, _, shape) =>
        if acc.any (·.1 == key) then refuseAt (.duplicateField key) c1.closingObject
        else
          match colon c1 with
          | .error e => .error e
          | .ok c2 =>
            match readShape fuel shape c2 with
            | .error e => .error e
            | .ok (v, c3) => readFieldMembers fuel fields c3 false ((key, v) :: acc)
      | none =>
        match colon c1 with
        | .error e => .error e
        | .ok c2 =>
          match skipValue fuel c2 with
          | .error e => .error e
          | .ok c3 => readFieldMembers fuel fields c3 false acc

/-- Reads the entries of an address map after its brace or an entry, last first in `acc`. -/
def readMapEntries : Nat → Shape → Cursor → Bool → List (String × Json) → Reading Json
  | 0, _, c, _, _ => syntaxAt .eofWhileParsingObject c.here
  | fuel + 1, value, c, first, acc =>
    match nextKey c first with
    | .error e => .error e
    | .ok (none, c1) => .ok (.object acc.reverse, c1.advance)
    | .ok (some key, c1) =>
      match Address.parse key with
      | .error e => .error ⟨e.message, c1.closingObject⟩
      | .ok _ =>
        match colon c1 with
        | .error e => .error e
        | .ok c2 =>
          match readShape fuel value c2 with
          | .error e => .error e
          | .ok (v, c3) => readMapEntries fuel value c3 false ((key, v) :: acc)

end

/-- Reads a whole text as a value of a shape, with blanks around it and nothing else. -/
def Shape.readText (shape : Shape) (s : String) : Except ReadFailure Json :=
  let c : Cursor := ⟨s.toList, 1, 0⟩
  match readShape (4 * s.length + 64) shape c with
  | .error e => .error e
  | .ok (v, c1) =>
    let c2 := c1.skipBlanks
    match c2.peek with
    | none => .ok v
    | some _ => syntaxAt .trailingCharacters c2.next

end Json

end PeerLending
