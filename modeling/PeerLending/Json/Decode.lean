import PeerLending.Json
import PeerLending.Json.Number
import PeerLending.Word.Signed
import PeerLending.AddrMap
import PeerLending.Text.Quoted

/-!
# Reading typed values out of JSON

The accepted forms of each kind of value:

* a word: a string holding a numeral (`PeerLending.Word.ofNumeral?`: decimal, or `0x`, `0o`,
  `0b` prefixed, underscores skipped) or a whole JSON number below `2^64`;
* a signed word: a string holding a signed numeral (`PeerLending.SignedWord.ofNumeral?`);
* a fixed-width whole number (`u8`, `u64`, …): a whole JSON number below its bound;
* a boolean, a string: exactly that JSON kind;
* an optional value: `null` for none, else the value;
* a record: an object whose members are found by name (unknown names are skipped, a known name
  twice is refused), or an array holding the fields in their declared order.

A value that does not decode gives a `DecodeError` saying what was found and what was expected.
-/

set_option autoImplicit false

namespace PeerLending

/-- Why a JSON value does not decode. -/
inductive DecodeError where
  /-- A value of the wrong kind: what was found, and what was expected. -/
  | invalidType (found expected : String)
  /-- A value of the right kind that is out of range or malformed. -/
  | invalidValue (found expected : String)
  /-- A record lacks a field. -/
  | missingField (name : String)
  /-- A record names a field twice. -/
  | duplicateField (name : String)
  /-- A name that is not one of the allowed ones. -/
  | unknownVariant (name : String) (allowed : List String)
  /-- An array of the wrong length. -/
  | invalidLength (length : Nat) (expected : String)
deriving DecidableEq, Repr

namespace DecodeError

/-- A name in backquotes. -/
def ticked (s : String) : String := "`" ++ s ++ "`"

/-- The words that describe a decoding failure. -/
def describe : DecodeError → String
  | .invalidType found expected => "invalid type: " ++ found ++ ", expected " ++ expected
  | .invalidValue found expected => "invalid value: " ++ found ++ ", expected " ++ expected
  | .missingField name => "missing field " ++ ticked name
  | .duplicateField name => "duplicate field " ++ ticked name
  | .unknownVariant name allowed =>
    "unknown variant " ++ ticked name ++ ", expected " ++
      (match allowed with
       | [] => "nothing"
       | [a] => ticked a
       | [a, b] => ticked a ++ " or " ++ ticked b
       | _ => "one of " ++ ", ".intercalate (allowed.map ticked))
  | .invalidLength n expected =>
    "invalid length " ++ String.ofList (Digits.decimal n) ++ ", expected " ++ expected

end DecodeError

/-- A decoder's result. -/
abbrev Decoded (α : Type) := Except DecodeError α

namespace Json

/-- A string as messages quote it (`Text.quoted`). -/
def shownString (s : String) : String := Text.quoted s

/-- A double named by the literal it was read from: `inf` for one too large, which the reader
refuses before it gets here. -/
def shownDouble (cs : List Char) : String :=
  "floating point " ++ DecodeError.ticked (match Double.ofLiteral cs with
    | .ok d => d.shown
    | .error _ => if cs.head? = some '-' then "-inf" else "inf")

/-- How a whole number is named: an integer when it fits sixty-four bits (signed when negative),
a floating point number otherwise; `-0` is a floating point number too. -/
def shownWhole (negative : Bool) (n : Nat) : String :=
  if negative then
    if 0 < n ∧ n ≤ Nat.pow 2 63 then "integer " ++ DecodeError.ticked (String.ofList ('-' :: Digits.decimal n))
    else shownDouble ('-' :: Digits.decimal n)
  else if n < Nat.pow 2 64 then "integer " ++ DecodeError.ticked (String.ofList (Digits.decimal n))
  else shownDouble (Digits.decimal n)

/-- How a value is named when it is not what was expected. -/
def unexpected : Json → String
  | .null => "null"
  | .bool b => "boolean " ++ DecodeError.ticked (if b then "true" else "false")
  | .number (.nat n) => shownWhole false n
  | .number (.negInt n) => shownWhole true n
  | .number (.float t) => shownDouble t.toList
  | .string s => "string " ++ shownString s
  | .array _ => "sequence"
  | .object _ => "map"

/-- Refuses a value of the wrong kind. -/
def mismatch {α : Type} (v : Json) (expected : String) : Decoded α :=
  .error (.invalidType v.unexpected expected)

/-- A whole number below `bound`, named `name` in failures. -/
def asNatBelow (bound : Nat) (name : String) (v : Json) : Decoded Nat :=
  match v with
  | .number (.nat n) =>
    if n < bound then .ok n
    else if n < Nat.pow 2 64 then .error (.invalidValue (unexpected v) name)
    else mismatch v name
  | .number (.negInt n) =>
    if 0 < n ∧ n ≤ Nat.pow 2 63 then .error (.invalidValue (unexpected v) name) else mismatch v name
  | _ => mismatch v name

/-- An unsigned 8-bit number. -/
def asU8 : Json → Decoded Nat := asNatBelow (Nat.pow 2 8) "u8"

/-- An unsigned 64-bit number. -/
def asU64 : Json → Decoded Nat := asNatBelow (Nat.pow 2 64) "u64"

/-- A boolean. -/
def asBool (v : Json) : Decoded Bool :=
  match v with
  | .bool b => .ok b
  | _ => mismatch v "a boolean"

/-- A string. -/
def asString (v : Json) : Decoded String :=
  match v with
  | .string s => .ok s
  | _ => mismatch v "a string"

/-- What a word is expected to be. -/
def wordExpected : String := "a 32 byte hex string"

/-- A word: a numeral in a string, or a whole number below `2^64`. -/
def asWord (v : Json) : Decoded Word :=
  match v with
  | .string s =>
    match Word.ofNumeral? s with
    | some w => .ok w
    | none => .error (.invalidValue (unexpected v) wordExpected)
  | .number (.nat n) =>
    if n < Nat.pow 2 64 then .ok (Word.ofNat n) else mismatch v wordExpected
  | _ => mismatch v wordExpected

/-- A signed word: a signed numeral in a string. -/
def asSignedWord (v : Json) : Decoded SignedWord :=
  match v with
  | .string s =>
    match SignedWord.ofNumeral? s with
    | some w => .ok w
    | none => .error (.invalidValue (unexpected v) "a signed 256-bit integer")
  | _ => mismatch v "a string"

/-- An optional value: `null` is none. -/
def asOption {α : Type} (dec : Json → Decoded α) (v : Json) : Decoded (Option α) :=
  match v with
  | .null => .ok none
  | _ => (dec v).map some

/-- A list of values. -/
def asList {α : Type} (dec : Json → Decoded α) (v : Json) : Decoded (List α) :=
  match v with
  | .array items => items.mapM dec
  | _ => mismatch v "a sequence"

/-- The members of an object. -/
def asMembers (v : Json) : Decoded (List (String × Json)) :=
  match v with
  | .object members => .ok members
  | _ => mismatch v "a map"

end Json

/-- Where the fields of a record are read from: an object's members by name, or an array's
items by position. -/
inductive FieldSource where
  | byName (members : List (String × Json))
  | byPosition (items : List Json)

/-- A record being read: its name, its declared fields in order, and where they come from. -/
structure Record where
  name : String
  fields : List String
  source : FieldSource

namespace Record

/-- Opens a record: an object (a declared field named twice is refused) or an array of at most
the declared number of items. -/
def ofJson (name : String) (fields : List String) (v : Json) : Decoded Record :=
  match v with
  | .object members =>
    match fields.find? (fun f => (members.filter (·.1 == f)).length > 1) with
    | some f => .error (.duplicateField f)
    | none => .ok ⟨name, fields, .byName members⟩
  | .array items =>
    if items.length > fields.length then
      .error (.invalidLength items.length "fewer elements in array")
    else .ok ⟨name, fields, .byPosition items⟩
  | _ => Json.mismatch v ("struct " ++ name)

/-- The value given for a field, if any. -/
def get? (r : Record) (field : String) : Option Json :=
  match r.source with
  | .byName members => (members.find? (·.1 == field)).map (·.2)
  | .byPosition items => items[r.fields.idxOf field]?

/-- The failure for an absent field that has no default. -/
def absent {α : Type} (r : Record) (field : String) : Decoded α :=
  match r.source with
  | .byName _ => .error (.missingField field)
  | .byPosition _ =>
    .error (.invalidLength (r.fields.idxOf field) ("struct " ++ r.name ++ " with " ++
      String.ofList (Digits.decimal r.fields.length) ++ " elements"))

/-- A field that must be given. -/
def req {α : Type} (r : Record) (field : String) (dec : Json → Decoded α) : Decoded α :=
  match r.get? field with
  | some v => dec v
  | none => r.absent field

/-- An optional field: `null`, or absent from an object, is none. -/
def opt {α : Type} (r : Record) (field : String) (dec : Json → Decoded α) : Decoded (Option α) :=
  match r.get? field, r.source with
  | some v, _ => Json.asOption dec v
  | none, .byName _ => .ok none
  | none, .byPosition _ => r.absent field

/-- A field with a default for when it is absent. -/
def withDefault {α : Type} (r : Record) (field : String) (dec : Json → Decoded α) (default : α) :
    Decoded α :=
  match r.get? field with
  | some v => dec v
  | none => .ok default

end Record

namespace Json

/-- What an address is expected to be. -/
def addressExpected : String :=
  "20 bytes, represented as a hex string of length 40, an array of u8, or raw bytes"

/-- An address: forty hexadecimal digits in a string (an optional `0x` before them), or an array
of twenty bytes. -/
def asAddress (v : Json) : Decoded Address :=
  match v with
  | .string s =>
    match Address.ofHex? s with
    | some a => .ok a
    | none => .error (.invalidValue (unexpected v) addressExpected)
  | .array items =>
    if items.length = 20 then
      (items.mapM asU8).map fun bytes => Address.ofNat (bytes.foldl (fun n b => n * 256 + b) 0)
    else .error (.invalidLength items.length "20 bytes")
  | _ => mismatch v addressExpected

/-- A map keyed by address; a key given twice keeps its last value. -/
def asAddrMap {α : Type} (dec : Json → Decoded α) (v : Json) : Decoded (AddrMap α) := do
  let members ← asMembers v
  let bindings ← members.mapM fun (k, x) => do
    let a ← match Address.ofHex? k with
      | some a => Except.ok a
      | none => .error (.invalidValue (unexpected (.string k)) addressExpected)
    return (a, ← dec x)
  return AddrMap.ofList bindings

end Json

end PeerLending
