import PeerLending.Word.Text

/-!
# JSON values

Snapshots, operations and every derived view travel as JSON. `Json` is the value tree:
objects keep their members in the order written, and numbers keep the three kinds that a JSON
reader tells apart — a non-negative whole number, a negative whole number, and any number with a
fraction or an exponent (kept as its text, since nothing here computes with it).

Two writers are here, both escaping a string the same way (`"` and `\` behind a backslash,
the control characters as `\b \f \n \r \t` or `\u00XX`, everything else as it is):

* `Json.compact`, with no blank at all;
* `Json.pretty`, with two blanks of indent per level, one member or item per line, a blank
  after each colon, and `[]` and `{}` for empty containers.
-/

set_option autoImplicit false

namespace PeerLending

/-- A JSON number as a reader tells it apart. -/
inductive JsonNumber where
  /-- A whole number written without sign, fraction or exponent. -/
  | nat (n : Nat)
  /-- A whole number written with a minus sign and no fraction or exponent: `-n`. -/
  | negInt (n : Nat)
  /-- A number with a fraction or an exponent, as written. -/
  | float (text : String)
deriving DecidableEq, Repr

/-- A JSON value. -/
inductive Json where
  | null
  | bool (b : Bool)
  | number (n : JsonNumber)
  | string (s : String)
  | array (items : List Json)
  | object (members : List (String × Json))
deriving Repr

namespace Json

/-- A natural number as a JSON number. -/
def ofNat (n : Nat) : Json := .number (.nat n)

/-- The text of a JSON number. -/
def numberText : JsonNumber → String
  | .nat n => String.ofList (Digits.decimal n)
  | .negInt n => String.ofList ('-' :: Digits.decimal n)
  | .float t => t

/-- The four hexadecimal digits of a code unit below `2^16`, lowercase. -/
def hex4 (n : Nat) : List Char := Digits.hexPadded 4 n

/-- The escaped form of one character inside a string. -/
def escapeChar (c : Char) : List Char :=
  if c = '"' then ['\\', '"']
  else if c = '\\' then ['\\', '\\']
  else if c = '\n' then ['\\', 'n']
  else if c = '\r' then ['\\', 'r']
  else if c = '\t' then ['\\', 't']
  else if c.toNat = 8 then ['\\', 'b']
  else if c.toNat = 12 then ['\\', 'f']
  else if c.toNat < 32 then '\\' :: 'u' :: hex4 c.toNat
  else [c]

/-- A string in quotes, escaped. -/
def quote (s : String) : String :=
  String.ofList ('"' :: (s.toList.flatMap escapeChar ++ ['"']))

mutual

/-- The value written with no blanks. -/
def compact : Json → String
  | .null => "null"
  | .bool true => "true"
  | .bool false => "false"
  | .number n => numberText n
  | .string s => quote s
  | .array items => "[" ++ compactItems items ++ "]"
  | .object members => "\x7b" ++ compactMembers members ++ "\x7d"

/-- Items written with no blanks, separated by commas. -/
def compactItems : List Json → String
  | [] => ""
  | [v] => compact v
  | v :: rest => compact v ++ "," ++ compactItems rest

/-- Members written with no blanks, separated by commas. -/
def compactMembers : List (String × Json) → String
  | [] => ""
  | [(k, v)] => quote k ++ ":" ++ compact v
  | (k, v) :: rest => quote k ++ ":" ++ compact v ++ "," ++ compactMembers rest

end

/-- Two blanks per level of indent. -/
def indent (level : Nat) : String := String.ofList (List.replicate (2 * level) ' ')

mutual

/-- The value written one item per line, at the given level of indent. -/
def prettyAt (level : Nat) : Json → String
  | .array [] => "[]"
  | .object [] => "\x7b\x7d"
  | .array items => "[\n" ++ prettyItems (level + 1) items ++ "\n" ++ indent level ++ "]"
  | .object members =>
    "\x7b\n" ++ prettyMembers (level + 1) members ++ "\n" ++ indent level ++ "\x7d"
  | .null => "null"
  | .bool true => "true"
  | .bool false => "false"
  | .number n => numberText n
  | .string s => quote s

/-- Items one per line at the given level, separated by commas. -/
def prettyItems (level : Nat) : List Json → String
  | [] => ""
  | [v] => indent level ++ prettyAt level v
  | v :: rest => indent level ++ prettyAt level v ++ ",\n" ++ prettyItems level rest

/-- Members one per line at the given level, separated by commas. -/
def prettyMembers (level : Nat) : List (String × Json) → String
  | [] => ""
  | [(k, v)] => indent level ++ quote k ++ ": " ++ prettyAt level v
  | (k, v) :: rest =>
    indent level ++ quote k ++ ": " ++ prettyAt level v ++ ",\n" ++ prettyMembers level rest

end

/-- The value written one item per line, two blanks of indent per level. -/
def pretty (v : Json) : String := prettyAt 0 v

/-- The first member of an object with the given key. -/
def field? (v : Json) (key : String) : Option Json :=
  match v with
  | .object members => (members.find? (·.1 == key)).map (·.2)
  | _ => none

end Json

end PeerLending
