import PeerLending.Text.ZeroWidth
import PeerLending.Text.EastAsianWidth
import PeerLending.Text.Emoji
import PeerLending.Text.Joining

/-!
# How many columns a text takes

On its own a character takes (`charWidth`):

* one column when it is a control character, an ASCII character or the no-break space;
* three for the Khmer sign beyyal `U+17D8`, and two for the Khmer independent vowel qaa `U+17A4`,
  each drawn as a cluster of that many letters;
* none when it is in `zeroWidthRanges`;
* two when it is Wide or Fullwidth (`wideRanges`);
* one otherwise, an unassigned code point included.

A text takes the sum over its characters, except where a sequence is drawn as one picture or one
ligature:

* a carriage return before a line feed takes nothing;
* an emoji presentation sequence (a character of `emojiStyleRanges` and the emoji variation
  selector) takes two columns, and a text presentation sequence (a character of
  `textStyleRanges` and the text variation selector) one;
* an emoji modifier sequence (a modifier base and a skin-tone modifier) takes the two columns of
  the modifier; two regional indicators (a flag) take one column each;
* in an emoji zero-width-joiner sequence every emoji after the first is counted as none, and so
  are the emoji modifier sequences, flags, keycaps and tag sequences joined in it;
* a left or right quotation mark (`U+2018`, `U+2019`, `U+201C`, `U+201D`) before the variation
  selector 2 is drawn wide;
* the ligatures of scripts: Arabic lam and alef, with marks of joining type Transparent between
  them, take one column; so do Hebrew alef, a zero-width joiner and lamed; the Buginese
  `U+1A15 U+1A17 U+200D U+1A10`; a Tifinagh consonant, the consonant joiner or a zero-width
  joiner, and a consonant; a Lisu tone letter pair; the Old Turkic `U+10C32 U+200D U+10C03`; and
  the compositions of the Kirat Rai vowel signs. A Khmer coeng with the consonant after it takes
  none. Zero-width joiners and default-ignorable marks inside the non-Arabic ones change nothing.

A text is measured from its end: each character is counted knowing what the text after it begins
with (`Lookahead`), which is all that the rules above need.
-/

set_option autoImplicit false

namespace PeerLending

namespace Text

/-- The columns a character takes on its own. -/
def charWidth (c : Char) : Nat :=
  if c.toNat ≤ 0xA0 then 1
  else if c.toNat = 0x17D8 then 3
  else if c.toNat = 0x17A4 then 2
  else if isZeroWidth c then 0
  else if isWide c then 2
  else 1

/-- The zero-width joiner. -/
def isJoiner (c : Char) : Bool := c.toNat = 0x200D

/-- Whether a character leaves a ligature of a script other than Arabic as it is: a
default-ignorable mark or the zero-width joiner. -/
def isLigatureTransparent (c : Char) : Bool :=
  inRanges c.toNat [(0x34F, 0x34F), (0x17B4, 0x17B5), (0x180B, 0x180D), (0x180F, 0x180F),
    (0x200D, 0x200D), (0xFE00, 0xFE0F), (0xE0100, 0xE01EF)]

/-- Whether a character is a Tifinagh consonant. -/
def isTifinaghConsonant (c : Char) : Bool :=
  inRanges c.toNat [(0x2D31, 0x2D65), (0x2D6F, 0x2D6F)]

/-- Whether a Khmer coeng before a character makes it a subscript consonant. -/
def isKhmerCoengLetter (c : Char) : Bool :=
  inRanges c.toNat [(0x1780, 0x1782), (0x1784, 0x1787), (0x1789, 0x178C), (0x178E, 0x1793),
    (0x1795, 0x1798), (0x179B, 0x179D), (0x17A0, 0x17A2)]

/-- Whether a character is a tag letter or tag digit. -/
def isTagSpec (c : Char) : Bool := inRanges c.toNat [(0xE0030, 0xE0039), (0xE0061, 0xE007A)]

/-- What the text after a character begins with, as far as it changes how the character counts. -/
inductive Next where
  /-- Nothing that changes it. -/
  | plain
  /-- A line feed. -/
  | lineFeed
  /-- A skin-tone modifier. -/
  | skinTone
  /-- One regional indicator. -/
  | indicator
  /-- A regional indicator after another. -/
  | indicators
  /-- An emoji, or an emoji sequence, drawn as a picture. -/
  | emoji
  /-- A zero-width joiner and an emoji. -/
  | joinedEmoji
  /-- The combining keycap, a zero-width joiner and an emoji. -/
  | keycapJoinedEmoji
  /-- An odd number of regional indicators, a zero-width joiner and an emoji. -/
  | oddIndicatorsJoined
  /-- An even number of regional indicators, a zero-width joiner and an emoji. -/
  | evenIndicatorsJoined
  /-- Tag letters or digits, as many as `count`, the cancel tag, a zero-width joiner and an
  emoji. -/
  | tagsJoined (count : Nat)
  /-- The variation selector 2. -/
  | selector2
  /-- An Arabic letter of the Alef group, after marks of joining type Transparent or not. -/
  | alef
  /-- The Hebrew letter lamed. -/
  | lamed
  /-- A zero-width joiner and the Hebrew letter lamed. -/
  | joinedLamed
  /-- The Buginese letter ya. -/
  | buginYa
  /-- A zero-width joiner and the Buginese letter ya. -/
  | joinedBuginYa
  /-- The Buginese vowel sign i, a zero-width joiner and the letter ya. -/
  | buginIJoinedYa
  /-- A Tifinagh consonant. -/
  | tifinagh
  /-- A zero-width joiner and a Tifinagh consonant. -/
  | joinedTifinagh
  /-- The Tifinagh consonant joiner and a consonant. -/
  | tifinaghJoined
  /-- The Lisu tone letter mya na or jeu. -/
  | lisuTone
  /-- The Old Turkic letter Orkhon i. -/
  | orkhonI
  /-- A zero-width joiner and the Old Turkic letter Orkhon i. -/
  | joinedOrkhonI
  /-- A Khmer consonant that a coeng before it makes a subscript. -/
  | khmerLetter
  /-- The Kirat Rai vowel sign e. -/
  | kiratE
  /-- The Kirat Rai vowel sign ai. -/
  | kiratAi
deriving DecidableEq, Repr

/-- A variation selector waiting for the character it applies to. -/
inductive Style where
  | none
  | emoji
  | text
deriving DecidableEq, Repr

/-- What the text after a character begins with, and a variation selector at its start. -/
structure Lookahead where
  next : Next
  style : Style
deriving DecidableEq, Repr

namespace Next

/-- Whether a ligature of a script is under way, which a variation selector breaks. -/
def isScriptLigature : Next → Bool
  | .alef | .lamed | .joinedLamed | .buginYa | .joinedBuginYa | .buginIJoinedYa | .tifinagh
  | .joinedTifinagh | .tifinaghJoined | .lisuTone | .orkhonI | .joinedOrkhonI | .khmerLetter => true
  | _ => false

/-- Whether a ligature under way lets default-ignorable marks and joiners through. -/
def isLigatureTransparent (n : Next) : Bool := n.isScriptLigature && n != .alef

/-- The ligature under way with a zero-width joiner before it. -/
def withJoiner : Next → Next
  | .lamed => .joinedLamed
  | .buginYa => .joinedBuginYa
  | .tifinagh => .joinedTifinagh
  | .orkhonI => .joinedOrkhonI
  | n => n

end Next

/-- Nothing ahead that changes a count. -/
def Lookahead.plain : Lookahead := ⟨.plain, .none⟩

namespace Lookahead

/-- The text with the emoji variation selector before it. -/
def withEmojiStyle (a : Lookahead) : Lookahead :=
  ⟨if a.next = .selector2 then .plain else a.next, .emoji⟩

/-- The text with the text variation selector before it. -/
def withTextStyle (a : Lookahead) : Lookahead :=
  ⟨if a.next.isScriptLigature || a.next = .selector2 then .plain else a.next, .text⟩

/-- The text once a waiting emoji variation selector found no character to apply to. -/
def dropEmojiStyle (a : Lookahead) : Lookahead :=
  ⟨if a.next.isScriptLigature then .plain else a.next, .none⟩

end Lookahead

/-- How a character counts whatever follows it: its columns, and what a text that starts with it
begins with. -/
def single (c : Char) : Int × Lookahead :=
  let w : Int := charWidth c
  let n := c.toNat
  let starts (next : Next) : Int × Lookahead := (w, ⟨next, .none⟩)
  if isRegionalIndicator c then starts .indicator
  else if isSkinTone c then starts .skinTone
  else if isEmojiPresentation c then starts .emoji
  else if n = 0xFE0F then (0, ⟨.plain, .emoji⟩)
  else if n = 0xFE0E then (0, ⟨.plain, .text⟩)
  else if n = 0xFE01 then starts .selector2
  else if isAlefGroup c then starts .alef
  else if n = 0x5DC then starts .lamed
  else if n = 0x1A10 then starts .buginYa
  else if isTifinaghConsonant c then starts .tifinagh
  else if n = 0xA4FC ∨ n = 0xA4FD then starts .lisuTone
  else if n = 0x10C03 then starts .orkhonI
  else if isKhmerCoengLetter c then starts .khmerLetter
  else if n = 0x16D67 then starts .kiratE
  else if n = 0x16D68 then starts .kiratAi
  else starts .plain

/-- How a character counts as part of a sequence with what follows it, when it is. -/
def joined (c : Char) : Next → Option (Int × Lookahead)
  | .alef =>
    if isLamGroup c then some (0, .plain)
    else if isZeroWidth c && isJoiningTransparent c then some (0, ⟨.alef, .none⟩)
    else none
  | .joinedLamed => if c.toNat = 0x5D0 then some (0, .plain) else none
  | .khmerLetter => if c.toNat = 0x17D2 then some (-1, .plain) else none
  | .joinedBuginYa => if c.toNat = 0x1A17 then some (0, ⟨.buginIJoinedYa, .none⟩) else none
  | .buginIJoinedYa => if c.toNat = 0x1A15 then some (0, .plain) else none
  | .tifinagh => if c.toNat = 0x2D7F then some (1, ⟨.tifinaghJoined, .none⟩) else none
  | .joinedTifinagh =>
    if c.toNat = 0x2D7F then some (1, ⟨.tifinaghJoined, .none⟩)
    else if isTifinaghConsonant c then some (0, .plain)
    else none
  | .tifinaghJoined => if isTifinaghConsonant c then some (-1, .plain) else none
  | .lisuTone => if 0xA4F8 ≤ c.toNat && c.toNat ≤ 0xA4FB then some (0, .plain) else none
  | .joinedOrkhonI => if c.toNat = 0x10C32 then some (0, .plain) else none
  | .kiratE =>
    if c.toNat = 0x16D63 ∨ c.toNat = 0x16D69 then some (0, .plain)
    else if c.toNat = 0x16D67 then some (0, ⟨.kiratAi, .none⟩)
    else none
  | .kiratAi => if c.toNat = 0x16D63 then some (0, .plain) else none
  | .selector2 =>
    if inRanges c.toNat [(0x2018, 0x2019), (0x201C, 0x201D)] then some (2, .plain) else none
  | .skinTone =>
    if isModifierBase c then some (0, ⟨.emoji, .none⟩)
    else if isJoiner c then some (0, ⟨.joinedEmoji, .none⟩)
    else none
  | .indicator => if isRegionalIndicator c then some (1, ⟨.indicators, .none⟩) else none
  | .indicators =>
    if isRegionalIndicator c then some (1, ⟨.indicators, .none⟩)
    else if isJoiner c then some (0, ⟨.joinedEmoji, .none⟩)
    else none
  | .emoji => if isJoiner c then some (0, ⟨.joinedEmoji, .none⟩) else none
  | .oddIndicatorsJoined =>
    if isRegionalIndicator c then some (-1, ⟨.evenIndicatorsJoined, .none⟩)
    else if isJoiner c then some (0, ⟨.joinedEmoji, .none⟩)
    else none
  | .evenIndicatorsJoined =>
    if isRegionalIndicator c then some (3, ⟨.oddIndicatorsJoined, .none⟩)
    else if isJoiner c then some (0, ⟨.joinedEmoji, .none⟩)
    else none
  | .joinedEmoji =>
    if c.toNat = 0x20E3 then some (0, ⟨.keycapJoinedEmoji, .none⟩)
    else if isRegionalIndicator c then some (1, ⟨.oddIndicatorsJoined, .none⟩)
    else if isSkinTone c then some (0, ⟨.skinTone, .none⟩)
    else if c.toNat = 0xE007F then some (0, ⟨.tagsJoined 0, .none⟩)
    else if (single c).2 = ⟨.emoji, .none⟩ then some (0, ⟨.emoji, .none⟩)
    else none
  | .tagsJoined count =>
    if isTagSpec c && count < 6 then some (0, ⟨.tagsJoined (count + 1), .none⟩)
    else if c.toNat = 0x1F3F4 && 0 < count then some (0, ⟨.emoji, .none⟩)
    else none
  | _ => none

/-- How a character counts, given what the text after it begins with: its columns (negative when
it takes back a column counted for what follows) and what the text from it on begins with. -/
def step (c : Char) (after : Lookahead) : Int × Lookahead :=
  if after.style = .emoji && startsEmojiStyle c then
    (if after.next = .joinedEmoji || after.next = .keycapJoinedEmoji then 0 else 2, ⟨.emoji, .none⟩)
  else
    let after := if after.style = .emoji then after.dropEmojiStyle else after
    if c.toNat ≤ 0xA0 then
      if c = '\n' then (1, ⟨.lineFeed, .none⟩)
      else if c = '\r' && after = ⟨.lineFeed, .none⟩ then (0, .plain)
      else (1, .plain)
    else if after = .plain then single c
    else if c.toNat = 0xFE0F then (0, after.withEmojiStyle)
    else if c.toNat = 0xFE0E then (0, after.withTextStyle)
    else if after.style = .text && startsTextStyle c then (1, .plain)
    else if after.next.isLigatureTransparent && isJoiner c then
      (0, ⟨after.next.withJoiner, .none⟩)
    else if after.next.isLigatureTransparent && isLigatureTransparent c then (0, ⟨after.next, .none⟩)
    else (joined c after.next).getD (single c)

/-- The columns of a text and what it begins with, counted from its end. -/
def measure (cs : List Char) : Int × Lookahead :=
  cs.foldr (fun c acc => let (w, a) := step c acc.2; (acc.1 + w, a)) (0, .plain)

/-- The columns a text takes. -/
def width (s : String) : Nat := (measure s.toList).1.toNat

end Text

end PeerLending
