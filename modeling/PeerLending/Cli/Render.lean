import PeerLending.Decimal.OfWord
import PeerLending.Decimal.Format
import PeerLending.Text.Width

/-!
# Numbers and tables in reports

Reports show:

* native amounts with the asset's decimals, rounded to four digits (`max` for the sentinel);
* percent-base values as percentages with two digits (`∞` for the sentinel, or when the
  percentage does not fit a decimal);
* wad USD values with two digits, in thousands (`K`) from a thousand and in millions (`M`) from a
  million;
* health factors with four digits (`∞` without debt);
* addresses in their checksummed spelling, cut to the first six and last four characters.

Rounding is always half to even. Tables have a header row, rounded corners, one space of padding
and left-aligned cells; a cell is as wide as its widest line in terminal columns (`Text.width`),
and a line feed in a cell starts a new line of its row.
-/

set_option autoImplicit false

namespace PeerLending

namespace Cli

/-- The sign shown for an unbounded value. -/
def unbounded : String := "∞"

/-- The first six and last four characters around `...`, for texts longer than ten. -/
def truncateAddress (s : String) : String :=
  let cs := s.toList
  if cs.length > 10 then String.ofList (cs.take 6) ++ "..." ++ String.ofList (cs.drop (cs.length - 4))
  else s

/-- A native amount with its decimals applied, four digits after the point. -/
def formatAmount (value : Word) (decimals : Nat) : String :=
  if value = Word.maxValue then "max"
  else ((Decimal.ofScaled value decimals).roundDp 4).toFixed 4

/-- A decimal fraction as a percentage with two digits, or `∞` when it does not fit. -/
def percentText (d : Decimal) : String :=
  match d.mul? Decimal.hundred with
  | some p => (p.roundDp 2).toFixed 2 ++ "%"
  | none => unbounded

/-- A percent-base value (`10000` is 100%). -/
def formatPercent (value : Word) : String :=
  if value = Word.maxValue then unbounded else percentText (Decimal.ofPercent value)

/-- A signed percent-base value. -/
def formatSignedPercent (value : SignedWord) : String := percentText (Decimal.ofSignedPercent value)

/-- A wad USD value, in thousands or millions when large. -/
def formatUsd (value : Word) : String :=
  let v := Decimal.ofWad value
  if (Decimal.ofNat 1000000).le v then "$" ++ ((v.shiftPoint 6).roundDp 2).toFixed 2 ++ "M"
  else if (Decimal.ofNat 1000).le v then "$" ++ ((v.shiftPoint 3).roundDp 2).toFixed 2 ++ "K"
  else "$" ++ (v.roundDp 2).toFixed 2

/-- A wad health factor; unbounded without debt. -/
def formatHealthFactor (value : Word) : String :=
  if value = Word.maxValue then unbounded else ((Decimal.ofWad value).roundDp 4).toFixed 4

/-- The lines of a cell's text: it is cut at every line feed. -/
def cellLines (s : String) : List String := s.splitOn "\n"

/-- The columns a cell needs: those of its widest line. -/
def cellWidth (s : String) : Nat := ((cellLines s).map Text.width).foldl Nat.max 0

/-- A line padded with spaces on the right to `width` columns. -/
def padRight (s : String) (width : Nat) : String :=
  s ++ String.ofList (List.replicate (width - Text.width s) ' ')

/-- A rule across the table: `left`, then for every column its width plus two of `fill`, joined
by `cross`, then `right`. -/
def rule (widths : List Nat) (left cross right : String) : String :=
  left ++ cross.intercalate (widths.map fun w => String.ofList (List.replicate (w + 2) '─')) ++ right

/-- A row of cells between vertical bars, as many lines high as its tallest cell; a shorter cell
is filled with blank lines below its text. -/
def row (widths : List Nat) (cells : List String) : List String :=
  let lines := cells.map cellLines
  let height := (lines.map List.length).foldl Nat.max 1
  (List.range height).map fun k =>
    "│" ++ "│".intercalate ((widths.zip lines).map fun (w, ls) => " " ++ padRight (ls.getD k "") w ++ " ") ++
      "│"

/-- A table with a header and rows, in the rounded style; no final newline. -/
def table (header : List String) (rows : List (List String)) : String :=
  let widths := header.mapIdx fun i h =>
    rows.foldl (fun w r => Nat.max w (cellWidth (r.getD i ""))) (cellWidth h)
  "\n".intercalate ([rule widths "╭" "┬" "╮"] ++ row widths header ++ [rule widths "├" "┼" "┤"] ++
    rows.flatMap (row widths) ++ [rule widths "╰" "┴" "╯"])

end Cli

end PeerLending
