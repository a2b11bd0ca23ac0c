import Resemblance.Terminal.Style
import Resemblance.Text.Width

/-!
Tables in boxes with round corners: a header, a rule below it, and rows. Columns are as wide as
their widest cell, cells may have several lines, and colours take no room.
-/

namespace Resemblance.Terminal

structure Cell where
  text : String
  style : Option Style := none

def cellLines : List Char → List (List Char)
  | [] => [[]]
  | c :: rest =>
      match cellLines rest with
      | [] => []
      | line :: more => if c = '\n' then [] :: line :: more else (c :: line) :: more

namespace Cell

def plain (text : String) : Cell := { text }

def lines (cell : Cell) : List (List Char) :=
  cellLines cell.text.toList

def width (cell : Cell) : Nat :=
  (cell.lines.map fun line => Text.width line).foldl max 0

def line (cell : Cell) (width index : Nat) : String :=
  let text := cell.lines.getD index []
  let shown := String.ofList text
  let painted :=
    match cell.style with
    | some style => if text.isEmpty then shown else paint style shown
    | none => shown
  painted ++ String.ofList (List.replicate (width - Text.width text) ' ')

end Cell

structure Rule where
  left : String
  crossing : String
  right : String

def Rule.top : Rule := ⟨"╭", "┬", "╮"⟩

def Rule.middle : Rule := ⟨"├", "┼", "┤"⟩

def Rule.bottom : Rule := ⟨"╰", "┴", "╯"⟩

def Rule.write (rule : Rule) (widths : List Nat) : String :=
  rule.left ++
    rule.crossing.intercalate
      (widths.map fun width => String.ofList (List.replicate (width + 2) '─')) ++
    rule.right

def rowLines (widths : List Nat) (row : List Cell) : List String :=
  let height := (row.map fun cell => cell.lines.length).foldl max 1
  (List.range height).map fun index =>
    "│" ++ "│".intercalate ((row.zip widths).map fun (cell, width) =>
      " " ++ cell.line width index ++ " ") ++ "│"

def columnWidths (columns : Nat) (rows : List (List Cell)) : List Nat :=
  (List.range columns).map fun column =>
    (rows.map fun row => (row[column]?.map Cell.width).getD 0).foldl max 0

def table (header : List String) (rows : List (List Cell)) : String :=
  let head := header.map Cell.plain
  let widths := columnWidths header.length (head :: rows)
  "\n".intercalate
    ([Rule.top.write widths] ++ rowLines widths head ++ [Rule.middle.write widths] ++
      rows.flatMap (rowLines widths) ++ [Rule.bottom.write widths])

end Resemblance.Terminal
