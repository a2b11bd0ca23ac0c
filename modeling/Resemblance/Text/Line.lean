import Resemblance.Text.Blank

/-!
Lines of a text. A line ends before a line feed, and a carriage return in front of the feed belongs
to the line end; text after the last feed is a line of its own unless it is empty.
-/

namespace Resemblance.Text

def dropReturn (line : List Char) : List Char :=
  match line.reverse with
  | '\r' :: rest => rest.reverse
  | _ => line

/-- The lines of the characters that follow the reversed start `line` of a line. -/
def linesAfter : List Char → List Char → List (List Char)
  | [], [] => []
  | line, [] => [line.reverse]
  | line, c :: rest =>
      if c = '\n' then dropReturn line.reverse :: linesAfter [] rest
      else linesAfter (c :: line) rest

def lines (cs : List Char) : List (List Char) :=
  linesAfter [] cs

def joinWith (separator : List Char) : List (List Char) → List Char
  | [] => []
  | [line] => line
  | line :: rest => line ++ separator ++ joinWith separator rest

end Resemblance.Text
