/-
# Lines

A line ends with a line feed, and a carriage return right before it belongs to the end as well.
What follows the last line feed is a line of its own unless it is empty.
-/

namespace Conformance.Text

/-- A line, given backwards, without the carriage return at its end. -/
def dropReturn : List Char → List Char
  | '\r' :: line => line
  | line => line

/-- The lines of a text that goes on after the characters of `line`, which are given backwards. -/
def linesAfter (line : List Char) : List Char → List String
  | [] => if line = [] then [] else [String.ofList line.reverse]
  | c :: rest =>
    if c = '\n' then String.ofList (dropReturn line).reverse :: linesAfter [] rest
    else linesAfter (c :: line) rest

/-- The lines of a text. -/
def lines (text : String) : List String := linesAfter [] text.toList

/-- The first line of a text. -/
def firstLine (text : String) : String := (lines text).headD ""

end Conformance.Text
