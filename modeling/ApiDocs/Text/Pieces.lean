/-!
# Pieces of a text

Splitting a text at a character into its pieces, and into lines. There is always at least one
piece, and joining the pieces with the separator gives the text back.
-/

set_option autoImplicit false

namespace ApiDocs.Text

/-- The pieces of a text between the occurrences of a separator. -/
def pieces (sep : Char) : List Char → List (List Char)
  | [] => [[]]
  | c :: rest =>
    if c = sep then [] :: pieces sep rest
    else
      match pieces sep rest with
      | [] => [[c]]
      | first :: others => (c :: first) :: others

/-- The last piece of a text: what follows the last separator. -/
def lastPiece (sep : Char) (s : List Char) : List Char :=
  (s.reverse.takeWhile (· ≠ sep)).reverse

/-- A line without the carriage return that ended it together with the line feed. -/
def dropReturn (line : List Char) : List Char :=
  if line.getLast? = some '\r' then line.dropLast else line

/-- The pieces as lines: each but the last ended in a line feed, and an empty last piece is
no line. -/
def linesOfPieces : List (List Char) → List (List Char)
  | [] => []
  | [last] => if last = [] then [] else [last]
  | line :: next :: others => dropReturn line :: linesOfPieces (next :: others)

/-- The lines of a text. A line ends in a line feed, or in a carriage return and a line feed;
the end of the text opens no further line after a line feed. -/
def lines (s : List Char) : List (List Char) :=
  linesOfPieces (pieces '\n' s)

end ApiDocs.Text
