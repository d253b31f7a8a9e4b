import ColumnChecks.Text.CharSet

/-!
# Blanks, trimming and lines

A blank is a character with the Unicode property *White_Space*. Texts are cut at
blanks in two ways: `trim` takes them off both ends, `cutAtBlank` divides a text
at the first one.

A line ends with a line feed, and a carriage return before that line feed
belongs to the ending. The last line may go without an ending, and then a
carriage return at its end is part of it.
-/

namespace ColumnChecks.Text

/-- The characters with the property *White_Space*. -/
def blanks : CharSet := ⟨[(0x9, 0xD), (0x20, 0x20), (0x85, 0x85), (0xA0, 0xA0),
  (0x1680, 0x1680), (0x2000, 0x200A), (0x2028, 0x2029), (0x202F, 0x202F),
  (0x205F, 0x205F), (0x3000, 0x3000)]⟩

def isBlank (c : Char) : Bool := blanks.contains c

/-! ### Trimming -/

/-- The text without its leading blanks. -/
def trimStart (cs : List Char) : List Char := cs.dropWhile isBlank

/-- The text without its trailing blanks. -/
def trimEnd (cs : List Char) : List Char := (cs.reverse.dropWhile isBlank).reverse

/-- The text without its leading and trailing blanks. -/
def trim (cs : List Char) : List Char := trimEnd (trimStart cs)

/-! ### Cutting -/

/-- What stands before and after the first character that satisfies a test. -/
def cutAt? (p : Char → Bool) : List Char → Option (List Char × List Char)
  | [] => none
  | c :: rest =>
    if p c then some ([], rest) else (cutAt? p rest).map fun (before, after) => (c :: before, after)

/-- What stands before and after the first blank. -/
def cutAtBlank? (cs : List Char) : Option (List Char × List Char) := cutAt? isBlank cs

/-- What follows a given beginning. -/
def after? : List Char → List Char → Option (List Char)
  | [], cs => some cs
  | _ :: _, [] => none
  | p :: ps, c :: cs => if p = c then after? ps cs else none

/-- The pieces between the occurrences of a character; there is always at least
one. -/
def pieces (sep : Char) : List Char → List (List Char)
  | [] => [[]]
  | c :: rest =>
    if c = sep then [] :: pieces sep rest
    else
      match pieces sep rest with
      | [] => [[c]]
      | piece :: more => (c :: piece) :: more

/-- Whether a text occurs in another one. -/
def occursIn (piece : List Char) : List Char → Bool
  | [] => piece.isEmpty
  | c :: rest => piece.isPrefixOf (c :: rest) || occursIn piece rest

/-! ### Lines -/

/-- A line without the carriage return of its ending. -/
def dropReturn (line : List Char) : List Char :=
  if line.getLast? = some '\r' then line.dropLast else line

/-- The lines of the pieces between line feeds. Only the last piece has no line
feed behind it, and an empty last piece is no line. -/
def linesOfPieces : List (List Char) → List (List Char)
  | [] => []
  | [last] => if last.isEmpty then [] else [last]
  | piece :: more => dropReturn piece :: linesOfPieces more

/-- The lines of a text, without their endings. -/
def lines (cs : List Char) : List (List Char) := linesOfPieces (pieces '\n' cs)

end ColumnChecks.Text
