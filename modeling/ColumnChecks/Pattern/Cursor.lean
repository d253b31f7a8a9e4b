import ColumnChecks.Pattern.Fault
import ColumnChecks.Text.Blank

/-!
# Reading a pattern from left to right

A cursor is a place in a pattern: what is still to be read, and how much has
been read already. When a pattern ignores blanks, blanks and comments between
its parts are stepped over; a comment runs from `#` to the end of its line.
-/

namespace ColumnChecks.Pattern

/-- A place in a pattern. -/
structure Cursor where
  rest : List Char
  offset : Nat
  /-- Whether blanks and comments between parts are stepped over. -/
  ignoresBlanks : Bool
  deriving Repr, Inhabited

namespace Cursor

def atEnd (c : Cursor) : Bool := c.rest.isEmpty

/-- The character at the cursor. -/
def char? (c : Cursor) : Option Char := c.rest.head?

/-- The character behind the one at the cursor. -/
def next? (c : Cursor) : Option Char := (c.rest.drop 1).head?

/-- Whether the text at the cursor starts in a given way. -/
def startsWith (c : Cursor) (beginning : List Char) : Bool := beginning.isPrefixOf c.rest

/-- The empty stretch at the cursor. -/
def here (c : Cursor) : Span := .at c.offset

/-- The stretch of the character at the cursor; at the end it is empty. -/
def charSpan (c : Cursor) : Span := ⟨c.offset, c.offset + (if c.rest.isEmpty then 0 else 1)⟩

/-- The stretch from an offset up to the cursor. -/
def since (c : Cursor) (start : Nat) : Span := ⟨start, c.offset⟩

/-- The place `n` characters further on. -/
def skip (c : Cursor) (n : Nat) : Cursor :=
  { c with rest := c.rest.drop n, offset := c.offset + min n c.rest.length }

/-- The next place. -/
def advance (c : Cursor) : Cursor := c.skip 1

/-- How many of the characters belong to blanks and comments at the front. -/
def blankLength (inComment : Bool) : List Char → Nat
  | [] => 0
  | c :: rest =>
    if inComment then blankLength (c != '\n') rest + 1
    else if Text.isBlank c then blankLength false rest + 1
    else if c = '#' then blankLength true rest + 1
    else 0

/-- The first place that is not inside ignored blanks. -/
def skipBlanks (c : Cursor) : Cursor :=
  if c.ignoresBlanks then c.skip (blankLength false c.rest) else c

/-- The next place that is not inside ignored blanks. -/
def step (c : Cursor) : Cursor := c.advance.skipBlanks

/-- The characters at the front that satisfy a test, each followed by ignored
blanks, and the place behind them. -/
def takeWhileFrom (p : Char → Bool) : Nat → Cursor → List Char × Cursor
  | 0, c => ([], c)
  | fuel + 1, c =>
    match c.char? with
    | some ch =>
      if p ch then
        let (taken, final) := takeWhileFrom p fuel c.step
        (ch :: taken, final)
      else ([], c)
    | none => ([], c)

/-- The characters at the front that satisfy a test, each followed by ignored
blanks, and the place behind them. -/
def takeWhile (p : Char → Bool) (c : Cursor) : List Char × Cursor :=
  takeWhileFrom p c.rest.length c

/-- The character that follows once ignored blanks and the sign of a comment are
passed; if all that follows is blank, its first character. -/
def nextPastBlanks? (c : Cursor) : Option Char :=
  if c.ignoresBlanks then
    let behind := c.rest.drop 1
    let bare := behind.dropWhile Text.isBlank
    let bare := match bare with
      | '#' :: more => more.dropWhile Text.isBlank
      | _ => bare
    if bare.isEmpty then behind.head? else bare.head?
  else c.next?

end Cursor

end ColumnChecks.Pattern
