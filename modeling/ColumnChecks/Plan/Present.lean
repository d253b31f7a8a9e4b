import Std.Data.ExtTreeMap
import ColumnChecks.Text.Blank

/-!
# The constraints that a table has

Each constraint has a name and perhaps a fingerprint: the mark of the predicate
it was added with. A database keeps the mark in the comment of the constraint; a
constraint whose comment is something else has none.

Two sets of constraints are equal when they hold the same names with the same
fingerprints, and are listed in the order of their names.
-/

namespace ColumnChecks

open Text

/-- The constraints of a table: names, each with its fingerprint if it has
one. -/
structure Present where
  entries : Std.ExtTreeMap String (Option String)
  deriving DecidableEq

/-! ### Fingerprints in comments -/

/-- What a comment with a fingerprint starts with. -/
def commentMark : String := "rein:"

/-- The comment that records a fingerprint. -/
def commentOf (fingerprint : String) : String := commentMark ++ fingerprint

/-- Whether a fingerprint may contain a character. -/
def isHexChar (c : Char) : Bool :=
  c.isDigit || ('a' ≤ c && c ≤ 'f') || ('A' ≤ c && c ≤ 'F')

/-- The fingerprint that a comment records, blanks around either passed over. -/
def fingerprintOfComment? (comment : String) : Option String :=
  match after? commentMark.toList (trim comment.toList) with
  | some rest =>
    let digits := trim rest
    if digits.isEmpty || !digits.all isHexChar then none else some (String.ofList digits)
  | none => none

namespace Present

def empty : Present := ⟨∅⟩

/-- The fingerprint of a constraint, if it is there and has one. -/
def find? (p : Present) (name : String) : Option (Option String) := p.entries[name]?

def contains (p : Present) (name : String) : Bool := p.entries.contains name

/-- Add a constraint, or replace the fingerprint of one that is there. -/
def insert (p : Present) (name : String) (fingerprint : Option String) : Present :=
  ⟨p.entries.insert name fingerprint⟩

def erase (p : Present) (name : String) : Present := ⟨p.entries.erase name⟩

/-- The constraints in the order of their names. -/
def toList (p : Present) : List (String × Option String) := p.entries.toList

def names (p : Present) : List String := p.entries.keys

def size (p : Present) : Nat := p.entries.size

def isEmpty (p : Present) : Bool := p.entries.isEmpty

/-- Add constraints one after the other. -/
def insertAll (p : Present) (entries : List (String × Option String)) : Present :=
  entries.foldl (fun p entry => p.insert entry.1 entry.2) p

/-- Constraints without fingerprints. -/
def ofNames (names : List String) : Present :=
  empty.insertAll (names.map fun name => (name, none))

/-- The constraints of catalog rows, each a name with a comment if it has one. -/
def ofCatalog (rows : List (String × Option String)) : Present :=
  empty.insertAll (rows.map fun row => (row.1, row.2.bind fingerprintOfComment?))

/-! ### Listings -/

/-- The constraint on a line of a listing: a name, and perhaps a fingerprint
behind a blank. Blank lines and lines that start with `#` have none. -/
def ofLine? (line : List Char) : Option (String × Option String) :=
  let line := trim line
  match line with
  | [] => none
  | '#' :: _ => none
  | _ =>
    match cutAtBlank? line with
    | some (name, rest) =>
      let digits := trim rest
      some (String.ofList name, if digits.isEmpty then none else some (String.ofList digits))
    | none => some (String.ofList line, none)

/-- The constraints of a listing, one on a line; of two lines for one name the
later one counts. -/
def ofListing (text : String) : Present :=
  empty.insertAll ((lines text.toList).filterMap ofLine?)

end Present

end ColumnChecks
