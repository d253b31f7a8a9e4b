import ColumnChecks.Text.Blank

/-!
# Files

A command reads files by their paths and writes none. `Directory` is a directory
with the texts of its files, and says what a path inside it leads to.
-/

namespace ColumnChecks.CommandLine

/-- What a path leads to. -/
inductive FileState where
  | absent
  /-- Something that is there and has no text, such as a directory. -/
  | unreadable
  | text (content : String)
  deriving DecidableEq, Repr

/-- What each path leads to. -/
abbrev Files := String → FileState

/-- The texts of files, by their paths. -/
structure Directory where
  entries : List (String × String)

/-- The names on a path: empty ones and single points stay where they are, and two
points lead back. A path that leads out has none. -/
def stepsOf (path : String) : Option (List (List Char)) :=
  let step := fun (sofar : List (List Char)) (name : List Char) =>
    if name = [] ∨ name = ['.'] then some sofar
    else if name = ['.', '.'] then (if sofar.isEmpty then none else some sofar.dropLast)
    else some (sofar ++ [name])
  match path.toList with
  | '/' :: _ => none
  | cs => (Text.pieces '/' cs).foldlM step []

/-- Whether a path is written as that of a directory. -/
def namesDirectory (path : String) : Bool :=
  match (Text.pieces '/' path.toList).getLast? with
  | some name => name == [] || name == ['.'] || name == ['.', '.']
  | none => true

/-- What a path inside a directory leads to. -/
def Directory.files (directory : Directory) : Files := fun path =>
  match stepsOf path with
  | none => .absent
  | some steps =>
    match directory.entries.find? fun entry => stepsOf entry.1 == some steps with
    | some (_, content) => if namesDirectory path then .absent else .text content
    | none =>
      if directory.entries.any fun entry => (stepsOf entry.1).any steps.isPrefixOf
        then .unreadable
      else if steps.isEmpty then .unreadable
      else .absent

end ColumnChecks.CommandLine
