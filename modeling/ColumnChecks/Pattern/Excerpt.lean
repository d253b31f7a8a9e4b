import ColumnChecks.Pattern.Fault
import ColumnChecks.Text.Blank

/-!
# Showing a fault in a pattern

A fault is shown below the line of the pattern it is in, with a caret under each
character of its stretch. In a pattern of several lines the lines are numbered,
and a stretch that goes over the end of a line is named in words instead.
-/

namespace ColumnChecks.Pattern

/-- A line and a column, both counted from one. -/
structure Place where
  line : Nat
  column : Nat
  deriving DecidableEq, Repr

/-- The place of an offset. -/
def placeOf (text : List Char) (offset : Nat) : Place :=
  let before := text.take offset
  ⟨before.count '\n' + 1, (before.reverse.takeWhile (· != '\n')).length + 1⟩

/-- A stretch by the places of its ends. -/
structure Stretch where
  first : Place
  last : Place
  deriving DecidableEq, Repr

def Stretch.ofSpan (text : List Char) (span : Span) : Stretch :=
  ⟨placeOf text span.start, placeOf text span.stop⟩

def Stretch.inOneLine (s : Stretch) : Bool := s.first.line == s.last.line

/-- Carets under stretches of one line, in order, from a column on. -/
def carets (column : Nat) : List Stretch → List Char
  | [] => []
  | s :: more =>
    let blanks := s.first.column - 1 - column
    let marks := max 1 (s.last.column - s.first.column)
    List.replicate blanks ' ' ++ List.replicate marks '^'
      ++ carets (column + blanks + marks) more

/-- The lines of a pattern, each with the carets that belong under it. -/
def annotated (text : List Char) (width : Nat) (stretches : List Stretch) : List String :=
  ((Text.lines text).zipIdx.map fun (line, i) =>
    let number := toString (i + 1)
    let margin := if width = 0 then "    "
      else String.ofList (List.replicate (width - number.length) ' ') ++ number ++ ": "
    let here := stretches.filter fun s => s.first.line == i + 1
    let shown := margin ++ String.ofList line
    if here.isEmpty then [shown]
    else [shown, String.ofList (List.replicate margin.length ' ' ++ carets 0 here)]).flatten

/-- The number of lines of a pattern; a line feed at the end begins one more. -/
def lineCount (text : List Char) : Nat :=
  (Text.lines text).length + (if text.getLast? = some '\n' then 1 else 0)

/-- A fault together with the pattern it is in. -/
def Fault.describe (fault : Fault) (text : List Char) : String :=
  let count := lineCount text
  let width := if count ≤ 1 then 0 else (toString count).length
  let spans := (fault.span :: fault.kind.earlier?.toList).mergeSort fun a b =>
    a.start < b.start || (a.start == b.start && a.stop ≤ b.stop)
  let stretches := spans.map (Stretch.ofSpan text)
  let shown := annotated text width (stretches.filter Stretch.inOneLine)
  let wide := stretches.filter fun s => !s.inOneLine
  let divider := String.ofList (List.replicate 79 '~')
  let notes := wide.map fun s =>
    "on line " ++ toString s.first.line ++ " (column " ++ toString s.first.column
      ++ ") through line " ++ toString s.last.line ++ " (column "
      ++ toString (s.last.column - 1) ++ ")"
  let body := if text.contains '\n' then divider :: shown ++ divider :: notes else shown
  "\n".intercalate ("regex parse error:" :: body ++ ["error: " ++ fault.kind.message])

end ColumnChecks.Pattern
