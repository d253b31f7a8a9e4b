import ColumnChecks.Pattern.Bracket
import ColumnChecks.Pattern.Group

/-!
# Reading patterns

A pattern is an alternation of concatenations of repeated parts. The reader
keeps the open groups and alternations in a stack of `Frame`s, innermost first,
and the parts of the concatenation it is in, and moves through the text in one
loop: every round reads one part, one sign or one escape sequence.

A text that is no pattern is refused with the first fault met from left to
right. Depth is looked at last: `Tree.parse` refuses a pattern that nests deeper
than `nestLimit`.
-/

namespace ColumnChecks.Pattern

/-- What a concatenation is part of. -/
inductive Frame where
  /-- An open group: the parts before it, last first, where they start, the
  stretch of the opening parenthesis, what the group is for, and whether blanks
  are ignored around it. -/
  | group (before : List Tree) (start : Nat) (span : Span) (kind : GroupKind)
    (ignoresBlanks : Bool)
  /-- An alternation: where it starts, and the branches before, last first. -/
  | alternation (start : Nat) (branches : List Tree)

/-- How far a pattern has been read. -/
structure State where
  frames : List Frame
  /-- The parts of the current concatenation, last first. -/
  parts : List Tree
  /-- Where the current concatenation starts. -/
  start : Nat
  names : GroupNames
  cursor : Cursor

/-- The concatenation of parts that are given last first. -/
def Tree.ofParts (span : Span) : List Tree → Tree
  | [] => .empty span
  | [part] => part
  | parts => .concat span parts.reverse

/-- Complete the alternation at the top of the stack, if there is one. -/
def closeAlternation (branch : Tree) (stop : Nat) : List Frame → Tree × List Frame
  | .alternation start branches :: frames =>
    (.alternation ⟨start, stop⟩ (branches.reverse ++ [branch]), frames)
  | frames => (branch, frames)

/-- Whether a repetition may apply to a part. -/
def Tree.isRepeatable : Tree → Bool
  | .empty _ | .setFlags _ _ => false
  | _ => true

/-! ### Repetitions -/

/-- The number of digits at the cursor; `none` when there are none. Blanks
around them are passed. -/
def decimal (c : Cursor) : Except Fault (Option Nat) × Cursor :=
  let c := c.skip (c.rest.takeWhile Text.isBlank).length
  let (digits, final) := c.takeWhile Char.isDigit
  let span := final.since c.offset
  let (_, final) := final.takeWhile Text.isBlank
  let value := Decimal.natOfDigits digits
  if digits.isEmpty then (.ok none, final)
  else if value < UInt32.size then (.ok (some value), final)
  else (.error ⟨.decimalInvalid, span⟩, final)

/-- A bound that must be there. The stretch is that of the missing digits. -/
def needBound (span : Span) (bound : Except Fault (Option Nat)) : Except Fault Nat := do
  match ← bound with
  | some n => .ok n
  | none => .error ⟨.repetitionCountEmpty, span⟩

/-- Where the digits of a bound would stand. -/
def boundSpan (c : Cursor) : Span := (c.skip (c.rest.takeWhile Text.isBlank).length).here

/-- The bounds in braces at the cursor, which is at the opening brace, and the
place of the closing brace. -/
def counts (c : Cursor) : Except Fault (Repetition × Cursor) := do
  let start := c.offset
  let inside := c.step
  if inside.atEnd then .error ⟨.repetitionCountUnclosed, inside.since start⟩
  let (least, c) := decimal inside
  if c.atEnd then .error ⟨.repetitionCountUnclosed, c.since start⟩
  let (bounds, c) ← if c.char? = some ',' then do
      let c := c.step
      if c.atEnd then .error ⟨.repetitionCountUnclosed, c.since start⟩
      let min ← needBound (boundSpan inside) least
      if c.char? = some '\x7d' then .ok (Repetition.mk min none, c)
      else
        let (most, behind) := decimal c
        let max ← needBound (boundSpan c) most
        .ok (Repetition.mk min (some max), behind)
    else do
      let n ← needBound (boundSpan inside) least
      .ok (Repetition.mk n (some n), c)
  if c.char? != some '\x7d' then .error ⟨.repetitionCountUnclosed, c.since start⟩
  .ok (bounds, c)

/-- Apply a repetition to the last part, with the sign of a lazy one perhaps
behind it. -/
def State.repeat (s : State) (count : Repetition) (behind : Cursor) :
    Except Fault State :=
  match s.parts with
  | part :: parts =>
    if part.isRepeatable then
      let isLazy := behind.char? == some '?'
      let final := if isLazy then behind.advance else behind
      .ok { s with
        parts := .repetition (final.since part.span.start) count (!isLazy) part :: parts
        cursor := final }
    else .error ⟨.repetitionMissing, s.cursor.here⟩
  | [] => .error ⟨.repetitionMissing, s.cursor.here⟩

/-- Apply a repetition with bounds in braces. -/
def State.repeatCounted (s : State) : Except Fault State := do
  match s.parts with
  | part :: _ => if !part.isRepeatable then .error ⟨.repetitionMissing, s.cursor.here⟩
  | [] => .error ⟨.repetitionMissing, s.cursor.here⟩
  let (count, c) ← counts s.cursor
  let repeated ← s.repeat count c.step
  match count.max with
  | some max =>
    if max < count.min then
      .error ⟨.repetitionCountInvalid, repeated.cursor.since s.cursor.offset⟩
    else .ok repeated
  | none => .ok repeated

/-! ### Groups and alternations -/

/-- Begin a group, or set flags. -/
def State.openGroup (s : State) : Except Fault State := do
  let (found, names, behind) ← opening s.names s.cursor
  let ignoresBlanks := s.cursor.ignoresBlanks
  match found with
  | .flags items =>
    .ok { s with
      parts := .setFlags (behind.since s.cursor.offset) items :: s.parts
      names := names
      cursor := { behind with
        ignoresBlanks := (flagState? .ignoreBlanks items).getD ignoresBlanks } }
  | .group kind =>
    let inside := match kind with
      | .flags items => (flagState? .ignoreBlanks items).getD ignoresBlanks
      | _ => ignoresBlanks
    .ok {
      frames := .group s.parts s.start s.cursor.charSpan kind ignoresBlanks :: s.frames
      parts := []
      start := behind.offset
      names := names
      cursor := { behind with ignoresBlanks := inside } }

/-- End a group. -/
def State.closeGroup (s : State) : Except Fault State :=
  let stop := s.cursor.offset
  let (body, frames) := closeAlternation (.ofParts ⟨s.start, stop⟩ s.parts) stop s.frames
  match frames with
  | .group before start span kind ignoresBlanks :: frames =>
    let behind := s.cursor.advance
    .ok { s with
      frames := frames
      parts := .group (behind.since span.start) kind body :: before
      start := start
      cursor := { behind with ignoresBlanks := ignoresBlanks } }
  | _ => .error ⟨.groupUnopened, s.cursor.charSpan⟩

/-- Begin the next branch of an alternation. -/
def State.nextBranch (s : State) : State :=
  let branch := Tree.ofParts ⟨s.start, s.cursor.offset⟩ s.parts
  let behind := s.cursor.advance
  let frames := match s.frames with
    | .alternation start branches :: frames => .alternation start (branch :: branches) :: frames
    | frames => .alternation s.start [branch] :: frames
  { s with frames := frames, parts := [], start := behind.offset, cursor := behind }

/-- The whole pattern, at its end. -/
def State.finish (s : State) : Except Fault Tree :=
  let stop := s.cursor.offset
  let (tree, frames) := closeAlternation (.ofParts ⟨s.start, stop⟩ s.parts) stop s.frames
  match frames with
  | .group _ _ span _ _ :: _ => .error ⟨.groupUnclosed, span⟩
  | _ => .ok tree

/-! ### The loop -/

/-- An escape sequence as a part. -/
def Escape.toTree : Escape → Tree
  | .literal span spelling char => .literal span spelling char
  | .assertion span kind => .assertion span kind
  | .property span negated query => .property span negated query
  | .letter span kind negated => .letter span kind negated

/-- Add a part to the current concatenation. -/
def State.add (s : State) (part : Tree) (behind : Cursor) : State :=
  { s with parts := part :: s.parts, cursor := behind }

/-- Read the part or the sign that starts with the character at the cursor. -/
def State.next (s : State) (char : Char) : Except Fault State := do
  let c := s.cursor
  if char = '(' then s.openGroup
  else if char = ')' then s.closeGroup
  else if char = '|' then .ok s.nextBranch
  else if char = '[' then
    let (tree, behind) ← bracket c
    .ok (s.add tree behind)
  else if char = '?' then s.repeat ⟨0, some 1⟩ c.advance
  else if char = '*' then s.repeat ⟨0, none⟩ c.advance
  else if char = '+' then s.repeat ⟨1, none⟩ c.advance
  else if char = '\x7b' then s.repeatCounted
  else if char = '\\' then
    let (found, behind) ← escape c
    .ok (s.add found.toTree behind)
  else if char = '.' then .ok (s.add (.dot c.charSpan) c.advance)
  else if char = '^' then .ok (s.add (.assertion c.charSpan .lineStart) c.advance)
  else if char = '$' then .ok (s.add (.assertion c.charSpan .lineEnd) c.advance)
  else .ok (s.add (.literal c.charSpan .plain char) c.advance)

/-- Read on to the end of the text. -/
def State.run : Nat → State → Except Fault Tree
  | 0, s => s.finish
  | fuel + 1, s =>
    let s := { s with cursor := s.cursor.skipBlanks }
    match s.cursor.char? with
    | none => s.finish
    | some char => do State.run fuel (← s.next char)

/-- The tree of a pattern, however deep. -/
def Tree.read (pattern : List Char) : Except Fault Tree :=
  State.run pattern.length ⟨[], [], 0, [], ⟨pattern, 0, false⟩⟩

/-- The tree of a pattern that nests no deeper than allowed. -/
def Tree.parse (pattern : List Char) : Except Fault Tree := do
  let tree ← Tree.read pattern
  match tree.tooDeep? nestLimit with
  | some span => .error ⟨.nestLimitExceeded nestLimit, span⟩
  | none => .ok tree

end ColumnChecks.Pattern
