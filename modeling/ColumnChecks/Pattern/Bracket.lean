import ColumnChecks.Pattern.Escape

/-!
# Bracket expressions

A bracket expression lists characters, ranges and classes, may contain further
bracket expressions, and joins what it lists by `&&`, `--` and `~~`, which group
to the left. A closing bracket, or hyphens, right behind the opening one stand
for themselves.

The reader keeps the open brackets and operations in a stack of `ClassFrame`s,
innermost first, so that it moves through the text in one loop.
-/

namespace ColumnChecks.Pattern

/-- What a bracket expression is waiting for. -/
inductive ClassFrame where
  /-- An open bracket: the items before it, whether it negates, and the stretch
  of what opened it. -/
  | opened (before : List ClassSet) (start : Nat) (span : Span) (negated : Bool)
  /-- An operation whose right operand is being read. -/
  | operation (op : SetOperation) (left : ClassSet)

/-- Items as a set; they are given last first. -/
def ClassSet.ofItems (start : Nat) : List ClassSet → ClassSet
  | [] => .empty (.at start)
  | [item] => item
  | items =>
    let first := (items.getLast?.map (·.span.start)).getD start
    let last := (items.head?.map (·.span.stop)).getD start
    .union ⟨first, last⟩ items.reverse

/-- Complete the operation at the top of the stack with its right operand. -/
def closeOperation (right : ClassSet) : List ClassFrame → ClassSet × List ClassFrame
  | .operation op left :: frames =>
    (.binary ⟨left.span.start, right.span.stop⟩ op left right, frames)
  | frames => (right, frames)

/-- The fault of an expression whose text ends inside brackets. -/
def unclosed (c : Cursor) : List ClassFrame → Fault
  | .opened _ _ span _ :: _ => ⟨.classUnclosed, span⟩
  | _ :: frames => unclosed c frames
  | [] => ⟨.classUnclosed, c.here⟩

/-! ### Opening -/

/-- Hyphens that stand for themselves, last first. -/
def leadingHyphens (start : Nat) : Nat → List ClassSet → Cursor →
    Except Fault (List ClassSet × Cursor)
  | 0, items, c => .ok (items, c)
  | fuel + 1, items, c =>
    if c.char? = some '-' then
      let items := .literal c.charSpan .plain '-' :: items
      if c.step.atEnd then .error ⟨.classUnclosed, .at start⟩
      else leadingHyphens start fuel items c.step
    else .ok (items, c)

/-- What an opening bracket brings: whether it negates, the items that stand for
themselves, where the items start, and the place behind. -/
def openBracket (c : Cursor) : Except Fault (Bool × List ClassSet × Nat × Cursor) := do
  let start := c.offset
  let c := c.step
  if c.atEnd then .error ⟨.classUnclosed, c.since start⟩
  let negated := c.char? == some '^'
  let c := if negated then c.step else c
  if c.atEnd then .error ⟨.classUnclosed, c.since start⟩
  let itemsStart := c.offset
  let (items, c) ← leadingHyphens start c.rest.length [] c
  if items.isEmpty && c.char? == some ']' then
    let items := [ClassSet.literal c.charSpan .plain ']']
    if c.step.atEnd then .error ⟨.classUnclosed, c.step.since start⟩
    .ok (negated, items, itemsStart, c.step)
  else .ok (negated, items, itemsStart, c)

/-! ### Named classes -/

/-- The ASCII classes by name. -/
def asciiClassOfName? (name : String) : Option AsciiClass :=
  match name with
  | "alnum" => some .alnum
  | "alpha" => some .alpha
  | "ascii" => some .ascii
  | "blank" => some .blank
  | "cntrl" => some .cntrl
  | "digit" => some .digit
  | "graph" => some .graph
  | "lower" => some .lower
  | "print" => some .print
  | "punct" => some .punct
  | "space" => some .space
  | "upper" => some .upper
  | "word" => some .word
  | "xdigit" => some .xdigit
  | _ => none

/-- A named ASCII class such as `[:alpha:]` at the cursor, if there is one. -/
def asciiClass? (c : Cursor) : Option (ClassSet × Cursor) :=
  if c.startsWith ['[', ':'] then
    let inside := c.skip 2
    let negated := inside.char? == some '^'
    let inside := if negated then inside.advance else inside
    let name := inside.rest.takeWhile (· != ':')
    let final := inside.skip name.length
    if final.startsWith [':', ']'] then
      let behind := final.skip 2
      (asciiClassOfName? (String.ofList name)).map fun kind =>
        (.ascii (behind.since c.offset) kind negated, behind)
    else none
  else none

/-! ### Items -/

/-- What stands at the cursor inside brackets, before it is known to be an end
of a range. -/
def classPrimitive (c : Cursor) (char : Char) : Except Fault (Escape × Cursor) :=
  if char = '\\' then escape c else .ok (.literal c.charSpan .plain char, c.advance)

/-- An escape sequence as an item of its own. -/
def Escape.toItem : Escape → Except Fault ClassSet
  | .literal span spelling char => .ok (.literal span spelling char)
  | .property span negated query => .ok (.property span negated query)
  | .letter span kind negated => .ok (.letter span kind negated)
  | .assertion span _ => .error ⟨.classEscapeInvalid, span⟩

/-- An escape sequence as an end of a range. -/
def Escape.toBound : Escape → Except Fault (Span × Spelling × Char)
  | .literal span spelling char => .ok (span, spelling, char)
  | other => .error ⟨.classRangeLiteral, other.span⟩

/-- A character, a class or a range. A hyphen makes a range unless a closing
bracket or another hyphen follows it. -/
def classItem (frames : List ClassFrame) (c : Cursor) (char : Char) :
    Except Fault (ClassSet × Cursor) := do
  let (low, c) ← classPrimitive c char
  let c := c.skipBlanks
  if c.atEnd then .error (unclosed c frames)
  if c.char? != some '-' || c.nextPastBlanks? == some ']' || c.nextPastBlanks? == some '-' then
    .ok (← low.toItem, c)
  else
    let c := c.step
    match c.char? with
    | none => .error (unclosed c frames)
    | some char =>
      let (high, c) ← classPrimitive c char
      let span := ⟨low.span.start, high.span.stop⟩
      let low ← low.toBound
      let high ← high.toBound
      if low.2.2 ≤ high.2.2 then .ok (.range span low high, c)
      else .error ⟨.classRangeInvalid, span⟩

/-- The operation written by two equal signs at the cursor. -/
def setOperation? (c : Cursor) (char : Char) : Option SetOperation :=
  if c.next? = some char then
    if char = '&' then some .intersection
    else if char = '-' then some .difference
    else if char = '~' then some .symmetricDifference
    else none
  else none

/-! ### The whole expression -/

/-- Read on inside brackets until the outermost one closes. The items read so
far are given last first. -/
def bracketLoop : Nat → List ClassFrame → List ClassSet → Nat → Cursor →
    Except Fault (Tree × Cursor)
  | 0, frames, _, _, c => .error (unclosed c frames)
  | fuel + 1, frames, items, start, c => do
    let c := c.skipBlanks
    match c.char? with
    | none => .error (unclosed c frames)
    | some '[' =>
      match asciiClass? c with
      | some (item, c) => bracketLoop fuel frames (item :: items) start c
      | none =>
        let (negated, inside, insideStart, behind) ← openBracket c
        bracketLoop fuel (.opened items start (behind.since c.offset) negated :: frames)
          inside insideStart behind
    | some ']' =>
      let (set, frames) := closeOperation (.ofItems start items) frames
      let behind := c.advance
      match frames with
      | [.opened _ _ span negated] => .ok (.bracketed (behind.since span.start) negated set, behind)
      | .opened before start span negated :: frames =>
        bracketLoop fuel frames (.bracketed (behind.since span.start) negated set :: before)
          start behind
      | _ => .error (unclosed c frames)
    | some char =>
      match setOperation? c char with
      | some op =>
        let (left, frames) := closeOperation (.ofItems start items) frames
        let behind := c.skip 2
        bracketLoop fuel (.operation op left :: frames) [] behind.offset behind
      | none =>
        let (item, c) ← classItem frames c char
        bracketLoop fuel frames (item :: items) start c

/-- The bracket expression at the cursor, which is at its opening bracket. -/
def bracket (c : Cursor) : Except Fault (Tree × Cursor) := do
  let (negated, items, start, behind) ← openBracket c
  bracketLoop (c.rest.length + 1) [.opened [] c.offset (behind.since c.offset) negated]
    items start behind

end ColumnChecks.Pattern
