import ColumnChecks.Pattern.Escape
import ColumnChecks.Unicode.Class

/-!
# Openings of groups

What stands between an opening parenthesis and the contents of its group says
whether the group captures, has a name, or sets flags. Flags may also stand in
parentheses of their own; they then hold up to the end of the group around them.
-/

namespace ColumnChecks.Pattern

/-- What an opening parenthesis turns out to be. -/
inductive Opening where
  /-- The start of a group. -/
  | group (kind : GroupKind)
  /-- Flags in parentheses of their own. -/
  | flags (items : List FlagItem)
  deriving Repr

/-- The group names read so far with their stretches, first group first. -/
abbrev GroupNames := List (List Char × Span)

/-! ### Flags -/

/-- The flag with a letter. -/
def flagOfLetter? (letter : Char) : Option Flag :=
  if letter = 'i' then some .ignoreCase
  else if letter = 'm' then some .multiLine
  else if letter = 's' then some .dotMatchesNewLine
  else if letter = 'U' then some .swapGreed
  else if letter = 'u' then some .unicode
  else if letter = 'R' then some .carriageReturn
  else if letter = 'x' then some .ignoreBlanks
  else none

/-- The stretch of the first occurrence of an item in a list of flags. -/
def earlierFlag? (item : FlagItem) (seen : List (FlagItem × Span)) : Option Span :=
  (seen.find? fun entry => entry.1 = item).map (·.2)

/-- Read flags up to a colon or a closing parenthesis. `seen` holds the items
read so far in their order, and `dangling` the stretch of a negation that no
flag has followed yet. -/
def flagItems : Nat → List (FlagItem × Span) → Option Span → Cursor →
    Except Fault (List FlagItem × Cursor)
  | 0, _, _, c => .error ⟨.flagUnexpectedEnd, c.here⟩
  | fuel + 1, seen, dangling, c => do
    match c.char? with
    | none => .error ⟨.flagUnexpectedEnd, c.here⟩
    | some letter =>
      if letter = ':' ∨ letter = ')' then
        match dangling with
        | some span => .error ⟨.flagDanglingNegation, span⟩
        | none => .ok (seen.map (·.1), c)
      else
        let item ← if letter = '-' then .ok .negation
          else match flagOfLetter? letter with
            | some flag => .ok (.flag flag)
            | none => .error ⟨.flagUnrecognized, c.charSpan⟩
        match earlierFlag? item seen with
        | some earlier =>
          .error ⟨if item = .negation then .flagRepeatedNegation earlier
            else .flagDuplicate earlier, c.charSpan⟩
        | none =>
          flagItems fuel (seen ++ [(item, c.charSpan)])
            (if item = .negation then some c.charSpan else none) c.advance

/-- What the items of a list say about a flag, if they name it. -/
def flagState? (flag : Flag) (items : List FlagItem) : Option Bool :=
  let before := items.takeWhile (· != .flag flag)
  if before.length = items.length then none else some (!before.contains .negation)

/-! ### Names -/

/-- Whether a group name may contain a character, as its first one or later. -/
def isNameChar (first : Bool) (c : Char) : Bool :=
  if first then c == '_' || Unicode.alphabetic.contains c
  else c == '_' || c == '.' || c == '[' || c == ']' || Unicode.alphabetic.contains c
    || Unicode.numeric.contains c

/-- The characters of a group name, and the place behind them. -/
def nameChars (first : Bool) : Nat → Cursor → Except Fault (List Char × Cursor)
  | 0, c => .error ⟨.groupNameUnexpectedEnd, c.here⟩
  | fuel + 1, c =>
    match c.char? with
    | none => .error ⟨.groupNameUnexpectedEnd, c.here⟩
    | some '>' => .ok ([], c)
    | some char =>
      if isNameChar first char then do
        let (rest, final) ← nameChars false fuel c.advance
        .ok (char :: rest, final)
      else .error ⟨.groupNameInvalid, c.charSpan⟩

/-- A group name up to its closing angle. It must be new. -/
def groupName (names : GroupNames) (c : Cursor) : Except Fault (List Char × Span × Cursor) := do
  let (name, final) ← nameChars true (c.rest.length + 1) c
  let span := final.since c.offset
  if name.isEmpty then .error ⟨.groupNameEmpty, span⟩
  match names.find? fun entry => entry.1 = name with
  | some entry => .error ⟨.groupNameDuplicate entry.2, span⟩
  | none => .ok (name, span, final.advance)

/-! ### Openings -/

/-- How much of the text is the sign of a look-around assertion. -/
def lookAroundLength (c : Cursor) : Nat :=
  if c.startsWith ['?', '='] || c.startsWith ['?', '!'] then 2
  else if c.startsWith ['?', '<', '='] || c.startsWith ['?', '<', '!'] then 3
  else 0

/-- Read an opening parenthesis and what belongs to it. -/
def opening (names : GroupNames) (c : Cursor) : Except Fault (Opening × GroupNames × Cursor) := do
  let start := c.offset
  let openSpan := c.charSpan
  let c := c.step
  let look := lookAroundLength c
  if look != 0 then .error ⟨.lookAround, (c.skip look).since start⟩
  let nameStart := if c.startsWith ['?', 'P', '<'] then 3
    else if c.startsWith ['?', '<'] then 2 else 0
  if nameStart != 0 then
    let (name, span, behind) ← groupName names (c.skip nameStart)
    .ok (.group (.named name), names ++ [(name, span)], behind)
  else if c.char? = some '?' then
    let inner := c.here
    let c := c.advance
    if c.atEnd then .error ⟨.groupUnclosed, openSpan⟩
    let (items, final) ← flagItems (c.rest.length + 1) [] none c
    if final.char? = some ')' then
      if items.isEmpty then .error ⟨.repetitionMissing, inner⟩
      .ok (.flags items, names, final.advance)
    else .ok (.group (.flags items), names, final.advance)
  else .ok (.group .capture, names, c)

end ColumnChecks.Pattern
