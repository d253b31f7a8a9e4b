import ColumnChecks.Pattern.Fault

/-!
# The parts of a pattern

A pattern is read into a tree that keeps every choice its author made: how a
character was spelled, whether a group has a name, which flags it sets. What the
pattern matches is decided later, from the tree.

Each node knows the stretch of the text it was read from.
-/

namespace ColumnChecks.Pattern

/-- How a single character is spelled. -/
inductive Spelling where
  /-- As itself. -/
  | plain
  /-- After a backslash, because it means something else without one. -/
  | escaped
  /-- After a backslash that changes nothing. -/
  | superfluous
  /-- As two hexadecimal digits. -/
  | hexTwo
  /-- As four or eight hexadecimal digits. -/
  | hexLong
  /-- As hexadecimal digits in braces. -/
  | hexBraced
  /-- As the letter of a control character. -/
  | control
  deriving DecidableEq, Repr

/-- The flags that a pattern can set. -/
inductive Flag where
  | ignoreCase
  | multiLine
  | dotMatchesNewLine
  | swapGreed
  | unicode
  | carriageReturn
  | ignoreBlanks
  deriving DecidableEq, Repr

/-- An item in a list of flags: a flag, or the sign that turns the flags after
it off. -/
inductive FlagItem where
  | flag (f : Flag)
  | negation
  deriving DecidableEq, Repr

/-- Conditions on a place in the text. -/
inductive Assertion where
  | lineStart
  | lineEnd
  | textStart
  | textEnd
  | wordBoundary
  | notWordBoundary
  | wordStart
  | wordEnd
  | wordStartAngle
  | wordEndAngle
  | wordStartHalf
  | wordEndHalf
  deriving DecidableEq, Repr

/-- The classes with a letter of their own. -/
inductive LetterClass where
  | digit
  | space
  | word
  deriving DecidableEq, Repr

/-- The named ASCII classes of bracket expressions. -/
inductive AsciiClass where
  | alnum | alpha | ascii | blank | cntrl | digit | graph
  | lower | print | punct | space | upper | word | xdigit
  deriving DecidableEq, Repr

/-- How a Unicode class is asked for. -/
inductive PropertyQuery where
  | letter (name : Char)
  | named (name : List Char)
  /-- A property, its value, and whether the two are set apart by `!=`. -/
  | valued (name value : List Char) (unequal : Bool)
  deriving DecidableEq, Repr

/-- The operations on bracket expressions. -/
inductive SetOperation where
  | intersection
  | difference
  | symmetricDifference
  deriving DecidableEq, Repr

/-- The contents of a bracket expression. -/
inductive ClassSet where
  | empty (span : Span)
  | literal (span : Span) (spelling : Spelling) (char : Char)
  | range (span : Span) (low : Span × Spelling × Char) (high : Span × Spelling × Char)
  | ascii (span : Span) (kind : AsciiClass) (negated : Bool)
  | property (span : Span) (negated : Bool) (query : PropertyQuery)
  | letter (span : Span) (kind : LetterClass) (negated : Bool)
  | bracketed (span : Span) (negated : Bool) (set : ClassSet)
  | union (span : Span) (items : List ClassSet)
  | binary (span : Span) (op : SetOperation) (left right : ClassSet)
  deriving Repr, Inhabited

def ClassSet.span : ClassSet → Span
  | .empty s | .literal s _ _ | .range s _ _ | .ascii s _ _ | .property s _ _
  | .letter s _ _ | .bracketed s _ _ | .union s _ | .binary s _ _ _ => s

/-- What a group is for. -/
inductive GroupKind where
  | capture
  | named (name : List Char)
  | flags (items : List FlagItem)
  deriving DecidableEq, Repr

/-- How often a part is repeated: at least `min` times, and at most `max` times
if there is a limit. -/
structure Repetition where
  min : Nat
  max : Option Nat
  deriving DecidableEq, Repr

/-- A pattern as it was written. -/
inductive Tree where
  | empty (span : Span)
  | setFlags (span : Span) (items : List FlagItem)
  | literal (span : Span) (spelling : Spelling) (char : Char)
  | dot (span : Span)
  | assertion (span : Span) (kind : Assertion)
  | property (span : Span) (negated : Bool) (query : PropertyQuery)
  | letter (span : Span) (kind : LetterClass) (negated : Bool)
  | bracketed (span : Span) (negated : Bool) (set : ClassSet)
  | repetition (span : Span) (count : Repetition) (greedy : Bool) (body : Tree)
  | group (span : Span) (kind : GroupKind) (body : Tree)
  | alternation (span : Span) (branches : List Tree)
  | concat (span : Span) (parts : List Tree)
  deriving Repr, Inhabited

def Tree.span : Tree → Span
  | .empty s | .setFlags s _ | .literal s _ _ | .dot s | .assertion s _ | .property s _ _
  | .letter s _ _ | .bracketed s _ _ | .repetition s _ _ _ | .group s _ _
  | .alternation s _ | .concat s _ => s

/-! ### Nesting -/

mutual

/-- The stretch of the first part, in reading order, that lies deeper than a
limit. Single characters and classes without brackets take no depth. -/
def ClassSet.tooDeep? (limit : Nat) : ClassSet → Option Span
  | .bracketed span _ set => if limit = 0 then some span else set.tooDeep? (limit - 1)
  | .union span items => if limit = 0 then some span else ClassSet.anyTooDeep? (limit - 1) items
  | .binary span _ left right =>
    if limit = 0 then some span
    else (left.tooDeep? (limit - 1)).or (right.tooDeep? (limit - 1))
  | _ => none

/-- The first such stretch in a list of items. -/
def ClassSet.anyTooDeep? (limit : Nat) : List ClassSet → Option Span
  | [] => none
  | item :: items => (item.tooDeep? limit).or (ClassSet.anyTooDeep? limit items)

end

mutual

/-- The stretch of the first part, in reading order, that lies deeper than a
limit. -/
def Tree.tooDeep? (limit : Nat) : Tree → Option Span
  | .bracketed span _ set => if limit = 0 then some span else set.tooDeep? (limit - 1)
  | .repetition span _ _ body | .group span _ body =>
    if limit = 0 then some span else body.tooDeep? (limit - 1)
  | .alternation span parts | .concat span parts =>
    if limit = 0 then some span else Tree.anyTooDeep? (limit - 1) parts
  | _ => none

/-- The first such stretch in a list of parts. -/
def Tree.anyTooDeep? (limit : Nat) : List Tree → Option Span
  | [] => none
  | part :: parts => (part.tooDeep? limit).or (Tree.anyTooDeep? limit parts)

end

/-- The greatest depth that a pattern may have. -/
def nestLimit : Nat := 250

end ColumnChecks.Pattern
