import Mathlib.Tactic.Common
import ColumnChecks.Pattern.Parser
import ColumnChecks.Pattern.Portable

/-!
# The unshared constructs of a pattern

Which constructs a pattern has is a matter of its tree
(`ColumnChecks.Pattern.Tree.constructs`). The names of word boundaries and the
negated forms of classes are no constructs of their own; a bracket expression is one
inside another only; and the group `(?:` sets no flags and is none. The angles `\<`
and `\>` are not spelled with a `b` and do not count.

**The same can be asked of the text**, if brackets are followed the way they are read
(`ColumnChecks.Pattern.firstConstruct?`). This differs from the quick scan of
`ColumnChecks.Pattern.unshared?` in what it takes for an item of a bracket
expression. A bracket with a colon behind it is a named class only if the name is
one; a bracket behind the hyphen of a range is an ordinary character; and signs are
operations where an item may start, and nowhere else.
-/

namespace ColumnChecks.Pattern

/-! ### In the tree -/

def Spelling.constructs : Spelling → List Construct
  | .hexBraced => [.bracedEscape]
  | _ => []

def Assertion.constructs : Assertion → List Construct
  | .textEnd => [.textEnd]
  | .wordBoundary | .notWordBoundary | .wordStart | .wordEnd | .wordStartHalf | .wordEndHalf =>
    [.wordBoundary]
  | _ => []

def GroupKind.constructs : GroupKind → List Construct
  | .capture => []
  | .named _ => [.namedGroup]
  | .flags items => if items = [] then [] else [.inlineFlags]

mutual

/-- The constructs inside a bracket expression. -/
def ClassSet.constructs : ClassSet → List Construct
  | .empty _ | .ascii _ _ _ | .letter _ _ _ => []
  | .literal _ spelling _ => spelling.constructs
  | .range _ low high => low.2.1.constructs ++ high.2.1.constructs
  | .property _ _ _ => [.propertyClass]
  | .bracketed _ _ set => .nestedClass :: set.constructs
  | .union _ items => ClassSet.constructsOf items
  | .binary _ _ left right => .setOperation :: (left.constructs ++ right.constructs)

/-- The constructs of several items. -/
def ClassSet.constructsOf : List ClassSet → List Construct
  | [] => []
  | item :: items => item.constructs ++ ClassSet.constructsOf items

end

mutual

/-- **The constructs of a pattern** that the database's engine does not share. -/
def Tree.constructs : Tree → List Construct
  | .empty _ | .dot _ | .letter _ _ _ => []
  | .setFlags _ _ => [.inlineFlags]
  | .literal _ spelling _ => spelling.constructs
  | .assertion _ kind => kind.constructs
  | .property _ _ _ => [.propertyClass]
  | .bracketed _ _ set => set.constructs
  | .repetition _ _ _ body => body.constructs
  | .group _ kind body => kind.constructs ++ body.constructs
  | .alternation _ branches => Tree.constructsOf branches
  | .concat _ parts => Tree.constructsOf parts

/-- The constructs of several parts. -/
def Tree.constructsOf : List Tree → List Construct
  | [] => []
  | part :: parts => part.constructs ++ Tree.constructsOf parts

end

/-! ### In the text -/

/-- How many hexadecimal digits there are at the front, at most so many. -/
def hexLength (limit : Nat) (cs : List Char) : Nat := ((cs.take limit).takeWhile isHexDigit).length

/-- How much an escape sequence takes; the text is what follows the backslash. -/
def escapeLength : List Char → Nat
  | 'x' :: rest => 1 + hexLength 2 rest
  | 'u' :: rest => 1 + hexLength 4 rest
  | 'U' :: rest => 1 + hexLength 8 rest
  | _ => 1

/-- How much of the text belongs to a character in front of it. -/
def primitiveLength (c : Char) (rest : List Char) : Nat := if c = '\\' then escapeLength rest else 0

/-- The construct that a character is, with the text behind it. -/
def primitiveConstruct? (c : Char) (rest : List Char) : Option Construct :=
  if c = '\\' then escapedConstruct? rest else none

/-- How much stands for itself at the start of a bracket expression: hyphens, or a
closing bracket. -/
def leadingLength (cs : List Char) : Nat :=
  let hyphens := (cs.takeWhile (· == '-')).length
  if hyphens = 0 ∧ cs.head? = some ']' then 1 else hyphens

/-- How much belongs to an opening bracket: the sign of a negation, and what stands
for itself. -/
def openingLength (rest : List Char) : Nat :=
  if rest.head? = some '^' then leadingLength rest.tail + 1 else leadingLength rest

/-- How much the name of a class takes with the signs behind it, if it is one. -/
def asciiNameLength? (cs : List Char) : Option Nat :=
  let name := cs.takeWhile (· != ':')
  if (asciiClassOfName? (String.ofList name)).isSome
      && [':', ']'].isPrefixOf (cs.drop name.length) then some (name.length + 2)
  else none

/-- How much belongs to a bracket that starts a named class, if it does. -/
def asciiLength? : List Char → Option Nat
  | ':' :: rest =>
    if rest.head? = some '^' then (asciiNameLength? rest.tail).map (· + 2)
    else (asciiNameLength? rest).map (· + 1)
  | _ => none

/-- The upper end of a range, with the text behind it. A hyphen makes no range before
a closing bracket or another hyphen. -/
def rangeEnd? : List Char → Option (Char × List Char)
  | '-' :: d :: rest => if d = ']' ∨ d = '-' then none else some (d, rest)
  | _ => none

/-- How much belongs to the character that an item starts with. -/
def itemLength (c : Char) (rest : List Char) : Nat :=
  let low := primitiveLength c rest
  match rangeEnd? (rest.drop low) with
  | some (d, more) => low + 2 + primitiveLength d more
  | none => low

/-- The construct of an item. Whether a bracket may end a range is left open. -/
def itemConstruct? (bracketEnds : Bool) (c : Char) (rest : List Char) : Option Construct :=
  (primitiveConstruct? c rest).or <|
    match rangeEnd? (rest.drop (primitiveLength c rest)) with
    | some (d, more) =>
      if d = '[' then if bracketEnds then none else some .nestedClass
      else primitiveConstruct? d more
    | none => none

/-- The construct that an opening parenthesis starts. -/
def parenthesisConstruct? (rest : List Char) : Option Construct :=
  if rest.head? = some '?' then groupConstruct? rest.tail else none

/-- **The first construct of a text**, outside or inside a bracket expression. -/
def firstConstruct? (bracketEnds : Bool) : Bool → List Char → Option Construct
  | _, [] => none
  | false, c :: rest =>
    if c = '\\' then
      (escapedConstruct? rest).or
        (firstConstruct? bracketEnds false (rest.drop (escapeLength rest)))
    else if c = '[' then firstConstruct? bracketEnds true (rest.drop (openingLength rest))
    else if c = '(' then (parenthesisConstruct? rest).or (firstConstruct? bracketEnds false rest)
    else firstConstruct? bracketEnds false rest
  | true, c :: rest =>
    if c = '[' then
      match asciiLength? rest with
      | some length => firstConstruct? bracketEnds true (rest.drop length)
      | none => some .nestedClass
    else if c = ']' then firstConstruct? bracketEnds false rest
    else if (c = '&' ∨ c = '-' ∨ c = '~') ∧ rest.head? = some c then some .setOperation
    else (itemConstruct? bracketEnds c rest).or
      (firstConstruct? bracketEnds true (rest.drop (itemLength c rest)))
termination_by _ cs => cs.length

section

variable (bracketEnds : Bool)

theorem firstConstruct?_nil (inside : Bool) : firstConstruct? bracketEnds inside [] = none := by
  cases inside <;> rw [firstConstruct?]

theorem firstConstruct?_backslash (rest : List Char) :
    firstConstruct? bracketEnds false ('\\' :: rest) =
      (escapedConstruct? rest).or
        (firstConstruct? bracketEnds false (rest.drop (escapeLength rest))) := by
  rw [firstConstruct?, if_pos rfl]

theorem firstConstruct?_bracket (rest : List Char) :
    firstConstruct? bracketEnds false ('[' :: rest) =
      firstConstruct? bracketEnds true (rest.drop (openingLength rest)) := by
  rw [firstConstruct?, if_neg (by decide), if_pos rfl]

theorem firstConstruct?_parenthesis (rest : List Char) :
    firstConstruct? bracketEnds false ('(' :: rest) =
      (parenthesisConstruct? rest).or (firstConstruct? bracketEnds false rest) := by
  rw [firstConstruct?, if_neg (by decide), if_neg (by decide), if_pos rfl]

theorem firstConstruct?_ascii {rest : List Char} {length : Nat}
    (h : asciiLength? rest = some length) :
    firstConstruct? bracketEnds true ('[' :: rest) =
      firstConstruct? bracketEnds true (rest.drop length) := by
  rw [firstConstruct?, if_pos rfl, h]

theorem firstConstruct?_nested {rest : List Char} (h : asciiLength? rest = none) :
    firstConstruct? bracketEnds true ('[' :: rest) = some .nestedClass := by
  rw [firstConstruct?, if_pos rfl, h]

theorem firstConstruct?_close (rest : List Char) :
    firstConstruct? bracketEnds true (']' :: rest) = firstConstruct? bracketEnds false rest := by
  rw [firstConstruct?, if_neg (by decide), if_pos rfl]

theorem firstConstruct?_doubled {c : Char} {rest : List Char}
    (h : (c = '&' ∨ c = '-' ∨ c = '~') ∧ rest.head? = some c) :
    firstConstruct? bracketEnds true (c :: rest) = some .setOperation := by
  rw [firstConstruct?, if_neg, if_neg, if_pos h]
  all_goals
    rintro rfl
    exact absurd h.1 (by decide)

theorem firstConstruct?_item {c : Char} {rest : List Char} (hopen : c ≠ '[') (hclose : c ≠ ']')
    (h : ¬((c = '&' ∨ c = '-' ∨ c = '~') ∧ rest.head? = some c)) :
    firstConstruct? bracketEnds true (c :: rest) =
      (itemConstruct? bracketEnds c rest).or
        (firstConstruct? bracketEnds true (rest.drop (itemLength c rest))) := by
  rw [firstConstruct?, if_neg hopen, if_neg hclose, if_neg h]

end

end ColumnChecks.Pattern
