import ColumnChecks.Pattern.Parser
import ColumnChecks.Pattern.Regex
import ColumnChecks.Unicode.Fold

/-!
# What a pattern means

The tree of a pattern becomes a `Regex`: classes become sets, flags are applied
to what follows them, groups lose their names. Flags that are set in
parentheses of their own hold for the rest of the group, across the branches of
an alternation.

Some patterns have no meaning: those that ask for an unknown Unicode class, and
those that, with Unicode turned off, could match a piece of a character.
-/

namespace ColumnChecks.Pattern

open Text

/-- The flags that bear on meaning. -/
structure Flags where
  ignoreCase : Bool := false
  multiLine : Bool := false
  dotMatchesNewLine : Bool := false
  unicode : Bool := true
  carriageReturn : Bool := false
  deriving DecidableEq, Repr

/-- The flags after a list of items has been applied. -/
def Flags.apply (flags : Flags) (items : List FlagItem) : Flags where
  ignoreCase := (flagState? .ignoreCase items).getD flags.ignoreCase
  multiLine := (flagState? .multiLine items).getD flags.multiLine
  dotMatchesNewLine := (flagState? .dotMatchesNewLine items).getD flags.dotMatchesNewLine
  unicode := (flagState? .unicode items).getD flags.unicode
  carriageReturn := (flagState? .carriageReturn items).getD flags.carriageReturn

/-! ### Sets of characters -/

/-- Names that are categories although a property shares them. -/
def categoryFirst : List String := ["cf", "sc", "lc"]

/-- The class with a name of its own. -/
def namedClass? (name : String) : Option CharSet :=
  let property := if categoryFirst.contains name then none else Unicode.property? name
  property.or ((Unicode.category? name).or (Unicode.script? name))

/-- The class of the characters with a value of a property. The values of a
property that has none of the names below are not known. -/
def valueClass (property value : String) : Except FaultKind CharSet :=
  let known := fun (names : List String) (find : String → Option CharSet) =>
    if names.contains property then some (find value) else none
  let found := (known ["gc", "generalcategory"] Unicode.category?).or <|
    (known ["sc", "script"] Unicode.script?).or <|
    (known ["scx", "scriptextensions"] Unicode.scriptExtension?).or <|
    (known ["age"] Unicode.age?).or <|
    (known ["gcb", "graphemeclusterbreak"] (Unicode.find? Unicode.graphemeBreakTable)).or <|
    (known ["wb", "wordbreak"] (Unicode.find? Unicode.wordBreakTable)).or <|
    known ["sb", "sentencebreak"] (Unicode.find? Unicode.sentenceBreakTable)
  match found with
  | none => .error .propertyNotFound
  | some none => .error .propertyValueNotFound
  | some (some set) => .ok set

/-- The class that a query asks for. -/
def PropertyQuery.find : PropertyQuery → Except FaultKind CharSet
  | .letter name =>
    match namedClass? (Unicode.looseName [name]) with
    | some set => .ok set
    | none => .error .propertyNotFound
  | .named name =>
    match namedClass? (Unicode.looseName name) with
    | some set => .ok set
    | none => .error .propertyNotFound
  | .valued property value _ => valueClass (Unicode.looseName property) (Unicode.looseName value)

/-- The characters of a named ASCII class. -/
def AsciiClass.chars : AsciiClass → CharSet
  | .alnum => ⟨[(0x30, 0x39), (0x41, 0x5A), (0x61, 0x7A)]⟩
  | .alpha => ⟨[(0x41, 0x5A), (0x61, 0x7A)]⟩
  | .ascii => ⟨[(0x00, 0x7F)]⟩
  | .blank => ⟨[(0x09, 0x09), (0x20, 0x20)]⟩
  | .cntrl => ⟨[(0x00, 0x1F), (0x7F, 0x7F)]⟩
  | .digit => ⟨[(0x30, 0x39)]⟩
  | .graph => ⟨[(0x21, 0x7E)]⟩
  | .lower => ⟨[(0x61, 0x7A)]⟩
  | .print => ⟨[(0x20, 0x7E)]⟩
  | .punct => ⟨[(0x21, 0x2F), (0x3A, 0x40), (0x5B, 0x60), (0x7B, 0x7E)]⟩
  | .space => ⟨[(0x09, 0x0D), (0x20, 0x20)]⟩
  | .upper => ⟨[(0x41, 0x5A)]⟩
  | .word => asciiWord
  | .xdigit => ⟨[(0x30, 0x39), (0x41, 0x46), (0x61, 0x66)]⟩

/-- The characters of a class with a letter, under Unicode rules or not. -/
def LetterClass.chars (unicode : Bool) : LetterClass → CharSet
  | .digit => if unicode then Unicode.digits else ⟨[(0x30, 0x39)]⟩
  | .space => if unicode then blanks else ⟨[(0x09, 0x0D), (0x20, 0x20)]⟩
  | .word => if unicode then Unicode.wordCharacters else asciiWord

namespace Flags

/-- A set together with the other case of its letters, if case is ignored. -/
def fold (flags : Flags) (s : CharSet) : CharSet :=
  if flags.ignoreCase then (if flags.unicode then Unicode.foldCase s else Unicode.foldAsciiCase s)
  else s

/-- Negate a set if asked to. Without Unicode, what is not in a set includes
pieces of characters. -/
def negate (flags : Flags) (span : Span) (negated : Bool) (s : CharSet) :
    Except Fault CharSet :=
  if negated then
    if flags.unicode then .ok s.complement else .error ⟨.invalidUtf8, span⟩
  else if flags.unicode || s.isAscii then .ok s
  else .error ⟨.invalidUtf8, span⟩

/-- The set of a Unicode class. -/
def property (flags : Flags) (span : Span) (negated : Bool) (query : PropertyQuery) :
    Except Fault CharSet :=
  if flags.unicode then
    match query.find with
    | .ok s => flags.negate span negated (flags.fold s)
    | .error kind => .error ⟨kind, span⟩
  else .error ⟨.unicodeNotAllowed, span⟩

/-- The set of a class with a letter; it has both cases of its letters. -/
def letter (flags : Flags) (span : Span) (kind : LetterClass) (negated : Bool) :
    Except Fault CharSet :=
  flags.negate span negated (kind.chars flags.unicode)

/-- A single character. Without Unicode, two hexadecimal digits denote a byte,
and a byte past ASCII is a piece of a character. -/
def scalar (flags : Flags) (span : Span) (spelling : Spelling) (char : Char) :
    Except Fault Char :=
  if !flags.unicode && spelling = .hexTwo && 0x7F < char.toNat then .error ⟨.invalidUtf8, span⟩
  else .ok char

/-- A single character inside brackets; without Unicode it must be ASCII. -/
def classScalar (flags : Flags) (span : Span) (spelling : Spelling) (char : Char) :
    Except Fault Char := do
  let char ← flags.scalar span spelling char
  if !flags.unicode && 0x7F < char.toNat then .error ⟨.unicodeNotAllowed, span⟩
  else .ok char

end Flags

/-- The set that an operation makes of two sets. -/
def SetOperation.apply : SetOperation → CharSet → CharSet → CharSet
  | .intersection => CharSet.inter
  | .difference => CharSet.diff
  | .symmetricDifference => CharSet.symmDiff

mutual

/-- The set that the contents of a bracket expression denote. -/
def ClassSet.chars (flags : Flags) : ClassSet → Except Fault CharSet
  | .empty _ => .ok .empty
  | .literal span spelling char => do
    .ok (.singleton (← flags.classScalar span spelling char))
  | .range _ low high => do
    let lo ← flags.classScalar low.1 low.2.1 low.2.2
    let hi ← flags.classScalar high.1 high.2.1 high.2.2
    .ok (.range lo hi)
  | .ascii span kind negated => flags.negate span negated (flags.fold kind.chars)
  | .property span negated query => flags.property span negated query
  | .letter span kind negated => flags.letter span kind negated
  | .bracketed span negated set => do flags.negate span negated (flags.fold (← set.chars flags))
  | .union _ items => ClassSet.unionChars flags items
  | .binary _ op left right => do
    let left ← left.chars flags
    let right ← right.chars flags
    .ok (op.apply (flags.fold left) (flags.fold right))

/-- The union of the sets of some items. -/
def ClassSet.unionChars (flags : Flags) : List ClassSet → Except Fault CharSet
  | [] => .ok .empty
  | item :: items => do
    let first ← item.chars flags
    let others ← ClassSet.unionChars flags items
    .ok (first.union others)

end

/-! ### Expressions -/

/-- The characters that a dot stands for. -/
def Flags.dot (flags : Flags) : CharSet :=
  if flags.dotMatchesNewLine then .all
  else
    let ends := if flags.carriageReturn then CharSet.ofIntervals [(0xA, 0xA), (0xD, 0xD)]
      else .singleton '\n'
    ends.complement

/-- The condition that an assertion states. -/
def Flags.look (flags : Flags) : Assertion → Look
  | .lineStart => if flags.multiLine then .lineStart flags.carriageReturn else .textStart
  | .lineEnd => if flags.multiLine then .lineEnd flags.carriageReturn else .textEnd
  | .textStart => .textStart
  | .textEnd => .textEnd
  | .wordBoundary => .boundary .either flags.unicode
  | .notWordBoundary => .boundary .neither flags.unicode
  | .wordStart | .wordStartAngle => .boundary .wordStart flags.unicode
  | .wordEnd | .wordEndAngle => .boundary .wordEnd flags.unicode
  | .wordStartHalf => .boundary .startHalf flags.unicode
  | .wordEndHalf => .boundary .endHalf flags.unicode

/-- A single character, or the set of its cases if case is ignored. -/
def Flags.literal (flags : Flags) (char : Char) : Regex :=
  .set (flags.fold (.singleton char))

mutual

/-- The meaning of a pattern under some flags, and the flags after it. -/
def Tree.meaning (flags : Flags) : Tree → Except Fault (Regex × Flags)
  | .empty _ => .ok (.empty, flags)
  | .setFlags _ items => .ok (.empty, flags.apply items)
  | .literal span spelling char => do
    .ok (flags.literal (← flags.scalar span spelling char), flags)
  | .dot span =>
    if flags.unicode then .ok (.set flags.dot, flags) else .error ⟨.invalidUtf8, span⟩
  | .assertion _ kind => .ok (.look (flags.look kind), flags)
  | .property span negated query => do .ok (.set (← flags.property span negated query), flags)
  | .letter span kind negated => do .ok (.set (← flags.letter span kind negated), flags)
  | .bracketed span negated set => do
    .ok (.set (← flags.negate span negated (flags.fold (← set.chars flags))), flags)
  | .repetition _ count _ body => do
    let (r, after) ← body.meaning flags
    .ok (.repeated r count.min count.max, after)
  | .group _ kind body => do
    let inside := match kind with
      | .flags items => flags.apply items
      | _ => flags
    let (r, _) ← body.meaning inside
    let r := match kind with
      | .flags _ => r
      | _ => .capture r
    .ok (r, flags)
  | .alternation _ branches => do
    let (rs, after) ← Tree.meanings flags branches
    .ok (.choice rs, after)
  | .concat _ parts => do
    let (rs, after) ← Tree.meanings flags parts
    .ok (.sequence rs, after)

/-- The meanings of some patterns, each under the flags that the one before
leaves. -/
def Tree.meanings (flags : Flags) : List Tree → Except Fault (List Regex × Flags)
  | [] => .ok ([], flags)
  | tree :: trees => do
    let (r, after) ← tree.meaning flags
    let (rs, final) ← Tree.meanings after trees
    .ok (r :: rs, final)

end

/-! ### Whole patterns -/

/-- The expression of a pattern, case ignored or not. -/
def expression (ignoreCase : Bool) (pattern : String) : Except Fault Regex := do
  let tree ← Tree.parse pattern.toList
  let (r, _) ← tree.meaning { ignoreCase := ignoreCase }
  .ok r

end ColumnChecks.Pattern
