import ColumnChecks.Pattern.Cursor
import ColumnChecks.Pattern.Tree
import ColumnChecks.Decimal.Reading

/-!
# Escape sequences

A backslash gives a letter a meaning, or takes the meaning of a sign away. What
a sequence stands for is the same inside and outside brackets, although only
some of them may stand inside.
-/

namespace ColumnChecks.Pattern

/-- What an escape sequence stands for. -/
inductive Escape where
  | literal (span : Span) (spelling : Spelling) (char : Char)
  | assertion (span : Span) (kind : Assertion)
  | property (span : Span) (negated : Bool) (query : PropertyQuery)
  | letter (span : Span) (kind : LetterClass) (negated : Bool)
  deriving Repr

def Escape.span : Escape → Span
  | .literal s _ _ | .assertion s _ | .property s _ _ | .letter s _ _ => s

/-- Signs that mean something unless they follow a backslash. -/
def isMeta (c : Char) : Bool :=
  ['\\', '.', '+', '*', '?', '(', ')', '|', '[', ']', '\x7b', '\x7d', '^', '$', '#', '&', '-',
    '~'].contains c

/-- Whether a backslash may stand before a sign that means nothing special. -/
def isEscapable (c : Char) : Bool :=
  c.toNat < 0x80 && !c.isAlphanum && c != '<' && c != '>'

def isHexDigit (c : Char) : Bool :=
  c.isDigit || ('a' ≤ c && c ≤ 'f') || ('A' ≤ c && c ≤ 'F')

/-- The number that a hexadecimal digit stands for. -/
def hexValue (c : Char) : Nat :=
  if c.isDigit then c.toNat - '0'.toNat
  else if c.isLower then c.toNat - 'a'.toNat + 10
  else c.toNat - 'A'.toNat + 10

/-- The character with a code, if there is one. -/
def charOfCode? (n : Nat) : Option Char :=
  if n.isValidChar then some (Char.ofNat n) else none

/-- The character that hexadecimal digits denote. -/
def charOfHex? (digits : List Char) : Option Char :=
  charOfCode? (digits.foldl (fun n d => n * 16 + hexValue d) 0)

/-! ### Hexadecimal characters -/

/-- Exactly so many hexadecimal digits. -/
def hexDigits (count : Nat) (c : Cursor) : Except Fault (List Char × Cursor) :=
  match count with
  | 0 => .ok ([], c)
  | count + 1 =>
    match c.char? with
    | none => .error ⟨.escapeUnexpectedEnd, c.here⟩
    | some d =>
      if isHexDigit d then do
        let (digits, final) ← hexDigits count c.step
        .ok (d :: digits, final)
      else .error ⟨.escapeHexInvalidDigit, c.charSpan⟩

/-- The character behind `\x`, `\u` or `\U`, which have two, four and eight
digits, or any number of them in braces. The cursor is at the letter, and the
backslash at `start`. -/
def hexEscape (start : Nat) (letter : Char) (c : Cursor) : Except Fault (Escape × Cursor) :=
  let c := c.step
  match c.char? with
  | none => .error ⟨.escapeUnexpectedEnd, c.here⟩
  | some '\x7b' =>
    let (digits, final) := c.step.takeWhile isHexDigit
    match final.char? with
    | none => .error ⟨.escapeUnexpectedEnd, final.since c.offset⟩
    | some '\x7d' =>
      let behind := final.step
      if digits.isEmpty then .error ⟨.escapeHexEmpty, behind.since c.offset⟩
      else
        match charOfHex? digits with
        | some char => .ok (.literal (behind.since start) .hexBraced char, behind)
        | none => .error ⟨.escapeHexInvalid, ⟨c.offset + 1, final.offset⟩⟩
    | some _ => .error ⟨.escapeHexInvalidDigit, final.charSpan⟩
  | some _ => do
    let count := if letter = 'x' then 2 else if letter = 'u' then 4 else 8
    let (digits, final) ← hexDigits count c
    match charOfHex? digits with
    | some char =>
      .ok (.literal (final.since start) (if letter = 'x' then .hexTwo else .hexLong) char, final)
    | none => .error ⟨.escapeHexInvalid, final.since c.offset⟩

/-! ### Unicode classes -/

/-- Cut a text before the first occurrence of `!=`. -/
def cutUnequal? : List Char → Option (List Char × List Char)
  | [] => none
  | '!' :: '=' :: rest => some ([], rest)
  | c :: rest => (cutUnequal? rest).map fun (name, value) => (c :: name, value)

/-- What the text between the braces of `\p` asks for. -/
def queryOfName (name : List Char) : PropertyQuery :=
  match cutUnequal? name with
  | some (property, value) => .valued property value true
  | none =>
    match Text.cutAt? (· = ':') name with
    | some (property, value) => .valued property value false
    | none =>
      match Text.cutAt? (· = '=') name with
      | some (property, value) => .valued property value false
      | none => .named name

/-- A Unicode class, with the cursor at the letter and the backslash at
`start`. -/
def propertyEscape (start : Nat) (negated : Bool) (c : Cursor) :
    Except Fault (Escape × Cursor) :=
  let c := c.step
  match c.char? with
  | none => .error ⟨.escapeUnexpectedEnd, c.here⟩
  | some '\x7b' =>
    let (name, final) := c.step.takeWhile (· != '\x7d')
    if final.atEnd then .error ⟨.escapeUnexpectedEnd, final.here⟩
    else .ok (.property (final.advance.since start) negated (queryOfName name), final.advance)
  | some '\\' => .error ⟨.propertyInvalid, c.charSpan⟩
  | some name => .ok (.property (c.step.since start) negated (.letter name), c.step)

/-! ### Word boundaries -/

/-- The special word boundaries, by name. -/
def boundaryOfName? (name : String) : Option Assertion :=
  if name = "start" then some .wordStart
  else if name = "end" then some .wordEnd
  else if name = "start-half" then some .wordStartHalf
  else if name = "end-half" then some .wordEndHalf
  else none

/-- The word boundary `\b`, perhaps with a name in braces. Braces that cannot
hold a name are left for a counted repetition. The cursor is behind the letter,
and the backslash at `start`. -/
def boundaryEscape (start : Nat) (c : Cursor) : Except Fault (Escape × Cursor) :=
  let simple : Except Fault (Escape × Cursor) :=
    .ok (.assertion (c.since start) .wordBoundary, c)
  if c.char? = some '\x7b' then
    let isNameChar := fun (ch : Char) => ch.isAlpha || ch == '-'
    let inside := c.step
    match inside.char? with
    | none => .error ⟨.boundaryUnexpectedEnd, inside.since start⟩
    | some first =>
      if isNameChar first then
        let (name, final) := inside.takeWhile isNameChar
        if final.char? = some '\x7d' then
          match boundaryOfName? (String.ofList name) with
          | some kind => .ok (.assertion (final.advance.since start) kind, final.advance)
          | none => .error ⟨.boundaryUnrecognized, final.since inside.offset⟩
        else .error ⟨.boundaryUnclosed, final.since c.offset⟩
      else simple
  else simple

/-! ### All escape sequences -/

/-- The control characters with a letter of their own. -/
def controlOfLetter? (letter : Char) : Option Char :=
  if letter = 'a' then some '\x07'
  else if letter = 'f' then some '\x0C'
  else if letter = 't' then some '\t'
  else if letter = 'n' then some '\n'
  else if letter = 'r' then some '\r'
  else if letter = 'v' then some '\x0B'
  else none

/-- The assertions with a letter of their own, plain word boundaries apart. -/
def assertionOfLetter? (letter : Char) : Option Assertion :=
  if letter = 'A' then some .textStart
  else if letter = 'z' then some .textEnd
  else if letter = 'B' then some .notWordBoundary
  else if letter = '<' then some .wordStartAngle
  else if letter = '>' then some .wordEndAngle
  else none

/-- The classes with a letter of their own; an upper-case letter negates. -/
def classOfLetter? (letter : Char) : Option (LetterClass × Bool) :=
  if letter = 'd' then some (.digit, false)
  else if letter = 'D' then some (.digit, true)
  else if letter = 's' then some (.space, false)
  else if letter = 'S' then some (.space, true)
  else if letter = 'w' then some (.word, false)
  else if letter = 'W' then some (.word, true)
  else none

/-- The escape sequence at the cursor, which is at a backslash. -/
def escape (c : Cursor) : Except Fault (Escape × Cursor) :=
  let start := c.offset
  let c := c.advance
  match c.char? with
  | none => .error ⟨.escapeUnexpectedEnd, c.since start⟩
  | some letter =>
    let behind := c.advance
    let span := behind.since start
    if letter.isDigit then .error ⟨.backreference, span⟩
    else if letter = 'x' ∨ letter = 'u' ∨ letter = 'U' then hexEscape start letter c
    else if letter = 'p' ∨ letter = 'P' then propertyEscape start (letter == 'P') c
    else if letter = 'b' then boundaryEscape start behind
    else
      match classOfLetter? letter, assertionOfLetter? letter, controlOfLetter? letter with
      | some (kind, negated), _, _ => .ok (.letter span kind negated, behind)
      | _, some kind, _ => .ok (.assertion span kind, behind)
      | _, _, some char => .ok (.literal span .control char, behind)
      | _, _, _ =>
        if isMeta letter then .ok (.literal span .escaped letter, behind)
        else if isEscapable letter then .ok (.literal span .superfluous letter, behind)
        else .error ⟨.escapeUnrecognized, span⟩

end ColumnChecks.Pattern
