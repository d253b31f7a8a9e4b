import ColumnChecks.Text.Blank

/-!
# Patterns that the database reads the same way

A pattern that compiles may still use a construct that the database's own engine
rejects or reads differently. The scan below goes once over the characters of a
pattern, outside and inside bracket expressions, and reports the first such
construct. It relies on the pattern being well formed.
-/

namespace ColumnChecks.Pattern

/-- Constructs that the database's engine does not share. -/
inductive Construct where
  | propertyClass
  | textEnd
  | wordBoundary
  | bracedEscape
  | unterminatedClass
  | nestedClass
  | setOperation
  | namedGroup
  | inlineFlags
  deriving DecidableEq, Repr

/-- A construct as the subject of a sentence, verb included. -/
def Construct.subject : Construct → String
  | .propertyClass => "unicode property classes (\\p, \\P) are"
  | .textEnd => "\\z is"
  | .wordBoundary => "word boundaries (\\b, \\B) are"
  | .bracedEscape => "braced escapes (\\x\x7b..\x7d, \\u\x7b..\x7d) are"
  | .unterminatedClass => "unterminated character classes are"
  | .nestedClass => "nested character classes are"
  | .setOperation => "character class set operations (&&, --, ~~) are"
  | .namedGroup => "named groups are"
  | .inlineFlags => "inline flags are"

/-- The construct that an escape sequence is, if any; the text is what follows
the backslash. -/
def escapedConstruct? : List Char → Option Construct
  | 'p' :: _ | 'P' :: _ => some .propertyClass
  | 'z' :: _ => some .textEnd
  | 'b' :: _ | 'B' :: _ => some .wordBoundary
  | 'x' :: '\x7b' :: _ | 'u' :: '\x7b' :: _ | 'U' :: '\x7b' :: _ => some .bracedEscape
  | _ => none

/-- The construct that a group opening with `(?` is, if any; the text is what
follows that. -/
def groupConstruct? : List Char → Option Construct
  | ':' :: _ | '=' :: _ | '!' :: _ => none
  | '<' :: '=' :: _ | '<' :: '!' :: _ => none
  | 'P' :: _ | '<' :: _ => some .namedGroup
  | _ => some .inlineFlags

/-- Where a scan is: outside brackets, or inside them with so many characters
yet to be passed that cannot close them. -/
inductive ScanMode where
  | outside
  | inside (shielded : Nat)
  deriving DecidableEq, Repr

/-- How many characters a named class takes, up to and with its closing `:]`;
the text is what follows the opening `[:`. -/
def namedClassLength? : List Char → Option Nat
  | [] => none
  | ':' :: ']' :: _ => some 2
  | _ :: rest => (namedClassLength? rest).map (· + 1)

/-- The first unshared construct of a pattern. The scan first passes over
`passed` characters that have been dealt with. -/
def constructFrom? (passed : Nat) (mode : ScanMode) : List Char → Option Construct
  | [] => none
  | c :: rest =>
    if 0 < passed then
      constructFrom? (passed - 1) (match mode with
        | .outside => .outside
        | .inside shielded => .inside (shielded - 1)) rest
    else if c = '\\' then
      match escapedConstruct? rest with
      | some construct => some construct
      | none => constructFrom? 1 (match mode with
        | .outside => .outside
        | .inside shielded => .inside (shielded - 1)) rest
    else
      match mode with
      | .inside shielded =>
        if c = ']' ∧ shielded = 0 then constructFrom? 0 .outside rest
        else if c = '[' then
          match rest with
          | ':' :: more =>
            match namedClassLength? more with
            | some length => constructFrom? (length + 1) (.inside (shielded - 1)) rest
            | none => some .unterminatedClass
          | _ => some .nestedClass
        else if (c = '&' ∨ c = '-' ∨ c = '~') ∧ rest.head? = some c then some .setOperation
        else constructFrom? 0 (.inside (shielded - 1)) rest
      | .outside =>
        if c = '[' then
          constructFrom? 0 (.inside (if rest.head? = some '^' then 2 else 1)) rest
        else if c = '(' then
          match rest with
          | '?' :: more =>
            match groupConstruct? more with
            | some construct => some construct
            | none => constructFrom? 0 .outside rest
          | _ => constructFrom? 0 .outside rest
        else constructFrom? 0 .outside rest

/-- The first construct of a pattern that the database's engine does not
share. -/
def unshared? (pattern : String) : Option Construct :=
  constructFrom? 0 .outside pattern.toList

end ColumnChecks.Pattern
