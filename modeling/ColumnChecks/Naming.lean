import ColumnChecks.Rule.Predicate
import ColumnChecks.Text.Blank

/-!
# Names of constraints

The constraint of a rule is named for what the rule is about: a prefix shared by
all managed constraints, the table, the columns, the label if there is one and
the code of the kind, joined by underscores. Each part is normalised to
lower-case ASCII letters, digits and underscores.

A name that would be too long for an identifier is cut. The code stays, and the
first digits of a digest of the full name, taken before normalisation, keep cut
names apart.
-/

namespace ColumnChecks

open Sql (Dialect)

/-- The prefix of managed constraints unless another one is set. -/
def defaultNamePrefix : String := "rein"

/-- The number of digest digits in a cut name. -/
def nameDigestLength : Nat := 8

/-- The length of the longest code of a kind. -/
def longestCode : Nat := 4

/-- Whether a normalised name may contain a character. -/
def isNormalChar (c : Char) : Bool := c.isLower || c.isDigit || c == '_'

/-- A character in lower case, or an underscore in place of one that names do
not contain. -/
def normalChar (c : Char) : Char := if isNormalChar c.toLower then c.toLower else '_'

/-- A part of a name, normalised. -/
def normalize (cs : List Char) : List Char := cs.map normalChar

/-- The least identifier length that a prefix needs: besides the prefix, a
character, the longest code and a digest, with an underscore before each. -/
def neededLength (namePrefix : List Char) : Nat :=
  namePrefix.length + 1 + 1 + 1 + longestCode + 1 + nameDigestLength

/-- How constraints are named: a normalised prefix, and the greatest length of a
name, which leaves room for a cut name. -/
structure Namer where
  namePrefix : List Char
  maxLength : Nat
  nonempty : namePrefix ≠ []
  normal : ∀ c ∈ namePrefix, isNormalChar c = true
  fits : neededLength namePrefix ≤ maxLength

/-- Every character of a normalised part may stand in a name. -/
theorem isNormalChar_of_mem_normalize {c : Char} {cs : List Char} (h : c ∈ normalize cs) :
    isNormalChar c = true := by
  obtain ⟨d, -, rfl⟩ := List.mem_map.1 h
  unfold normalChar
  split
  · assumption
  · decide

namespace Namer

/-- The naming for a prefix, within the identifiers of a dialect. -/
def make (namePrefix : String) (dialect : Dialect) : Except InvalidRule Namer :=
  let normal := normalize namePrefix.toList
  if h : normal = [] then .error .emptyPrefix
  else if fits : neededLength normal ≤ dialect.maxIdentifierLength then
    .ok ⟨normal, dialect.maxIdentifierLength, h, fun _ => isNormalChar_of_mem_normalize, fits⟩
  else
    .error (.longPrefix (String.ofList normal) (neededLength normal) dialect.maxIdentifierLength)

/-- The naming with the default prefix, within the identifiers of PostgreSQL. -/
def postgres : Namer where
  namePrefix := ['r', 'e', 'i', 'n']
  maxLength := Sql.postgresIdentifierLength
  nonempty := by decide
  normal := List.all_eq_true.1 (rfl : ['r', 'e', 'i', 'n'].all isNormalChar = true)
  fits := by decide

/-- Whether a constraint is managed, going by its name. -/
def owns (namer : Namer) (name : String) : Bool :=
  match Text.after? namer.namePrefix name.toList with
  | some ('_' :: _) => true
  | _ => false

/-- The parts of a name between its prefix and its code, as they were written. -/
def rawParts (table : String) (spec : RuleSpec) : List (List Char) :=
  (table :: spec.target ++ spec.label.toList).map String.toList

/-- Join parts by underscores. -/
def joinParts (parts : List (List Char)) : List Char := ['_'].intercalate parts

/-- A text without trailing underscores. -/
def dropUnderscores (cs : List Char) : List Char := (cs.reverse.dropWhile (· == '_')).reverse

/-- The full name of a rule's constraint, however long. -/
def fullName (namer : Namer) (table : String) (spec : RuleSpec) : List Char :=
  joinParts [namer.namePrefix, joinParts ((rawParts table spec).map normalize),
    spec.kind.code.toList]

/-- The digits that tell cut names apart. -/
def nameDigest (namer : Namer) (table : String) (spec : RuleSpec) : List Char :=
  let raw := joinParts [namer.namePrefix, joinParts (rawParts table spec), spec.kind.code.toList]
  (Hash.sha256 (String.ofList raw)).toList.take nameDigestLength

/-- How much of the middle a cut name keeps at most. -/
def budget (namer : Namer) (spec : RuleSpec) : Nat :=
  namer.maxLength - (namer.namePrefix.length + spec.kind.code.length + nameDigestLength + 3)

/-- The cut name of a rule's constraint. -/
def cutName (namer : Namer) (table : String) (spec : RuleSpec) : List Char :=
  let middle := joinParts ((rawParts table spec).map normalize)
  joinParts [namer.namePrefix, dropUnderscores (middle.take (namer.budget spec)),
    spec.kind.code.toList, namer.nameDigest table spec]

variable [Pattern.SizeTest]

/-- The name of a rule's constraint on a table. -/
def name (namer : Namer) (table : String) (rule : Rule) : String :=
  let full := namer.fullName table rule.spec
  String.ofList (if full.length ≤ namer.maxLength then full else namer.cutName table rule.spec)

end Namer

end ColumnChecks
