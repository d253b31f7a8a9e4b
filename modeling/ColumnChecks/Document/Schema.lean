import ColumnChecks.Json.Schema
import ColumnChecks.Json.Printer

/-!
# The schema of rules documents

The shape that a document must have before anything else about it is looked at.
A rule fits exactly one of the seven kinds, told apart by the word for the kind;
a condition fits exactly one of four forms.
-/

namespace ColumnChecks.DocumentSchema

open Schema

/-- A flag with a default. -/
def flag (default : Bool) : Schema := .withDefault (.bool default) (.ofType .boolean)

/-- A member that tells alternatives apart. -/
def tag (word : String) : Schema := .enumerated [word]

/-! ### Parts of rules -/

def comparison : Schema :=
  .described "Comparison operators usable in conditional triggers."
    (.enumerated ["eq", "ne", "lt", "le", "gt", "ge"])

/-- The forms of a number. -/
def numberForms : List Schema :=
  [.typed [.integer] (some "int64"), .typed [.number] (some "double")]

def numeric : Schema := .described "Numeric bound used by range rules." (.choice numberForms)

/-- A value that a rule mentions. -/
def literal : Schema :=
  .described "Literal value embedded in a compiled predicate or held by a sample row."
    (.choice (.ofType .boolean :: numberForms ++ [.ofType .text]))

def numericRef : Schema := .reference "Numeric" numeric

def literalRef : Schema := .reference "Literal" literal

def parity : Schema := .enumerated ["even", "odd"]

def columnType : Schema :=
  .described "Whether the constrained column holds text (where blank is distinct from NULL)."
    (.enumerated ["text", "non_text"])

def formatMode : Schema :=
  .one [.described "The whole value must match the pattern." (.enumerated ["accepts"]),
    .described "No part of the value may match the pattern." (.enumerated ["rejects"])]

/-- A condition of a trigger. -/
def condition : Schema :=
  .described "One predicate of a conditional trigger." (.one [
    .members ["column", "op", "operator", "value"] [
      ("column", .ofType .text),
      ("op", tag "compare"),
      ("operator", .reference "CompareOp" comparison),
      ("value", literalRef)],
    .members ["column", "op", "values"] [
      ("column", .ofType .text),
      ("op", tag "in"),
      ("values", .list literalRef)],
    .members ["column", "op"] [("column", .ofType .text), ("op", tag "is_null")],
    .members ["column", "op"] [("column", .ofType .text), ("op", tag "is_not_null")]])

/-! ### Kinds of rules -/

/-- A bound that may be left out. -/
def bound : Schema := .choice [numericRef, .ofType .null]

/-- A length that may be left out. -/
def lengthBound : Schema := .typed [.integer, .null] (some "int64")

/-- Rules on the range of numbers. -/
def range : Schema :=
  .described "Numeric bounds on a column." (.members ["kind"] [
    ("kind", tag "range"),
    ("max", bound),
    ("max_inclusive", flag true),
    ("min", bound),
    ("min_inclusive", flag true)])

/-- Rules on even and odd numbers. -/
def evenOrOdd : Schema :=
  .members ["kind", "parity"] [("kind", tag "parity"), ("parity", .reference "Parity" parity)]

/-- Rules on values that have to be there. -/
def presence : Schema :=
  .described "Value must be present: not NULL, and not blank when the column is text."
    (.members ["kind"] [
      ("column_type", .described ("Defaults to `text`, which also rejects `''`. Columns of any "
          ++ "other type must set `non_text`, otherwise PostgreSQL rejects the blank comparison "
          ++ "when the constraint is added.")
        (.withDefault (.text "text") (.every [.reference "ValueClass" columnType]))),
      ("kind", tag "presence")])

/-- Rules on the length of texts. -/
def length : Schema :=
  .described "Character-length bounds on a text column." (.members ["kind"] [
    ("kind", tag "length"),
    ("max_length", lengthBound),
    ("min_length", lengthBound)])

/-- Rules on values from a list. -/
def inclusion : Schema :=
  .members ["kind", "values"] [("kind", tag "inclusion"), ("values", .list literalRef)]

/-- Rules on the format of texts. -/
def format : Schema :=
  .described "Regular-expression format on a text column." (.members ["kind", "pattern"] [
    ("case_insensitive", flag false),
    ("kind", tag "format"),
    ("mode", .withDefault (.text "accepts") (.every [.reference "FormatMode" formatMode])),
    ("pattern", .ofType .text)])

/-- Rules that only ask for something where their trigger holds. -/
def conditional : Schema :=
  .described "Target columns become mandatory whenever every trigger condition holds."
    (.members ["kind", "when"] [
      ("kind", tag "conditional"),
      ("reject_blank", .described "Also reject the empty string in the required columns."
        (flag false)),
      ("when", .list (.reference "Condition" condition))])

/-! ### Rules, tables and documents -/

/-- A rule, with the members that all kinds have. -/
def rule : Schema :=
  .described "Unvalidated rule description, as written by callers or read from JSON."
    (.record [range, evenOrOdd, presence, length, inclusion, format, conditional] ["target"] [
      ("allow_blank", .described "The empty string satisfies a text-valued rule." (flag false)),
      ("allow_null", .described "An all-NULL target satisfies the rule." (flag false)),
      ("label", .described "Discriminator inserted into the constraint name." nullableText),
      ("target", .described "Columns the predicate applies to, in order."
        (.list (.ofType .text))),
      ("validate", .described "When false the constraint is added `NOT VALID`." (flag true))])

/-- The rules of one table. -/
def tableRules : Schema :=
  .described "Rules declared for one table." (.members ["table"] [
    ("rules", .withDefault (.array []) (.list (.reference "RuleSpec" rule))),
    ("schema", nullableText),
    ("table", .ofType .text)])

/-- The schema of a rules document. -/
def document : Schema :=
  .described "Root rules document (`rules.json`)." (.members ["rules_version", "tables"] [
    ("prefix", .described "Constraint name prefix; defaults to `rein`." nullableText),
    ("rules_version", .described "Contract version, currently `0.1`." (.ofType .text)),
    ("tables", .list (.reference "TableRules" tableRules))])

/-- The schemas that the schema of a document refers to, in the order of their
names. -/
def definitions : List (String × Schema) := [
  ("CompareOp", comparison),
  ("Condition", condition),
  ("FormatMode", formatMode),
  ("Literal", literal),
  ("Numeric", numeric),
  ("Parity", parity),
  ("RuleSpec", rule),
  ("TableRules", tableRules),
  ("ValueClass", columnType)]

/-- The schema of a rules document as JSON Schema. -/
def toJson : Json := Schema.toDocument "RulesDocument" document definitions

end ColumnChecks.DocumentSchema
