import ColumnChecks.Rule.Json
import ColumnChecks.Sql.Identifier

/-!
# Documents of rules

A document holds the rules of several tables, as somebody wrote them down: a
version, a prefix for the names of constraints if it sets one, and an entry for
each table.

Documents are read from JSON. A document and an entry may be objects, whose
unknown members are passed over, or arrays of their parts in order.
-/

namespace ColumnChecks

open Sql (TableRef)

/-- The rules that are written down for one table. -/
structure TableRules where
  schema : Option String
  table : String
  rules : List RuleSpec
  deriving DecidableEq, Repr

/-- Rules as they are written down. -/
structure RulesDocument where
  version : String
  namePrefix : Option String
  tables : List TableRules
  deriving DecidableEq, Repr

/-- The table that an entry is about. -/
def TableRules.ref (entry : TableRules) : TableRef := ⟨entry.schema, entry.table⟩

namespace Draft

/-! ### Arrays of parts -/

/-- Read the next part of an array; one that is not there has its default, if it
has one. -/
def nextPart {α : Type} (reader : Draft → Except JsonError α) (default : Option α)
    (items : List Draft) (ending : Option Break) : Except JsonError (α × List Draft) :=
  match items, ending with
  | item :: more, _ => do .ok (← reader item, more)
  | [], some e => .error e.needed
  | [], none => do .ok (← need default, [])

/-- Check that an array has no further parts. -/
def noMoreParts (items : List Draft) (ending : Option Break) : Except JsonError Unit :=
  match items, ending with
  | _ :: _, _ => .error .malformed
  | [], some e => .error e.needed
  | [], none => .ok ()

end Draft

open Draft (once need nextPart noMoreParts)

/-! ### Reading the entry of a table -/

/-- The members of an entry that have been read. -/
structure TableParts where
  schema : Option (Option String) := none
  table : Option String := none
  rules : Option (List RuleSpec) := none

/-- Read one member of an entry. -/
def TableParts.step (depth : Nat) (parts : TableParts) (name : String) (value : Draft) :
    Except JsonError TableParts :=
  if name = "schema" then do
    .ok { parts with schema := ← once parts.schema (value.nullable? Draft.text?) }
  else if name = "table" then do
    .ok { parts with table := ← once parts.table value.text? }
  else if name = "rules" then do
    .ok { parts with
      rules := ← once parts.rules (value.list? depth (RuleSpec.ofDraft (depth - 1))) }
  else do
    value.skip
    .ok parts

/-- Read an entry, no deeper than allowed. -/
def TableRules.ofDraft (depth : Nat) : Draft → Except JsonError TableRules
  | .object members ending =>
    if depth = 0 then .error .malformed
    else do
      let parts ← Draft.foldMembers (TableParts.step (depth - 1)) {} members ending
      .ok ⟨parts.schema.getD none, ← need parts.table, parts.rules.getD []⟩
  | .array items ending =>
    if depth = 0 then .error .malformed
    else do
      let (schema, items) ← nextPart (Draft.nullable? Draft.text?) (some none) items ending
      let (table, items) ← nextPart Draft.text? none items ending
      let (rules, items) ←
        nextPart (Draft.list? (depth - 1) (RuleSpec.ofDraft (depth - 2))) (some []) items ending
      noMoreParts items ending
      .ok ⟨schema, table, rules⟩
  | other => .error other.wrongShape

/-! ### Reading a document -/

/-- The members of a document that have been read. -/
structure DocumentParts where
  version : Option String := none
  namePrefix : Option (Option String) := none
  tables : Option (List TableRules) := none

/-- Read one member of a document. -/
def DocumentParts.step (depth : Nat) (parts : DocumentParts) (name : String) (value : Draft) :
    Except JsonError DocumentParts :=
  if name = "rules_version" then do
    .ok { parts with version := ← once parts.version value.text? }
  else if name = "prefix" then do
    .ok { parts with namePrefix := ← once parts.namePrefix (value.nullable? Draft.text?) }
  else if name = "tables" then do
    .ok { parts with
      tables := ← once parts.tables (value.list? depth (TableRules.ofDraft (depth - 1))) }
  else do
    value.skip
    .ok parts

/-- Read a document, no deeper than allowed. -/
def RulesDocument.ofDraft (depth : Nat) : Draft → Except JsonError RulesDocument
  | .object members ending =>
    if depth = 0 then .error .malformed
    else do
      let parts ← Draft.foldMembers (DocumentParts.step (depth - 1)) {} members ending
      .ok ⟨← need parts.version, parts.namePrefix.getD none, ← need parts.tables⟩
  | .array items ending =>
    if depth = 0 then .error .malformed
    else do
      let (version, items) ← nextPart Draft.text? none items ending
      let (namePrefix, items) ← nextPart (Draft.nullable? Draft.text?) (some none) items ending
      let (tables, items) ←
        nextPart (Draft.list? (depth - 1) (TableRules.ofDraft (depth - 2))) none items ending
      noMoreParts items ending
      .ok ⟨version, namePrefix, tables⟩
  | other => .error other.wrongShape

/-- Read the text of a document. -/
def RulesDocument.parse (text : String) : Except JsonError RulesDocument :=
  Draft.parse (RulesDocument.ofDraft Draft.depthLimit) text

/-- Read a document from a value. What has been read already is never too deep. -/
def RulesDocument.ofJson (value : Json) : Except JsonError RulesDocument :=
  RulesDocument.ofDraft (value.depth + 1) (Draft.ofJson value)

end ColumnChecks
