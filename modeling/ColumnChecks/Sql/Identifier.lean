/-!
# SQL identifiers

An identifier is written bare when it reads back as itself: it starts with a
lower-case letter or an underscore, goes on with those, digits and dollar signs,
and is no keyword that the grammar reserves. Any other name stands between
double quotes, with each double quote inside it doubled.
-/

namespace ColumnChecks.Sql

/-- Keywords that the grammar reserves everywhere. -/
def reservedWords : List String := [
  "all", "analyse", "analyze", "and", "any", "array", "as", "asc", "asymmetric", "both",
  "case", "cast", "check", "collate", "column", "constraint", "create", "current_catalog",
  "current_date", "current_role", "current_time", "current_timestamp", "current_user",
  "default", "deferrable", "desc", "distinct", "do", "else", "end", "except", "false",
  "fetch", "for", "foreign", "from", "grant", "group", "having", "in", "initially",
  "intersect", "into", "lateral", "leading", "limit", "localtime", "localtimestamp", "not",
  "null", "offset", "on", "only", "or", "order", "placing", "primary", "references",
  "returning", "select", "session_user", "some", "symmetric", "table", "then", "to",
  "trailing", "true", "union", "unique", "user", "using", "variadic", "when", "where",
  "window", "with"]

/-- Keywords that the grammar reserves except as names of functions or types. -/
def functionWords : List String := [
  "authorization", "binary", "collation", "concurrently", "cross", "current_schema",
  "freeze", "full", "ilike", "inner", "is", "isnull", "join", "left", "like", "natural",
  "notnull", "outer", "overlaps", "right", "similar", "tablesample", "verbose"]

/-- Whether a bare identifier may start with a character. -/
def isBareStart (c : Char) : Bool := c.isLower || c == '_'

/-- Whether a bare identifier may go on with a character. -/
def isBareRest (c : Char) : Bool := c.isLower || c.isDigit || c == '_' || c == '$'

/-- Whether a name is written without quotes. -/
def isBare (name : String) : Bool :=
  match name.toList with
  | [] => false
  | c :: rest =>
    isBareStart c && rest.all isBareRest
      && !reservedWords.contains name && !functionWords.contains name

/-- A text between two copies of a mark, each mark inside it doubled. -/
def doubled (mark : Char) (cs : List Char) : List Char :=
  mark :: cs.flatMap (fun c => if c = mark then [mark, mark] else [c]) ++ [mark]

/-- A name as an SQL identifier. -/
def quoteIdentifier (name : String) : String :=
  if isBare name then name else String.ofList (doubled '"' name.toList)

/-! ### References to tables -/

/-- A table, perhaps qualified by its schema. -/
structure TableRef where
  schema : Option String
  name : String
  deriving DecidableEq, Repr, Inhabited

/-- The table as SQL refers to it. -/
def TableRef.sql (table : TableRef) : String :=
  match table.schema with
  | some schema => quoteIdentifier schema ++ "." ++ quoteIdentifier table.name
  | none => quoteIdentifier table.name

end ColumnChecks.Sql
