/-!
# Dialects of SQL

What a database can do, as far as rules depend on it.
-/

namespace ColumnChecks.Sql

/-- The abilities of a database. -/
structure Dialect where
  name : String
  /-- The greatest length of an identifier, in bytes. -/
  maxIdentifierLength : Nat
  /-- Whether regular expressions can be matched. -/
  regexMatch : Bool
  /-- Whether they can be matched without regard to case. -/
  caseInsensitiveRegex : Bool
  deriving DecidableEq, Repr

/-- The greatest length of a PostgreSQL identifier. -/
def postgresIdentifierLength : Nat := 63

/-- PostgreSQL. -/
def Dialect.postgres : Dialect := ⟨"postgres", postgresIdentifierLength, true, true⟩

end ColumnChecks.Sql
