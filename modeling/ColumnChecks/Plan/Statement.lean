import ColumnChecks.Sql.Expr
import ColumnChecks.Plan.Present

/-!
# The statements of a plan

Adding a constraint is a `DO` block that first looks the name up in the catalog,
so that running it again changes nothing. The block is quoted between two copies
of a dollar tag, which is numbered until it does not occur in the block itself.
-/

namespace ColumnChecks

open Sql

/-- The numbered dollar tags; number zero has none. -/
def dollarTag (n : Nat) : List Char :=
  "$rein".toList ++ (if n = 0 then [] else Nat.toDigits 10 n) ++ ['$']

/-- The first dollar tag from a number on that does not occur in a text, among
so many. -/
def freeTag (body : List Char) : Nat → Nat → List Char
  | 0, n => dollarTag n
  | fuel + 1, n =>
    if Text.occursIn (dollarTag n) body then freeTag body fuel (n + 1) else dollarTag n

/-- The dollar tag that quotes a text. A text of `n` characters cannot contain
more than `n` different tags. -/
def quotingTag (body : List Char) : List Char := freeTag body (body.length + 1) 0

/-- The block that adds a constraint if its name is free. -/
def addBlock (table : TableRef) (name predicate fingerprint : String) (validate : Bool) :
    String :=
  let ident := quoteIdentifier name
  "BEGIN\n  IF NOT EXISTS (\n    SELECT 1 FROM pg_catalog.pg_constraint\n    WHERE conname = "
    ++ quoteText name ++ " AND conrelid = " ++ quoteText table.sql
    ++ "::regclass\n  ) THEN\n    ALTER TABLE " ++ table.sql ++ " ADD CONSTRAINT " ++ ident
    ++ " CHECK (" ++ predicate ++ ")" ++ (if validate then "" else " NOT VALID")
    ++ ";\n    COMMENT ON CONSTRAINT " ++ ident ++ " ON " ++ table.sql ++ " IS "
    ++ quoteText (commentOf fingerprint) ++ ";\n  END IF;\nEND"

/-- The statement that adds a constraint and records its fingerprint. -/
def addStatement (table : TableRef) (name predicate fingerprint : String) (validate : Bool) :
    String :=
  let body := addBlock table name predicate fingerprint validate
  let tag := String.ofList (quotingTag body.toList)
  "DO " ++ tag ++ "\n" ++ body ++ "\n" ++ tag ++ ";"

/-- The statement that drops a constraint if it is there. -/
def dropStatement (table : TableRef) (name : String) : String :=
  "ALTER TABLE " ++ table.sql ++ " DROP CONSTRAINT IF EXISTS " ++ quoteIdentifier name ++ ";"

end ColumnChecks
