/-!
# The lock timeout of a migration

A migration waits for a lock no longer than its timeout, which is set for its
transaction alone.
-/

namespace ColumnChecks.Connection

/-- The statement that sets a timeout in milliseconds, if there is a timeout. -/
def lockTimeoutStatement? (milliseconds : Option Nat) : Option String :=
  milliseconds.map fun n => "SET LOCAL lock_timeout = '" ++ toString n ++ "ms'"

end ColumnChecks.Connection
