import ColumnChecks.Pattern.Size
import ColumnChecks.Pattern.Search
import ColumnChecks.Pattern.Excerpt

/-!
# Compiling patterns

A pattern compiles to a regular expression unless it has a fault or its automata are too
large for the engine.
-/

namespace ColumnChecks.Pattern

/-- Why a pattern does not compile. -/
inductive Error where
  | malformed (fault : Fault)
  | tooLarge
  deriving DecidableEq, Repr

/-- The full text of an error, with the pattern it is about. -/
def Error.describe (pattern : String) : Error → String
  | .malformed fault => fault.describe pattern.toList
  | .tooLarge => "Compiled regex exceeds size limit of " ++ toString sizeLimit ++ " bytes."

/-- What a pattern compiles to, case ignored or not. -/
def compile [SizeTest] (ignoreCase : Bool) (pattern : String) : Except Error Regex :=
  match expression ignoreCase pattern with
  | .error fault => .error (.malformed fault)
  | .ok r => if SizeTest.allows ignoreCase pattern then .ok r else .error .tooLarge

end ColumnChecks.Pattern
