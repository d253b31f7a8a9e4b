import ColumnChecks.Sql.Identifier
import ColumnChecks.Value

/-!
# Predicate expressions and their SQL text

An expression of the SQL fragment that CHECK constraints are written in. Boolean
and scalar expressions are one type, as in SQL: a comparison may stand where a
value is wanted, and a boolean column where a condition is.

The SQL text puts parentheses around a conjunction or a disjunction that stands
inside another one or under `NOT`, and nowhere else.
-/

namespace ColumnChecks.Sql

/-- The comparison operators. -/
inductive Comparison where
  | eq | ne | lt | le | gt | ge
  deriving DecidableEq, Repr

namespace Comparison

def sql : Comparison → String
  | .eq => "="
  | .ne => "<>"
  | .lt => "<"
  | .le => "<="
  | .gt => ">"
  | .ge => ">="

/-- Whether an order between two operands satisfies the operator. -/
def holds : Comparison → Ordering → Bool
  | .eq, o => o == .eq
  | .ne, o => o != .eq
  | .lt, o => o == .lt
  | .le, o => o != .gt
  | .gt, o => o == .gt
  | .ge, o => o != .lt

end Comparison

/-- A boolean or scalar SQL expression. -/
inductive Expr where
  | column (name : String)
  | literal (value : Literal)
  | compare (left : Expr) (op : Comparison) (right : Expr)
  | modulo (operand : Expr) (divisor : Int64)
  | charLength (operand : Expr)
  | between (operand : Expr) (low high : Numeric)
  | inList (operand : Expr) (values : List Literal)
  | regexMatch (operand : Expr) (pattern : String) (negated caseInsensitive : Bool)
  | isNull (operand : Expr) (negated : Bool)
  | coalesce (operand : Expr) (fallback : Bool)
  | not (operand : Expr)
  | and (operands : List Expr)
  | or (operands : List Expr)
  deriving Inhabited

/-! ### Text literals -/

/-- A text as an SQL string. Quotes are doubled; a text with a backslash takes
the `E` form with its backslashes doubled, so that it reads the same under
either setting of `standard_conforming_strings`. -/
def quoteText (text : String) : String :=
  let cs := text.toList
  if cs.contains '\\' then
    String.ofList ('E' :: doubled '\'' (cs.flatMap fun c => if c = '\\' then ['\\', '\\'] else [c]))
  else String.ofList (doubled '\'' cs)

/-- A literal as SQL. -/
def literalSql : Literal → String
  | .boolean true => "TRUE"
  | .boolean false => "FALSE"
  | .integer i => toString i.toInt
  | .decimal d => Decimal.plain.write d
  | .text s => quoteText s

/-- The operator of a regular-expression match. -/
def matchOperator (negated caseInsensitive : Bool) : String :=
  (if negated then "!~" else "~") ++ (if caseInsensitive then "*" else "")

namespace Expr

/-! ### Building -/

/-- The conjunction of some expressions; a single one is itself. -/
def all : List Expr → Expr
  | [e] => e
  | es => .and es

/-- The disjunction of some expressions; a single one is itself. -/
def any : List Expr → Expr
  | [e] => e
  | es => .or es

/-! ### Printing -/

/-- Whether an expression needs parentheses inside a connective. -/
def isCompound : Expr → Bool
  | .and _ | .or _ => true
  | _ => false

/-- The text of an operand, given the operand and its own text. -/
def inParentheses (e : Expr) (text : String) : String :=
  if e.isCompound then "(" ++ text ++ ")" else text

mutual

/-- The SQL text of an expression. -/
def sql : Expr → String
  | .column name => quoteIdentifier name
  | .literal value => literalSql value
  | .compare left op right => sql left ++ " " ++ op.sql ++ " " ++ sql right
  | .modulo e divisor => sql e ++ " % " ++ toString divisor.toInt
  | .charLength e => "char_length(" ++ sql e ++ ")"
  | .between e low high => sql e ++ " BETWEEN " ++ low.text ++ " AND " ++ high.text
  | .inList e values => sql e ++ " IN (" ++ ", ".intercalate (values.map literalSql) ++ ")"
  | .regexMatch e pattern negated caseInsensitive =>
    sql e ++ " " ++ matchOperator negated caseInsensitive ++ " " ++ quoteText pattern
  | .isNull e negated => sql e ++ (if negated then " IS NOT NULL" else " IS NULL")
  | .coalesce e fallback =>
    "COALESCE(" ++ sql e ++ ", " ++ (if fallback then "TRUE" else "FALSE") ++ ")"
  | .not e => "NOT " ++ inParentheses e (sql e)
  | .and es => " AND ".intercalate (operandTexts es)
  | .or es => " OR ".intercalate (operandTexts es)

/-- The texts of the operands of a connective. -/
def operandTexts : List Expr → List String
  | [] => []
  | e :: es => inParentheses e (sql e) :: operandTexts es

end

end Expr

end ColumnChecks.Sql
