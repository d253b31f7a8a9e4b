import ColumnChecks.Proofs.Sql.Token

/-!
# Reading SQL

The grammar of the fragment that predicates are written in, as a reader of tokens.
It is the grammar of SQL and knows nothing of how predicates are printed: there is
one reader for every level of precedence, each in terms of the one that binds more
tightly, and what stands for itself (`ColumnChecks.Sql.readPrimary`) may hold a
whole expression again, in parentheses or as an argument.

From the loosest on, the levels are disjunction, conjunction, negation, `IS NULL`,
comparison, `BETWEEN` with `IN` and matching, and the remainder. Only conjunction,
disjunction and the remainder chain; the `AND` of `BETWEEN` is taken together with
the two numerals around it.

A numeral has no type. It is read as an integer if it denotes one of 64 bits, and
as a decimal otherwise (`ColumnChecks.Sql.numberOfText?`).
-/

namespace ColumnChecks

namespace Sql

/-- A reader takes tokens away from the front and says what they stand for. -/
abbrev Reader (α : Type) : Type := List Token → Option (α × List Token)

/-! ### Values -/

/-- The number that a numeral denotes. -/
def numberOfText? (text : String) : Option Numeric :=
  match integerOfText? text with
  | some i => some (.integer i)
  | none => (Decimal.ofText? text).map .decimal

def readLiteral : Reader Literal
  | .text s :: rest => some (.text s, rest)
  | .numeral text :: rest => (numberOfText? text).map fun n => (n.toLiteral, rest)
  | .word w :: rest =>
    if w = "true" then some (.boolean true, rest)
    else if w = "false" then some (.boolean false, rest)
    else none
  | _ => none

def readNumber : Reader Numeric
  | .numeral text :: rest => (numberOfText? text).map fun n => (n, rest)
  | _ => none

/-- A given token. -/
def expect (t : Token) : Reader Unit
  | [] => none
  | u :: rest => if u = t then some ((), rest) else none

/-- Literals with commas between them, at least one and at most that many. -/
def readLiterals : Nat → Reader (List Literal)
  | 0, _ => none
  | fuel + 1, ts => do
    let (v, rest) ← readLiteral ts
    match expect (.symbol ",") rest with
    | some (_, rest) => do
      let (vs, rest) ← readLiterals fuel rest
      some (v :: vs, rest)
    | none => some ([v], rest)

/-! ### What stands for itself -/

def readName : Reader Expr
  | .quoted name :: rest => some (.column name, rest)
  | .word w :: rest =>
    if w ∈ reservedWords ∨ w ∈ functionWords then none else some (.column w, rest)
  | _ => none

/-- A value or a name. -/
def readAtom : Reader Expr := fun ts =>
  match readLiteral ts with
  | some (v, rest) => some (.literal v, rest)
  | none => readName ts

/-- A function is called if a parenthesis follows its name. -/
def opensCall (name : String) (ts : List Token) : Bool :=
  ts.head? = some (.word name) && ts.tail.head? = some (.symbol "(")

/-- A name, a value, a call, or a whole expression in parentheses, given a reader of
whole expressions. -/
def readPrimary (whole : Reader Expr) (ts : List Token) : Option (Expr × List Token) :=
  if opensCall "char_length" ts then do
    let (e, rest) ← whole (ts.drop 2)
    let (_, rest) ← expect (.symbol ")") rest
    some (.charLength e, rest)
  else if opensCall "coalesce" ts then do
    let (e, rest) ← whole (ts.drop 2)
    let (_, rest) ← expect (.symbol ",") rest
    match ← readLiteral rest with
    | (.boolean fallback, rest) => do
      let (_, rest) ← expect (.symbol ")") rest
      some (.coalesce e fallback, rest)
    | _ => none
  else if ts.head? = some (.symbol "(") then do
    let (e, rest) ← whole ts.tail
    let (_, rest) ← expect (.symbol ")") rest
    some (e, rest)
  else readAtom ts

/-! ### The levels of precedence -/

/-- The remainders by divisors that follow an expression. -/
def readDivisors (e : Expr) : Reader Expr
  | .symbol op :: .numeral text :: rest =>
    if op = "%" then
      match integerOfText? text with
      | some divisor => readDivisors (.modulo e divisor) rest
      | none => none
    else some (e, .symbol op :: .numeral text :: rest)
  | ts => some (e, ts)

def readRemainder (operand : Reader Expr) : Reader Expr := fun ts => do
  let (e, rest) ← operand ts
  readDivisors e rest

/-- Which match an operator stands for. -/
def matchFlags? (op : String) : Option (Bool × Bool) :=
  if op = "~" then some (false, false)
  else if op = "~*" then some (false, true)
  else if op = "!~" then some (true, false)
  else if op = "!~*" then some (true, true)
  else none

/-- `BETWEEN`, `IN` or a match behind an expression. -/
def readTest (e : Expr) : Reader Expr
  | .word w :: rest =>
    if w = "between" then do
      let (low, rest) ← readNumber rest
      let (_, rest) ← expect (.word "and") rest
      let (high, rest) ← readNumber rest
      some (.between e low high, rest)
    else if w = "in" then do
      let (_, rest) ← expect (.symbol "(") rest
      let (values, rest) ← readLiterals rest.length rest
      let (_, rest) ← expect (.symbol ")") rest
      some (.inList e values, rest)
    else some (e, .word w :: rest)
  | .symbol op :: .text pattern :: rest =>
    match matchFlags? op with
    | some (negated, caseInsensitive) =>
      some (.regexMatch e pattern negated caseInsensitive, rest)
    | none => some (e, .symbol op :: .text pattern :: rest)
  | ts => some (e, ts)

def readTested (operand : Reader Expr) : Reader Expr := fun ts => do
  let (e, rest) ← operand ts
  readTest e rest

def comparisonOfSql? (op : String) : Option Comparison :=
  if op = "=" then some .eq
  else if op = "<>" then some .ne
  else if op = "<" then some .lt
  else if op = "<=" then some .le
  else if op = ">" then some .gt
  else if op = ">=" then some .ge
  else none

/-- A comparison does not go on with another one. -/
def readComparison (operand : Reader Expr) : Reader Expr := fun ts => do
  let (left, rest) ← operand ts
  match rest with
  | .symbol op :: more =>
    match comparisonOfSql? op with
    | some op => do
      let (right, rest) ← operand more
      some (.compare left op right, rest)
    | none => some (left, rest)
  | rest => some (left, rest)

def readNullTest (operand : Reader Expr) : Reader Expr := fun ts => do
  let (e, rest) ← operand ts
  match expect (.word "is") rest with
  | none => some (e, rest)
  | some (_, rest) =>
    match expect (.word "not") rest with
    | some (_, rest) => do
      let (_, rest) ← expect (.word "null") rest
      some (.isNull e true, rest)
    | none => do
      let (_, rest) ← expect (.word "null") rest
      some (.isNull e false, rest)

def readNegation (operand : Reader Expr) : Reader Expr
  | [] => operand []
  | t :: rest =>
    if t = .word "not" then do
      let (e, rest) ← readNegation operand rest
      some (.not e, rest)
    else operand (t :: rest)

/-- Operands with a word between them, at least one and at most that many. -/
def readChain (word : String) (operand : Reader Expr) : Nat → Reader (List Expr)
  | 0, _ => none
  | fuel + 1, ts => do
    let (e, rest) ← operand ts
    match expect (.word word) rest with
    | some (_, rest) => do
      let (es, rest) ← readChain word operand fuel rest
      some (e :: es, rest)
    | none => some ([e], rest)

def readConjunction (operand : Reader Expr) : Reader Expr := fun ts => do
  let (es, rest) ← readChain "and" operand ts.length ts
  some (Expr.all es, rest)

def readDisjunction (operand : Reader Expr) : Reader Expr := fun ts => do
  let (es, rest) ← readChain "or" operand ts.length ts
  some (Expr.any es, rest)

/-- **The reader of a level**, given one of what stands for itself. -/
def readLevel (primary : Reader Expr) : Nat → Reader Expr
  | 0 => readDisjunction (readLevel primary 1)
  | 1 => readConjunction (readLevel primary 2)
  | 2 => readNegation (readLevel primary 3)
  | 3 => readNullTest (readLevel primary 4)
  | 4 => readComparison (readLevel primary 5)
  | 5 => readTested (readLevel primary 6)
  | 6 => readRemainder primary
  | _ + 7 => primary
termination_by k => 7 - k

/-- Whole expressions, nested at most that deep. -/
def readWithin : Nat → Reader Expr
  | 0, _ => none
  | depth + 1, ts => readLevel (readPrimary (readWithin depth)) 0 ts

/-- **The expression that a text stands for.** No tokens may be left over; and
there cannot be more parentheses than tokens. -/
def read? (conforming : Bool) (text : String) : Option Expr := do
  let ts ← lex conforming text.toList
  match ← readWithin (ts.length + 1) ts with
  | (e, []) => some e
  | _ => none

end Sql

end ColumnChecks
