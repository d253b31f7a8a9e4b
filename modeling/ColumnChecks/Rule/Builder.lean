import ColumnChecks.Rule.Basic

/-!
# Writing rules down

Short forms for the common rules. Each of them is only a way of writing a
`RuleSpec`: whether it makes sense is looked at later.
-/

namespace ColumnChecks

namespace Range

/-- From a least to a greatest number, both included. -/
def between (min max : Numeric) : Range := ⟨some min, some max, true, true⟩

def atLeast (min : Numeric) : Range := ⟨some min, none, true, true⟩

def greaterThan (min : Numeric) : Range := ⟨some min, none, false, true⟩

def atMost (max : Numeric) : Range := ⟨none, some max, true, true⟩

def lessThan (max : Numeric) : Range := ⟨none, some max, true, false⟩

/-- The same bounds, each included or not. -/
def including (range : Range) (min max : Bool) : Range :=
  { range with minInclusive := min, maxInclusive := max }

end Range

namespace Length

def between (min max : Int64) : Length := ⟨some min, some max⟩

def atLeast (min : Int64) : Length := ⟨some min, none⟩

def atMost (max : Int64) : Length := ⟨none, some max⟩

end Length

namespace Format

/-- The whole value must match, upper and lower case told apart. -/
def accepts (pattern : String) : Format := ⟨pattern, .accepts, false⟩

/-- No part of the value may match, upper and lower case told apart. -/
def rejects (pattern : String) : Format := ⟨pattern, .rejects, false⟩

/-- The same format without regard to case. -/
def ignoringCase (format : Format) : Format := { format with caseInsensitive := true }

end Format

/-- The column has this value. -/
def Condition.equals (column : String) (value : Literal) : Condition := .compare column .eq value

/-- A rule without options: NULL and blank are refused, there is no label, and
existing rows are checked. -/
def RuleSpec.of (kind : RuleKind) (target : List String) : RuleSpec :=
  ⟨target, kind, false, false, none, true⟩

end ColumnChecks
