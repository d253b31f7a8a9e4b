import ColumnChecks.Rule.Basic
import ColumnChecks.Pattern.Compile
import ColumnChecks.Pattern.Portable

/-!
# When a rule makes sense

`RuleSpec.fault?` looks for the first thing that is wrong with a rule, in a
fixed order: its target, its label, blank on a rule that is not about texts, and
then the parameters of its kind. A `Rule` is a rule with nothing wrong, and
carries the proof of that.
-/

namespace ColumnChecks

/-- What can be wrong with a rule. -/
inductive InvalidRule where
  | noColumns
  | emptyColumn (field : String)
  | nulInColumn (field column : String)
  | repeatedColumn (column : String)
  | badLabel
  | blankNotAllowed (kind : String)
  | nullOnPresence
  | nullOnConditional
  | noBounds
  | boundNotFinite (field : String)
  | boundsReversed (min max : Numeric)
  | boundsOpen (min : Numeric)
  | noLengths
  | negativeLength (field : String) (length : Int64)
  | lengthsReversed (max min : Int64)
  | noValues (field : String)
  | valueNotFinite (field : String)
  | mixedValues (field : String) (expected found : LiteralKind)
  | emptyPattern
  | nulInPattern
  | invalidPattern (pattern : String) (error : Pattern.Error)
  | unsharedConstruct (construct : Pattern.Construct)
  | noConditions
  | triggerOnTarget (column : String)
  /-- The name prefix of constraints leaves nothing after it is normalised. -/
  | emptyPrefix
  /-- The name prefix of constraints leaves too little room for a name. -/
  | longPrefix (normalized : String) (needed allowed : Nat)
  deriving DecidableEq, Repr

namespace InvalidRule

/-- The part of a rule that is at fault. -/
def field : InvalidRule → String
  | .noColumns | .repeatedColumn _ => "target"
  | .emptyColumn field | .nulInColumn field _ => field
  | .badLabel => "label"
  | .blankNotAllowed _ => "allow_blank"
  | .nullOnPresence | .nullOnConditional => "allow_null"
  | .noBounds | .boundsReversed _ _ | .boundsOpen _ => "min"
  | .boundNotFinite field => field
  | .noLengths => "min_length"
  | .negativeLength field _ => field
  | .lengthsReversed _ _ => "max_length"
  | .noValues field | .valueNotFinite field | .mixedValues field _ _ => field
  | .emptyPattern | .nulInPattern | .invalidPattern _ _ | .unsharedConstruct _ => "pattern"
  | .noConditions | .triggerOnTarget _ => "when"
  | .emptyPrefix | .longPrefix _ _ _ => "prefix"

/-- What is wrong, in words. -/
def reason : InvalidRule → String
  | .noColumns => "at least one column is required"
  | .emptyColumn _ => "column names must not be empty"
  | .nulInColumn _ column =>
    "column name " ++ Text.Quoted.quote column ++ " contains a NUL byte"
  | .repeatedColumn column => "column " ++ column ++ " is listed more than once"
  | .badLabel => "labels must be non-empty and contain only ASCII letters, digits or '_'"
  | .blankNotAllowed kind =>
    "allow_blank only applies to text length, format and inclusion rules, not " ++ kind
  | .nullOnPresence => "a presence rule on a non-text column cannot allow NULL"
  | .nullOnConditional => "a conditional requirement cannot allow NULL in its required columns"
  | .noBounds => "a range needs at least one of min or max"
  | .boundNotFinite _ => "must be a finite number"
  | .boundsReversed min max => "min " ++ min.text ++ " is greater than max " ++ max.text
  | .boundsOpen min => "min equals max (" ++ min.text ++ "); both bounds must be inclusive"
  | .noLengths => "a length rule needs at least one of min_length or max_length"
  | .negativeLength _ length => "must not be negative, got " ++ toString length.toInt
  | .lengthsReversed max min =>
    "max_length " ++ toString max.toInt ++ " is less than min_length " ++ toString min.toInt
  | .noValues _ => "at least one allowed value is required"
  | .valueNotFinite _ => "numbers must be finite"
  | .mixedValues _ expected found =>
    "all values must share one type, found " ++ expected.name ++ " and " ++ found.name
  | .emptyPattern => "must not be empty"
  | .nulInPattern => "must not contain a NUL byte"
  | .invalidPattern pattern error => "invalid pattern: " ++ error.describe pattern
  | .unsharedConstruct construct =>
    construct.subject ++ " not supported by PostgreSQL regular expressions"
  | .noConditions => "a conditional rule needs at least one trigger condition"
  | .triggerOnTarget column =>
    "column " ++ column ++ " cannot be both required and part of the trigger"
  | .emptyPrefix => "must not be empty"
  | .longPrefix normalized needed allowed =>
    "prefix " ++ normalized ++ " needs identifiers of at least " ++ toString needed
      ++ " bytes, dialect allows " ++ toString allowed

/-- The whole message. -/
def message (e : InvalidRule) : String := "invalid rule: " ++ e.field ++ ": " ++ e.reason

end InvalidRule

/-! ### Columns, labels and values -/

/-- Whether a text contains the NUL character. -/
def hasNul (s : String) : Bool := s.toList.contains '\x00'

/-- The fault of a column name. -/
def columnFault? (field name : String) : Option InvalidRule :=
  if name.isEmpty then some (.emptyColumn field)
  else if hasNul name then some (.nulInColumn field name)
  else none

/-- The first fault of the columns of a target, after those seen before. -/
def columnsFault? (seen : List String) : List String → Option InvalidRule
  | [] => none
  | column :: columns =>
    match columnFault? "target" column with
    | some fault => some fault
    | none =>
      if seen.contains column then some (.repeatedColumn column)
      else columnsFault? (column :: seen) columns

def targetFault? (target : List String) : Option InvalidRule :=
  if target.isEmpty then some .noColumns else columnsFault? [] target

def isLabelChar (c : Char) : Bool := c.isAlphanum || c == '_'

def labelFault? : Option String → Option InvalidRule
  | some label =>
    if label.isEmpty || !label.toList.all isLabelChar then some .badLabel else none
  | none => none

/-- The first fault of a list of values that must share the kind of its first
one. -/
def valuesFault? (field : String) (values : List Literal) : Option InvalidRule :=
  match values with
  | [] => some (.noValues field)
  | first :: _ =>
    values.findSome? fun value =>
      if !value.isFinite then some (.valueNotFinite field)
      else if value.kind != first.kind then some (.mixedValues field first.kind value.kind)
      else none

/-! ### The kinds -/

def Range.fault? (range : Range) : Option InvalidRule :=
  if range.min.isNone && range.max.isNone then some .noBounds
  else if range.min.any (!·.isFinite) then some (.boundNotFinite "min")
  else if range.max.any (!·.isFinite) then some (.boundNotFinite "max")
  else
    match range.min, range.max with
    | some min, some max =>
      match min.compare? max with
      | some .lt => none
      | some .eq =>
        if range.minInclusive && range.maxInclusive then none else some (.boundsOpen min)
      | _ => some (.boundsReversed min max)
    | _, _ => none

def Length.fault? (length : Length) : Option InvalidRule :=
  match length.min, length.max with
  | none, none => some .noLengths
  | some min, none => if min < 0 then some (.negativeLength "min_length" min) else none
  | none, some max => if max < 0 then some (.negativeLength "max_length" max) else none
  | some min, some max =>
    if min < 0 then some (.negativeLength "min_length" min)
    else if max < 0 then some (.negativeLength "max_length" max)
    else if max < min then some (.lengthsReversed max min)
    else none

variable [Pattern.SizeTest]

/-- The fault of a pattern: it must compile, and use only what the database's
engine reads the same way. -/
def patternFault? (pattern : String) : Option InvalidRule :=
  if pattern.isEmpty then some .emptyPattern
  else if hasNul pattern then some .nulInPattern
  else
    match Pattern.compile false pattern with
    | .error error => some (.invalidPattern pattern error)
    | .ok _ => (Pattern.unshared? pattern).map .unsharedConstruct

/-- The fault of one trigger condition on columns other than the required ones. -/
def Condition.fault? (target : List String) (condition : Condition) : Option InvalidRule :=
  match columnFault? "when" condition.column with
  | some fault => some fault
  | none =>
    if target.contains condition.column then some (.triggerOnTarget condition.column)
    else
      match condition with
      | .compare _ _ value => if value.isFinite then none else some (.valueNotFinite "when")
      | .isIn _ values => valuesFault? "when" values
      | .isNull _ | .isNotNull _ => none

def Requirement.fault? (target : List String) (requirement : Requirement) : Option InvalidRule :=
  if requirement.when.isEmpty then some .noConditions
  else requirement.when.findSome? (Condition.fault? target)

/-- The first fault in the parameters of a kind. -/
def RuleKind.fault? (target : List String) (allowNull : Bool) : RuleKind → Option InvalidRule
  | .range bounds => bounds.fault?
  | .parity _ => none
  | .presence columnType =>
    if columnType = .nonText ∧ allowNull then some .nullOnPresence else none
  | .length bounds => bounds.fault?
  | .inclusion values => valuesFault? "values" values
  | .format f => patternFault? f.pattern
  | .conditional requirement =>
    if allowNull then some .nullOnConditional else requirement.fault? target

/-! ### Rules -/

/-- The first thing that is wrong with a rule. -/
def RuleSpec.fault? (spec : RuleSpec) : Option InvalidRule :=
  match targetFault? spec.target with
  | some fault => some fault
  | none =>
    match labelFault? spec.label with
    | some fault => some fault
    | none =>
      if spec.allowBlank && !spec.kind.isTextValued then some (.blankNotAllowed spec.kind.name)
      else spec.kind.fault? spec.target spec.allowNull

/-- A rule with nothing wrong. -/
structure Rule where
  spec : RuleSpec
  valid : spec.fault? = none

namespace Rule

abbrev kind (r : Rule) : RuleKind := r.spec.kind

abbrev target (r : Rule) : List String := r.spec.target

/-- Whether two rules are the same. -/
def same (r s : Rule) : Bool := r.spec.same s.spec

def describe (r : Rule) : String := r.spec.describe

end Rule

/-- Check a rule. -/
def RuleSpec.build (spec : RuleSpec) : Except InvalidRule Rule :=
  match h : spec.fault? with
  | some fault => .error fault
  | none => .ok ⟨spec, h⟩

end ColumnChecks
