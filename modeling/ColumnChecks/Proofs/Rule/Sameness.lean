import ColumnChecks.Proofs.Rule.Mentions
import ColumnChecks.Proofs.Rule.Validity

/-!
# When two rules are the same

Two rules are the same when they are written with the same parts, decimals being compared as
numbers. Of two finite decimals that are one number only the signs of zeros may differ, and so
**the same rules are those that are equal once every zero is plain**
(`ColumnChecks.Rule.same_iff`). This makes sameness an equivalence, and shows what it leaves
open: rules that mention no `-0.0` are only the same if they are equal
(`ColumnChecks.Rule.eq_of_same`), but a rule with a `-0.0` is the same as the rule with `0.0`
in its place.
-/

namespace ColumnChecks

/-! ### Finite numbers -/

/-- All numbers that a condition mentions are finite. -/
def Condition.Finite (c : Condition) : Prop :=
  ∀ values, c.values? = some values → ∀ v ∈ values, v.isFinite = true

/-- All numbers that a kind mentions are finite. -/
def RuleKind.Finite : RuleKind → Prop
  | .range bounds => (∀ min, bounds.min = some min → min.isFinite = true) ∧
      ∀ max, bounds.max = some max → max.isFinite = true
  | .inclusion values => ∀ v ∈ values, v.isFinite = true
  | .conditional r => ∀ c ∈ r.when, c.Finite
  | _ => True

/-- The values of a kind are finite if its numbers are. -/
theorem RuleKind.isFinite_literals {kind : RuleKind} (h : kind.Finite) :
    ∀ v ∈ kind.literals, v.isFinite = true := by
  intro v hv
  cases kind with
  | range bounds =>
    rw [literals, List.map_append, List.mem_append, List.mem_map, List.mem_map] at hv
    rcases hv with ⟨n, hn, rfl⟩ | ⟨n, hn, rfl⟩
    · exact Numeric.isFinite_toLiteral (h.1 n (Option.mem_toList.1 hn))
    · exact Numeric.isFinite_toLiteral (h.2 n (Option.mem_toList.1 hn))
  | inclusion vs => exact h v hv
  | conditional r =>
    obtain ⟨c, hc, hvalue⟩ := List.mem_flatMap.1 hv
    cases hvalues : c.values? with
    | none => simp [Condition.literals, hvalues] at hvalue
    | some values =>
      rw [Condition.literals, hvalues] at hvalue
      exact h c hc values hvalues v hvalue
  | parity | presence | length | format => cases hv

/-! ### Plain zeros -/

/-- The decimal with the sign of a zero taken off. -/
def Decimal.plainZero : Decimal → Decimal
  | .nan => .nan
  | .number negative rank => .number (negative && rank.val != 0) rank

def Numeric.plainZero : Numeric → Numeric
  | .decimal d => .decimal d.plainZero
  | n => n

def Literal.plainZero : Literal → Literal
  | .decimal d => .decimal d.plainZero
  | v => v

/-- The condition with plain zeros. -/
def Condition.plainZeros : Condition → Condition
  | .compare column op v => .compare column op v.plainZero
  | .isIn column vs => .isIn column (vs.map Literal.plainZero)
  | c => c

/-- The kind with plain zeros. -/
def RuleKind.plainZeros : RuleKind → RuleKind
  | .range bounds => .range { bounds with
      min := bounds.min.map Numeric.plainZero, max := bounds.max.map Numeric.plainZero }
  | .inclusion values => .inclusion (values.map Literal.plainZero)
  | .conditional r => .conditional { r with when := r.when.map Condition.plainZeros }
  | kind => kind

/-- The rule with plain zeros. -/
def RuleSpec.plainZeros (spec : RuleSpec) : RuleSpec := { spec with kind := spec.kind.plainZeros }

/-! ### Sameness of the parts -/

/-- Two places of the line are one if rank and sign are, but zero has no sign. -/
theorem Decimal.place_eq_iff {negative negative' : Bool} {rank rank' : Nat} :
    place negative rank = place negative' rank' ↔
      (negative && rank != 0) = (negative' && rank' != 0) ∧ rank = rank' := by
  unfold place
  rcases Nat.eq_zero_or_pos rank with rfl | hpos
  · rcases Nat.eq_zero_or_pos rank' with rfl | hpos'
    · simp
    · cases negative' with
      | false => simp; omega
      | true => simp; omega
  · have hne : (rank != 0) = true := bne_iff_ne.2 hpos.ne'
    rcases Nat.eq_zero_or_pos rank' with rfl | hpos'
    · cases negative <;> simp
    · have hne' : (rank' != 0) = true := bne_iff_ne.2 hpos'.ne'
      cases negative <;> cases negative' <;> simp [hne, hne'] <;> omega

/-- **Equal as numbers** are the decimals that are equal with plain zeros. -/
theorem Decimal.numEq_iff {x y : Decimal} (hx : x.isFinite = true) :
    x.numEq y = true ↔ x.plainZero = y.plainZero := by
  cases x with
  | nan => cases hx
  | number negative rank =>
    cases y with
    | nan => constructor <;> rintro ⟨⟩
    | number negative' rank' =>
      rw [numEq, compare?, beq_iff_eq, Option.some_inj, compare_eq_iff_eq, place_eq_iff,
        plainZero, plainZero, number.injEq, Fin.ext_iff]

theorem Numeric.same_iff {m n : Numeric} (h : m.isFinite = true) :
    m.same n = true ↔ m.plainZero = n.plainZero := by
  cases m <;> cases n
  · simp [same, plainZero]
  · exact iff_of_false nofun nofun
  · exact iff_of_false nofun nofun
  · simpa [same, plainZero] using Decimal.numEq_iff h

theorem Literal.same_iff {v w : Literal} (h : v.isFinite = true) :
    v.same w = true ↔ v.plainZero = w.plainZero := by
  cases v <;> cases w
  case decimal.decimal x y => simpa [same, plainZero] using Decimal.numEq_iff h
  all_goals simp [same, plainZero]

/-- Lists agree entry by entry if their normal forms do. -/
theorem sameLists_iff {α : Type} {same : α → α → Bool} {normal : α → α} {xs ys : List α}
    (h : ∀ x ∈ xs, ∀ y, same x y = true ↔ normal x = normal y) :
    sameLists same xs ys = true ↔ xs.map normal = ys.map normal := by
  induction xs generalizing ys with
  | nil => cases ys <;> simp [sameLists]
  | cons x xs ih =>
    rw [List.forall_mem_cons] at h
    cases ys with
    | nil => constructor <;> rintro ⟨⟩
    | cons y ys => simp [sameLists, h.1, ih h.2]

theorem sameOptions_iff {α : Type} {same : α → α → Bool} {normal : α → α} {a b : Option α}
    (h : ∀ x, a = some x → ∀ y, same x y = true ↔ normal x = normal y) :
    sameOptions same a b = true ↔ a.map normal = b.map normal := by
  cases a with
  | none => cases b <;> simp [sameOptions]
  | some x => cases b <;> simp [sameOptions, h x rfl]

theorem Condition.same_iff {c d : Condition} (h : c.Finite) :
    c.same d = true ↔ c.plainZeros = d.plainZeros := by
  cases c <;> cases d
  case compare.compare column op v column' op' w =>
    simp [same, plainZeros, Literal.same_iff (h [v] rfl v List.mem_cons_self), and_assoc]
  case isIn.isIn column vs column' ws =>
    have hvs : sameLists Literal.same vs ws = true ↔
        vs.map Literal.plainZero = ws.map Literal.plainZero :=
      sameLists_iff fun v hv _ => Literal.same_iff (h vs rfl v hv)
    simp [same, plainZeros, hvs]
  all_goals simp [same, plainZeros]

theorem RuleKind.same_iff {kind other : RuleKind} (h : kind.Finite) :
    kind.same other = true ↔ kind.plainZeros = other.plainZeros := by
  cases kind <;> cases other
  case range.range r s =>
    have hmin : sameOptions Numeric.same r.min s.min = true ↔
        r.min.map Numeric.plainZero = s.min.map Numeric.plainZero :=
      sameOptions_iff fun m hm _ => Numeric.same_iff (h.1 m hm)
    have hmax : sameOptions Numeric.same r.max s.max = true ↔
        r.max.map Numeric.plainZero = s.max.map Numeric.plainZero :=
      sameOptions_iff fun m hm _ => Numeric.same_iff (h.2 m hm)
    simp [same, plainZeros, hmin, hmax, and_assoc]
  case inclusion.inclusion vs ws =>
    have hvs : sameLists Literal.same vs ws = true ↔
        vs.map Literal.plainZero = ws.map Literal.plainZero :=
      sameLists_iff fun v hv _ => Literal.same_iff (h v hv)
    simp [same, plainZeros, hvs]
  case conditional.conditional r s =>
    have hwhen : sameLists Condition.same r.when s.when = true ↔
        r.when.map Condition.plainZeros = s.when.map Condition.plainZeros :=
      sameLists_iff fun c hc _ => Condition.same_iff (h c hc)
    simp [same, plainZeros, hwhen]
  all_goals simp [same, plainZeros]

/-! ### Parts without negative zeros -/

theorem Decimal.plainZero_eq_self {d : Decimal} (h : d ≠ .negativeZero) : d.plainZero = d := by
  cases d with
  | nan => rfl
  | number negative rank =>
    cases negative with
    | false => rfl
    | true =>
      have hrank : rank.val ≠ 0 := fun h0 => h (by rw [show rank = 0 from Fin.ext h0]; rfl)
      rw [plainZero, bne_iff_ne.2 hrank, Bool.and_self]

theorem Literal.plainZero_eq_self {v : Literal} (h : v ≠ .decimal .negativeZero) :
    v.plainZero = v := by
  cases v with
  | decimal d => rw [plainZero, Decimal.plainZero_eq_self fun hd => h (by rw [hd])]
  | boolean | integer | text => rfl

theorem Numeric.plainZero_eq_self {n : Numeric} (h : n.toLiteral ≠ .decimal .negativeZero) :
    n.plainZero = n := by
  cases n with
  | decimal d => rw [plainZero, Decimal.plainZero_eq_self fun hd => h (by rw [hd]; rfl)]
  | integer => rfl

theorem Literal.map_plainZero_eq_self {vs : List Literal} (h : .decimal .negativeZero ∉ vs) :
    vs.map Literal.plainZero = vs := by
  have hall : ∀ v ∈ vs, v.plainZero = id v := fun v hv =>
    Literal.plainZero_eq_self fun heq => h (heq ▸ hv)
  rw [List.map_congr_left hall, List.map_id]

theorem Numeric.map_plainZero_eq_self {bound : Option Numeric}
    (h : .decimal .negativeZero ∉ bound.toList.map Numeric.toLiteral) :
    bound.map Numeric.plainZero = bound := by
  cases bound with
  | none => rfl
  | some n =>
    have hn : n.toLiteral ≠ .decimal .negativeZero := fun heq => h (heq ▸ List.mem_cons_self)
    rw [Option.map_some, Numeric.plainZero_eq_self hn]

theorem Condition.plainZeros_eq_self {c : Condition} (h : .decimal .negativeZero ∉ c.literals) :
    c.plainZeros = c := by
  cases c with
  | compare column op v =>
    rw [plainZeros, Literal.plainZero_eq_self fun hv => h (hv ▸ List.mem_cons_self)]
  | isIn column vs => exact congrArg (isIn column) (Literal.map_plainZero_eq_self h)
  | isNull | isNotNull => rfl

theorem RuleKind.plainZeros_eq_self {kind : RuleKind}
    (h : .decimal .negativeZero ∉ kind.literals) : kind.plainZeros = kind := by
  cases kind with
  | range bounds =>
    rw [literals, List.map_append, List.mem_append, not_or] at h
    rw [plainZeros, Numeric.map_plainZero_eq_self h.1, Numeric.map_plainZero_eq_self h.2]
  | inclusion values => exact congrArg inclusion (Literal.map_plainZero_eq_self h)
  | conditional r =>
    have hall : ∀ c ∈ r.when, c.plainZeros = id c := fun c hc =>
      Condition.plainZeros_eq_self fun hv => h (List.mem_flatMap.2 ⟨c, hc, hv⟩)
    rw [plainZeros, List.map_congr_left hall, List.map_id]
  | parity | presence | length | format => rfl

/-! ### Sameness of rules -/

variable [Pattern.SizeTest]

/-- The numbers of a kind without a fault are finite. -/
theorem RuleKind.finite_of_fault?_eq_none {kind : RuleKind} {target : List String}
    {allowNull : Bool} (h : kind.fault? target allowNull = none) : kind.Finite := by
  cases kind with
  | range bounds => exact (Range.of_fault?_eq_none h).2
  | inclusion values => exact fun v hv => ((valuesFault?_eq_none_iff.1 h).2 v hv).1
  | conditional r =>
    rw [RuleKind.fault?] at h
    split_ifs at h
    intro c hc values hvalues v hv
    have hcondition := (Requirement.fault?_eq_none_iff.1 h).2 c hc
    have hfault := (Condition.of_fault?_eq_none hcondition).2.2 values hvalues
    exact ((valuesFault?_eq_none_iff.1 hfault).2 v hv).1
  | _ => trivial

theorem Rule.kind_finite (rule : Rule) : rule.kind.Finite :=
  RuleKind.finite_of_fault?_eq_none (RuleSpec.fault?_eq_none_iff.1 rule.valid).2.2.2

/-- **The same rules are those that are equal once every zero is plain.** -/
theorem Rule.same_iff {rule other : Rule} :
    rule.same other = true ↔ rule.spec.plainZeros = other.spec.plainZeros := by
  obtain ⟨⟨target, kind, allowNull, allowBlank, label, validate⟩, hvalid⟩ := rule
  have hkind : ∀ kind' : RuleKind, kind.same kind' = true ↔ kind.plainZeros = kind'.plainZeros :=
    fun _ => RuleKind.same_iff (Rule.kind_finite ⟨_, hvalid⟩)
  simp [same, RuleSpec.same, RuleSpec.plainZeros, hkind, and_assoc]

theorem Rule.same_self (rule : Rule) : rule.same rule = true := Rule.same_iff.2 rfl

variable {rule other third : Rule}

theorem Rule.same_symm (h : rule.same other = true) : other.same rule = true :=
  Rule.same_iff.2 (Rule.same_iff.1 h).symm

theorem Rule.same_trans (h : rule.same other = true) (h' : other.same third = true) :
    rule.same third = true :=
  Rule.same_iff.2 ((Rule.same_iff.1 h).trans (Rule.same_iff.1 h'))

/-- What rules that are the same share. -/
theorem Rule.parts_of_same (h : rule.same other = true) :
    rule.spec.target = other.spec.target ∧ rule.spec.label = other.spec.label ∧
      rule.spec.validate = other.spec.validate ∧
      rule.spec.kind.plainZeros = other.spec.kind.plainZeros := by
  have hspec := Rule.same_iff.1 h
  rw [RuleSpec.plainZeros, RuleSpec.plainZeros, RuleSpec.mk.injEq] at hspec
  obtain ⟨htarget, hkind, -, -, hlabel, hvalidate⟩ := hspec
  exact ⟨htarget, hlabel, hvalidate, hkind⟩

/-- A rule is known by how it was written. -/
theorem Rule.ext_spec (h : rule.spec = other.spec) : rule = other := by
  cases rule
  cases other
  congr

/-- **Rules that mention no `-0.0`** are only the same if they are equal. -/
theorem Rule.eq_of_same (h : rule.same other = true)
    (hrule : .decimal .negativeZero ∉ rule.spec.kind.literals)
    (hother : .decimal .negativeZero ∉ other.spec.kind.literals) : rule = other := by
  have hspec := Rule.same_iff.1 h
  rw [RuleSpec.plainZeros, RuleSpec.plainZeros, RuleKind.plainZeros_eq_self hrule,
    RuleKind.plainZeros_eq_self hother] at hspec
  exact Rule.ext_spec hspec

end ColumnChecks
