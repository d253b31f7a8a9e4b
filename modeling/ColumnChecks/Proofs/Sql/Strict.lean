import ColumnChecks.Proofs.Results
import ColumnChecks.Proofs.Sql.Kleene

/-!
# Predicates all of whose operands are evaluated

The truth values are ordered: false is below unknown, and unknown below true
(`ColumnChecks.Sql.Truth.degree`). In this order a conjunction is the least of its operands, a
disjunction the greatest, and a negation turns the order around. `ColumnChecks.Sql.Expr.strict`
takes this literally. It evaluates every part of an expression, whether or not it is needed, and
has a value only if every part has one.

The evaluator stops at the first operand that decides. **Where strict evaluation has a value, the
evaluator has the same** (`ColumnChecks.Sql.Expr.value_of_strict`): the least value of some
operands is what a walk over them finds (`ColumnChecks.Sql.connect_of_forall₂`), and that walk
fails only where one of them does.
-/

namespace ColumnChecks.Sql

/-! ### The order of truth values -/

namespace Truth

/-- The place of a truth value in the order: false, unknown, true. -/
def degree : Truth → Nat
  | some false => 0
  | none => 1
  | some true => 2

/-- The lesser of two truth values. -/
def lesser (s t : Truth) : Truth := if degree s ≤ degree t then s else t

/-- The greater of two truth values. -/
def greater (s t : Truth) : Truth := if degree s ≤ degree t then t else s

/-- The least of some truth values; of none it is true, which is above all of them. -/
def minimum (ts : List Truth) : Truth := ts.foldr lesser (some true)

/-- The greatest of some truth values; of none it is false. -/
def maximum (ts : List Truth) : Truth := ts.foldr greater (some false)

/-- The truth value at the same place of the reversed order. -/
def reversed : Truth → Truth
  | some false => some true
  | none => none
  | some true => some false

theorem reversed_eq_map (t : Truth) : reversed t = t.map (!·) := by
  rcases t with _ | _ | _ <;> rfl

end Truth

/-! ### Joining as the least and the greatest -/

theorem joinTruths_decided_cons (neutral : Bool) (ts : List Truth) :
    joinTruths neutral (some (!neutral) :: ts) = some (!neutral) :=
  joinTruths_eq_decided.2 List.mem_cons_self

theorem joinTruths_none_cons (neutral : Bool) (ts : List Truth) :
    joinTruths neutral (none :: ts) =
      if joinTruths neutral ts = some (!neutral) then some (!neutral) else none := by
  simp [joinTruths]

/-- **The least of some truth values** is that of a conjunction of them. -/
theorem minimum_eq_joinTruths (ts : List Truth) : Truth.minimum ts = joinTruths true ts := by
  induction ts with
  | nil => rfl
  | cons t ts ih =>
    rw [Truth.minimum, List.foldr_cons, ← Truth.minimum, ih]
    rcases t with _ | _ | _
    · rw [joinTruths_none_cons]
      rcases joinTruths true ts with _ | _ | _ <;> rfl
    · have hfalse : joinTruths true (some false :: ts) = some false :=
        joinTruths_decided_cons true ts
      rw [hfalse]
      rcases joinTruths true ts with _ | _ | _ <;> rfl
    · rw [joinTruths_cons_neutral]
      rcases joinTruths true ts with _ | _ | _ <;> rfl

/-- **The greatest of some truth values** is that of a disjunction of them. -/
theorem maximum_eq_joinTruths (ts : List Truth) : Truth.maximum ts = joinTruths false ts := by
  induction ts with
  | nil => rfl
  | cons t ts ih =>
    rw [Truth.maximum, List.foldr_cons, ← Truth.maximum, ih]
    rcases t with _ | _ | _
    · rw [joinTruths_none_cons]
      rcases joinTruths false ts with _ | _ | _ <;> rfl
    · rw [joinTruths_cons_neutral]
      rcases joinTruths false ts with _ | _ | _ <;> rfl
    · have htrue : joinTruths false (some true :: ts) = some true :=
        joinTruths_decided_cons false ts
      rw [htrue]
      rcases joinTruths false ts with _ | _ | _ <;> rfl

/-- Induction on expressions, where a connective has the property of its operands. -/
@[elab_as_elim]
theorem Expr.operandInduction {motive : Expr → Prop} (column : ∀ name, motive (.column name))
    (literal : ∀ v, motive (.literal v))
    (compare : ∀ left op right, motive left → motive right → motive (.compare left op right))
    (modulo : ∀ e divisor, motive e → motive (.modulo e divisor))
    (charLength : ∀ e, motive e → motive (.charLength e))
    (between : ∀ e low high, motive e → motive (.between e low high))
    (inList : ∀ e values, motive e → motive (.inList e values))
    (regexMatch : ∀ e pattern negated caseInsensitive, motive e →
      motive (.regexMatch e pattern negated caseInsensitive))
    (isNull : ∀ e negated, motive e → motive (.isNull e negated))
    (coalesce : ∀ e fallback, motive e → motive (.coalesce e fallback))
    (not : ∀ e, motive e → motive (.not e))
    (and : ∀ es, (∀ e ∈ es, motive e) → motive (.and es))
    (or : ∀ es, (∀ e ∈ es, motive e) → motive (.or es)) (e : Expr) : motive e :=
  @Expr.rec motive (fun es => ∀ e ∈ es, motive e) column literal compare modulo charLength between
    inList regexMatch isNull coalesce not and or (List.forall_mem_nil _)
    (fun _ _ he hes => List.forall_mem_cons.2 ⟨he, hes⟩) e

/-! ### Strict evaluation -/

variable [Pattern.SizeTest]

mutual

/-- **The value of an expression, all parts of which are evaluated.** -/
def Expr.strict (row : Row) : Expr → Except EvalError (Option Literal)
  | .column name => .ok (row name)
  | .literal v => .ok (some v)
  | .compare left op right => do
    let l ← left.strict row
    let r ← right.strict row
    match l, r with
    | some l, some r => do .ok (some (.boolean (op.holds (← compareValues l r))))
    | _, _ => .ok none
  | .modulo e divisor =>
    if divisor = 0 then .error .divisionByZero
    else do
      match ← e.strict row with
      | none => .ok none
      | some v => do .ok (some (← remainderOf v divisor))
  | .charLength e => do
    match ← e.strict row with
    | none => .ok none
    | some v => do .ok (some (← lengthOf v))
  | .between e low high => do
    match ← e.strict row with
    | none => .ok none
    | some v => do
      let low ← compareValues v low.toLiteral
      let high ← compareValues v high.toLiteral
      .ok (some (.boolean (low != .lt && high != .gt)))
  | .inList e values => do
    match ← e.strict row with
    | none => .ok none
    | some v => do .ok (some (.boolean (← isAmong v values)))
  | .regexMatch e pattern negated caseInsensitive => do
    match ← e.strict row with
    | none => .ok none
    | some (.text s) => do
      .ok (some (.boolean ((← matchesPattern pattern caseInsensitive s) != negated)))
    | some other => .error (.notText other)
  | .isNull e negated => do .ok (some (.boolean ((← e.strict row).isNone != negated)))
  | .coalesce e fallback => do
    .ok (some (.boolean ((← truthOf (← e.strict row)).getD fallback)))
  | .not e => do .ok (ofTruth (Truth.reversed (← truthOf (← e.strict row))))
  | .and es => do .ok (ofTruth (Truth.minimum (← Expr.strictTruths row es)))
  | .or es => do .ok (ofTruth (Truth.maximum (← Expr.strictTruths row es)))

/-- The truth values of all operands. -/
def Expr.strictTruths (row : Row) : List Expr → Except EvalError (List Truth)
  | [] => .ok []
  | e :: es => do
    let t ← truthOf (← e.strict row)
    let ts ← Expr.strictTruths row es
    .ok (t :: ts)

end

/-- **The truth value of a predicate, all parts of which are evaluated.** -/
def Expr.strictTruth (row : Row) (e : Expr) : Except EvalError Truth := do
  truthOf (← e.strict row)

variable {row : Row}

theorem strictTruths_cons (e : Expr) (es : List Expr) :
    Expr.strictTruths row (e :: es) = e.strictTruth row >>= fun t =>
      Expr.strictTruths row es >>= fun ts => .ok (t :: ts) := by
  rw [Expr.strictTruths, Expr.strictTruth]
  cases e.strict row <;> rfl

/-- The truth values of operands, one by one. -/
theorem strictTruths_eq_ok_iff {es : List Expr} {ts : List Truth} :
    Expr.strictTruths row es = .ok ts ↔
      List.Forall₂ (fun e t => e.strictTruth row = .ok t) es ts := by
  induction es generalizing ts with
  | nil => rw [Expr.strictTruths, List.forall₂_nil_left_iff, Except.ok.injEq, eq_comm]
  | cons e es ih =>
    rw [strictTruths_cons, List.forall₂_cons_left_iff]
    simp only [← ih, bind_eq_ok_iff, Except.ok.injEq]
    constructor
    · rintro ⟨t, ht, us, hus, rfl⟩
      exact ⟨t, us, ht, hus, rfl⟩
    · rintro ⟨t, us, ht, hus, rfl⟩
      exact ⟨t, ht, us, hus, rfl⟩

/-! ### The walk over operands -/

variable {es : List Expr} {ts : List Truth}

/-- A walk over operands that all have truth values does not fail. -/
theorem connect_ne_error (h : List.Forall₂ (fun e t => e.evaluate row = .ok t) es ts)
    (neutral : Bool) (sofar : Truth) (x : EvalError) :
    Expr.connect row neutral sofar es ≠ .error x := by
  induction h generalizing sofar with
  | nil =>
    rw [Expr.connect]
    rintro ⟨⟩
  | @cons e t es ts he _ ih =>
    rw [Expr.connect_cons, he]
    -- The walk goes on unless the operand decides.
    rcases t with _ | b
    · exact ih none
    · simp only [bind, Except.bind]
      split_ifs
      · exact ih sofar
      · rintro ⟨⟩

/-- **A walk over operands that all have truth values** finds what joining these gives. -/
theorem connect_of_forall₂ (h : List.Forall₂ (fun e t => e.evaluate row = .ok t) es ts)
    (neutral : Bool) :
    Expr.connect row neutral (some neutral) es = .ok (joinTruths neutral ts) := by
  have hyields : List.Forall₂ (Expr.Yields row) es ts := h.imp fun _ _ => Expr.Yields.of_eq
  rcases Expr.connect_yields neutral hyields (some neutral) (by simp) with hok | ⟨_, _, herror⟩
  · rw [hok, joinTruths_cons_neutral]
  · exact absurd herror (connect_ne_error h neutral _ _)

/-! ### The evaluator and strict evaluation -/

/-- What strict evaluation has a value for, the evaluator has the same for. -/
def Expr.Agrees (row : Row) (e : Expr) : Prop :=
  ∀ v, e.strict row = .ok v → e.value row = .ok v

theorem Expr.Agrees.evaluate {e : Expr} (he : e.Agrees row) {t : Truth}
    (h : e.strictTruth row = .ok t) : e.evaluate row = .ok t := by
  obtain ⟨v, hv, ht⟩ := exists_of_bind_eq_ok h
  rw [Expr.evaluate, he v hv]
  exact ht

/-- A walk over operands finds what joining their strict truth values gives. -/
theorem Expr.Agrees.connect (hes : ∀ e ∈ es, e.Agrees row) (h : strictTruths row es = .ok ts)
    (neutral : Bool) : connect row neutral (some neutral) es = .ok (joinTruths neutral ts) := by
  have htruths := (List.forall₂_and_left es ts).2 ⟨hes, strictTruths_eq_ok_iff.1 h⟩
  exact connect_of_forall₂ (htruths.imp fun _ _ he => Agrees.evaluate he.1 he.2) neutral

/-- **Where strict evaluation has a value, the evaluator has the same.** -/
theorem Expr.value_of_strict (e : Expr) : e.Agrees row := by
  induction e using Expr.operandInduction with
  | column name => exact fun _ => id
  | literal v => exact fun _ => id
  | compare left op right ihl ihr =>
    intro v h
    rw [strict] at h
    obtain ⟨l, hl, h⟩ := exists_of_bind_eq_ok h
    obtain ⟨r, hr, h⟩ := exists_of_bind_eq_ok h
    rw [value, ihl l hl, ihr r hr]
    exact h
  | modulo e divisor ih =>
    intro v h
    rw [strict] at h
    rw [value]
    split_ifs at h ⊢
    obtain ⟨w, hw, h⟩ := exists_of_bind_eq_ok h
    rw [ih w hw]
    exact h
  | charLength e ih | between e low high ih | inList e values ih | isNull e negated ih
  | regexMatch e pattern negated caseInsensitive ih | coalesce e fallback ih =>
    intro v h
    rw [strict] at h
    obtain ⟨w, hw, h⟩ := exists_of_bind_eq_ok h
    rw [value, ih w hw]
    exact h
  | not e ih =>
    intro v h
    rw [strict] at h
    obtain ⟨w, hw, h⟩ := exists_of_bind_eq_ok h
    simp only [Truth.reversed_eq_map] at h
    rw [value, ih w hw]
    exact h
  | and es ih =>
    -- All operands have strict truth values, also those that the walk does not come to.
    intro v h
    rw [strict] at h
    obtain ⟨ts, hts, h⟩ := exists_of_bind_eq_ok h
    rw [minimum_eq_joinTruths] at h
    rw [value, Agrees.connect ih hts]
    exact h
  | or es ih =>
    intro v h
    rw [strict] at h
    obtain ⟨ts, hts, h⟩ := exists_of_bind_eq_ok h
    rw [maximum_eq_joinTruths] at h
    rw [value, Agrees.connect ih hts]
    exact h

end ColumnChecks.Sql
