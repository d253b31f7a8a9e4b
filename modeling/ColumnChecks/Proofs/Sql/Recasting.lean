import Mathlib.Data.List.Perm.Basic
import ColumnChecks.Proofs.Sql.Strict

/-!
# Predicates that are written another way

A predicate can be recast in many ways that logic does not see
(`ColumnChecks.Sql.Expr.Recasts`): operands change places, nested connectives of one kind become
one, a connective of one operand is taken for the operand, and a negation is moved inside by De
Morgan's laws. All of this may happen anywhere in an expression and any number of times.

The evaluator might see it: it stops at the first operand that decides, and what is behind that
one may have no value. But where every part has a value, evaluation is strict evaluation, and the
truth value of a connective depends on the truth values of its operands alone. So **recasting a
predicate that strict evaluation has a value for does not change what it evaluates to**
(`ColumnChecks.Sql.Expr.evaluate_recasts`).
-/

namespace ColumnChecks.Sql

/-! ### What joining does not see -/

theorem joinTruths_perm {ts us : List Truth} (neutral : Bool) (h : ts.Perm us) :
    joinTruths neutral ts = joinTruths neutral us := by
  simp only [joinTruths, h.mem_iff]

/-- **Joined truth values may be joined at once.** -/
theorem joinTruths_flatten (neutral : Bool) (before inner after : List Truth) :
    joinTruths neutral (before ++ joinTruths neutral inner :: after) =
      joinTruths neutral (before ++ inner ++ after) := by
  have hdecided : some (!neutral) = joinTruths neutral inner ↔ some (!neutral) ∈ inner :=
    eq_comm.trans joinTruths_eq_decided
  have hnone : none = joinTruths neutral inner ↔ some (!neutral) ∉ inner ∧ none ∈ inner :=
    eq_comm.trans joinTruths_eq_none
  -- Joining asks only whether there is a deciding operand and whether there is an unknown one.
  generalize joinTruths neutral inner = joined at hdecided hnone ⊢
  rw [joinTruths, joinTruths]
  simp only [List.mem_append, List.mem_cons, hdecided, hnone, or_assoc]
  by_cases h : some (!neutral) ∈ before ∨ some (!neutral) ∈ inner ∨ some (!neutral) ∈ after
  · rw [if_pos h, if_pos h]
  · have hinner : some (!neutral) ∉ inner := fun hmem => h (Or.inr (Or.inl hmem))
    rw [if_neg h, if_neg h]
    simp only [hinner, not_false_eq_true, true_and]

theorem mem_map_reversed {t : Truth} {ts : List Truth} :
    Truth.reversed t ∈ ts.map Truth.reversed ↔ t ∈ ts := by
  have hinjective : Function.Injective Truth.reversed := by
    intro s t h
    rcases s with _ | _ | _ <;> rcases t with _ | _ | _ <;> first | rfl | cases h
  exact List.mem_map_of_injective hinjective

/-- **De Morgan's laws**, for truth values. -/
theorem joinTruths_map_reversed (neutral : Bool) (ts : List Truth) :
    joinTruths (!neutral) (ts.map Truth.reversed) = Truth.reversed (joinTruths neutral ts) := by
  have hsome : ∀ b, Truth.reversed (some b) = some (!b) := by decide
  have hdecided : some (!!neutral) ∈ ts.map Truth.reversed ↔ some (!neutral) ∈ ts := by
    rw [← hsome, mem_map_reversed]
  have hnone : none ∈ ts.map Truth.reversed ↔ none ∈ ts := mem_map_reversed (t := none)
  rw [joinTruths, joinTruths]
  simp only [hdecided, hnone]
  split_ifs
  · exact (hsome _).symm
  · rfl
  · exact (hsome _).symm

namespace Expr

/-! ### Recasting -/

/-- A conjunction, of which `true` is the neutral operand, or a disjunction. -/
def connective (neutral : Bool) (es : List Expr) : Expr := if neutral then .and es else .or es

/-- The same, where a single operand is taken for itself. -/
def combined (neutral : Bool) (es : List Expr) : Expr := if neutral then .all es else .any es

/-- What an expression is used for: its value, or only its truth value. -/
inductive Role where
  | value
  | condition

/-- **Writing an expression another way.** A connective of one operand has a truth value; so the
operand may be put in its place wherever it stands, but it may only stand for the operand where a
truth value is wanted. -/
inductive Recasts : Role → Expr → Expr → Prop where
  | refl (role : Role) (e : Expr) : Recasts role e e
  | trans {role : Role} {e f g : Expr} (h : Recasts role e f) (h' : Recasts role f g) :
    Recasts role e g
  | ofValue {e f : Expr} (h : Recasts .value e f) : Recasts .condition e f
  | permute (neutral : Bool) {es fs : List Expr} (h : es.Perm fs) :
    Recasts .value (connective neutral es) (connective neutral fs)
  | flatten (neutral : Bool) (before inner after : List Expr) :
    Recasts .value (connective neutral (before ++ connective neutral inner :: after))
      (connective neutral (before ++ inner ++ after))
  | nest (neutral : Bool) (before inner after : List Expr) :
    Recasts .value (connective neutral (before ++ inner ++ after))
      (connective neutral (before ++ connective neutral inner :: after))
  | collapse (neutral : Bool) (es : List Expr) :
    Recasts .value (connective neutral es) (combined neutral es)
  | expand (neutral : Bool) (es : List Expr) :
    Recasts .condition (combined neutral es) (connective neutral es)
  | negateInside (neutral : Bool) (es : List Expr) :
    Recasts .value (.not (connective neutral es)) (connective (!neutral) (es.map .not))
  | negateOutside (neutral : Bool) (es : List Expr) :
    Recasts .value (connective (!neutral) (es.map .not)) (.not (connective neutral es))
  | operand (neutral : Bool) (before after : List Expr) {e f : Expr} (h : Recasts .condition e f) :
    Recasts .value (connective neutral (before ++ e :: after))
      (connective neutral (before ++ f :: after))
  | not {e f : Expr} (h : Recasts .condition e f) : Recasts .value (.not e) (.not f)
  | coalesce {e f : Expr} (h : Recasts .condition e f) (fallback : Bool) :
    Recasts .value (.coalesce e fallback) (.coalesce f fallback)
  | compare {e f e' f' : Expr} (h : Recasts .value e f) (op : Comparison)
    (h' : Recasts .value e' f') : Recasts .value (.compare e op e') (.compare f op f')
  | modulo {e f : Expr} (h : Recasts .value e f) (divisor : Int64) :
    Recasts .value (.modulo e divisor) (.modulo f divisor)
  | charLength {e f : Expr} (h : Recasts .value e f) :
    Recasts .value (.charLength e) (.charLength f)
  | between {e f : Expr} (h : Recasts .value e f) (low high : Numeric) :
    Recasts .value (.between e low high) (.between f low high)
  | inList {e f : Expr} (h : Recasts .value e f) (values : List Literal) :
    Recasts .value (.inList e values) (.inList f values)
  | regexMatch {e f : Expr} (h : Recasts .value e f) (pattern : String)
    (negated caseInsensitive : Bool) :
    Recasts .value (.regexMatch e pattern negated caseInsensitive)
      (.regexMatch f pattern negated caseInsensitive)
  | isNull {e f : Expr} (h : Recasts .value e f) (negated : Bool) :
    Recasts .value (.isNull e negated) (.isNull f negated)

/-- Unless there is just one operand, nothing is taken for itself. -/
theorem combined_cases (neutral : Bool) (es : List Expr) :
    (∃ e, es = [e] ∧ combined neutral es = e) ∨ combined neutral es = connective neutral es := by
  rcases es with _ | ⟨e, _ | ⟨f, es⟩⟩
  · exact Or.inr (by cases neutral <;> rfl)
  · exact Or.inl ⟨e, rfl, by cases neutral <;> rfl⟩
  · exact Or.inr (by cases neutral <;> rfl)

/-- A part is replaced in a computation that goes on with its result. -/
theorem bind_eq_ok_of_imp {α β : Type} {x y : Except EvalError α} {next : α → Except EvalError β}
    {b : β} (h : ∀ a, x = .ok a → y = .ok a) (hx : x >>= next = .ok b) : y >>= next = .ok b := by
  obtain ⟨a, ha, hb⟩ := exists_of_bind_eq_ok hx
  rw [h a ha]
  exact hb

/-- A value that reads as a truth value is that truth value. -/
theorem eq_ofTruth_of_truthOf {v : Option Literal} {t : Truth} (h : truthOf v = .ok t) :
    v = ofTruth t := by
  rcases v with _ | _ | _ | _ | _ <;> cases h <;> rfl

end Expr

section

variable [Pattern.SizeTest]

namespace Expr

/-! ### Strict evaluation of connectives -/

variable {row : Row} {neutral : Bool} {es fs : List Expr} {e f : Expr}

theorem strict_connective (neutral : Bool) (es : List Expr) :
    (connective neutral es).strict row =
      strictTruths row es >>= fun ts => .ok (ofTruth (joinTruths neutral ts)) := by
  cases neutral with
  | false =>
    rw [connective, if_neg Bool.false_ne_true, strict]
    simp only [maximum_eq_joinTruths]
  | true =>
    rw [connective, if_pos rfl, strict]
    simp only [minimum_eq_joinTruths]

theorem strictTruth_connective (neutral : Bool) (es : List Expr) :
    (connective neutral es).strictTruth row =
      strictTruths row es >>= fun ts => .ok (joinTruths neutral ts) := by
  rw [strictTruth, strict_connective]
  cases strictTruths row es with
  | error x => rfl
  | ok ts => exact truthOf_ofTruth _

theorem strict_not (e : Expr) :
    (Expr.not e).strict row = e.strictTruth row >>= fun t => .ok (ofTruth (Truth.reversed t)) := by
  rw [strict, strictTruth]
  cases e.strict row <;> rfl

theorem strict_coalesce (e : Expr) (fallback : Bool) :
    (Expr.coalesce e fallback).strict row =
      e.strictTruth row >>= fun t => .ok (some (.boolean (t.getD fallback))) := by
  rw [strict, strictTruth]
  cases e.strict row <;> rfl

theorem strictTruth_not (e : Expr) :
    (Expr.not e).strictTruth row = e.strictTruth row >>= fun t => .ok (Truth.reversed t) := by
  rw [strictTruth, strict_not]
  cases e.strictTruth row with
  | error x => rfl
  | ok t => exact truthOf_ofTruth _

theorem strictTruths_append (es fs : List Expr) :
    strictTruths row (es ++ fs) = strictTruths row es >>= fun ts =>
      strictTruths row fs >>= fun us => .ok (ts ++ us) := by
  induction es with
  | nil =>
    rw [List.nil_append, strictTruths]
    cases strictTruths row fs <;> rfl
  | cons e es ih =>
    rw [List.cons_append, strictTruths_cons, strictTruths_cons, ih]
    cases e.strictTruth row with
    | error x => rfl
    | ok t =>
      cases strictTruths row es with
      | error x => rfl
      | ok ts => cases strictTruths row fs <;> rfl

theorem strictTruths_map_not (es : List Expr) :
    strictTruths row (es.map .not) =
      strictTruths row es >>= fun ts => .ok (ts.map Truth.reversed) := by
  induction es with
  | nil => rfl
  | cons e es ih =>
    rw [List.map_cons, strictTruths_cons, strictTruths_cons, ih, strictTruth_not]
    cases e.strictTruth row with
    | error x => rfl
    | ok t => cases strictTruths row es <;> rfl

/-! ### Recasting keeps the value -/

/-- What an expression is used for stays as it is, if it is there at all. -/
def Keeps (row : Row) : Role → Expr → Expr → Prop
  | .value, e, f => ∀ v, e.strict row = .ok v → f.strict row = .ok v
  | .condition, e, f => ∀ t, e.strictTruth row = .ok t → f.strictTruth row = .ok t

theorem Keeps.ofValue (h : Keeps row .value e f) : Keeps row .condition e f := by
  intro t ht
  obtain ⟨v, hv, ht⟩ := exists_of_bind_eq_ok ht
  rw [strictTruth, h v hv]
  exact ht

/-- **A connective keeps its value** if the operands of the other one have truth values that
join to the same. -/
theorem keeps_connective {other : Bool}
    (h : ∀ ts, strictTruths row es = .ok ts →
      ∃ us, strictTruths row fs = .ok us ∧ joinTruths other us = joinTruths neutral ts) :
    Keeps row .value (connective neutral es) (connective other fs) := by
  intro v hv
  rw [strict_connective] at hv ⊢
  obtain ⟨ts, hts, hv⟩ := exists_of_bind_eq_ok hv
  obtain ⟨us, hus, hjoin⟩ := h ts hts
  rw [hus, ← hv, ← hjoin]
  rfl

theorem keeps_permute (h : es.Perm fs) :
    Keeps row .value (connective neutral es) (connective neutral fs) := by
  refine keeps_connective fun ts hts => ?_
  obtain ⟨us, hus, hperm⟩ := List.perm_comp_forall₂ h.symm (strictTruths_eq_ok_iff.1 hts)
  exact ⟨us, strictTruths_eq_ok_iff.2 hus, joinTruths_perm neutral hperm⟩

/-- The truth values of operands with one among them that is looked at. -/
theorem strictTruths_middle_iff {before after : List Expr} {ts : List Truth} :
    strictTruths row (before ++ e :: after) = .ok ts ↔
      ∃ first t last, strictTruths row before = .ok first ∧ e.strictTruth row = .ok t ∧
        strictTruths row after = .ok last ∧ first ++ t :: last = ts := by
  simp only [strictTruths_append, strictTruths_cons, bind_eq_ok_iff, Except.ok.injEq]
  constructor
  · rintro ⟨first, hfirst, _, ⟨t, ht, last, hlast, rfl⟩, rfl⟩
    exact ⟨first, t, last, hfirst, ht, hlast, rfl⟩
  · rintro ⟨first, t, last, hfirst, ht, hlast, rfl⟩
    exact ⟨first, hfirst, _, ⟨t, ht, last, hlast, rfl⟩, rfl⟩

theorem strictTruths_append_iff {ts : List Truth} :
    strictTruths row (es ++ fs) = .ok ts ↔
      ∃ first last, strictTruths row es = .ok first ∧ strictTruths row fs = .ok last ∧
        first ++ last = ts := by
  simp only [strictTruths_append, bind_eq_ok_iff, Except.ok.injEq]
  constructor
  · rintro ⟨first, hfirst, last, hlast, rfl⟩
    exact ⟨first, last, hfirst, hlast, rfl⟩
  · rintro ⟨first, last, hfirst, hlast, rfl⟩
    exact ⟨first, hfirst, last, hlast, rfl⟩

theorem keeps_flatten (neutral : Bool) (before inner after : List Expr) :
    Keeps row .value (connective neutral (before ++ connective neutral inner :: after))
      (connective neutral (before ++ inner ++ after)) := by
  refine keeps_connective fun ts hts => ?_
  obtain ⟨first, t, last, hfirst, ht, hlast, rfl⟩ := strictTruths_middle_iff.1 hts
  rw [strictTruth_connective] at ht
  obtain ⟨middle, hmiddle, ht⟩ := exists_of_bind_eq_ok ht
  cases ht
  exact ⟨first ++ middle ++ last, strictTruths_append_iff.2
    ⟨_, _, strictTruths_append_iff.2 ⟨_, _, hfirst, hmiddle, rfl⟩, hlast, rfl⟩,
    (joinTruths_flatten neutral first middle last).symm⟩

theorem keeps_nest (neutral : Bool) (before inner after : List Expr) :
    Keeps row .value (connective neutral (before ++ inner ++ after))
      (connective neutral (before ++ connective neutral inner :: after)) := by
  refine keeps_connective fun ts hts => ?_
  obtain ⟨_, last, hfront, hlast, rfl⟩ := strictTruths_append_iff.1 hts
  obtain ⟨first, middle, hfirst, hmiddle, rfl⟩ := strictTruths_append_iff.1 hfront
  refine ⟨first ++ joinTruths neutral middle :: last, strictTruths_middle_iff.2
    ⟨_, _, _, hfirst, ?_, hlast, rfl⟩, joinTruths_flatten neutral first middle last⟩
  rw [strictTruth_connective, hmiddle]
  rfl

/-- The truth value of one operand is that of their connective. -/
theorem strictTruth_connective_singleton (neutral : Bool) (e : Expr) :
    (connective neutral [e]).strictTruth row = e.strictTruth row := by
  rw [strictTruth_connective, strictTruths_cons]
  cases e.strictTruth row with
  | error x => rfl
  | ok t => exact congrArg Except.ok (joinTruths_singleton neutral t)

theorem keeps_collapse (neutral : Bool) (es : List Expr) :
    Keeps row .value (connective neutral es) (combined neutral es) := by
  rcases combined_cases neutral es with ⟨e, rfl, he⟩ | he
  · intro v hv
    rw [he]
    rw [strict_connective, strictTruths_cons] at hv
    obtain ⟨ts, hts, hv⟩ := exists_of_bind_eq_ok hv
    obtain ⟨t, ht, hts⟩ := exists_of_bind_eq_ok hts
    obtain ⟨w, hw, ht⟩ := exists_of_bind_eq_ok ht
    cases hts
    rw [joinTruths_singleton] at hv
    -- The operand has a truth value, and no two values have the same one.
    rw [hw, eq_ofTruth_of_truthOf ht, hv]
  · rw [he]
    exact fun _ => id

theorem keeps_expand (neutral : Bool) (es : List Expr) :
    Keeps row .condition (combined neutral es) (connective neutral es) := by
  rcases combined_cases neutral es with ⟨e, rfl, he⟩ | he
  · intro t ht
    rwa [strictTruth_connective_singleton, ← he]
  · rw [he]
    exact fun _ => id

theorem keeps_negateInside (neutral : Bool) (es : List Expr) :
    Keeps row .value (.not (connective neutral es)) (connective (!neutral) (es.map .not)) := by
  intro v hv
  rw [strict_not, strictTruth_connective] at hv
  rw [strict_connective, strictTruths_map_not]
  cases hts : strictTruths row es with
  | error x =>
    rw [hts] at hv
    cases hv
  | ok ts =>
    rw [hts] at hv
    rw [← hv]
    exact congrArg (fun t => Except.ok (ofTruth t)) (joinTruths_map_reversed neutral ts)

theorem keeps_negateOutside (neutral : Bool) (es : List Expr) :
    Keeps row .value (connective (!neutral) (es.map .not)) (.not (connective neutral es)) := by
  intro v hv
  rw [strict_connective, strictTruths_map_not] at hv
  rw [strict_not, strictTruth_connective]
  cases hts : strictTruths row es with
  | error x =>
    rw [hts] at hv
    cases hv
  | ok ts =>
    rw [hts] at hv
    rw [← hv]
    exact congrArg (fun t => Except.ok (ofTruth t)) (joinTruths_map_reversed neutral ts).symm

theorem keeps_operand (neutral : Bool) (before after : List Expr) (h : Keeps row .condition e f) :
    Keeps row .value (connective neutral (before ++ e :: after))
      (connective neutral (before ++ f :: after)) := by
  refine keeps_connective fun ts hts => ⟨ts, ?_, rfl⟩
  obtain ⟨first, t, last, hfirst, ht, hlast, rfl⟩ := strictTruths_middle_iff.1 hts
  exact strictTruths_middle_iff.2 ⟨first, t, last, hfirst, h t ht, hlast, rfl⟩

/-- **Recasting keeps** what an expression is used for. -/
theorem Recasts.keeps {role : Role} (h : Recasts role e f) : Keeps row role e f := by
  induction h with
  | refl role e => cases role <;> exact fun _ => id
  | @trans role e f g _ _ ih ih' =>
    cases role with
    | value => exact fun v hv => ih' v (ih v hv)
    | condition => exact fun t ht => ih' t (ih t ht)
  | ofValue _ ih => exact ih.ofValue
  | permute neutral h => exact keeps_permute h
  | flatten neutral before inner after => exact keeps_flatten neutral before inner after
  | nest neutral before inner after => exact keeps_nest neutral before inner after
  | collapse neutral es => exact keeps_collapse neutral es
  | expand neutral es => exact keeps_expand neutral es
  | negateInside neutral es => exact keeps_negateInside neutral es
  | negateOutside neutral es => exact keeps_negateOutside neutral es
  | operand neutral before after _ ih => exact keeps_operand neutral before after ih
  | not _ ih =>
    intro v hv
    rw [strict_not] at hv ⊢
    exact bind_eq_ok_of_imp ih hv
  | coalesce _ fallback ih =>
    intro v hv
    rw [strict_coalesce] at hv ⊢
    exact bind_eq_ok_of_imp ih hv
  | compare _ op _ ih ih' =>
    intro v hv
    rw [strict] at hv ⊢
    obtain ⟨l, hl, hv⟩ := exists_of_bind_eq_ok hv
    have hright := bind_eq_ok_of_imp ih' hv
    rw [ih l hl]
    exact hright
  | modulo _ divisor ih =>
    intro v hv
    rw [strict] at hv ⊢
    split_ifs at hv ⊢
    exact bind_eq_ok_of_imp ih hv
  | charLength _ ih | between _ low high ih | inList _ values ih | isNull _ negated ih
  | regexMatch _ pattern negated caseInsensitive ih =>
    intro v hv
    rw [strict] at hv ⊢
    exact bind_eq_ok_of_imp ih hv

/-! ### Evaluating what is recast -/

/-- **Evaluation is strict Kleene logic, and does not see how a predicate is written.** If every
part of an expression has a value, the evaluator finds the truth value for which a conjunction is
the least of its operands, a disjunction the greatest, and a negation the reversal; and it finds
the same for every expression that it can be recast as. -/
theorem evaluate_recasts {v : Option Literal} (h : e.strict row = .ok v) :
    e.evaluate row = e.strictTruth row ∧
      (∀ f, Recasts .value e f → f.evaluate row = e.evaluate row) ∧
      ∀ t, e.strictTruth row = .ok t → ∀ f, Recasts .condition e f →
        f.evaluate row = e.evaluate row := by
  have heval : e.evaluate row = e.strictTruth row := by
    rw [evaluate, strictTruth, e.value_of_strict v h, h]
  -- What an expression is recast as has a strict value too, and so evaluates to it.
  refine ⟨heval, fun f hrecasts => ?_, fun t ht f hrecasts => ?_⟩
  · have hf := hrecasts.keeps v h
    rw [heval, evaluate, strictTruth, f.value_of_strict v hf, h]
  · rw [heval, ht]
    exact Agrees.evaluate f.value_of_strict (hrecasts.keeps t ht)

end Expr

end

namespace Expr

/-- Of a book without an author, whether the author has a name. -/
def authorNamed : Expr := .compare (.column "author") .ne (.literal (.text ""))

/-- Of a book from March, whether it is from January. -/
def fromJanuary : Expr := .compare (.column "month") .lt (.literal (.integer 2))

/-- A book from March without an author. -/
def marchBook : Row := fun column => if column = "month" then some (.integer 3) else none

/-- An unknown operand stands before the one that decides, and behind it once De Morgan's law is
applied and the operands have changed places. -/
theorem marchBook_evaluate_recasts :
    (Expr.not (.and [authorNamed, fromJanuary])).strict marchBook = .ok (some (.boolean true)) ∧
      Recasts .condition (.not (.and [authorNamed, fromJanuary]))
        (.or [.not fromJanuary, .not authorNamed]) ∧
      (Expr.or [.not fromJanuary, .not authorNamed]).evaluate marchBook = .ok (some true) := by
  have hstrict : (Expr.not (.and [authorNamed, fromJanuary])).strict marchBook =
      .ok (some (.boolean true)) := by
    decide
  have hinside : Recasts .value (.not (.and [authorNamed, fromJanuary]))
      (.or [.not authorNamed, .not fromJanuary]) :=
    .negateInside true [authorNamed, fromJanuary]
  have hpermute : Recasts .value (.or [.not authorNamed, .not fromJanuary])
      (.or [.not fromJanuary, .not authorNamed]) :=
    .permute false (List.Perm.swap _ _ [])
  have hrecasts := Recasts.ofValue (hinside.trans hpermute)
  obtain ⟨heval, -, hcondition⟩ := evaluate_recasts hstrict
  have htruth : (Expr.not (.and [authorNamed, fromJanuary])).strictTruth marchBook =
      .ok (some true) := by
    rw [strictTruth, hstrict]
    rfl
  exact ⟨hstrict, hrecasts, by rw [hcondition _ htruth _ hrecasts, heval, htruth]⟩

end Expr

end ColumnChecks.Sql
