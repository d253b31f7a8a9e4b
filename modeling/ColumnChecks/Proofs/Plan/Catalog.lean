import ColumnChecks.Proofs.Naming.Characters
import ColumnChecks.Proofs.Plan.Record
import ColumnChecks.Proofs.Plan.Rollout
import ColumnChecks.Proofs.Text.Lines

/-!
# Migrations in the catalog

What a planner knows of a table comes from the rows of a catalog: the names of the
constraints with their comments, which may be anything. What it changes are the rows
again. A drop removes the rows of its name; an add whose name is free adds a row, with
the comment that its statement records (`ColumnChecks.Action.inCatalog`).

The rows stand for a set of constraints with fingerprints, and a step on the rows is the
step on that set (`ColumnChecks.Action.Records.ofCatalog_inCatalog`), since the comment
that an add records is read back as the fingerprint it was made with
(`ColumnChecks.fingerprintOfComment?_fingerprint`). So **planning once more for the rows
that a plan leaves finds nothing to do** (`ColumnChecks.Planner.plan_inCatalog`).
-/

namespace ColumnChecks

/-! ### Comments with fingerprints -/

theorem Text.trim_eq_self {cs : List Char} (h : ∀ c ∈ cs, isBlank c = false) : trim cs = cs :=
  trim_eq_of_trimmed (.of_forall h)

theorem fingerprint_ne_nil (sql : String) : (fingerprint sql).toList ≠ [] := by
  rw [fingerprint, String.toList_ofList, Hash.sha256, String.toList_ofList]
  exact List.cons_ne_nil _ _

/-- **The comment with a fingerprint is read back.** -/
theorem fingerprintOfComment?_fingerprint (sql : String) :
    fingerprintOfComment? (commentOf (fingerprint sql)) = some (fingerprint sql) := by
  have hdigits : ∀ n < 16, isHexChar (Nat.digitChar n) = true ∧
      Text.isBlank (Nat.digitChar n) = false := by decide
  have hchar : ∀ c ∈ (fingerprint sql).toList, isHexChar c = true ∧ Text.isBlank c = false := by
    intro c hc
    obtain ⟨n, hn, rfl⟩ := exists_of_mem_fingerprint hc
    exact hdigits n hn
  have hmark : ∀ c ∈ commentMark.toList, Text.isBlank c = false :=
    Text.forall_not_isBlank (by decide)
  have hcomment : ∀ c ∈ (commentOf (fingerprint sql)).toList, Text.isBlank c = false := by
    intro c hc
    rw [commentOf, String.toList_append, List.mem_append] at hc
    exact hc.elim (hmark c) fun hc => (hchar c hc).2
  have hempty : (fingerprint sql).toList.isEmpty = false :=
    Bool.eq_false_iff.2 fun h => fingerprint_ne_nil sql (List.isEmpty_iff.1 h)
  have hall : (fingerprint sql).toList.all isHexChar = true :=
    List.all_eq_true.2 fun c hc => (hchar c hc).1
  rw [fingerprintOfComment?, Text.trim_eq_self hcomment, commentOf, String.toList_append,
    Text.after?_append]
  simp only [Text.trim_eq_self fun c hc => (hchar c hc).2, hempty, hall, Bool.not_true,
    Bool.or_self, Bool.false_eq_true, if_false, String.ofList_toList]

/-! ### Rows as sets of constraints -/

namespace Present

variable {name : String}

/-- The last entry of a name counts. -/
theorem find?_insertAll (entries : List (String × Option String)) (present : Present)
    (name : String) :
    (present.insertAll entries).find? name =
      ((entries.reverse.find? fun entry => entry.1 == name).map Prod.snd).or
        (present.find? name) := by
  induction entries generalizing present with
  | nil => rfl
  | cons entry entries ih =>
    rw [insertAll, List.foldl_cons, ← insertAll, ih, find?_insert, List.reverse_cons,
      List.find?_append]
    cases hlater : entries.reverse.find? fun entry => entry.1 == name with
    | some later => rfl
    | none =>
      by_cases hname : entry.1 = name
      · simp [hname]
      · simp [hname]

theorem find?_ofCatalog (rows : List (String × Option String)) (name : String) :
    (ofCatalog rows).find? name =
      (rows.reverse.find? fun row => row.1 == name).map
        fun row => row.2.bind fingerprintOfComment? := by
  have hempty : empty.find? name = none := Std.ExtTreeMap.getElem?_empty
  rw [ofCatalog, find?_insertAll, hempty, Option.or_none, ← List.map_reverse, List.find?_map,
    Option.map_map]
  rfl

theorem contains_ofCatalog (rows : List (String × Option String)) (name : String) :
    (ofCatalog rows).contains name = rows.any fun row => row.1 == name := by
  rw [contains_eq_isSome, find?_ofCatalog, Option.isSome_map, List.isSome_find?, List.any_reverse]

/-- Rows of a name are removed. -/
theorem ofCatalog_filter (rows : List (String × Option String)) (name : String) :
    ofCatalog (rows.filter fun row => row.1 != name) = (ofCatalog rows).erase name := by
  refine ext_find? fun other => ?_
  rw [find?_erase, find?_ofCatalog, find?_ofCatalog, ← List.filter_reverse, List.find?_filter]
  by_cases hother : name = other
  · subst hother
    simp
  · rw [if_neg hother]
    congr 2
    funext row
    by_cases hrow : row.1 = other
    · simp [hrow, Ne.symm hother]
    · simp [hrow]

/-- A row is added. -/
theorem ofCatalog_append (rows : List (String × Option String)) (name : String)
    (comment : Option String) :
    ofCatalog (rows ++ [(name, comment)]) =
      (ofCatalog rows).insert name (comment.bind fingerprintOfComment?) := by
  rw [ofCatalog, insertAll, List.map_append, List.foldl_append]
  rfl

end Present

/-! ### Steps on rows -/

/-- What a step makes of the rows of a catalog. -/
def Action.inCatalog (conforming : Bool) (rows : List (String × Option String)) :
    Action → List (String × Option String)
  | .add name statement _ =>
    if rows.any fun row => row.1 == name then rows
    else rows ++ [(name, Sql.recordedComment? conforming statement)]
  | .drop name _ => rows.filter fun row => row.1 != name

/-- The statement of a step records the fingerprint of the step. -/
def Action.Records (conforming : Bool) : Action → Prop
  | .add _ statement fingerprint =>
    (Sql.recordedComment? conforming statement).bind fingerprintOfComment? = some fingerprint
  | .drop _ _ => True

/-- **A step on the rows is the step on what they stand for.** -/
theorem Action.Records.ofCatalog_inCatalog {conforming : Bool} {action : Action}
    (h : action.Records conforming) (rows : List (String × Option String)) :
    Present.ofCatalog (action.inCatalog conforming rows) =
      action.applyTo (Present.ofCatalog rows) := by
  cases action with
  | add name statement fingerprint =>
    rw [Action.inCatalog, Action.applyTo, Present.contains_ofCatalog]
    split_ifs
    · rfl
    · rw [Present.ofCatalog_append, h]
  | drop name statement => exact Present.ofCatalog_filter rows name

/-- The same for step after step. -/
theorem ofCatalog_foldl_inCatalog {conforming : Bool} {actions : List Action}
    (h : ∀ action ∈ actions, action.Records conforming) (rows : List (String × Option String)) :
    Present.ofCatalog (actions.foldl (Action.inCatalog conforming) rows) =
      actions.foldl Action.applyTo (Present.ofCatalog rows) := by
  induction actions generalizing rows with
  | nil => rfl
  | cons action actions ih =>
    rw [List.foldl_cons, List.foldl_cons, ih fun a ha => h a (List.mem_cons_of_mem _ ha),
      (h action List.mem_cons_self).ofCatalog_inCatalog]

section

variable [Pattern.SizeTest]

/-- What a plan makes of the rows of a catalog. -/
def Plan.inCatalog (conforming : Bool) (plan : Plan) (rows : List (String × Option String)) :
    List (String × Option String) :=
  plan.actions.foldl (Action.inCatalog conforming) rows

variable {conforming : Bool}

namespace Planner

variable {planner : Planner} {table : Sql.TableRef} {rules : List Rule} {present : Present}
  {plan : Plan}

/-- **The steps of a plan record their fingerprints.** -/
theorem records_of_mem_actions (h : planner.plan table rules present = .ok plan) :
    ∀ action ∈ plan.actions, action.Records conforming := by
  intro action haction
  obtain ⟨desired, -, rfl⟩ := exists_desired h
  rw [planDesired_actions, List.mem_append] at haction
  rcases haction with hremoval | haddition
  · obtain ⟨name, rule, -, hfound⟩ | ⟨name, -, rfl⟩ := mem_removals.1 hremoval
    · rw [removal?_eq_some hfound]
      trivial
    · trivial
  · obtain ⟨name, rule, -, hfound⟩ := mem_additions.1 haddition
    obtain ⟨compiled, hcompiled, rfl⟩ := addition?_eq_some hfound
    rw [addAction, Action.Records, Rule.recordedComment?_compile hcompiled, Option.bind_some]
    exact fingerprintOfComment?_fingerprint compiled.sql

/-- **The catalog loop closes.** A plan for the rows of a catalog, whatever their
comments are, leaves rows for which there is nothing more to do. -/
theorem plan_inCatalog {rows : List (String × Option String)}
    (h : planner.plan table rules (Present.ofCatalog rows) = .ok plan) (conforming : Bool) :
    ∃ again, planner.plan table rules (Present.ofCatalog (plan.inCatalog conforming rows)) =
        .ok again ∧ again.actions = [] := by
  have hrows : Present.ofCatalog (plan.inCatalog conforming rows) =
      plan.applyTo (Present.ofCatalog rows) :=
    ofCatalog_foldl_inCatalog (records_of_mem_actions h) rows
  obtain ⟨again, hagain⟩ := exists_plan h (Present.ofCatalog (plan.inCatalog conforming rows))
  refine ⟨again, hagain, actions_of_applyTo h ?_⟩
  rw [← hrows]
  exact hagain

end Planner

end

namespace Planner

/-- A table with a constraint of a rule that is gone, one that was made by hand and one
that was added before, for a predicate that has changed. -/
def catalog : List (String × Option String) :=
  [("rein_books_year_rng", some "rein:0123456789abcdef"), ("pages_positive", none),
    ("rein_books_month_rng", some " rein: 00ff ")]

/-- It is migrated, and then there is nothing to do. -/
theorem catalog_plan_again : ∃ plan,
    Planner.postgres.plan ⟨none, "books"⟩ [Host.monthRule] (Present.ofCatalog catalog) = .ok plan ∧
    ∃ again, Planner.postgres.plan ⟨none, "books"⟩ [Host.monthRule]
        (Present.ofCatalog (plan.inCatalog true catalog)) = .ok again ∧ again.actions = [] := by
  obtain ⟨plan, hplan⟩ : ∃ plan, Planner.postgres.plan ⟨none, "books"⟩ [Host.monthRule]
      (Present.ofCatalog catalog) = .ok plan := ⟨_, rfl⟩
  exact ⟨plan, hplan, plan_inCatalog hplan true⟩

end Planner

end ColumnChecks
