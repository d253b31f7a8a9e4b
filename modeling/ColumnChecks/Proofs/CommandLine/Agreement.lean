import ColumnChecks.Proofs.CommandLine.Scripts
import ColumnChecks.Proofs.Plan.Order
import ColumnChecks.Proofs.Rule.SameVerdict

/-!
# Checking a row and planning

A row can be checked against the rules of a document, and the rules can be planned as
constraints of a table that has none. The check puts the row to the predicate of every rule; the
plan first makes one of all rules that have one name. Rules of one name are the same, or there
would be no plan, and the same rules have one verdict
(`ColumnChecks.Rule.accepts_of_same`). So **a row passes the check just if every constraint
that is planned accepts it** (`ColumnChecks.Planner.passes_iff`), and what the check skips are
the rules that the plan sets aside (`ColumnChecks.Planner.skips_iff`).
-/

namespace ColumnChecks

open Sql (TableRef Row Expr EvalError)

section

variable [Pattern.SizeTest]

namespace Planner

variable {planner : Planner} {table : TableRef} {rules : List Rule} {plan : Plan} {row : Row}

/-! ### Constraints that a plan adds -/

/-- **The constraint of a step**: the step adds a constraint with this predicate, that of the rule
which asks for its name. -/
def Adds (planner : Planner) (table : TableRef) (rules : List Rule) (action : Action)
    (predicate : Expr) : Prop :=
  ∃ rule compiled, planner.wanted? table rules action.name = some rule ∧
    rule.compile planner.dialect = .ok compiled ∧
    action = addAction table action.name rule compiled ∧ compiled.expr = predicate

theorem Adds.unique {action : Action} {e e' : Expr} (h : planner.Adds table rules action e)
    (h' : planner.Adds table rules action e') : e = e' := by
  obtain ⟨rule, compiled, hrule, hcompiled, -, rfl⟩ := h
  obtain ⟨rule', compiled', hrule', hcompiled', -, rfl⟩ := h'
  rw [hrule, Option.some_inj] at hrule'
  subst hrule'
  rw [hcompiled, Except.ok.injEq] at hcompiled'
  rw [hcompiled']

/-- The steps of a plan for a table without constraints. -/
theorem mem_adds_iff (h : planner.plan table rules .empty = .ok plan) {action : Action} :
    action ∈ plan.adds ↔ ∃ predicate, planner.Adds table rules action predicate := by
  obtain ⟨desired, hdesired, rfl⟩ := exists_desired h
  have hfree : ∀ name, Present.empty.find? name = none := fun _ => Std.ExtTreeMap.getElem?_empty
  rw [adds_planDesired, mem_additions]
  constructor
  · rintro ⟨name, rule, hrule, hadded⟩
    obtain ⟨compiled, hcompiled, rfl⟩ := addition?_eq_some hadded
    rw [getElem?_desired hdesired] at hrule
    exact ⟨_, rule, compiled, hrule, hcompiled, rfl, rfl⟩
  · rintro ⟨_, rule, compiled, hrule, hcompiled, haction, -⟩
    refine ⟨action.name, rule, (getElem?_desired hdesired _).trans hrule, ?_⟩
    rw [finding_of_ok hcompiled, hfree, haction]
    rfl

/-- The rules that a plan sets aside have no predicate. -/
theorem mem_rejected_iff (h : planner.plan table rules .empty = .ok plan) {name : String} :
    name ∈ plan.rejected.map Rejection.name ↔
      ∃ rule error, planner.wanted? table rules name = some rule ∧
        rule.predicate planner.dialect = .error error := by
  obtain ⟨desired, hdesired, rfl⟩ := exists_desired h
  rw [planDesired_rejected]
  simp only [List.mem_map, List.mem_filterMap, exists_mem_findings, getElem?_desired hdesired]
  constructor
  · rintro ⟨rejection, ⟨name, rule, hrule, hrejected⟩, rfl⟩
    cases hfinding : planner.finding table .empty name rule with
    | rejected found =>
      rw [hfinding] at hrejected
      cases hrejected
      obtain ⟨rfl, hpredicate⟩ := finding_eq_rejected hfinding
      exact ⟨rule, _, hrule, hpredicate⟩
    | kept | added | replaced =>
      rw [hfinding] at hrejected
      cases hrejected
  · rintro ⟨rule, error, hrule, hpredicate⟩
    have hcompile : rule.compile planner.dialect = .error error := by
      rw [Rule.compile, hpredicate]
      rfl
    refine ⟨⟨name, rule, error⟩, ⟨name, rule, hrule, ?_⟩, rfl⟩
    rw [finding_of_error hcompile]
    rfl

/-! ### Verdicts -/

/-- A rule that has no predicate is skipped, and no other one. -/
theorem verdict_eq_skipped_iff {rule : Rule} {name : String} {error : UnsupportedRule} :
    planner.verdict table row rule = .ok (.skipped name error) ↔
      planner.namer.name table.name rule = name ∧
        rule.predicate planner.dialect = .error error := by
  unfold verdict
  cases rule.predicate planner.dialect with
  | error found => simp
  | ok e =>
    refine iff_of_false (fun h => ?_) (by simp)
    obtain ⟨accepted, -, h⟩ := exists_of_bind_eq_ok h
    cases accepted <;> cases h

/-- A verdict that is there and is no failure. -/
theorem exists_verdict_iff (table : TableRef) {rule : Rule} :
    (∃ found, planner.verdict table row rule = .ok found ∧ found.isFailure = false) ↔
      ∀ e, rule.predicate planner.dialect = .ok e → e.accepts row = .ok true := by
  unfold verdict
  cases rule.predicate planner.dialect with
  | error error => exact iff_of_true ⟨_, rfl, rfl⟩ (by rintro e ⟨⟩)
  | ok e =>
    constructor
    · rintro ⟨found, h, hfound⟩ _ ⟨⟩
      obtain ⟨accepted, haccepted, h⟩ := exists_of_bind_eq_ok h
      cases accepted with
      | true => exact haccepted
      | false =>
        cases h
        cases hfound
    · intro h
      refine ⟨.passed (planner.namer.name table.name rule), ?_, rfl⟩
      simp only [h e rfl]
      rfl

/-- **A row passes** if the predicate of every rule accepts it. -/
theorem verdicts_iff {rules : List (TableRef × Rule)} :
    ((planner.verdicts row rules).2 = none ∧
        ∀ found ∈ (planner.verdicts row rules).1, found.isFailure = false) ↔
      ∀ entry ∈ rules, ∀ e, entry.2.predicate planner.dialect = .ok e →
        e.accepts row = .ok true := by
  induction rules with
  | nil => simp [verdicts]
  | cons entry rules ih =>
    obtain ⟨table, rule⟩ := entry
    rw [List.forall_mem_cons, ← ih, ← exists_verdict_iff table, verdicts]
    cases planner.verdict table row rule with
    | error error => simp
    | ok found => simp [and_left_comm]

/-- What is skipped has no predicate. -/
theorem exists_of_skipped_mem {rules : List (TableRef × Rule)} {name : String}
    {error : UnsupportedRule} (h : .skipped name error ∈ (planner.verdicts row rules).1) :
    ∃ entry ∈ rules, planner.namer.name entry.1.name entry.2 = name ∧
      entry.2.predicate planner.dialect = .error error := by
  induction rules with
  | nil => cases h
  | cons entry rules ih =>
    obtain ⟨table, rule⟩ := entry
    rw [verdicts] at h
    cases hverdict : planner.verdict table row rule with
    | error error => rw [hverdict] at h; cases h
    | ok found =>
      rw [hverdict] at h
      rcases List.mem_cons.1 h with rfl | h
      · exact ⟨_, List.mem_cons_self, verdict_eq_skipped_iff.1 hverdict⟩
      · obtain ⟨entry, hentry, hskipped⟩ := ih h
        exact ⟨entry, List.mem_cons_of_mem _ hentry, hskipped⟩

/-! ### Agreement -/

/-- **A row passes just if every constraint that is planned accepts it.** -/
theorem passes_iff (h : planner.plan table rules .empty = .ok plan) (row : Row) :
    (∀ rule ∈ rules, ∀ e, rule.predicate planner.dialect = .ok e → e.accepts row = .ok true) ↔
      ∀ action ∈ plan.adds, ∃ predicate, planner.Adds table rules action predicate ∧
        predicate.accepts row = .ok true := by
  constructor
  · intro hrules action haction
    obtain ⟨predicate, hadds⟩ := (mem_adds_iff h).1 haction
    obtain ⟨rule, compiled, hwanted, hcompiled, -, hpredicate⟩ := id hadds
    have haccepts := hrules rule (mem_of_wanted? hwanted).1 _
      (Rule.predicate_of_compile hcompiled).1
    exact ⟨predicate, hadds, hpredicate ▸ haccepts⟩
  · intro hadds rule hrule e hpredicate
    obtain ⟨desired, hdesired, -⟩ := exists_desired h
    obtain ⟨first, hfirst, hsame⟩ := exists_same_wanted? hdesired hrule
    -- The constraint is made of the first rule of the name, which has the verdict of this one.
    obtain ⟨e', hpredicate', hverdict⟩ := Rule.accepts_of_same (Rule.same_symm hsame) hpredicate
    have hcompiled : first.compile planner.dialect = .ok ⟨e', e'.sql⟩ := by
      rw [Rule.compile, hpredicate']
      rfl
    have hadded : planner.Adds table rules
        (addAction table (planner.namer.name table.name rule) first ⟨e', e'.sql⟩) e' :=
      ⟨first, _, hfirst, hcompiled, rfl, rfl⟩
    obtain ⟨predicate, hadds', haccepts⟩ := hadds _ ((mem_adds_iff h).2 ⟨e', hadded⟩)
    rw [← hadded.unique hadds'] at haccepts
    have hsome : (e.accepts row).toOption = some true := by
      rw [hverdict row, haccepts]
      rfl
    exact toOption_eq_some_iff.1 hsome

/-- **The check skips just the rules that the plan sets aside.** -/
theorem skips_iff (h : planner.plan table rules .empty = .ok plan) (row : Row) {rule : Rule}
    (hrule : rule ∈ rules) :
    (∃ error, planner.verdict table row rule =
        .ok (.skipped (planner.namer.name table.name rule) error)) ↔
      planner.namer.name table.name rule ∈ plan.rejected.map Rejection.name := by
  obtain ⟨desired, hdesired, -⟩ := exists_desired h
  obtain ⟨first, hfirst, hsame⟩ := exists_same_wanted? hdesired hrule
  rw [mem_rejected_iff h]
  simp only [verdict_eq_skipped_iff, true_and, hfirst, Option.some.injEq]
  constructor
  · rintro ⟨error, herror⟩
    exact ⟨first, error, rfl, Rule.predicate_error_of_same (Rule.same_symm hsame) herror⟩
  · rintro ⟨_, error, rfl, herror⟩
    exact ⟨error, Rule.predicate_error_of_same hsame herror⟩

end Planner

/-! ### The commands -/

namespace CommandLine

variable {files : Files} {settings : Settings} {rules name text : String} {planner : Planner}
  {tables : List CheckedTable} {entry : CheckedTable} {plan : Plan} {row : Row}

theorem Opens.dialect {table : Option String}
    (h : Opens files settings rules table planner tables) : planner.dialect = settings.dialect := by
  obtain ⟨_, _, document, -, -, -, hplanner, -⟩ := h
  obtain ⟨namer, -, hplanner⟩ := exists_of_bind_eq_ok hplanner
  cases hplanner
  rfl

/-- The dialect of the settings expresses every rule. -/
theorem predicate_ne_error (settings : Settings) (rule : Rule) (error : UnsupportedRule) :
    rule.predicate settings.dialect ≠ .error error := by
  intro h
  obtain ⟨format, -, hrefusal⟩ := Rule.predicate_eq_error_iff.1 h
  simp [Format.refusal?, Settings.dialect, Sql.Dialect.postgres] at hrefusal

/-- **The two commands agree.** Where a table is planned that has no constraints, checking a row
ends well just if every constraint that is planned has a predicate with a value on the row, and
accepts it; and the check tells of the same skipped rules as the plan. -/
theorem Opens.check_iff_plan (h : Opens files settings rules (some name) planner [entry])
    (hrow : parseRow text = .ok row)
    (hplan : planner.plan entry.table entry.rules .empty = .ok plan) :
    (∃ warnings, (runPlan files settings rules none (some name)).outcome =
        ⟨0, plan.toSql, warnings⟩) ∧
      ((runCheck files settings rules name text).outcome.code = 0 ↔
        ∀ action ∈ plan.adds, ∃ predicate,
          planner.Adds entry.table entry.rules action predicate ∧
            predicate.accepts row = .ok true) ∧
      (runCheck files settings rules name text).outcome.output =
        String.join ((planner.verdicts row (rulesOf [entry])).1.map (·.line ++ "\n")) ∧
      ∀ skipped, (∃ error, .skipped skipped error ∈ (planner.verdicts row (rulesOf [entry])).1) ↔
        skipped ∈ plan.rejected.map Rejection.name := by
  have hnone : Supplied files none .empty := rfl
  obtain ⟨warnings, hprinted⟩ := h.outcome_runPlan hnone
  rw [hplan] at hprinted
  obtain ⟨houtput, hcode⟩ := h.outcome_runCheck hrow rfl
  refine ⟨⟨warnings, hprinted⟩, ?_, houtput, fun skipped => ?_⟩
  · rw [hcode, Planner.verdicts_iff, ← Planner.passes_iff hplan row]
    simp [rulesOf]
  · constructor
    · rintro ⟨error, hskipped⟩
      obtain ⟨⟨table, rule⟩, hmem, rfl, hpredicate⟩ := Planner.exists_of_skipped_mem hskipped
      obtain ⟨rfl, hrule⟩ : table = entry.table ∧ rule ∈ entry.rules := by
        simpa [rulesOf, eq_comm, and_comm] using hmem
      exact (Planner.skips_iff hplan row hrule).1
        ⟨error, Planner.verdict_eq_skipped_iff.2 ⟨rfl, hpredicate⟩⟩
    · -- The dialect of a command line expresses every rule, so that nothing is set aside.
      intro hskipped
      obtain ⟨rule, error, -, hpredicate⟩ := (Planner.mem_rejected_iff hplan).1 hskipped
      rw [h.dialect] at hpredicate
      exact absurd hpredicate (predicate_ne_error settings rule error)

end CommandLine

end

namespace CommandLine

/-- A row with a mild temperature. -/
def mildRow : String := "\x7b\"temperature\": 1.5\x7d"

/-- Both rules on frost accept a mild temperature, and so does the one constraint that is planned
for them. -/
theorem cellars_check_iff_plan : ∃ entry plan row,
    Opens cellarFiles .default "cellars.json" (some "cellars") .postgres [entry] ∧
      parseRow mildRow = .ok row ∧
      Planner.postgres.plan entry.table entry.rules .empty = .ok plan ∧
      ∀ action ∈ plan.adds, ∃ predicate,
        Planner.postgres.Adds entry.table entry.rules action predicate ∧
          predicate.accepts row = .ok true := by
  obtain ⟨entry, hopens, htable, hrules⟩ := opens_cellars
  have hread : (parseRow mildRow).toOption.isSome = true := by decide +kernel
  obtain ⟨row, hrow⟩ := Option.isSome_iff_exists.1 hread
  rw [toOption_eq_some_iff] at hrow
  have hsame : ∀ a b, (Planner.frostRule a).same (Planner.frostRule b) = true := by decide
  obtain ⟨desired, hdesired⟩ : ∃ desired,
      Planner.postgres.desired entry.table entry.rules = .ok desired :=
    Planner.exists_desired_iff.2 (by simp [hrules, hsame])
  have hplan : Planner.postgres.plan entry.table entry.rules .empty =
      .ok (Planner.postgres.planDesired entry.table desired .empty) := by
    rw [Planner.plan, hdesired]
    rfl
  have hcode :
      (runCheck cellarFiles .default "cellars.json" "cellars" mildRow).outcome.code = 0 := by
    decide +kernel
  exact ⟨entry, _, row, hopens, hrow, hplan, (hopens.check_iff_plan hrow hplan).2.1.1 hcode⟩

end CommandLine

end ColumnChecks
