import ColumnChecks.Rule.Builder
import ColumnChecks.Proofs.Plan.Effect

/-!
# Migrations converge

Carrying a plan out on the constraints it was made for leaves a table with what
its rules ask for, and nothing more to do
(`ColumnChecks.Host.apply_plan_converges`). There are four kinds of names, told apart by
the rule that asks for the name and by who owns it, and each of them has one lemma
that says what is left under it. A constraint without a fingerprint counts as the
one that is asked for: it stays as it is, and planning once more accepts it again.
-/

namespace ColumnChecks

namespace Planner

variable [Pattern.SizeTest]

variable {planner : Planner} {table : Sql.TableRef} {rules : List Rule} {present : Present}
  {plan : Plan} {name : String} {rule : Rule}

/-! ### The four kinds of names -/

/-- **A rule that compiles** is there with its fingerprint, or as it was if it had
none. -/
theorem find?_applyTo_of_ok (h : planner.plan table rules present = .ok plan)
    (hrule : planner.wanted? table rules name = some rule) {compiled : CompiledRule}
    (hcompiled : rule.compile planner.dialect = .ok compiled) :
    (plan.applyTo present).find? name =
      some (if present.find? name = some none then none else some compiled.fingerprint) := by
  rw [find?_applyTo h, drops, added?, finding?, hrule, Option.map_some, finding_of_ok hcompiled]
  rcases hpresent : present.find? name with _ | (_ | recorded)
  · rfl
  · rfl
  · by_cases hsame : recorded = compiled.fingerprint
    · simp [hsame, Finding.removal?, Finding.addition?]
    · simp [hsame, Finding.removal?, Finding.addition?, addAction, Action.fingerprint?]

/-- **A rule that does not compile** leaves its name alone. -/
theorem find?_applyTo_of_error (h : planner.plan table rules present = .ok plan)
    (hrule : planner.wanted? table rules name = some rule) {error : UnsupportedRule}
    (herror : rule.compile planner.dialect = .error error) :
    (plan.applyTo present).find? name = present.find? name := by
  rw [find?_applyTo h, drops, added?, finding?, hrule, Option.map_some, finding_of_error herror]
  exact Option.or_none

/-- **An owned name that no rule asks for** is free. -/
theorem find?_applyTo_of_obsolete (h : planner.plan table rules present = .ok plan)
    (hfree : planner.wanted? table rules name = none) (howns : planner.namer.owns name = true) :
    (plan.applyTo present).find? name = none := by
  rw [find?_applyTo h, drops, added?, finding?, hfree, Option.map_none]
  simp only [howns, Bool.true_and, Present.contains_eq_isSome, Option.bind_none, Option.map_none,
    Option.or_none]
  cases present.find? name <;> rfl

/-- **A name that is not owned** is left alone, whatever the plan is applied to. -/
theorem find?_applyTo_of_foreign (h : planner.plan table rules present = .ok plan)
    (hforeign : planner.namer.owns name = false) {current : Present} :
    (plan.applyTo current).find? name = current.find? name := by
  have hfree : planner.wanted? table rules name = none := by
    cases hrule : planner.wanted? table rules name with
    | none => rfl
    | some rule =>
      have howns := owns_of_wanted? hrule
      rw [hforeign] at howns
      cases howns
  rw [find?_applyTo h, drops, added?, finding?, hfree, Option.map_none]
  simp [hforeign]

/-! ### Planning again -/

/-- Whether planning succeeds is up to the rules. -/
theorem exists_plan (h : planner.plan table rules present = .ok plan) (present' : Present) :
    ∃ plan', planner.plan table rules present' = .ok plan' := by
  obtain ⟨desired, hdesired, -⟩ := exists_desired h
  refine ⟨planner.planDesired table desired present', ?_⟩
  rw [Planner.plan, hdesired]
  rfl

/-- A plan that neither drops nor adds a name has no steps. -/
theorem actions_eq_nil (h : planner.plan table rules present = .ok plan)
    (hdrops : ∀ name, planner.drops table rules present name = false)
    (hadds : ∀ name, planner.added? table rules present name = none) : plan.actions = [] := by
  obtain ⟨desired, hdesired, rfl⟩ := exists_desired h
  rw [planDesired_actions, List.append_eq_nil_iff]
  refine ⟨List.eq_nil_iff_forall_not_mem.2 fun action haction => ?_,
    List.eq_nil_iff_forall_not_mem.2 fun action haction => ?_⟩
  · have hname := (name_mem_removals hdesired).1 (List.mem_map_of_mem haction)
    rw [hdrops] at hname
    cases hname
  · have hfind : ((planner.additions table desired present).find? fun a =>
        a.name == action.name).map Action.fingerprint? = _ := find?_additions hdesired
    rw [hadds] at hfind
    have hnone := Option.map_eq_none_iff.1 hfind
    exact List.find?_eq_none.1 hnone _ haction (beq_self_eq_true _)

/-- **Planning for the result of a plan** finds nothing to do. -/
theorem actions_of_applyTo (h : planner.plan table rules present = .ok plan) {again : Plan}
    (hagain : planner.plan table rules (plan.applyTo present) = .ok again) :
    again.actions = [] := by
  refine actions_eq_nil hagain (fun name => ?_) (fun name => ?_)
  · -- What no rule asks for is gone by now, and what a rule asks for is there as it should be.
    unfold drops finding?
    cases hrule : planner.wanted? table rules name with
    | none =>
      rw [Option.map_none]
      simp only [Present.contains_eq_isSome]
      cases howns : planner.namer.owns name with
      | false => rfl
      | true =>
        rw [find?_applyTo_of_obsolete h hrule howns]
        rfl
    | some rule =>
      rw [Option.map_some]
      cases hcompiled : rule.compile planner.dialect with
      | error error =>
        rw [finding_of_error hcompiled]
        rfl
      | ok compiled =>
        simp only [finding_of_ok hcompiled, find?_applyTo_of_ok h hrule hcompiled]
        by_cases hnone : present.find? name = some none <;> simp [hnone, Finding.removal?]
  · unfold added? finding?
    cases hrule : planner.wanted? table rules name with
    | none => rfl
    | some rule =>
      rw [Option.map_some]
      cases hcompiled : rule.compile planner.dialect with
      | error error =>
        rw [finding_of_error hcompiled]
        rfl
      | ok compiled =>
        simp only [finding_of_ok hcompiled, find?_applyTo_of_ok h hrule hcompiled]
        by_cases hnone : present.find? name = some none <;> simp [hnone, Finding.addition?]

end Planner

namespace Host

section

variable [Pattern.SizeTest]

variable {host : Host} {planner : Planner} {table : Sql.TableRef} {rules : List Rule}

theorem plan_table {plan : Plan} (h : host.plan planner table rules = .ok plan) :
    plan.table = table := by
  obtain ⟨desired, -, rfl⟩ := Planner.exists_desired h
  rfl

theorem tables_apply {plan : Plan} (h : host.plan planner table rules = .ok plan) :
    (host.apply plan).tables table = plan.applyTo (host.tables table) := by
  rw [apply, set, plan_table h]
  exact if_pos rfl

/-- **Carrying a plan out brings a table to its rules**, whatever constraints it
had before: every rule is asked for under its name, rules that compile are there,
owned names that no rule asks for are gone, names that are not owned or whose rule
does not compile are as they were, and there is nothing more to do. -/
theorem apply_plan_converges {plan : Plan} (h : host.plan planner table rules = .ok plan) :
    let before := host.tables table
    let after := (host.apply plan).tables table
    (∀ rule ∈ rules, ∃ first,
      planner.wanted? table rules (planner.namer.name table.name rule) = some first ∧
        (first = rule ∨ first.same rule = true)) ∧
    (∀ name rule compiled, planner.wanted? table rules name = some rule →
      rule.compile planner.dialect = .ok compiled →
      after.find? name =
        some (if before.find? name = some none then none else some compiled.fingerprint)) ∧
    (∀ name, planner.namer.owns name = true → planner.wanted? table rules name = none →
      after.find? name = none) ∧
    (∀ name rule error, planner.wanted? table rules name = some rule →
      rule.compile planner.dialect = .error error → after.find? name = before.find? name) ∧
    (∀ name, planner.namer.owns name = false → after.find? name = before.find? name) ∧
    ∃ again, (host.apply plan).plan planner table rules = .ok again ∧ again.actions = [] := by
  intro before after
  have hafter : after = plan.applyTo before := tables_apply h
  obtain ⟨again, hagain⟩ := Planner.exists_plan h (plan.applyTo before)
  refine ⟨fun rule hmem => ?_, fun name rule compiled hrule hcompiled => ?_,
    fun name howns hfree => ?_, fun name rule error hrule herror => ?_,
    fun name hforeign => ?_, again, ?_, ?_⟩
  · obtain ⟨desired, hdesired, -⟩ := Planner.exists_desired h
    exact Planner.exists_wanted? hdesired hmem
  · rw [hafter]
    exact Planner.find?_applyTo_of_ok h hrule hcompiled
  · rw [hafter]
    exact Planner.find?_applyTo_of_obsolete h hfree howns
  · rw [hafter]
    exact Planner.find?_applyTo_of_error h hrule herror
  · rw [hafter]
    exact Planner.find?_applyTo_of_foreign h hforeign
  · rw [Host.plan, tables_apply h]
    exact hagain
  · exact Planner.actions_of_applyTo h hagain

end

/-- Books with a month of publication and a leftover constraint. -/
def shelf : Host :=
  (Host.empty.seed ⟨none, "books"⟩ "rein_books_month_rng" none).seed ⟨none, "books"⟩
    "rein_books_year_rng" (some "0123456789abcdef")

/-- The month of publication. -/
def monthRule : Rule where
  spec := RuleSpec.of (.range (.between (.integer 1) (.integer 12))) ["month"]
  valid := by decide

/-- A plan for the books takes the leftover away and is then done. -/
theorem shelf_converges : ∃ plan, shelf.plan .postgres ⟨none, "books"⟩ [monthRule] = .ok plan ∧
    ((shelf.apply plan).tables ⟨none, "books"⟩).find? "rein_books_year_rng" = none ∧
    ∃ again, (shelf.apply plan).plan .postgres ⟨none, "books"⟩ [monthRule] = .ok again ∧
      again.actions = [] := by
  obtain ⟨plan, hplan⟩ : ∃ plan, shelf.plan .postgres ⟨none, "books"⟩ [monthRule] = .ok plan :=
    ⟨_, rfl⟩
  obtain ⟨-, -, hobsolete, -, -, hagain⟩ := apply_plan_converges hplan
  exact ⟨plan, hplan, hobsolete "rein_books_year_rng" (by decide) (by decide), hagain⟩

end Host

end ColumnChecks
