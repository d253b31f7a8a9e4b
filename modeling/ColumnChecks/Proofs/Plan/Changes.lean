import ColumnChecks.Proofs.Plan.Repetition
import ColumnChecks.Proofs.Plan.Rollout

/-!
# Plans for changed rules

Once a table has been migrated to its rules, the rules may change. A constraint is known by the
fingerprint that was recorded with it, and that is one of its predicate. So **a constraint is
added anew just if no statement so far has added its predicate under its name**
(`ColumnChecks.Host.plan_changed`), as long as the fingerprints tell the predicates apart
(`ColumnChecks.Planner.TellsApart`); a constraint that has the name is dropped before.

What the fingerprint leaves out is whether existing rows are checked. A rule that changes in
nothing else has a statement of its own, which is never given to the host
(`ColumnChecks.Host.not_plan_changed`): the option is about the moment that a constraint is
added, and not about the constraint.

After a migration from nothing, the constraints and the statements say the same. Under a name is
the fingerprint of the rule that asked for it, if that has a predicate
(`ColumnChecks.Planner.find?_applyTo_empty`), and its statement is one of those given
(`ColumnChecks.Planner.mem_statements_empty`). To read the name and the fingerprint off a
statement, its tokens are enough (`ColumnChecks.Rule.eq_of_addStatement_eq`).
-/

namespace ColumnChecks

open Sql (TableRef Token)

theorem Present.find?_empty (name : String) : Present.empty.find? name = none :=
  Std.ExtTreeMap.getElem?_empty

/-! ### Statements that add constraints -/

/-- A statement shows whether existing rows are checked. -/
theorem validate_eq_of_addStatement_eq {table : TableRef} {name predicate fingerprint : String}
    {validate validate' : Bool} (h : addStatement table name predicate fingerprint validate =
      addStatement table name predicate fingerprint validate') : validate = validate' := by
  have hlength := congrArg String.length (addBlock_eq_of_addStatement_eq h)
  -- Nothing else in the block is up to it, and the words that are have a length.
  unfold addBlock at hlength
  simp only [String.length_append, Nat.add_left_cancel_iff, Nat.add_right_cancel_iff] at hlength
  have hwords : ∀ a b : Bool, (if a then "" else " NOT VALID").length =
      (if b then "" else " NOT VALID").length → a = b := by decide
  exact hwords _ _ hlength

section

variable [Pattern.SizeTest]

/-- **A statement shows the name and the fingerprint** of the constraint that it adds. -/
theorem Rule.eq_of_addStatement_eq {rule other : Rule} {dialect : Sql.Dialect}
    {compiled compiled' : CompiledRule} (h : rule.compile dialect = .ok compiled)
    (h' : other.compile dialect = .ok compiled') {table : TableRef} {name name' : String}
    {validate validate' : Bool}
    (heq : addStatement table name compiled.sql compiled.fingerprint validate =
      addStatement table name' compiled'.sql compiled'.fingerprint validate') :
    name = name' ∧ compiled.fingerprint = compiled'.fingerprint := by
  obtain ⟨e, hpredicate, hcompiled⟩ := exists_of_bind_eq_ok h
  obtain ⟨e', hpredicate', hcompiled'⟩ := exists_of_bind_eq_ok h'
  cases hcompiled
  cases hcompiled'
  change addStatement table name e.sql (fingerprint e.sql) validate =
    addStatement table name' e'.sql (fingerprint e'.sql) validate' at heq
  have hlexes : Sql.Lexes true e.sql.toList e.tokens :=
    Sql.Expr.lexes_sql (RuleSpec.readable_predicate rule.valid hpredicate)
  have hlexes' : Sql.Lexes true e'.sql.toList e'.tokens :=
    Sql.Expr.lexes_sql (RuleSpec.readable_predicate other.valid hpredicate')
  constructor
  · have htokens := statementTokens_addBlock hlexes.reads table name (fingerprint e.sql) validate
    rw [addBlock_eq_of_addStatement_eq heq, statementTokens_addBlock hlexes'.reads,
      Option.some_inj] at htokens
    -- The guard looks the name up in the catalog before anything that depends on the rule.
    have hname : some (Token.text name') = some (Token.text name) :=
      congrArg (fun ts : List Token => ts[14]?) htokens
    cases hname
    rfl
  · have hcomment : Sql.recordedComment? true
        (addStatement table name e.sql (fingerprint e.sql) validate) =
          some (commentOf (fingerprint e.sql)) :=
      recordedComment?_addStatement hlexes.reads hlexes.ne_semicolon
    rw [heq, recordedComment?_addStatement hlexes'.reads hlexes'.ne_semicolon, Option.some_inj,
      commentOf, commentOf] at hcomment
    show fingerprint e.sql = fingerprint e'.sql
    simpa using hcomment.symm

namespace Planner

variable {planner : Planner} {table : TableRef} {rules changed : List Rule} {present : Present}
  {plan : Plan} {desired : Desired} {name : String} {rule : Rule} {compiled : CompiledRule}

/-! ### Rules that compile -/

/-- A constraint is added unless it is there, with its fingerprint or with none. -/
theorem addition?_finding_iff (h : rule.compile planner.dialect = .ok compiled) :
    (planner.finding table present name rule).addition? =
        some (addAction table name rule compiled) ↔
      present.find? name ≠ some none ∧
        present.find? name ≠ some (some compiled.fingerprint) := by
  rw [finding_of_ok h]
  rcases present.find? name with _ | _ | recorded
  · simp [Finding.addition?]
  · simp [Finding.addition?]
  · by_cases hsame : recorded = compiled.fingerprint <;> simp [hsame, Finding.addition?]

/-- What is added is dropped before if it is there. -/
theorem removal?_finding (h : rule.compile planner.dialect = .ok compiled)
    (hadd : (planner.finding table present name rule).addition? =
      some (addAction table name rule compiled)) (hheld : present.find? name ≠ none) :
    (planner.finding table present name rule).removal? = some (dropAction table name) := by
  obtain ⟨hmarked, hother⟩ := (addition?_finding_iff h).1 hadd
  rw [finding_of_ok h]
  rcases hfound : present.find? name with _ | _ | recorded
  · exact absurd hfound hheld
  · exact absurd hfound hmarked
  · have hne : recorded ≠ compiled.fingerprint := fun hsame => hother (by rw [hfound, hsame])
    simp [hne, Finding.removal?]

/-- **The plan adds a rule that compiles** unless its constraint is there, with its fingerprint
or with none. -/
theorem addAction_mem_iff (hrule : desired[name]? = some rule)
    (h : rule.compile planner.dialect = .ok compiled) :
    addAction table name rule compiled ∈ (planner.planDesired table desired present).actions ↔
      present.find? name ≠ some none ∧
        present.find? name ≠ some (some compiled.fingerprint) := by
  rw [← addition?_finding_iff h, addition?_eq_some_iff hrule]
  exact ⟨fun hmem => ⟨hmem, rfl, rfl⟩, fun hmem => hmem.1⟩

/-- A rule whose name is held is dropped before it is added. -/
theorem exists_dropped_before (hrule : desired[name]? = some rule)
    (h : rule.compile planner.dialect = .ok compiled)
    (hmem : addAction table name rule compiled ∈
      (planner.planDesired table desired present).actions)
    (hheld : present.find? name ≠ none) :
    ∃ before between behind, (planner.planDesired table desired present).actions =
      before ++ dropAction table name :: between ++
        addAction table name rule compiled :: behind := by
  have hadd : (planner.finding table present name rule).addition? =
      some (addAction table name rule compiled) :=
    (addition?_finding_iff h).2 ((addAction_mem_iff hrule h).1 hmem)
  have haddition := mem_additions.2 ⟨name, rule, hrule, hadd⟩
  have hremoval := mem_removals.2 (Or.inl ⟨name, rule, hrule, removal?_finding h hadd hheld⟩)
  obtain ⟨before, between, hdrops⟩ := List.append_of_mem hremoval
  obtain ⟨between', behind, hadds⟩ := List.append_of_mem haddition
  refine ⟨before, between ++ between', behind, ?_⟩
  rw [planDesired_actions, hdrops, hadds]
  simp

/-- A rule is first of its name unless zeros have signs. -/
theorem wanted?_of_no_negativeZero (hdesired : planner.desired table rules = .ok desired)
    (hzeros : ∀ rule ∈ rules, .decimal .negativeZero ∉ rule.spec.kind.literals)
    (hmem : rule ∈ rules) :
    planner.wanted? table rules (planner.namer.name table.name rule) = some rule := by
  obtain ⟨first, hfirst, hsame⟩ := exists_same_wanted? hdesired hmem
  have hfirstMem := (mem_of_wanted? hfirst).1
  rw [hfirst, Rule.eq_of_same hsame (hzeros first hfirstMem) (hzeros rule hmem)]

/-! ### Migrating from nothing -/

/-- The rule that a migration from nothing leaves under a name, compiled. -/
def installed? (planner : Planner) (table : TableRef) (rules : List Rule) (name : String) :
    Option CompiledRule :=
  (planner.wanted? table rules name).bind fun rule => (rule.compile planner.dialect).toOption

theorem installed?_eq_some_iff : planner.installed? table rules name = some compiled ↔
    ∃ rule, planner.wanted? table rules name = some rule ∧
      rule.compile planner.dialect = .ok compiled := by
  rw [installed?, Option.bind_eq_some_iff]
  refine exists_congr fun rule => and_congr_right fun _ => ?_
  cases rule.compile planner.dialect <;> simp [Except.toOption]

/-- **From nothing**, every rule with a predicate is there with its fingerprint. -/
theorem find?_applyTo_empty (h : planner.plan table rules .empty = .ok plan) (name : String) :
    (plan.applyTo .empty).find? name =
      (planner.installed? table rules name).map fun compiled => some compiled.fingerprint := by
  cases hrule : planner.wanted? table rules name with
  | none =>
    have hfree := find?_applyTo h .empty name
    simpa [drops, added?, finding?, installed?, hrule, Present.find?_empty] using hfree
  | some rule =>
    cases hcompiled : rule.compile planner.dialect with
    | error error =>
      rw [find?_applyTo_of_error h hrule hcompiled, Present.find?_empty]
      simp [installed?, hrule, hcompiled, Except.toOption]
    | ok compiled =>
      rw [find?_applyTo_of_ok h hrule hcompiled, Present.find?_empty]
      simp [installed?, hrule, hcompiled, Except.toOption]

/-- **The statements of a migration from nothing** are those that add a rule. -/
theorem mem_statements_empty (h : planner.plan table rules .empty = .ok plan)
    {statement : String} : statement ∈ plan.statements ↔
      ∃ name rule compiled, planner.wanted? table rules name = some rule ∧
        rule.compile planner.dialect = .ok compiled ∧
        statement = addStatement table name compiled.sql compiled.fingerprint
          rule.spec.validate := by
  obtain ⟨desired, hdesired, rfl⟩ := exists_desired h
  rw [Plan.statements, List.mem_map, planDesired_actions]
  constructor
  · rintro ⟨action, hmem, rfl⟩
    rcases List.mem_append.1 hmem with hremoval | hadd
    · -- Nothing is there, so that nothing is dropped.
      rcases mem_removals.1 hremoval with ⟨name, rule, -, hfound⟩ | ⟨name, ⟨-, -, hheld⟩, -⟩
      · cases hcompiled : rule.compile planner.dialect with
        | error error =>
          rw [finding_of_error hcompiled] at hfound
          cases hfound
        | ok compiled =>
          rw [finding_of_ok hcompiled, Present.find?_empty] at hfound
          cases hfound
      · exact absurd (Present.find?_empty name) hheld
    · obtain ⟨name, rule, hrule, hfound⟩ := mem_additions.1 hadd
      obtain ⟨compiled, hcompiled, rfl⟩ := addition?_eq_some hfound
      rw [getElem?_desired hdesired] at hrule
      exact ⟨name, rule, compiled, hrule, hcompiled, rfl⟩
  · rintro ⟨name, rule, compiled, hrule, hcompiled, rfl⟩
    rw [← getElem?_desired hdesired] at hrule
    refine ⟨addAction table name rule compiled, List.mem_append_right _ (mem_additions.2
      ⟨name, rule, hrule, (addition?_finding_iff hcompiled).2 ?_⟩), rfl⟩
    rw [Present.find?_empty]
    exact ⟨nofun, nofun⟩

/-- A rule with the predicate of one that a migration from nothing has added is not added. -/
theorem addAction_notMem {other : Rule} (h : planner.plan table rules .empty = .ok plan)
    (hrule : planner.wanted? table rules name = some rule)
    (hcompiled : rule.compile planner.dialect = .ok compiled)
    (hother : desired[name]? = some other)
    (hsame : other.compile planner.dialect = .ok compiled) :
    addAction table name other compiled ∉
      (planner.planDesired table desired (plan.applyTo .empty)).actions := by
  intro hmem
  refine ((addAction_mem_iff hother hsame).1 hmem).2 ?_
  rw [find?_applyTo_empty h, installed?_eq_some_iff.2 ⟨rule, hrule, hcompiled⟩]
  rfl

/-- The one statement of a migration from nothing to one rule. -/
theorem eq_of_mem_statements_singleton {other : Rule} {compiled' : CompiledRule} {validate : Bool}
    (h : planner.plan table [rule] .empty = .ok plan)
    (hcompiled : rule.compile planner.dialect = .ok compiled)
    (hother : other.compile planner.dialect = .ok compiled')
    (hmem : addStatement table name compiled'.sql compiled'.fingerprint validate ∈
      plan.statements) :
    compiled'.fingerprint = compiled.fingerprint ∧
      addStatement table name compiled'.sql compiled'.fingerprint validate =
        addStatement table name compiled.sql compiled.fingerprint rule.spec.validate := by
  obtain ⟨name', first, compiled'', hfirst, hcompiled', hstatement⟩ :=
    (mem_statements_empty h).1 hmem
  obtain rfl : first = rule := List.mem_singleton.1 (mem_of_wanted? hfirst).1
  cases hcompiled.symm.trans hcompiled'
  obtain ⟨rfl, hsame⟩ := Rule.eq_of_addStatement_eq hother hcompiled hstatement
  exact ⟨hsame, hstatement⟩

/-! ### Fingerprints -/

/-- **Fingerprints tell the predicates of rules apart.** -/
def TellsApart (planner : Planner) (rules others : List Rule) : Prop :=
  ∀ rule ∈ rules, ∀ other ∈ others, ∀ compiled compiled',
    rule.compile planner.dialect = .ok compiled → other.compile planner.dialect = .ok compiled' →
      compiled.fingerprint = compiled'.fingerprint → compiled.sql = compiled'.sql

/-- **A constraint has the fingerprint of a predicate** just if the predicate has been added
under its name. -/
theorem find?_applyTo_empty_iff (h : planner.plan table rules .empty = .ok plan)
    (happart : planner.TellsApart rules changed) (hmem : rule ∈ changed)
    (hcompiled : rule.compile planner.dialect = .ok compiled) :
    (plan.applyTo .empty).find? name = some (some compiled.fingerprint) ↔
      ∃ validate, addStatement table name compiled.sql compiled.fingerprint validate ∈
        plan.statements := by
  simp only [find?_applyTo_empty h, Option.map_eq_some_iff, installed?_eq_some_iff,
    mem_statements_empty h]
  constructor
  · rintro ⟨first, ⟨other, hother, hfirst⟩, hsame⟩
    have hsame := Option.some.inj hsame
    have hsql := happart other (mem_of_wanted? hother).1 rule hmem first compiled hfirst hcompiled
      hsame
    exact ⟨other.spec.validate, name, other, first, hother, hfirst, by rw [hsql, hsame]⟩
  · rintro ⟨validate, name', other, first, hother, hfirst, hstatement⟩
    obtain ⟨rfl, hsame⟩ := Rule.eq_of_addStatement_eq hcompiled hfirst hstatement
    exact ⟨first, ⟨other, hother, hfirst⟩, by rw [hsame]⟩

end Planner

namespace Host

variable {planner : Planner} {table : TableRef} {rules changed : List Rule} {plan : Plan}

/-- Migrating from nothing carries the plan out, be it empty or not. -/
theorem migrate_empty (h : planner.plan table rules .empty = .ok plan) :
    (empty.migrate planner table rules).2.tables table = plan.applyTo .empty ∧
      (empty.migrate planner table rules).2.log = plan.statements := by
  have hplan : empty.plan planner table rules = .ok plan := h
  rw [migrate_eq, hplan]
  refine ⟨tables_apply_unless_empty (plan_table hplan), ?_⟩
  show (if plan.isEmpty then empty else empty.apply plan).log = _
  split_ifs with hempty
  · rw [Plan.statements, List.isEmpty_iff.1 hempty]
    rfl
  · exact List.nil_append _

/-- **Changed rules are migrated.** Of the rules that are first of their names and have a
predicate, those are added whose predicate no statement for the earlier rules has added under
their name, and where the name is held it is dropped before. Every rule is first of its name if
none of them mentions `-0.0`. -/
theorem plan_changed (h : ∃ plan, planner.plan table rules .empty = .ok plan)
    (hchanged : ∃ plan, planner.plan table changed .empty = .ok plan)
    (happart : planner.TellsApart rules changed) :
    let host := (empty.migrate planner table rules).2
    ∃ plan, host.plan planner table changed = .ok plan ∧
      (∀ rule ∈ changed, ∀ compiled, rule.compile planner.dialect = .ok compiled →
        let name := planner.namer.name table.name rule
        planner.wanted? table changed name = some rule →
          (Planner.addAction table name rule compiled ∈ plan.actions ↔
            ∀ validate, addStatement table name compiled.sql compiled.fingerprint validate ∉
              host.log) ∧
          (Planner.addAction table name rule compiled ∈ plan.actions →
            (host.tables table).find? name ≠ none →
              ∃ before between behind, plan.actions =
                before ++ Planner.dropAction table name :: between ++
                  Planner.addAction table name rule compiled :: behind)) ∧
      ((∀ rule ∈ changed, .decimal .negativeZero ∉ rule.spec.kind.literals) →
        ∀ rule ∈ changed,
          planner.wanted? table changed (planner.namer.name table.name rule) = some rule) := by
  intro host
  obtain ⟨first, hfirst⟩ := h
  obtain ⟨second, hsecond⟩ := hchanged
  obtain ⟨htables, hlog⟩ := migrate_empty hfirst
  obtain ⟨desired, hdesired, -⟩ := Planner.exists_desired hsecond
  have hplan : host.plan planner table changed =
      .ok (planner.planDesired table desired (host.tables table)) := by
    rw [Host.plan, Planner.plan, hdesired]
    rfl
  refine ⟨_, hplan, fun rule hmem compiled hcompiled => ?_,
    fun hzeros rule hmem => Planner.wanted?_of_no_negativeZero hdesired hzeros hmem⟩
  intro name hwanted
  have hrule : desired[name]? = some rule := by rw [Planner.getElem?_desired hdesired, hwanted]
  -- What a migration from nothing leaves always has a fingerprint.
  have hmarked : (host.tables table).find? name ≠ some none := by
    rw [htables, Planner.find?_applyTo_empty hfirst]
    cases planner.installed? table rules name <;> simp
  refine ⟨?_, Planner.exists_dropped_before hrule hcompiled⟩
  rw [Planner.addAction_mem_iff hrule hcompiled, and_iff_right hmarked, hlog, htables, Ne,
    Planner.find?_applyTo_empty_iff hfirst happart hmem hcompiled, not_exists]

end Host

end

namespace Host

/-- The month of publication, counted from zero. -/
def zeroMonthRule : Rule where
  spec := RuleSpec.of (.range (.between (.integer 0) (.integer 11))) ["month"]
  valid := by decide

/-- Books whose months are counted from zero get another constraint under the same name. -/
theorem zeroMonth_changed : ∃ plan compiled,
    (empty.migrate .postgres ⟨none, "books"⟩ [monthRule]).2.plan .postgres ⟨none, "books"⟩
      [zeroMonthRule] = .ok plan ∧
    Planner.addAction ⟨none, "books"⟩ "rein_books_month_rng" zeroMonthRule compiled ∈
      plan.actions := by
  obtain ⟨month, hmonth, zero, hzero, hne⟩ : ∃ month,
      monthRule.compile Planner.postgres.dialect = .ok month ∧ ∃ zero,
        zeroMonthRule.compile Planner.postgres.dialect = .ok zero ∧
          zero.fingerprint ≠ month.fingerprint := ⟨_, rfl, _, rfl, by decide +kernel⟩
  obtain ⟨first, hfirst⟩ : ∃ plan,
      Planner.postgres.plan ⟨none, "books"⟩ [monthRule] .empty = .ok plan := ⟨_, rfl⟩
  have happart : Planner.postgres.TellsApart [monthRule] [zeroMonthRule] := by
    simp only [Planner.TellsApart, List.forall_mem_singleton]
    intro compiled compiled' h h' hsame
    cases hmonth.symm.trans h
    cases hzero.symm.trans h'
    exact absurd hsame.symm hne
  have hname : Planner.postgres.namer.name "books" zeroMonthRule = "rein_books_month_rng" := by
    decide
  obtain ⟨plan, hplan, hall, -⟩ := plan_changed ⟨first, hfirst⟩ ⟨_, rfl⟩ happart
  have hiff := (hall zeroMonthRule List.mem_cons_self zero hzero (by simp [Planner.wanted?])).1
  rw [hname] at hiff
  refine ⟨plan, zero, hplan, hiff.2 fun validate hmem => ?_⟩
  rw [(migrate_empty hfirst).2] at hmem
  exact hne (Planner.eq_of_mem_statements_singleton hfirst hmonth hzero hmem).1

/-- The month of publication, where books that are already there are not checked. -/
def laterMonthRule : Rule where
  spec := { monthRule.spec with validate := false }
  valid := monthRule.valid

/-- **A statement that the host has never seen is not enough**: a rule that has changed in
nothing but the check of existing rows finds its constraint in place. -/
theorem not_plan_changed : ¬∀ (planner : Planner) (table : TableRef) (rules changed : List Rule),
    (∃ plan, planner.plan table rules .empty = .ok plan) →
    (∃ plan, planner.plan table changed .empty = .ok plan) →
    planner.TellsApart rules changed →
    let host := (empty.migrate planner table rules).2
    ∃ plan, host.plan planner table changed = .ok plan ∧
      ∀ rule ∈ changed, ∀ compiled, rule.compile planner.dialect = .ok compiled →
        let action := Planner.addAction table (planner.namer.name table.name rule) rule compiled
        action.statement ∉ host.log → action ∈ plan.actions := by
  intro h
  obtain ⟨compiled, hmonth⟩ : ∃ compiled,
    monthRule.compile Planner.postgres.dialect = .ok compiled := ⟨_, rfl⟩
  have hlater : laterMonthRule.compile Planner.postgres.dialect = .ok compiled := hmonth
  obtain ⟨first, hfirst⟩ : ∃ plan,
      Planner.postgres.plan ⟨none, "books"⟩ [monthRule] .empty = .ok plan := ⟨_, rfl⟩
  obtain ⟨htables, hlog⟩ := migrate_empty hfirst
  have happart : Planner.postgres.TellsApart [monthRule] [laterMonthRule] := by
    simp only [Planner.TellsApart, List.forall_mem_singleton]
    intro compiled compiled' hcompiled hcompiled' _
    cases hmonth.symm.trans hcompiled
    cases hlater.symm.trans hcompiled'
    rfl
  obtain ⟨plan, hplan, hall⟩ := h .postgres ⟨none, "books"⟩ [monthRule] [laterMonthRule]
    ⟨first, hfirst⟩ ⟨_, rfl⟩ happart
  obtain ⟨desired, hdesired, rfl⟩ := Planner.exists_desired hplan
  have hwanted : Planner.postgres.wanted? ⟨none, "books"⟩ [laterMonthRule]
      (Planner.postgres.namer.name "books" laterMonthRule) = some laterMonthRule := by
    simp [Planner.wanted?]
  rw [← Planner.getElem?_desired hdesired] at hwanted
  -- The statement of the rule is not the one that was given, but its predicate is there.
  have hnew : addStatement ⟨none, "books"⟩ (Planner.postgres.namer.name "books" laterMonthRule)
      compiled.sql compiled.fingerprint false ∉ first.statements := fun hmem =>
    Bool.false_ne_true (validate_eq_of_addStatement_eq
      (Planner.eq_of_mem_statements_singleton hfirst hmonth hlater hmem).2)
  have hadded := hall laterMonthRule List.mem_cons_self compiled hlater (by rw [hlog]; exact hnew)
  rw [htables] at hadded
  have hname : Planner.postgres.namer.name "books" monthRule =
      Planner.postgres.namer.name "books" laterMonthRule := rfl
  exact Planner.addAction_notMem hfirst (by simp [Planner.wanted?, hname]) hmonth hwanted hlater
    hadded

end Host

end ColumnChecks
