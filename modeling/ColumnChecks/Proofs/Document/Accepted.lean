import ColumnChecks.Document.Checking
import ColumnChecks.Proofs.Plan.Storable

/-!
# Plans for accepted documents

A document that is loaded has tables whose names are not blank
(`ColumnChecks.RulesDocument.trim_ne_nil_of_load`) and rules that make sense. Nothing looks at
the schema of a table, at NUL characters in the name of a table, or at NUL characters in the
values that rules mention. These are therefore **just what keeps a statement of a plan from
being stored** (`ColumnChecks.RulesDocument.storable_statement_iff`).
-/

namespace ColumnChecks

section

variable [Pattern.SizeTest]

/-- An entry that is kept is about its table, which is not blank. -/
theorem TableRules.of_check_eq_some {seen : List Sql.TableRef} {index : Nat} {entry : TableRules}
    {checked : CheckedTable} (h : (entry.check seen index).1 = some checked) :
    checked.table = entry.ref ∧ Text.trim entry.table.toList ≠ [] := by
  unfold TableRules.check at h
  by_cases hblank : (Text.trim entry.table.toList).isEmpty = true
  · rw [if_pos hblank] at h
    cases h
  by_cases hseen : seen.contains entry.ref = true
  · rw [if_neg hblank, if_pos hseen] at h
    cases h
  · rw [if_neg hblank, if_neg hseen] at h
    cases h
    exact ⟨rfl, fun hnil => hblank (List.isEmpty_iff.2 hnil)⟩

/-- **Entries that are kept** are about tables that are not blank. -/
theorem trim_ne_nil_of_mem_checkTables {seen : List Sql.TableRef} {index : Nat}
    {entries : List TableRules} {checked : CheckedTable}
    (h : checked ∈ (checkTables seen index entries).1) :
    Text.trim checked.table.name.toList ≠ [] := by
  induction entries generalizing seen index with
  | nil => cases h
  | cons entry entries ih =>
    rw [checkTables] at h
    split at h
    · next table issues hentry =>
      rcases List.mem_cons.1 h with rfl | h
      · obtain ⟨htable, hblank⟩ := TableRules.of_check_eq_some (congrArg Prod.fst hentry)
        rwa [htable]
      · exact ih h
    · exact ih h

namespace RulesDocument

variable {value : Json} {dialect : Sql.Dialect} {loaded : CheckedDocument} {entry : CheckedTable}

/-- What is loaded has been checked. -/
theorem exists_check_of_load (h : RulesDocument.load value dialect = .ok loaded) :
    ∃ doc : RulesDocument, loaded.tables = (doc.check dialect).1 := by
  unfold RulesDocument.load at h
  simp only at h
  split_ifs at h
  split at h
  · cases h
  · next doc hdoc =>
    split_ifs at h
    cases h
    exact ⟨doc, rfl⟩

/-- **No table of a loaded document is blank.** -/
theorem trim_ne_nil_of_load (h : RulesDocument.load value dialect = .ok loaded)
    (hentry : entry ∈ loaded.tables) : Text.trim entry.table.name.toList ≠ [] := by
  obtain ⟨doc, hdoc⟩ := exists_check_of_load h
  rw [hdoc, RulesDocument.check] at hentry
  exact trim_ne_nil_of_mem_checkTables hentry

/-- **What a statement planned for a loaded document is made of can be stored** just if the name
and the schema of the table have no NUL character and the schema is not empty, and, if a
constraint is added, no text that its rule mentions has a NUL character. -/
theorem storable_statement_iff (hload : RulesDocument.load value dialect = .ok loaded)
    (hentry : entry ∈ loaded.tables) {planner : Planner} {present : Present}
    (hpresent : ∀ name ∈ present.names, hasNul name = false) {plan : Plan}
    (hplan : planner.plan entry.table entry.rules present = .ok plan) {action : Action}
    (haction : action ∈ plan.actions) (conforming : Bool) :
    ∃ ts, Sql.commandTokens? conforming action.statement = some ts ∧
      (ts.all Sql.Token.isStorable = true ↔
        hasNul entry.table.name = false ∧
        (∀ schema, entry.table.schema = some schema → schema ≠ "" ∧ hasNul schema = false) ∧
        (action.isAdd = true → ∀ rule,
          planner.wanted? entry.table entry.rules action.name = some rule →
            ∀ s, Literal.text s ∈ rule.spec.kind.literals → hasNul s = false)) := by
  obtain ⟨ts, hts, hiff⟩ := Planner.storable_action_iff hpresent hplan haction conforming
  refine ⟨ts, hts, hiff.trans ?_⟩
  have hname : entry.table.name ≠ "" := fun hempty => by
    have hblank := trim_ne_nil_of_load hload hentry
    rw [hempty] at hblank
    exact hblank rfl
  have htable : entry.table.isStorable = true ↔ hasNul entry.table.name = false ∧
      ∀ schema, entry.table.schema = some schema → schema ≠ "" ∧ hasNul schema = false := by
    rw [Sql.TableRef.isStorable, Bool.and_eq_true, isProperName_iff, and_comm]
    cases entry.table.schema with
    | none => simp [hname]
    | some schema => simp [hname, isProperName_iff]
  rw [htable, and_assoc]

end RulesDocument

end

namespace RulesDocument

/-- A document with a value that no database stores. -/
def shelfMarks : Json :=
  .object [("rules_version", .text "0.1"), ("tables", .array
    [.object [("table", .text "books"), ("rules", .array
      [.object [("kind", .text "inclusion"), ("target", .array [.text "mark"]),
        ("values", .array [.text "A\x00B"])]])]])]

/-- The rule of that document. -/
def markRule : Rule where
  spec := RuleSpec.of (.inclusion [.text "A\x00B"]) ["mark"]
  valid := by decide

/-- The document is loaded, and a plan for it has a statement that cannot be stored. -/
theorem shelfMarks_statement : ∃ loaded entry plan action ts,
    RulesDocument.load shelfMarks .postgres = .ok loaded ∧ entry ∈ loaded.tables ∧
    Planner.postgres.plan entry.table entry.rules .empty = .ok plan ∧ action ∈ plan.actions ∧
    Sql.commandTokens? true action.statement = some ts ∧ ts.all Sql.Token.isStorable = false := by
  have hload : (RulesDocument.load shelfMarks .postgres).toOption.map (fun loaded =>
      loaded.tables.map fun entry => (entry.table, entry.rules.map Rule.spec)) =
        some [(⟨none, "books"⟩, [markRule.spec])] := by decide +kernel
  obtain ⟨loaded, hloaded, htables⟩ := Option.map_eq_some_iff.1 hload
  have hloaded : RulesDocument.load shelfMarks .postgres = .ok loaded := by
    cases h : RulesDocument.load shelfMarks .postgres with
    | error report => simp [h, Except.toOption] at hloaded
    | ok found => simpa [h, Except.toOption] using hloaded
  obtain ⟨entry, hentries, hentry⟩ := List.map_eq_singleton_iff.1 htables
  obtain ⟨htable, hspecs⟩ := Prod.mk.inj hentry
  obtain ⟨rule, hrules, hspec⟩ := List.map_eq_singleton_iff.1 hspecs
  obtain rfl : rule = markRule := by
    cases rule
    cases hspec
    rfl
  have hmem : entry ∈ loaded.tables := hentries ▸ List.mem_cons_self
  obtain ⟨plan, hplan⟩ : ∃ plan,
      Planner.postgres.plan ⟨none, "books"⟩ [markRule] .empty = .ok plan := ⟨_, rfl⟩
  rw [← htable, ← hrules] at hplan
  obtain ⟨desired, hdesired, rfl⟩ := Planner.exists_desired hplan
  -- The constraint is not there, so it is added.
  let name := Planner.postgres.namer.name entry.table.name markRule
  have hwanted : Planner.postgres.wanted? entry.table entry.rules name = some markRule := by
    simp [Planner.wanted?, hrules, name]
  have hfree : ∀ name, Present.empty.find? name = none := fun _ => Std.ExtTreeMap.getElem?_empty
  obtain ⟨compiled, hcompiled⟩ :
      ∃ compiled, markRule.compile Planner.postgres.dialect = .ok compiled := ⟨_, rfl⟩
  have hfound : (Planner.postgres.finding entry.table .empty name markRule).addition? =
      some (Planner.addAction entry.table name markRule compiled) := by
    rw [Planner.finding_of_ok hcompiled, hfree]
    rfl
  have haction := List.mem_append_right (Planner.postgres.removals entry.table desired .empty)
    (Planner.mem_additions.2
      ⟨name, markRule, (Planner.getElem?_desired hdesired name).trans hwanted, hfound⟩)
  have hnames : ∀ name ∈ Present.empty.names, hasNul name = false := fun name hname =>
    absurd (hfree name) (Present.mem_names.1 hname)
  obtain ⟨ts, hts, hiff⟩ := storable_statement_iff hloaded hmem hnames hplan haction true
  refine ⟨loaded, entry, _, _, ts, hloaded, hmem, hplan, haction, hts, ?_⟩
  rw [Bool.eq_false_iff]
  intro hall
  exact absurd ((hiff.1 hall).2.2 rfl markRule hwanted "A\x00B" List.mem_cons_self) (by decide)

end RulesDocument

end ColumnChecks
