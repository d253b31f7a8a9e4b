import ColumnChecks.CommandLine.Run
import ColumnChecks.Proofs.Plan.Repetition

/-!
# What scripts do

A script is run from what has been written so far, and comes to a result and to what has
been written then. It runs step by step (`ColumnChecks.CommandLine.Script.run_bind`),
and what fails takes the rest with it.

The commands on a document begin alike. `ColumnChecks.CommandLine.Opens` says when they
get past that beginning, with which planner and which tables, and
`ColumnChecks.CommandLine.Opens.run` that nothing is on the output by then. From there,
planning one table prints its plan (`ColumnChecks.CommandLine.Opens.outcome_runPlan`), and
checking a row prints the verdicts and ends well if no predicate is without a value and
no constraint rejects the row (`ColumnChecks.CommandLine.Opens.outcome_runCheck`).
-/

namespace ColumnChecks.CommandLine

namespace Script

variable {α β ε : Type} {start : Transcript}

/-! ### Steps -/

/-- **A script goes on with the result of its first step**, unless that one fails. -/
theorem run_bind (script : Script α) (next : α → Script β) (start : Transcript) :
    (script >>= next).run.run start =
      match script.run.run start with
      | (.ok value, written) => (next value).run.run written
      | (.error failure, written) => (.error failure, written) := by
  rw [ExceptT.run_bind, StateT.run_bind]
  rcases script.run.run start with ⟨_ | _, written⟩ <;> rfl

theorem run_bind_of_ok {script : Script α} {value : α} {written : Transcript}
    (h : script.run.run start = (.ok value, written)) (next : α → Script β) :
    (script >>= next).run.run start = (next value).run.run written := by
  rw [run_bind, h]

theorem run_bind_of_error {script : Script α} {failure : Failure} {written : Transcript}
    (h : script.run.run start = (.error failure, written)) (next : α → Script β) :
    (script >>= next).run.run start = (.error failure, written) := by
  rw [run_bind, h]

@[simp] theorem run_write (text : String) :
    (write text).run.run start = (.ok (), { start with output := start.output ++ text }) :=
  rfl

@[simp] theorem run_warn (line : String) :
    (warn line).run.run start = (.ok (), { start with errors := start.errors ++ line ++ "\n" }) :=
  rfl

@[simp] theorem run_orFail (failure : ε → Failure) (result : Except ε α) :
    (orFail failure result).run.run start = (result.mapError failure, start) := by
  cases result <;> rfl

/-- Texts are written one behind the other. -/
theorem run_forM_write (text : α → String) (xs : List α) (start : Transcript) :
    (xs.forM fun x => write (text x)).run.run start =
      (.ok (), { start with output := start.output ++ String.join (xs.map text) }) := by
  induction xs generalizing start with
  | nil =>
    rw [List.map_nil, String.join_nil, String.append_empty]
    rfl
  | cons x xs ih =>
    refine (run_bind_of_ok (run_write (text x)) _).trans ((ih _).trans ?_)
    rw [List.map_cons, String.join_cons, String.append_assoc]

theorem outcome_of_ok {script : Script Unit} {written : Transcript}
    (h : script.run.run ⟨"", ""⟩ = (.ok (), written)) :
    script.outcome = ⟨0, written.output, written.errors⟩ := by
  rw [outcome, h]

theorem outcome_of_error {script : Script Unit} {failure : Failure} {written : Transcript}
    (h : script.run.run ⟨"", ""⟩ = (.error failure, written)) :
    script.outcome =
      ⟨1, written.output, written.errors ++ "Error: " ++ failure.diagnostic ++ "\n"⟩ := by
  rw [outcome, h]

end Script

open Script

/-! ### Opening a document -/

/-- Issues go to the error output. -/
theorem exists_run_tell (issues : List Issue) (start : Transcript) :
    ∃ errors, (tell issues).run.run start = (.ok (), { start with errors := errors }) := by
  rw [tell]
  generalize issues.flatMap issueLines = lines
  induction lines generalizing start with
  | nil => exact ⟨start.errors, rfl⟩
  | cons line lines ih =>
    obtain ⟨errors, hrest⟩ := ih { start with errors := start.errors ++ line ++ "\n" }
    exact ⟨errors, (run_bind_of_ok (run_warn line) _).trans hrest⟩

section

variable [Pattern.SizeTest]

variable {files : Files} {settings : Settings} {rules : String} {table : Option String}
  {planner : Planner} {tables : List CheckedTable} {start : Transcript}

/-- **A document is opened**: its file has a text, the text is a document that makes
sense, there is a planner for it, and it has tables of the kind that is asked for. -/
def Opens (files : Files) (settings : Settings) (rules : String) (table : Option String)
    (planner : Planner) (tables : List CheckedTable) : Prop :=
  ∃ text value document, files rules = .text text ∧ Draft.parseJson text = .ok value ∧
    RulesDocument.load value settings.dialect = .ok document ∧
    plannerFor settings document.namePrefix = .ok planner ∧
    selectTables document table = .ok tables

/-- **An opened document puts nothing on the output.** -/
theorem Opens.run (h : Opens files settings rules table planner tables) (start : Transcript) :
    ∃ errors, (openDocument files settings rules table).run.run start =
      (.ok (planner, tables), { start with errors := errors }) := by
  obtain ⟨text, value, document, htext, hvalue, hload, hplanner, htables⟩ := h
  obtain ⟨errors, htell⟩ := exists_run_tell document.warnings start
  have hread : (readText files rules).run.run start = (.ok text, start) := by
    rw [readText, htext]
    rfl
  have hdocument : (loadDocument files settings rules).run.run start =
      (.ok document, { start with errors := errors }) := by
    rw [loadDocument, run_bind_of_ok hread, hvalue, run_bind_of_ok (run_orFail _ _), hload]
    exact run_bind_of_ok htell _
  refine ⟨errors, ?_⟩
  rw [openDocument, run_bind_of_ok hdocument, hplanner, run_bind_of_ok (run_orFail _ _), htables,
    run_bind_of_ok (run_orFail _ _)]
  rfl

/-! ### Planning one table -/

/-- The constraints that are given for a table: none, or those in a listing. -/
def Supplied (files : Files) : Option String → Present → Prop
  | none, present => present = .empty
  | some path, present => ∃ text, files path = .text text ∧ present = .ofListing text

variable {entry : CheckedTable} {path : Option String} {present : Present}

theorem Supplied.run (h : Supplied files path present) (entry : CheckedTable) (start : Transcript) :
    (loadPresent files [entry] path).run.run start = (.ok present, start) := by
  cases path with
  | none =>
    rw [h]
    rfl
  | some path =>
    obtain ⟨text, htext, rfl⟩ := h
    have hread : (readText files path).run.run start = (.ok text, start) := by
      rw [readText, htext]
      rfl
    exact run_bind_of_ok hread _

/-- What comes of planning, once the document has been opened: the plan is printed, or two
rules ask for one name. -/
def planned (warnings : String) : Except NameCollision Plan → Outcome
  | .ok plan => ⟨0, plan.toSql, warnings⟩
  | .error error =>
    ⟨1, "", warnings ++ "Error: " ++ (Failure.collision error).diagnostic ++ "\n"⟩

/-- **Planning one table** prints the plan for the constraints that are given. -/
theorem Opens.outcome_runPlan (h : Opens files settings rules table planner [entry])
    (hsupplied : Supplied files path present) :
    ∃ warnings, (runPlan files settings rules path table).outcome =
      planned warnings (planner.plan entry.table entry.rules present) := by
  obtain ⟨warnings, hopened⟩ := h.run ⟨"", ""⟩
  have hpresent := hsupplied.run entry ⟨"", warnings⟩
  have hplanned : (orFail .collision (planner.plan entry.table entry.rules present)).run.run
      ⟨"", warnings⟩ = ((planner.plan entry.table entry.rules present).mapError .collision,
        ⟨"", warnings⟩) := run_orFail _ _
  refine ⟨warnings, ?_⟩
  cases hplan : planner.plan entry.table entry.rules present with
  | ok plan =>
    rw [hplan] at hplanned
    have htable := run_bind_of_ok hplanned fun plan : Plan => write plan.toSql
    rw [run_write, String.empty_append, ← hplan] at htable
    have hrun : (runPlan files settings rules path table).run.run ⟨"", ""⟩ =
        (.ok (), ⟨plan.toSql, warnings⟩) := by
      rw [runPlan, run_bind_of_ok hopened, run_bind_of_ok hpresent]
      exact run_bind_of_ok htable _
    exact outcome_of_ok hrun
  | error error =>
    rw [hplan] at hplanned
    have htable := run_bind_of_error hplanned fun plan : Plan => write plan.toSql
    rw [← hplan] at htable
    have hrun : (runPlan files settings rules path table).run.run ⟨"", ""⟩ =
        (.error (.collision error), ⟨"", warnings⟩) := by
      rw [runPlan, run_bind_of_ok hopened, run_bind_of_ok hpresent]
      exact run_bind_of_error htable _
    exact outcome_of_error hrun

/-! ### Checking a row -/

/-- **Checking a row** prints the verdicts. It ends well if each predicate has a value and
no constraint rejects the row. -/
theorem Opens.outcome_runCheck {name text : String} {row : Sql.Row} {verdicts : List RowVerdict}
    {error : Option Sql.EvalError} (h : Opens files settings rules (some name) planner tables)
    (hrow : parseRow text = .ok row)
    (hverdicts : planner.verdicts row (rulesOf tables) = (verdicts, error)) :
    (runCheck files settings rules name text).outcome.output =
        String.join (verdicts.map (·.line ++ "\n")) ∧
      ((runCheck files settings rules name text).outcome.code = 0 ↔
        error = none ∧ ∀ verdict ∈ verdicts, verdict.isFailure = false) := by
  obtain ⟨warnings, hopened⟩ := h.run ⟨"", ""⟩
  have hread : (orFail .json (parseRow text)).run.run ⟨"", warnings⟩ =
      (.ok row, ⟨"", warnings⟩) := by
    rw [run_orFail, hrow]
    rfl
  have hwrite := run_forM_write (fun verdict : RowVerdict => verdict.line ++ "\n") verdicts
    ⟨"", warnings⟩
  rw [String.empty_append] at hwrite
  -- Once the verdicts are printed, it is settled how the command ends.
  obtain ⟨ending, hrun, hfault, hclean⟩ : ∃ ending : Script Unit,
      (runCheck files settings rules name text).run.run ⟨"", ""⟩ =
        ending.run.run ⟨String.join (verdicts.map (·.line ++ "\n")), warnings⟩ ∧
      (∀ fault, error = some fault → ending = throw (.evaluation fault)) ∧
      (error = none → ending =
        if 0 < (verdicts.filter RowVerdict.isFailure).length then
          throw (.rejected (verdicts.filter RowVerdict.isFailure).length)
        else pure ()) := by
    refine ⟨?ending, ?run, ?fault, ?clean⟩
    case run =>
      rw [runCheck, run_bind_of_ok hopened, run_bind_of_ok hread]
      simp only [hverdicts]
      exact run_bind_of_ok hwrite _
    case fault =>
      rintro fault rfl
      rfl
    case clean =>
      rintro rfl
      rfl
  cases error with
  | some fault =>
    rw [hfault fault rfl] at hrun
    rw [outcome_of_error hrun]
    exact ⟨rfl, iff_of_false Nat.one_ne_zero fun hgood => Option.some_ne_none fault hgood.1⟩
  | none =>
    rw [hclean rfl] at hrun
    by_cases hgood : ∀ verdict ∈ verdicts, verdict.isFailure = false
    · have hnone : ¬0 < (verdicts.filter RowVerdict.isFailure).length := by
        rw [List.filter_eq_nil_iff.2 fun verdict hverdict =>
          Bool.eq_false_iff.1 (hgood verdict hverdict)]
        exact Nat.lt_irrefl 0
      rw [if_neg hnone] at hrun
      rw [outcome_of_ok hrun]
      exact ⟨rfl, iff_of_true rfl ⟨rfl, hgood⟩⟩
    · have hsome : 0 < (verdicts.filter RowVerdict.isFailure).length :=
        List.length_pos_iff.2 fun hnone => hgood fun verdict hverdict =>
          Bool.eq_false_iff.2 (List.filter_eq_nil_iff.1 hnone verdict hverdict)
      rw [if_pos hsome] at hrun
      rw [outcome_of_error hrun]
      exact ⟨rfl, iff_of_false Nat.one_ne_zero fun h => hgood h.2⟩

end

/-! ### A document that opens -/

/-- A document that says twice that cellars are free of frost, and a listing of what is there
from before. -/
def cellarFiles : Files
  | "cellars.json" => .text ("\x7b\"rules_version\": \"0.1\", \"tables\": ["
      ++ "\x7b\"table\": \"cellars\", \"rules\": ["
      ++ "\x7b\"kind\": \"range\", \"target\": [\"temperature\"], \"min\": 0.0\x7d, "
      ++ "\x7b\"kind\": \"range\", \"target\": [\"temperature\"], \"min\": -0.0\x7d]\x7d]\x7d")
  | "cellars.txt" => .text ("# managed\r\nrein_cellars_temperature_rng old\n\n"
      ++ "  rein_cellars_temperature_rng\t5f3a \r\ncellars_legacy_check")
  | _ => .absent

theorem opens_cellars : ∃ entry, Opens cellarFiles .default "cellars.json" (some "cellars")
    .postgres [entry] ∧ entry.table = ⟨none, "cellars"⟩ ∧
      entry.rules = [Planner.frostRule false, Planner.frostRule true] := by
  obtain ⟨text, htext⟩ : ∃ text, cellarFiles "cellars.json" = .text text := ⟨_, rfl⟩
  -- One evaluation reads the document and shows what is in it.
  have hfound : (do
      let value ← (Draft.parseJson text).toOption
      let document ← (RulesDocument.load value .postgres).toOption
      let tables ← (selectTables document (some "cellars")).toOption
      some (document.namePrefix,
        tables.map fun entry => (entry.table, entry.rules.map Rule.spec))) =
      some (none, [(⟨none, "cellars"⟩,
        [(Planner.frostRule false).spec, (Planner.frostRule true).spec])]) := by
    cases htext
    decide +kernel
  simp only [Option.bind_eq_bind, Option.bind_eq_some_iff, toOption_eq_some_iff, Option.some.injEq,
    Prod.mk.injEq] at hfound
  obtain ⟨value, hvalue, document, hdocument, tables, htables, hnamed, hentries⟩ := hfound
  obtain ⟨entry, rfl, hentry⟩ := List.map_eq_singleton_iff.1 hentries
  obtain ⟨htable, hspecs⟩ := Prod.mk.inj hentry
  have hplanner : plannerFor .default document.namePrefix = .ok .postgres := by
    rw [hnamed]
    rfl
  refine ⟨entry, ⟨text, value, document, htext, hvalue, hdocument, hplanner, htables⟩, htable, ?_⟩
  have hinjective : Function.Injective Rule.spec := fun _ _ => Rule.ext_spec
  exact hinjective.list_map hspecs

end ColumnChecks.CommandLine
