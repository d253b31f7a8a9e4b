import ColumnChecks.Proofs.Naming.Characters
import ColumnChecks.Proofs.Plan.Convergence
import ColumnChecks.Proofs.Plan.Tags
import ColumnChecks.Proofs.Rule.Unsupported

/-!
# The script of a plan

A plan is handed over as a script: a comment with the table and the number of steps,
a comment for each rule that was set aside, and the statements, each behind the other
and ended by a line feed. The comments are meant to be one line each.

What they are made of decides whether they are. Names of constraints never have a line
end, nor have the fixed texts; what is left is the reference to the table in the first
comment and the name of the dialect in the others
(`ColumnChecks.Planner.oneLine_header_iff`, `ColumnChecks.Planner.oneLine_remark_iff`).
Quoting a name doubles its quotes and keeps its line ends, so **the first comment is
one line just if the name of the table and of its schema are**, and where they are not,
what is behind the line end is executed.

The statements are kept whatever they quote (`ColumnChecks.Planner.kept_statement`), so
if the comments are lines, they are all that the server leaves out
(`ColumnChecks.Planner.toSql_plan`).
-/

namespace ColumnChecks

open Sql

/-! ### The parts of a script -/

/-- Texts behind each other, each with a line feed. -/
def script (parts : List String) : String := String.join (parts.map fun part => part ++ "\n")

theorem toList_script (parts : List String) :
    (script parts).toList = (parts.map fun part => part.toList ++ ['\n']).flatten := by
  rw [script, String.toList_join, List.flatMap_map, List.flatMap_def]
  simp only [String.toList_append]
  rfl

theorem script_append (first second : List String) :
    script (first ++ second) = script first ++ script second := by
  rw [← String.toList_inj, String.toList_append, toList_script, toList_script, toList_script,
    List.map_append, List.flatten_append]

/-! ### Line ends -/

/-- A text that is one line. -/
def OneLine (text : String) : Prop := IsLine text.toList

instance (text : String) : Decidable (OneLine text) :=
  inferInstanceAs (Decidable (IsLine text.toList))

@[simp] theorem oneLine_append {a b : String} : OneLine (a ++ b) ↔ OneLine a ∧ OneLine b := by
  rw [OneLine, String.toList_append, isLine_append]
  rfl

theorem oneLine_fixed_append {fixed text : String} (h : OneLine fixed) :
    OneLine (fixed ++ text) ↔ OneLine text := by
  rw [oneLine_append, and_iff_right h]

theorem oneLine_append_fixed {text fixed : String} (h : OneLine fixed) :
    OneLine (text ++ fixed) ↔ OneLine text := by
  rw [oneLine_append, and_iff_left h]

/-- Neither the table nor its schema has a line end in its name. -/
def Sql.TableRef.OneLine (table : TableRef) : Prop :=
  (∀ schema ∈ table.schema, ColumnChecks.OneLine schema) ∧ ColumnChecks.OneLine table.name

theorem isLine_doubled {cs : List Char} : IsLine (doubled '"' cs) ↔ IsLine cs := by
  have hmark : isLineEnd '"' = false := rfl
  simp only [doubled, List.cons_append, isLine_cons, isLine_append, hmark, true_and]
  constructor
  · rintro ⟨h, -⟩ c hc
    have hpiece : c ∈ if c = '"' then ['"', '"'] else [c] := by split_ifs <;> simp [*]
    exact h c (List.mem_flatMap.2 ⟨c, hc, hpiece⟩)
  · intro h
    refine ⟨fun c hc => ?_, by simp [IsLine]⟩
    obtain ⟨d, hd, hc⟩ := List.mem_flatMap.1 hc
    split_ifs at hc with hquote
    · simp only [List.mem_cons, List.not_mem_nil, or_false, or_self] at hc
      rw [hc]
      rfl
    · rw [List.mem_singleton.1 hc]
      exact h d hd

theorem oneLine_quoteIdentifier {name : String} :
    OneLine (quoteIdentifier name) ↔ OneLine name := by
  rw [quoteIdentifier]
  split_ifs
  · exact Iff.rfl
  · rw [OneLine, String.toList_ofList, isLine_doubled]
    rfl

theorem oneLine_tableRef {table : TableRef} : OneLine table.sql ↔ table.OneLine := by
  obtain ⟨schema, name⟩ := table
  have hpoint : OneLine "." := by decide
  cases schema with
  | none => simp [TableRef.sql, TableRef.OneLine, oneLine_quoteIdentifier]
  | some schema => simp [TableRef.sql, TableRef.OneLine, oneLine_quoteIdentifier, hpoint]

theorem oneLine_toString (n : Nat) : OneLine (toString n) := by
  rw [OneLine, Nat.toString_eq_ofList_toDigits, String.toList_ofList]
  exact isLine_of_kind rfl rfl fun _ => Decimal.isDigit_of_mem_toDigits

theorem IsNormal.isLine {cs : List Char} (h : IsNormal cs) : IsLine cs :=
  isLine_of_kind rfl rfl h

/-- The message about a pattern that a dialect cannot match is one line just if the
name of the dialect is. -/
theorem Format.oneLine_message {format : Format} {dialect : Dialect} {error : UnsupportedRule}
    (h : format.refusal? dialect = some error) : OneLine error.message ↔ OneLine dialect.name := by
  have hrule : OneLine ("unsupported " ++ "format" ++ " rule: ") := by decide
  have hdialect : OneLine "dialect " := by decide
  have hmatch : OneLine " has no regular expression match" := by decide
  have hfold : OneLine " has no case-insensitive regular expression match" := by decide
  unfold refusal? at h
  split_ifs at h
  · cases h
    exact (oneLine_fixed_append hrule).trans
      ((oneLine_append_fixed hmatch).trans (oneLine_fixed_append hdialect))
  · cases h
    exact (oneLine_fixed_append hrule).trans
      ((oneLine_append_fixed hfold).trans (oneLine_fixed_append hdialect))

/-! ### Comments and statements -/

section

variable {conforming : Bool}

theorem uncommented_comments {comments : List String}
    (h : ∀ comment ∈ comments, OneLine comment ∧ ∃ rest, comment.toList = '-' :: '-' :: rest)
    (rest : List Char) :
    uncommented conforming ((script comments).toList ++ rest) = uncommented conforming rest := by
  rw [toList_script]
  induction comments with
  | nil => rfl
  | cons comment comments ih =>
    rw [List.forall_mem_cons] at h
    obtain ⟨⟨hline, text, htext⟩, hrest⟩ := h
    -- What is behind the dashes is a line, and the line feed of the script ends it.
    rw [OneLine, htext, isLine_cons, isLine_cons] at hline
    rw [← ih hrest, List.map_cons, List.flatten_cons, htext, List.append_assoc, List.append_assoc,
      List.cons_append, List.cons_append, List.singleton_append, uncommented_comment hline.2.2]

/-- A blank ends the name of the table, and a semicolon that of the constraint. -/
theorem kept_dropStatement (table : TableRef) (name : String) :
    Kept conforming (dropStatement table name).toList := by
  have htable : Kept conforming (table.sql.toList ++ [' ']) := kept_tableRef table rfl
  have hname : Kept conforming ((quoteIdentifier name).toList ++ [';']) :=
    kept_quoteIdentifier name rfl
  -- Of the words between the names only that they are kept matters.
  have hall : ∀ alter drop : String, Kept conforming alter.toList → Kept conforming drop.toList →
      Kept conforming
        (alter ++ table.sql ++ (" " ++ drop) ++ quoteIdentifier name ++ ";").toList := by
    intro alter drop halter hdrop
    simpa [List.append_assoc] using halter.append (htable.append (hdrop.append hname))
  exact hall "ALTER TABLE " "DROP CONSTRAINT IF EXISTS " (fun _ => rfl) (fun _ => rfl)

/-- The block of a statement stands in a dollar quote. -/
theorem kept_addStatement (table : TableRef) (name predicate fingerprint : String)
    (validate : Bool) :
    Kept conforming (addStatement table name predicate fingerprint validate).toList := by
  rw [addStatement]
  generalize addBlock table name predicate fingerprint validate = block
  obtain ⟨htag, hfree⟩ := quotingTag_free block.toList
  have hdo : Kept conforming "DO ".toList := fun _ => rfl
  have hend : Kept conforming [';'] := kept_separator rfl
  -- The keyword is not to be taken apart into its characters.
  generalize "DO " = word at hdo ⊢
  have hall := hdo.append ((kept_dollarQuote htag hfree).append hend)
  simpa [List.append_assoc] using hall

end

/-! ### The comments of a plan -/

section

variable [Pattern.SizeTest]

/-- The comment that a script starts with. -/
def Plan.header (plan : Plan) : String :=
  "-- " ++ plan.table.sql ++ ": " ++ toString plan.drops.length ++ " drop(s), "
    ++ toString plan.adds.length ++ " add(s)"

/-- The comment on a rule that was set aside. -/
def Rejection.remark (rejection : Rejection) : String :=
  "-- skipped " ++ rejection.name ++ ": " ++ rejection.error.message

/-- The comments of a script. -/
def Plan.comments (plan : Plan) : List String := plan.header :: plan.rejected.map Rejection.remark

theorem Plan.toSql_eq (plan : Plan) : plan.toSql = script (plan.comments ++ plan.statements) := rfl

theorem Plan.oneLine_header (plan : Plan) : OneLine plan.header ↔ plan.table.OneLine := by
  have hdashes : OneLine "-- " := by decide
  have hcolon : OneLine ": " := by decide
  have hdrops : OneLine " drop(s), " := by decide
  have hadds : OneLine " add(s)" := by decide
  rw [Plan.header, oneLine_append_fixed hadds, oneLine_append_fixed (oneLine_toString _),
    oneLine_append_fixed hdrops, oneLine_append_fixed (oneLine_toString _),
    oneLine_append_fixed hcolon, oneLine_fixed_append hdashes, oneLine_tableRef]

namespace Planner

variable {planner : Planner} {table : TableRef} {rules : List Rule} {present : Present}
  {plan : Plan}

theorem finding_eq_rejected {name : String} {rule : Rule} {rejection : Rejection}
    (h : planner.finding table present name rule = .rejected rejection) :
    rejection.name = name ∧ rule.predicate planner.dialect = .error rejection.error := by
  cases hcompile : rule.compile planner.dialect with
  | error error =>
    rw [finding_of_error hcompile] at h
    cases h
    rcases bind_eq_error hcompile with hpredicate | ⟨e, -, h⟩
    · exact ⟨rfl, hpredicate⟩
    · cases h
  | ok compiled =>
    rw [finding_of_ok hcompile] at h
    split at h
    · cases h
    · cases h
    · split_ifs at h

/-- What is set aside has the name of a rule, and a pattern that the dialect cannot
match. -/
theorem exists_of_mem_rejected (h : planner.plan table rules present = .ok plan)
    {rejection : Rejection} (hmem : rejection ∈ plan.rejected) :
    ∃ (rule : Rule) (format : Format), rejection.name = planner.namer.name table.name rule ∧
      format.refusal? planner.dialect = some rejection.error := by
  obtain ⟨desired, hdesired, rfl⟩ := exists_desired h
  obtain ⟨found, hfound, hrejected⟩ := List.mem_filterMap.1 hmem
  obtain ⟨⟨name, rule⟩, hentry, rfl⟩ := List.mem_map.1 hfound
  rw [Std.ExtTreeMap.mem_toList_iff_getElem?_eq_some, getElem?_desired hdesired] at hentry
  have hname := List.find?_some hentry
  rw [beq_iff_eq] at hname
  split at hrejected
  · next rejection' hfinding =>
    cases hrejected
    obtain ⟨hrejected, hpredicate⟩ := finding_eq_rejected hfinding
    obtain ⟨format, -, hrefusal⟩ := Rule.predicate_eq_error_iff.1 hpredicate
    exact ⟨rule, format, hrejected.trans hname.symm, hrefusal⟩
  · cases hrejected

/-- **The first comment** is one line just if the names of the table and its schema
are. -/
theorem oneLine_header_iff (h : planner.plan table rules present = .ok plan) :
    OneLine plan.header ↔ table.OneLine := by
  obtain ⟨desired, -, rfl⟩ := exists_desired h
  exact Plan.oneLine_header _

/-- **A comment on a rule** that was set aside is one line just if the name of the
dialect is. -/
theorem oneLine_remark_iff (h : planner.plan table rules present = .ok plan)
    {rejection : Rejection} (hmem : rejection ∈ plan.rejected) :
    OneLine rejection.remark ↔ OneLine planner.dialect.name := by
  obtain ⟨rule, format, hname, hrefusal⟩ := exists_of_mem_rejected h hmem
  have hskipped : OneLine "-- skipped " := by decide
  have hcolon : OneLine ": " := by decide
  have hline : OneLine rejection.name := by
    rw [hname]
    exact (planner.namer.isNormal_name table.name rule).isLine
  have hbefore : OneLine ("-- skipped " ++ rejection.name ++ ": ") := by
    rwa [oneLine_append_fixed hcolon, oneLine_fixed_append hskipped]
  rw [Rejection.remark, oneLine_fixed_append hbefore]
  exact Format.oneLine_message hrefusal

theorem comments_start (plan : Plan) {comment : String} (hmem : comment ∈ plan.comments) :
    ∃ rest, comment.toList = '-' :: '-' :: rest := by
  rcases List.mem_cons.1 hmem with rfl | hmem
  · simp [Plan.header]
  · obtain ⟨rejection, -, rfl⟩ := List.mem_map.1 hmem
    simp [Rejection.remark]

variable {conforming : Bool}

/-- A step of a plan drops a name or adds the constraint of a rule. -/
theorem mem_actions_cases (h : planner.plan table rules present = .ok plan) {action : Action}
    (hmem : action ∈ plan.actions) :
    (∃ name, action = dropAction table name) ∨
      ∃ name rule compiled, action = addAction table name rule compiled := by
  obtain ⟨desired, -, rfl⟩ := exists_desired h
  rw [planDesired_actions, List.mem_append] at hmem
  rcases hmem with hmem | hmem
  · obtain ⟨name, rule, -, hremoval⟩ | ⟨name, -, rfl⟩ := mem_removals.1 hmem
    · exact Or.inl ⟨name, removal?_eq_some hremoval⟩
    · exact Or.inl ⟨name, rfl⟩
  · obtain ⟨name, rule, -, hadd⟩ := mem_additions.1 hmem
    obtain ⟨compiled, -, haction⟩ := addition?_eq_some hadd
    exact Or.inr ⟨name, rule, compiled, haction⟩

/-- **Statements are kept**, whatever the names and texts in them are. -/
theorem kept_statement (h : planner.plan table rules present = .ok plan) {statement : String}
    (hmem : statement ∈ plan.statements) : Kept conforming statement.toList := by
  obtain ⟨action, haction, rfl⟩ := List.mem_map.1 hmem
  obtain ⟨name, rfl⟩ | ⟨name, rule, compiled, rfl⟩ := mem_actions_cases h haction
  · exact kept_dropStatement table name
  · exact kept_addStatement table name compiled.sql compiled.fingerprint rule.spec.validate

/-! ### The script -/

theorem kept_script (h : planner.plan table rules present = .ok plan) :
    Kept conforming (script plan.statements).toList := by
  rw [toList_script]
  refine .flatten fun piece hpiece => ?_
  obtain ⟨statement, hmem, rfl⟩ := List.mem_map.1 hpiece
  exact (kept_statement h hmem).append (kept_separator rfl)

theorem oneLine_comments_iff (h : planner.plan table rules present = .ok plan) :
    (∀ comment ∈ plan.comments, OneLine comment) ↔
      table.OneLine ∧ (plan.rejected = [] ∨ OneLine planner.dialect.name) := by
  rw [Plan.comments, List.forall_mem_cons, oneLine_header_iff h]
  refine and_congr_right fun _ => ?_
  constructor
  · intro hremarks
    rcases hrejected : plan.rejected with _ | ⟨rejection, more⟩
    · exact Or.inl rfl
    · have hmem : rejection ∈ plan.rejected := hrejected ▸ List.mem_cons_self
      exact Or.inr ((oneLine_remark_iff h hmem).1 (hremarks _ (List.mem_map_of_mem hmem)))
  · rintro hdialect comment hcomment
    obtain ⟨rejection, hmem, rfl⟩ := List.mem_map.1 hcomment
    rcases hdialect with hnone | hdialect
    · rw [hnone] at hmem
      cases hmem
    · exact (oneLine_remark_iff h hmem).2 hdialect

/-- **The script of a plan** is its comments, one for the plan and one for each rule set
aside, and then its statements. The comments are one line each just if the names of the
table and its schema are and, where a rule is set aside, that of the dialect; and if
they are, then what stands outside comments is the statements, in order and each with
its line feed. -/
theorem toSql_plan (h : planner.plan table rules present = .ok plan) :
    plan.toSql = script (plan.comments ++ plan.statements) ∧
      plan.comments.length = 1 + plan.rejected.length ∧
      (∀ comment ∈ plan.comments, ∃ rest, comment.toList = '-' :: '-' :: rest) ∧
      ((∀ comment ∈ plan.comments, OneLine comment) ↔
        table.OneLine ∧ (plan.rejected = [] ∨ OneLine planner.dialect.name)) ∧
      ((∀ comment ∈ plan.comments, OneLine comment) → ∀ conforming,
        uncommented conforming plan.toSql.toList = (script plan.statements).toList) := by
  have hlength : plan.comments.length = 1 + plan.rejected.length := by
    rw [Plan.comments, List.length_cons, List.length_map, Nat.add_comm]
  refine ⟨plan.toSql_eq, hlength, fun _ => comments_start plan, oneLine_comments_iff h,
    fun hlines conforming => ?_⟩
  have hcomments : ∀ comment ∈ plan.comments,
      OneLine comment ∧ ∃ rest, comment.toList = '-' :: '-' :: rest :=
    fun comment hmem => ⟨hlines comment hmem, comments_start plan hmem⟩
  -- Behind the last comment the reader is outside of everything again.
  rw [plan.toSql_eq, script_append, String.toList_append, uncommented_comments hcomments]
  exact (kept_script h).uncommented_eq

end Planner

end

namespace Planner

/-- Dashes in the name of a table start no comment. -/
theorem dashes_toSql : ∃ plan,
    postgres.plan ⟨some "app", "books -- old"⟩ [Host.monthRule] .empty = .ok plan ∧
      ∀ conforming, uncommented conforming plan.toSql.toList = (script plan.statements).toList := by
  have hplan : postgres.plan ⟨some "app", "books -- old"⟩ [Host.monthRule] .empty = .ok _ := rfl
  obtain ⟨-, -, -, hlines, hkept⟩ := toSql_plan hplan
  have htable : TableRef.OneLine ⟨some "app", "books -- old"⟩ := by
    constructor
    · intro schema hschema
      cases hschema
      decide
    · decide
  exact ⟨_, hplan, hkept (hlines.2 ⟨htable, Or.inr (by decide)⟩)⟩

/-- A line feed in the name of a table ends the comment, and what is left of the name is
executed. -/
example : uncommented true (Plan.toSql ⟨⟨none, "books\ndrop table books"⟩, [], []⟩).toList =
    "drop table books\": 0 drop(s), 0 add(s)\n".toList := by
  decide +kernel

end Planner

end ColumnChecks
