import ColumnChecks.Proofs.Naming.Characters
import ColumnChecks.Proofs.Plan.Effect
import ColumnChecks.Proofs.Plan.Record
import ColumnChecks.Proofs.Rule.Storable

/-!
# What statements are made of

A statement is read as tokens: those of the block that it quotes, if it quotes one, and its own
otherwise (`ColumnChecks.Sql.commandTokens?`). Besides the tokens of the predicate it has the
names of the table, the name of the constraint and two texts about them. The name of a
constraint is always proper, since it is normal when it is added and was there before when it is
dropped.

**What a statement of a plan is made of can be stored** just if the names of the table and, when
a constraint is added, the texts that its rule mentions can
(`ColumnChecks.Planner.storable_action_iff`).
-/

namespace ColumnChecks

open Sql (Token TableRef nameToken tableTokens quoteIdentifier doBlock? statementTokens)

/-! ### Proper names -/

theorem hasNul_eq_false_iff {s : String} : hasNul s = false ↔ '\x00' ∉ s.toList := by
  simp [hasNul]

/-- A normal text has no NUL character. -/
theorem IsNormal.hasNul_eq_false {s : String} (h : IsNormal s.toList) : hasNul s = false :=
  hasNul_eq_false_iff.2 fun hmem => absurd (h _ hmem) (by decide)

theorem hasNul_fingerprint (sql : String) : hasNul (fingerprint sql) = false := by
  refine IsNormal.hasNul_eq_false ?_
  rw [fingerprint, String.toList_ofList]
  exact (isNormal_sha256 sql).mono (List.take_subset _ _)

/-- A name that is owned is not empty. -/
theorem Namer.ne_empty_of_owns {namer : Namer} {name : String} (h : namer.owns name = true) :
    name ≠ "" := by
  rintro rfl
  obtain ⟨c, cs, hprefix⟩ := List.exists_cons_of_ne_nil namer.nonempty
  simp [owns, hprefix, Text.after?] at h

theorem hasNul_quoteIdentifier {name : String} (h : hasNul name = false) :
    hasNul (quoteIdentifier name) = false := by
  rw [hasNul_eq_false_iff] at h
  unfold quoteIdentifier
  split_ifs
  · exact hasNul_eq_false_iff.2 h
  · rw [hasNul_eq_false_iff, String.toList_ofList, Sql.doubled]
    simp only [List.mem_append, List.mem_cons, List.mem_flatMap, List.not_mem_nil, or_false]
    rintro ((hquote | ⟨c, hc, hmem⟩) | hquote)
    · cases hquote
    · split_ifs at hmem
      · simp at hmem
      · exact h (List.mem_singleton.1 hmem ▸ hc)
    · cases hquote

/-! ### The table -/

namespace Sql

/-- Whether the names of a table can be stored. -/
def TableRef.isStorable (table : TableRef) : Bool :=
  table.schema.all isProperName && isProperName table.name

theorem storable_tableTokens (table : TableRef) :
    (tableTokens table).all Token.isStorable = table.isStorable := by
  obtain ⟨schema, name⟩ := table
  cases schema <;> simp [tableTokens, TableRef.isStorable]

theorem hasNul_tableRef {table : TableRef} (h : table.isStorable = true) :
    hasNul table.sql = false := by
  obtain ⟨schema, name⟩ := table
  rw [TableRef.isStorable, Bool.and_eq_true, isProperName_iff] at h
  have hname := hasNul_quoteIdentifier h.2.2
  cases schema with
  | none => exact hname
  | some schema =>
    have hschema := hasNul_quoteIdentifier (isProperName_iff.1 h.1).2
    have hpoint : hasNul "." = false := by decide
    simp [TableRef.sql, hname, hschema, hpoint]

end Sql

open Sql

variable {conforming : Bool} {table : TableRef} {name fp : String} {validate : Bool}
  {ts : List Token}

/-! ### The tokens of a statement -/

/-- **The tokens of a statement**: of the block that it quotes, or its own. -/
def Sql.commandTokens? (conforming : Bool) (statement : String) : Option (List Token) :=
  match doBlock? statement.toList with
  | some block => statementTokens conforming block
  | none => statementTokens conforming statement.toList

theorem storable_guardTokens (hname : isProperName name = true) :
    (guardTokens table name).all Token.isStorable = table.isStorable := by
  have hword : ∀ w ∈ ["begin", "if", "not", "exists", "select", "from", "pg_catalog",
      "pg_constraint", "where", "conname", "and", "conrelid", "regclass", "then", "alter", "table",
      "add", "constraint", "check"], (Token.word w).isStorable = true := by decide
  simp only [List.forall_mem_cons] at hword
  have hnul := (isProperName_iff.1 hname).2
  simp only [guardTokens, List.all_append, List.all_cons, List.all_nil, storable_tableTokens, hword,
    isStorable_text, isStorable_nameToken, isStorable_symbol, isStorable_numeral, hname, hnul]
  cases htable : table.isStorable with
  | false => simp
  | true => simp [hasNul_tableRef htable]

theorem storable_recordTokens (hname : isProperName name = true) (hfp : hasNul fp = false) :
    (recordTokens table name fp).all Token.isStorable = table.isStorable := by
  have hword : ∀ w ∈ ["comment", "on", "constraint", "is"],
      (Token.word w).isStorable = true := by decide
  simp only [List.forall_mem_cons] at hword
  have hcomment : hasNul (commentOf fp) = false := by
    have hmark : hasNul commentMark = false := by decide
    rw [commentOf, hasNul_append, hmark, hfp, Bool.or_self]
  simp [recordTokens, storable_tableTokens, hword, hname, hcomment]

theorem storable_closingTokens (validate : Bool) :
    (closingTokens validate).all Token.isStorable = true := by
  cases validate <;> decide

/-- **A statement that adds a constraint** is made of the names of the table and the tokens of
the predicate, and of what can be stored in any case. -/
theorem storable_addStatement {predicate : String}
    (hpredicate : ∀ more, Reads conforming (predicate.toList ++ ')' :: more) ts (')' :: more))
    (hname : isProperName name = true) (hfp : hasNul fp = false) :
    ∃ us, commandTokens? conforming (addStatement table name predicate fp validate) = some us ∧
      us.all Token.isStorable = (table.isStorable && ts.all Token.isStorable) := by
  have htokens := statementTokens_addBlock hpredicate table name fp validate
  have hcommand : commandTokens? conforming (addStatement table name predicate fp validate) =
      statementTokens conforming
        ('\n' :: ((addBlock table name predicate fp validate).toList ++ ['\n'])) := by
    rw [commandTokens?, doBlock?_addStatement]
  refine ⟨_, hcommand.trans htokens, ?_⟩
  have hend : ∀ w ∈ ["end", "if"], (Token.word w).isStorable = true := by decide
  simp only [List.forall_mem_cons] at hend
  simp only [List.all_append, List.all_cons, List.all_nil, storable_guardTokens hname,
    storable_closingTokens, storable_recordTokens hname hfp, isStorable_symbol, hend]
  cases table.isStorable <;> simp

/-- The tokens of a statement that drops a constraint. -/
def dropTokens (table : TableRef) (name : String) : List Token :=
  .word "alter" :: .word "table" :: (tableTokens table ++
    [.word "drop", .word "constraint", .word "if", .word "exists", nameToken name, .symbol ";"])

theorem commandTokens?_dropStatement (table : TableRef) (name : String) :
    commandTokens? conforming (dropStatement table name) = some (dropTokens table name) := by
  have halter : ∀ more, Reads conforming ("ALTER TABLE ".toList ++ more)
      [.word "alter", .word "table"] more := reads_fixed rfl rfl
  have hdrop : ∀ more, Reads conforming (" DROP CONSTRAINT IF EXISTS ".toList ++ more)
      [.word "drop", .word "constraint", .word "if", .word "exists"] more := reads_fixed rfl rfl
  have hend : Reads conforming [';'] [.symbol ";"] [] := rfl
  have hname : Reads conforming ((quoteIdentifier name).toList ++ [';']) [nameToken name] [';'] :=
    reads_name name (fun c hc => by cases hc; rfl) (by simp) (by simp)
  have hall := (halter _).trans ((reads_table table rfl).trans ((hdrop _).trans (hname.trans hend)))
  -- The words are not to be taken apart into their characters.
  have htext : ∀ alter drop : String,
      (alter ++ table.sql ++ drop ++ quoteIdentifier name ++ ";").toList =
        alter.toList ++ (table.sql.toList ++ (drop.toList ++
          ((quoteIdentifier name).toList ++ [';']))) := by
    intro alter drop
    simp only [String.toList_append, List.append_assoc]
    rfl
  have hstatement : (dropStatement table name).toList = _ :=
    htext "ALTER TABLE " " DROP CONSTRAINT IF EXISTS "
  have hblock : doBlock? (dropStatement table name).toList = none :=
    (congrArg doBlock? hstatement).trans rfl
  rw [commandTokens?, hblock]
  exact (congrArg (statementTokens conforming) hstatement).trans hall.statementTokens_eq

theorem storable_dropTokens (hname : isProperName name = true) :
    (dropTokens table name).all Token.isStorable = table.isStorable := by
  have hword : ∀ w ∈ ["alter", "table", "drop", "constraint", "if", "exists"],
      (Token.word w).isStorable = true := by decide
  simp only [List.forall_mem_cons] at hword
  simp [dropTokens, storable_tableTokens, hword, hname]

variable [Pattern.SizeTest]

/-! ### The steps of a plan -/

namespace Planner

variable {planner : Planner} {rules : List Rule} {present : Present} {plan : Plan}
  {action : Action}

/-- **A step of a plan** drops a name that was there or that a rule has, or it adds the
constraint of the rule that asks for its name. -/
theorem step_cases (h : planner.plan table rules present = .ok plan)
    (hmem : action ∈ plan.actions) :
    (action = dropAction table action.name ∧ planner.namer.owns action.name = true ∧
      (action.name ∈ present.names ∨ IsNormal action.name.toList)) ∨
    ∃ rule compiled, planner.wanted? table rules action.name = some rule ∧
      rule.compile planner.dialect = .ok compiled ∧
      action = addAction table action.name rule compiled ∧ IsNormal action.name.toList := by
  obtain ⟨desired, hdesired, rfl⟩ := exists_desired h
  have hnormal : ∀ {name rule}, desired[name]? = some rule →
      planner.namer.owns name = true ∧ IsNormal name.toList := by
    intro name rule hrule
    rw [getElem?_desired hdesired] at hrule
    refine ⟨owns_of_wanted? hrule, ?_⟩
    have hname := List.find?_some hrule
    rw [beq_iff_eq] at hname
    exact hname ▸ planner.namer.isNormal_name table.name rule
  rw [planDesired_actions, List.mem_append] at hmem
  rcases hmem with hmem | hmem
  · left
    rcases mem_removals.1 hmem with ⟨name, rule, hrule, hremoval⟩ | ⟨name, ⟨howns, -, hthere⟩, rfl⟩
    · obtain rfl := removal?_eq_some hremoval
      exact ⟨rfl, (hnormal hrule).1, Or.inr (hnormal hrule).2⟩
    · exact ⟨rfl, howns, Or.inl (Present.mem_names.2 hthere)⟩
  · right
    obtain ⟨name, rule, hrule, hadd⟩ := mem_additions.1 hmem
    obtain ⟨compiled, hcompiled, rfl⟩ := addition?_eq_some hadd
    refine ⟨rule, compiled, ?_, hcompiled, rfl, (hnormal hrule).2⟩
    rw [← getElem?_desired hdesired]
    exact hrule

/-- **What a statement of a plan is made of can be stored** just if the names of the table can,
and, if a constraint is added, the texts that its rule mentions. -/
theorem storable_action_iff (hpresent : ∀ name ∈ present.names, hasNul name = false)
    (h : planner.plan table rules present = .ok plan) (hmem : action ∈ plan.actions)
    (conforming : Bool) :
    ∃ ts, commandTokens? conforming action.statement = some ts ∧
      (ts.all Token.isStorable = true ↔ table.isStorable = true ∧
        (action.isAdd = true → ∀ rule, planner.wanted? table rules action.name = some rule →
          ∀ s, Literal.text s ∈ rule.spec.kind.literals → hasNul s = false)) := by
  rcases step_cases h hmem with ⟨hdrop, howns, hname⟩ | ⟨rule, compiled, hrule, hc, hadd, hname⟩
  · have hproper : isProperName action.name = true :=
      isProperName_iff.2 ⟨Namer.ne_empty_of_owns howns,
        hname.elim (hpresent action.name) IsNormal.hasNul_eq_false⟩
    rw [hdrop]
    refine ⟨_, commandTokens?_dropStatement table action.name, ?_⟩
    rw [storable_dropTokens hproper]
    exact ⟨fun htable => ⟨htable, nofun⟩, And.left⟩
  · have hproper : isProperName action.name = true :=
      isProperName_iff.2 ⟨Namer.ne_empty_of_owns (owns_of_wanted? hrule),
        hname.hasNul_eq_false⟩
    obtain ⟨e, he, hcompiled⟩ := exists_of_bind_eq_ok hc
    cases hcompiled
    have hlexes : Lexes conforming e.sql.toList e.tokens :=
      Expr.lexes_sql (RuleSpec.readable_predicate rule.valid he)
    obtain ⟨ts, hts, hall⟩ : ∃ ts, commandTokens? conforming (addStatement table action.name e.sql
        (fingerprint e.sql) rule.spec.validate) = some ts ∧
          ts.all Token.isStorable = (table.isStorable && e.tokens.all Token.isStorable) :=
      storable_addStatement hlexes.reads hproper (hasNul_fingerprint e.sql)
    refine ⟨ts, hadd ▸ hts, ?_⟩
    rw [hall, Bool.and_eq_true, RuleSpec.storable_predicate_iff rule.valid he]
    refine and_congr_right fun _ => ⟨fun htexts _ other hother => ?_, fun htexts => ?_⟩
    · rw [hrule, Option.some_inj] at hother
      exact hother ▸ htexts
    · exact htexts (by rw [hadd]; rfl) rule hrule

end Planner

end ColumnChecks
