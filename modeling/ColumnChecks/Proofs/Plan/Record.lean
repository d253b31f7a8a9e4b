import ColumnChecks.Proofs.Naming.Ownership
import ColumnChecks.Proofs.Plan.Tags
import ColumnChecks.Proofs.Rule.Reading
import ColumnChecks.Proofs.Sql.Statements

/-!
# What a statement records

The statement that adds a constraint is a block in dollar quotes. When it is executed,
the server takes the block out of its quotes, divides it into clauses at the semicolons
and, in the last clause but the end, sets the comment of the constraint to a text. The
text is read off the statement here (`ColumnChecks.Sql.recordedComment?`) in the same
way: the block that the tag quotes, its tokens, its clauses, and in the clause that
starts with `COMMENT ON CONSTRAINT` the literal behind `IS`.

**The comment that a statement records is that of its fingerprint**
(`ColumnChecks.recordedComment?_addStatement`), whatever the names and the predicate
are: the tag does not stand in the block, no token of a name, a text or a predicate is a
semicolon, and the clause with the guard starts with another word.
-/

namespace ColumnChecks

namespace Sql

/-- What a dollar quote at the front of a text quotes. -/
def before? (tag : List Char) : List Char → Option (List Char)
  | [] => none
  | c :: cs => if tag.isPrefixOf (c :: cs) then some [] else (before? tag cs).map (c :: ·)

/-- The block of a `DO` statement. -/
def doBlock? (cs : List Char) : Option (List Char) :=
  (Text.after? "DO ".toList cs).bind fun rest =>
    (openingTag? rest).bind fun tag => before? tag (rest.drop tag.length)

/-- The text that a clause sets the comment of a constraint to. -/
def commentText? : List Token → Option String
  | .word "comment" :: .word "on" :: .word "constraint" :: rest =>
    match rest.reverse with
    | .text s :: .word "is" :: _ => some s
    | _ => none
  | _ => none

/-- **The comment that a `DO` statement records.** -/
def recordedComment? (conforming : Bool) (statement : String) : Option String :=
  (doBlock? statement.toList).bind fun block =>
    (statementTokens conforming block).bind fun ts => (clauses ts).findSome? commentText?

/-- **What a dollar quote quotes** is found again. -/
theorem before?_append {tag body : List Char} (htag : '\n' ∉ tag) (hfree : ¬ tag <:+: body)
    (rest : List Char) :
    before? tag (body ++ '\n' :: (tag ++ rest)) = some (body ++ ['\n']) := by
  induction body with
  | nil =>
    cases tag with
    | nil => exact absurd (List.nil_infix) hfree
    | cons d tag =>
      have hd : d ≠ '\n' := fun h => htag (h ▸ List.mem_cons_self)
      have hself : (d :: tag).isPrefixOf (d :: tag ++ rest) = true :=
        List.isPrefixOf_iff_prefix.2 (List.prefix_append _ _)
      rw [List.cons_append] at hself
      rw [List.nil_append, before?, if_neg (by simp [hd]), List.cons_append, before?, if_pos hself]
      rfl
  | cons c body ih =>
    rw [List.infix_cons_iff, not_or] at hfree
    have hno : ¬ tag <+: c :: (body ++ '\n' :: (tag ++ rest)) := fun h =>
      hfree.1 (prefix_of_prefix_append htag h)
    rw [List.cons_append, before?, if_neg (by rwa [List.isPrefixOf_iff_prefix]), ih hfree.2]
    rfl

end Sql

open Sql

/-- **The block of an added constraint** is found in its statement. -/
theorem doBlock?_addStatement (table : TableRef) (name predicate fingerprint : String)
    (validate : Bool) :
    doBlock? (addStatement table name predicate fingerprint validate).toList =
      some ('\n' :: ((addBlock table name predicate fingerprint validate).toList ++ ['\n'])) := by
  rw [addStatement]
  generalize addBlock table name predicate fingerprint validate = block
  obtain ⟨htag, hfree⟩ := quotingTag_free block.toList
  have hline : '\n' ∉ quotingTag block.toList := htag.not_mem rfl (by decide)
  have hfree' : ¬ quotingTag block.toList <:+: '\n' :: block.toList := htag.not_infix_cons hfree
  generalize quotingTag block.toList = tag at *
  have htext : ("DO " ++ String.ofList tag ++ "\n" ++ block ++ "\n" ++ String.ofList tag ++
      ";").toList = "DO ".toList ++ (tag ++ ('\n' :: block.toList ++ '\n' :: (tag ++ [';']))) := by
    simp only [String.toList_append, String.toList_ofList, List.append_assoc]
    rfl
  rw [doBlock?, htext, Text.after?_append, Option.bind_some, htag.openingTag?_append,
    Option.bind_some, List.drop_left, before?_append hline hfree']
  rfl

/-- Statements with one text have one block. -/
theorem addBlock_eq_of_addStatement_eq {table table' : TableRef}
    {name name' predicate predicate' fingerprint fingerprint' : String} {validate validate' : Bool}
    (h : addStatement table name predicate fingerprint validate =
      addStatement table' name' predicate' fingerprint' validate') :
    addBlock table name predicate fingerprint validate =
      addBlock table' name' predicate' fingerprint' validate' := by
  have hblock := doBlock?_addStatement table name predicate fingerprint validate
  rw [h, doBlock?_addStatement, Option.some_inj] at hblock
  exact (String.toList_injective (List.append_cancel_right (List.cons.inj hblock).2)).symm

/-! ### The clauses of a block -/

variable {conforming : Bool} {table : TableRef} {name predicate fingerprint : String}
  {validate : Bool} {ts : List Token}

theorem nameToken_ne_semicolon (name : String) : nameToken name ≠ .symbol ";" := by
  unfold nameToken
  split_ifs <;> exact nofun

theorem tableTokens_ne_semicolon (table : TableRef) : ∀ t ∈ tableTokens table, t ≠ .symbol ";" := by
  obtain ⟨schema, name⟩ := table
  cases schema <;> simp [tableTokens, nameToken_ne_semicolon]

/-- What is asked before the constraint is added, and the beginning of that. -/
def guardTokens (table : TableRef) (name : String) : List Token :=
  [.word "begin", .word "if", .word "not", .word "exists", .symbol "(", .word "select",
    .numeral "1", .word "from", .word "pg_catalog", .symbol ".", .word "pg_constraint",
    .word "where", .word "conname", .symbol "=", .text name, .word "and", .word "conrelid",
    .symbol "=", .text table.sql, .symbol ":", .symbol ":", .word "regclass", .symbol ")",
    .word "then", .word "alter", .word "table"] ++ tableTokens table ++
    [.word "add", .word "constraint", nameToken name, .word "check", .symbol "("]

/-- The clause that records a fingerprint. -/
def recordTokens (table : TableRef) (name fingerprint : String) : List Token :=
  [.word "comment", .word "on", .word "constraint", nameToken name, .word "on"] ++
    tableTokens table ++ [.word "is", .text (commentOf fingerprint)]

theorem guardTokens_ne_semicolon : ∀ t ∈ guardTokens table name, t ≠ .symbol ";" := by
  simpa [guardTokens, or_imp, forall_and, nameToken_ne_semicolon] using
    tableTokens_ne_semicolon table

theorem recordTokens_ne_semicolon :
    ∀ t ∈ recordTokens table name fingerprint, t ≠ .symbol ";" := by
  simpa [recordTokens, or_imp, forall_and, nameToken_ne_semicolon] using
    tableTokens_ne_semicolon table

/-- **The recording clause** says which comment it records. -/
theorem commentText?_recordTokens :
    commentText? (recordTokens table name fingerprint) = some (commentOf fingerprint) := by
  simp [recordTokens, commentText?]

theorem reads_guard (table : TableRef) (name : String) (rest : List Char) :
    Reads conforming (String.toList
      "BEGIN\n  IF NOT EXISTS (\n    SELECT 1 FROM pg_catalog.pg_constraint\n    WHERE conname = "
        ++ ((quoteText name).toList ++ (" AND conrelid = ".toList ++ ((quoteText table.sql).toList
        ++ ("::regclass\n  ) THEN\n    ALTER TABLE ".toList ++ (table.sql.toList
        ++ (" ADD CONSTRAINT ".toList ++ ((quoteIdentifier name).toList
        ++ (" CHECK (".toList ++ rest))))))))) (guardTokens table name) rest := by
  have hbegin : ∀ more, Reads conforming (String.toList
      "BEGIN\n  IF NOT EXISTS (\n    SELECT 1 FROM pg_catalog.pg_constraint\n    WHERE conname = "
        ++ more)
      [.word "begin", .word "if", .word "not", .word "exists", .symbol "(", .word "select",
        .numeral "1", .word "from", .word "pg_catalog", .symbol ".", .word "pg_constraint",
        .word "where", .word "conname", .symbol "="] more := reads_fixed rfl rfl
  have hand : ∀ more, Reads conforming (" AND conrelid = ".toList ++ more)
      [.word "and", .word "conrelid", .symbol "="] more := reads_fixed rfl rfl
  have halter : ∀ more, Reads conforming ("::regclass\n  ) THEN\n    ALTER TABLE ".toList ++ more)
      [.symbol ":", .symbol ":", .word "regclass", .symbol ")", .word "then", .word "alter",
        .word "table"] more := reads_fixed rfl rfl
  have hadd : ∀ more, Reads conforming (" ADD CONSTRAINT ".toList ++ more)
      [.word "add", .word "constraint"] more := reads_fixed rfl rfl
  have hcheck : ∀ more, Reads conforming (" CHECK (".toList ++ more)
      [.word "check", .symbol "("] more := reads_fixed rfl rfl
  have hname := (reads_name_separated name rfl).trans (hcheck rest)
  have htable := (reads_table table rfl).trans ((hadd _).trans hname)
  have hrelation := (reads_text table.sql (by simp)).trans ((halter _).trans htable)
  have hall := (hbegin _).trans ((reads_text name (by simp)).trans ((hand _).trans hrelation))
  simpa only [guardTokens, List.append_assoc, List.cons_append, List.nil_append] using hall

theorem reads_record (table : TableRef) (name fingerprint : String) (rest : List Char) :
    Reads conforming
      ("\n    COMMENT ON CONSTRAINT ".toList ++ ((quoteIdentifier name).toList ++ (" ON ".toList
        ++ (table.sql.toList ++ (" IS ".toList
        ++ ((quoteText (commentOf fingerprint)).toList ++ ';' :: rest))))))
      (recordTokens table name fingerprint) (';' :: rest) := by
  have hcomment : ∀ more, Reads conforming ("\n    COMMENT ON CONSTRAINT ".toList ++ more)
      [.word "comment", .word "on", .word "constraint"] more := reads_fixed rfl rfl
  have hon : ∀ more, Reads conforming (" ON ".toList ++ more) [.word "on"] more :=
    reads_fixed rfl rfl
  have his : ∀ more, Reads conforming (" IS ".toList ++ more) [.word "is"] more :=
    reads_fixed rfl rfl
  have hvalue : Reads conforming ((quoteText (commentOf fingerprint)).toList ++ ';' :: rest) _ _ :=
    reads_text (commentOf fingerprint) (by simp)
  have htext := (his _).trans hvalue
  have htable := (hon _).trans ((reads_table table rfl).trans htext)
  have hall := (hcomment _).trans ((reads_name_separated name rfl).trans htable)
  simpa only [recordTokens, List.append_assoc, List.cons_append, List.nil_append] using hall

/-- What stands between a predicate and the clause that records the fingerprint. -/
def closingTokens (validate : Bool) : List Token :=
  .symbol ")" :: if validate then [] else [.word "not", .word "valid"]

theorem reads_closing (validate : Bool) (rest : List Char) :
    Reads conforming (')' :: ((if validate then "" else " NOT VALID").toList ++ ';' :: rest))
      (closingTokens validate) (';' :: rest) := by
  have hparenthesis : ∀ more, Reads conforming (')' :: more) [.symbol ")"] more :=
    reads_break rfl
  cases validate with
  | true => exact hparenthesis _
  | false =>
    have hwords : statementTokensWithin conforming 11 (" NOT VALID".toList ++ [';']) =
        some [.word "not", .word "valid", .symbol ";"] := rfl
    obtain ⟨ts, hts, hreads⟩ := exists_reads_of_separator rfl hwords
    obtain rfl : [.word "not", .word "valid"] = ts := List.append_cancel_right hts
    exact (hparenthesis _).trans (hreads rest)

/-- **The clauses of a block**: the guard and the constraint, the record, and the end. -/
theorem statementTokens_addBlock
    (hpredicate : ∀ more, Reads conforming (predicate.toList ++ ')' :: more) ts (')' :: more))
    (table : TableRef) (name fingerprint : String) (validate : Bool) :
    statementTokens conforming
        ('\n' :: ((addBlock table name predicate fingerprint validate).toList ++ ['\n'])) =
      some ((guardTokens table name ++ ts ++ closingTokens validate) ++ .symbol ";" ::
        (recordTokens table name fingerprint ++
          .symbol ";" :: [.word "end", .word "if", .symbol ";", .word "end"])) := by
  have hend : Reads conforming (';' :: "\n  END IF;\nEND\n".toList)
      [.symbol ";", .word "end", .word "if", .symbol ";", .word "end"] [] := rfl
  have hbreak : ∀ more, Reads conforming (';' :: more) [.symbol ";"] more := reads_break rfl
  have hrecord := (hbreak _).trans ((reads_record table name fingerprint _).trans hend)
  have hclosing := (reads_closing validate _).trans hrecord
  have hguard := (reads_guard table name _).trans ((hpredicate _).trans hclosing)
  have hline : ∀ more, Reads conforming ('\n' :: more) [] more := Reads.of_space rfl
  have hall := ((hline _).trans hguard).statementTokens_eq
  refine Eq.trans (congrArg _ ?_) (hall.trans ?_)
  · have hclose : ")".toList = [')'] := rfl
    have hcomment : ";\n    COMMENT ON CONSTRAINT ".toList =
        ';' :: "\n    COMMENT ON CONSTRAINT ".toList := rfl
    have hend : ";\n  END IF;\nEND".toList ++ ['\n'] = ';' :: "\n  END IF;\nEND\n".toList := rfl
    unfold addBlock
    simp only [String.toList_append, List.append_assoc, hclose, hcomment, hend, List.cons_append,
      List.nil_append]
  · simp only [List.append_assoc, List.nil_append]
    rfl

theorem closingTokens_ne_semicolon : ∀ t ∈ closingTokens validate, t ≠ .symbol ";" := by
  cases validate <;> decide

/-- **What a statement records is its fingerprint**, if the tokens of the predicate are
not disturbed by what follows and have no semicolon. -/
theorem recordedComment?_addStatement
    (hpredicate : ∀ more, Reads conforming (predicate.toList ++ ')' :: more) ts (')' :: more))
    (hts : ∀ t ∈ ts, t ≠ .symbol ";") :
    recordedComment? conforming (addStatement table name predicate fingerprint validate) =
      some (commentOf fingerprint) := by
  have hguard : ∀ t ∈ guardTokens table name ++ ts ++ closingTokens validate,
      t ≠ .symbol ";" := by
    simp only [List.mem_append, or_imp, forall_and]
    exact ⟨⟨guardTokens_ne_semicolon, hts⟩, closingTokens_ne_semicolon⟩
  have hother : commentText? (guardTokens table name ++ ts ++ closingTokens validate) = none := rfl
  rw [recordedComment?, doBlock?_addStatement, Option.bind_some,
    statementTokens_addBlock hpredicate, Option.bind_some, clauses_append hguard,
    clauses_append recordTokens_ne_semicolon, List.findSome?_cons, hother,
    List.findSome?_cons, commentText?_recordTokens]

variable [Pattern.SizeTest]

/-- **The statement of a compiled rule** records the fingerprint of the rule, whether or
not a backslash escapes in plain strings. -/
theorem Rule.recordedComment?_compile {rule : Rule} {dialect : Dialect} {compiled : CompiledRule}
    (h : rule.compile dialect = .ok compiled) :
    recordedComment? conforming
        (addStatement table name compiled.sql compiled.fingerprint rule.spec.validate) =
      some (commentOf compiled.fingerprint) := by
  obtain ⟨e, hpredicate, hcompiled⟩ := exists_of_bind_eq_ok h
  cases hcompiled
  have hlexes : Lexes conforming e.sql.toList e.tokens :=
    Expr.lexes_sql (RuleSpec.readable_predicate rule.valid hpredicate)
  exact recordedComment?_addStatement hlexes.reads hlexes.ne_semicolon

end ColumnChecks
