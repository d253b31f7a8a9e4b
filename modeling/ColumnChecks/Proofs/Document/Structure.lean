import ColumnChecks.Document.Checking
import ColumnChecks.Proofs.Rule.Accepted

/-!
# Documents whose shape is accepted

A document passes two stages before anything is said about its sense: its shape is compared with
the schema, and it is read. The second stage is no formality. **A document of an accepted shape is
read just if no rule in it limits a length by a number that is no 64-bit integer**
(`ColumnChecks.RulesDocument.read_iff`), such as one that is written with a fraction of zero.
-/

namespace ColumnChecks

open Schema DocumentSchema

open Draft (lookup? Sets foldMembers ofMembers ofJson exists_lookup?_iff exists_lookup?_some_iff)

/-- A list of an accepted shape is read just if all its items are. -/
theorem exists_list?_iff_of_accepts {α : Type} {reader : Draft → Except JsonError α}
    {items : Schema} {P : Json → Prop} {value : Json} {depth : Nat} (hdistinct : value.Distinct)
    (hdepth : value.depth ≤ depth) (h : (list items).accepts value = true)
    (hitems : ∀ item : Json, item.Distinct → item.depth ≤ depth - 1 → items.accepts item = true →
      ((∃ a, reader (ofJson item) = .ok a) ↔ P item)) :
    ∃ found, value = .array found ∧
      ((∃ as, Draft.list? depth reader (ofJson value) = .ok as) ↔ ∀ item ∈ found, P item) := by
  obtain ⟨found, rfl, haccepts⟩ := accepts_list.1 h
  rw [Json.depth] at hdepth
  have hinner := Json.depthOfItems_le_iff.1 (Nat.le_sub_one_of_lt hdepth)
  refine ⟨found, rfl, (Draft.exists_list?_iff (by omega)).trans (forall₂_congr fun item hitem => ?_)⟩
  exact hitems item (hdistinct.of_mem_array item hitem) (hinner item hitem) (haccepts item hitem)

/-! ### The entry of a table -/

namespace TableParts

/-- **One member** sets the part of its name, or is passed over. -/
theorem step_eq_ok_iff {depth : Nat} {before after : TableParts} {name : String} {value : Json} :
    step depth before name (ofJson value) = .ok after ↔
      Sets (Draft.nullable? Draft.text?) "schema" name (ofJson value) before.schema after.schema ∧
      Sets Draft.text? "table" name (ofJson value) before.table after.table ∧
      Sets (Draft.list? depth (RuleSpec.ofDraft (depth - 1))) "rules" name (ofJson value)
        before.rules after.rules := by
  obtain ⟨schema, table, rules⟩ := before
  obtain ⟨schema', table', rules'⟩ := after
  by_cases hname : name ∈ ["schema", "table", "rules"]
  · simp only [List.mem_cons, List.not_mem_nil, or_false] at hname
    rcases hname with rfl | rfl | rfl
    all_goals
      simp only [step, Sets, if_true, String.reduceEq, if_false, bind_eq_ok_iff, Except.ok.injEq,
        TableParts.mk.injEq]
      grind
  · simp only [List.mem_cons, List.not_mem_nil, or_false, not_or] at hname
    obtain ⟨hschema, htable, hrules⟩ := hname
    simp only [step, Sets, hschema, htable, hrules, if_false, Draft.skip_ofJson, bind_eq_ok_iff,
      Except.ok.injEq, TableParts.mk.injEq, exists_const, true_and]

/-- **The parts of an entry** are what is found by looking its members up by their names. -/
theorem foldMembers_eq_ok_iff {depth : Nat} {members : List (String × Json)}
    {parts : TableParts} :
    foldMembers (step depth) {} (ofMembers members) none = .ok parts ↔
      lookup? (Draft.nullable? Draft.text?) "schema" members = some parts.schema ∧
      lookup? Draft.text? "table" members = some parts.table ∧
      lookup? (Draft.list? depth (RuleSpec.ofDraft (depth - 1))) "rules" members =
        some parts.rules := by
  induction members using List.reverseRecOn generalizing parts with
  | nil =>
    obtain ⟨schema, table, rules⟩ := parts
    show Except.ok _ = Except.ok _ ↔ some none = some _ ∧ some none = some _ ∧ some none = some _
    simp only [Except.ok.injEq, Option.some.injEq, TableParts.mk.injEq]
  | append_singleton members entry ih =>
    obtain ⟨name, value⟩ := entry
    simp only [Draft.foldMembers_concat, bind_eq_ok_iff, ih, Draft.lookup?_concat_iff,
      step_eq_ok_iff]
    constructor
    · rintro ⟨before, ⟨h₁, h₂, h₃⟩, h₁', h₂', h₃'⟩
      exact ⟨⟨_, h₁, h₁'⟩, ⟨_, h₂, h₂'⟩, ⟨_, h₃, h₃'⟩⟩
    · rintro ⟨⟨_, h₁, h₁'⟩, ⟨_, h₂, h₂'⟩, ⟨_, h₃, h₃'⟩⟩
      exact ⟨⟨_, _, _⟩, ⟨h₁, h₂, h₃⟩, h₁', h₂', h₃'⟩

end TableParts

/-- **An entry is read** just if its members are, each by itself, the name of the table among
them. -/
theorem TableRules.exists_ofDraft_iff {depth : Nat} {members : List (String × Json)}
    (hnames : (members.map Prod.fst).Nodup) :
    (∃ entry, TableRules.ofDraft (depth + 1) (.ofJson (.object members)) = .ok entry) ↔
      (∀ value, Json.member? "schema" members = some value →
        ∃ found, Draft.nullable? Draft.text? (ofJson value) = .ok found) ∧
      (∃ value, Json.member? "table" members = some value ∧
        ∃ found, Draft.text? (ofJson value) = .ok found) ∧
      ∀ value, Json.member? "rules" members = some value → ∃ found,
        Draft.list? depth (RuleSpec.ofDraft (depth - 1)) (ofJson value) = .ok found := by
  rw [ofJson, TableRules.ofDraft, if_neg (Nat.succ_ne_zero depth)]
  simp only [bind_eq_ok_iff, Nat.add_sub_cancel, TableParts.foldMembers_eq_ok_iff,
    Draft.need_eq_ok_iff, ← exists_lookup?_iff hnames, ← exists_lookup?_some_iff hnames]
  constructor
  · rintro ⟨entry, parts, ⟨hschema, htable, hrules⟩, table, hneed, -⟩
    rw [hneed] at htable
    exact ⟨⟨_, hschema⟩, ⟨table, htable⟩, ⟨_, hrules⟩⟩
  · rintro ⟨⟨_, hschema⟩, ⟨table, htable⟩, ⟨_, hrules⟩⟩
    exact ⟨_, ⟨_, some table, _⟩, ⟨hschema, htable, hrules⟩, table, rfl, rfl⟩

/-- **An entry of an accepted shape is read** just if no rule in it limits a length by a number
that is no 64-bit integer. -/
theorem TableRules.exists_ofDraft_iff_of_accepts {depth : Nat} {value : Json}
    (hdistinct : value.Distinct) (hdepth : value.depth ≤ depth)
    (h : (reference "TableRules" tableRules).accepts value = true) :
    (∃ entry, TableRules.ofDraft depth (ofJson value) = .ok entry) ↔
      ∀ rule ∈ itemsOfMember "rules" value, ¬ rule.StrayLength := by
  rw [accepts_reference, tableRules, accepts_described] at h
  obtain ⟨found, rfl, -⟩ := accepts_members.1 h
  obtain ⟨depth, rfl, hinner⟩ := Json.exists_depth_of_object hdepth
  rw [TableRules.exists_ofDraft_iff hdistinct.nodup]
  have hschema : ∀ part, Json.member? "schema" found = some part →
      ∃ s, Draft.nullable? Draft.text? (ofJson part) = .ok s := fun part hpart =>
    exists_nullableText_of_accepts (accepts_of_member? h (by simp) hpart)
  have htable : ∃ part, Json.member? "table" found = some part ∧
      ∃ s, Draft.text? (ofJson part) = .ok s := by
    obtain ⟨part, hpart⟩ := exists_member?_of_accepts h List.mem_cons_self
    exact ⟨part, hpart, exists_draftText_of_accepts (accepts_of_member? h (by simp) hpart)⟩
  rw [and_iff_right hschema, and_iff_right htable]
  cases hrules : Json.member? "rules" found with
  | none =>
    have hnone : itemsOfMember "rules" (.object found) = [] := by rw [itemsOfMember, hrules]
    rw [hnone]
    exact iff_of_true (fun _ heq => nomatch heq) (List.forall_mem_nil _)
  | some part =>
    obtain ⟨rules, rfl, hread⟩ := exists_list?_iff_of_accepts (hdistinct.of_member? hrules)
      (hinner _ (Json.mem_of_member? hrules)) (accepts_of_member? h (.head _) hrules)
      fun rule hrule hdepth => RuleSpec.exists_ofDraft_iff_of_accepts hrule hdepth
    have hsome : itemsOfMember "rules" (.object found) = rules := by rw [itemsOfMember, hrules]
    rw [hsome, ← hread]
    refine ⟨fun hall => hall _ rfl, ?_⟩
    rintro hall part ⟨⟩
    exact hall

/-! ### Documents -/

namespace DocumentParts

/-- **One member** sets the part of its name, or is passed over. -/
theorem step_eq_ok_iff {depth : Nat} {before after : DocumentParts} {name : String}
    {value : Json} :
    step depth before name (ofJson value) = .ok after ↔
      Sets Draft.text? "rules_version" name (ofJson value) before.version after.version ∧
      Sets (Draft.nullable? Draft.text?) "prefix" name (ofJson value) before.namePrefix
        after.namePrefix ∧
      Sets (Draft.list? depth (TableRules.ofDraft (depth - 1))) "tables" name (ofJson value)
        before.tables after.tables := by
  obtain ⟨version, namePrefix, tables⟩ := before
  obtain ⟨version', namePrefix', tables'⟩ := after
  by_cases hname : name ∈ ["rules_version", "prefix", "tables"]
  · simp only [List.mem_cons, List.not_mem_nil, or_false] at hname
    rcases hname with rfl | rfl | rfl
    all_goals
      simp only [step, Sets, if_true, String.reduceEq, if_false, bind_eq_ok_iff, Except.ok.injEq,
        DocumentParts.mk.injEq]
      grind
  · simp only [List.mem_cons, List.not_mem_nil, or_false, not_or] at hname
    obtain ⟨hversion, hprefix, htables⟩ := hname
    simp only [step, Sets, hversion, hprefix, htables, if_false, Draft.skip_ofJson,
      bind_eq_ok_iff, Except.ok.injEq, DocumentParts.mk.injEq, exists_const, true_and]

/-- **The parts of a document** are what is found by looking its members up by their names. -/
theorem foldMembers_eq_ok_iff {depth : Nat} {members : List (String × Json)}
    {parts : DocumentParts} :
    foldMembers (step depth) {} (ofMembers members) none = .ok parts ↔
      lookup? Draft.text? "rules_version" members = some parts.version ∧
      lookup? (Draft.nullable? Draft.text?) "prefix" members = some parts.namePrefix ∧
      lookup? (Draft.list? depth (TableRules.ofDraft (depth - 1))) "tables" members =
        some parts.tables := by
  induction members using List.reverseRecOn generalizing parts with
  | nil =>
    obtain ⟨version, namePrefix, tables⟩ := parts
    show Except.ok _ = Except.ok _ ↔ some none = some _ ∧ some none = some _ ∧ some none = some _
    simp only [Except.ok.injEq, Option.some.injEq, DocumentParts.mk.injEq]
  | append_singleton members entry ih =>
    obtain ⟨name, value⟩ := entry
    simp only [Draft.foldMembers_concat, bind_eq_ok_iff, ih, Draft.lookup?_concat_iff,
      step_eq_ok_iff]
    constructor
    · rintro ⟨before, ⟨h₁, h₂, h₃⟩, h₁', h₂', h₃'⟩
      exact ⟨⟨_, h₁, h₁'⟩, ⟨_, h₂, h₂'⟩, ⟨_, h₃, h₃'⟩⟩
    · rintro ⟨⟨_, h₁, h₁'⟩, ⟨_, h₂, h₂'⟩, ⟨_, h₃, h₃'⟩⟩
      exact ⟨⟨_, _, _⟩, ⟨h₁, h₂, h₃⟩, h₁', h₂', h₃'⟩

end DocumentParts

/-- **A document is read** just if its members are, each by itself, the version and the tables
among them. -/
theorem RulesDocument.exists_ofDraft_iff {depth : Nat} {members : List (String × Json)}
    (hnames : (members.map Prod.fst).Nodup) :
    (∃ doc, RulesDocument.ofDraft (depth + 1) (.ofJson (.object members)) = .ok doc) ↔
      (∃ value, Json.member? "rules_version" members = some value ∧
        ∃ found, Draft.text? (.ofJson value) = .ok found) ∧
      (∀ value, Json.member? "prefix" members = some value →
        ∃ found, Draft.nullable? Draft.text? (.ofJson value) = .ok found) ∧
      ∃ value, Json.member? "tables" members = some value ∧ ∃ found,
        Draft.list? depth (TableRules.ofDraft (depth - 1)) (.ofJson value) = .ok found := by
  rw [Draft.ofJson, RulesDocument.ofDraft, if_neg (Nat.succ_ne_zero depth)]
  simp only [bind_eq_ok_iff, Nat.add_sub_cancel, DocumentParts.foldMembers_eq_ok_iff,
    Draft.need_eq_ok_iff, ← exists_lookup?_iff hnames, ← exists_lookup?_some_iff hnames]
  constructor
  · rintro ⟨doc, parts, ⟨hversion, hprefix, htables⟩, version, hneed, tables, hneed', -⟩
    rw [hneed] at hversion
    rw [hneed'] at htables
    exact ⟨⟨version, hversion⟩, ⟨_, hprefix⟩, ⟨tables, htables⟩⟩
  · rintro ⟨⟨version, hversion⟩, ⟨_, hprefix⟩, ⟨tables, htables⟩⟩
    exact ⟨_, ⟨some version, _, some tables⟩, ⟨hversion, hprefix, htables⟩, version, rfl, tables,
      rfl, rfl⟩

/-- A document in which a rule limits a length by a number that is no 64-bit integer. -/
def Json.HasStrayLength (value : Json) : Prop :=
  ∃ entry ∈ itemsOfMember "tables" value, ∃ rule ∈ itemsOfMember "rules" entry, rule.StrayLength

theorem Json.not_hasStrayLength_iff {value : Json} :
    ¬ value.HasStrayLength ↔ ∀ entry ∈ itemsOfMember "tables" value,
      ∀ rule ∈ itemsOfMember "rules" entry, ¬ rule.StrayLength := by
  simp only [Json.HasStrayLength, not_exists, not_and]

/-- **A document of an accepted shape is read** just if no rule in it limits a length by a number
that is no 64-bit integer. -/
theorem RulesDocument.exists_ofDraft_iff_of_accepts {depth : Nat} {value : Json}
    (hdistinct : value.Distinct) (hdepth : value.depth ≤ depth)
    (h : document.accepts value = true) :
    (∃ doc, RulesDocument.ofDraft depth (.ofJson value) = .ok doc) ↔ ¬ value.HasStrayLength := by
  rw [document, accepts_described] at h
  obtain ⟨found, rfl, -⟩ := accepts_members.1 h
  obtain ⟨depth, rfl, hinner⟩ := Json.exists_depth_of_object hdepth
  have hversion : ∃ part, Json.member? "rules_version" found = some part ∧
      ∃ s, Draft.text? (.ofJson part) = .ok s := by
    obtain ⟨part, hpart⟩ := exists_member?_of_accepts h (.head _)
    exact ⟨part, hpart, exists_draftText_of_accepts
      (accepts_of_member? h (.tail _ (.head _)) hpart)⟩
  have hprefix : ∀ part, Json.member? "prefix" found = some part →
      ∃ s, Draft.nullable? Draft.text? (.ofJson part) = .ok s := fun part hpart =>
    exists_nullableText_of_accepts (accepts_of_member? h (.head _) hpart)
  obtain ⟨part, htables⟩ := exists_member?_of_accepts h (.tail _ (.head _))
  obtain ⟨tables, rfl, hread⟩ := exists_list?_iff_of_accepts (hdistinct.of_member? htables)
    (hinner _ (Json.mem_of_member? htables))
    (accepts_of_member? h (.tail _ (.tail _ (.head _))) htables)
    fun entry hentry hdepth => TableRules.exists_ofDraft_iff_of_accepts hentry hdepth
  have hitems : itemsOfMember "tables" (.object found) = tables := by rw [itemsOfMember, htables]
  rw [RulesDocument.exists_ofDraft_iff hdistinct.nodup, and_iff_right hversion,
    and_iff_right hprefix, Json.not_hasStrayLength_iff, hitems, htables]
  simp only [Option.some.injEq, exists_eq_left']
  exact hread

/-! ### The length that is told -/

theorem strayLength?_eq_some_iff {name : String} {found : List (String × Json)} {n : JsonNumber} :
    strayLength? name found = some n ↔
      Json.member? name found = some (.number n) ∧ ∀ i : Int64, n ≠ .whole i.toInt := by
  rw [strayLength?]
  split
  · next m hm =>
    rw [hm]
    split_ifs with hinteger
    · obtain ⟨i, hi⟩ := Option.isSome_iff_exists.1 hinteger
      refine iff_of_false (fun h => nomatch h) ?_
      rintro ⟨⟨⟩, hstray⟩
      exact hstray i (JsonNumber.toInteger?_eq_some_iff.1 hi)
    · constructor
      · rintro ⟨⟩
        refine ⟨rfl, fun i hi => hinteger ?_⟩
        rw [JsonNumber.toInteger?_eq_some_iff.2 hi]
        rfl
      · rintro ⟨⟨⟩, -⟩
        rfl
  · next hother => exact iff_of_false (fun h => nomatch h) fun h => hother n h.1

/-- **A length of a rule is told** just if there is one that is no 64-bit integer. -/
theorem exists_strayLengthOfRule?_iff {rule : Json} :
    (∃ n, strayLengthOfRule? rule = some n) ↔ rule.StrayLength := by
  cases rule with
  | object found =>
    rw [strayLengthOfRule?]
    split
    · next hkind =>
      simp only [← Option.isSome_iff_exists, Option.isSome_or, Bool.or_eq_true]
      simp only [Option.isSome_iff_exists, strayLength?_eq_some_iff]
      constructor
      · rintro (⟨n, hn⟩ | ⟨n, hn⟩)
        · exact ⟨hkind, "max_length", by simp, n, hn⟩
        · exact ⟨hkind, "min_length", by simp, n, hn⟩
      · rintro ⟨-, name, hname, n, hn⟩
        simp only [List.mem_cons, List.not_mem_nil, or_false] at hname
        rcases hname with rfl | rfl
        · exact Or.inr ⟨n, hn⟩
        · exact Or.inl ⟨n, hn⟩
    · next hother => exact iff_of_false (fun ⟨_, h⟩ => nomatch h) fun h => hother h.1
  | _ => exact iff_of_false (fun ⟨_, h⟩ => nomatch h) (fun h => nomatch h.1)

/-- What is told of a rule is no 64-bit integer. -/
theorem ne_whole_of_strayLengthOfRule? {rule : Json} {n : JsonNumber}
    (h : strayLengthOfRule? rule = some n) (i : Int64) : n ≠ .whole i.toInt := by
  cases rule with
  | object found =>
    rw [strayLengthOfRule?] at h
    split at h
    · rcases Option.or_eq_some_iff.1 h with h | ⟨-, h⟩
      · exact (strayLength?_eq_some_iff.1 h).2 i
      · exact (strayLength?_eq_some_iff.1 h).2 i
    · cases h
  | _ => cases h

/-- **A length of a document is told** if there is one that is no 64-bit integer. -/
theorem exists_strayLengthOfDocument? {value : Json} (h : value.HasStrayLength) :
    ∃ n, strayLengthOfDocument? value = some n ∧ ∀ i : Int64, n ≠ .whole i.toInt := by
  obtain ⟨entry, hentry, rule, hrule, hstray⟩ := h
  have hmem : rule ∈ (itemsOfMember "tables" value).flatMap (itemsOfMember "rules") :=
    List.mem_flatMap.2 ⟨entry, hentry, hrule⟩
  have hsome : (strayLengthOfDocument? value).isSome = true := List.findSome?_isSome_iff.2
    ⟨rule, hmem, Option.isSome_iff_exists.2 (exists_strayLengthOfRule?_iff.2 hstray)⟩
  obtain ⟨n, hn⟩ := Option.isSome_iff_exists.1 hsome
  obtain ⟨rule', -, hrule'⟩ := List.exists_of_findSome?_eq_some hn
  exact ⟨n, hn, ne_whole_of_strayLengthOfRule? hrule'⟩

/-! ### The sense of a document -/

theorem Issue.code_eq_iff {issue : Issue} :
    issue.code = "invalid_rules_json" ↔ ∃ n, issue = .unreadable n := by
  cases issue <;> simp [Issue.code]

theorem ne_unreadable_of_mem_prefixIssues {issue : Issue} {length : Option JsonNumber}
    {dialect : Sql.Dialect} {text : Option String} (h : issue ∈ prefixIssues dialect text) : issue ≠ .unreadable length := by
  cases text with
  | none => cases h
  | some text =>
    rw [prefixIssues] at h
    split at h
    · rw [List.mem_singleton.1 h]
      exact nofun
    · cases h

section Sense

variable [Pattern.SizeTest] {issue : Issue} {length : Option JsonNumber}

theorem ne_unreadable_of_mem_checkRules {table index : Nat} {specs : List RuleSpec}
    (h : issue ∈ (checkRules table index specs).2) : issue ≠ .unreadable length := by
  induction specs generalizing index with
  | nil => cases h
  | cons spec specs ih =>
    rw [checkRules] at h
    cases hbuild : spec.build with
    | ok rule =>
      rw [hbuild] at h
      exact ih h
    | error e =>
      rw [hbuild] at h
      rcases List.mem_cons.1 h with rfl | h
      · exact nofun
      · exact ih h

theorem ne_unreadable_of_mem_check {seen : List Sql.TableRef} {index : Nat} {entry : TableRules}
    (h : issue ∈ (entry.check seen index).2) : issue ≠ .unreadable length := by
  rw [TableRules.check] at h
  split_ifs at h
  · rw [List.mem_singleton.1 h]
    exact nofun
  · rw [List.mem_singleton.1 h]
    exact nofun
  · rcases List.mem_append.1 h with h | h
    · rw [List.mem_singleton.1 h]
      exact nofun
    · exact ne_unreadable_of_mem_checkRules h
  · exact ne_unreadable_of_mem_checkRules h

theorem ne_unreadable_of_mem_checkTables {seen : List Sql.TableRef} {index : Nat}
    {entries : List TableRules} (h : issue ∈ (checkTables seen index entries).2) :
    issue ≠ .unreadable length := by
  induction entries generalizing seen index with
  | nil => cases h
  | cons entry entries ih =>
    rw [checkTables] at h
    split at h
    all_goals
      next issues hentry =>
      rcases List.mem_append.1 h with h | h
      · have hmem : issue ∈ (entry.check seen index).2 := by rwa [hentry]
        exact ne_unreadable_of_mem_check hmem
      · exact ih h

/-- **What is found about the sense of a document** is never that it cannot be read. -/
theorem RulesDocument.ne_unreadable_of_mem_check {doc : RulesDocument} {dialect : Sql.Dialect}
    (h : issue ∈ (doc.check dialect).2.errors) : issue ≠ .unreadable length := by
  have hmem := List.mem_of_mem_filter h
  rcases List.mem_append.1 hmem with hmem | hmem
  · rcases List.mem_append.1 hmem with hmem | hmem
    · split_ifs at hmem
      · cases hmem
      · rw [List.mem_singleton.1 hmem]
        exact nofun
    · exact ne_unreadable_of_mem_prefixIssues hmem
  · exact ne_unreadable_of_mem_checkTables hmem

end Sense

/-! ### Loading -/

/-- A document of an accepted shape has no violations. -/
theorem accepts_of_isOk_structureReport {value : Json} (h : (structureReport value).isOk = true) :
    document.accepts value.canonical = true := by
  rw [accepts, List.isEmpty_iff, List.eq_nil_iff_forall_not_mem]
  intro violation hviolation
  rw [structureReport, Report.isOk, Report.ofIssues, List.isEmpty_iff, List.filter_eq_nil_iff] at h
  exact h (.violation violation) (List.mem_map_of_mem hviolation) rfl

/-- **A document whose shape is accepted is read** just if no rule in it limits a length by a number
that is no 64-bit integer. Loading it says that it cannot be read just if there is such a rule, and
then it says nothing else, and tells such a number. -/
theorem RulesDocument.read_iff [Pattern.SizeTest] (value : Json) (dialect : Sql.Dialect)
    (h : (structureReport value).isOk = true) :
    ((∃ doc, RulesDocument.ofJson value.canonical = .ok doc) ↔ ¬ value.canonical.HasStrayLength) ∧
    (value.canonical.HasStrayLength → ∃ n : JsonNumber, (∀ i : Int64, n ≠ .whole i.toInt) ∧
      RulesDocument.load value dialect = .error (.ofIssues [.unreadable (some n)])) ∧
    ((∃ report, RulesDocument.load value dialect = .error report ∧
      ∃ issue ∈ report.errors, issue.code = "invalid_rules_json") ↔
        value.canonical.HasStrayLength) := by
  have hread : (∃ doc, RulesDocument.ofJson value.canonical = .ok doc) ↔
      ¬ value.canonical.HasStrayLength :=
    RulesDocument.exists_ofDraft_iff_of_accepts (Json.distinct_canonical value) (Nat.le_succ _)
      (accepts_of_isOk_structureReport h)
  have hstray : value.canonical.HasStrayLength → ∃ n : JsonNumber,
      (∀ i : Int64, n ≠ .whole i.toInt) ∧
        RulesDocument.load value dialect = .error (.ofIssues [.unreadable (some n)]) := by
    intro hstray
    obtain ⟨n, hn, hwhole⟩ := exists_strayLengthOfDocument? hstray
    refine ⟨n, hwhole, ?_⟩
    cases hdoc : RulesDocument.ofJson value.canonical with
    | ok doc => exact absurd hstray (hread.1 ⟨doc, hdoc⟩)
    | error e => simp [load, h, hdoc, hn]
  refine ⟨hread, hstray, ⟨?_, fun hlength => ?_⟩⟩
  · rintro ⟨report, hload, issue, hissue, hcode⟩
    by_contra hnone
    obtain ⟨doc, hdoc⟩ := hread.2 hnone
    obtain ⟨n, rfl⟩ := Issue.code_eq_iff.1 hcode
    simp only [load, h, hdoc] at hload
    split_ifs at hload with hreading hsense
    · exact absurd hreading (by decide)
    · cases hload
      exact ne_unreadable_of_mem_check hissue rfl
  · obtain ⟨n, -, hload⟩ := hstray hlength
    exact ⟨_, hload, .unreadable (some n), List.mem_cons_self, rfl⟩

/-- A document with a rule that limits a length. -/
def titleLimit (limit : JsonNumber) : Json :=
  .object [("rules_version", .text "0.1"), ("tables", .array
    [.object [("table", .text "books"), ("rules", .array
      [.object [("kind", .text "length"), ("target", .array [.text "title"]),
        ("min_length", .number limit)]])]])]

/-- A limit that is a 64-bit integer is read. -/
theorem exists_titleLimit :
    (structureReport (titleLimit (.whole 1))).isOk = true ∧
    ∃ doc, RulesDocument.ofJson (titleLimit (.whole 1)).canonical = .ok doc := by
  have hshape : (structureReport (titleLimit (.whole 1))).isOk = true := by decide +kernel
  refine ⟨hshape, (RulesDocument.read_iff _ .postgres hshape).1.2 fun hstray => ?_⟩
  obtain ⟨n, hn, -⟩ := exists_strayLengthOfDocument? hstray
  cases hn

/-- **A document of an accepted shape need not be read**: to the schema `1.0` is an integer. -/
theorem not_read_of_isOk :
    (structureReport (titleLimit (.decimal (.ofInt 1)))).isOk = true ∧
    RulesDocument.ofJson (titleLimit (.decimal (.ofInt 1))).canonical = .error .mismatch ∧
    RulesDocument.load (titleLimit (.decimal (.ofInt 1))) .postgres =
      .error (.ofIssues [.unreadable (some (.decimal (.ofInt 1)))]) ∧
    ¬ ∀ value : Json, (structureReport value).isOk = true →
      ∃ doc, RulesDocument.ofJson value.canonical = .ok doc := by
  have hshape : (structureReport (titleLimit (.decimal (.ofInt 1)))).isOk = true := by
    decide +kernel
  have hread : RulesDocument.ofJson (titleLimit (.decimal (.ofInt 1))).canonical =
      .error .mismatch := rfl
  refine ⟨hshape, hread, by simp only [RulesDocument.load, hshape, hread]; rfl, fun hall => ?_⟩
  obtain ⟨doc, hdoc⟩ := hall _ hshape
  rw [hread] at hdoc
  cases hdoc

end ColumnChecks
