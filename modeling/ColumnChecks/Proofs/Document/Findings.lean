import Mathlib.Data.List.Basic
import Mathlib.Data.List.TakeWhile
import ColumnChecks.Document.Checking
import ColumnChecks.Rule.Builder

/-!
# What checking a document finds

Checking walks over the entries of a document with the tables that it has met so far, and over
the rules of each entry. An entry is passed over if its table is blank, or if it repeats the
table of an earlier entry that is not; **the entries that remain** are said here by their place
in the document alone (`ColumnChecks.RulesDocument.Remains`), and so is everything that can be
wrong (`ColumnChecks.RulesDocument.Fault`).

What is known of the tables that were met is that they are those of the earlier entries with
names (`ColumnChecks.checkTables_eq`): an entry that repeats one adds nothing new. So the walk is
the same as looking at each entry with the ones before it, and
`ColumnChecks.RulesDocument.check_finds` says what comes of it: every fault is reported once and
nothing else is, in the order of the document, and the rules that make sense of the entries that
remain are all there, in order.
-/

namespace ColumnChecks

open Sql (TableRef Dialect)

/-! ### Entries that remain -/

theorem Text.trim_eq_nil_iff {cs : List Char} :
    Text.trim cs = [] ↔ ∀ c ∈ cs, Text.isBlank c = true := by
  rw [trim, trimEnd, List.reverse_eq_nil_iff, List.dropWhile_eq_nil_iff]
  simp only [List.mem_reverse, trimStart]
  constructor
  · intro h
    rw [← List.takeWhile_append_dropWhile (p := isBlank) (l := cs), List.forall_mem_append]
    exact ⟨fun c hc => List.mem_takeWhile_imp hc, h⟩
  · exact fun h c hc => h c ((List.dropWhile_suffix _).subset hc)

namespace TableRules

/-- An entry is blank if the name of its table is made of blanks. -/
def IsBlank (entry : TableRules) : Prop := ∀ c ∈ entry.table.toList, Text.isBlank c = true

instance : DecidablePred IsBlank := fun entry =>
  inferInstanceAs (Decidable (∀ c ∈ entry.table.toList, Text.isBlank c = true))

/-- An entry repeats the table of an earlier one that is not blank. -/
def Repeats (earlier : List TableRules) (entry : TableRules) : Prop :=
  ∃ other ∈ earlier, ¬other.IsBlank ∧ other.ref = entry.ref

instance (earlier : List TableRules) : DecidablePred (Repeats earlier) := fun entry =>
  inferInstanceAs (Decidable (∃ other ∈ earlier, ¬other.IsBlank ∧ other.ref = entry.ref))

end TableRules

/-- The tables of the entries with names. -/
def namedTables (entries : List TableRules) : List TableRef :=
  (entries.filter fun entry => ¬entry.IsBlank).map TableRules.ref

theorem mem_namedTables {entry : TableRules} {earlier : List TableRules} :
    entry.ref ∈ namedTables earlier ↔ entry.Repeats earlier := by
  simp only [namedTables, List.mem_map, List.mem_filter, decide_eq_true_eq, TableRules.Repeats,
    and_assoc]

namespace RulesDocument

/-- **An entry remains** at its place if it is not blank and repeats none of the entries before
it. -/
structure Remains (doc : RulesDocument) (place : Nat) (entry : TableRules) : Prop where
  here : doc.tables[place]? = some entry
  named : ¬entry.IsBlank
  new : ¬entry.Repeats (doc.tables.take place)

instance (doc : RulesDocument) (place : Nat) (entry : TableRules) :
    Decidable (doc.Remains place entry) :=
  decidable_of_iff (doc.tables[place]? = some entry ∧ ¬entry.IsBlank ∧
      ¬entry.Repeats (doc.tables.take place))
    ⟨fun h => ⟨h.1, h.2.1, h.2.2⟩, fun h => ⟨h.here, h.named, h.new⟩⟩

/-- The entries that remain, in order. -/
def remaining (doc : RulesDocument) : List TableRules :=
  (doc.tables.zipIdx.filter fun (entry, place) => doc.Remains place entry).map Prod.fst

/-- **What is odd about a document**: entries that remain and have no rules. -/
inductive Oddity (doc : RulesDocument) : Issue → Prop where
  | noRules {place : Nat} {entry : TableRules} (h : doc.Remains place entry)
    (hrules : entry.rules = []) : Oddity doc (.noRules place entry.ref)

/-- Oddities are warnings. -/
theorem Oddity.severity_eq {doc : RulesDocument} {issue : Issue} (h : doc.Oddity issue) :
    issue.severity = .warning := by
  cases h
  rfl

end RulesDocument

/-! ### The places of the issues -/

/-- Where an issue stands in a document: the version comes first, then the prefix, then the
entries, each with its rules behind it. -/
def Issue.position : Issue → List Nat
  | .unsupportedVersion _ => [0]
  | .invalidPrefix _ => [1]
  | .emptyTable place | .duplicateTable place _ | .noRules place _ => [2, place]
  | .invalidRule place index _ => [2, place, index]
  | .violation _ | .unreadable _ => []

/-- One issue stands before another one. -/
def Issue.Before (a b : Issue) : Prop := a.position < b.position

theorem pairwise_zipIdx {α : Type} (as : List α) (start : Nat) :
    (as.zipIdx start).Pairwise fun a b => a.2 < b.2 := by
  rw [← List.pairwise_map, List.zipIdx_map_snd]
  exact List.pairwise_lt_range' 1

theorem prefixIssues_cases (dialect : Dialect) (namePrefix : Option String) :
    prefixIssues dialect namePrefix = [] ∨
      ∃ error, prefixIssues dialect namePrefix = [.invalidPrefix error] := by
  cases namePrefix with
  | none => exact Or.inl rfl
  | some text =>
    rw [prefixIssues]
    cases Namer.make text dialect with
    | ok namer => exact Or.inl rfl
    | error error => exact Or.inr ⟨error, rfl⟩

/-! ### What is wrong -/

section

variable [Pattern.SizeTest]

namespace RulesDocument

/-- **What is wrong with a document**, in a dialect. -/
inductive Fault (doc : RulesDocument) (dialect : Dialect) : Issue → Prop where
  | version (h : doc.version ≠ documentVersion) : Fault doc dialect (.unsupportedVersion doc.version)
  | namePrefix {text : String} {error : InvalidRule} (h : doc.namePrefix = some text)
    (hmake : Namer.make text dialect = .error error) : Fault doc dialect (.invalidPrefix error)
  | blank {place : Nat} {entry : TableRules} (h : doc.tables[place]? = some entry)
    (hblank : entry.IsBlank) : Fault doc dialect (.emptyTable place)
  | repeated {place : Nat} {entry : TableRules} (h : doc.tables[place]? = some entry)
    (hnamed : ¬entry.IsBlank) (hrepeats : entry.Repeats (doc.tables.take place)) :
    Fault doc dialect (.duplicateTable place entry.ref)
  | rule {place index : Nat} {entry : TableRules} {spec : RuleSpec} {error : InvalidRule}
    (h : doc.Remains place entry) (hrule : entry.rules[index]? = some spec)
    (hbuild : spec.build = .error error) : Fault doc dialect (.invalidRule place index error)

end RulesDocument

/-! ### The rules of an entry -/

/-- The issue of a rule that does not make sense. -/
def RuleSpec.issue? (table index : Nat) (spec : RuleSpec) : Option Issue :=
  match spec.build with
  | .ok _ => none
  | .error error => some (.invalidRule table index error)

theorem RuleSpec.issue?_eq_some_iff {table index : Nat} {spec : RuleSpec} {issue : Issue} :
    spec.issue? table index = some issue ↔
      ∃ error, spec.build = .error error ∧ issue = .invalidRule table index error := by
  unfold RuleSpec.issue?
  cases spec.build with
  | ok rule => simp
  | error error => simp [eq_comm]

/-- A rule is the one that was read. -/
theorem RuleSpec.spec_of_build {spec : RuleSpec} {rule : Rule} (h : spec.build = .ok rule) :
    rule.spec = spec := by
  unfold RuleSpec.build at h
  split at h
  · cases h
  · cases h
    rfl

/-- The rules that make sense, and the issues of the others. -/
theorem checkRules_eq (table index : Nat) (specs : List RuleSpec) :
    checkRules table index specs =
      (specs.filterMap fun spec => spec.build.toOption,
        (specs.zipIdx index).filterMap fun (spec, index) => spec.issue? table index) := by
  induction specs generalizing index with
  | nil => rfl
  | cons spec specs ih =>
    rw [checkRules, ih, List.filterMap_cons, List.zipIdx_cons, List.filterMap_cons]
    simp only [RuleSpec.issue?]
    cases spec.build <;> rfl

/-! ### One entry -/

variable {seen seen' : List TableRef} {place : Nat} {entry : TableRules} {issue : Issue}

/-- Of the tables that were met, only their being there counts. -/
theorem TableRules.check_congr (h : ∀ ref, ref ∈ seen ↔ ref ∈ seen') (place : Nat)
    (entry : TableRules) : entry.check seen place = entry.check seen' place := by
  have hcontains : seen.contains entry.ref = seen'.contains entry.ref := by
    simp only [List.contains_eq_mem, h]
  rw [check, check, hcontains]

theorem TableRules.check_of_blank (h : entry.IsBlank) :
    entry.check seen place = (none, [.emptyTable place]) := by
  rw [check, if_pos (List.isEmpty_iff.2 (Text.trim_eq_nil_iff.2 h))]

theorem TableRules.check_of_seen (hnamed : ¬entry.IsBlank) (h : entry.ref ∈ seen) :
    entry.check seen place = (none, [.duplicateTable place entry.ref]) := by
  rw [check, if_neg (mt (Text.trim_eq_nil_iff.1 ∘ List.isEmpty_iff.1) hnamed),
    if_pos (List.contains_iff_mem.2 h)]

theorem TableRules.check_of_new (hnamed : ¬entry.IsBlank) (h : entry.ref ∉ seen) :
    entry.check seen place =
      (some ⟨entry.ref, entry.rules.filterMap fun spec => spec.build.toOption⟩,
        (if entry.rules.isEmpty then [.noRules place entry.ref] else []) ++
          entry.rules.zipIdx.filterMap fun (spec, index) => spec.issue? place index) := by
  rw [check, if_neg (mt (Text.trim_eq_nil_iff.1 ∘ List.isEmpty_iff.1) hnamed),
    if_neg (mt List.contains_iff_mem.1 h), checkRules_eq]

/-! ### All entries -/

/-- What is found about each entry, given the tables of the ones before it. -/
def RulesDocument.findings (doc : RulesDocument) : List (Option CheckedTable × List Issue) :=
  doc.tables.zipIdx.map fun (entry, place) =>
    entry.check (namedTables (doc.tables.take place)) place

/-- **The tables that were met** are those of the entries with names so far. -/
theorem checkTables_eq (before entries : List TableRules) (seen : List TableRef)
    (hseen : ∀ ref, ref ∈ seen ↔ ref ∈ namedTables before) :
    checkTables seen before.length entries =
      let findings := (entries.zipIdx before.length).map fun (entry, place) =>
        entry.check (namedTables ((before ++ entries).take place)) place
      (findings.filterMap Prod.fst, findings.flatMap Prod.snd) := by
  induction entries generalizing before seen with
  | nil => rfl
  | cons entry entries ih =>
    have hsplit : before ++ entry :: entries = (before ++ [entry]) ++ entries := by simp
    have hlength : before.length + 1 = (before ++ [entry]).length := by simp
    have hnamed : namedTables (before ++ [entry]) =
        namedTables before ++ if entry.IsBlank then [] else [entry.ref] := by
      simp only [namedTables, List.filter_append, List.map_append]
      split_ifs with hblank <;> simp [hblank]
    rw [checkTables, TableRules.check_congr hseen]
    simp only [List.zipIdx_cons, List.map_cons, List.take_left]
    -- Only an entry that names a table for the first time adds to the ones that were met.
    by_cases hblank : entry.IsBlank
    · have hmore := ih (before ++ [entry]) seen fun ref => by
        rw [hnamed, if_pos hblank, List.append_nil, hseen]
      rw [TableRules.check_of_blank hblank, hlength, hmore, hsplit]
      rfl
    by_cases hmet : entry.ref ∈ namedTables before
    · have hmore := ih (before ++ [entry]) seen fun ref => by
        rw [hnamed, if_neg hblank, List.mem_append, hseen, List.mem_singleton]
        exact ⟨Or.inl, fun h => h.elim id fun href => href ▸ hmet⟩
      rw [TableRules.check_of_seen hblank hmet, hlength, hmore, hsplit]
      rfl
    · have hmore := ih (before ++ [entry]) (entry.ref :: seen) fun ref => by
        rw [hnamed, if_neg hblank, List.mem_cons, List.mem_append, hseen, List.mem_singleton,
          or_comm]
      rw [TableRules.check_of_new hblank hmet, hlength]
      simp only
      rw [hmore, hsplit]
      rfl

namespace RulesDocument

/-- The issues of a document, errors and warnings together. -/
def issues (doc : RulesDocument) (dialect : Dialect) : List Issue :=
  (if doc.version = documentVersion then [] else [.unsupportedVersion doc.version])
    ++ prefixIssues dialect doc.namePrefix ++ doc.findings.flatMap Prod.snd

/-- **Checking a document** is looking at each entry with the ones before it. -/
theorem check_eq (doc : RulesDocument) (dialect : Dialect) :
    doc.check dialect = (doc.findings.filterMap Prod.fst, .ofIssues (doc.issues dialect)) := by
  have hall : checkTables [] 0 doc.tables =
      (doc.findings.filterMap Prod.fst, doc.findings.flatMap Prod.snd) :=
    checkTables_eq [] doc.tables [] fun _ => Iff.rfl
  rw [check, hall]
  rfl

end RulesDocument

/-! ### What the issues are -/

/-- **The issues of one entry.** -/
theorem TableRules.mem_check_iff {earlier : List TableRules} :
    issue ∈ (entry.check (namedTables earlier) place).2 ↔
      (entry.IsBlank ∧ issue = .emptyTable place) ∨
      (¬entry.IsBlank ∧ entry.Repeats earlier ∧ issue = .duplicateTable place entry.ref) ∨
      (¬entry.IsBlank ∧ ¬entry.Repeats earlier ∧
        (entry.rules = [] ∧ issue = .noRules place entry.ref ∨
          ∃ index spec error, entry.rules[index]? = some spec ∧ spec.build = .error error ∧
            issue = .invalidRule place index error)) := by
  by_cases hblank : entry.IsBlank
  · simp [TableRules.check_of_blank hblank, hblank]
  by_cases hrepeats : entry.Repeats earlier
  · simp [TableRules.check_of_seen hblank (mem_namedTables.2 hrepeats), hblank, hrepeats]
  · rw [TableRules.check_of_new hblank (mt mem_namedTables.1 hrepeats)]
    simp only [hblank, hrepeats, not_false_eq_true, true_and, false_and, false_or, List.mem_append,
      List.mem_filterMap, Prod.exists, List.mk_mem_zipIdx_iff_getElem?,
      RuleSpec.issue?_eq_some_iff]
    refine or_congr ?_ ?_
    · cases entry.rules <;> simp
    · constructor
      · rintro ⟨spec, index, hspec, error, hbuild, rfl⟩
        exact ⟨index, spec, error, hspec, hbuild, rfl⟩
      · rintro ⟨index, spec, error, hspec, hbuild, rfl⟩
        exact ⟨spec, index, hspec, error, hbuild, rfl⟩

namespace RulesDocument

variable {doc : RulesDocument} {dialect : Dialect}

theorem mem_findings_iff : issue ∈ doc.findings.flatMap Prod.snd ↔
    ∃ (place : Nat) (entry : TableRules), doc.tables[place]? = some entry ∧
      issue ∈ (entry.check (namedTables (doc.tables.take place)) place).2 := by
  simp only [findings, List.flatMap_map, List.mem_flatMap, Prod.exists,
    List.mk_mem_zipIdx_iff_getElem?]
  exact exists_comm

/-- **Every issue is a fault or an oddity**, and every fault and every oddity is an issue. -/
theorem mem_issues_iff : issue ∈ doc.issues dialect ↔ doc.Fault dialect issue ∨ doc.Oddity issue := by
  have hversion : issue ∈ (if doc.version = documentVersion then []
      else [Issue.unsupportedVersion doc.version]) ↔
        doc.version ≠ documentVersion ∧ issue = .unsupportedVersion doc.version := by
    split_ifs with h <;> simp [h]
  have hprefix : issue ∈ prefixIssues dialect doc.namePrefix ↔
      ∃ text error, doc.namePrefix = some text ∧ Namer.make text dialect = .error error ∧
        issue = .invalidPrefix error := by
    cases hdoc : doc.namePrefix with
    | none => simp [prefixIssues]
    | some text => cases hmake : Namer.make text dialect <;> simp [prefixIssues, hmake]
  rw [issues, List.mem_append, List.mem_append, hversion, hprefix, mem_findings_iff]
  constructor
  · rintro ((⟨hne, rfl⟩ | ⟨text, error, htext, hmake, rfl⟩) | ⟨place, entry, hentry, hmem⟩)
    · exact Or.inl (.version hne)
    · exact Or.inl (.namePrefix htext hmake)
    · rcases TableRules.mem_check_iff.1 hmem with ⟨hblank, rfl⟩ | ⟨hnamed, hrepeats, rfl⟩ |
        ⟨hnamed, hnew, ⟨hrules, rfl⟩ | ⟨index, spec, error, hspec, hbuild, rfl⟩⟩
      · exact Or.inl (.blank hentry hblank)
      · exact Or.inl (.repeated hentry hnamed hrepeats)
      · exact Or.inr (.noRules ⟨hentry, hnamed, hnew⟩ hrules)
      · exact Or.inl (.rule ⟨hentry, hnamed, hnew⟩ hspec hbuild)
  · rintro (hfault | hoddity)
    · cases hfault with
      | version hne => exact Or.inl (Or.inl ⟨hne, rfl⟩)
      | namePrefix htext hmake => exact Or.inl (Or.inr ⟨_, _, htext, hmake, rfl⟩)
      | blank hentry hblank =>
        exact Or.inr ⟨_, _, hentry, TableRules.mem_check_iff.2 (Or.inl ⟨hblank, rfl⟩)⟩
      | repeated hentry hnamed hrepeats =>
        exact Or.inr ⟨_, _, hentry,
          TableRules.mem_check_iff.2 (Or.inr (Or.inl ⟨hnamed, hrepeats, rfl⟩))⟩
      | rule hentry hspec hbuild =>
        exact Or.inr ⟨_, _, hentry.here, TableRules.mem_check_iff.2 (Or.inr (Or.inr
          ⟨hentry.named, hentry.new, Or.inr ⟨_, _, _, hspec, hbuild, rfl⟩⟩))⟩
    · cases hoddity with
      | noRules hentry hrules =>
        exact Or.inr ⟨_, _, hentry.here, TableRules.mem_check_iff.2 (Or.inr (Or.inr
          ⟨hentry.named, hentry.new, Or.inl ⟨hrules, rfl⟩⟩))⟩

/-- Faults are errors. -/
theorem Fault.severity_eq (h : doc.Fault dialect issue) : issue.severity = .error := by
  cases h <;> rfl

theorem mem_errors_iff : issue ∈ (doc.check dialect).2.errors ↔ doc.Fault dialect issue := by
  rw [check_eq, Report.ofIssues, List.mem_filter, mem_issues_iff, decide_eq_true_eq]
  constructor
  · rintro ⟨hfault | hoddity, herror⟩
    · exact hfault
    · rw [hoddity.severity_eq] at herror
      cases herror
  · exact fun hfault => ⟨Or.inl hfault, hfault.severity_eq⟩

theorem mem_warnings_iff : issue ∈ (doc.check dialect).2.warnings ↔ doc.Oddity issue := by
  rw [check_eq, Report.ofIssues, List.mem_filter, mem_issues_iff, decide_eq_true_eq]
  constructor
  · rintro ⟨hfault | hoddity, hwarning⟩
    · rw [hfault.severity_eq] at hwarning
      cases hwarning
    · exact hoddity
  · exact fun hoddity => ⟨Or.inr hoddity, hoddity.severity_eq⟩

end RulesDocument

/-! ### The order of the issues -/

/-- The issues of an entry stand at its place. -/
theorem TableRules.position_of_mem_check {earlier : List TableRules}
    (h : issue ∈ (entry.check (namedTables earlier) place).2) :
    ∃ more, issue.position = 2 :: place :: more := by
  rcases TableRules.mem_check_iff.1 h with ⟨-, rfl⟩ | ⟨-, -, rfl⟩ |
    ⟨-, -, ⟨-, rfl⟩ | ⟨index, spec, error, -, -, rfl⟩⟩
  · exact ⟨[], rfl⟩
  · exact ⟨[], rfl⟩
  · exact ⟨[], rfl⟩
  · exact ⟨[index], rfl⟩

theorem TableRules.pairwise_check {earlier : List TableRules} :
    (entry.check (namedTables earlier) place).2.Pairwise Issue.Before := by
  by_cases hblank : entry.IsBlank
  · rw [TableRules.check_of_blank hblank]
    exact List.pairwise_singleton _ _
  by_cases hmet : entry.ref ∈ namedTables earlier
  · rw [TableRules.check_of_seen hblank hmet]
    exact List.pairwise_singleton _ _
  rw [TableRules.check_of_new hblank hmet]
  cases hrules : entry.rules with
  | nil => exact List.pairwise_singleton _ _
  | cons spec specs =>
    rw [List.isEmpty_cons, if_neg Bool.false_ne_true, List.nil_append, List.pairwise_filterMap]
    refine (pairwise_zipIdx (spec :: specs) 0).imp ?_
    rintro ⟨a, i⟩ ⟨b, j⟩ hlt x hx y hy
    obtain ⟨-, -, rfl⟩ := RuleSpec.issue?_eq_some_iff.1 hx
    obtain ⟨-, -, rfl⟩ := RuleSpec.issue?_eq_some_iff.1 hy
    exact .cons (.cons (.rel hlt))

/-- **Issues are found in the order of the document**, each of them once. -/
theorem RulesDocument.pairwise_issues (doc : RulesDocument) (dialect : Dialect) :
    (doc.issues dialect).Pairwise Issue.Before := by
  have hentries : (doc.findings.flatMap Prod.snd).Pairwise Issue.Before := by
    rw [findings, List.flatMap_map, List.pairwise_flatMap]
    refine ⟨fun _ _ => TableRules.pairwise_check, (pairwise_zipIdx doc.tables 0).imp ?_⟩
    rintro ⟨entry, place⟩ ⟨other, place'⟩ hlt a ha b hb
    obtain ⟨more, hposition⟩ := TableRules.position_of_mem_check ha
    obtain ⟨more', hposition'⟩ := TableRules.position_of_mem_check hb
    rw [Issue.Before, hposition, hposition']
    exact .cons (.rel hlt)
  -- What is said of the document as a whole stands before what is said of its entries.
  have hhead : ∀ k < 2, ∀ issue ∈ doc.findings.flatMap Prod.snd, [k] < issue.position := by
    intro k hk issue hissue
    obtain ⟨place, entry, -, hmem⟩ := mem_findings_iff.1 hissue
    obtain ⟨more, hposition⟩ := TableRules.position_of_mem_check hmem
    rw [hposition]
    exact .rel hk
  have hprefix : (prefixIssues dialect doc.namePrefix ++ doc.findings.flatMap Prod.snd).Pairwise
      Issue.Before := by
    rcases prefixIssues_cases dialect doc.namePrefix with h | ⟨error, h⟩
    · rwa [h]
    · rw [h]
      exact .cons (hhead 1 (by decide)) hentries
  rw [issues, List.append_assoc]
  split_ifs
  · exact hprefix
  · rw [List.singleton_append]
    refine .cons (fun issue hissue => ?_) hprefix
    rcases List.mem_append.1 hissue with hissue | hissue
    · rcases prefixIssues_cases dialect doc.namePrefix with h | ⟨error, h⟩
      · rw [h] at hissue
        cases hissue
      · rw [h] at hissue
        rw [List.mem_singleton.1 hissue]
        exact .rel (by decide)
    · exact hhead 0 (by decide) issue hissue

/-! ### The tables that are kept -/

namespace RulesDocument

variable {doc : RulesDocument} {dialect : Dialect}

/-- **The tables that are kept** are those of the entries that remain, with the rules that make
sense. -/
theorem tables_check (doc : RulesDocument) (dialect : Dialect) :
    (doc.check dialect).1 = doc.remaining.map fun entry =>
      ⟨entry.ref, entry.rules.filterMap fun spec => spec.build.toOption⟩ := by
  rw [check_eq, findings, remaining, List.filterMap_map, List.map_map, ← List.filterMap_eq_map,
    List.filterMap_filter]
  refine List.filterMap_congr fun ⟨entry, place⟩ hmem => ?_
  have hhere := List.mk_mem_zipIdx_iff_getElem?.1 hmem
  simp only [Function.comp_apply, decide_eq_true_eq]
  by_cases hblank : entry.IsBlank
  · rw [TableRules.check_of_blank hblank]
    exact (if_neg fun h : doc.Remains place entry => h.named hblank).symm
  by_cases hrepeats : entry.Repeats (doc.tables.take place)
  · rw [TableRules.check_of_seen hblank (mem_namedTables.2 hrepeats)]
    exact (if_neg fun h : doc.Remains place entry => h.new hrepeats).symm
  · rw [TableRules.check_of_new hblank (mt mem_namedTables.1 hrepeats)]
    exact (if_pos (⟨hhere, hblank, hrepeats⟩ : doc.Remains place entry)).symm

theorem not_fault_of_isOk (h : (doc.check dialect).2.isOk = true) (issue : Issue) :
    ¬doc.Fault dialect issue := fun hfault =>
  List.eq_nil_iff_forall_not_mem.1 (List.isEmpty_iff.1 h) issue (mem_errors_iff.2 hfault)

/-- In a document without faults every entry remains. -/
theorem remains_of_isOk (h : (doc.check dialect).2.isOk = true)
    (hhere : doc.tables[place]? = some entry) : doc.Remains place entry := by
  by_cases hblank : entry.IsBlank
  · exact absurd (.blank hhere hblank) (not_fault_of_isOk h _)
  by_cases hrepeats : entry.Repeats (doc.tables.take place)
  · exact absurd (.repeated hhere hblank hrepeats) (not_fault_of_isOk h _)
  · exact ⟨hhere, hblank, hrepeats⟩

theorem remaining_of_isOk (h : (doc.check dialect).2.isOk = true) : doc.remaining = doc.tables := by
  rw [remaining, List.filter_eq_self.2, List.zipIdx_map_fst]
  rintro ⟨entry, place⟩ hmem
  exact decide_eq_true (remains_of_isOk h (List.mk_mem_zipIdx_iff_getElem?.1 hmem))

/-- In a document without faults every rule makes sense. -/
theorem specs_of_isOk (h : (doc.check dialect).2.isOk = true) (hentry : entry ∈ doc.tables) :
    (entry.rules.filterMap fun spec => spec.build.toOption).map Rule.spec = entry.rules := by
  obtain ⟨place, hhere⟩ := List.mem_iff_getElem?.1 hentry
  have hremains : doc.Remains place entry := remains_of_isOk h hhere
  rw [List.map_filterMap, ← List.map_id entry.rules, List.filterMap_map,
    List.filterMap_eq_map_iff_forall_eq_some]
  intro spec hspec
  obtain ⟨index, hindex⟩ := List.mem_iff_getElem?.1 hspec
  cases hbuild : spec.build with
  | error error => exact absurd (.rule hremains hindex hbuild) (not_fault_of_isOk h _)
  | ok rule => simp [hbuild, Except.toOption, RuleSpec.spec_of_build hbuild]

/-- **What checking finds.** Every fault of a document is reported as an error, in the order of
the document and once, and nothing else is; the fault of a rule is at the place of the rule and
of its field. There is a warning for every entry that remains and has no rules. The tables that
are kept are those of the entries that remain, with the rules that make sense, and so a document
without errors is kept as a whole. -/
theorem check_finds (doc : RulesDocument) (dialect : Dialect) :
    let tables := (doc.check dialect).1
    let report := (doc.check dialect).2
    (∀ issue, issue ∈ report.errors ↔ doc.Fault dialect issue) ∧
      report.errors.Pairwise Issue.Before ∧
      (∀ table index error, (Issue.invalidRule table index error).path =
        "/tables/" ++ toString table ++ "/rules/" ++ toString index ++ "/" ++ error.field) ∧
      (∀ issue, issue ∈ report.warnings ↔ doc.Oddity issue) ∧
      report.warnings.Pairwise Issue.Before ∧
      (tables = doc.remaining.map fun entry =>
        ⟨entry.ref, entry.rules.filterMap fun spec => spec.build.toOption⟩) ∧
      (report.isOk = true →
        (tables.map fun checked => (checked.table, checked.rules.map Rule.spec)) =
          doc.tables.map fun entry => (entry.ref, entry.rules)) := by
  intro tables report
  have hreport : report = .ofIssues (doc.issues dialect) := congrArg Prod.snd (check_eq doc dialect)
  have hordered := doc.pairwise_issues dialect
  refine ⟨fun _ => mem_errors_iff, ?_, fun _ _ _ => rfl, fun _ => mem_warnings_iff, ?_,
    tables_check doc dialect, fun hok => ?_⟩
  · rw [hreport]
    exact hordered.sublist List.filter_sublist
  · rw [hreport]
    exact hordered.sublist List.filter_sublist
  · have htables : tables = _ := tables_check doc dialect
    rw [htables, remaining_of_isOk hok, List.map_map]
    refine List.map_congr_left fun entry hentry => ?_
    rw [Function.comp_apply, specs_of_isOk hok hentry]

end RulesDocument

end

namespace RulesDocument

/-- Books and the loans of another schema. -/
def libraryDocument : RulesDocument where
  version := "0.1"
  namePrefix := some "lib"
  tables := [
    ⟨none, "books", [.of (.range (.between (.integer 1) (.integer 12))) ["month"],
      .of (.presence .text) ["title"]]⟩,
    ⟨some "desk", "loans", []⟩]

/-- All of it is kept. -/
theorem libraryDocument_kept : (libraryDocument.check .postgres).2.isOk = true ∧
    ((libraryDocument.check .postgres).1.map fun checked =>
        (checked.table, checked.rules.map Rule.spec)) =
      libraryDocument.tables.map fun entry => (entry.ref, entry.rules) := by
  have hok : (libraryDocument.check .postgres).2.isOk = true := by decide +kernel
  exact ⟨hok, (check_finds libraryDocument .postgres).2.2.2.2.2.2 hok⟩

/-- A blank table, a rule without bounds, a table that is there twice, and one of the same name
in another schema. -/
example :
    let doc : RulesDocument := ⟨"9.9", some "", [⟨none, " ", []⟩,
      ⟨none, "books", [.of (.presence .text) ["title"], .of (.range ⟨none, none, true, true⟩) ["a"]]⟩,
      ⟨none, "books", [.of (.presence .text) ["a"]]⟩, ⟨some "app", "books", []⟩]⟩
    let report := (doc.check .postgres).2
    report.errors.map Issue.path = ["/rules_version", "/prefix", "/tables/0/table",
      "/tables/1/rules/1/min", "/tables/2/table"] ∧
    report.warnings.map Issue.path = ["/tables/3/rules"] := by
  decide +kernel

end RulesDocument

end ColumnChecks
