import ColumnChecks.Proofs.CommandLine.Scripts
import ColumnChecks.Proofs.Plan.Catalog
import ColumnChecks.Proofs.Text.Lines

/-!
# Listings that were written

Someone writes down the constraints of a table, each on a line: its name, or its name, a
tab and its fingerprint. There may be more on the listing that says nothing else: blank
lines, lines with a `#` in front, and earlier lines on the same names that a later one
makes void (`ColumnChecks.Present.Lists`).

Each kind of line is read for what it is, whatever blanks are around it, so **such a
listing is read as the constraints that were written down**
(`ColumnChecks.Present.ofListing_eq`), and what is planned from it is what is planned from
the constraints themselves.
-/

namespace ColumnChecks

open Text
open Sql (TableRef)

namespace Present

variable {name : String} {fingerprint : Option String} {line : List Char}
  {written : List (List Char)} {present : Present} {text : String}

/-! ### What can be listed -/

/-- A name that a listing can hold: it is one word, and does not look like a comment. -/
structure IsListable (name : String) : Prop where
  nonempty : name.toList ≠ []
  word : ∀ c ∈ name.toList, isBlank c = false
  plain : name.toList.head? ≠ some '#'

/-- Constraints that a listing can hold. A fingerprint has no line feed either, or it could
not stand on a line. -/
structure Listable (present : Present) : Prop where
  name : ∀ name fingerprint, present.find? name = some fingerprint → IsListable name
  fingerprint : ∀ name fingerprint, present.find? name = some (some fingerprint) →
    fingerprint.toList ≠ [] ∧ Trimmed fingerprint.toList

/-! ### Lines of a listing -/

/-- A line that says nothing: it is blank, or a comment. -/
def IsIdle (line : List Char) : Prop :=
  AllBlank line ∨ ∃ before rest, AllBlank before ∧ line = before ++ '#' :: rest

/-- A line whose first word is a name. -/
def IsAbout (name : String) (line : List Char) : Prop :=
  ∃ before rest, AllBlank before ∧ (∀ c ∈ rest.head?, isBlank c = true) ∧
    line = before ++ (name.toList ++ rest)

/-- What is written for a constraint. -/
def lineOf (name : String) : Option String → List Char
  | none => name.toList
  | some fingerprint => name.toList ++ '\t' :: fingerprint.toList

/-- A line that says that there is a constraint. -/
def States (name : String) (fingerprint : Option String) (line : List Char) : Prop :=
  ∃ before behind, AllBlank before ∧ AllBlank behind ∧
    line = before ++ lineOf name fingerprint ++ behind

/-- **The lines list the constraints.** What they say that goes beyond a comment is about
constraints that are there, and the last line about each of those says what it is. -/
structure Lists (written : List (List Char)) (present : Present) : Prop where
  about : ∀ line ∈ written,
    IsIdle line ∨ ∃ name, present.contains name = true ∧ IsAbout name line
  stated : ∀ name fingerprint, present.find? name = some fingerprint →
    ∃ earlier line later, written = earlier ++ line :: later ∧ States name fingerprint line ∧
      ∀ other ∈ later, ¬IsAbout name other

/-! ### Reading a line -/

/-- Blanks at the ends of a line make no difference. -/
theorem ofLine?_congr {line other : List Char} (h : trim line = trim other) :
    ofLine? line = ofLine? other := by
  simp only [ofLine?, h]

/-- A line that does not begin like a comment is cut at its first blank. -/
theorem ofLine?_eq {cs : List Char} (h : trim line = cs) (hne : cs ≠ [])
    (hplain : cs.head? ≠ some '#') :
    ofLine? line =
      match cutAtBlank? cs with
      | some (name, rest) => some (String.ofList name,
          if (trim rest).isEmpty then none else some (String.ofList (trim rest)))
      | none => some (String.ofList cs, none) := by
  rw [ofLine?, h]
  dsimp only
  split
  · exact absurd rfl hne
  · exact absurd rfl hplain
  · rfl

theorem IsIdle.ofLine? (h : IsIdle line) : ofLine? line = none := by
  rcases h with hblank | ⟨before, rest, hbefore, rfl⟩
  · simp only [Present.ofLine?, trim_eq_nil hblank]
  · have hmark : ∀ c ∈ ['#'], isBlank c = false := forall_not_isBlank (by decide)
    have htrim : trim (before ++ '#' :: rest) = '#' :: trimEnd rest := by
      rw [trim_before hbefore]
      exact trim_append (List.cons_ne_nil _ []) (.of_forall hmark)
    simp only [Present.ofLine?, htrim]

namespace IsListable

/-- A line with nothing but a name. -/
theorem ofLine?_name (h : IsListable name) (htrim : trim line = name.toList) :
    ofLine? line = some (name, none) := by
  rw [ofLine?_eq htrim h.nonempty h.plain, cutAtBlank?, cutAt?_eq_none h.word]
  simp only [String.ofList_toList]

/-- A line with a name and something behind a blank. -/
theorem ofLine?_more (h : IsListable name) {c : Char} (hc : isBlank c = true) {rest : List Char}
    (htrim : trim line = name.toList ++ c :: rest) :
    ofLine? line =
      some (name, if (trim rest).isEmpty then none else some (String.ofList (trim rest))) := by
  have hplain : (name.toList ++ c :: rest).head? ≠ some '#' := by
    rw [List.head?_append_of_ne_nil _ h.nonempty]
    exact h.plain
  rw [ofLine?_eq htrim (List.append_ne_nil_of_left_ne_nil h.nonempty _) hplain, cutAtBlank?,
    cutAt?_append h.word hc]
  simp only [String.ofList_toList]

/-- **A line about a name is read as one.** -/
theorem exists_ofLine? (h : IsListable name) (habout : IsAbout name line) :
    ∃ fingerprint, ofLine? line = some (name, fingerprint) := by
  obtain ⟨before, rest, hbefore, hrest, rfl⟩ := habout
  have htrim : trim (before ++ (name.toList ++ rest)) = name.toList ++ trimEnd rest := by
    rw [trim_before hbefore, trim_append h.nonempty (.of_forall h.word)]
  cases hend : trimEnd rest with
  | nil =>
    rw [hend, List.append_nil] at htrim
    exact ⟨none, h.ofLine?_name htrim⟩
  | cons c cs =>
    -- What is left of the rest begins as the rest does.
    obtain ⟨behind, hrest'⟩ := trimEnd_prefix rest
    rw [hend] at hrest' htrim
    have hc : isBlank c = true := by
      refine hrest c ?_
      rw [← hrest']
      rfl
    exact ⟨_, h.ofLine?_more hc htrim⟩

/-- **A line that states a constraint is read as that.** -/
theorem ofLine?_of_states (h : IsListable name)
    (hfingerprint : ∀ text, fingerprint = some text → text.toList ≠ [] ∧ Trimmed text.toList)
    (hstates : States name fingerprint line) : ofLine? line = some (name, fingerprint) := by
  obtain ⟨before, behind, hbefore, hbehind, rfl⟩ := hstates
  have htrim : trim (before ++ lineOf name fingerprint ++ behind) =
      trim (lineOf name fingerprint) := trim_pad hbefore hbehind
  cases fingerprint with
  | none =>
    rw [lineOf, trim_eq_of_trimmed (.of_forall h.word)] at htrim
    exact h.ofLine?_name htrim
  | some text =>
    obtain ⟨hne, htrimmed⟩ := hfingerprint text rfl
    have hblank : isBlank '\t' = true := by decide
    have hempty : text.toList.isEmpty = false :=
      Bool.eq_false_iff.2 fun hempty => hne (List.isEmpty_iff.1 hempty)
    have hend : trimEnd ('\t' :: text.toList) = '\t' :: text.toList := by
      refine trimEnd_eq_self ?_
      rw [List.getLast?_cons_of_ne_nil hne]
      exact htrimmed.2
    have hline : trim (lineOf name (some text)) = name.toList ++ '\t' :: text.toList := by
      rw [lineOf, trim_append h.nonempty (.of_forall h.word), hend]
    rw [h.ofLine?_more hblank (htrim.trans hline), trim_eq_of_trimmed htrimmed, hempty,
      String.ofList_toList]
    rfl

end IsListable

/-! ### Reading a listing -/

/-- A line of a listing that is read as a constraint is about one that is there. -/
theorem Lists.exists_of_ofLine? (h : Lists written present) (hlistable : present.Listable)
    (hline : line ∈ written) (hread : ofLine? line = some (name, fingerprint)) :
    present.contains name = true ∧ IsAbout name line := by
  rcases h.about line hline with hidle | ⟨other, hother, habout⟩
  · rw [hidle.ofLine?] at hread
    cases hread
  · obtain ⟨kept, hkept⟩ := Option.isSome_iff_exists.1 (contains_eq_isSome present other ▸ hother)
    obtain ⟨found, hfound⟩ := (hlistable.name other kept hkept).exists_ofLine? habout
    rw [hfound] at hread
    cases hread
    exact ⟨hother, habout⟩

/-- What is found was put there. -/
theorem mem_of_find?_insertAll {entries : List (String × Option String)}
    (h : (empty.insertAll entries).find? name = some fingerprint) :
    (name, fingerprint) ∈ entries := by
  have hempty : empty.find? name = none := Std.ExtTreeMap.getElem?_empty
  rw [find?_insertAll, hempty, Option.or_none] at h
  obtain ⟨entry, hentry, rfl⟩ := Option.map_eq_some_iff.1 h
  have hname := List.find?_some hentry
  rw [beq_iff_eq] at hname
  rw [← hname]
  exact List.mem_reverse.1 (List.mem_of_find?_eq_some hentry)

theorem filterMap_ofLine? {found : List (List Char)}
    (h : List.Forall₂ (fun line other => trim line = trim other) found written) :
    found.filterMap ofLine? = written.filterMap ofLine? := by
  induction h with
  | nil => rfl
  | cons hline _ ih => rw [List.filterMap_cons, List.filterMap_cons, ofLine?_congr hline, ih]

/-- **A listing is read as the constraints that were written down.** -/
theorem ofListing_eq (hlistable : present.Listable) (hlines : HasLines text.toList written)
    (h : Lists written present) : ofListing text = present := by
  refine ext_find? fun name => ?_
  have hempty : empty.find? name = none := Std.ExtTreeMap.getElem?_empty
  rw [ofListing, filterMap_ofLine? hlines.forall₂_lines, find?_insertAll, hempty, Option.or_none]
  -- Lines that are not about the name have no part in what is found under it.
  have hfree : ∀ lines : List (List Char), lines ⊆ written →
      (∀ line ∈ lines, present.contains name = true → ¬IsAbout name line) →
        (lines.filterMap ofLine?).reverse.find? (fun entry => entry.1 == name) = none := by
    intro lines hsub hfree
    refine List.find?_eq_none.2 fun entry hentry heq => ?_
    obtain ⟨line, hline, hread⟩ := List.mem_filterMap.1 (List.mem_reverse.1 hentry)
    obtain ⟨hthere, habout⟩ := h.exists_of_ofLine? hlistable (hsub hline) hread
    rw [eq_of_beq heq] at hthere habout
    exact hfree line hline hthere habout
  cases hname : present.find? name with
  | none =>
    have habsent : present.contains name = false := by
      rw [contains_eq_isSome, hname]
      rfl
    have hnone := hfree written (List.Subset.refl _) fun _ _ hthere =>
      absurd hthere (Bool.eq_false_iff.1 habsent)
    rw [hnone]
    rfl
  | some fingerprint =>
    obtain ⟨earlier, line, later, rfl, hstates, hlater⟩ := h.stated name fingerprint hname
    have hread : ofLine? line = some (name, fingerprint) :=
      (hlistable.name name fingerprint hname).ofLine?_of_states
        (fun text htext => hlistable.fingerprint name text (htext ▸ hname)) hstates
    have hlater := hfree later (fun other hother => by simp [hother])
      fun other hother _ => hlater other hother
    rw [List.filterMap_append, List.filterMap_cons, hread, List.reverse_append, List.reverse_cons,
      List.find?_append, List.find?_append, hlater, List.find?_singleton,
      if_pos (beq_self_eq_true _)]
    rfl

/-- **Planning from a listing is planning from the host.** A listing of the constraints that a
host has on a table is read as exactly these, whatever else is on it. So the plan for any rules is
the one that is made on the host, and it is the one that the command prints when it is given the
listing. -/
theorem plan_ofListing [Pattern.SizeTest] (hlistable : present.Listable)
    (hlines : HasLines text.toList written) (h : Lists written present) :
    ofListing text = present ∧ ∀ (host : Host) (table : TableRef), host.tables table = present →
      (∀ (planner : Planner) (rules : List Rule),
        planner.plan table rules (ofListing text) = host.plan planner table rules) ∧
      ∀ {files settings rules selected planner entry path},
        CommandLine.Opens files settings rules selected planner [entry] → entry.table = table →
        files path = .text text → ∃ warnings,
          (CommandLine.runPlan files settings rules (some path) selected).outcome =
            CommandLine.planned warnings (host.plan planner table entry.rules) := by
  have hread := ofListing_eq hlistable hlines h
  refine ⟨hread, fun host table htable => ⟨fun planner rules => ?_, ?_⟩⟩
  · rw [hread, Host.plan, htable]
  · rintro files settings rules selected planner entry path hopens rfl hfile
    rw [Host.plan, htable, ← hread]
    exact hopens.outcome_runPlan ⟨text, hfile, rfl⟩

/-- What is there on the cellars. -/
def cellarChecks : Present :=
  empty.insertAll [("cellars_legacy_check", none), ("rein_cellars_temperature_rng", some "5f3a")]

/-- The lines of the listing of the cellars: there is a comment, a line that is out of date, and a
blank line. -/
def cellarLines : List (List Char) :=
  ["# managed".toList, "rein_cellars_temperature_rng old".toList, [],
    "  rein_cellars_temperature_rng\t5f3a ".toList, "cellars_legacy_check".toList]

theorem cellarChecks_listable : cellarChecks.Listable where
  name := by
    intro name fingerprint hname
    have hname : name = "cellars_legacy_check" ∨ name = "rein_cellars_temperature_rng" := by
      have hmem := mem_of_find?_insertAll hname
      simp only [List.mem_cons, Prod.mk.injEq, List.not_mem_nil, or_false] at hmem
      exact hmem.imp And.left And.left
    rcases hname with rfl | rfl
    · exact ⟨by decide, forall_not_isBlank (by decide), by decide⟩
    · exact ⟨by decide, forall_not_isBlank (by decide), by decide⟩
  fingerprint := by
    intro name fingerprint hname
    have hmem := mem_of_find?_insertAll hname
    simp only [List.mem_cons, Prod.mk.injEq, List.not_mem_nil, or_false, reduceCtorEq, and_false,
      false_or, Option.some.injEq] at hmem
    obtain ⟨-, rfl⟩ := hmem
    exact ⟨by decide, .of_forall (forall_not_isBlank (by decide))⟩

theorem cellarLines_lists : Lists cellarLines cellarChecks where
  about := by
    have hnone : AllBlank [] := nofun
    have hold : IsAbout "rein_cellars_temperature_rng" "rein_cellars_temperature_rng old".toList :=
      ⟨[], " old".toList, hnone, by rintro c ⟨⟩; rfl, by decide⟩
    have hrange : IsAbout "rein_cellars_temperature_rng"
        "  rein_cellars_temperature_rng\t5f3a ".toList :=
      ⟨"  ".toList, "\t5f3a ".toList, List.all_eq_true.1 rfl, by rintro c ⟨⟩; rfl, by decide⟩
    have hlegacy : IsAbout "cellars_legacy_check" "cellars_legacy_check".toList :=
      ⟨[], [], hnone, nofun, by decide⟩
    intro line hline
    simp only [cellarLines, List.mem_cons, List.not_mem_nil, or_false] at hline
    rcases hline with rfl | rfl | rfl | rfl | rfl
    · exact Or.inl (Or.inr ⟨[], " managed".toList, hnone, by decide⟩)
    · exact Or.inr ⟨_, rfl, hold⟩
    · exact Or.inl (Or.inl hnone)
    · exact Or.inr ⟨_, rfl, hrange⟩
    · exact Or.inr ⟨_, rfl, hlegacy⟩
  stated := by
    intro name fingerprint hname
    have hmem := mem_of_find?_insertAll hname
    simp only [List.mem_cons, Prod.mk.injEq, List.not_mem_nil, or_false] at hmem
    rcases hmem with ⟨rfl, rfl⟩ | ⟨rfl, rfl⟩
    · exact ⟨cellarLines.take 4, "cellars_legacy_check".toList, [], by decide,
        ⟨[], [], nofun, nofun, by decide⟩, nofun⟩
    · refine ⟨cellarLines.take 3, "  rein_cellars_temperature_rng\t5f3a ".toList,
        ["cellars_legacy_check".toList], by decide, ⟨"  ".toList, " ".toList,
          List.all_eq_true.1 rfl, List.all_eq_true.1 rfl, by decide⟩, ?_⟩
      rintro line hline habout
      obtain ⟨fingerprint, hread⟩ := (cellarChecks_listable.name _ _ rfl).exists_ofLine? habout
      have hlegacy : ofLine? "cellars_legacy_check".toList =
          some ("cellars_legacy_check", none) := by
        decide
      rw [List.mem_singleton.1 hline, hlegacy] at hread
      have hname : "cellars_legacy_check" = "rein_cellars_temperature_rng" :=
        congrArg Prod.fst (Option.some.inj hread)
      exact absurd hname (by decide)

/-- What is planned from the listing of the cellars is what is planned on a host that has what it
says. -/
theorem cellarChecks_plan_ofListing :
    cellarChecks.Listable ∧ Lists cellarLines cellarChecks ∧ ∃ warnings,
      (CommandLine.runPlan CommandLine.cellarFiles .default "cellars.json" (some "cellars.txt")
          (some "cellars")).outcome =
        CommandLine.planned warnings ((Host.empty.set ⟨none, "cellars"⟩ cellarChecks).plan .postgres
          ⟨none, "cellars"⟩ [Planner.frostRule false, Planner.frostRule true]) := by
  obtain ⟨text, htext⟩ : ∃ text, CommandLine.cellarFiles "cellars.txt" = .text text := ⟨_, rfl⟩
  have hlines : HasLines text.toList cellarLines := by
    have hwritten : text.toList = "# managed".toList ++ '\r' :: '\n' ::
        ("rein_cellars_temperature_rng old".toList ++ '\n' :: ([] ++ '\n' ::
          ("  rein_cellars_temperature_rng\t5f3a ".toList ++ '\r' :: '\n' ::
            "cellars_legacy_check".toList))) := by
      cases htext
      decide +kernel
    rw [hwritten]
    exact .crlf (by decide) (.lf (by decide) (.lf (by decide) (.crlf (by decide)
      (.unended (by decide) (by decide)))))
  obtain ⟨entry, hopens, htable, hrules⟩ := CommandLine.opens_cellars
  have hhost : (Host.empty.set ⟨none, "cellars"⟩ cellarChecks).tables ⟨none, "cellars"⟩ =
      cellarChecks := by simp [Host.set]
  have hplan := plan_ofListing cellarChecks_listable hlines cellarLines_lists
  have houtcome := (hplan.2 _ _ hhost).2 hopens htable htext
  rw [hrules] at houtcome
  exact ⟨cellarChecks_listable, cellarLines_lists, houtcome⟩

end Present

end ColumnChecks
