import ColumnChecks.Proofs.Plan.Order
import ColumnChecks.Proofs.Plan.Rollout

/-!
# Plans that are tried again

A plan may be carried out a second time, be it because nobody knows whether the first time went
through or because it stopped half-way. By then the table is not what the plan was made for; it
may not have been that the first time either. Nothing goes wrong, since each step asks for what is
there and since what a plan does to a name is settled by its first drop and its first add of that
name.

So **after any part of its steps** a plan leaves what it leaves without them
(`ColumnChecks.Planner.applyTo_foldl_of_prefix`), whatever it is carried out on. What that is can
be said for each name (`ColumnChecks.Planner.applyTo_cases`), and
`ColumnChecks.Host.apply_again` says both of a host.
-/

namespace ColumnChecks

open Sql (TableRef)

section

variable [Pattern.SizeTest]

namespace Planner

variable {planner : Planner} {table : TableRef} {rules : List Rule} {present : Present}
  {plan : Plan} {name : String}

/-- **A plan after some of its steps** leaves what the plan alone does. -/
theorem applyTo_foldl_of_prefix (h : planner.plan table rules present = .ok plan)
    {done : List Action} (hdone : done <+: plan.actions) (current : Present) :
    plan.applyTo (done.foldl Action.applyTo current) = plan.applyTo current := by
  refine Present.ext_find? fun name => ?_
  rw [find?_applyTo h, find?_applyTo h current]
  obtain ⟨desired, hdesired, rfl⟩ := exists_desired h
  rw [planDesired_actions] at hdone
  -- What is dropped anyway may be anything, so let the name be one that the plan does not drop.
  by_cases hdrops : planner.drops table rules present name = true
  · rw [if_pos hdrops, if_pos hdrops]
  rw [if_neg hdrops, if_neg hdrops]
  have hnot : name ∉ (planner.removals table desired present).map Action.name :=
    fun hmem => hdrops ((name_mem_removals hdesired).1 hmem)
  rcases List.prefix_or_prefix_of_prefix hdone (List.prefix_append _ _) with hfirst | ⟨more, rfl⟩
  · have hnames : name ∉ done.map Action.name := fun hmem =>
      hnot ((hfirst.map Action.name).subset hmem)
    rw [find?_foldl_drops fun a ha => isAdd_of_mem_removals (hfirst.subset ha), if_neg hnames]
  · have hmore := (List.prefix_append_right_inj _).1 hdone
    rw [List.foldl_append, find?_foldl_adds fun a ha => isAdd_of_mem_additions (hmore.subset ha),
      find?_foldl_drops fun a => isAdd_of_mem_removals, if_neg hnot, Option.or_assoc,
      ← find?_additions hdesired]
    congr 1
    -- An add that has been done already is the first one of its name in the whole plan.
    cases hfound : more.find? fun a => a.name == name with
    | none => rfl
    | some action =>
      rw [hmore.find?_eq_some hfound]
      cases action <;> rfl

/-- **What a plan leaves under a name**, whatever it is carried out on: what it adds is there,
what it only drops is not, and the rest is as it was. -/
theorem applyTo_cases (h : planner.plan table rules present = .ok plan) (current : Present)
    (name : String) :
    (name ∈ plan.adds.map Action.name → (plan.applyTo current).contains name = true) ∧
      (name ∈ plan.drops.map Action.name → name ∉ plan.adds.map Action.name →
        (plan.applyTo current).contains name = false) ∧
      (name ∉ plan.drops.map Action.name → name ∉ plan.adds.map Action.name →
        (plan.applyTo current).find? name = current.find? name) := by
  have hfind := find?_applyTo h current name
  obtain ⟨desired, hdesired, rfl⟩ := exists_desired h
  rw [drops_planDesired, adds_planDesired]
  simp only [Present.contains_eq_isSome, name_mem_removals hdesired, name_mem_additions hdesired]
  rw [hfind, Option.isSome_or, Option.isSome_map]
  refine ⟨fun hadds => ?_, fun hdrops hadds => ?_, fun hdrops hadds => ?_⟩
  · rw [hadds, Bool.or_true]
  · rw [if_pos hdrops, Bool.eq_false_iff.2 hadds]
    rfl
  · have hnone : planner.added? table rules present name = none := by
      rwa [Bool.not_eq_true, Option.isSome_eq_false_iff, Option.isNone_iff_eq_none] at hadds
    rw [if_neg hdrops, hnone, Option.map_none, Option.or_none]

end Planner

namespace Host

variable {planner : Planner}

/-- **A plan can be carried out again.** On every host, whatever its constraints are, a plan of
the planner leaves the same constraints when it is carried out twice, or after only some of its
steps, as when it is carried out once. What it adds is then there, what it drops and does not add
again is not, and all other names and tables are as they were. -/
theorem apply_again {plan : Plan} (made : planner.Makes plan) (host : Host) :
    let once := host.apply plan
    let table := once.tables plan.table
    (once.apply plan).tables = once.tables ∧
      (∀ done, done <+: plan.actions →
        plan.applyTo (done.foldl Action.applyTo (host.tables plan.table)) = table) ∧
      (∀ name ∈ plan.adds.map Action.name, table.contains name = true) ∧
      (∀ name ∈ plan.drops.map Action.name, name ∉ plan.adds.map Action.name →
        table.contains name = false) ∧
      (∀ name, name ∉ plan.drops.map Action.name → name ∉ plan.adds.map Action.name →
        table.find? name = (host.tables plan.table).find? name) ∧
      ∀ other, other ≠ plan.table → once.tables other = host.tables other := by
  obtain ⟨table, rules, present, hplan⟩ := made
  have honce : (host.apply plan).tables plan.table = plan.applyTo (host.tables plan.table) := by
    rw [tables_apply_eq, if_pos rfl]
  intro once found
  have hcases := fun name => Planner.applyTo_cases hplan (host.tables plan.table) name
  rw [← honce] at hcases
  refine ⟨?_, fun done hdone => ?_, fun name hadds => (hcases name).1 hadds,
    fun name hdrops hadds => (hcases name).2.1 hdrops hadds,
    fun name hdrops hadds => (hcases name).2.2 hdrops hadds, fun other hother => ?_⟩
  · funext other
    rw [tables_apply_eq]
    split_ifs with hother
    · rw [hother, honce]
      exact Planner.applyTo_foldl_of_prefix hplan List.prefix_rfl _
    · rfl
  · rw [Planner.applyTo_foldl_of_prefix hplan hdone]
    exact honce.symm
  · rw [tables_apply_eq, if_neg hother]

end Host

end

namespace Host

/-- Loans with a leftover constraint and one that somebody else looks after. -/
def loanDesk : Host :=
  (Host.empty.seed ⟨none, "loans"⟩ "rein_loans_fee_rng" (some "0011")).seed ⟨none, "loans"⟩
    "loans_returned_check" none

/-- A plan that was made when the table had only the leftover constraint drops that and adds the
days of the loan, and does so once more without harm. -/
theorem loanDesk_apply_again : ∃ plan, Planner.postgres.Makes plan ∧
    ((loanDesk.apply plan).apply plan).tables = (loanDesk.apply plan).tables ∧
    ((loanDesk.apply plan).tables plan.table).contains "rein_loans_days_rng" = true ∧
    ((loanDesk.apply plan).tables plan.table).contains "rein_loans_fee_rng" = false ∧
    ((loanDesk.apply plan).tables plan.table).find? "loans_returned_check" =
      (loanDesk.tables plan.table).find? "loans_returned_check" := by
  have hplan : Planner.postgres.plan ⟨none, "loans"⟩ [Planner.loanRule]
      (Present.ofNames ["rein_loans_fee_rng"]) = .ok _ := rfl
  have made : Planner.postgres.Makes _ := ⟨_, _, _, hplan⟩
  obtain ⟨htwice, -, hadded, hdropped, hother, -⟩ := apply_again made loanDesk
  exact ⟨_, made, htwice, hadded _ (by decide +kernel),
    hdropped _ (by decide +kernel) (by decide +kernel),
    hother _ (by decide +kernel) (by decide +kernel)⟩

end Host

end ColumnChecks
