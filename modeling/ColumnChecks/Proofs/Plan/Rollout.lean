import ColumnChecks.Proofs.Plan.Runs

/-!
# Several clients migrate one table

A migration is two steps: a client reads the constraints of the table and plans, and
later carries its plan out. Between the two, other clients may do the same, so that the
plan of a client can be older than the constraints it is carried out on. A **rollout**
(`ColumnChecks.Rollout`) is any number of clients that migrate one table to the same
rules; which client goes on is a list of clients in any order.

As long as no client has carried a plan out, all plans are that of the first moment.
The first one that is carried out brings the table to its rules, and from then on there
is nothing left to change: a plan of the first moment has the same effect once more
(`ColumnChecks.Planner.applyTo_applyTo`), and a later one is empty. These two states,
`ColumnChecks.Rollout.Fresh` and `ColumnChecks.Rollout.Settled`, are the invariant; a
step leads from the first to either of them and never leaves the second.
-/

namespace ColumnChecks

open Sql (TableRef)

/-! ### Plans that are carried out twice -/

/-- Sets of constraints are equal if they hold the same under every name. -/
theorem Present.ext_find? {present other : Present}
    (h : ∀ name, present.find? name = other.find? name) : present = other := by
  cases present
  cases other
  rw [Present.mk.injEq]
  exact Std.ExtTreeMap.ext_getElem? fun name => h name

section

variable [Pattern.SizeTest]

/-- **Carrying a plan out twice** leaves what carrying it out once does, whatever it is
carried out on. -/
theorem Planner.applyTo_applyTo {planner : Planner} {table : TableRef} {rules : List Rule}
    {present : Present} {plan : Plan} (h : planner.plan table rules present = .ok plan)
    (current : Present) : plan.applyTo (plan.applyTo current) = plan.applyTo current := by
  refine Present.ext_find? fun name => ?_
  rw [find?_applyTo h, find?_applyTo h current]
  cases planner.drops table rules present name with
  | true => rfl
  | false =>
    simp only [Bool.false_eq_true, if_false]
    rw [Option.or_assoc]
    cases planner.added? table rules present name <;> rfl

/-- A plan without steps changes nothing. -/
theorem Plan.applyTo_of_isEmpty {plan : Plan} (h : plan.isEmpty = true) (current : Present) :
    plan.applyTo current = current := by
  rw [applyTo, List.isEmpty_iff.1 h, List.foldl_nil]

/-- What a host has after a plan, empty or not. -/
theorem Host.tables_apply_unless_empty {host : Host} {table : TableRef} {plan : Plan}
    (htable : plan.table = table) :
    (if plan.isEmpty then host else host.apply plan).tables table =
      plan.applyTo (host.tables table) := by
  subst htable
  split_ifs with hempty
  · rw [Plan.applyTo_of_isEmpty hempty]
  · rw [tables_apply_eq, if_pos rfl]

/-! ### Rollouts -/

/-- How far a client has come. -/
inductive Phase where
  | idle
  /-- The client has read the constraints and has a plan for them. -/
  | planned (plan : Plan)
  | done

/-- A host on which clients migrate a table, each of them at its own pace. -/
structure Rollout (Client : Type) where
  host : Host
  phase : Client → Phase

namespace Rollout

variable {Client : Type}

/-- No client has begun. -/
def start (host : Host) : Rollout Client := ⟨host, fun _ => .idle⟩

variable [DecidableEq Client]

/-- A client comes to another phase, and the host is what it leaves. -/
def move (rollout : Rollout Client) (client : Client) (host : Host) (phase : Phase) :
    Rollout Client :=
  ⟨host, fun other => if other = client then phase else rollout.phase other⟩

/-- A client goes on. It is done as well if its rules cannot be planned for. -/
def advance (planner : Planner) (table : TableRef) (rules : List Rule)
    (rollout : Rollout Client) (client : Client) : Rollout Client :=
  match rollout.phase client with
  | .idle =>
    match rollout.host.plan planner table rules with
    | .ok plan => rollout.move client rollout.host (.planned plan)
    | .error _ => rollout.move client rollout.host .done
  | .planned plan =>
    rollout.move client (if plan.isEmpty then rollout.host else rollout.host.apply plan) .done
  | .done => rollout

/-- Clients go on, one after the other. -/
def run (planner : Planner) (table : TableRef) (rules : List Rule) (rollout : Rollout Client)
    (clients : List Client) : Rollout Client :=
  clients.foldl (advance planner table rules) rollout

variable {planner : Planner} {table : TableRef} {rules : List Rule} {host : Host}
  {first plan : Plan} {rollout : Rollout Client} {client other : Client} {phase : Phase}

@[simp] theorem host_move : (rollout.move client host phase).host = host := rfl

@[simp] theorem phase_move_self : (rollout.move client host phase).phase client = phase :=
  if_pos rfl

/-- Who holds a plan after a move had it before or is the one who moved. -/
theorem planned_of_move (h : (rollout.move client host phase).phase other = .planned plan) :
    phase = .planned plan ∨ rollout.phase other = .planned plan := by
  rw [move] at h
  simp only at h
  split_ifs at h
  · exact Or.inl h
  · exact Or.inr h

/-- Beginning leaves the host alone. -/
theorem advance_idle (hphase : rollout.phase client = .idle)
    (hplan : rollout.host.plan planner table rules = .ok plan) :
    rollout.advance planner table rules client =
      rollout.move client rollout.host (.planned plan) := by
  simp only [advance, hphase, hplan]

theorem advance_planned (hphase : rollout.phase client = .planned plan) :
    rollout.advance planner table rules client =
      rollout.move client (if plan.isEmpty then rollout.host else rollout.host.apply plan)
        .done := by
  simp only [advance, hphase]

theorem advance_done (hphase : rollout.phase client = .done) :
    rollout.advance planner table rules client = rollout := by
  simp only [advance, hphase]

theorem run_cons (rollout : Rollout Client) (client : Client) (clients : List Client) :
    rollout.run planner table rules (client :: clients) =
      (rollout.advance planner table rules client).run planner table rules clients := rfl

/-- **A client that is left alone migrates the table.** -/
theorem host_run_pair (host : Host) (client : Client) :
    ((start host).run planner table rules [client, client]).host =
      (host.migrate planner table rules).2 := by
  rw [Host.migrate_eq, run_cons, run_cons]
  have hidle : (start host).phase client = .idle := rfl
  cases hplan : host.plan planner table rules with
  | ok plan =>
    rw [advance_idle hidle hplan, advance_planned phase_move_self]
    rfl
  | error error =>
    have hfailed : (start host).advance planner table rules client =
        (start host).move client host .done := by
      simp only [advance, start, hplan]
    rw [hfailed, advance_done phase_move_self]
    rfl

/-! ### The invariant -/

/-- **Before any plan is carried out**: the host is as it was at first, and every plan
is for that. -/
structure Fresh (host : Host) (first : Plan) (rollout : Rollout Client) : Prop where
  host_eq : rollout.host = host
  ne_done : ∀ client, rollout.phase client ≠ .done
  eq_first : ∀ client plan, rollout.phase client = .planned plan → plan = first

/-- **Once a plan has been carried out**: the table has certain constraints, and no plan
that a client holds would change them. -/
structure Settled (table : TableRef) (present : Present) (rollout : Rollout Client) : Prop where
  exists_done : ∃ client, rollout.phase client = .done
  tables_eq : rollout.host.tables table = present
  keeps : ∀ client plan, rollout.phase client = .planned plan →
    plan.table = table ∧ plan.applyTo present = present

omit [DecidableEq Client] in
theorem fresh_start (host : Host) (first : Plan) :
    Fresh host first (start host : Rollout Client) :=
  ⟨rfl, fun _ => nofun, fun _ _ => nofun⟩

/-- A client that begins does not disturb a fresh rollout. -/
theorem Fresh.advance_idle (h : host.plan planner table rules = .ok first)
    (hfresh : Fresh host first rollout) (hphase : rollout.phase client = .idle) :
    Fresh host first (rollout.advance planner table rules client) := by
  obtain ⟨rfl, hdone, hfirst⟩ := hfresh
  rw [Rollout.advance_idle hphase h]
  refine ⟨rfl, fun other hother => ?_, fun other plan hplan => ?_⟩
  · rw [move] at hother
    simp only at hother
    split_ifs at hother
    exact hdone other hother
  · rcases planned_of_move hplan with hplan | hplan
    · exact (Phase.planned.inj hplan).symm
    · exact hfirst other plan hplan

/-- The first plan that is carried out settles the rollout. -/
theorem Fresh.advance_planned (h : host.plan planner table rules = .ok first)
    (hfresh : Fresh host first rollout) (hphase : rollout.phase client = .planned plan) :
    Settled table (first.applyTo (host.tables table))
      (rollout.advance planner table rules client) := by
  obtain ⟨rfl, -, hfirst⟩ := hfresh
  obtain rfl := hfirst client plan hphase
  rw [Rollout.advance_planned hphase]
  refine ⟨⟨client, phase_move_self⟩, Host.tables_apply_unless_empty (Host.plan_table h),
    fun other plan' hplan => ?_⟩
  rcases planned_of_move hplan with hplan | hplan
  · cases hplan
  · obtain rfl := hfirst other plan' hplan
    exact ⟨Host.plan_table h, Planner.applyTo_applyTo h _⟩

/-- **Nothing unsettles a rollout.** A client that begins now finds nothing to do. -/
theorem Settled.advance (h : host.plan planner table rules = .ok first)
    (hsettled : Settled table (first.applyTo (host.tables table)) rollout) (client : Client) :
    Settled table (first.applyTo (host.tables table))
      (rollout.advance planner table rules client) := by
  obtain ⟨⟨finished, hfinished⟩, htables, hkeeps⟩ := hsettled
  cases hphase : rollout.phase client with
  | done =>
    rw [advance_done hphase]
    exact ⟨⟨finished, hfinished⟩, htables, hkeeps⟩
  | planned plan =>
    obtain ⟨htable, hkeep⟩ := hkeeps client plan hphase
    rw [Rollout.advance_planned hphase]
    refine ⟨⟨client, phase_move_self⟩, ?_, fun other plan' hplan => ?_⟩
    · rw [host_move, Host.tables_apply_unless_empty htable, htables, hkeep]
    · rcases planned_of_move hplan with hplan | hplan
      · cases hplan
      · exact hkeeps other plan' hplan
  | idle =>
    obtain ⟨again, hagain⟩ := Planner.exists_plan h (rollout.host.tables table)
    rw [Rollout.advance_idle hphase hagain]
    refine ⟨⟨finished, ?_⟩, htables, fun other plan hplan => ?_⟩
    · have hne : finished ≠ client := by
        rintro rfl
        rw [hphase] at hfinished
        cases hfinished
      rw [move]
      simp only [if_neg hne, hfinished]
    · rcases planned_of_move hplan with hplan | hplan
      · obtain rfl := Phase.planned.inj hplan
        -- What is planned for a table that has been migrated is empty.
        have hplan' : rollout.host.plan planner table rules = .ok again := hagain
        have htable : again.table = table := Host.plan_table hplan'
        rw [htables] at hagain
        have hempty : again.isEmpty = true :=
          List.isEmpty_iff.2 (Planner.actions_of_applyTo h hagain)
        exact ⟨htable, Plan.applyTo_of_isEmpty hempty _⟩
      · exact hkeeps other plan hplan

/-! ### Whole rollouts -/

theorem Settled.run (h : host.plan planner table rules = .ok first)
    (hsettled : Settled table (first.applyTo (host.tables table)) rollout)
    (clients : List Client) :
    Settled table (first.applyTo (host.tables table))
      (rollout.run planner table rules clients) := by
  induction clients generalizing rollout with
  | nil => exact hsettled
  | cons client clients ih => exact ih (hsettled.advance h client)

theorem Fresh.run (h : host.plan planner table rules = .ok first)
    (hfresh : Fresh host first rollout) (clients : List Client) :
    Fresh host first (rollout.run planner table rules clients) ∨
      Settled table (first.applyTo (host.tables table))
        (rollout.run planner table rules clients) := by
  induction clients generalizing rollout with
  | nil => exact Or.inl hfresh
  | cons client clients ih =>
    cases hphase : rollout.phase client with
    | idle => exact ih (hfresh.advance_idle h hphase)
    -- From here on the rollout is settled, and stays so.
    | planned plan => exact Or.inr ((hfresh.advance_planned h hphase).run h clients)
    | done => exact absurd hphase (hfresh.ne_done client)

/-- **The order of the clients does not matter.** As long as no client has carried a
plan out, the host is as it was at first and every plan is the one for that; and as
soon as a client carries a plan out, whichever that is, the table has the constraints
of a single migration, and keeps them whatever the clients do after that. -/
theorem run_converges (h : host.plan planner table rules = .ok first) (before : List Client) :
    let now := (start host).run planner table rules before
    ((∀ client, now.phase client ≠ .done) →
      now.host = host ∧ ∀ client plan, now.phase client = .planned plan → plan = first) ∧
    ∀ client plan, now.phase client = .planned plan → ∀ after,
      (now.run planner table rules (client :: after)).host.tables table =
        (host.migrate planner table rules).2.tables table := by
  intro now
  have hmigrated : (host.migrate planner table rules).2.tables table =
      first.applyTo (host.tables table) := by
    rw [Host.migrate_eq, h]
    exact Host.tables_apply_unless_empty (Host.plan_table h)
  have hstart : Fresh host first (start host : Rollout Client) := fresh_start host first
  have hnow := hstart.run h before
  refine ⟨fun hdone => ?_, fun client plan hphase after => ?_⟩
  · rcases hnow with hfresh | hsettled
    · exact ⟨hfresh.host_eq, hfresh.eq_first⟩
    · obtain ⟨client, hclient⟩ := hsettled.exists_done
      exact absurd hclient (hdone client)
  · rw [hmigrated, run_cons]
    rcases hnow with hfresh | hsettled
    · exact ((hfresh.advance_planned h hphase).run h after).tables_eq
    · exact ((hsettled.advance h client).run h after).tables_eq

end Rollout

end

namespace Rollout

/-- Two clients plan for the same shelf. When the first one has carried its plan out,
the second one has a plan that is stale, and does no harm with it. -/
theorem shelf_rollout : ∃ first,
    Host.shelf.plan .postgres ⟨none, "books"⟩ [Host.monthRule] = .ok first ∧
      ((start Host.shelf).run .postgres ⟨none, "books"⟩ [Host.monthRule] [true, false]).phase
        true = .planned first ∧
      (((start Host.shelf).run .postgres ⟨none, "books"⟩ [Host.monthRule] [true, false]).run
          .postgres ⟨none, "books"⟩ [Host.monthRule] [true, false]).host.tables ⟨none, "books"⟩ =
        (Host.shelf.migrate .postgres ⟨none, "books"⟩ [Host.monthRule]).2.tables
          ⟨none, "books"⟩ := by
  have hplan : Host.shelf.plan .postgres ⟨none, "books"⟩ [Host.monthRule] = .ok _ := rfl
  have hphase : ((start Host.shelf).run .postgres ⟨none, "books"⟩ [Host.monthRule]
      [true, false]).phase true = .planned _ := rfl
  exact ⟨_, hplan, hphase, (run_converges hplan [true, false]).2 true _ hphase [false]⟩

end Rollout

end ColumnChecks
