import Mathlib.Data.List.Forall2

/-!
# Results that are there

A computation that may fail is opened from its end: **if there is a result, every part
that it needs gave one** (`ColumnChecks.exists_of_bind_eq_ok`). For a loop that reads a
list this is one result for each item (`ColumnChecks.forall₂_of_mapM_eq_ok`). An error
comes from one of the parts (`ColumnChecks.bind_eq_error`,
`ColumnChecks.exists_of_mapM_eq_error`), and a loop that carries something along fails at an
item that everything before it has led up to (`ColumnChecks.foldlM_eq_error_iff`).
-/

namespace ColumnChecks

variable {ε α β : Type}

/-- A computation with a result has results of all its steps. -/
theorem exists_of_bind_eq_ok {x : Except ε α} {f : α → Except ε β} {b : β}
    (h : x >>= f = .ok b) : ∃ a, x = .ok a ∧ f a = .ok b := by
  cases x with
  | error e => cases h
  | ok a => exact ⟨a, rfl, h⟩

/-- There is a result just if every part that it needs gives one. -/
theorem bind_eq_ok_iff {x : Except ε α} {f : α → Except ε β} {b : β} :
    x >>= f = .ok b ↔ ∃ a, x = .ok a ∧ f a = .ok b := by
  refine ⟨exists_of_bind_eq_ok, ?_⟩
  rintro ⟨a, rfl, h⟩
  exact h

theorem toOption_eq_some_iff {x : Except ε α} {a : α} : x.toOption = some a ↔ x = .ok a := by
  cases x with
  | error e => exact ⟨nofun, nofun⟩
  | ok b => exact ⟨fun h => congrArg Except.ok (Option.some.inj h), fun h => by cases h; rfl⟩

/-- A loop with a result has one for each of its items. -/
theorem forall₂_of_mapM_eq_ok {f : α → Except ε β} {as : List α} {bs : List β}
    (h : as.mapM f = .ok bs) : List.Forall₂ (fun a b => f a = .ok b) as bs := by
  induction as generalizing bs with
  | nil =>
    rw [List.mapM_nil] at h
    cases h
    exact .nil
  | cons a as ih =>
    rw [List.mapM_cons] at h
    obtain ⟨b, ha, h⟩ := exists_of_bind_eq_ok h
    obtain ⟨bs, has, h⟩ := exists_of_bind_eq_ok h
    cases h
    exact .cons ha (ih has)

/-- A list is read just if each of its items is. -/
theorem exists_mapM_eq_ok_iff {f : α → Except ε β} {as : List α} :
    (∃ bs, as.mapM f = .ok bs) ↔ ∀ a ∈ as, ∃ b, f a = .ok b := by
  induction as with
  | nil => exact iff_of_true ⟨[], rfl⟩ (List.forall_mem_nil _)
  | cons a as ih =>
    rw [List.forall_mem_cons, ← ih]
    simp only [List.mapM_cons, bind_eq_ok_iff]
    constructor
    · rintro ⟨-, b, ha, bs, has, -⟩
      exact ⟨⟨b, ha⟩, bs, has⟩
    · rintro ⟨⟨b, ha⟩, bs, has⟩
      exact ⟨b :: bs, b, ha, bs, has, rfl⟩

/-- A computation that fails does so in one of its steps. -/
theorem bind_eq_error {x : Except ε α} {f : α → Except ε β} {e : ε}
    (h : x >>= f = .error e) : x = .error e ∨ ∃ a, x = .ok a ∧ f a = .error e := by
  cases x with
  | error e' =>
    cases h
    exact Or.inl rfl
  | ok a => exact Or.inr ⟨a, rfl, h⟩

/-- A loop that fails does so at one of its items. -/
theorem exists_of_mapM_eq_error {f : α → Except ε β} {as : List α} {e : ε}
    (h : as.mapM f = .error e) : ∃ a ∈ as, f a = .error e := by
  induction as with
  | nil => cases h
  | cons a as ih =>
    rw [List.mapM_cons] at h
    rcases bind_eq_error h with ha | ⟨b, -, h⟩
    · exact ⟨a, List.mem_cons_self, ha⟩
    · rcases bind_eq_error h with has | ⟨bs, -, h⟩
      · obtain ⟨a', hmem, ha'⟩ := ih has
        exact ⟨a', List.mem_cons_of_mem _ hmem, ha'⟩
      · cases h

/-- **A loop fails at one item**, with what it has gathered from the items before. -/
theorem foldlM_eq_error_iff {f : β → α → Except ε β} {as : List α} {start : β} {e : ε} :
    as.foldlM f start = .error e ↔ ∃ before a behind gathered, as = before ++ a :: behind ∧
      before.foldlM f start = .ok gathered ∧ f gathered a = .error e := by
  constructor
  · intro h
    induction as generalizing start with
    | nil => cases h
    | cons a as ih =>
      rw [List.foldlM_cons] at h
      rcases bind_eq_error h with ha | ⟨next, hnext, h⟩
      · exact ⟨[], a, as, start, rfl, rfl, ha⟩
      · obtain ⟨before, a', behind, gathered, rfl, hbefore, ha'⟩ := ih h
        refine ⟨a :: before, a', behind, gathered, rfl, ?_, ha'⟩
        rw [List.foldlM_cons, hnext]
        exact hbefore
  · rintro ⟨before, a, behind, gathered, rfl, hbefore, ha⟩
    rw [List.foldlM_append, hbefore]
    show List.foldlM f gathered (a :: behind) = .error e
    rw [List.foldlM_cons, ha]
    rfl

end ColumnChecks
