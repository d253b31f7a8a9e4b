import Mathlib.Tactic.Common
import ColumnChecks.Plan.Host

/-!
# Steps and what they do to each name

A set of constraints is known by what it holds under each name
(`ColumnChecks.Present.find?`). One step of a plan acts on one name. A run of
drops takes away the names that it mentions and leaves the others alone
(`ColumnChecks.find?_foldl_drops`); a run of adds never changes a name that is
taken, and gives a free one the fingerprint of the first step that mentions it
(`ColumnChecks.find?_foldl_adds`).
-/

namespace ColumnChecks

namespace Present

variable {name : String}

/-- What is put in is found under its name, and nothing else changes. -/
theorem find?_insert (present : Present) (name other : String) (fingerprint : Option String) :
    (present.insert name fingerprint).find? other =
      if name = other then some fingerprint else present.find? other := by
  simp only [find?, insert, Std.ExtTreeMap.getElem?_insert, Std.LawfulEqCmp.compare_eq_iff_eq]

/-- What is taken out is gone, and nothing else changes. -/
theorem find?_erase (present : Present) (name other : String) :
    (present.erase name).find? other = if name = other then none else present.find? other := by
  simp only [find?, erase, Std.ExtTreeMap.getElem?_erase, Std.LawfulEqCmp.compare_eq_iff_eq]

theorem contains_eq_isSome (present : Present) (name : String) :
    present.contains name = (present.find? name).isSome :=
  Std.ExtTreeMap.contains_eq_isSome_getElem?

/-- The names of a table are those that something is found under. -/
theorem mem_names {present : Present} : name ∈ present.names ↔ present.find? name ≠ none := by
  rw [names, Std.ExtTreeMap.mem_keys, Std.ExtTreeMap.mem_iff_isSome_getElem?,
    Option.isSome_iff_ne_none]
  rfl

end Present

/-! ### One step -/

@[simp] theorem Action.name_add (name statement fingerprint : String) :
    (Action.add name statement fingerprint).name = name := rfl

@[simp] theorem Action.name_drop (name statement : String) :
    (Action.drop name statement).name = name := rfl

/-- **An addition** puts its fingerprint under a free name, and does nothing to one that is held. -/
theorem find?_applyTo_add (present : Present) (name statement fingerprint other : String) :
    ((Action.add name statement fingerprint).applyTo present).find? other =
      (present.find? other).or (if name = other then some (some fingerprint) else none) := by
  rw [Action.applyTo, Present.contains_eq_isSome]
  by_cases hname : name = other
  · subst hname
    cases hp : present.find? name with
    | none => simp [Present.find?_insert]
    | some f => simp [hp]
  · split_ifs with htaken
    · rw [Option.or_none]
    · rw [Present.find?_insert, if_neg hname, Option.or_none]

/-- **A removal** frees its name. -/
theorem find?_applyTo_drop (present : Present) (name statement other : String) :
    ((Action.drop name statement).applyTo present).find? other =
      if name = other then none else present.find? other :=
  Present.find?_erase present name other

/-! ### Runs of steps -/

/-- **A run of drops** takes away just the names that it mentions. -/
theorem find?_foldl_drops {actions : List Action} (h : ∀ a ∈ actions, a.isAdd = false)
    (present : Present) (name : String) :
    (actions.foldl Action.applyTo present).find? name =
      if name ∈ actions.map Action.name then none else present.find? name := by
  induction actions generalizing present with
  | nil => rfl
  | cons action actions ih =>
    rw [List.foldl_cons, ih fun a ha => h a (List.mem_cons_of_mem _ ha)]
    cases action with
    | add other statement fingerprint =>
      exact absurd (h _ List.mem_cons_self) (by simp [Action.isAdd])
    | drop other statement =>
      rw [find?_applyTo_drop]
      by_cases hother : other = name
      · simp [hother]
      · simp [hother, Ne.symm hother]

/-- **A run of adds** keeps what is there and fills what is free. -/
theorem find?_foldl_adds {actions : List Action} (h : ∀ a ∈ actions, a.isAdd = true)
    (present : Present) (name : String) :
    (actions.foldl Action.applyTo present).find? name =
      (present.find? name).or
        ((actions.find? fun a => a.name == name).map Action.fingerprint?) := by
  induction actions generalizing present with
  | nil => exact (Option.or_none).symm
  | cons action actions ih =>
    rw [List.foldl_cons, ih fun a ha => h a (List.mem_cons_of_mem _ ha)]
    cases action with
    | drop other statement =>
      exact absurd (h _ List.mem_cons_self) (by simp [Action.isAdd])
    | add other statement fingerprint =>
      rw [find?_applyTo_add, Option.or_assoc, List.find?_cons]
      by_cases hother : other = name
      · simp [hother, Action.fingerprint?]
      · simp [beq_eq_false_iff_ne.2 hother, hother]

end ColumnChecks
