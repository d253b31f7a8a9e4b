import Mathlib.Data.List.Basic
import ColumnChecks.Json.Violation

/-!
# What a schema accepts

The violations of a value are told with the way to where they are. Whether there are any does not
depend on the way that led to the value (`ColumnChecks.Schema.violations_eq_nil_iff`), so each
keyword of a schema says something about the value alone, which is spelled out here.
-/

namespace ColumnChecks

namespace Schema

/-! ### The way does not matter -/

/-- A test that is passed is no violation. -/
theorem expect_eq_nil_iff {ok : Bool} {path : List PathStep} {value : Json} {mismatch : Mismatch} :
    expect ok path value mismatch = [] ↔ ok = true := by
  cases ok <;> simp [expect]

/-- One fitting alternative is neither too few nor too many. -/
theorem exactlyOne_eq_nil_iff {fitting : Nat} {path : List PathStep} {value : Json} :
    exactlyOne fitting path value = [] ↔ fitting = 1 := by
  rcases fitting with _ | _ | n <;> simp [exactlyOne]

/-- A record without alternatives of its own asks for none of them. -/
theorem alternatives_eq_nil_iff {alternatives : List Schema} {path : List PathStep}
    {value : Json} :
    (if alternatives.isEmpty then [] else exactlyOne (fitting value alternatives) path value) =
      [] ↔ alternatives = [] ∨ fitting value alternatives = 1 := by
  split_ifs with hnone
  · exact iff_of_true rfl (Or.inl (List.isEmpty_iff.1 hnone))
  · rw [exactlyOne_eq_nil_iff, or_iff_right fun hnil => hnone (List.isEmpty_iff.2 hnil)]

/-- An object misses nothing that it needs. -/
theorem missingMembers_eq_nil_iff {required : List String} {path : List PathStep}
    {members : List (String × Json)} :
    missingMembers required path (.object members) = [] ↔
      ∀ name ∈ required, (Json.member? name members).isSome = true := by
  simp only [missingMembers, List.flatMap_eq_nil_iff, expect_eq_nil_iff]

/-- What holds of the items holds of them with the way to each. -/
theorem forall_mem_itemsFrom {P : Json → Prop} {path : List PathStep} {items : List Json}
    (index : Nat) : (∀ entry ∈ itemsFrom path index items, P entry.2) ↔ ∀ item ∈ items, P item := by
  induction items generalizing index with
  | nil => exact iff_of_true (List.forall_mem_nil _) (List.forall_mem_nil _)
  | cons item items ih => rw [itemsFrom, List.forall_mem_cons, List.forall_mem_cons, ih]

/-- Only an array has items to look at. -/
theorem forall_mem_itemsOf {P : Json → Prop} {path : List PathStep} {value : Json} :
    (∀ entry ∈ itemsOf path value, P entry.2) ↔
      ∀ items, value = .array items → ∀ item ∈ items, P item := by
  cases value with
  | array found =>
    refine (forall_mem_itemsFrom 0).trans ⟨fun h items heq => ?_, fun h => h found rfl⟩
    rwa [← Json.array.inj heq]
  | _ => exact iff_of_true (List.forall_mem_nil _) (fun _ heq => nomatch heq)

mutual

/-- **Whether a value fits a schema** does not depend on the way that led to the value. -/
theorem violations_eq_nil_iff (path : List PathStep) (value : Json) :
    ∀ schema : Schema, schema.violations path value = [] ↔ schema.accepts value = true
  | .reference name target => violations_eq_nil_iff path value target
  | .typed types format => by
    rw [accepts, List.isEmpty_iff, violations, violations, expect_eq_nil_iff, expect_eq_nil_iff]
  | .enumerated words => by
    simp only [accepts, List.isEmpty_iff, violations, List.append_eq_nil_iff, expect_eq_nil_iff]
  | .list items => by
    have hitems : ∀ path, (itemsOf path value).flatMap
        (fun entry => items.violations entry.1 entry.2) = [] ↔
          ∀ found, value = .array found → ∀ item ∈ found, items.accepts item = true := by
      intro path
      simp only [List.flatMap_eq_nil_iff, violations_eq_nil_iff _ _ items]
      exact forall_mem_itemsOf (P := fun item => items.accepts item = true)
    simp only [accepts, List.isEmpty_iff, violations, List.append_eq_nil_iff, expect_eq_nil_iff,
      hitems]
  | .record alternatives required properties => by
    have hrequired : missingMembers required path value = [] ↔
        missingMembers required [] value = [] := by
      cases value with
      | object members => rw [missingMembers_eq_nil_iff, missingMembers_eq_nil_iff]
      | _ => exact Iff.rfl
    rw [accepts, List.isEmpty_iff, violations, violations]
    simp only [List.append_eq_nil_iff, expect_eq_nil_iff, alternatives_eq_nil_iff, hrequired,
      memberViolations_eq_nil_iff path value properties]
  | .every parts => by
    rw [accepts, List.isEmpty_iff, violations, violations, allViolations_eq_nil_iff path]
  | .choice alternatives => by
    rw [accepts, List.isEmpty_iff, violations, violations, expect_eq_nil_iff, expect_eq_nil_iff]
  | .one alternatives => by
    rw [accepts, List.isEmpty_iff, violations, violations, exactlyOne_eq_nil_iff,
      exactlyOne_eq_nil_iff]
  | .described text schema => violations_eq_nil_iff path value schema
  | .withDefault default schema => violations_eq_nil_iff path value schema

/-- The same for several schemas that a value has to fit. -/
theorem allViolations_eq_nil_iff (path : List PathStep) (value : Json) :
    ∀ parts : List Schema, allViolations path value parts = [] ↔ allViolations [] value parts = []
  | [] => Iff.rfl
  | part :: parts => by
    rw [allViolations, allViolations, List.append_eq_nil_iff, List.append_eq_nil_iff,
      violations_eq_nil_iff path value part, violations_eq_nil_iff [] value part,
      allViolations_eq_nil_iff path value parts]

/-- The same for the schemas of its members. -/
theorem memberViolations_eq_nil_iff (path : List PathStep) (value : Json) :
    ∀ properties : List (String × Schema),
      memberViolations path value properties = [] ↔ memberViolations [] value properties = []
  | [] => Iff.rfl
  | (name, schema) :: properties => by
    rw [memberViolations, memberViolations, List.append_eq_nil_iff, List.append_eq_nil_iff,
      memberViolations_eq_nil_iff path value properties]
    cases memberOf? name value with
    | none => exact Iff.rfl
    | some found =>
      exact and_congr_left' ((violations_eq_nil_iff _ found schema).trans
        (violations_eq_nil_iff _ found schema).symm)

end

/-! ### What the keywords say -/

section Keywords

variable {value : Json}

/-- To accept is to find no violation, seen from the value itself. -/
theorem accepts_iff {schema : Schema} :
    schema.accepts value = true ↔ schema.violations [] value = [] := List.isEmpty_iff

/-- A reference stands for its target. -/
theorem accepts_reference (name : String) (target : Schema) :
    (reference name target).accepts value = target.accepts value := rfl

/-- Descriptions are for readers. -/
theorem accepts_described (text : String) (schema : Schema) :
    (described text schema).accepts value = schema.accepts value := rfl

/-- So are defaults, which say what a reader takes for a member that is missing. -/
theorem accepts_withDefault (default : Json) (schema : Schema) :
    (withDefault default schema).accepts value = schema.accepts value := rfl

/-- **One of some words.** -/
theorem accepts_enumerated {words : List String} :
    (enumerated words).accepts value = true ↔ ∃ word ∈ words, value = .text word := by
  rw [accepts_iff, violations, List.append_eq_nil_iff, expect_eq_nil_iff, expect_eq_nil_iff]
  cases value with
  | text word => simp [isWord, JsonType.holds]
  | _ => simp [isWord]

/-- **An array**, all of whose items are accepted. -/
theorem accepts_list {items : Schema} :
    (list items).accepts value = true ↔
      ∃ found, value = .array found ∧ ∀ item ∈ found, items.accepts item = true := by
  rw [accepts_iff, violations, List.append_eq_nil_iff, List.flatMap_eq_nil_iff, expect_eq_nil_iff]
  simp only [violations_eq_nil_iff]
  rw [forall_mem_itemsOf (P := fun item => items.accepts item = true)]
  cases value with
  | array found =>
    exact ⟨fun h => ⟨found, rfl, h.1 found rfl⟩,
      fun ⟨found', heq, h⟩ => ⟨fun _ heq' => Json.array.inj (heq.symm.trans heq') ▸ h, rfl⟩⟩
  | _ => exact ⟨fun h => (nomatch h.2), fun ⟨_, heq, _⟩ => (nomatch heq)⟩

/-- The alternatives that a value fits are counted. -/
theorem fitting_eq_countP (value : Json) (alternatives : List Schema) :
    fitting value alternatives = alternatives.countP (·.accepts value) := by
  induction alternatives with
  | nil => rfl
  | cons schema alternatives ih =>
    rw [fitting, ih, List.countP_cons, Nat.add_comm]
    rfl

/-- A value that fits exactly one alternative fits one. -/
theorem exists_accepts_of_countP {alternatives : List Schema}
    (h : alternatives.countP (·.accepts value) = 1) :
    ∃ schema ∈ alternatives, schema.accepts value = true :=
  List.countP_pos_iff.1 (Nat.lt_of_lt_of_eq Nat.zero_lt_one h.symm)

/-- **Exactly one** of the alternatives accepts the value. -/
theorem accepts_one {alternatives : List Schema} :
    (one alternatives).accepts value = true ↔ alternatives.countP (·.accepts value) = 1 := by
  rw [accepts_iff, violations, exactlyOne_eq_nil_iff, fitting_eq_countP]

/-- **All parts** accept the value. -/
theorem accepts_every {parts : List Schema} :
    (every parts).accepts value = true ↔ ∀ part ∈ parts, part.accepts value = true := by
  rw [accepts_iff, violations]
  induction parts with
  | nil => exact iff_of_true rfl (List.forall_mem_nil _)
  | cons part parts ih =>
    rw [allViolations, List.append_eq_nil_iff, List.forall_mem_cons, ih, accepts_iff]

/-- The members that an object has are looked at one by one, and those that it does not have are
not missed here. -/
theorem memberViolations_object_eq_nil_iff {members : List (String × Json)}
    {properties : List (String × Schema)} :
    memberViolations [] (.object members) properties = [] ↔ ∀ property ∈ properties, ∀ found,
      Json.member? property.1 members = some found → property.2.accepts found = true := by
  induction properties with
  | nil => exact iff_of_true rfl (List.forall_mem_nil _)
  | cons property properties ih =>
    obtain ⟨name, schema⟩ := property
    rw [memberViolations, List.append_eq_nil_iff, List.forall_mem_cons, ih]
    refine and_congr_left' ?_
    rw [show memberOf? name (.object members) = Json.member? name members from rfl]
    cases Json.member? name members with
    | none => exact iff_of_true rfl (by rintro - ⟨⟩)
    | some found =>
      refine (violations_eq_nil_iff _ found schema).trans ⟨?_, fun h => h found rfl⟩
      rintro h part ⟨⟩
      exact h

/-- **An object with alternatives**: one of them accepts the object as a whole, what it has is
accepted member by member, and it has what it needs. -/
theorem accepts_record {alternatives : List Schema} {required : List String}
    {properties : List (String × Schema)} :
    (record alternatives required properties).accepts value = true ↔ ∃ members,
      value = .object members ∧
      (alternatives = [] ∨ alternatives.countP (·.accepts (.object members)) = 1) ∧
      (∀ property ∈ properties, ∀ found,
        Json.member? property.1 members = some found → property.2.accepts found = true) ∧
      ∀ name ∈ required, (Json.member? name members).isSome = true := by
  rw [accepts_iff, violations, List.append_eq_nil_iff, List.append_eq_nil_iff,
    List.append_eq_nil_iff, expect_eq_nil_iff]
  cases value with
  | object members =>
    rw [alternatives_eq_nil_iff, memberViolations_object_eq_nil_iff, missingMembers_eq_nil_iff,
      fitting_eq_countP]
    constructor
    · rintro ⟨⟨⟨halternatives, hproperties⟩, hrequired⟩, -⟩
      exact ⟨members, rfl, halternatives, hproperties, hrequired⟩
    · rintro ⟨members', heq, halternatives, hproperties, hrequired⟩
      obtain rfl := Json.object.inj heq
      exact ⟨⟨⟨halternatives, hproperties⟩, hrequired⟩, rfl⟩
  | _ => exact ⟨fun h => (nomatch h.2), fun ⟨_, heq, _⟩ => (nomatch heq)⟩

/-- **An object without alternatives.** -/
theorem accepts_members {required : List String} {properties : List (String × Schema)} :
    (members required properties).accepts value = true ↔ ∃ found, value = .object found ∧
      (∀ property ∈ properties, ∀ part,
        Json.member? property.1 found = some part → property.2.accepts part = true) ∧
      ∀ name ∈ required, (Json.member? name found).isSome = true := by
  rw [members, accepts_record]
  simp only [true_or, true_and]

end Keywords

end Schema

end ColumnChecks
