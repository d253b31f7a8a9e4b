import Mathlib.Data.List.Induction
import ColumnChecks.Proofs.Results
import ColumnChecks.Proofs.Json.Canonical
import ColumnChecks.Proofs.Rule.RoundTrip

/-!
# Members by their names

A rule is read member by member, in the order in which they stand. **What is read is what one finds
by looking the members up by their names** (`ColumnChecks.RuleParts.foldMembers_eq_ok_iff`), each of
them to be there once or not at all; the order makes no difference. Where no two members have one
name, that is the member of that name (`ColumnChecks.exists_required?_iff`,
`ColumnChecks.exists_withDefault?_iff`).
-/

namespace ColumnChecks

/-! ### Looking up -/

section Lookup

variable {α : Type} {reader : Json → Option α} {name : String} {members : List (String × Json)}

/-- Where no two members have one name, the member of a name is there at most once. -/
theorem memberOnce?_eq (hnames : (members.map Prod.fst).Nodup) :
    memberOnce? name members = some (Json.member? name members) := by
  have hfilter : members.filter (fun entry => entry.1 == name) =
      ((Json.member? name members).map fun value => (name, value)).toList := by
    induction members with
    | nil => rfl
    | cons entry members ih =>
      rw [List.map_cons, List.nodup_cons] at hnames
      rw [List.filter_cons, Json.member?_cons]
      by_cases hname : entry.1 = name
      · have hnone : members.filter (fun entry => entry.1 == name) = [] := by
          refine List.filter_eq_nil_iff.2 fun other hother heq => hnames.1 ?_
          rw [hname, ← beq_iff_eq.1 heq]
          exact List.mem_map_of_mem hother
        rw [if_pos (beq_iff_eq.2 hname), if_pos hname, hnone, ← hname]
        rfl
      · rw [if_neg (mt beq_iff_eq.1 hname), if_neg hname, ih hnames.2]
  rw [memberOnce?, hfilter]
  cases Json.member? name members <;> rfl

theorem required?_eq (hnames : (members.map Prod.fst).Nodup) :
    required? reader name members = (Json.member? name members).bind reader := by
  rw [required?, memberOnce?_eq hnames]
  cases Json.member? name members <;> rfl

theorem exists_required?_iff (hnames : (members.map Prod.fst).Nodup) :
    (∃ found, required? reader name members = some found) ↔
      ∃ value, Json.member? name members = some value ∧ ∃ found, reader value = some found := by
  simp only [required?_eq hnames, Option.bind_eq_some_iff]
  constructor
  · rintro ⟨found, value, hvalue, h⟩
    exact ⟨value, hvalue, found, h⟩
  · rintro ⟨value, hvalue, found, h⟩
    exact ⟨found, value, hvalue, h⟩

theorem exists_withDefault?_iff {default : α} (hnames : (members.map Prod.fst).Nodup) :
    (∃ found, withDefault? reader default name members = some found) ↔
      ∀ value, Json.member? name members = some value → ∃ found, reader value = some found := by
  rw [withDefault?, memberOnce?_eq hnames]
  cases Json.member? name members with
  | none => exact iff_of_true ⟨default, rfl⟩ (by rintro - ⟨⟩)
  | some value => exact ⟨fun h _ heq => Option.some.inj heq ▸ h, fun h => h value rfl⟩

end Lookup

/-! ### Folding -/

namespace Draft

/-- A list is read just if each of its items is. -/
theorem exists_list?_iff {α : Type} {reader : Draft → Except JsonError α} {depth : Nat}
    (hdepth : depth ≠ 0) {items : List Json} :
    (∃ found, list? depth reader (ofJson (.array items)) = .ok found) ↔
      ∀ item ∈ items, ∃ a, reader (ofJson item) = .ok a := by
  have hitems : ofItems items = items.map ofJson := by
    have hmap := ofItems_map id items
    rwa [List.map_id] at hmap
  rw [ofJson, list?, if_neg hdepth, hitems, ← exists_mapM_eq_ok_iff]
  simp only [List.mapM_map, bind_eq_ok_iff]
  constructor
  · rintro ⟨-, found, h, -⟩
    exact ⟨found, h⟩
  · rintro ⟨found, h⟩
    exact ⟨found, found, h, rfl⟩

section Lookup

variable {α : Type} {reader : Draft → Except JsonError α} {name other : String}
  {members : List (String × Json)}

/-- The part that a member of a name gives, if there is such a member. -/
def lookup? (reader : Draft → Except JsonError α) (name : String)
    (members : List (String × Json)) : Option (Option α) :=
  withDefault? (fun value => (reader (ofJson value)).toOption.map some) none name members

/-- What a member does to the part of a name: a member of that name sets the part, which must not
be set yet, and any other leaves it. -/
def Sets (reader : Draft → Except JsonError α) (name other : String) (value : Draft)
    (before after : Option α) : Prop :=
  if other = name then once before (reader value) = .ok after else before = after

theorem lookup?_concat_iff {value : Json} {part : Option α} :
    lookup? reader name (members ++ [(other, value)]) = some part ↔ ∃ before,
      lookup? reader name members = some before ∧
        Sets reader name other (ofJson value) before part := by
  by_cases hname : other = name
  · subst hname
    have hlast : [(other, value)].filter (fun entry => entry.1 == other) = [(other, value)] := by
      simp
    simp only [lookup?, withDefault?, memberOnce?, List.filter_append, hlast, Sets, if_true]
    generalize members.filter (fun entry => entry.1 == other) = found
    -- There may be no member of that name before, or one, or more.
    rcases found with _ | ⟨entry, _ | ⟨second, found⟩⟩
    · show Option.map some (reader (ofJson value)).toOption = some part ↔
        ∃ before, some none = some before ∧ once before (reader (ofJson value)) = .ok part
      cases reader (ofJson value) <;> simp [once, Except.toOption, bind, Except.bind]
    · show none = some part ↔ ∃ before,
        Option.map some (reader (ofJson entry.2)).toOption = some before ∧
          once before (reader (ofJson value)) = .ok part
      refine iff_of_false (by rintro ⟨⟩) ?_
      rintro ⟨before, hbefore, h⟩
      obtain ⟨first, -, rfl⟩ := Option.map_eq_some_iff.1 hbefore
      cases h
    · exact iff_of_false (by rintro ⟨⟩) (by rintro ⟨-, ⟨⟩, -⟩)
  · have hlast : [(other, value)].filter (fun entry => entry.1 == name) = [] := by simpa
    rw [lookup?, withDefault?, memberOnce?, List.filter_append, hlast, List.append_nil]
    simp only [Sets, hname, if_false, exists_eq_right]
    exact Iff.rfl

/-- Where no two members have one name, there is a part just if the member of the name, if there is
one, is read. -/
theorem exists_lookup?_iff (hnames : (members.map Prod.fst).Nodup) :
    (∃ part, lookup? reader name members = some part) ↔ ∀ value,
      Json.member? name members = some value → ∃ found, reader (ofJson value) = .ok found := by
  refine (exists_withDefault?_iff hnames).trans (forall₂_congr fun value _ => ?_)
  cases reader (ofJson value) <;> simp [Except.toOption]

/-- Where no two members have one name, a part is set just if there is a member of the name, and it
is read. -/
theorem exists_lookup?_some_iff (hnames : (members.map Prod.fst).Nodup) :
    (∃ found, lookup? reader name members = some (some found)) ↔ ∃ value,
      Json.member? name members = some value ∧ ∃ found, reader (ofJson value) = .ok found := by
  rw [lookup?, withDefault?, memberOnce?_eq hnames]
  cases Json.member? name members with
  | none => exact iff_of_false (by rintro ⟨-, ⟨⟩⟩) (by rintro ⟨-, ⟨⟩, -⟩)
  | some value =>
    show (∃ found, Option.map some (reader (ofJson value)).toOption = some (some found)) ↔ _
    cases hread : reader (ofJson value) <;> simp [Except.toOption, hread]

end Lookup

theorem need_eq_ok_iff {α : Type} {part : Option α} {value : α} :
    need part = .ok value ↔ part = some value := by
  cases part <;> simp [need]

/-- One more member is read after those before. -/
theorem foldMembers_concat {σ : Type} {step : σ → String → Draft → Except JsonError σ}
    {start : σ} (members : List (String × Json)) (name : String) (value : Json) :
    foldMembers step start (ofMembers (members ++ [(name, value)])) none =
      foldMembers step start (ofMembers members) none >>= fun s => step s name (ofJson value) := by
  rw [foldMembers, foldMembers, ofMembers_append, List.foldlM_append, bind_assoc, bind_assoc]
  refine bind_congr fun s => ?_
  show ((step s name (ofJson value) >>= pure : Except JsonError σ) >>= fun final => .ok final) =
    step s name (ofJson value)
  cases step s name (ofJson value) <;> rfl

end Draft

namespace RuleParts

open Draft (lookup? Sets foldMembers ofMembers ofJson)

/-- The members that are not those of every rule. -/
def otherMembers (members : List (String × Json)) : List (String × Json) :=
  members.filter fun entry => entry.1 ∉ common

theorem member?_otherMembers {name : String} (members : List (String × Json))
    (hname : name ∉ common) :
    Json.member? name (otherMembers members) = Json.member? name members := by
  induction members with
  | nil => rfl
  | cons entry members ih =>
    rw [Json.member?_cons, otherMembers, List.filter_cons]
    by_cases hentry : entry.1 ∈ common
    · have hne : entry.1 ≠ name := fun heq => hname (heq ▸ hentry)
      rw [if_neg (by simpa), if_neg hne]
      exact ih
    · rw [if_pos (by simpa), Json.member?_cons]
      exact if_congr Iff.rfl rfl ih

theorem distinct_otherMembers {members : List (String × Json)}
    (h : (Json.object members).Distinct) : (Json.object (otherMembers members)).Distinct :=
  .object (h.nodup.sublist (List.filter_sublist.map _)) fun entry hentry =>
    h.of_mem_object entry (List.mem_of_mem_filter hentry)

theorem otherMembers_concat (members : List (String × Json)) (name : String) (value : Json) :
    otherMembers (members ++ [(name, value)]) =
      if name ∈ common then otherMembers members else otherMembers members ++ [(name, value)] := by
  rw [otherMembers, List.filter_append]
  by_cases h : name ∈ common <;> simp [h, otherMembers]

/-- **One member** sets the part of its name, or is kept if it is none of those of every rule. -/
theorem step_eq_ok_iff {depth : Nat} {before after : RuleParts} {name : String} {value : Json}
    (hdepth : value.depth ≤ depth) :
    step depth before name (ofJson value) = .ok after ↔
      Sets (Draft.list? depth Draft.text?) "target" name (ofJson value) before.target after.target ∧
      Sets Draft.bool? "allow_null" name (ofJson value) before.allowNull after.allowNull ∧
      Sets Draft.bool? "allow_blank" name (ofJson value) before.allowBlank after.allowBlank ∧
      Sets (Draft.nullable? Draft.text?) "label" name (ofJson value) before.label after.label ∧
      Sets Draft.bool? "validate" name (ofJson value) before.validate after.validate ∧
      (if name ∈ common then before.others else before.others ++ [(name, value)]) =
        after.others := by
  obtain ⟨target, allowNull, allowBlank, label, validate, others⟩ := before
  obtain ⟨target', allowNull', allowBlank', label', validate', others'⟩ := after
  -- A member of every rule sets one part and leaves the others, each in its own branch.
  by_cases hcommon : name ∈ common
  · have hname := hcommon
    simp only [common, List.mem_cons, List.not_mem_nil, or_false] at hname
    rcases hname with rfl | rfl | rfl | rfl | rfl
    all_goals
      simp only [step, Sets, hcommon, if_true, String.reduceEq, if_false, bind_eq_ok_iff,
        Except.ok.injEq, RuleParts.mk.injEq]
      grind
  · have hname := hcommon
    simp only [common, List.mem_cons, List.not_mem_nil, or_false, not_or] at hname
    obtain ⟨htarget, hnull, hblank, hlabel, hvalidate⟩ := hname
    simp only [step, Sets, hcommon, htarget, hnull, hblank, hlabel, hvalidate, if_false,
      Draft.strict_ofJson value hdepth, bind_eq_ok_iff, Except.ok.injEq, RuleParts.mk.injEq,
      exists_eq_left']

/-- **The parts of a rule** are what is found by looking its members up by their names. -/
theorem foldMembers_eq_ok_iff {depth : Nat} {members : List (String × Json)} {parts : RuleParts}
    (hdepth : ∀ entry ∈ members, entry.2.depth ≤ depth) :
    foldMembers (step depth) {} (ofMembers members) none = .ok parts ↔
      lookup? (Draft.list? depth Draft.text?) "target" members = some parts.target ∧
      lookup? Draft.bool? "allow_null" members = some parts.allowNull ∧
      lookup? Draft.bool? "allow_blank" members = some parts.allowBlank ∧
      lookup? (Draft.nullable? Draft.text?) "label" members = some parts.label ∧
      lookup? Draft.bool? "validate" members = some parts.validate ∧
      otherMembers members = parts.others := by
  -- From the last member back: what was read before it is what is found among those before it.
  induction members using List.reverseRecOn generalizing parts with
  | nil =>
    obtain ⟨target, allowNull, allowBlank, label, validate, others⟩ := parts
    show Except.ok _ = Except.ok _ ↔ some none = some _ ∧ some none = some _ ∧ some none = some _ ∧
      some none = some _ ∧ some none = some _ ∧ [] = _
    simp only [Except.ok.injEq, Option.some.injEq, RuleParts.mk.injEq]
  | append_singleton members entry ih =>
    obtain ⟨name, value⟩ := entry
    obtain ⟨hmembers, hvalue⟩ := List.forall_mem_append.1 hdepth
    simp only [Draft.foldMembers_concat, bind_eq_ok_iff, ih hmembers, Draft.lookup?_concat_iff,
      step_eq_ok_iff (hvalue (name, value) List.mem_cons_self), otherMembers_concat]
    constructor
    · rintro ⟨before, ⟨h₁, h₂, h₃, h₄, h₅, h₆⟩, h₁', h₂', h₃', h₄', h₅', h₆'⟩
      exact ⟨⟨_, h₁, h₁'⟩, ⟨_, h₂, h₂'⟩, ⟨_, h₃, h₃'⟩, ⟨_, h₄, h₄'⟩, ⟨_, h₅, h₅'⟩, h₆ ▸ h₆'⟩
    · rintro ⟨⟨_, h₁, h₁'⟩, ⟨_, h₂, h₂'⟩, ⟨_, h₃, h₃'⟩, ⟨_, h₄, h₄'⟩, ⟨_, h₅, h₅'⟩, h₆⟩
      exact ⟨⟨_, _, _, _, _, otherMembers members⟩, ⟨h₁, h₂, h₃, h₄, h₅, rfl⟩, h₁', h₂', h₃', h₄',
        h₅', h₆⟩

/-- Parts make up a rule just if there is a target and the other members make up a kind. -/
theorem exists_toSpec_iff {parts : RuleParts} :
    (∃ spec, parts.toSpec = .ok spec) ↔ (∃ target, parts.target = some target) ∧
      ∃ kind, RuleKind.ofMembers? parts.others = some kind := by
  simp only [toSpec, bind_eq_ok_iff, Draft.need_eq_ok_iff]
  constructor
  · rintro ⟨-, target, htarget, kind, hkind, -⟩
    exact ⟨⟨target, htarget⟩, kind, hkind⟩
  · rintro ⟨⟨target, htarget⟩, kind, hkind⟩
    exact ⟨_, target, htarget, kind, hkind, rfl⟩

end RuleParts

/-- **A rule is read** just if its members are, each by itself, a target among them, and those that
are not members of every rule make up a kind. -/
theorem RuleSpec.exists_ofDraft_iff {depth : Nat} {members : List (String × Json)}
    (hnames : (members.map Prod.fst).Nodup) (hdepth : ∀ entry ∈ members, entry.2.depth ≤ depth) :
    (∃ spec, RuleSpec.ofDraft (depth + 1) (.ofJson (.object members)) = .ok spec) ↔
      (∃ value, Json.member? "target" members = some value ∧
        ∃ found, Draft.list? depth Draft.text? (.ofJson value) = .ok found) ∧
      (∀ name ∈ ["allow_null", "allow_blank", "validate"], ∀ value,
        Json.member? name members = some value → ∃ found, Draft.bool? (.ofJson value) = .ok found) ∧
      (∀ value, Json.member? "label" members = some value →
        ∃ found, Draft.nullable? Draft.text? (.ofJson value) = .ok found) ∧
      ∃ kind, RuleKind.ofMembers? (RuleParts.otherMembers members) = some kind := by
  rw [Draft.ofJson, RuleSpec.ofDraft, if_neg (Nat.succ_ne_zero depth)]
  simp only [bind_eq_ok_iff, Nat.add_sub_cancel, RuleParts.foldMembers_eq_ok_iff hdepth,
    List.forall_mem_cons, ← Draft.exists_lookup?_iff hnames,
    ← Draft.exists_lookup?_some_iff hnames]
  constructor
  · rintro ⟨spec, parts, ⟨htarget, hnull, hblank, hlabel, hvalidate, hothers⟩, hspec⟩
    obtain ⟨⟨target, hparts⟩, hkind⟩ := RuleParts.exists_toSpec_iff.1 ⟨spec, hspec⟩
    rw [hothers]
    exact ⟨⟨target, hparts ▸ htarget⟩,
      ⟨⟨_, hnull⟩, ⟨_, hblank⟩, ⟨_, hvalidate⟩, List.forall_mem_nil _⟩, ⟨_, hlabel⟩, hkind⟩
  · rintro ⟨⟨target, htarget⟩, ⟨⟨allowNull, hnull⟩, ⟨allowBlank, hblank⟩, ⟨validate, hvalidate⟩, -⟩,
      ⟨label, hlabel⟩, hkind⟩
    let parts : RuleParts :=
      ⟨some target, allowNull, allowBlank, label, validate, RuleParts.otherMembers members⟩
    have hparts : parts.target = some target := rfl
    obtain ⟨spec, hspec⟩ := RuleParts.exists_toSpec_iff.2 ⟨⟨target, hparts⟩, hkind⟩
    exact ⟨spec, parts, ⟨htarget, hnull, hblank, hlabel, hvalidate, rfl⟩, hspec⟩

end ColumnChecks
