import ColumnChecks.Rule.Json
import ColumnChecks.Rule.Predicate
import ColumnChecks.Proofs.Json.Decimals
import ColumnChecks.Proofs.Rule.Sameness

/-!
# Rules read back from their texts

A rule is written as an object and read member by member. What the reader of a whole text
finds is settled by what it finds in the value that was written, so this file is about
values only, from the inside out:

* numbers, literals and lists of literals, where an integer and a double of the same value
  stay apart (`ColumnChecks.Literal.ofJson?_toJson`);
* conditions and kinds, which the reader looks up by their word, and finds the parameters
  of that word (`ColumnChecks.RuleKind.ofMembers?_members`);
* the members of a rule, each of which fills a part that was empty before
  (`ColumnChecks.RuleSpec.ofDraft_toJson`).

An option that is left out reads back as the default of the reader, which is why the two
sets of defaults have to be the same. Decimals are the one part that may be read as another
(`ColumnChecks.Decimal.ReadsBack`). **A rule that makes sense reads back as the same rule**
if its decimals do, from both forms of its text, and is compiled to the same result
(`ColumnChecks.Rule.parse_print`).
-/

namespace ColumnChecks

open Sql (Comparison Dialect)

/-! ### Numbers and literals -/

theorem fitsInteger_toInt (i : Int64) : JsonNumber.fitsInteger i.toInt = true := by
  rw [JsonNumber.fitsInteger, Bool.and_eq_true, decide_eq_true_eq, decide_eq_true_eq]
  exact ⟨Int64.minValue_le_toInt i, Int64.toInt_le i⟩

/-- An integer reads back as an integer, and a double as a double. -/
theorem Numeric.ofJson?_toJson (n : Numeric) : Numeric.ofJson? n.toJson = some n := by
  cases n with
  | integer i =>
    simp only [Numeric.toJson, Numeric.ofJson?, JsonNumber.toNumeric, fitsInteger_toInt, if_true,
      Int64.ofInt_toInt]
  | decimal d => rfl

theorem integerOfJson?_integerJson (i : Int64) : integerOfJson? (integerJson i) = some i := by
  simp only [integerJson, integerOfJson?, JsonNumber.toInteger?, fitsInteger_toInt, if_true,
    Int64.ofInt_toInt]

theorem Literal.ofJson?_toJson (v : Literal) : Literal.ofJson? v.toJson = some v := by
  cases v with
  | integer i =>
    simp only [Literal.toJson, Literal.ofJson?, JsonNumber.toNumeric, fitsInteger_toInt, if_true,
      Int64.ofInt_toInt, Numeric.toLiteral]
  | _ => rfl

/-- A list reads back when its items do. -/
theorem listOfJson?_map {α : Type} {reader : Json → Option α} {toJson : α → Json} {items : List α}
    (h : ∀ item ∈ items, reader (toJson item) = some item) :
    listOfJson? reader (.array (items.map toJson)) = some items := by
  rw [listOfJson?]
  induction items with
  | nil => rfl
  | cons item items ih =>
    obtain ⟨hitem, hitems⟩ := List.forall_mem_cons.1 h
    rw [List.map_cons, List.mapM_cons, hitem, ih hitems]
    rfl

/-- A value that is no null reads back where null is allowed. -/
theorem nullableOfJson?_some {α : Type} {reader : Json → Option α} {j : Json} {value : α}
    (h : reader j = some value) (hnull : reader .null = none) :
    nullableOfJson? reader j = some (some value) := by
  cases j with
  | null =>
    rw [hnull] at h
    cases h
  | _ => simp only [nullableOfJson?, h, Option.map_some]

/-- An option reads back from the member it has or does not have. -/
theorem withDefault?_option {α : Type} {reader : Json → Option α} {toJson : α → Json}
    (hread : ∀ value, reader (toJson value) = some value) (hnull : reader .null = none)
    {name : String} {members : List (String × Json)} {option : Option α}
    (h : memberOnce? name members = some (option.map toJson)) :
    withDefault? (nullableOfJson? reader) none name members = some option := by
  rw [withDefault?, h]
  cases option with
  | none => rfl
  | some value => exact nullableOfJson?_some (hread value) hnull

/-! ### Conditions -/

theorem comparisonOfWord?_comparisonWord (op : Comparison) :
    comparisonOfWord? (comparisonWord op) = some op := by
  cases op <;> decide

theorem Condition.ofJson?_toJson (c : Condition) : Condition.ofJson? c.toJson = some c := by
  cases c with
  | compare column operator value =>
    have hread : Condition.ofJson? (Condition.compare column operator value).toJson =
        (comparisonOfWord? (comparisonWord operator)).bind fun op =>
          (Literal.ofJson? value.toJson).bind fun v => some (.compare column op v) := rfl
    rw [hread, comparisonOfWord?_comparisonWord, Literal.ofJson?_toJson]
    rfl
  | isIn column values =>
    have hread : Condition.ofJson? (Condition.isIn column values).toJson =
        (listOfJson? Literal.ofJson? (.array (values.map Literal.toJson))).bind fun vs =>
          some (.isIn column vs) := rfl
    rw [hread, listOfJson?_map fun v _ => v.ofJson?_toJson]
    rfl
  | isNull column => rfl
  | isNotNull column => rfl

/-! ### Kinds -/

/-- The members that a kind is read from. -/
def RuleKind.members (kind : RuleKind) : List (String × Json) :=
  ("kind", .text kind.name) :: kind.parameters

/-- A range reads back, with the bounds it has. -/
theorem Range.ofMembers?_members (bounds : Range) :
    RuleKind.ofMembers? (RuleKind.range bounds).members = some (.range bounds) := by
  obtain ⟨min, max, minInclusive, maxInclusive⟩ := bounds
  obtain ⟨members, hmembers⟩ : ∃ members, members =
    (RuleKind.range ⟨min, max, minInclusive, maxInclusive⟩).members := ⟨_, rfl⟩
  have hmin : memberOnce? "min" members = some (min.map Numeric.toJson) := by
    rw [hmembers]
    cases min <;> cases max <;> rfl
  have hmax : memberOnce? "max" members = some (max.map Numeric.toJson) := by
    rw [hmembers]
    cases min <;> cases max <;> rfl
  have hread : RuleKind.ofMembers? members =
      (withDefault? (nullableOfJson? Numeric.ofJson?) none "min" members).bind fun min =>
        (withDefault? (nullableOfJson? Numeric.ofJson?) none "max" members).bind fun max =>
          some (.range ⟨min, max, minInclusive, maxInclusive⟩) := by
    rw [hmembers]
    cases min <;> cases max <;> rfl
  rw [← hmembers, hread, withDefault?_option Numeric.ofJson?_toJson rfl hmin,
    withDefault?_option Numeric.ofJson?_toJson rfl hmax]
  rfl

/-- A length reads back, with the bounds it has. -/
theorem Length.ofMembers?_members (bounds : Length) :
    RuleKind.ofMembers? (RuleKind.length bounds).members = some (.length bounds) := by
  obtain ⟨min, max⟩ := bounds
  obtain ⟨members, hmembers⟩ : ∃ members, members = (RuleKind.length ⟨min, max⟩).members :=
    ⟨_, rfl⟩
  have hmin : memberOnce? "min_length" members = some (min.map integerJson) := by
    rw [hmembers]
    cases min <;> cases max <;> rfl
  have hmax : memberOnce? "max_length" members = some (max.map integerJson) := by
    rw [hmembers]
    cases min <;> cases max <;> rfl
  have hread : RuleKind.ofMembers? members =
      (withDefault? (nullableOfJson? integerOfJson?) none "min_length" members).bind fun min =>
        (withDefault? (nullableOfJson? integerOfJson?) none "max_length" members).bind fun max =>
          some (.length ⟨min, max⟩) := by
    rw [hmembers]
    cases min <;> cases max <;> rfl
  rw [← hmembers, hread, withDefault?_option integerOfJson?_integerJson rfl hmin,
    withDefault?_option integerOfJson?_integerJson rfl hmax]
  rfl

/-- **A kind reads back** from its name and its parameters. -/
theorem RuleKind.ofMembers?_members (kind : RuleKind) :
    RuleKind.ofMembers? kind.members = some kind := by
  cases kind with
  | range bounds => exact bounds.ofMembers?_members
  | parity p => cases p <;> rfl
  | presence t => cases t <;> rfl
  | length bounds => exact bounds.ofMembers?_members
  | inclusion values =>
    have hread : RuleKind.ofMembers? (RuleKind.inclusion values).members =
        (listOfJson? Literal.ofJson? (.array (values.map Literal.toJson))).bind fun vs =>
          some (.inclusion vs) := rfl
    rw [hread, listOfJson?_map fun v _ => v.ofJson?_toJson]
    rfl
  | format f =>
    obtain ⟨pattern, mode, caseInsensitive⟩ := f
    cases mode <;> rfl
  | conditional r =>
    have hread : RuleKind.ofMembers? (RuleKind.conditional r).members =
        (listOfJson? Condition.ofJson? (.array (r.when.map Condition.toJson))).bind fun cs =>
          some (.conditional ⟨cs, r.rejectBlank⟩) := rfl
    rw [hread, listOfJson?_map fun c _ => c.ofJson?_toJson]
    rfl

/-! ### The members of a rule -/

namespace Draft

theorem ofMembers_append (first second : List (String × Json)) :
    ofMembers (first ++ second) = ofMembers first ++ ofMembers second := by
  induction first with
  | nil => rfl
  | cons entry first ih => rw [List.cons_append, ofMembers, ofMembers, ih, List.cons_append]

theorem ofItems_map {α : Type} (toJson : α → Json) (values : List α) :
    ofItems (values.map toJson) = values.map fun value => ofJson (toJson value) := by
  induction values with
  | nil => rfl
  | cons value values ih => rw [List.map_cons, List.map_cons, ofItems, ih]

section Fold

variable {σ : Type} {step : σ → String → Draft → Except JsonError σ}

/-- Members that bring one state to another, whatever follows them. -/
def Steps (step : σ → String → Draft → Except JsonError σ) (start : σ)
    (members : List (String × Json)) (final : σ) : Prop :=
  ∀ rest ending, foldMembers step start (ofMembers members ++ rest) ending =
    foldMembers step final rest ending

theorem Steps.single {start final : σ} {name : String} {value : Json}
    (h : step start name (ofJson value) = .ok final) :
    Steps step start [(name, value)] final := by
  intro rest ending
  simp only [foldMembers, ofMembers, List.cons_append, List.nil_append, List.foldlM_cons, h]
  rfl

theorem Steps.nil (start : σ) : Steps step start [] start := fun _ _ => rfl

theorem Steps.append {start middle final : σ} {first second : List (String × Json)}
    (h : Steps step start first middle) (h' : Steps step middle second final) :
    Steps step start (first ++ second) final := by
  intro rest ending
  rw [ofMembers_append, List.append_assoc, h, h']

theorem Steps.foldMembers_eq {start final : σ} {members : List (String × Json)}
    (h : Steps step start members final) :
    foldMembers step start (ofMembers members) none = .ok final := by
  have hfold := h [] none
  rwa [List.append_nil] at hfold

end Fold

/-- A list of texts is read as it is. -/
theorem list?_texts {depth : Nat} (hdepth : depth ≠ 0) (texts : List String) :
    (ofJson (.array (texts.map .text))).list? depth text? = .ok texts := by
  have hmap : (texts.map fun text => ofJson (.text text)).mapM text? = .ok texts := by
    induction texts with
    | nil => rfl
    | cons text texts ih =>
      rw [List.map_cons, List.mapM_cons, ih]
      rfl
  rw [ofJson, list?, if_neg hdepth, ofItems_map, hmap]
  rfl

end Draft

namespace Json

/-- A text can hold the value, and the value is not nested too deeply. -/
def Fits (depth : Nat) (j : Json) : Prop := j.Written ∧ j.depth ≤ depth

theorem Fits.mono {depth depth' : Nat} {j : Json} (h : j.Fits depth) (hle : depth ≤ depth') :
    j.Fits depth' := ⟨h.1, h.2.trans hle⟩

theorem fits_text (depth : Nat) (s : String) : (Json.text s).Fits depth := ⟨trivial, Nat.zero_le _⟩

theorem fits_bool (depth : Nat) (b : Bool) : (Json.bool b).Fits depth := ⟨trivial, Nat.zero_le _⟩

theorem fits_integer (depth : Nat) (i : Int64) : (integerJson i).Fits depth := by
  refine ⟨⟨?_, ?_⟩, Nat.zero_le _⟩
  · exact Int64.le_toInt i
  · have := Int64.toInt_lt i
    omega

theorem fits_array {depth : Nat} {items : List Json} (h : ∀ item ∈ items, item.Fits depth) :
    (Json.array items).Fits (depth + 1) := by
  refine ⟨writtenItems_iff.2 fun item hitem => (h item hitem).1, ?_⟩
  rw [Json.depth]
  exact Nat.succ_le_succ (depthOfItems_le_iff.2 fun item hitem => (h item hitem).2)

theorem fits_object {depth : Nat} {members : List (String × Json)}
    (h : ∀ entry ∈ members, entry.2.Fits depth) : (Json.object members).Fits (depth + 1) := by
  refine ⟨writtenMembers_iff.2 fun entry hentry => (h entry hentry).1, ?_⟩
  rw [Json.depth]
  exact Nat.succ_le_succ (depthOfMembers_le_iff.2 fun entry hentry => (h entry hentry).2)

end Json

/-! ### What is written of a rule -/

/-- A value that is read back from its text: decimals are where this is not a matter of
course. -/
def Literal.Written : Literal → Prop
  | .decimal d => d.isFinite = true ∧ d.ReadsBack
  | _ => True

theorem Literal.fits_toJson {v : Literal} (h : v.Written) (depth : Nat) : v.toJson.Fits depth := by
  cases v with
  | boolean b => exact Json.fits_bool depth b
  | integer i => exact Json.fits_integer depth i
  | decimal d => exact ⟨h, Nat.zero_le _⟩
  | text s => exact Json.fits_text depth s

theorem Numeric.fits_toJson {n : Numeric} (h : n.toLiteral.Written) (depth : Nat) :
    n.toJson.Fits depth := by
  cases n with
  | integer i => exact Json.fits_integer depth i
  | decimal d => exact ⟨h, Nat.zero_le _⟩

theorem fits_literals {values : List Literal} (h : ∀ v ∈ values, v.Written) :
    (Json.array (values.map Literal.toJson)).Fits 1 := by
  refine Json.fits_array fun item hitem => ?_
  obtain ⟨v, hv, rfl⟩ := List.mem_map.1 hitem
  exact v.fits_toJson (h v hv) 0

theorem Condition.fits_toJson {c : Condition} (h : ∀ v ∈ c.literals, v.Written) :
    c.toJson.Fits 2 := by
  cases c with
  | compare column operator value =>
    have hvalue : value.Written := h value List.mem_cons_self
    refine Json.fits_object ?_
    simp only [List.forall_mem_cons]
    exact ⟨Json.fits_text 1 _, Json.fits_text 1 _, Json.fits_text 1 _, value.fits_toJson hvalue 1,
      fun _ hentry => nomatch hentry⟩
  | isIn column values =>
    refine Json.fits_object ?_
    simp only [List.forall_mem_cons]
    exact ⟨Json.fits_text 1 _, Json.fits_text 1 _, fits_literals h,
      fun _ hentry => nomatch hentry⟩
  | isNull column | isNotNull column =>
    refine Json.fits_object ?_
    simp only [List.forall_mem_cons]
    exact ⟨Json.fits_text 1 _, Json.fits_text 1 _, fun _ hentry => nomatch hentry⟩

/-- The names of the members that belong to every rule. -/
def RuleParts.common : List String := ["target", "allow_null", "allow_blank", "label", "validate"]

/-- A member that is none of those of every rule, and that a text can hold. -/
def RuleParts.Other (entry : String × Json) : Prop :=
  entry.1 ∉ RuleParts.common ∧ entry.2.Fits 3

theorem RuleParts.Other.of {name : String} {value : Json} (hname : name ∉ RuleParts.common)
    (hvalue : value.Fits 3) : RuleParts.Other (name, value) := ⟨hname, hvalue⟩

theorem RuleParts.Other.optional {α : Type} {name : String} {toJson : α → Json}
    {option : Option α} (hname : name ∉ RuleParts.common)
    (h : ∀ value, option = some value → (toJson value).Fits 3) :
    ∀ entry ∈ optionalMember name toJson option, RuleParts.Other entry := by
  cases option with
  | none => exact fun _ hentry => nomatch hentry
  | some value =>
    exact List.forall_mem_cons.2 ⟨.of hname (h value rfl), fun _ hentry => nomatch hentry⟩

/-- **The members of a kind** are none of those of every rule, and a text can hold them. -/
theorem RuleKind.other_members {kind : RuleKind} (h : ∀ v ∈ kind.literals, v.Written) :
    ∀ entry ∈ kind.members, RuleParts.Other entry := by
  refine List.forall_mem_cons.2 ⟨RuleParts.Other.of (by decide) (Json.fits_text 3 _), ?_⟩
  cases kind with
  | range bounds =>
    simp only [RuleKind.parameters, List.forall_mem_append, List.forall_mem_cons]
    refine ⟨⟨?_, ?_⟩, .of (by decide) (Json.fits_bool 3 _),
      .of (by decide) (Json.fits_bool 3 _), fun _ hentry => nomatch hentry⟩
    · exact RuleParts.Other.optional (by decide) fun min hmin =>
        Numeric.fits_toJson (h _ (List.mem_map_of_mem
          (List.mem_append_left _ (Option.mem_toList.2 hmin)))) 3
    · exact RuleParts.Other.optional (by decide) fun max hmax =>
        Numeric.fits_toJson (h _ (List.mem_map_of_mem
          (List.mem_append_right _ (Option.mem_toList.2 hmax)))) 3
  | parity p | presence t =>
    simp only [RuleKind.parameters, List.forall_mem_cons]
    exact ⟨.of (by decide) (Json.fits_text 3 _), fun _ hentry => nomatch hentry⟩
  | length bounds =>
    simp only [RuleKind.parameters, List.forall_mem_append]
    exact ⟨RuleParts.Other.optional (by decide) fun min _ => Json.fits_integer 3 min,
      RuleParts.Other.optional (by decide) fun max _ => Json.fits_integer 3 max⟩
  | inclusion values =>
    simp only [RuleKind.parameters, List.forall_mem_cons]
    exact ⟨.of (by decide) ((fits_literals h).mono (by decide)), fun _ hentry => nomatch hentry⟩
  | format f =>
    simp only [RuleKind.parameters, List.forall_mem_cons]
    exact ⟨.of (by decide) (Json.fits_text 3 _), .of (by decide) (Json.fits_text 3 _),
      .of (by decide) (Json.fits_bool 3 _), fun _ hentry => nomatch hentry⟩
  | conditional r =>
    have hwhen : (Json.array (r.when.map Condition.toJson)).Fits 3 := by
      refine Json.fits_array fun item hitem => ?_
      obtain ⟨c, hc, rfl⟩ := List.mem_map.1 hitem
      exact c.fits_toJson fun v hv => h v (List.mem_flatMap.2 ⟨c, hc, hv⟩)
    simp only [RuleKind.parameters, List.forall_mem_cons]
    exact ⟨.of (by decide) hwhen, .of (by decide) (Json.fits_bool 3 _),
      fun _ hentry => nomatch hentry⟩

/-! ### Whole rules -/

/-- The members of a rule, in the order in which they are written. -/
def RuleSpec.members (spec : RuleSpec) : List (String × Json) :=
  [("target", .array (spec.target.map .text))] ++ spec.kind.members
    ++ [("allow_null", .bool spec.allowNull), ("allow_blank", .bool spec.allowBlank)]
    ++ optionalMember "label" .text spec.label ++ [("validate", .bool spec.validate)]

theorem RuleSpec.toJson_eq (spec : RuleSpec) : spec.toJson = .object spec.members := rfl

namespace RuleParts

open Draft (Steps ofJson ofMembers)

/-- A member that is none of those of every rule is kept as it is. -/
theorem step_other {depth : Nat} {entry : String × Json} (h : Other entry) (hdepth : 3 ≤ depth)
    (parts : RuleParts) :
    step depth parts entry.1 (ofJson entry.2) =
      .ok { parts with others := parts.others ++ [entry] } := by
  obtain ⟨name, value⟩ := entry
  obtain ⟨hname, hfits⟩ := h
  simp only [common, List.mem_cons, List.not_mem_nil, or_false, not_or] at hname
  obtain ⟨htarget, hnull, hblank, hlabel, hvalidate⟩ := hname
  rw [step, if_neg htarget, if_neg hnull, if_neg hblank, if_neg hlabel, if_neg hvalidate,
    Draft.strict_ofJson value (hfits.2.trans hdepth)]
  rfl

theorem steps_others {depth : Nat} (hdepth : 3 ≤ depth) {members : List (String × Json)}
    (h : ∀ entry ∈ members, Other entry) (parts : RuleParts) :
    Steps (step depth) parts members { parts with others := parts.others ++ members } := by
  induction members generalizing parts with
  | nil =>
    rw [List.append_nil]
    exact .nil parts
  | cons entry members ih =>
    obtain ⟨hentry, hmembers⟩ := List.forall_mem_cons.1 h
    have hrest := ih hmembers { parts with others := parts.others ++ [entry] }
    simp only [List.append_assoc, List.singleton_append] at hrest
    exact (Steps.single (step_other hentry hdepth parts)).append hrest

/-- The parts that the members of a rule fill. -/
def ofSpec (spec : RuleSpec) : RuleParts where
  target := some spec.target
  allowNull := some spec.allowNull
  allowBlank := some spec.allowBlank
  label := spec.label.map some
  validate := some spec.validate
  others := spec.kind.members

/-- **The members of a rule fill its parts**, each of them once. -/
theorem steps_ofSpec {depth : Nat} (hdepth : 3 ≤ depth) {spec : RuleSpec}
    (h : ∀ v ∈ spec.kind.literals, v.Written) :
    Steps (step depth) {} spec.members (ofSpec spec) := by
  have htarget : step depth {} "target" (ofJson (.array (spec.target.map .text))) =
      .ok { target := some spec.target } := by
    rw [step, if_pos rfl, Draft.list?_texts (by omega)]
    rfl
  have hnull : ∀ parts : RuleParts, parts.allowNull = none →
      Steps (step depth) parts [("allow_null", .bool spec.allowNull)]
        { parts with allowNull := some spec.allowNull } := by
    rintro ⟨target, allowNull, allowBlank, label, validate, others⟩ ⟨⟩
    exact .single rfl
  have hblank : ∀ parts : RuleParts, parts.allowBlank = none →
      Steps (step depth) parts [("allow_blank", .bool spec.allowBlank)]
        { parts with allowBlank := some spec.allowBlank } := by
    rintro ⟨target, allowNull, allowBlank, label, validate, others⟩ ⟨⟩
    exact .single rfl
  have hlabel : ∀ parts : RuleParts, parts.label = none →
      Steps (step depth) parts (optionalMember "label" .text spec.label)
        { parts with label := spec.label.map some } := by
    rintro ⟨target, allowNull, allowBlank, label, validate, others⟩ ⟨⟩
    cases spec.label with
    | none => exact .nil _
    | some label => exact .single rfl
  have hkind := (Steps.single htarget).append
    (steps_others hdepth (RuleKind.other_members h) { target := some spec.target })
  have hoptions := hkind.append ((hnull _ rfl).append (hblank _ rfl))
  exact (hoptions.append (hlabel _ rfl)).append (.single rfl)

/-- The parts of a rule make up the rule. -/
theorem toSpec_ofSpec (spec : RuleSpec) : (ofSpec spec).toSpec = .ok spec := by
  obtain ⟨target, kind, allowNull, allowBlank, label, validate⟩ := spec
  rw [toSpec, ofSpec, RuleKind.ofMembers?_members]
  cases label <;> rfl

end RuleParts

namespace RuleSpec

/-- **A rule is read** from its own object. -/
theorem ofDraft_toJson {depth : Nat} (hdepth : 4 ≤ depth) {spec : RuleSpec}
    (h : ∀ v ∈ spec.kind.literals, v.Written) :
    RuleSpec.ofDraft depth (.ofJson spec.toJson) = .ok spec := by
  have hsteps := RuleParts.steps_ofSpec (Nat.le_sub_one_of_lt hdepth) h
  rw [toJson_eq, Draft.ofJson, ofDraft, if_neg (by omega), hsteps.foldMembers_eq]
  exact RuleParts.toSpec_ofSpec spec

theorem written_toJson {spec : RuleSpec} (h : ∀ v ∈ spec.kind.literals, v.Written) :
    spec.toJson.Written := by
  have htarget : (Json.array (spec.target.map .text)).Fits 3 := by
    refine Json.fits_array fun item hitem => ?_
    obtain ⟨column, -, rfl⟩ := List.mem_map.1 hitem
    exact Json.fits_text 2 column
  have hlabel : ∀ entry ∈ optionalMember "label" Json.text spec.label, entry.2.Fits 3 := by
    cases spec.label with
    | none => exact fun _ hentry => nomatch hentry
    | some label =>
      exact List.forall_mem_cons.2 ⟨Json.fits_text 3 label, fun _ hentry => nomatch hentry⟩
  have hmembers : ∀ entry ∈ spec.members, entry.2.Fits 3 := by
    simp only [members, List.forall_mem_append, List.forall_mem_cons]
    exact ⟨⟨⟨⟨⟨htarget, fun _ hentry => nomatch hentry⟩,
      fun entry hentry => (RuleKind.other_members h entry hentry).2⟩, Json.fits_bool 3 _,
      Json.fits_bool 3 _, fun _ hentry => nomatch hentry⟩, hlabel⟩, Json.fits_bool 3 _,
      fun _ hentry => nomatch hentry⟩
  exact (Json.fits_object hmembers).1

/-- **A rule reads back as the same rule** from its compact text. -/
theorem parse_toJson_print {spec : RuleSpec} (h : ∀ v ∈ spec.kind.literals, v.Written) :
    RuleSpec.parse spec.toJson.print = .ok spec := by
  rw [RuleSpec.parse, Draft.parse_eq (Draft.read_print (written_toJson h)),
    ofDraft_toJson (by decide) h]

/-- **A rule reads back as the same rule** from its wide text, however far in it stands. -/
theorem parse_toJson_printWide {spec : RuleSpec} (h : ∀ v ∈ spec.kind.literals, v.Written)
    (indent : Nat) : RuleSpec.parse (spec.toJson.printWide indent) = .ok spec := by
  rw [RuleSpec.parse, Draft.parse_eq (Draft.read_printWide (written_toJson h) indent),
    ofDraft_toJson (by decide) h]

end RuleSpec

/-! ### Rules that make sense -/

section

variable [Pattern.SizeTest]

/-- The values of a rule are read back if its decimals are. -/
theorem Rule.written_literals {rule : Rule}
    (h : ∀ d, .decimal d ∈ rule.spec.kind.literals → d.ReadsBack) :
    ∀ v ∈ rule.spec.kind.literals, v.Written := by
  intro v hv
  cases v with
  | decimal d => exact ⟨RuleKind.isFinite_literals rule.kind_finite _ hv, h d hv⟩
  | boolean | integer | text => trivial

/-- A rule that makes sense is built again from what it was built from. -/
theorem RuleSpec.build_spec (rule : Rule) : rule.spec.build = .ok rule := by
  unfold build
  split
  · next fault hfault =>
    rw [rule.valid] at hfault
    cases hfault
  · rfl

/-- **A rule that makes sense reads back as the same rule**, from both forms of its text, if
every decimal that it mentions reads back by itself. What is read makes sense again, equals
the rule, and is compiled to the same text or to the same refusal in every dialect. -/
theorem Rule.parse_print (rule : Rule) (indent : Nat)
    (h : ∀ d, .decimal d ∈ rule.spec.kind.literals → d.ReadsBack) :
    ∃ (spec : RuleSpec) (read : Rule),
      RuleSpec.parse rule.spec.toJson.print = .ok spec ∧
      RuleSpec.parse (rule.spec.toJson.printWide indent) = .ok spec ∧
      spec.build = .ok read ∧ rule.same read = true ∧
      ∀ dialect : Dialect, read.compile dialect = rule.compile dialect :=
  ⟨rule.spec, rule, RuleSpec.parse_toJson_print (Rule.written_literals h),
    RuleSpec.parse_toJson_printWide (Rule.written_literals h) indent, RuleSpec.build_spec rule,
    rule.same_self, fun _ => rfl⟩

end

/-- Minus two and a half, and forty and a quarter. -/
def coldest : Decimal := .number true ⟨1024 * 2 ^ 52 + 2 ^ 50, by decide⟩

@[inherit_doc coldest]
def hottest : Decimal := .number false ⟨1028 * 2 ^ 52 + 33 * 2 ^ 45, by decide⟩

/-- Extreme temperatures are signed by whoever has read them. -/
def thermometer : Rule where
  spec := RuleSpec.of (.conditional
    { when := [.compare "outdoors" .lt (.decimal coldest),
        .isIn "indoors" [.decimal .negativeZero, .decimal hottest],
        .compare "unit" .eq (.text "°C")]
      rejectBlank := true }) ["read by"]
  valid := by decide

/-- The rule reads back, and so do its decimals. -/
theorem thermometer_parse_print :
    (∀ d, .decimal d ∈ thermometer.spec.kind.literals → d.ReadsBack) ∧
      ∃ (spec : RuleSpec) (read : Rule),
        RuleSpec.parse thermometer.spec.toJson.print = .ok spec ∧
        RuleSpec.parse (thermometer.spec.toJson.printWide 2) = .ok spec ∧
        spec.build = .ok read ∧ thermometer.same read = true ∧
        ∀ dialect : Dialect, read.compile dialect = thermometer.compile dialect := by
  have hcold : coldest.ReadsBack := Decimal.readsBack_of_short (s := ⟨25, -1⟩) true (by decide)
    (by decide) (by decide +kernel) (by decide) (by decide)
  have hhot : hottest.ReadsBack := Decimal.readsBack_of_short (s := ⟨4025, -2⟩) false (by decide)
    (by decide) (by decide +kernel) (by decide) (by decide)
  have hreads : ∀ d, .decimal d ∈ thermometer.spec.kind.literals → d.ReadsBack := by
    intro d hd
    have hd : d = coldest ∨ d = .negativeZero ∨ d = hottest := by
      simpa [thermometer, RuleSpec.of, RuleKind.literals, Condition.literals, Condition.values?]
        using hd
    rcases hd with rfl | rfl | rfl
    · exact hcold
    · exact Decimal.readsBack_signedZero true
    · exact hhot
  exact ⟨hreads, thermometer.parse_print 2 hreads⟩

end ColumnChecks
