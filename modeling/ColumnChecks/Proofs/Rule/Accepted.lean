import ColumnChecks.Document.Schema
import ColumnChecks.Proofs.Json.Schema
import ColumnChecks.Proofs.Rule.Members

/-!
# Rules whose shape is accepted

The schema of a rule says what its members look like, and the reader of rules looks for them by
their names. The two agree, kind by kind and condition by condition, but for one thing: a schema
calls a number an integer when it has no fraction, however it is written and however large it is,
and a length is read as a 64-bit integer. **A rule of an accepted shape is read just if it limits no
length by another number** (`ColumnChecks.RuleSpec.exists_ofDraft_iff_of_accepts`).
-/

namespace ColumnChecks

open Schema DocumentSchema

/-! ### Values -/

section Values

variable {value : Json}

/-- A text is read. -/
theorem exists_text_of_accepts (h : (ofType .text).accepts value = true) :
    ∃ s, textOfJson? value = some s := by
  cases value with
  | text s => exact ⟨s, rfl⟩
  | _ => exact nomatch h

/-- A flag is read. -/
theorem exists_flag_of_accepts (default : Bool) (h : (flag default).accepts value = true) :
    ∃ b, boolOfJson? value = some b := by
  cases value with
  | bool b => exact ⟨b, rfl⟩
  | _ => exact nomatch h

/-- A value is read from every form that the schema has for it. -/
theorem exists_literal_of_accepts (h : literalRef.accepts value = true) :
    ∃ v, Literal.ofJson? value = some v := by
  cases value with
  | bool b => exact ⟨_, rfl⟩
  | number n => exact ⟨_, rfl⟩
  | text s => exact ⟨_, rfl⟩
  | _ => exact nomatch h

/-- A bound may be missing. -/
theorem exists_bound_of_accepts (h : bound.accepts value = true) :
    ∃ n, nullableOfJson? Numeric.ofJson? value = some n := by
  cases value with
  | null => exact ⟨_, rfl⟩
  | number n => exact ⟨_, rfl⟩
  | _ => exact nomatch h

/-- The words for comparisons are those of the schema. -/
theorem exists_comparison_of_accepts
    (h : (reference "CompareOp" comparison).accepts value = true) :
    ∃ op, variantOfJson? comparisonOfWord? value = some op := by
  obtain ⟨word, hword, rfl⟩ := accepts_enumerated.1 h
  simp only [List.mem_cons, List.not_mem_nil, or_false] at hword
  rcases hword with rfl | rfl | rfl | rfl | rfl | rfl <;> exact ⟨_, rfl⟩

/-- So are the words for even and odd. -/
theorem exists_parity_of_accepts (h : (reference "Parity" parity).accepts value = true) :
    ∃ p, variantOfJson? parityOfWord? value = some p := by
  obtain ⟨word, hword, rfl⟩ := accepts_enumerated.1 h
  simp only [List.mem_cons, List.not_mem_nil, or_false] at hword
  rcases hword with rfl | rfl <;> exact ⟨_, rfl⟩

/-- So are those for the types of columns. -/
theorem exists_columnType_of_accepts {text : String} {default : Json}
    (h : (described text
      (.withDefault default (every [reference "ValueClass" columnType]))).accepts value = true) :
    ∃ t, variantOfJson? columnTypeOfWord? value = some t := by
  rw [accepts_described, accepts_withDefault, accepts_every, List.forall_mem_singleton] at h
  obtain ⟨word, hword, rfl⟩ := accepts_enumerated.1 h
  simp only [List.mem_cons, List.not_mem_nil, or_false] at hword
  rcases hword with rfl | rfl <;> exact ⟨_, rfl⟩

/-- The two modes of a format are alternatives of the schema, with a word each. -/
theorem exists_formatMode_of_accepts {default : Json}
    (h : (Schema.withDefault default
      (every [reference "FormatMode" formatMode])).accepts value = true) :
    ∃ mode, variantOfJson? formatModeOfWord? value = some mode := by
  rw [accepts_withDefault, accepts_every, List.forall_mem_singleton] at h
  obtain ⟨schema, hschema, h⟩ := exists_accepts_of_countP (accepts_one.1 h)
  simp only [List.mem_cons, List.not_mem_nil, or_false] at hschema
  rcases hschema with rfl | rfl
  all_goals
    obtain ⟨word, hword, rfl⟩ := accepts_enumerated.1 h
    obtain rfl := List.mem_singleton.1 hword
    exact ⟨_, rfl⟩

/-- A list is read if the schema of its items allows nothing but what is read. -/
theorem exists_list_of_accepts {α : Type} {reader : Json → Option α} {items : Schema}
    (hitems : ∀ item : Json, item.Distinct → items.accepts item = true →
      ∃ found, reader item = some found)
    (hdistinct : value.Distinct) (h : (list items).accepts value = true) :
    ∃ found, listOfJson? reader value = some found := by
  obtain ⟨found, rfl, haccepts⟩ := accepts_list.1 h
  have hread : ∀ item ∈ found, ∃ a, reader item = some a := fun item hitem =>
    hitems item (hdistinct.of_mem_array item hitem) (haccepts item hitem)
  clear h haccepts hdistinct
  show ∃ as, found.mapM reader = some as
  induction found with
  | nil => exact ⟨[], rfl⟩
  | cons item found ih =>
    obtain ⟨⟨a, ha⟩, hfound⟩ := List.forall_mem_cons.1 hread
    obtain ⟨as, has⟩ := ih hfound
    exact ⟨a :: as, by rw [List.mapM_cons, ha, has]; rfl⟩

end Values

/-! ### Members -/

section Members

variable {α : Type} {reader : Json → Option α} {required : List String}
  {properties : List (String × Schema)} {found : List (String × Json)} {name : String}
  {schema : Schema}

/-- A member that is there is accepted by its own schema. -/
theorem accepts_of_member? (h : (members required properties).accepts (.object found) = true)
    (hschema : (name, schema) ∈ properties) {part : Json}
    (hpart : Json.member? name found = some part) : schema.accepts part = true := by
  obtain ⟨found, ⟨⟩, hproperties, -⟩ := accepts_members.1 h
  exact hproperties _ hschema part hpart

/-- A member that is required is there. -/
theorem exists_member?_of_accepts
    (h : (members required properties).accepts (.object found) = true)
    (hname : name ∈ required) : ∃ part, Json.member? name found = some part := by
  obtain ⟨found, ⟨⟩, -, hrequired⟩ := accepts_members.1 h
  exact Option.isSome_iff_exists.1 (hrequired name hname)

/-- A member that tells alternatives apart holds its word. -/
theorem member?_tag (h : (members required properties).accepts (.object found) = true)
    (hname : name ∈ required) {word : String} (htag : (name, tag word) ∈ properties) :
    Json.member? name found = some (.text word) := by
  obtain ⟨part, hpart⟩ := exists_member?_of_accepts h hname
  obtain ⟨other, hword, rfl⟩ := accepts_enumerated.1 (accepts_of_member? h htag hpart)
  rw [hpart, List.mem_singleton.1 hword]

/-- The word for the kind is read, since no other member has its name. -/
theorem required?_tag (hdistinct : (Json.object found).Distinct) {words : List String}
    {word : String} (hmember : Json.member? name found = some (.text word))
    (hword : words.contains word = true) :
    required? (tagOfJson? words) name found = some word := by
  rw [required?_eq hdistinct.nodup, hmember]
  exact if_pos hword

/-- A member that must be there is read if its schema allows nothing but what is read. -/
theorem exists_required?_of_accepts (hdistinct : (Json.object found).Distinct)
    (h : (members required properties).accepts (.object found) = true)
    (hname : name ∈ required) (hschema : (name, schema) ∈ properties)
    (hread : ∀ part : Json, part.Distinct → schema.accepts part = true →
      ∃ a, reader part = some a) :
    ∃ a, required? reader name found = some a := by
  obtain ⟨part, hpart⟩ := exists_member?_of_accepts h hname
  refine (exists_required?_iff hdistinct.nodup).2 ⟨part, hpart, ?_⟩
  exact hread part (hdistinct.of_member? hpart) (accepts_of_member? h hschema hpart)

/-- A member that may be there is read if its schema allows nothing but what is read. -/
theorem exists_withDefault?_of_accepts {default : α} (hdistinct : (Json.object found).Distinct)
    (h : (members required properties).accepts (.object found) = true)
    (hschema : (name, schema) ∈ properties)
    (hread : ∀ part : Json, part.Distinct → schema.accepts part = true →
      ∃ a, reader part = some a) :
    ∃ a, withDefault? reader default name found = some a := by
  refine (exists_withDefault?_iff hdistinct.nodup).2 fun part hpart => ?_
  exact hread part (hdistinct.of_member? hpart) (accepts_of_member? h hschema hpart)

end Members

/-! ### Conditions -/

/-- A condition is read by the word that tells it apart. -/
theorem Condition.ofJson?_object (word : String) {found : List (String × Json)}
    (hdistinct : (Json.object found).Distinct)
    (hop : Json.member? "op" found = some (.text word)) (hword : conditionWords.contains word) :
    Condition.ofJson? (.object found) = conditionOf? word found := by
  show (required? (tagOfJson? conditionWords) "op" found).bind (conditionOf? · found) = _
  rw [required?_tag hdistinct hop hword, Option.bind_some]

/-- **A condition of an accepted shape is read.** -/
theorem exists_condition_of_accepts {value : Json} (hdistinct : value.Distinct)
    (h : (reference "Condition" condition).accepts value = true) :
    ∃ c, Condition.ofJson? value = some c := by
  rw [accepts_reference, condition, accepts_described, accepts_one] at h
  obtain ⟨schema, hschema, h⟩ := exists_accepts_of_countP h
  simp only [List.mem_cons, List.not_mem_nil, or_false] at hschema
  rcases hschema with rfl | rfl | rfl | rfl
  · obtain ⟨found, rfl, -⟩ := accepts_members.1 h
    obtain ⟨column, hcolumn⟩ : ∃ column, required? textOfJson? "column" found = some column :=
      exists_required?_of_accepts hdistinct h (by simp) (by simp) fun _ _ => exists_text_of_accepts
    obtain ⟨op, hop⟩ :
        ∃ op, required? (variantOfJson? comparisonOfWord?) "operator" found = some op :=
      exists_required?_of_accepts hdistinct h (by simp) (by simp) fun _ _ =>
        exists_comparison_of_accepts
    obtain ⟨v, hv⟩ : ∃ v, required? Literal.ofJson? "value" found = some v :=
      exists_required?_of_accepts hdistinct h (by simp) (by simp) fun _ _ =>
        exists_literal_of_accepts
    rw [Condition.ofJson?_object "compare" hdistinct (member?_tag h (by simp) (by simp)) (by decide)]
    exact ⟨.compare column op v, by simp [conditionOf?, hcolumn, hop, hv]⟩
  · obtain ⟨found, rfl, -⟩ := accepts_members.1 h
    obtain ⟨column, hcolumn⟩ : ∃ column, required? textOfJson? "column" found = some column :=
      exists_required?_of_accepts hdistinct h (by simp) (by simp) fun _ _ => exists_text_of_accepts
    obtain ⟨values, hvalues⟩ :
        ∃ values, required? (listOfJson? Literal.ofJson?) "values" found = some values :=
      exists_required?_of_accepts hdistinct h (by simp) (by simp) fun _ =>
        exists_list_of_accepts fun _ _ => exists_literal_of_accepts
    rw [Condition.ofJson?_object "in" hdistinct (member?_tag h (by simp) (by simp)) (by decide)]
    exact ⟨.isIn column values, by simp [conditionOf?, hcolumn, hvalues]⟩
  · obtain ⟨found, rfl, -⟩ := accepts_members.1 h
    obtain ⟨column, hcolumn⟩ : ∃ column, required? textOfJson? "column" found = some column :=
      exists_required?_of_accepts hdistinct h (by simp) (by simp) fun _ _ => exists_text_of_accepts
    rw [Condition.ofJson?_object "is_null" hdistinct (member?_tag h (by simp) (by simp)) (by decide)]
    exact ⟨.isNull column, by simp [conditionOf?, hcolumn]⟩
  · obtain ⟨found, rfl, -⟩ := accepts_members.1 h
    obtain ⟨column, hcolumn⟩ : ∃ column, required? textOfJson? "column" found = some column :=
      exists_required?_of_accepts hdistinct h (by simp) (by simp) fun _ _ => exists_text_of_accepts
    rw [Condition.ofJson?_object "is_not_null" hdistinct (member?_tag h (by simp) (by simp)) (by decide)]
    exact ⟨.isNotNull column, by simp [conditionOf?, hcolumn]⟩

/-! ### Lengths -/

namespace JsonNumber

/-- A number is a 64-bit integer if it is written as one. -/
theorem toInteger?_eq_some_iff {n : JsonNumber} {i : Int64} :
    n.toInteger? = some i ↔ n = .whole i.toInt := by
  constructor
  · intro h
    cases n with
    | whole k =>
      rw [toInteger?] at h
      split_ifs at h with hfits
      rw [fitsInteger, Bool.and_eq_true, decide_eq_true_eq, decide_eq_true_eq] at hfits
      rw [← Option.some.inj h, Int64.toInt_ofInt_of_le hfits.1 (hfits.2.trans_lt (by decide))]
    | decimal d => cases h
  · rintro rfl
    rw [toInteger?, if_pos (fitsInteger_toInt i), Int64.ofInt_toInt]

end JsonNumber

/-- A rule that limits a length by a number that is no 64-bit integer. -/
def Json.StrayLength (rule : Json) : Prop :=
  memberOf? "kind" rule = some (.text "length") ∧ ∃ name ∈ ["min_length", "max_length"], ∃ n,
    memberOf? name rule = some (.number n) ∧ ∀ i : Int64, n ≠ .whole i.toInt

/-- A limit of an accepted shape is read unless it is another number. -/
theorem exists_integer_iff_of_accepts {value : Json} (h : lengthBound.accepts value = true) :
    (∃ limit, nullableOfJson? integerOfJson? value = some limit) ↔
      ∀ n, value = .number n → ∃ i : Int64, n = .whole i.toInt := by
  cases value with
  | null => exact iff_of_true ⟨none, rfl⟩ (fun _ heq => nomatch heq)
  | number n =>
    show (∃ limit, n.toInteger?.map some = some limit) ↔ _
    simp only [Option.map_eq_some_iff, JsonNumber.toInteger?_eq_some_iff, Json.number.injEq]
    constructor
    · rintro ⟨-, i, rfl, -⟩ n rfl
      exact ⟨i, rfl⟩
    · intro hall
      obtain ⟨i, hi⟩ := hall n rfl
      exact ⟨some i, i, hi, rfl⟩
  | _ => exact nomatch h

/-! ### Kinds -/

/-- The members of a kind are read just if they limit no length by a number that is no 64-bit
integer. -/
def RuleKind.ReadUnlessStray (found : List (String × Json)) : Prop :=
  (∃ kind, RuleKind.ofMembers? found = some kind) ↔ ¬ (Json.object found).StrayLength

section Kinds

variable {found : List (String × Json)}

/-- A kind is read by the word that tells it apart. -/
theorem RuleKind.ofMembers?_eq (word : String) (hdistinct : (Json.object found).Distinct)
    (hkind : Json.member? "kind" found = some (.text word)) (hword : kindWords.contains word) :
    RuleKind.ofMembers? found = kindOf? word found := by
  show (required? (tagOfJson? kindWords) "kind" found).bind (kindOf? · found) = _
  rw [required?_tag hdistinct hkind hword, Option.bind_some]

/-- A kind other than a length limits no length, so it only has to be read by its word. -/
theorem readUnlessStray_of_tag (word : String) (hdistinct : (Json.object found).Distinct)
    {required : List String} {properties : List (String × Schema)}
    (h : (members required properties).accepts (.object found) = true)
    (hname : "kind" ∈ required) (htag : ("kind", tag word) ∈ properties)
    (hword : kindWords.contains word) (hlength : word ≠ "length")
    (hread : ∃ kind, kindOf? word found = some kind) : RuleKind.ReadUnlessStray found := by
  have hkind := member?_tag h hname htag
  rw [RuleKind.ReadUnlessStray, RuleKind.ofMembers?_eq word hdistinct hkind hword]
  refine iff_of_true hread ?_
  rintro ⟨hstray, -⟩
  exact hlength (Json.text.inj (Option.some.inj (hkind.symm.trans hstray)))

/-- Rules on ranges are read. -/
theorem readUnlessStray_range (hdistinct : (Json.object found).Distinct)
    (h : range.accepts (.object found) = true) : RuleKind.ReadUnlessStray found := by
  rw [range, accepts_described] at h
  refine readUnlessStray_of_tag "range" hdistinct h (by simp) (by simp) (by decide) (by decide) ?_
  obtain ⟨min, hmin⟩ :
      ∃ n, withDefault? (nullableOfJson? Numeric.ofJson?) none "min" found = some n :=
    exists_withDefault?_of_accepts hdistinct h (by simp) fun _ _ => exists_bound_of_accepts
  obtain ⟨max, hmax⟩ :
      ∃ n, withDefault? (nullableOfJson? Numeric.ofJson?) none "max" found = some n :=
    exists_withDefault?_of_accepts hdistinct h (by simp) fun _ _ => exists_bound_of_accepts
  obtain ⟨minInclusive, hminInclusive⟩ :
      ∃ b, withDefault? boolOfJson? true "min_inclusive" found = some b :=
    exists_withDefault?_of_accepts hdistinct h (by simp) fun _ _ => exists_flag_of_accepts true
  obtain ⟨maxInclusive, hmaxInclusive⟩ :
      ∃ b, withDefault? boolOfJson? true "max_inclusive" found = some b :=
    exists_withDefault?_of_accepts hdistinct h (by simp) fun _ _ => exists_flag_of_accepts true
  simp [kindOf?, hmin, hmax, hminInclusive, hmaxInclusive]

theorem readUnlessStray_parity (hdistinct : (Json.object found).Distinct)
    (h : evenOrOdd.accepts (.object found) = true) : RuleKind.ReadUnlessStray found := by
  rw [evenOrOdd] at h
  refine readUnlessStray_of_tag "parity" hdistinct h (by simp) (by simp) (by decide) (by decide) ?_
  obtain ⟨p, hp⟩ : ∃ p, required? (variantOfJson? parityOfWord?) "parity" found = some p :=
    exists_required?_of_accepts hdistinct h (by simp) (by simp) fun _ _ => exists_parity_of_accepts
  simp [kindOf?, hp]

theorem readUnlessStray_presence (hdistinct : (Json.object found).Distinct)
    (h : presence.accepts (.object found) = true) : RuleKind.ReadUnlessStray found := by
  rw [presence, accepts_described] at h
  refine readUnlessStray_of_tag "presence" hdistinct h (by simp) (by simp) (by decide) (by decide)
    ?_
  obtain ⟨t, ht⟩ :
      ∃ t, withDefault? (variantOfJson? columnTypeOfWord?) .text "column_type" found = some t :=
    exists_withDefault?_of_accepts hdistinct h List.mem_cons_self fun _ _ =>
      exists_columnType_of_accepts
  simp [kindOf?, ht]

theorem readUnlessStray_inclusion (hdistinct : (Json.object found).Distinct)
    (h : inclusion.accepts (.object found) = true) : RuleKind.ReadUnlessStray found := by
  rw [inclusion] at h
  refine readUnlessStray_of_tag "inclusion" hdistinct h (by simp) (by simp) (by decide)
    (by decide) ?_
  obtain ⟨values, hvalues⟩ :
      ∃ values, required? (listOfJson? Literal.ofJson?) "values" found = some values :=
    exists_required?_of_accepts hdistinct h (by simp) (by simp) fun _ =>
      exists_list_of_accepts fun _ _ => exists_literal_of_accepts
  simp [kindOf?, hvalues]

/-- Rules on formats are read, whatever their pattern is. -/
theorem readUnlessStray_format (hdistinct : (Json.object found).Distinct)
    (h : format.accepts (.object found) = true) : RuleKind.ReadUnlessStray found := by
  rw [format, accepts_described] at h
  refine readUnlessStray_of_tag "format" hdistinct h (by simp) (by simp) (by decide) (by decide) ?_
  obtain ⟨pattern, hpattern⟩ : ∃ pattern, required? textOfJson? "pattern" found = some pattern :=
    exists_required?_of_accepts hdistinct h (by simp) (by simp) fun _ _ => exists_text_of_accepts
  obtain ⟨mode, hmode⟩ :
      ∃ mode, withDefault? (variantOfJson? formatModeOfWord?) .accepts "mode" found = some mode :=
    exists_withDefault?_of_accepts hdistinct h (.tail _ (.tail _ (.head _))) fun _ _ =>
      exists_formatMode_of_accepts
  obtain ⟨caseInsensitive, hcase⟩ :
      ∃ b, withDefault? boolOfJson? false "case_insensitive" found = some b :=
    exists_withDefault?_of_accepts hdistinct h (by simp) fun _ _ => exists_flag_of_accepts false
  simp [kindOf?, hpattern, hmode, hcase]

/-- Conditional rules are read condition by condition. -/
theorem readUnlessStray_conditional (hdistinct : (Json.object found).Distinct)
    (h : conditional.accepts (.object found) = true) : RuleKind.ReadUnlessStray found := by
  rw [conditional, accepts_described] at h
  refine readUnlessStray_of_tag "conditional" hdistinct h (by simp) (by simp) (by decide)
    (by decide) ?_
  obtain ⟨conditions, hwhen⟩ :
      ∃ conditions, required? (listOfJson? Condition.ofJson?) "when" found = some conditions :=
    exists_required?_of_accepts hdistinct h (by simp) (by simp) fun _ =>
      exists_list_of_accepts fun _ => exists_condition_of_accepts
  obtain ⟨rejectBlank, hblank⟩ :
      ∃ b, withDefault? boolOfJson? false "reject_blank" found = some b :=
    exists_withDefault?_of_accepts hdistinct h (.tail _ (.head _)) fun _ _ =>
      exists_flag_of_accepts false
  simp [kindOf?, hwhen, hblank]

/-- No limit is stray if those that are numbers are 64-bit integers. -/
theorem not_strayLength_iff (hkind : Json.member? "kind" found = some (.text "length")) :
    ¬ (Json.object found).StrayLength ↔ ∀ name ∈ ["min_length", "max_length"], ∀ n,
      Json.member? name found = some (.number n) → ∃ i : Int64, n = .whole i.toInt := by
  constructor
  · intro h name hname n hn
    by_contra hno
    exact h ⟨hkind, name, hname, n, hn, fun i hi => hno ⟨i, hi⟩⟩
  · rintro h ⟨-, name, hname, n, hn, hstray⟩
    obtain ⟨i, hi⟩ := h name hname n hn
    exact hstray i hi

theorem kindOf?_length (found : List (String × Json)) :
    kindOf? "length" found =
      (withDefault? (nullableOfJson? integerOfJson?) none "min_length" found).bind fun min =>
        (withDefault? (nullableOfJson? integerOfJson?) none "max_length" found).bind fun max =>
          some (.length ⟨min, max⟩) := rfl

/-- **Rules on lengths** are read unless one of the limits is stray. -/
theorem readUnlessStray_length (hdistinct : (Json.object found).Distinct)
    (h : length.accepts (.object found) = true) : RuleKind.ReadUnlessStray found := by
  rw [length, accepts_described] at h
  have hlimit : ∀ name, (name, lengthBound) ∈ [("kind", tag "length"),
      ("max_length", lengthBound), ("min_length", lengthBound)] →
      ((∃ limit, withDefault? (nullableOfJson? integerOfJson?) none name found = some limit) ↔
        ∀ n, Json.member? name found = some (.number n) → ∃ i : Int64, n = .whole i.toInt) := by
    intro name hname
    rw [exists_withDefault?_iff hdistinct.nodup]
    constructor
    · intro hall n hn
      exact (exists_integer_iff_of_accepts (accepts_of_member? h hname hn)).1 (hall _ hn) n rfl
    · intro hall part hpart
      refine (exists_integer_iff_of_accepts (accepts_of_member? h hname hpart)).2 fun n hn => ?_
      exact hall n (hn ▸ hpart)
  have hkind : Json.member? "kind" found = some (.text "length") := member?_tag h (by simp) (.head _)
  rw [RuleKind.ReadUnlessStray, RuleKind.ofMembers?_eq "length" hdistinct hkind (by decide),
    not_strayLength_iff hkind, kindOf?_length]
  simp only [List.forall_mem_cons, ← hlimit "min_length" (by simp),
    ← hlimit "max_length" (by simp), Option.bind_eq_some_iff]
  constructor
  · rintro ⟨-, min, hmin, max, hmax, -⟩
    exact ⟨⟨min, hmin⟩, ⟨max, hmax⟩, List.forall_mem_nil _⟩
  · rintro ⟨⟨min, hmin⟩, ⟨max, hmax⟩, -⟩
    exact ⟨_, min, hmin, max, hmax, rfl⟩

/-- **Members of a kind** of an accepted shape are read just if they limit no length by another
number. -/
theorem readUnlessStray_of_accepts (hdistinct : (Json.object found).Distinct) {schema : Schema}
    (hschema : schema ∈ [range, evenOrOdd, presence, length, inclusion, format, conditional])
    (h : schema.accepts (.object found) = true) : RuleKind.ReadUnlessStray found := by
  simp only [List.mem_cons, List.not_mem_nil, or_false] at hschema
  rcases hschema with rfl | rfl | rfl | rfl | rfl | rfl | rfl
  · exact readUnlessStray_range hdistinct h
  · exact readUnlessStray_parity hdistinct h
  · exact readUnlessStray_presence hdistinct h
  · exact readUnlessStray_length hdistinct h
  · exact readUnlessStray_inclusion hdistinct h
  · exact readUnlessStray_format hdistinct h
  · exact readUnlessStray_conditional hdistinct h

/-- The members of every rule do not matter to the shape of a kind. -/
theorem accepts_otherMembers {required : List String} {properties : List (String × Schema)}
    (hrequired : ∀ name ∈ required, name ∉ RuleParts.common)
    (hproperties : ∀ property ∈ properties, property.1 ∉ RuleParts.common)
    (h : (members required properties).accepts (.object found) = true) :
    (members required properties).accepts (.object (RuleParts.otherMembers found)) = true := by
  obtain ⟨found, ⟨⟩, hparts, hpresent⟩ := accepts_members.1 h
  refine accepts_members.2 ⟨_, rfl, fun property hproperty part hpart => ?_, fun name hname => ?_⟩
  · rw [RuleParts.member?_otherMembers found (hproperties property hproperty)] at hpart
    exact hparts property hproperty part hpart
  · rw [RuleParts.member?_otherMembers found (hrequired name hname)]
    exact hpresent name hname

/-- No kind asks for a member that belongs to every rule. -/
theorem kind_accepts_otherMembers {schema : Schema}
    (hschema : schema ∈ [range, evenOrOdd, presence, length, inclusion, format, conditional])
    (h : schema.accepts (.object found) = true) :
    schema.accepts (.object (RuleParts.otherMembers found)) = true := by
  simp only [List.mem_cons, List.not_mem_nil, or_false] at hschema
  rcases hschema with rfl | rfl | rfl | rfl | rfl | rfl | rfl
  all_goals exact accepts_otherMembers (by decide) (by decide) h

/-- The limits of a length are none of the members that belong to every rule. -/
theorem strayLength_otherMembers :
    (Json.object (RuleParts.otherMembers found)).StrayLength ↔ (Json.object found).StrayLength := by
  have hmember : ∀ name ∉ RuleParts.common,
      memberOf? name (.object (RuleParts.otherMembers found)) = memberOf? name (.object found) :=
    fun name => RuleParts.member?_otherMembers found
  rw [Json.StrayLength, Json.StrayLength, hmember "kind" (by decide)]
  refine and_congr_right' (exists_congr fun name => and_congr_right fun hname => ?_)
  have hother : name ∉ RuleParts.common :=
    (by decide : ∀ name ∈ ["min_length", "max_length"], name ∉ RuleParts.common) name hname
  rw [hmember name hother]

end Kinds

/-! ### Rules -/

section Rules

variable {value : Json}

/-- A flag is read from the members of every rule as well. -/
theorem exists_draftFlag_of_accepts (default : Bool) (h : (flag default).accepts value = true) :
    ∃ b, Draft.bool? (.ofJson value) = .ok b := by
  cases value with
  | bool b => exact ⟨b, rfl⟩
  | _ => exact nomatch h

theorem exists_draftText_of_accepts (h : (ofType .text).accepts value = true) :
    ∃ s, Draft.text? (.ofJson value) = .ok s := by
  cases value with
  | text s => exact ⟨s, rfl⟩
  | _ => exact nomatch h

/-- A label may be null. -/
theorem exists_nullableText_of_accepts (h : nullableText.accepts value = true) :
    ∃ s, Draft.nullable? Draft.text? (.ofJson value) = .ok s := by
  cases value with
  | null => exact ⟨none, rfl⟩
  | text s => exact ⟨some s, rfl⟩
  | _ => exact nomatch h

/-- **A rule of an accepted shape is read** just if it limits no length by a number that is no
64-bit integer. -/
theorem RuleSpec.exists_ofDraft_iff_of_accepts {depth : Nat} (hdistinct : value.Distinct)
    (hdepth : value.depth ≤ depth) (h : (reference "RuleSpec" rule).accepts value = true) :
    (∃ spec, RuleSpec.ofDraft depth (.ofJson value) = .ok spec) ↔ ¬ value.StrayLength := by
  rw [accepts_reference, rule, accepts_described, accepts_record] at h
  obtain ⟨found, rfl, hkinds, hparts, hpresent⟩ := h
  obtain ⟨depth, rfl, hinner⟩ := Json.exists_depth_of_object hdepth
  obtain ⟨schema, hschema, haccepts⟩ :=
    exists_accepts_of_countP (hkinds.resolve_left (List.cons_ne_nil _ _))
  have hkind := readUnlessStray_of_accepts (RuleParts.distinct_otherMembers hdistinct) hschema
    (kind_accepts_otherMembers hschema haccepts)
  rw [RuleKind.ReadUnlessStray, strayLength_otherMembers] at hkind
  rw [RuleSpec.exists_ofDraft_iff hdistinct.nodup hinner, hkind]
  refine ⟨fun hread => hread.2.2.2, fun hstray => ⟨?_, ?_, ?_, hstray⟩⟩
  · obtain ⟨target, htarget⟩ :=
      Option.isSome_iff_exists.1 (hpresent "target" List.mem_cons_self)
    have haccepts := hparts _ (.tail _ (.tail _ (.tail _ (.head _)))) target htarget
    rw [accepts_described] at haccepts
    obtain ⟨columns, rfl, hcolumns⟩ := accepts_list.1 haccepts
    have hpositive := hinner _ (Json.mem_of_member? htarget)
    rw [Json.depth] at hpositive
    refine ⟨_, htarget, (Draft.exists_list?_iff (by omega)).2 fun column hcolumn => ?_⟩
    exact exists_draftText_of_accepts (hcolumns column hcolumn)
  · simp only [List.forall_mem_cons]
    refine ⟨fun part hpart => ?_, fun part hpart => ?_, fun part hpart => ?_, List.forall_mem_nil _⟩
    · exact exists_draftFlag_of_accepts false (hparts _ (.tail _ (.head _)) part hpart)
    · exact exists_draftFlag_of_accepts false (hparts _ (.head _) part hpart)
    · exact exists_draftFlag_of_accepts true
        (hparts _ (.tail _ (.tail _ (.tail _ (.tail _ (.head _))))) part hpart)
  · intro part hpart
    exact exists_nullableText_of_accepts (hparts _ (.tail _ (.tail _ (.head _))) part hpart)

end Rules

end ColumnChecks
