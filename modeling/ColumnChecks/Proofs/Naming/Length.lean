import ColumnChecks.Rule.Builder
import ColumnChecks.Proofs.Naming.Characters

/-!
# Names fit

Databases limit identifiers in bytes, while a name is put together from characters. For names
there is no difference: **a normal text has a byte for each character, and may be cut before
any of them** (`ColumnChecks.IsNormal.utf8ByteSize_ofList`,
`ColumnChecks.IsNormal.isValid_offset`).

A naming is made only if the limit leaves room for a cut name with the longest code. The
budget of a cut name is therefore all that the prefix, the code, the digest and the underscores
leave of the limit (`ColumnChecks.Namer.budget_add`): the subtraction that computes it does not
stop at zero. Cut at its budget, a name has room for the rest, and so **every name fits into the
limit of its dialect** (`ColumnChecks.Namer.name_fits`), whatever the table, the columns and the
label are called.
-/

namespace ColumnChecks

open Sql (Dialect)

/-! ### Normal texts in bytes -/

/-- The characters that names are made of. -/
theorem isNormalChar_iff {c : Char} :
    isNormalChar c = true ↔ ('a' ≤ c ∧ c ≤ 'z') ∨ ('0' ≤ c ∧ c ≤ '9') ∨ c = '_' := by
  have hlower : c.isLower = true ↔ 'a' ≤ c ∧ c ≤ 'z' :=
    Bool.and_eq_true_iff.trans (and_congr decide_eq_true_iff decide_eq_true_iff)
  have hdigit : c.isDigit = true ↔ '0' ≤ c ∧ c ≤ '9' :=
    Bool.and_eq_true_iff.trans (and_congr decide_eq_true_iff decide_eq_true_iff)
  rw [isNormalChar, Bool.or_eq_true, Bool.or_eq_true, hlower, hdigit, beq_iff_eq, or_assoc]

theorem utf8Size_of_isNormalChar {c : Char} (h : isNormalChar c = true) : c.utf8Size = 1 := by
  rw [Char.utf8Size_eq_one_iff]
  rcases isNormalChar_iff.1 h with ⟨-, hz⟩ | ⟨-, hnine⟩ | rfl
  · exact UInt32.le_trans hz (by decide)
  · exact UInt32.le_trans hnine (by decide)
  · decide

namespace IsNormal

variable {cs : List Char}

/-- **A normal text has a byte for each character.** -/
theorem utf8ByteSize_ofList (h : IsNormal cs) : (String.ofList cs).utf8ByteSize = cs.length := by
  induction cs with
  | nil => rfl
  | cons c cs ih =>
    rw [IsNormal, List.forall_mem_cons] at h
    rw [String.ofList_cons, String.utf8ByteSize_append, String.utf8ByteSize_singleton,
      utf8Size_of_isNormalChar h.1, ih h.2, List.length_cons, Nat.add_comm]

/-- **A normal text may be cut anywhere**: every offset is that of a character. -/
theorem isValid_offset (h : IsNormal cs) {n : Nat} (hn : n ≤ cs.length) :
    String.Pos.Raw.IsValid (String.ofList cs) ⟨n⟩ := by
  have hbytes := (h.mono (List.take_subset n cs)).utf8ByteSize_ofList
  rw [List.length_take_of_le hn] at hbytes
  -- The offset is the number of bytes of a beginning, which is its number of characters.
  rw [String.Pos.Raw.isValid_iff_exists_take_toList]
  refine ⟨n, ?_⟩
  rw [String.toList_ofList]
  exact hbytes.symm

end IsNormal

/-! ### The parts of a name -/

theorem RuleKind.length_code_le (kind : RuleKind) : kind.code.length ≤ longestCode := by
  cases kind <;> (rw [code]; decide)

theorem RuleKind.utf8ByteSize_code (kind : RuleKind) :
    kind.code.utf8ByteSize = kind.code.length := by
  conv_lhs => rw [← String.ofList_toList (s := kind.code)]
  exact kind.isNormal_code.utf8ByteSize_ofList

namespace Namer

/-- The normalised middle of a name: the table, the columns and the label. -/
def middle (table : String) (spec : RuleSpec) : List Char :=
  joinParts ((rawParts table spec).map normalize)

/-- What a cut name keeps of its middle. -/
def kept (namer : Namer) (table : String) (spec : RuleSpec) : List Char :=
  dropUnderscores ((middle table spec).take (namer.budget spec))

variable (namer : Namer) (table : String) (spec : RuleSpec)

theorem fullName_eq : namer.fullName table spec =
    namer.namePrefix ++ '_' :: (middle table spec ++ '_' :: spec.kind.code.toList) := by
  rw [fullName, joinParts_cons_cons, joinParts_cons_cons]
  simp [joinParts, middle]

theorem cutName_eq : namer.cutName table spec =
    namer.namePrefix ++ '_' :: (namer.kept table spec ++ '_' ::
      (spec.kind.code.toList ++ '_' :: namer.nameDigest table spec)) := by
  rw [cutName, joinParts_cons_cons, joinParts_cons_cons, joinParts_cons_cons]
  simp [joinParts, kept, middle]

theorem length_nameDigest_le : (namer.nameDigest table spec).length ≤ nameDigestLength :=
  List.length_take_le _ _

theorem length_kept_le : (namer.kept table spec).length ≤ namer.budget spec := by
  have hdrop : ∀ cs : List Char, (dropUnderscores cs).length ≤ cs.length := fun cs => by
    rw [dropUnderscores, List.length_reverse]
    exact Nat.le_trans (List.dropWhile_suffix _).length_le (Nat.le_of_eq List.length_reverse)
  exact Nat.le_trans (hdrop _) (List.length_take_le _ _)

/-! ### The budget -/

/-- **The budget is what is left of the limit**, since the limit has room for the longest
code and more. -/
theorem budget_add : namer.budget spec +
      (namer.namePrefix.length + spec.kind.code.length + nameDigestLength + 3) =
    namer.maxLength := by
  -- What the naming was checked for, with the longest code in place of the one at hand.
  have hfits := namer.fits
  have hcode := spec.kind.length_code_le
  unfold neededLength at hfits
  unfold budget
  omega

theorem budget_pos : 0 < namer.budget spec := by
  have hfits := namer.fits
  have hcode := spec.kind.length_code_le
  unfold neededLength at hfits
  unfold budget
  omega

/-- A cut name fits. -/
theorem length_cutName_le : (namer.cutName table spec).length ≤ namer.maxLength := by
  have hkept := namer.length_kept_le table spec
  have hdigest := namer.length_nameDigest_le table spec
  have hbudget := namer.budget_add spec
  rw [cutName_eq]
  simp only [List.length_append, List.length_cons, String.length_toList]
  omega

theorem length_name_le [Pattern.SizeTest] (rule : Rule) :
    (namer.name table rule).toList.length ≤ namer.maxLength := by
  rw [name, String.toList_ofList]
  split_ifs with hfull
  · exact hfull
  · exact namer.length_cutName_le table rule.spec

/-- **A cut is clean** if nothing is lost to the arithmetic of bytes. -/
structure CutsCleanly (namer : Namer) (table : String) (spec : RuleSpec) : Prop where
  /-- The budget and the bytes of everything else make up the limit. -/
  budget_add : namer.budget spec + ((String.ofList namer.namePrefix).utf8ByteSize +
    spec.kind.code.utf8ByteSize + nameDigestLength + 3) = namer.maxLength
  /-- There is room for something of the middle. -/
  budget_pos : 0 < namer.budget spec
  /-- The budget, or else the end of the middle, is between two characters. -/
  isValid : String.Pos.Raw.IsValid (String.ofList (middle table spec))
    ⟨min (namer.budget spec) (String.ofList (middle table spec)).utf8ByteSize⟩
  /-- As many bytes are kept as the budget allows. -/
  utf8ByteSize_take : (String.ofList ((middle table spec).take (namer.budget spec))).utf8ByteSize =
    min (namer.budget spec) (String.ofList (middle table spec)).utf8ByteSize

theorem cutsCleanly : namer.CutsCleanly table spec := by
  have hmiddle : IsNormal (middle table spec) := isNormal_middle table spec
  have hbytes := hmiddle.utf8ByteSize_ofList
  have hnormal : IsNormal namer.namePrefix := namer.normal
  refine ⟨?_, namer.budget_pos spec, ?_, ?_⟩
  · rw [hnormal.utf8ByteSize_ofList, spec.kind.utf8ByteSize_code]
    exact namer.budget_add spec
  · rw [hbytes]
    exact hmiddle.isValid_offset (Nat.min_le_right _ _)
  · rw [hbytes, (hmiddle.mono (List.take_subset _ _)).utf8ByteSize_ofList, List.length_take]

/-! ### Names -/

/-- A naming that is made has the limit of its dialect. -/
theorem maxLength_of_make {namePrefix : String} {dialect : Dialect} {namer : Namer}
    (h : make namePrefix dialect = .ok namer) : namer.maxLength = dialect.maxIdentifierLength := by
  simp only [make] at h
  split_ifs at h
  cases h
  rfl

/-- **Names fit into identifiers.** A naming that is made for a dialect, be it with a prefix or
the one for PostgreSQL, names every rule on every table within the limit of the dialect, in
letters from a to z, digits and underscores, and it owns the name. Where a name is cut, the
budget does not stop at zero and does not end in the middle of a character. -/
theorem name_fits [Pattern.SizeTest] {namePrefix : String} {dialect : Dialect} {namer : Namer}
    (hnamer : make namePrefix dialect = .ok namer ∨ dialect = .postgres ∧ namer = postgres)
    (table : String) (rule : Rule) :
    (namer.name table rule).utf8ByteSize ≤ dialect.maxIdentifierLength ∧
      (∀ c ∈ (namer.name table rule).toList,
        ('a' ≤ c ∧ c ≤ 'z') ∨ ('0' ≤ c ∧ c ≤ '9') ∨ c = '_') ∧
      namer.owns (namer.name table rule) = true ∧
      namer.CutsCleanly table rule.spec := by
  have hlimit : namer.maxLength = dialect.maxIdentifierLength := by
    rcases hnamer with hmake | ⟨rfl, rfl⟩
    · exact maxLength_of_make hmake
    · rfl
  have hnormal := namer.isNormal_name table rule
  have hlength := namer.length_name_le table rule
  rw [← hnormal.utf8ByteSize_ofList, String.ofList_toList, hlimit] at hlength
  refine ⟨hlength, ?_, namer.owns_name table rule, namer.cutsCleanly table rule.spec⟩
  intro c hc
  exact isNormalChar_iff.1 (hnormal c hc)

/-- A rule on a column that is too long for its name. -/
def signatureRule : Rule where
  spec := RuleSpec.of (.presence .text) ["Übergabesignatur"]
  valid := by decide

/-- With room for one character of the middle only, a name still fits. -/
theorem signature_fits : ∃ namer, make "App-Checks" ⟨"postgres", 26, true, true⟩ = .ok namer ∧
    26 < (namer.fullName "Bücher" signatureRule.spec).length ∧
    (namer.name "Bücher" signatureRule).utf8ByteSize ≤ 26 ∧
    namer.owns (namer.name "Bücher" signatureRule) = true := by
  obtain ⟨namer, hmake⟩ : ∃ namer, make "App-Checks" ⟨"postgres", 26, true, true⟩ = .ok namer :=
    ⟨_, rfl⟩
  obtain ⟨hfits, -, howns, -⟩ := name_fits (Or.inl hmake) "Bücher" signatureRule
  cases hmake
  exact ⟨_, rfl, by decide, hfits, howns⟩

end Namer

end ColumnChecks
