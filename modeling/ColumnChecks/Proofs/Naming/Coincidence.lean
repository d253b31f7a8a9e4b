import ColumnChecks.Proofs.Naming.Length
import ColumnChecks.Proofs.Text.Cutting

/-!
# When two names coincide

A name is a flat text: the parts that it is joined from may have underscores of their own and
may look like codes or digests. But neither a code nor a digest has an underscore, and so a name
is read from its end. The last part of a full name is its code, of at most four characters; the
last part of a cut name is its digest, of eight. Hence **no cut name is a full name, rules of
different kinds have different names, and two names are equal just if everything that they are
joined from is** (`ColumnChecks.Namer.name_eq_name_iff`).

Which digest is taken does not matter for this, as long as it is written in hexadecimal digits
(`ColumnChecks.IsDigest`). Names are therefore compared for any digest
(`ColumnChecks.Namer.nameBy`), and the one in use is an instance
(`ColumnChecks.isDigest_sha256`, `ColumnChecks.Namer.nameBy_sha256`).
-/

namespace ColumnChecks

/-! ### Digests -/

/-- **A digest** is written in hexadecimal digits, enough of them for a cut name. -/
def IsDigest (digest : String → String) : Prop :=
  ∀ text, nameDigestLength ≤ (digest text).toList.length ∧
    ∀ c ∈ (digest text).toList, ∃ n < 16, c = Nat.digitChar n

theorem Hash.length_bytesOf (n k : Nat) : (bytesOf n k).length = k := by
  induction k with
  | zero => rfl
  | succ k ih => rw [bytesOf, List.length_cons, ih]

theorem Hash.length_digest (message : List UInt8) : (digest message).length = 32 := by
  simp only [digest, List.flatMap_cons, List.flatMap_nil, List.length_append, length_bytesOf,
    List.length_nil]

theorem Hash.length_sha256 (text : String) : (sha256 text).toList.length = 64 := by
  have hbyte : ∀ b, (hexByte b).length = 2 := fun _ => rfl
  rw [sha256, String.toList_ofList, List.length_flatMap]
  simp only [hbyte, List.map_const', List.sum_replicate_nat, length_digest]

theorem isDigest_sha256 : IsDigest Hash.sha256 := by
  intro text
  constructor
  · rw [Hash.length_sha256]
    decide
  · intro c hc
    exact Hash.exists_of_mem_sha256 hc

/-! ### Codes -/

/-- **A code tells its kind.** -/
theorem RuleKind.name_eq_of_code_eq {kind kind' : RuleKind} (h : kind.code = kind'.code) :
    kind.name = kind'.name := by
  cases kind <;> cases kind' <;> simp [code, name] at h ⊢

theorem RuleKind.not_mem_code (kind : RuleKind) : '_' ∉ kind.code.toList := by
  cases kind <;> (rw [code]; decide)

/-! ### Cut names -/

namespace Namer

/-- Whether a name is cut. -/
def IsCut (namer : Namer) (table : String) (spec : RuleSpec) : Prop :=
  namer.maxLength < (namer.fullName table spec).length

instance (namer : Namer) (table : String) (spec : RuleSpec) :
    Decidable (namer.IsCut table spec) :=
  Nat.decLt _ _

/-- The full name as it was before it was normalised. -/
def rawName (namer : Namer) (table : String) (spec : RuleSpec) : String :=
  String.ofList (joinParts
    [namer.namePrefix, joinParts (rawParts table spec), spec.kind.code.toList])

/-- The digits of a cut name, by a digest. -/
def digestBy (namer : Namer) (digest : String → String) (table : String) (spec : RuleSpec) :
    List Char :=
  (digest (namer.rawName table spec)).toList.take nameDigestLength

variable {namer : Namer} {digest : String → String} {table table' : String} {spec : RuleSpec}

theorem length_digestBy (h : IsDigest digest) :
    (namer.digestBy digest table spec).length = nameDigestLength :=
  List.length_take_of_le (h _).1

theorem not_mem_digestBy (h : IsDigest digest) : '_' ∉ namer.digestBy digest table spec := by
  have hdigit : ∀ n < 16, Nat.digitChar n ≠ '_' := by decide
  intro hmem
  obtain ⟨n, hn, heq⟩ := (h _).2 _ (List.mem_of_mem_take hmem)
  exact hdigit n hn heq.symm

theorem fullName_ends (namer : Namer) (table : String) (spec : RuleSpec) :
    namer.fullName table spec =
      (namer.namePrefix ++ '_' :: middle table spec) ++ '_' :: spec.kind.code.toList := by
  rw [fullName_eq, List.append_assoc, List.cons_append]

/-! ### Names by any digest -/

variable [Pattern.SizeTest] {rule rule' : Rule}

/-- The name of a rule's constraint, by a digest. -/
def nameBy (namer : Namer) (digest : String → String) (table : String) (rule : Rule) : String :=
  String.ofList (if namer.IsCut table rule.spec then
    joinParts [namer.namePrefix, namer.kept table rule.spec, rule.spec.kind.code.toList,
      namer.digestBy digest table rule.spec]
  else namer.fullName table rule.spec)

/-- **Names are names by SHA-256.** -/
theorem nameBy_sha256 (namer : Namer) : namer.nameBy Hash.sha256 = namer.name := by
  funext table rule
  rw [nameBy, name]
  by_cases hcut : namer.IsCut table rule.spec
  · rw [if_pos hcut, if_neg (Nat.not_le.2 hcut)]
    rfl
  · rw [if_neg hcut, if_pos (Nat.not_lt.1 hcut)]

/-! ### Names are read from their end -/

theorem toList_nameBy_of_full (h : ¬ namer.IsCut table rule.spec) :
    (namer.nameBy digest table rule).toList = namer.fullName table rule.spec := by
  rw [nameBy, if_neg h, String.toList_ofList]

theorem toList_nameBy_of_cut (h : namer.IsCut table rule.spec) :
    (namer.nameBy digest table rule).toList =
      (namer.namePrefix ++ '_' :: namer.kept table rule.spec ++
        '_' :: rule.spec.kind.code.toList) ++ '_' :: namer.digestBy digest table rule.spec := by
  rw [nameBy, if_pos h, String.toList_ofList]
  simp [joinParts]

/-- **Two full names** are equal just if their codes and middles are. -/
theorem nameBy_eq_iff_of_full (h : ¬ namer.IsCut table rule.spec)
    (h' : ¬ namer.IsCut table' rule'.spec) :
    namer.nameBy digest table rule = namer.nameBy digest table' rule' ↔
      rule.spec.kind.code = rule'.spec.kind.code ∧
        middle table rule.spec = middle table' rule'.spec := by
  rw [← String.toList_inj, toList_nameBy_of_full h, toList_nameBy_of_full h', fullName_ends,
    fullName_ends, Text.append_mark_inj (RuleKind.not_mem_code _) (RuleKind.not_mem_code _),
    String.toList_inj, List.append_right_inj, List.cons_inj_right, and_comm]

/-- **Two cut names** are equal just if their codes are, what is kept of their middles and
their digests. -/
theorem nameBy_eq_iff_of_cut (hdigest : IsDigest digest) (h : namer.IsCut table rule.spec)
    (h' : namer.IsCut table' rule'.spec) :
    namer.nameBy digest table rule = namer.nameBy digest table' rule' ↔
      rule.spec.kind.code = rule'.spec.kind.code ∧
        namer.kept table rule.spec = namer.kept table' rule'.spec ∧
        namer.digestBy digest table rule.spec = namer.digestBy digest table' rule'.spec := by
  rw [← String.toList_inj, toList_nameBy_of_cut h, toList_nameBy_of_cut h',
    Text.append_mark_inj (not_mem_digestBy hdigest) (not_mem_digestBy hdigest),
    Text.append_mark_inj (RuleKind.not_mem_code _) (RuleKind.not_mem_code _), String.toList_inj,
    List.append_right_inj, List.cons_inj_right, and_assoc, and_left_comm]

/-- **A cut name is no full name**: it ends in more characters than a code has. -/
theorem nameBy_ne_of_cut_of_full (hdigest : IsDigest digest) (h : namer.IsCut table rule.spec)
    (h' : ¬ namer.IsCut table' rule'.spec) :
    namer.nameBy digest table rule ≠ namer.nameBy digest table' rule' := by
  intro heq
  -- Read from the end, the digest of the one would be the code of the other.
  rw [← String.toList_inj, toList_nameBy_of_cut h, toList_nameBy_of_full h', fullName_ends,
    Text.append_mark_inj (not_mem_digestBy hdigest) (RuleKind.not_mem_code _)] at heq
  have hcode := rule'.spec.kind.length_code_le
  have hlength : (namer.digestBy digest table rule.spec).length = nameDigestLength :=
    length_digestBy hdigest
  rw [heq.2, String.length_toList] at hlength
  rw [hlength] at hcode
  exact absurd hcode (by decide)

/-- **When two names coincide.** The digest in use is a digest, and for every digest two rules
have one name just if their kinds have one code, and their names are both full with one middle,
or both cut with one kept part of the middle and one digest. In particular rules of different
kinds have different names, and a cut name differs from every full one. -/
theorem name_eq_name_iff (namer : Namer) (table table' : String) (rule rule' : Rule) :
    (IsDigest Hash.sha256 ∧ namer.nameBy Hash.sha256 = namer.name) ∧
      ∀ digest, IsDigest digest →
        (namer.nameBy digest table rule = namer.nameBy digest table' rule' ↔
          rule.spec.kind.code = rule'.spec.kind.code ∧
            (¬ namer.IsCut table rule.spec ∧ ¬ namer.IsCut table' rule'.spec ∧
                middle table rule.spec = middle table' rule'.spec ∨
              namer.IsCut table rule.spec ∧ namer.IsCut table' rule'.spec ∧
                namer.kept table rule.spec = namer.kept table' rule'.spec ∧
                namer.digestBy digest table rule.spec =
                  namer.digestBy digest table' rule'.spec)) ∧
        (rule.spec.kind.name ≠ rule'.spec.kind.name →
          namer.nameBy digest table rule ≠ namer.nameBy digest table' rule') ∧
        (namer.IsCut table rule.spec → ¬ namer.IsCut table' rule'.spec →
          namer.nameBy digest table rule ≠ namer.nameBy digest table' rule') := by
  refine ⟨⟨isDigest_sha256, nameBy_sha256 namer⟩, ?_⟩
  intro digest hdigest
  have hiff : namer.nameBy digest table rule = namer.nameBy digest table' rule' ↔
      rule.spec.kind.code = rule'.spec.kind.code ∧
        (¬ namer.IsCut table rule.spec ∧ ¬ namer.IsCut table' rule'.spec ∧
            middle table rule.spec = middle table' rule'.spec ∨
          namer.IsCut table rule.spec ∧ namer.IsCut table' rule'.spec ∧
            namer.kept table rule.spec = namer.kept table' rule'.spec ∧
            namer.digestBy digest table rule.spec =
              namer.digestBy digest table' rule'.spec) := by
    by_cases hcut : namer.IsCut table rule.spec
    · by_cases hcut' : namer.IsCut table' rule'.spec
      · simp [nameBy_eq_iff_of_cut hdigest hcut hcut', hcut, hcut']
      · simp [nameBy_ne_of_cut_of_full hdigest hcut hcut', hcut, hcut']
    · by_cases hcut' : namer.IsCut table' rule'.spec
      · simp [(nameBy_ne_of_cut_of_full hdigest hcut' hcut).symm, hcut, hcut']
      · simp [nameBy_eq_iff_of_full hcut hcut', hcut, hcut']
  refine ⟨hiff, ?_, ?_⟩
  · intro hkind heq
    exact hkind (RuleKind.name_eq_of_code_eq (hiff.1 heq).1)
  · intro hcut hcut'
    exact nameBy_ne_of_cut_of_full hdigest hcut hcut'

end Namer

end ColumnChecks
