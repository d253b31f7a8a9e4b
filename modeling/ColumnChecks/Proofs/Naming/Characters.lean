import ColumnChecks.Proofs.Naming.Ownership

/-!
# The characters of names

Whatever a table, a column or a label is called, the name of a constraint is made of
lower-case ASCII letters, digits and underscores
(`ColumnChecks.Namer.isNormal_name`): the prefix and the parts are normalised, and
codes and digests are made of such characters already.
-/

namespace ColumnChecks

/-- A text of characters that a normalised name may contain. -/
def IsNormal (cs : List Char) : Prop := ∀ c ∈ cs, isNormalChar c = true

instance (cs : List Char) : Decidable (IsNormal cs) :=
  List.decidableBAll _ cs

namespace IsNormal

theorem append {a b : List Char} (ha : IsNormal a) (hb : IsNormal b) : IsNormal (a ++ b) :=
  List.forall_mem_append.2 ⟨ha, hb⟩

theorem cons {c : Char} {cs : List Char} (hc : isNormalChar c = true) (hcs : IsNormal cs) :
    IsNormal (c :: cs) :=
  List.forall_mem_cons.2 ⟨hc, hcs⟩

/-- Less of a normal text is normal. -/
theorem mono {a b : List Char} (hb : IsNormal b) (h : a ⊆ b) : IsNormal a := fun c hc => hb c (h hc)

/-- **Normalising makes texts normal.** -/
theorem normalize (cs : List Char) : IsNormal (normalize cs) :=
  fun _ => isNormalChar_of_mem_normalize

theorem dropUnderscores {cs : List Char} (h : IsNormal cs) :
    IsNormal (Namer.dropUnderscores cs) := by
  have hsuffix : (cs.reverse.dropWhile (· == '_')).reverse ⊆ cs := fun c hc => by
    rw [List.mem_reverse] at hc
    exact List.mem_reverse.1 ((List.dropWhile_suffix _).subset hc)
  exact h.mono hsuffix

/-- Parts are joined by a character that is normal itself. -/
theorem joinParts {parts : List (List Char)} (h : ∀ part ∈ parts, IsNormal part) :
    IsNormal (Namer.joinParts parts) := by
  induction parts with
  | nil => exact fun c hc => absurd hc (by simp [Namer.joinParts])
  | cons first parts ih =>
    rw [List.forall_mem_cons] at h
    cases parts with
    | nil => simpa [Namer.joinParts] using h.1
    | cons second parts =>
      rw [Namer.joinParts_cons_cons]
      exact h.1.append (cons rfl (ih h.2))

end IsNormal

/-- Digests are written in lower-case hexadecimal digits. -/
theorem Hash.exists_of_mem_sha256 {text : String} {c : Char} (h : c ∈ (sha256 text).toList) :
    ∃ n < 16, c = Nat.digitChar n := by
  rw [sha256, String.toList_ofList, List.mem_flatMap] at h
  obtain ⟨b, -, hc⟩ := h
  have hbound : b.toNat < 256 := b.toNat_lt
  simp only [hexByte, List.mem_cons, List.not_mem_nil, or_false] at hc
  rcases hc with rfl | rfl
  · exact ⟨_, by omega, rfl⟩
  · exact ⟨_, by omega, rfl⟩

/-- The digits of a fingerprint are lowercase, and so are normal. -/
theorem isNormal_sha256 (text : String) : IsNormal (Hash.sha256 text).toList := by
  have hdigit : ∀ n < 16, isNormalChar (Nat.digitChar n) = true := by decide
  intro c hc
  obtain ⟨n, hn, rfl⟩ := Hash.exists_of_mem_sha256 hc
  exact hdigit n hn

/-- So are fingerprints. -/
theorem exists_of_mem_fingerprint {sql : String} {c : Char}
    (h : c ∈ (fingerprint sql).toList) : ∃ n < 16, c = Nat.digitChar n := by
  rw [fingerprint, String.toList_ofList] at h
  exact Hash.exists_of_mem_sha256 (List.mem_of_mem_take h)

/-- The codes of the kinds need not be normalised. -/
theorem RuleKind.isNormal_code (kind : RuleKind) : IsNormal kind.code.toList := by
  cases kind <;> (rw [code]; decide)

namespace Namer

variable (namer : Namer) (table : String)

/-- What stands between the prefix and the code has been normalised. -/
theorem isNormal_middle (spec : RuleSpec) :
    IsNormal (joinParts ((rawParts table spec).map normalize)) := by
  refine .joinParts fun part hpart => ?_
  obtain ⟨raw, -, rfl⟩ := List.mem_map.1 hpart
  exact .normalize raw

variable [Pattern.SizeTest]

/-- **The name of a constraint is normal**, whatever it is named for. -/
theorem isNormal_name (rule : Rule) : IsNormal (namer.name table rule).toList := by
  have hmiddle := isNormal_middle table rule.spec
  simp only [name, String.toList_ofList]
  split_ifs
  · refine .joinParts ?_
    simp only [List.forall_mem_cons]
    exact ⟨namer.normal, hmiddle, rule.spec.kind.isNormal_code, List.forall_mem_nil _⟩
  · refine .joinParts ?_
    simp only [List.forall_mem_cons]
    exact ⟨namer.normal, (hmiddle.mono (List.take_subset _ _)).dropUnderscores,
      rule.spec.kind.isNormal_code, (isNormal_sha256 _).mono (List.take_subset _ _),
      List.forall_mem_nil _⟩

end Namer

end ColumnChecks
