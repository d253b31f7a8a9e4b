import Mathlib.Data.Fintype.Pigeonhole
import ColumnChecks.Plan.Statement
import ColumnChecks.Proofs.Decimal.Numeral
import ColumnChecks.Proofs.Sql.Comments

/-!
# Dollar tags

The tag that quotes a block is found by counting up until a tag does not stand in
the block. The count ends because two different tags cannot start at the same
place: a tag goes on to its second dollar sign, so the text from that place on says
which tag it is. A text of `n` characters has room for at most `n` tags, and among
`n + 1` tags one is free (`ColumnChecks.exists_free_dollarTag`).

The tag that is found is the first free one (`ColumnChecks.quotingTag_spec`).
-/

namespace ColumnChecks

theorem Text.occursIn_iff {piece cs : List Char} :
    Text.occursIn piece cs = true ↔ piece <:+: cs := by
  induction cs with
  | nil => rw [Text.occursIn, List.isEmpty_iff, List.infix_nil]
  | cons c cs ih =>
    rw [Text.occursIn, Bool.or_eq_true, ih, List.isPrefixOf_iff_prefix, List.infix_cons_iff]

/-! ### The tags -/

/-- What stands between the signs of a numbered tag. -/
def tagName (n : Nat) : List Char :=
  "rein".toList ++ (if n = 0 then [] else Nat.toDigits 10 n)

theorem dollarTag_eq (n : Nat) : dollarTag n = '$' :: (tagName n ++ ['$']) := rfl

theorem isTag_dollarTag (n : Nat) : Sql.IsTag (dollarTag n) := by
  refine ⟨tagName n, dollarTag_eq n, fun c hc => ?_, rfl⟩
  rcases List.mem_append.1 hc with hword | hdigit
  · have hrein : "rein".toList.all Sql.isTagChar = true := by decide
    exact List.all_eq_true.1 hrein c hword
  · split_ifs at hdigit
    · cases hdigit
    · have := Decimal.isDigit_of_mem_toDigits hdigit
      rw [Sql.isTagChar, this, Bool.or_true]

theorem dollarTag_injective : Function.Injective dollarTag := by
  intro n m h
  rw [dollarTag_eq, dollarTag_eq, List.cons.injEq] at h
  have hname := List.append_cancel_left (List.append_cancel_right h.2)
  split_ifs at hname with hn hm hm
  · rw [hn, hm]
  · exact absurd hname.symm Nat.toDigits_ne_nil
  · exact absurd hname Nat.toDigits_ne_nil
  · rw [← Decimal.natOfDigits_toDigits n, hname, Decimal.natOfDigits_toDigits]

/-! ### The search -/

/-- **Among more tags than a text has characters, one is free.** -/
theorem exists_free_dollarTag (body : List Char) :
    ∃ n ≤ body.length, Text.occursIn (dollarTag n) body = false := by
  by_contra! hall
  have hplace : ∀ n : Fin (body.length + 1), ∃ i : Fin body.length,
      ∃ before rest, before ++ dollarTag n ++ rest = body ∧ before.length = i := by
    intro n
    have hn := hall n (Nat.lt_succ_iff.1 n.isLt)
    rw [Bool.ne_false_iff, Text.occursIn_iff] at hn
    obtain ⟨before, rest, hbody⟩ := hn
    have hlength : before.length < body.length := by
      rw [← hbody, dollarTag_eq]
      simp only [List.length_append, List.length_cons]
      omega
    exact ⟨⟨before.length, hlength⟩, before, rest, hbody, rfl⟩
  choose place hplace using hplace
  obtain ⟨n, m, hne, heq⟩ := Fintype.exists_ne_map_eq_of_card_lt place (by simp)
  obtain ⟨before, rest, hbody, hlength⟩ := hplace n
  obtain ⟨before', rest', hbody', hlength'⟩ := hplace m
  -- Both tags are read from the same place of the text.
  have htext : dollarTag n ++ rest = dollarTag m ++ rest' := by
    have hall := hbody.trans hbody'.symm
    rw [List.append_assoc, List.append_assoc] at hall
    exact (List.append_inj hall (by rw [hlength, hlength', heq])).2
  have htag := (isTag_dollarTag n).openingTag?_append rest
  rw [htext, (isTag_dollarTag m).openingTag?_append] at htag
  exact hne (Fin.ext (dollarTag_injective (Option.some_inj.1 htag).symm))

theorem freeTag_spec {body : List Char} {fuel n m : Nat} (hnm : n ≤ m) (hm : m ≤ n + fuel)
    (hfree : Text.occursIn (dollarTag m) body = false) :
    ∃ k, freeTag body fuel n = dollarTag k ∧ Text.occursIn (dollarTag k) body = false ∧
      ∀ j, n ≤ j → j < k → Text.occursIn (dollarTag j) body = true := by
  induction fuel generalizing n with
  | zero =>
    obtain rfl : n = m := by omega
    exact ⟨n, rfl, hfree, fun j hj hlt => absurd hlt (Nat.not_lt.2 hj)⟩
  | succ fuel ih =>
    rw [freeTag]
    split_ifs with htaken
    · have hne : n ≠ m := by
        rintro rfl
        rw [htaken] at hfree
        cases hfree
      obtain ⟨k, htag, hk, hbefore⟩ := ih (n := n + 1) (by omega) (by omega)
      refine ⟨k, htag, hk, fun j hj hlt => ?_⟩
      rcases Nat.eq_or_lt_of_le hj with rfl | hj
      · exact htaken
      · exact hbefore j hj hlt
    · exact ⟨n, rfl, Bool.eq_false_iff.2 htaken, fun j hj hlt => absurd hlt (Nat.not_lt.2 hj)⟩

/-- **The tag that quotes a text** is the first one that does not stand in it. -/
theorem quotingTag_spec (body : List Char) :
    ∃ k, quotingTag body = dollarTag k ∧ Text.occursIn (dollarTag k) body = false ∧
      ∀ j < k, Text.occursIn (dollarTag j) body = true := by
  obtain ⟨m, hm, hfree⟩ := exists_free_dollarTag body
  have hfuel : m ≤ 0 + (body.length + 1) := by omega
  obtain ⟨k, htag, hk, hbefore⟩ := freeTag_spec (Nat.zero_le m) hfuel hfree
  exact ⟨k, htag, hk, fun j hj => hbefore j (Nat.zero_le j) hj⟩

/-- It is a tag, and what it quotes does not have it. -/
theorem quotingTag_free (body : List Char) :
    Sql.IsTag (quotingTag body) ∧ ¬ quotingTag body <:+: body := by
  obtain ⟨k, htag, hfree, -⟩ := quotingTag_spec body
  rw [htag]
  refine ⟨isTag_dollarTag k, fun h => ?_⟩
  rw [Text.occursIn_iff.2 h] at hfree
  cases hfree

end ColumnChecks
