import ColumnChecks.Proofs.Plan.Record

/-!
# Quoting a block

The statement that adds a constraint is a block between two copies of a dollar tag. The block has
names, texts and a predicate in it that may hold anything, tags included, so the tag is looked for
by counting until one does not stand in the block. Nothing in the loop itself says that it ends:
`ColumnChecks.SearchEnds` is the loop without a bound, and **it ends** since a text has room for no
more tags than it has characters (`ColumnChecks.exists_searchEnds`).

The server ends the quote where the tag occurs first. A line end stands before the closing tag,
and no tag goes past one; so the tag occurs **just once** behind the opening one
(`ColumnChecks.Sql.IsTag.eq_of_occurrence`), and what is quoted is the block
(`ColumnChecks.addStatement_quotes`).
-/

namespace ColumnChecks

open Sql (TableRef IsTag openingTag? doBlock?)

/-! ### The search for a tag -/

/-- **The search for a tag**, from a number on, ends at another: it goes on to the next number for
as long as the tag of a number stands in the text. -/
inductive SearchEnds (body : List Char) : Nat → Nat → Prop where
  | free {n : Nat} (h : Text.occursIn (dollarTag n) body = false) : SearchEnds body n n
  | taken {n k : Nat} (h : Text.occursIn (dollarTag n) body = true)
      (more : SearchEnds body (n + 1) k) : SearchEnds body n k

/-- The search ends at the first free tag, if there is one. -/
theorem searchEnds_iff {body : List Char} {n k : Nat} :
    SearchEnds body n k ↔ n ≤ k ∧ Text.occursIn (dollarTag k) body = false ∧
      ∀ j, n ≤ j → j < k → Text.occursIn (dollarTag j) body = true := by
  constructor
  · intro h
    induction h with
    | free h => exact ⟨le_rfl, h, fun j hj hlt => absurd hlt (Nat.not_lt.2 hj)⟩
    | taken h more ih =>
      obtain ⟨hle, hfree, hbefore⟩ := ih
      refine ⟨Nat.le_of_succ_le hle, hfree, fun j hj hlt => ?_⟩
      rcases Nat.eq_or_lt_of_le hj with rfl | hj
      · exact h
      · exact hbefore j hj hlt
  · rintro ⟨hle, hfree, hbefore⟩
    -- The number of tags that are still to be passed goes down.
    induction hsteps : k - n generalizing n with
    | zero =>
      obtain rfl : n = k := by omega
      exact .free hfree
    | succ steps ih =>
      exact .taken (hbefore n le_rfl (by omega))
        (ih (by omega) (fun j hj => hbefore j (by omega)) (by omega))

/-- **The search ends**, within as many steps as the text has characters, and finds the tag that
quotes the text. -/
theorem exists_searchEnds (body : List Char) :
    ∃ k ≤ body.length, SearchEnds body 0 k ∧ quotingTag body = dollarTag k := by
  obtain ⟨k, htag, hfree, hbefore⟩ := quotingTag_spec body
  obtain ⟨m, hm, hother⟩ := exists_free_dollarTag body
  refine ⟨k, ?_, searchEnds_iff.2 ⟨Nat.zero_le k, hfree, fun j _ => hbefore j⟩, htag⟩
  by_contra hlong
  rw [hbefore m (by omega)] at hother
  cases hother

/-- The tag of a number, as it is written. -/
def writtenTag (k : Nat) : String := if k = 0 then "$rein$" else "$rein" ++ toString k ++ "$"

theorem toList_writtenTag (k : Nat) : (writtenTag k).toList = dollarTag k := by
  have hdigits : (toString k).toList = Nat.toDigits 10 k := String.toList_ofList
  have htag : dollarTag k =
      "$rein".toList ++ (if k = 0 then [] else Nat.toDigits 10 k) ++ ['$'] := rfl
  rw [writtenTag, htag]
  split_ifs with hk
  · rfl
  · rw [String.toList_append, String.toList_append, hdigits]
    rfl

/-! ### The quote -/

/-- **The tag occurs once** behind the opening one: where the quote is closed. -/
theorem Sql.IsTag.eq_of_occurrence {tag body before rest : List Char} (h : IsTag tag)
    (hfree : ¬ tag <:+: body)
    (hsplit : before ++ (tag ++ rest) = ('\n' :: body ++ ['\n']) ++ (tag ++ [';'])) :
    before = '\n' :: body ++ ['\n'] ∧ rest = [';'] := by
  have hline : '\n' ∉ tag := h.not_mem rfl (by decide)
  have hmark : ';' ∉ tag := h.not_mem rfl (by decide)
  have hfree' : ¬ tag <:+: '\n' :: body := h.not_infix_cons hfree
  rcases List.append_eq_append_iff.1 hsplit with ⟨between, hbefore, hrest⟩ | ⟨more, hbefore, hrest⟩
  · -- The occurrence starts before the closing tag, so unless it is that, a line end follows.
    rcases List.eq_nil_or_concat between with rfl | ⟨init, last, rfl⟩
    · rw [List.append_nil] at hbefore
      exact ⟨hbefore.symm, List.append_cancel_left hrest⟩
    · rw [List.concat_eq_append, ← List.append_assoc] at hbefore
      obtain ⟨hbody, hlast⟩ := List.append_inj' hbefore rfl
      obtain rfl : '\n' = last := List.singleton_inj.1 hlast
      rw [List.concat_eq_append, List.append_assoc, List.singleton_append] at hrest
      have htag : tag <+: init := prefix_of_prefix_append hline ⟨rest, hrest⟩
      rw [hbody] at hfree'
      exact absurd (htag.isInfix.trans (List.suffix_append before init).isInfix) hfree'
  · -- It starts in the closing tag, and behind that there is only a semicolon.
    cases more with
    | nil => exact ⟨by rw [hbefore, List.append_nil], (List.append_cancel_left hrest).symm⟩
    | cons c more =>
      have hlength := congrArg List.length hrest
      simp only [List.length_append, List.length_cons, List.length_nil] at hlength
      obtain rfl : more = [] := List.eq_nil_of_length_eq_zero (by omega)
      rw [← h.cons_tail, List.singleton_append, List.cons_append, List.cons.injEq,
        h.cons_tail] at hrest
      have hmem : ';' ∈ tag ++ rest := hrest.2 ▸ List.mem_append_right _ List.mem_cons_self
      obtain rfl : rest = [] := List.eq_nil_of_length_eq_zero (by omega)
      rw [List.append_nil] at hmem
      exact absurd hmem hmark

/-- **What the server quotes is the block.** Whatever the names, the predicate and the fingerprint
are, the search for a tag ends, at the first number whose tag does not stand in the block; the
statement is the block between two copies of that tag; the tag occurs behind the opening one only
where it closes the quote; and a reader of dollar quotes finds the block. -/
theorem addStatement_quotes (table : TableRef) (name predicate fingerprint : String)
    (validate : Bool) :
    let statement := addStatement table name predicate fingerprint validate
    let block := addBlock table name predicate fingerprint validate
    let body := block.toList
    ∃ k ≤ body.length, SearchEnds body 0 k ∧
      let tag := writtenTag k
      statement = "DO " ++ tag ++ "\n" ++ block ++ "\n" ++ tag ++ ";" ∧
      ¬ tag.toList <:+: body ∧ (∀ j < k, (writtenTag j).toList <:+: body) ∧
      (∀ before rest, before ++ (tag.toList ++ rest) =
          ('\n' :: body ++ ['\n']) ++ (tag.toList ++ [';']) →
        before = '\n' :: body ++ ['\n'] ∧ rest = [';']) ∧
      doBlock? statement.toList = some ('\n' :: (body ++ ['\n'])) := by
  intro statement block body
  obtain ⟨k, hk, hsearch, htag⟩ := exists_searchEnds body
  obtain ⟨-, hfree, hbefore⟩ := searchEnds_iff.1 hsearch
  have hnot : ¬ dollarTag k <:+: body := fun h => by
    rw [Text.occursIn_iff.2 h] at hfree
    cases hfree
  rw [← toList_writtenTag] at htag hnot
  have hwritten : String.ofList (quotingTag body) = writtenTag k := by
    rw [htag, String.ofList_toList]
  refine ⟨k, hk, hsearch, ?_, hnot, fun j hj => ?_, fun before rest hsplit => ?_,
    doBlock?_addStatement table name predicate fingerprint validate⟩
  · exact congrArg (fun tag => "DO " ++ tag ++ "\n" ++ block ++ "\n" ++ tag ++ ";") hwritten
  · rw [toList_writtenTag]
    exact Text.occursIn_iff.1 (hbefore j (Nat.zero_le j) hj)
  · refine IsTag.eq_of_occurrence ?_ hnot hsplit
    rw [toList_writtenTag]
    exact isTag_dollarTag k

end ColumnChecks
