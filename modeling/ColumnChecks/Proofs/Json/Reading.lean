import Mathlib.Data.List.DropRight
import ColumnChecks.Proofs.Json.Texts
import ColumnChecks.Proofs.Json.Numbers

/-!
# Written values read back

The reader of JSON values is a loop with fuel, and three units of fuel for every
character are always enough. Under this measure **a text is read as a value** when the
reader finds that value at the front of it whatever follows
(`ColumnChecks.Draft.Reads`); all that is asked of what follows is that it does not go on
with a number.

Texts that are read put together are read. Arrays and objects are loops of one kind, which
read their parts one after the other, with commas in between, up to a closing bracket
(`ColumnChecks.Draft.Loop`), and what one turn of such a loop does is all that has to be
known of it (`ColumnChecks.Draft.Loop.run`). Blanks in front of a part make no difference,
so that **both forms in which a value can be written are read as the value**, the compact
one (`ColumnChecks.Draft.reads_print`) and the wide one
(`ColumnChecks.Draft.reads_printWide`).
-/

namespace ColumnChecks

namespace Draft

/-! ### Blanks -/

/-- A text of nothing but blanks. -/
def Blank (cs : List Char) : Prop := ∀ c ∈ cs, isSpace c = true

theorem dropSpace_append {blanks : List Char} (h : Blank blanks) (cs : List Char) :
    dropSpace (blanks ++ cs) = dropSpace cs := List.dropWhile_append_of_pos h

theorem dropSpace_cons {c : Char} (h : isSpace c = false) (cs : List Char) :
    dropSpace (c :: cs) = c :: cs :=
  List.dropWhile_cons_of_neg (by rw [h]; exact Bool.false_ne_true)

theorem dropSpace_dropSpace (cs : List Char) : dropSpace (dropSpace cs) = dropSpace cs :=
  List.dropWhile_idempotent isSpace cs

theorem value_dropSpace (fuel : Nat) (cs : List Char) :
    value fuel (dropSpace cs) = value fuel cs := by
  cases fuel with
  | zero => rfl
  | succ fuel => rw [value, value, dropSpace_dropSpace]

theorem value_append_blank (fuel : Nat) {blanks : List Char} (h : Blank blanks) (cs : List Char) :
    value fuel (blanks ++ cs) = value fuel cs := by
  rw [← value_dropSpace, dropSpace_append h, value_dropSpace]

/-- Nothing closes where a value stands. -/
theorem dropSpace_of_value {fuel : Nat} {cs rest : List Char} {found : Draft}
    (h : value fuel cs = (found, some rest)) :
    ∃ c tail, dropSpace cs = c :: tail ∧ c ≠ ']' := by
  cases fuel with
  | zero => cases h
  | succ fuel =>
    rw [value] at h
    cases hcs : dropSpace cs with
    | nil =>
      rw [hcs] at h
      cases h
    | cons c tail =>
      refine ⟨c, tail, rfl, ?_⟩
      rintro rfl
      rw [hcs] at h
      cases h

theorem endsNumeral_cons {c : Char} {cs : List Char} :
    EndsNumeral (c :: cs) ↔ c.isDigit = false ∧ c ≠ '.' ∧ c ≠ 'e' ∧ c ≠ 'E' := by
  constructor
  · exact fun h => h c rfl
  · rintro h d hd
    cases hd
    exact h

theorem endsNumeral_nil : EndsNumeral [] := fun _ h => nomatch h

theorem Blank.endsNumeral_append {blanks cs : List Char} (h : Blank blanks) (hcs : EndsNumeral cs) :
    EndsNumeral (blanks ++ cs) := by
  cases blanks with
  | nil => exact hcs
  | cons c blanks =>
    have hc := h c List.mem_cons_self
    simp only [isSpace, Bool.or_eq_true, beq_iff_eq] at hc
    rw [List.cons_append, endsNumeral_cons]
    rcases hc with ((rfl | rfl) | rfl) | rfl <;> decide

/-! ### Texts that are read -/

/-- The text is read as the value, whatever follows it. -/
def Reads (text : List Char) (found : Draft) : Prop :=
  ∀ (fuel : Nat) (rest : List Char), 3 * text.length ≤ fuel → EndsNumeral rest →
    value fuel (text ++ rest) = (found, some rest)

theorem Reads.blank {blanks text : List Char} {found : Draft} (hblanks : Blank blanks)
    (h : Reads text found) : Reads (blanks ++ text) found := by
  intro fuel rest hfuel hrest
  rw [List.length_append] at hfuel
  rw [List.append_assoc, value_append_blank fuel hblanks]
  exact h fuel rest (by omega) hrest

/-- The fuel for a text that is not empty is enough for a first step. -/
theorem Reads.of_succ {text : List Char} {found : Draft} (hne : text ≠ [])
    (h : ∀ (fuel : Nat) (rest : List Char), 3 * text.length ≤ fuel + 1 → EndsNumeral rest →
      value (fuel + 1) (text ++ rest) = (found, some rest)) : Reads text found := by
  intro fuel rest hfuel hrest
  have hlength := List.length_pos_of_ne_nil hne
  obtain ⟨fuel, rfl⟩ : ∃ n, fuel = n + 1 := ⟨fuel - 1, by omega⟩
  exact h fuel rest hfuel hrest

/-- A text that is read as a value holds the value, and nothing follows it. -/
theorem Reads.read_eq {text : String} {found : Draft} (h : Reads text.toList found) :
    read text = ⟨found, false⟩ := by
  have hvalue := h (3 * text.toList.length + 3) [] (by omega) endsNumeral_nil
  rw [List.append_nil] at hvalue
  simp only [read, hvalue]
  rfl

/-- **A reader finds in a text what it finds in the value.** -/
theorem parse_eq {α : Type} {text : String} {found : Draft} (h : read text = ⟨found, false⟩)
    (reader : Draft → Except JsonError α) : parse reader text = reader found := by
  rw [parse, h]
  cases reader found <;> rfl

theorem reads_null : Reads ['n', 'u', 'l', 'l'] .null :=
  .of_succ (List.cons_ne_nil _ _) fun _ _ _ _ => rfl

theorem reads_bool (b : Bool) : Reads (if b then "true" else "false").toList (.bool b) := by
  cases b with
  | true => exact .of_succ (List.cons_ne_nil _ _) fun _ _ _ _ => rfl
  | false => exact .of_succ (List.cons_ne_nil _ _) fun _ _ _ _ => rfl

theorem reads_text (s : String) : Reads (Json.printText s).toList (.text (some s)) := by
  rw [Json.printText, String.toList_ofList]
  refine .of_succ (List.cons_ne_nil _ _) fun fuel rest _ _ => ?_
  rw [List.cons_append, List.cons_append, List.append_assoc, List.singleton_append, value,
    dropSpace_cons rfl]
  simp only [readText_printText]

/-- A value that starts with a digit is a number. -/
theorem value_digit {c : Char} (hc : c.isDigit = true) (fuel : Nat) (cs : List Char) :
    value (fuel + 1) (c :: cs) = numeral false (c :: cs) := by
  have hne : ∀ d : Char, d.isDigit = false → c ≠ d := by
    rintro d hd rfl
    rw [hc] at hd
    cases hd
  have hspace : isSpace c = false := by
    rw [isSpace]
    simp [hne ' ' rfl, hne '\n' rfl, hne '\t' rfl, hne '\r' rfl]
  rw [value, dropSpace_cons hspace]
  split
  case h_8 heq =>
    cases heq
    exact if_pos hc
  case h_9 heq => cases heq
  all_goals
    next heq =>
      cases heq
      cases hc

/-- **A numeral is read** as its parts are. -/
theorem reads_numeral (negative : Bool) (n : JsonNumeral) :
    Reads ((if negative then ['-'] else []) ++ n.chars) (.number (n.number negative)) := by
  obtain ⟨c, cs, hwhole⟩ := List.exists_cons_of_ne_nil n.whole_ne_nil
  have hc : c.isDigit = true := n.whole_isDigit c (hwhole ▸ List.mem_cons_self)
  have hne : (if negative then ['-'] else []) ++ n.chars ≠ [] := by
    rw [JsonNumeral.chars, hwhole]
    simp
  refine .of_succ hne fun fuel rest _ hrest => ?_
  have hread := numeral_chars negative n hrest
  obtain ⟨tail, htail⟩ : ∃ tail, n.chars ++ rest = c :: tail := by
    rw [JsonNumeral.chars, hwhole]
    exact ⟨_, rfl⟩
  rw [List.append_assoc]
  cases negative with
  | true =>
    rw [if_pos rfl, List.singleton_append, value, dropSpace_cons rfl]
    exact hread
  | false =>
    rw [if_neg Bool.false_ne_true, List.nil_append, htail, value_digit hc, ← htail, hread]

/-- A double reads back if its numeral is read as the double. -/
theorem readsBack_iff {d : Decimal} {negative : Bool} {n : JsonNumeral}
    (hchars : (Decimal.json.write d).toList = (if negative then ['-'] else []) ++ n.chars) :
    d.ReadsBack ↔ n.number negative = some (.decimal d) := by
  have hread : read (Decimal.json.write d) = ⟨.number (n.number negative), false⟩ :=
    Reads.read_eq (hchars ▸ reads_numeral negative n)
  rw [Decimal.ReadsBack, parseJson, parse_eq hread]
  cases n.number negative with
  | none => simp [strict]
  | some number => simp [strict]

/-- **A number is read** as itself. -/
theorem reads_number {n : JsonNumber} (h : n.Written) :
    Reads n.print.toList (.number (some n)) := by
  obtain ⟨negative, numeral, hchars, hwhole⟩ := JsonNumber.exists_numeral h
  have hnumber : numeral.number negative = some n := by
    cases n with
    | whole i => exact hwhole i rfl
    | decimal d => exact (readsBack_iff hchars).1 h.2
  rw [hchars, ← hnumber]
  exact reads_numeral negative numeral

/-! ### Parts with commas in between -/

/-- Put a part in front of what a loop reads. -/
def prepend {β : Type} (part : β) (found : List β × Option Break × Option (List Char)) :
    List β × Option Break × Option (List Char) := (part :: found.1, found.2)

/-- A loop that reads parts with commas in between: it stops at its closing bracket, and
takes a part whether it is the first one or stands behind a comma. -/
structure Loop {β : Type}
    (run : Nat → Bool → List Char → List β × Option Break × Option (List Char))
    (close : Char) (Part : List Char → β → Prop) : Prop where
  ends : EndsNumeral [close]
  closing {fuel : Nat} {first : Bool} {blanks rest : List Char} : Blank blanks →
    run (fuel + 1) first (blanks ++ close :: rest) = ([], none, some rest)
  -- Two units of fuel are used up on the way to the value of a part.
  taking {fuel : Nat} {text rest : List Char} {part : β} : Part text part →
    3 * text.length ≤ fuel → EndsNumeral rest →
      run (fuel + 2) true (text ++ rest) = prepend part (run fuel false rest) ∧
        run (fuel + 2) false (',' :: (text ++ rest)) = prepend part (run fuel false rest)

namespace Loop

variable {β : Type} {run : Nat → Bool → List Char → List β × Option Break × Option (List Char)}
  {close : Char} {Part : List Char → β → Prop}

/-- Parts, each behind a comma, and the closing bracket. -/
def tail (close : Char) (texts : List (List Char)) (blanks rest : List Char) : List Char :=
  texts.flatMap (',' :: ·) ++ (blanks ++ close :: rest)

theorem tail_cons (close : Char) (text : List Char) (texts : List (List Char))
    (blanks rest : List Char) :
    tail close (text :: texts) blanks rest = ',' :: (text ++ tail close texts blanks rest) := by
  rw [tail, tail, List.flatMap_cons, List.cons_append, List.cons_append, List.append_assoc]

theorem endsNumeral_tail (loop : Loop run close Part) (texts : List (List Char))
    {blanks : List Char} (hblanks : Blank blanks) (rest : List Char) :
    EndsNumeral (tail close texts blanks rest) := by
  cases texts with
  | nil => exact hblanks.endsNumeral_append (endsNumeral_cons.2 (endsNumeral_cons.1 loop.ends))
  | cons text texts =>
    rw [tail_cons, endsNumeral_cons]
    decide

/-- The loop takes the parts one after the other, and stops. -/
theorem run_tail (loop : Loop run close Part) {texts : List (List Char)} {parts : List β}
    (hparts : List.Forall₂ Part texts parts) {blanks : List Char} (hblanks : Blank blanks)
    (rest : List Char) (fuel : Nat)
    (hfuel : 3 * (texts.flatMap (',' :: ·)).length + 1 ≤ fuel) :
    run fuel false (tail close texts blanks rest) = (parts, none, some rest) := by
  induction hparts generalizing fuel with
  | nil =>
    obtain ⟨fuel, rfl⟩ := Nat.exists_eq_add_of_le' hfuel
    exact loop.closing hblanks
  | @cons text part texts parts hpart _ ih =>
    rw [List.flatMap_cons, List.length_append, List.length_cons] at hfuel
    obtain ⟨fuel, rfl⟩ : ∃ n, fuel = n + 2 := ⟨fuel - 2, by omega⟩
    rw [tail_cons, (loop.taking hpart (by omega) (loop.endsNumeral_tail texts hblanks rest)).2,
      ih fuel (by omega)]
    rfl

theorem intercalate_cons (text : List Char) (texts : List (List Char)) :
    [','].intercalate (text :: texts) = text ++ texts.flatMap (',' :: ·) := by
  induction texts generalizing text with
  | nil => simp
  | cons next texts ih => rw [List.intercalate_cons_cons, ih, List.flatMap_cons]; simp

/-- **The loop reads all its parts.** -/
theorem run_intercalate (loop : Loop run close Part) {texts : List (List Char)} {parts : List β}
    (hparts : List.Forall₂ Part texts parts) {blanks : List Char} (hblanks : Blank blanks)
    (rest : List Char) (fuel : Nat)
    (hfuel : 3 * ([','].intercalate texts).length + 3 ≤ fuel) :
    run fuel true ([','].intercalate texts ++ (blanks ++ close :: rest)) =
      (parts, none, some rest) := by
  cases hparts with
  | nil =>
    obtain ⟨fuel, rfl⟩ : ∃ n, fuel = n + 1 := ⟨fuel - 1, by omega⟩
    exact loop.closing hblanks
  | @cons text part texts parts hpart hparts =>
    rw [intercalate_cons, List.length_append] at hfuel
    obtain ⟨fuel, rfl⟩ : ∃ n, fuel = n + 2 := ⟨fuel - 2, by omega⟩
    have hlength : 3 * text.length ≤ fuel := by omega
    have htake := (loop.taking hpart hlength (loop.endsNumeral_tail texts hblanks rest)).1
    have hrest := loop.run_tail hparts hblanks rest fuel (by omega)
    rw [intercalate_cons, List.append_assoc]
    exact htake.trans (congrArg (prepend part) hrest)

end Loop

/-! ### Arrays -/

theorem loop_items : Loop items ']' Reads where
  ends := by rw [endsNumeral_cons]; decide
  closing hblanks := by
    rw [items.eq_def]
    simp only [dropSpace_append hblanks, dropSpace_cons (c := ']') rfl]
  taking {fuel text rest part} hpart hfuel hrest := by
    have hvalue := hpart fuel rest hfuel hrest
    obtain ⟨c, tail, hcs, hc⟩ := dropSpace_of_value hvalue
    have hitem : item (fuel + 1) (c :: tail) = prepend part (items fuel false rest) := by
      rw [item, ← hcs, value_dropSpace, hvalue]
      rfl
    constructor
    · rw [items.eq_def]
      simp only [hcs, hitem]
    · rw [items.eq_def]
      simp only [hcs, dropSpace_cons (c := ',') rfl]
      -- Behind a comma there is a value, so it does not come before the closing bracket.
      split
      · next heq =>
        cases heq
        exact absurd rfl hc
      · exact hitem

/-- **An array is read** when its items are. -/
theorem reads_array {texts : List (List Char)} {found : List Draft}
    (h : List.Forall₂ Reads texts found) {blanks : List Char} (hblanks : Blank blanks) :
    Reads ('[' :: ([','].intercalate texts ++ (blanks ++ [']']))) (.array found none) := by
  refine .of_succ (List.cons_ne_nil _ _) fun fuel rest hfuel _ => ?_
  simp only [List.length_cons, List.length_append] at hfuel
  have hrun := loop_items.run_intercalate h hblanks rest fuel (by omega)
  rw [List.cons_append, List.append_assoc, List.append_assoc, List.singleton_append, value,
    dropSpace_cons rfl]
  simp only [hrun]

/-! ### Objects -/

/-- The text is read as a member: a name between quotes, a colon and a value. -/
def ReadsMember (text : List Char) (entry : Option String × Draft) : Prop :=
  ∃ (blanks : List Char) (name : String) (value : List Char), Blank blanks ∧
    entry.1 = some name ∧ Reads value entry.2 ∧
    text = blanks ++ ('"' :: (name.toList.flatMap Json.printChar ++ '"' :: ':' :: value))

theorem loop_members : Loop members '\x7d' ReadsMember where
  ends := by rw [endsNumeral_cons]; decide
  closing hblanks := by
    rw [members.eq_def]
    simp only [dropSpace_append hblanks, dropSpace_cons (c := '\x7d') rfl]
  taking {fuel text rest part} hpart hfuel hrest := by
    obtain ⟨blanks, name, value, hblanks, hname, hvalue, rfl⟩ := hpart
    obtain ⟨_, found⟩ := part
    cases hname
    simp only [List.length_append, List.length_cons] at hfuel
    have hread := hvalue fuel rest (by omega) hrest
    obtain ⟨tail, htail⟩ : ∃ tail, tail =
      name.toList.flatMap Json.printChar ++ '"' :: ':' :: (value ++ rest) := ⟨_, rfl⟩
    have hmember : member (fuel + 1) tail =
        prepend (some name, found) (members fuel false rest) := by
      rw [member, htail, readText_printText]
      simp only [dropSpace_cons (c := ':') rfl, hread]
      rfl
    have htext : blanks ++ ('"' :: (name.toList.flatMap Json.printChar ++ '"' :: ':' :: value)) ++
        rest = blanks ++ '"' :: tail := by
      rw [htail]
      simp
    rw [htext]
    constructor
    · rw [members.eq_def]
      simp only [dropSpace_append hblanks, dropSpace_cons (c := '"') rfl, hmember]
    · rw [members.eq_def]
      simp only [dropSpace_append hblanks, dropSpace_cons (c := '"') rfl,
        dropSpace_cons (c := ',') rfl, hmember]

/-- **An object is read** when its members are. -/
theorem reads_object {texts : List (List Char)} {found : List (Option String × Draft)}
    (h : List.Forall₂ ReadsMember texts found) {blanks : List Char} (hblanks : Blank blanks) :
    Reads ('\x7b' :: ([','].intercalate texts ++ (blanks ++ ['\x7d']))) (.object found none) := by
  refine .of_succ (List.cons_ne_nil _ _) fun fuel rest hfuel _ => ?_
  simp only [List.length_cons, List.length_append] at hfuel
  have hrun := loop_members.run_intercalate h hblanks rest fuel (by omega)
  rw [List.cons_append, List.append_assoc, List.append_assoc, List.singleton_append, value,
    dropSpace_cons rfl]
  simp only [hrun]

end Draft

namespace Json

/-! ### Written values -/

mutual

/-- All numbers of the value are numbers that a text can hold. -/
def Written : Json → Prop
  | .number n => n.Written
  | .array items => WrittenItems items
  | .object members => WrittenMembers members
  | _ => True

def WrittenItems : List Json → Prop
  | [] => True
  | item :: items => item.Written ∧ WrittenItems items

def WrittenMembers : List (String × Json) → Prop
  | [] => True
  | (_, value) :: members => value.Written ∧ WrittenMembers members

end

theorem writtenItems_iff {items : List Json} :
    WrittenItems items ↔ ∀ item ∈ items, item.Written := by
  induction items with
  | nil => simp [WrittenItems]
  | cons item items ih => rw [WrittenItems, ih, List.forall_mem_cons]

theorem writtenMembers_iff {members : List (String × Json)} :
    WrittenMembers members ↔ ∀ entry ∈ members, entry.2.Written := by
  induction members with
  | nil => simp [WrittenMembers]
  | cons entry members ih => rw [WrittenMembers, ih, List.forall_mem_cons]

theorem depthOfItems_le_iff {items : List Json} {depth : Nat} :
    depthOfItems items ≤ depth ↔ ∀ item ∈ items, item.depth ≤ depth := by
  induction items with
  | nil => exact iff_of_true (Nat.zero_le depth) (List.forall_mem_nil _)
  | cons item items ih => rw [depthOfItems, Nat.max_le, List.forall_mem_cons, ih]

theorem depthOfMembers_le_iff {members : List (String × Json)} {depth : Nat} :
    depthOfMembers members ≤ depth ↔ ∀ entry ∈ members, entry.2.depth ≤ depth := by
  induction members with
  | nil => exact iff_of_true (Nat.zero_le depth) (List.forall_mem_nil _)
  | cons entry members ih => rw [depthOfMembers, Nat.max_le, List.forall_mem_cons, ih]

/-- The members of an object are one level less deep. -/
theorem exists_depth_of_object {members : List (String × Json)} {depth : Nat}
    (h : (Json.object members).depth ≤ depth) :
    ∃ inner, depth = inner + 1 ∧ ∀ entry ∈ members, entry.2.depth ≤ inner := by
  rw [Json.depth] at h
  obtain ⟨inner, rfl⟩ := Nat.exists_eq_succ_of_ne_zero (Nat.ne_zero_of_lt h)
  exact ⟨inner, rfl, depthOfMembers_le_iff.1 (Nat.le_of_succ_le_succ h)⟩

end Json

namespace Draft

open Json (printItems printMembers printWideItems printWideMembers)

theorem blank_nil : Blank [] := List.forall_mem_nil _

/-- The start of a line with so many blanks. -/
def margin (indent : Nat) : List Char := '\n' :: List.replicate indent ' '

theorem blank_margin (indent : Nat) : Blank (margin indent) := by
  intro c hc
  rcases List.mem_cons.1 hc with rfl | hc
  · rfl
  · rw [List.eq_of_mem_replicate hc]
    rfl

theorem ReadsMember.blank {blanks text : List Char} {entry : Option String × Draft}
    (hblanks : Blank blanks) (h : ReadsMember text entry) :
    ReadsMember (blanks ++ text) entry := by
  obtain ⟨inner, name, value, hinner, hname, hvalue, rfl⟩ := h
  refine ⟨blanks ++ inner, name, value, fun c hc => ?_, hname, hvalue, ?_⟩
  · rcases List.mem_append.1 hc with hc | hc
    · exact hblanks c hc
    · exact hinner c hc
  · rw [List.append_assoc]

/-- A member is read when its value is. -/
theorem readsMember {name : String} {value : List Char} {found : Draft} (h : Reads value found) :
    ReadsMember ((Json.printText name).toList ++ ':' :: value) (some name, found) := by
  refine ⟨[], name, value, blank_nil, rfl, h, ?_⟩
  rw [Json.printText, String.toList_ofList]
  simp

theorem toList_enclose (opening closing : String) (texts : List String) :
    (Json.enclose opening closing texts).toList = opening.toList ++
      ([','].intercalate (texts.map String.toList) ++ ([] ++ closing.toList)) := by
  rw [Json.enclose, String.toList_append, String.toList_append, String.toList_intercalate,
    List.append_assoc]
  rfl

/-- Behind the last part of the wide form there is a line without a part, if there is a part
at all. -/
theorem toList_encloseWide (opening closing : String) (indent : Nat) (texts : List String) :
    ∃ blanks, Blank blanks ∧ (Json.encloseWide opening closing indent texts).toList =
      opening.toList ++ ([','].intercalate
        ((texts.map String.toList).map (margin (indent + 2) ++ ·)) ++
          (blanks ++ closing.toList)) := by
  cases texts with
  | nil => exact ⟨[], blank_nil, by simp [Json.encloseWide]⟩
  | cons text texts =>
    refine ⟨margin indent, blank_margin indent, ?_⟩
    simp only [Json.encloseWide, List.isEmpty_cons, Bool.false_eq_true, if_false,
      String.toList_append, String.toList_intercalate, List.map_map, Function.comp_def,
      String.toList_ofList, List.append_assoc]
    rfl

mutual

/-- **The compact form is read as the value.** -/
theorem reads_print : ∀ j : Json, j.Written → Reads j.print.toList (ofJson j)
  | .null, _ => reads_null
  | .bool b, _ => by
    rw [Json.print]
    exact reads_bool b
  | .number n, h => reads_number h
  | .text s, _ => reads_text s
  | .array items, h => by
    rw [Json.print, toList_enclose]
    exact reads_array (reads_printItems items h) blank_nil
  | .object members, h => by
    rw [Json.print, toList_enclose]
    exact reads_object (reads_printMembers members h) blank_nil

theorem reads_printItems : ∀ items : List Json, Json.WrittenItems items →
    List.Forall₂ Reads ((printItems items).map String.toList) (ofItems items)
  | [], _ => .nil
  | item :: items, h => .cons (reads_print item h.1) (reads_printItems items h.2)

theorem reads_printMembers : ∀ members : List (String × Json), Json.WrittenMembers members →
    List.Forall₂ ReadsMember ((printMembers members).map String.toList) (ofMembers members)
  | [], _ => .nil
  | (name, value) :: members, h => by
    refine .cons ?_ (reads_printMembers members h.2)
    rw [String.toList_append, String.toList_append, List.append_assoc]
    exact readsMember (reads_print value h.1)

end

mutual

/-- **The wide form is read as the value.** -/
theorem reads_printWide (indent : Nat) :
    ∀ j : Json, j.Written → Reads (j.printWide indent).toList (ofJson j)
  | .null, _ => by
    rw [Json.printWide]
    exact reads_null
  | .bool b, _ => by
    rw [Json.printWide]
    exact reads_bool b
  | .number n, h => by
    rw [Json.printWide]
    exact reads_number h
  | .text s, _ => by
    rw [Json.printWide]
    exact reads_text s
  | .array items, h => by
    obtain ⟨blanks, hblanks, hchars⟩ := toList_encloseWide "[" "]" indent
      (printWideItems (indent + 2) items)
    rw [Json.printWide, hchars]
    refine reads_array (List.forall₂_map_left_iff.2 ?_) hblanks
    exact (reads_printWideItems (indent + 2) items h).imp fun _ _ => Reads.blank (blank_margin _)
  | .object members, h => by
    obtain ⟨blanks, hblanks, hchars⟩ := toList_encloseWide "\x7b" "\x7d" indent
      (printWideMembers (indent + 2) members)
    rw [Json.printWide, hchars]
    refine reads_object (List.forall₂_map_left_iff.2 ?_) hblanks
    exact (reads_printWideMembers (indent + 2) members h).imp fun _ _ =>
      ReadsMember.blank (blank_margin _)

theorem reads_printWideItems (indent : Nat) : ∀ items : List Json, Json.WrittenItems items →
    List.Forall₂ Reads ((printWideItems indent items).map String.toList) (ofItems items)
  | [], _ => .nil
  | item :: items, h =>
    .cons (reads_printWide indent item h.1) (reads_printWideItems indent items h.2)

theorem reads_printWideMembers (indent : Nat) :
    ∀ members : List (String × Json), Json.WrittenMembers members →
      List.Forall₂ ReadsMember ((printWideMembers indent members).map String.toList)
        (ofMembers members)
  | [], _ => .nil
  | (name, value) :: members, h => by
    refine .cons ?_ (reads_printWideMembers indent members h.2)
    rw [String.toList_append, String.toList_append, List.append_assoc]
    have hspace : Blank [' '] := fun c hc => by
      rw [List.mem_singleton.1 hc]
      rfl
    exact readsMember ((reads_printWide indent value h.1).blank hspace)

end

/-! ### Needing all of a value -/

mutual

/-- A value that is there as a whole is what is needed of it. -/
theorem strict_ofJson {depth : Nat} : ∀ j : Json, j.depth ≤ depth → (ofJson j).strict depth = .ok j
  | .null, _ => rfl
  | .bool _, _ => rfl
  | .number _, _ => rfl
  | .text _, _ => rfl
  | .array items, h => by
    rw [Json.depth] at h
    rw [ofJson, strict, if_neg (by omega), strictItems_ofItems items (by omega)]
    rfl
  | .object members, h => by
    rw [Json.depth] at h
    rw [ofJson, strict, if_neg (by omega), strictMembers_ofMembers members (by omega)]
    rfl

theorem strictItems_ofItems {depth : Nat} : ∀ items : List Json, Json.depthOfItems items ≤ depth →
    strictItems depth (ofItems items) = .ok items
  | [], _ => rfl
  | item :: items, h => by
    rw [Json.depthOfItems, Nat.max_le] at h
    rw [ofItems, strictItems, strict_ofJson item h.1, strictItems_ofItems items h.2]
    rfl

theorem strictMembers_ofMembers {depth : Nat} :
    ∀ members : List (String × Json), Json.depthOfMembers members ≤ depth →
      strictMembers depth (ofMembers members) = .ok members
  | [], _ => rfl
  | (name, value) :: members, h => by
    rw [Json.depthOfMembers, Nat.max_le] at h
    rw [ofMembers, strictMembers, strict_ofJson value h.1, strictMembers_ofMembers members h.2]
    rfl

end

/-! ### Skipping a value -/

mutual

/-- A value that is there as a whole can be skipped. -/
theorem skip_ofJson : ∀ j : Json, (ofJson j).skip = .ok ()
  | .null => rfl
  | .bool _ => rfl
  | .number _ => rfl
  | .text _ => rfl
  | .array items => by
    rw [ofJson, skip, skipItems_ofItems items]
    rfl
  | .object members => by
    rw [ofJson, skip, skipMembers_ofMembers members]
    rfl

theorem skipItems_ofItems : ∀ items : List Json, skipItems (ofItems items) = .ok ()
  | [] => rfl
  | item :: items => by
    rw [ofItems, skipItems, skip_ofJson item, skipItems_ofItems items]
    rfl

theorem skipMembers_ofMembers :
    ∀ members : List (String × Json), skipMembers (ofMembers members) = .ok ()
  | [] => rfl
  | (name, value) :: members => by
    rw [ofMembers, skipMembers, skip_ofJson value, skipMembers_ofMembers members]
    rfl

end

/-! ### Whole texts -/

theorem read_print {j : Json} (h : j.Written) : read j.print = ⟨ofJson j, false⟩ :=
  (reads_print j h).read_eq

theorem read_printWide {j : Json} (h : j.Written) (indent : Nat) :
    read (j.printWide indent) = ⟨ofJson j, false⟩ := (reads_printWide indent j h).read_eq

/-- **A value reads back from its text**, if it is not nested too deeply. -/
theorem parseJson_print {j : Json} (h : j.Written) (hdepth : j.depth ≤ depthLimit) :
    parseJson j.print = .ok j := by
  rw [parseJson, parse_eq (read_print h), strict_ofJson j hdepth]

end Draft

end ColumnChecks
