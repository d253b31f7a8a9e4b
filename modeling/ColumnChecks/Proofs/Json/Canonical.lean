import Mathlib.Data.List.Nodup
import ColumnChecks.Json.Basic

/-!
# Members of one name

Of several members with one name, the canonical form of a value keeps the last. **In the
canonical form no object has two members of one name**, however deep it stands
(`ColumnChecks.Json.distinct_canonical`), so that whether a member is looked up, counted or read
in its turn makes no difference there.
-/

namespace ColumnChecks

namespace Json

/-! ### Distinct names -/

/-- In no object of a value two members have one name. -/
inductive Distinct : Json → Prop
  | null : Distinct .null
  | bool (b : Bool) : Distinct (.bool b)
  | number (n : JsonNumber) : Distinct (.number n)
  | text (s : String) : Distinct (.text s)
  | array {items : List Json} (hitems : ∀ item ∈ items, Distinct item) : Distinct (.array items)
  | object {members : List (String × Json)} (hnames : (members.map Prod.fst).Nodup)
      (hmembers : ∀ entry ∈ members, Distinct entry.2) : Distinct (.object members)

theorem Distinct.of_mem_array {items : List Json} (h : Distinct (.array items)) :
    ∀ item ∈ items, item.Distinct := by
  rcases h with _ | _ | _ | _ | hitems | _
  exact hitems

/-- An object with distinct names has none of them twice. -/
theorem Distinct.nodup {members : List (String × Json)} (h : Distinct (.object members)) :
    (members.map Prod.fst).Nodup := by
  rcases h with _ | _ | _ | _ | _ | ⟨hnames, -⟩
  exact hnames

/-- Distinctness holds all the way down. -/
theorem Distinct.of_mem_object {members : List (String × Json)} (h : Distinct (.object members)) :
    ∀ entry ∈ members, entry.2.Distinct := by
  rcases h with _ | _ | _ | _ | _ | ⟨-, hmembers⟩
  exact hmembers

/-! ### Looking members up -/

/-- The first member of a name is the one that is found. -/
theorem member?_cons (name : String) (entry : String × Json) (members : List (String × Json)) :
    member? name (entry :: members) =
      if entry.1 = name then some entry.2 else member? name members := by
  rw [member?, List.find?_cons]
  by_cases h : entry.1 = name
  · rw [beq_iff_eq.2 h, if_pos h]
    rfl
  · rw [beq_eq_false_iff_ne.2 h, if_neg h]
    rfl

/-- What is found is a member of that name. -/
theorem mem_of_member? {name : String} {value : Json} {members : List (String × Json)}
    (h : member? name members = some value) : (name, value) ∈ members := by
  obtain ⟨entry, hfind, rfl⟩ := Option.map_eq_some_iff.1 h
  obtain rfl : entry.1 = name := by simpa using List.find?_some hfind
  exact List.mem_of_find?_eq_some hfind

theorem Distinct.of_member? {name : String} {value : Json} {members : List (String × Json)}
    (h : Distinct (.object members)) (hmember : member? name members = some value) :
    value.Distinct :=
  h.of_mem_object _ (mem_of_member? hmember)

/-! ### Members in order -/

/-- The names of members go up. -/
def Ordered (members : List (String × Json)) : Prop :=
  members.Pairwise fun entry later => compare entry.1 later.1 = .lt

/-- Members in order have distinct names. -/
theorem Ordered.nodup {members : List (String × Json)} (h : Ordered members) :
    (members.map Prod.fst).Nodup := by
  refine List.pairwise_map.2 (h.imp fun {entry later} hlt heq => ?_)
  rw [Std.compare_eq_iff_eq.2 heq] at hlt
  cases hlt

/-- What is in a list after a member has been put there is that member or was there before. -/
theorem mem_insertMember {name : String} {value : Json} {members : List (String × Json)}
    {entry : String × Json} (h : entry ∈ insertMember name value members) :
    entry = (name, value) ∨ entry ∈ members := by
  induction members with
  | nil => exact Or.inl (List.mem_singleton.1 h)
  | cons first members ih =>
    rw [insertMember] at h
    split at h
    · exact List.mem_cons.1 h
    · exact (List.mem_cons.1 h).imp_right (List.mem_cons_of_mem first)
    · rcases List.mem_cons.1 h with rfl | h
      · exact Or.inr List.mem_cons_self
      · exact (ih h).imp_right (List.mem_cons_of_mem first)

/-- A member is put in its place, or in the place of the one that has its name. -/
theorem Ordered.insertMember {name : String} {value : Json} {members : List (String × Json)}
    (h : Ordered members) : Ordered (insertMember name value members) := by
  induction members with
  | nil => exact List.pairwise_singleton _ _
  | cons first members ih =>
    obtain ⟨hfirst, hmembers⟩ := List.pairwise_cons.1 h
    rw [Json.insertMember]
    split
    · next hlt =>
      refine List.pairwise_cons.2 ⟨List.forall_mem_cons.2 ⟨hlt, ?_⟩, h⟩
      exact fun entry hentry => Std.TransCmp.lt_trans hlt (hfirst entry hentry)
    · next heq =>
      refine List.pairwise_cons.2 ⟨?_, hmembers⟩
      rwa [Std.LawfulEqCmp.eq_of_compare heq]
    · next hgt =>
      refine List.pairwise_cons.2 ⟨fun entry hentry => ?_, ih hmembers⟩
      rcases mem_insertMember hentry with rfl | hentry
      · exact Std.OrientedCmp.gt_iff_lt.1 hgt
      · exact hfirst entry hentry

/-! ### The canonical form -/

mutual

/-- **In the canonical form of a value no object has two members of one name.** -/
theorem distinct_canonical : ∀ value : Json, value.canonical.Distinct
  | .null => .null
  | .bool b => .bool b
  | .number n => .number n
  | .text s => .text s
  | .array items => .array (distinct_canonicalItems items)
  | .object members =>
    have h := distinct_canonicalMembers members .nil (List.forall_mem_nil _)
    .object h.1.nodup h.2

theorem distinct_canonicalItems : ∀ items : List Json, ∀ item ∈ canonicalItems items, item.Distinct
  | [] => List.forall_mem_nil _
  | item :: items =>
    List.forall_mem_cons.2 ⟨distinct_canonical item, distinct_canonicalItems items⟩

/-- Members are put in order one after another, each in its own canonical form. -/
theorem distinct_canonicalMembers {sofar : List (String × Json)} :
    ∀ members : List (String × Json), Ordered sofar → (∀ entry ∈ sofar, entry.2.Distinct) →
      Ordered (canonicalMembers sofar members) ∧
        ∀ entry ∈ canonicalMembers sofar members, entry.2.Distinct
  | [], hordered, hsofar => ⟨hordered, hsofar⟩
  | (name, value) :: members, hordered, hsofar =>
    distinct_canonicalMembers members hordered.insertMember fun entry hentry => by
      rcases mem_insertMember hentry with rfl | hentry
      · exact distinct_canonical value
      · exact hsofar entry hentry

end

end Json

end ColumnChecks
