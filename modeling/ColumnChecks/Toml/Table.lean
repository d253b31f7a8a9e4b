import ColumnChecks.Decimal.Basic

/-!
# TOML values and tables

A table remembers how it came to be, because that decides who may still add to
it. A table with a header of its own, or written inline, is complete: no second
header and no dotted key may open it again. A table that was only implied by the
header of a table inside it may be given a header later, and one that was made by
dotted keys may be given further members by dotted keys.
-/

namespace ColumnChecks

/-- How a table came to be. -/
inductive TomlOrigin where
  /-- By a header of its own. -/
  | header
  /-- By the header of a table inside it. -/
  | implied
  /-- By a dotted key. -/
  | dotted
  /-- Between braces. -/
  | inBraces
  deriving DecidableEq, Repr

/-- A TOML value. -/
inductive Toml where
  | text (value : String)
  | integer (value : Int)
  | decimal (value : Decimal)
  | boolean (value : Bool)
  /-- A date, a time or both, as it is written. -/
  | moment (value : String)
  | array (items : List Toml)
  | table (origin : TomlOrigin) (members : List (String × Toml))
  /-- Tables of one name, each with a header of its own. -/
  | tables (tables : List (List (String × Toml)))
  deriving Repr, Inhabited

namespace Toml

/-- The members of a table, in the order they came in. -/
abbrev Members := List (String × Toml)

/-- The member of a name. -/
def member? (name : String) (members : Members) : Option Toml :=
  (members.find? fun entry => entry.1 == name).map (·.2)

/-- Put a value in the place of the member of a name. -/
def replace (name : String) (value : Toml) (members : Members) : Members :=
  members.map fun entry => if entry.1 = name then (name, value) else entry

/-- Change the table at the end of a path, and make the tables that are not there.
Of tables of one name the last one is meant. Along dotted keys, a table with a
header cannot be entered. -/
def change (dotted : Bool) (f : TomlOrigin → Members → Option Members) :
    List String → TomlOrigin → Members → Option Members
  | [], origin, members => f origin members
  | name :: path, _, members =>
    match member? name members with
    | none => do
      let made := if dotted then TomlOrigin.dotted else .implied
      some (members ++ [(name, .table made (← change dotted f path made []))])
    | some (.table origin inner) =>
      if origin = .inBraces ∨ (dotted ∧ origin = .header) then none
      else do some (replace name (.table origin (← change dotted f path origin inner)) members)
    | some (.tables found) =>
      match found.getLast? with
      | some last => do
        let last ← change dotted f path .header last
        some (replace name (.tables (found.dropLast ++ [last])) members)
      | none => none
    | some _ => none

/-- Give a value to a dotted key, whose last name is apart. -/
def assign (path : List String) (name : String) (value : Toml) (origin : TomlOrigin)
    (members : Members) : Option Members :=
  change true (fun origin members =>
    if (origin == .dotted) == path.isEmpty || (member? name members).isSome then none
    else some (members ++ [(name, value)])) path origin members

/-- Open the table of a header, whose last name is apart. -/
def openTable (path : List String) (name : String) (members : Members) : Option Members :=
  change false (fun _ members =>
    match member? name members with
    | none => some (members ++ [(name, .table .header [])])
    | some (.table .implied inner) => some (replace name (.table .header inner) members)
    | some _ => none) path .header members

/-- Open one more of the tables of a header, whose last name is apart. -/
def openNext (path : List String) (name : String) (members : Members) : Option Members :=
  change false (fun _ members =>
    match member? name members with
    | none => some (members ++ [(name, .tables [[]])])
    | some (.tables found) => some (replace name (.tables (found ++ [[]])) members)
    | some _ => none) path .header members

end Toml

end ColumnChecks
