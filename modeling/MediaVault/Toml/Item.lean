/-
What a TOML document holds: values and tables, nested. A table remembers how
it came to be, since that decides what may still be added to it: a table with
a header of its own is complete, one that was only named on the way to another
may still get its header, one made by dotted keys grows by dotted keys, and
one in braces does not grow at all.
-/

namespace MediaVault.Toml

/-- How a table came to be. -/
inductive Origin where
  | header
  /-- Named only on the way to another table. -/
  | implied
  /-- Made by the keys of pairs. -/
  | dotted
  /-- Written in braces. -/
  | braces
  deriving DecidableEq, Repr

/-- A value or a table. -/
inductive Item where
  | text (s : String)
  | integer (n : Int)
  /-- A boolean, a fraction, a date or a time. -/
  | other
  | array (items : List Item)
  | table (origin : Origin) (entries : List (String × Item))
  /-- Tables under one header, each with the same name. -/
  | tables (each : List (List (String × Item)))

/-- The entries of a table. -/
abbrev Entries := List (String × Item)

namespace Entries

/-- The item of a name. -/
def get? (entries : Entries) (name : String) : Option Item :=
  (entries.find? (·.1 = name)).map (·.2)

/-- The entries with one of them set. -/
def set (entries : Entries) (name : String) (item : Item) : Entries :=
  entries.filter (·.1 ≠ name) ++ [(name, item)]

/-- The entries changed in the table at the end of a path, which is made where it is missing. Pairs
with dotted keys do not reach into complete tables. -/
def update (dotted : Bool) (change : Origin → Entries → Option Entries) :
    List String → Origin → Entries → Option Entries
  | [], origin, entries => change origin entries
  | name :: path, _, entries =>
    match get? entries name with
    | none => do
      let made := if dotted then Origin.dotted else .implied
      return set entries name (.table made (← update dotted change path made []))
    | some (.table origin inner) =>
      if origin = .braces ∨ (dotted ∧ origin = .header) then none
      else do return set entries name (.table origin (← update dotted change path origin inner))
    | some (.tables each) => do
      let last ← each.getLast?
      return set entries name (.tables (each.dropLast ++ [← update dotted change path .header last]))
    | some _ => none

/-- One more pair, whose name must be new in its table. -/
def addPair (closing : Origin) (entries : Entries) (path : List String) (name : String)
    (item : Item) : Option Entries :=
  update true (fun origin inner =>
    if decide (origin = .dotted) = path.isEmpty ∨ (get? inner name).isSome then none
    else some (set inner name item)) path closing entries

/-- One more table with a header, filled by `fill`. -/
def addTable (fill : Entries → Option Entries) (entries : Entries) (path : List String)
    (name : String) : Option Entries :=
  update false (fun _ inner =>
    match get? inner name with
    | none => do return set inner name (.table .header (← fill []))
    | some (.table .implied own) => do return set inner name (.table .header (← fill own))
    | some _ => none) path .header entries

/-- One more of several tables under one header, filled by `fill`. -/
def addNext (fill : Entries → Option Entries) (entries : Entries) (path : List String)
    (name : String) : Option Entries :=
  update false (fun _ inner =>
    match get? inner name with
    | none => do return set inner name (.tables [← fill []])
    | some (.tables each) => do return set inner name (.tables (each ++ [← fill []]))
    | some _ => none) path .header entries

end Entries

end MediaVault.Toml
