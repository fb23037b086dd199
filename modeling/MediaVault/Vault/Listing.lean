/-
What a vault tells about the objects in it: pages of a listing, and the usage
of a part. A page is taken as a whole or not at all: one key outside of the
part that was asked for spoils it.
-/
import MediaVault.Json.Reader
import MediaVault.Json.Value
import MediaVault.Text.Decimal
import MediaVault.Vault.Failure

namespace MediaVault

/-- An object in a listing. -/
structure Entry where
  key : String
  length : Nat
  deriving DecidableEq, Repr

/-- One page of a listing. -/
structure Page where
  entries : List Entry
  /-- Where the next page begins, unless this is the last one. -/
  cursor : Option String
  deriving DecidableEq, Repr

namespace Entry

/-- An entry of which some parts are still missing. -/
structure Draft where
  key : Option String := none
  length : Option Nat := none

open Json.Reader in
/-- The parts of an entry as the members of a JSON record. -/
def members : List (Member Draft) :=
  [{ name := "key", isRead := (·.key.isSome)
     read := fun d => do return { d with key := some (← text) } },
   { name := "size", isRead := (·.length.isSome)
     read := fun d => do return { d with length := some (← number Text.maxWord64) } }]

open Json.Reader in
/-- An entry of a JSON text. -/
def reader : Json.Reader Entry := do
  let d ← record members {}
  let some key := d.key | failure
  let some length := d.length | failure
  return { key, length }

/-- The entry with its key as it stands after `lead`. -/
def relativeTo? (e : Entry) (lead : String) : Option Entry :=
  if lead.toList.isPrefixOf e.key.toList then
    some { e with key := String.ofList (e.key.toList.drop lead.toList.length) }
  else none

end Entry

namespace Page

/-- Whether another page can be asked for. -/
def hasMore (p : Page) : Bool := p.cursor.isSome

/-- A page of which some parts are still missing. The cursor may be given as missing. -/
structure Draft where
  entries : Option (List Entry) := none
  cursor : Option (Option String) := none

open Json.Reader in
/-- The parts of a page as the members of a JSON record. -/
def members : List (Member Draft) :=
  [{ name := "objects", isRead := (·.entries.isSome)
     read := fun d => do return { d with entries := some (← list Entry.reader) } },
   { name := "cursor", isRead := (·.cursor.isSome)
     read := fun d => do return { d with cursor := some (← orNull text) } }]

/-- The page that a JSON text holds, with the keys as they are stored. -/
def ofJson? (text : Bytes) : Option Page := do
  let d ← Json.Reader.whole (Json.Reader.record members {}) text
  return { entries := ← d.entries, cursor := d.cursor.getD none }

/-- The first entry outside of a part of the vault. -/
def stranger? (p : Page) (lead : String) : Option Entry :=
  p.entries.find? fun e => (e.relativeTo? lead).isNone

/-- The page with its keys as they stand after `lead`, which all of them must begin with. -/
def relativeTo (p : Page) (lead : String) : Except Failure Page :=
  match p.stranger? lead with
  | some e => .error (.foreignKey e.key lead)
  | none => .ok { p with entries := p.entries.filterMap (·.relativeTo? lead) }

end Page

/-- How much a part of the vault holds. -/
structure Usage where
  bytesUsed : Nat
  objectCount : Nat
  deriving DecidableEq, Repr

namespace Usage

/-- A usage of which some parts are still missing. -/
structure Draft where
  objectCount : Option Nat := none
  bytesUsed : Option Nat := none

open Json.Reader in
/-- The parts of a usage as the members of a JSON record. -/
def members : List (Member Draft) :=
  [{ name := "numObjects", isRead := (·.objectCount.isSome)
     read := fun d => do return { d with objectCount := some (← number Text.maxWord64) } },
   { name := "bytesUsed", isRead := (·.bytesUsed.isSome)
     read := fun d => do return { d with bytesUsed := some (← number Text.maxWord64) } }]

/-- The usage that a JSON text holds. -/
def ofJson? (text : Bytes) : Option Usage := do
  let d ← Json.Reader.whole (Json.Reader.record members {}) text
  return { bytesUsed := ← d.bytesUsed, objectCount := ← d.objectCount }

/-- A usage as JSON. -/
def toJson (u : Usage) : Json :=
  .record [("bytesUsed", .number u.bytesUsed), ("numObjects", .number u.objectCount)]

end Usage

end MediaVault
