/-
What is measured: how long every operation took, and which statuses the
storage manager answered with.
-/

namespace MediaVault

/-- An operation that is measured. -/
inductive Operation where
  | copy
  | list
  | usage
  deriving DecidableEq, Repr

/-- The word for an operation. -/
def Operation.text : Operation → String
  | copy => "copy"
  | list => "list"
  | usage => "usage"

/-- One thing that was recorded. -/
inductive Mark where
  /-- An operation has ended and its time was taken. -/
  | duration (op : Operation)
  /-- An operation was answered with a status. -/
  | status (op : Operation) (status : Nat)
  deriving DecidableEq, Repr

namespace Metrics

/-- The name of the times taken. -/
def timerName : String := "cdn3_storage_manager_duration_seconds"

/-- The name of the statuses counted. -/
def counterName : String := "cdn3_storage_manager_status_total"

/-- The label that says which operation it was. -/
def operationTag : String := "op"

/-- The label that says which status it was. -/
def statusTag : String := "status"

/-- A metric as it is described to whoever collects it. -/
structure Description where
  name : String
  unit : String
  text : String

/-- The description of the times taken. -/
def timer : Description :=
  ⟨timerName, "seconds", "Wall-clock duration of cdn3 storage operations"⟩

/-- The description of the statuses counted. -/
def counter : Description :=
  ⟨counterName, "count", "Storage manager responses by operation and HTTP status"⟩

/-- How many times were taken of an operation. -/
def samples (marks : List Mark) (op : Operation) : Nat := marks.count (.duration op)

/-- How often an operation was answered with a status. -/
def replies (marks : List Mark) (op : Operation) (status : Nat) : Nat :=
  marks.count (.status op status)

end Metrics

end MediaVault
