/-
Header fields. A name is a token and counts in lower case, so two spellings of
one name are one field; a value may hold anything but controls, of which only
the tab is allowed.
-/

namespace MediaVault

namespace HeaderName

/-- Whether a character may stand in a field name. -/
def isTokenChar (c : Char) : Bool := c.isAlphanum || "!#$%&'*+-.^_\x60|~".toList.contains c

/-- The greatest length of a field name. -/
def maxLength : Nat := 65535

/-- The field name that a text stands for. -/
def read? (s : String) : Option String :=
  if s ≠ "" ∧ s.toList.all isTokenChar ∧ s.length ≤ maxLength then
    some (String.ofList (s.toList.map Char.toLower))
  else none

end HeaderName

/-- Whether a text may be the value of a field. -/
def isHeaderValue (s : String) : Bool :=
  s.toList.all fun c => c = '\t' || (0x20 ≤ c.toNat && c.toNat ≠ 0x7f)

/-- Fields with distinct names in lower case. -/
abbrev Headers := List (String × String)

namespace Headers

/-- The value of a field. -/
def get? (h : Headers) (name : String) : Option String := (h.find? (·.1 = name)).map (·.2)

/-- The fields with one of them set. -/
def insert (h : Headers) (name value : String) : Headers :=
  h.filter (·.1 ≠ name) ++ [(name, value)]

/-- The fields with one of them set unless it is there. -/
def insertNew (h : Headers) (name value : String) : Headers :=
  if (h.get? name).isSome then h else h.insert name value

end Headers

end MediaVault
