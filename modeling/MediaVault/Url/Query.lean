/-
Queries made of names and values. Letters, digits and four signs stand for
themselves, a blank is a plus sign, and every other octet has a percent form,
so no value can be taken for the end of one.
-/
import MediaVault.Url.Basic

namespace MediaVault.Url

/-- One octet of a name or value. -/
def formOctet (x : UInt8) : List Char :=
  let c := Char.ofNat x.toNat
  if x < 0x80 ∧ (c.isAlphanum ∨ c ∈ ['*', '-', '.', '_']) then [c]
  else if x = 0x20 then ['+']
  else Percent.escape x

/-- A name or value as it stands in a query. -/
def formText (s : String) : String := String.ofList ((Bytes.ofText s).flatMap formOctet)

/-- Names and values put together. -/
def formPairs (pairs : List (String × String)) : String :=
  "&".intercalate (pairs.map fun (name, value) => formText name ++ "=" ++ formText value)

/-- The address with names and values put after what its query holds already. -/
def addQuery (u : Url) (pairs : List (String × String)) : Url :=
  let own := u.query.getD ""
  let all := if own = "" then formPairs pairs else own ++ "&" ++ formPairs pairs
  { u with query := if all = "" then none else some all }

end MediaVault.Url
