/-
Certificates, as far as trusting one needs their form: elements of a tag, a
length and a content, nested as a certificate nests them. What most fields say
is left to whoever uses the certificate; an extension that has to be
understood must be one of those that are.
-/
import MediaVault.Trust.Armor

namespace MediaVault.Certificate

/-! ## Elements -/

/-- The tags that a certificate is made of. -/
def boolean : UInt8 := 0x01
def integer : UInt8 := 0x02
def bitString : UInt8 := 0x03
def octetString : UInt8 := 0x04
def name : UInt8 := 0x06
def sequence : UInt8 := 0x30
def versionTag : UInt8 := 0xa0
def extensionsTag : UInt8 := 0xa3

/-- The length that contents stay below. -/
def lengthLimit : Nat := 0xffff

/-- The length at the front of some octets and what follows it. Lengths are written in the fewest
octets: one for those below 128, else one that says how many follow. -/
def length? : Bytes → Option (Nat × Bytes)
  | [] => none
  | x :: rest =>
    if x < 0x80 then some (x.toNat, rest)
    else
      let width := x.toNat - 0x80
      let digits := rest.take width
      let n := Bytes.toNatBE digits
      if width = 0 ∨ digits.length ≠ width ∨ digits.head? = some 0 ∨ n < 0x80 ∨ lengthLimit ≤ n then
        none
      else some (n, rest.drop width)

/-- Octets with the first element taken off: its tag, its content and what follows it. -/
def element? : Bytes → Option (UInt8 × Bytes × Bytes)
  | [] => none
  | tag :: rest =>
    match length? rest with
    | none => none
    | some (n, rest) => if n ≤ rest.length then some (tag, rest.take n, rest.drop n) else none

/-- What takes elements off the front of some octets. -/
abbrev Reader := StateT Bytes Option

/-- The content of the first element, which must have the given tag. -/
def expect (tag : UInt8) : Reader Bytes := do
  let (found, content, rest) ← (element? (← get) : Option (UInt8 × Bytes × Bytes))
  if found = tag then
    set rest
    return content
  else failure

/-- What is read from octets of which nothing is left over. -/
def Reader.whole? {α : Type} (r : Reader α) (b : Bytes) : Option α :=
  match r.run b with
  | some (a, []) => some a
  | _ => none

/-- What is read from the whole content of the first element. -/
def Reader.within {α : Type} (tag : UInt8) (r : Reader α) : Reader α := do
  r.whole? (← expect tag)

theorem length_le_of_length? {b rest : Bytes} {n : Nat} (h : length? b = some (n, rest)) :
    rest.length ≤ b.length := by
  cases b with
  | nil => simp [length?] at h
  | cons x b =>
    rw [length?] at h
    split at h
    · obtain ⟨_, rfl⟩ := Prod.mk.inj (Option.some.inj h)
      simp
    · dsimp only at h
      split at h
      · simp at h
      · obtain ⟨_, rfl⟩ := Prod.mk.inj (Option.some.inj h)
        simp only [List.length_drop, List.length_cons]
        omega

/-- Every element takes octets with it. -/
theorem length_lt_of_element? {b content rest : Bytes} {tag : UInt8}
    (h : element? b = some (tag, content, rest)) : rest.length < b.length := by
  cases b with
  | nil => simp [element?] at h
  | cons x b =>
    rw [element?] at h
    split at h
    · simp at h
    · rename_i n after hn
      have := length_le_of_length? hn
      split at h
      · simp only [Option.some.injEq, Prod.mk.injEq] at h
        obtain ⟨_, _, rfl⟩ := h
        simp only [List.length_drop, List.length_cons]
        omega
      · simp at h

/-- The contents of elements of one tag, side by side until nothing is left. -/
def contents? (tag : UInt8) (b : Bytes) : Option (List Bytes) :=
  if b = [] then some []
  else
    match h : element? b with
    | none => none
    | some (found, content, rest) =>
      have := length_lt_of_element? h
      if found = tag then (contents? tag rest).map (content :: ·) else none
  termination_by b.length

/-! ## Extensions -/

/-- One extension: its name, whether it must be understood, and its value. -/
structure Extension where
  name : Bytes
  critical : Bool
  value : Bytes
  deriving DecidableEq, Repr

namespace Extension

/-- A standard extension of a number. -/
def standard (n : UInt8) : Bytes := [0x55, 0x1d, n]

/-- The use of the key. -/
def keyUsage : Bytes := standard 15

/-- The extensions that are understood: the use of the key, other names, constraints on issuing,
constraints on names, where to ask for revocations, and the purposes of the key. -/
def understood : List Bytes :=
  [keyUsage, standard 17, standard 19, standard 30, standard 31, standard 37]

/-- A truth value, `false` where none is written. -/
def readCritical : Reader Bool := do
  if (← get).head? ≠ some boolean then return false
  match ← expect boolean with
  | [0xff] => return true
  | [0x00] => return false
  | _ => failure

/-- An extension in the content of its element. -/
def read : Reader Extension := do
  return ⟨← expect Certificate.name, ← readCritical, ← expect octetString⟩

/-- Whether an extension can be left as it is: it is understood and holds a sequence, or says how
the key is used, or may be passed over. -/
def isSound (e : Extension) : Bool :=
  if understood.contains e.name then
    e.name = keyUsage || ((expect sequence).whole? e.value).isSome
  else ! e.critical

/-- Whether extensions can stand together: each is sound, and none that is understood comes twice. -/
def areSound (es : List Extension) : Bool :=
  es.all isSound && ((es.map (·.name)).filter understood.contains).Nodup

end Extension

/-! ## Certificates -/

/-- The version that certificates with extensions have. -/
def version : Bytes := [integer, 1, 2]

/-- Issuer, validity, subject and public key. -/
def readNames : Reader Unit := do
  let _ ← expect sequence
  let _ ← expect sequence
  let _ ← expect sequence
  let _ ← expect sequence

/-- The part that is signed: version, serial number, algorithm, names and extensions. With a
version the algorithm is the one of the signature; without one there are no extensions. -/
def readSigned (algorithm : Bytes) : Reader Unit := do
  let versioned := (← get).head? = some versionTag
  if versioned then
    if (← expect versionTag) ≠ version then failure
  let _ ← expect integer
  let own ← expect sequence
  if versioned ∧ own ≠ algorithm then failure
  readNames
  if versioned ∧ (← get) ≠ [] then
    let content ← Reader.within extensionsTag (expect sequence)
    let extensions ← ((contents? sequence content).bind (·.mapM Extension.read.whole?) :
      Option (List Extension))
    if ! Extension.areSound extensions then failure

/-- A certificate: what is signed, the algorithm, and a signature of whole octets. -/
def read : Reader Unit :=
  Reader.within sequence do
    let signed ← expect sequence
    let algorithm ← expect sequence
    let signature ← expect bitString
    if signature.head? ≠ some 0 then failure
    (readSigned algorithm).whole? signed

/-- Whether some octets have the form of a certificate. -/
def isWellFormed (der : Bytes) : Bool := (read.whole? der).isSome

/-- The label of a block that holds a certificate. -/
def label : Bytes := Bytes.ofText "CERTIFICATE"

/-- Whether all blocks of a text can be read and those of certificates hold some. A text without
blocks is as good as none. -/
def isTrustText (text : String) : Bool :=
  (Armor.blocks? text).any fun blocks => blocks.all fun b => b.label ≠ label || isWellFormed b.content

end MediaVault.Certificate
