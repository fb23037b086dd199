/-
The arithmetic of sealed objects. A text is cut into full segments and one
final segment that is shorter than a full one, possibly empty, and every
segment carries a tag, so the sealed length depends on the length alone. It is
announced as a number of 64 bits, before anything is sealed.
-/
import MediaVault.Bytes

namespace MediaVault

/-- A word of 64 bits holds the numbers below this one. -/
def wordBound : Nat := 0x10000000000000000

namespace Seal

/-- The octets of text in a full segment. -/
def segmentLength : Nat := 65536

/-- The octets of a tag. -/
def tagLength : Nat := 16

/-- The octets of a sealed full segment. -/
def sealedSegmentLength : Nat := segmentLength + tagLength

/-- The octets of a key. -/
def keyLength : Nat := 32

/-- The octets of an object's own part of the nonces. -/
def leadLength : Nat := 8

/-- The segments of a text of `n` octets, the final one included. -/
def segmentCount (n : Nat) : Nat := n / segmentLength + 1

/-- The octets of a sealed text of `n` octets. -/
def sealedLength (n : Nat) : Nat := n + segmentCount n * tagLength

/-- The sealed length as it is announced: what a word does not hold of it is lost. -/
def announcedLength (n : Nat) : Nat := sealedLength n % wordBound

end Seal

end MediaVault
