/-!
# Lone surrogates

A text may hold halves of a surrogate pair that stand alone.  They are no characters, so the last
characters of all stand in for them, which are for private use and in no record.  A text with such
halves can be compared and shown, but not be encoded.
-/

namespace IssueQuery.Text

/-- The first character that stands in for a surrogate. -/
def firstStandIn : Nat := 0x10F800

/-- The character that stands in for the lone surrogate `n`. -/
def standIn (n : Nat) : Char :=
  Char.ofNat (firstStandIn + (n - 0xD800))

/-- The lone surrogate that a character stands in for. -/
def surrogate? (c : Char) : Option Nat :=
  if firstStandIn ≤ c.toNat then some (0xD800 + (c.toNat - firstStandIn)) else none

theorem surrogate?_standIn {n : Nat} (hlow : 0xD800 ≤ n) (hhigh : n ≤ 0xDFFF) :
    surrogate? (standIn n) = some n := by
  have hvalid : (firstStandIn + (n - 0xD800)).isValidChar := by
    unfold firstStandIn Nat.isValidChar
    omega
  have htoNat : (standIn n).toNat = firstStandIn + (n - 0xD800) := by
    rw [standIn, Char.ofNat, dif_pos hvalid]
    rfl
  have hsame : 0xD800 + (firstStandIn + (n - 0xD800) - firstStandIn) = n := by omega
  rw [surrogate?, htoNat, if_pos (Nat.le_add_right firstStandIn (n - 0xD800)), hsame]

/-- Whether a text can be encoded: it has no lone surrogate. -/
def isEncodable (s : String) : Bool :=
  s.toList.all fun c => (surrogate? c).isNone

end IssueQuery.Text
