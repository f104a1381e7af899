import IssueQuery.Match.Order

/-!
# Comparing texts

Tests on the labels of values, letter case aside.  A value that says nothing passes no test, and
nothing passes a test for the empty text.
-/

namespace IssueQuery.Match

/-- Whether an operand gives no text to look for. -/
def isBlankOperand : Value → Bool
  | .null => true
  | .string s => s.isEmpty
  | _ => false

/-- Whether the labels of a value and an operand pass a test. -/
def testLabels (test : List Char → List Char → Bool) (actual operand : Value) : Bool :=
  actual.isTruthy && !isBlankOperand operand &&
    test operand.lowerLabel.toList actual.lowerLabel.toList

/-- Whether the operand stands somewhere in the value. -/
def contains (actual operand : Value) : Bool :=
  testLabels Text.occursIn actual operand

/-- Whether the value begins with the operand. -/
def startsWith (actual operand : Value) : Bool :=
  testLabels List.isPrefixOf actual operand

/-- Whether the value ends with the operand. -/
def endsWith (actual operand : Value) : Bool :=
  testLabels List.isSuffixOf actual operand

/-- Whether each word of the operand stands somewhere in the value. -/
def hasWords (actual operand : Value) : Bool :=
  testLabels (fun sought text => (Text.words sought).all (Text.occursIn · text)) actual operand

end IssueQuery.Match
