import IssueQuery.Http.Message

/-!
# Forms of requests

A client leaves it to others how its requests are written: where a path lies below the address of a
service, which texts a value is sent as, and what a header can hold.  All that it relies on is that
a natural number is sent by its digits and that a header can hold ASCII characters.
-/

namespace IssueQuery.Http

/-- How requests are written. -/
structure Form where
  /-- The address of a path below a written address. -/
  below : String → String → Address
  /-- The texts that a value is sent as. -/
  texts : Value → List String
  /-- Whether a header can hold a text. -/
  holds : String → Bool
  texts_nat : ∀ n : Nat, texts (.nat n) = [toString n]
  holds_of_ascii : ∀ s, (∀ c ∈ s.toList, c.toNat < 128) → holds s

namespace Form

/-- Named values as they are sent. -/
def sent (f : Form) (parameters : List (String × Value)) : List (String × String) :=
  parameters.flatMap fun (name, v) => (f.texts v).map (name, ·)

/-- How requests are written if nothing else is said. -/
def usual : Form where
  below base path := (Address.read base).below path
  texts := parameterTexts
  holds s := s.toList.all fun c => c.toNat < 128
  texts_nat _ := rfl
  holds_of_ascii _ h := List.all_eq_true.mpr fun c hc => decide_eq_true (h c hc)

end Form

end IssueQuery.Http
