/-!
# Dictionaries

Values by keys.  The keys stand in the order in which they were first set.
-/

namespace IssueQuery

/-- Values by keys, in the order in which the keys were first set. -/
abbrev Dictionary (α β : Type) : Type := List (α × β)

/-- Changes the value of a key.  A new key comes behind all others, with the change of `initial`. -/
def Dictionary.alter {α β : Type} [DecidableEq α] (key : α) (initial : β) (change : β → β) :
    Dictionary α β → Dictionary α β
  | [] => [(key, change initial)]
  | (k, b) :: rest =>
    if k = key then (k, change b) :: rest else (k, b) :: alter key initial change rest

/-- A list with an element behind it, unless the element is in it already. -/
def enlist {α : Type} [DecidableEq α] (as : List α) (a : α) : List α :=
  if a ∈ as then as else as ++ [a]

end IssueQuery
