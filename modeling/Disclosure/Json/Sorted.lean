import Disclosure.Json.Text

/-!
# Sorted keys

A value with the keys of every object in increasing order of their code points. The compact text
of a sorted value is canonical: values that differ only in the order of keys share it.
-/

namespace Disclosure

namespace Json

mutual

/-- Sort the keys of every object in a value. -/
def sorted : Json → Json
  | .arr items => .arr (sortItems items)
  | .obj members => .obj ((sortMembers members).mergeSort fun a b => decide (a.1 ≤ b.1))
  | v => v

/-- Sort the keys inside every item. -/
def sortItems : List Json → List Json
  | [] => []
  | v :: vs => v.sorted :: sortItems vs

/-- Sort the keys inside the value of every member. -/
def sortMembers : List (String × Json) → List (String × Json)
  | [] => []
  | (k, v) :: ms => (k, v.sorted) :: sortMembers ms

end

end Json

end Disclosure
